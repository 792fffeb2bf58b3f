import EmuLib.Reader.Spy
import Mathlib.Data.Nat.Bitwise

/-!
The driver's hook and the reader on one big buffer.  Packets and turns of the reader's
loop come in any order, as long as the hook stays less than a lap ahead of what the
reader has still to read.
-/

namespace EmuLib.Reader

open GuardedRun RingCursor Driver List Function

structure Packet where
  note : PacketNote
  skb : SkBuff

def Packet.record (packet : Packet) : Record := ⟨packet.note.length, packet.note.endsEvent⟩

/-- A finished call of `readDDU`: it took the packets from `first` up to `last`. -/
structure Delivery where
  first : Nat
  last : Nat
  result : Result

structure Channel where
  hook : EthHook
  spy : Spy
  written : List Packet
  seen : List PacketNote
  deliveries : List Delivery
  delivered : Nat
  deliveredTo : Cursor

def Channel.initial : Channel :=
  ⟨initModule2, Spy.opened, [], [], [], 0, Cursor.start⟩

inductive Input where
  | packet (skb : SkBuff)
  | poll

def noteOf (hook : EthHook) (skb : SkBuff) : PacketNote :=
  ⟨skb.length, hook.flagEevent2 && skb.endsEvent, decide (missingMask hook skb ≠ 0),
    loopsBack hook skb⟩

def write (channel : Channel) (skb : SkBuff) : Channel :=
  { channel with
    hook := netifRxHook2 channel.hook skb
    written := channel.written ++ [⟨noteOf channel.hook skb, skb⟩] }

def Channel.after (channel : Channel) (taken : Turn) : Channel :=
  let seen := channel.seen ++ taken.took.toList
  if taken.returns then
    { channel with
      spy := taken.spyAfter
      seen := seen
      deliveries := channel.deliveries ++
        [⟨channel.delivered, seen.length, result channel.hook.shared taken.spy taken.call⟩]
      delivered := seen.length
      deliveredTo := taken.spy.cursor }
  else
    { channel with
      spy := taken.spyAfter
      seen := seen }

def poll (channel : Channel) : Channel :=
  channel.after (turn channel.hook.shared channel.spy)

def step (channel : Channel) : Input → Channel
  | .packet skb => write channel skb
  | .poll => poll channel

def Unlapped (channel : Channel) : Input → Prop
  | .packet skb =>
    skb.length ≤ maxPacket2 ∧
      WithinLap (cursor (netifRxHook2 channel.hook skb)) channel.spy.cursor
  | .poll => True

def LoopCountFits (channel : Channel) : Input → Prop
  | .packet _ => channel.hook.ringLoop2 < 0x4000
  | .poll => True

/-- The packet does not take the hook a lap ahead of what has not been delivered yet. -/
def UnlappedDelivery (channel : Channel) : Input → Prop
  | .packet skb => WithinLap (cursor (netifRxHook2 channel.hook skb)) channel.deliveredTo
  | .poll => True

def Channel.records (channel : Channel) : List Record := channel.written.map Packet.record

def Channel.notes (channel : Channel) : List PacketNote :=
  channel.written.map Packet.note

def Channel.place (channel : Channel) (index : Nat) : Cursor :=
  cursorAfter layout2 (channel.records.take index)

def encode (lap : Nat) (note : PacketNote) : RingEntry :=
  ⟨lap ||| ((if note.missing then 0x8000 else 0) ||| (if note.endsEvent then 0x4000 else 0)),
    note.length⟩

section

variable {lap : Nat} (note : PacketNote)

lemma land_low (small : lap < 0x4000) : lap &&& 0x3fff = lap :=
  Nat.and_two_pow_sub_one_of_lt_two_pow (n := 14) small

lemma land_bit (bit) (high : 14 ≤ bit) (small : lap < 0x4000) : lap &&& 2 ^ bit = 0 := by
  have power : 2 ^ 14 ≤ 2 ^ bit := Nat.pow_le_pow_right (Nat.zero_lt_succ 1) high
  have below : lap < 2 ^ bit := lt_of_lt_of_le small power
  rw [Nat.and_two_pow, Nat.testBit_lt_two_pow below, Bool.toNat_false, Nat.zero_mul]

lemma encode_lap (small : lap < 0x4000) : (encode lap note).info &&& 0x3fff = lap := by
  simp only [encode, Nat.and_or_distrib_right, land_low small]
  cases note.missing <;> cases note.endsEvent <;> simp

lemma encode_missing (small : lap < 0x4000) :
    (encode lap note).info &&& 0x8000 = if note.missing then 0x8000 else 0 := by
  have bit : lap &&& 0x8000 = 0 := land_bit 15 (by decide) small
  simp only [encode, Nat.and_or_distrib_right, bit]
  cases note.missing <;> cases note.endsEvent <;> simp

lemma encode_endsEvent (small : lap < 0x4000) :
    (encode lap note).info &&& 0x4000 = if note.endsEvent then 0x4000 else 0 := by
  have bit : lap &&& 0x4000 = 0 := land_bit 14 (by decide) small
  simp only [encode, Nat.and_or_distrib_right, bit]
  cases note.missing <;> cases note.endsEvent <;> simp

lemma ringEntry_encode (hook skb) (legal : skb.length ≤ maxPacket2) :
    ringEntry hook skb = encode hook.ringLoop2 (noteOf hook skb) := by
  have short : skb.length % 65536 = skb.length :=
    Nat.mod_eq_of_lt (lt_of_le_of_lt legal (by decide))
  have mask : missingMask hook skb =
      if (noteOf hook skb).missing then 0x8000 else 0 := by
    simp only [noteOf, decide_eq_true_eq]
    unfold missingMask
    split_ifs <;> simp_all
  rw [ringEntry, encode, ← mask, short]
  rfl

end

def takeNoted (spy : Spy) (call : Call) (note : PacketNote) : Turn where
  spy := { spy with
    bufPnt := if note.loopedBack then 0 else spy.bufPnt + note.length
    ringPnt := if note.loopedBack then 0 else spy.ringPnt + 1
    ringLoop := if note.loopedBack then (spy.ringLoop + 1) % 65536 else spy.ringLoop
    bufData := if call.packets = 0 then spy.bufPnt else spy.bufData
    insideEventWithMissingPackets :=
      (spy.insideEventWithMissingPackets || note.missing) && !note.endsEvent }
  call :=
    { status := { call.status with
        endOfEventMissing := call.status.endOfEventMissing && !note.endsEvent
        packetsMissing := call.status.packetsMissing || note.missing
        oversized := call.status.oversized || decide (call.len + note.length > maxEvent2) }
      len := if spy.insideEventWithMissingPackets || note.missing then 0
        else call.len + note.length
      packets := (call.packets + 1) % 65536
      iloop := 0 }
  took := some note
  returns := note.endsEvent

lemma takePacket_encode {lap} (small : lap < 0x4000) (spy call note)
    (looped : note.loopedBack =
      layout2.loopsBack note.endsEvent (spy.bufPnt + note.length) (spy.ringPnt + 1)) :
    takePacket spy call (encode lap note) = takeNoted spy call note := by
  have length : (encode lap note).length = note.length := rfl
  have ends : decide ((encode lap note).info &&& 0x4000 = 0x4000) = note.endsEvent := by
    rw [encode_endsEvent note small]
    cases note.endsEvent <;> rfl
  have goesOn : decide ((encode lap note).info &&& 0x4000 ≠ 0x4000) = !note.endsEvent := by
    rw [encode_endsEvent note small]
    cases note.endsEvent <;> rfl
  have missing : decide ((encode lap note).info &&& 0x8000 ≠ 0) = note.missing := by
    rw [encode_missing note small]
    cases note.missing <;> rfl
  have loops : decide (((encode lap note).info &&& 0x4000 = 0x4000 ∧
        spy.bufPnt + note.length > bufEend2) ∨ spy.bufPnt + note.length > bufEnd2 ∨
          spy.ringPnt + 1 ≥ ringSize2) = note.loopedBack := by
    rw [looped, Bool.eq_iff_iff, decide_eq_true_eq, RingCursor.loopsBack_iff _, ← ends,
      decide_eq_true_eq]
    rfl
  simp only [takePacket, takeNoted, length, loops, ends, goesOn, missing]

/-- Both parties are where the packets written and seen so far have taken them, and the
ring still describes every packet that the reader has not seen. -/
structure Agreed (channel : Channel) : Prop where
  writerPlace : cursor channel.hook = cursorAfter layout2 channel.records
  readerPlace : channel.spy.cursor = channel.place channel.seen.length
  seenWritten : channel.seen <+: channel.notes
  legal : ∀ packet ∈ channel.written,
    packet.note.length = packet.skb.length ∧ packet.skb.length ≤ maxPacket2
  loopCount : channel.hook.ringLoop2 ≤ 0x4000
  tail : channel.hook.shared.tail = channel.hook.bufPnt2
  within : WithinLap (cursor channel.hook) channel.spy.cursor
  looped : ∀ index (bound : index < channel.written.length),
    channel.written[index].note.loopedBack =
      layout2.loopsBack channel.written[index].note.endsEvent
        ((channel.place index).buf + channel.written[index].note.length)
        ((channel.place index).ring + 1)
  entries : ∀ index (bound : index < channel.written.length), channel.seen.length ≤ index →
    (channel.place index).lap < 0x4000 ∧
      channel.hook.shared.ring (channel.place index).ring =
        encode (channel.place index).lap channel.written[index].note
  firstEntry : (channel.hook.shared.ring 0).info &&& 0x3fff =
    if channel.hook.ringPnt2 = 0 then channel.hook.ringLoop2 - 1 else channel.hook.ringLoop2

lemma agreed_initial : Agreed Channel.initial where
  writerPlace := rfl
  readerPlace := rfl
  seenWritten := nil_prefix
  legal := by simp [Channel.initial]
  loopCount := Nat.zero_le _
  tail := rfl
  within := Or.inl rfl
  looped := by simp [Channel.initial]
  entries := by simp [Channel.initial]
  firstEntry := rfl

variable {channel : Channel}

@[simp] lemma records_length : channel.records.length = channel.written.length := by
  simp [Channel.records]

@[simp] lemma notes_length : channel.notes.length = channel.written.length := by
  simp [Channel.notes]

lemma records_getElem (index : Nat) (bound recorded) :
    channel.records[index] = channel.written[index].record := by
  simp [Channel.records]

lemma place_all : channel.place channel.written.length = cursorAfter layout2 channel.records := by
  rw [Channel.place, ← records_length, take_length]

lemma place_succ (index bound) :
    channel.place (index + 1) =
      advance layout2 (channel.place index) channel.written[index].record := by
  rw [Channel.place, cursorAfter_take_succ _ _ (by simpa using bound), records_getElem _ bound _]
  rfl

lemma records_write (skb) :
    (write channel skb).records = channel.records ++ [record channel.hook skb] := by
  simp [write, Channel.records, Packet.record, noteOf, record]

lemma notes_write (skb) :
    (write channel skb).notes = channel.notes ++ [noteOf channel.hook skb] := by
  simp [write, Channel.notes]

lemma place_write (skb) {index} (bound : index ≤ channel.written.length) :
    (write channel skb).place index = channel.place index := by
  rw [Channel.place, records_write, take_append_of_le_length (by simpa using bound)]
  rfl

lemma Agreed.seen_le (agreed : Agreed channel) :
    channel.seen.length ≤ channel.written.length := by
  simpa using agreed.seenWritten.length_le

lemma Agreed.write_disjoint (agreed : Agreed channel) {skb}
    (fits : LoopCountFits channel (.packet skb)) {reader index}
    (within : WithinLap (cursor (netifRxHook2 channel.hook skb)) (channel.place reader))
    (order : reader ≤ index) (bound) :
    channel.hook.ringPnt2 ≠ (channel.place index).ring ∧
      (channel.hook.bufPnt2 + skb.length ≤ (channel.place index).buf ∨
        (channel.place index).buf + channel.written[index].note.length ≤
          channel.hook.bufPnt2) := by
  have counts : channel.hook.ringLoop2 + 1 < 65536 := by
    have : channel.hook.ringLoop2 < 0x4000 := fits
    omega
  rw [netifRxHook2_cursor _ _ counts, agreed.writerPlace] at within
  have disjoint := next_disjoint layout2 (record channel.hook skb) order (by simpa using bound) within
  rw [← agreed.writerPlace, records_getElem index bound _] at disjoint
  exact disjoint

lemma agreed_write (agreed : Agreed channel) {skb} (allowed : Unlapped channel (.packet skb))
    (fits : LoopCountFits channel (.packet skb)) : Agreed (write channel skb) := by
  obtain ⟨legal, within⟩ := allowed
  have lapSmall : channel.hook.ringLoop2 < 0x4000 := fits
  have counts : channel.hook.ringLoop2 + 1 < 65536 := by omega
  have cursorStep := netifRxHook2_cursor channel.hook skb counts
  have here : channel.place channel.written.length = cursor channel.hook := by
    rw [place_all, agreed.writerPlace]
  have entryHere := ringEntry_encode channel.hook skb legal
  refine
    { writerPlace := ?_, readerPlace := ?_, seenWritten := ?_, legal := ?_, loopCount := ?_,
      tail := netifRxHook2_tail _ _, within := within, looped := ?_, entries := ?_,
      firstEntry := ?_ }
  · rw [records_write, cursorAfter_snoc, ← agreed.writerPlace]
    exact cursorStep
  · exact agreed.readerPlace.trans (place_write skb agreed.seen_le).symm
  · rw [notes_write]
    exact agreed.seenWritten.trans (prefix_append _ _)
  · intro packet member
    rcases mem_append.mp member with member | member
    · exact agreed.legal packet member
    · rw [mem_singleton.mp member]
      exact ⟨rfl, legal⟩
  · have lap : (netifRxHook2 channel.hook skb).ringLoop2 =
        (advance layout2 (cursor channel.hook) (record channel.hook skb)).lap := by
      rw [← cursorStep]
      rfl
    change (netifRxHook2 channel.hook skb).ringLoop2 ≤ 0x4000
    rw [lap]
    rcases advance_cases layout2 (cursor channel.hook) (record channel.hook skb) with looped | moved
    · rw [looped]
      exact lapSmall
    · rw [moved]
      exact agreed.loopCount
  · intro index bound
    rw [place_write skb (by simpa [write] using Nat.le_of_lt_succ (by simpa [write] using bound))]
    by_cases old : index < channel.written.length
    · simp only [write, getElem_append_left old]
      exact agreed.looped index old
    · have last : index = channel.written.length := by
        simp only [write, length_append, length_singleton] at bound
        omega
      subst last
      simp only [write, getElem_concat_length, here]
      rfl
  · intro index bound unseen
    rw [place_write skb (by simpa [write] using Nat.le_of_lt_succ (by simpa [write] using bound))]
    by_cases old : index < channel.written.length
    · have untouched := (agreed.write_disjoint fits (agreed.readerPlace ▸ within) unseen
        old).1
      simp only [write, getElem_append_left old, netifRxHook2_ring, update_of_ne untouched.symm]
      exact agreed.entries index old unseen
    · have last : index = channel.written.length := by
        simp only [write, length_append, length_singleton] at bound
        omega
      subst last
      simp only [write, getElem_concat_length, here, netifRxHook2_ring]
      exact ⟨lapSmall, (update_self _ _ _).trans entryHere⟩
  · have decoded : (ringEntry channel.hook skb).info &&& 0x3fff = channel.hook.ringLoop2 := by
      rw [entryHere]
      exact encode_lap _ lapSmall
    have first : ((netifRxHook2 channel.hook skb).shared.ring 0).info &&& 0x3fff =
        channel.hook.ringLoop2 := by
      rw [netifRxHook2_ring]
      by_cases atFirst : channel.hook.ringPnt2 = 0
      · rw [atFirst]
        exact decoded
      · rw [update_of_ne (Ne.symm atFirst), agreed.firstEntry, if_neg atFirst]
    change ((netifRxHook2 channel.hook skb).shared.ring 0).info &&& 0x3fff = _
    rw [first, write, netifRxHook2_cases]
    have loop : (channel.hook.ringLoop2 + 1) % 65536 = channel.hook.ringLoop2 + 1 :=
      Nat.mod_eq_of_lt counts
    by_cases loops : loopsBack channel.hook skb = true
    · simp [loops, loop]
    · simp [loops]

lemma Agreed.length_pos (agreed : Agreed channel) :
    ∀ packet ∈ channel.written, 0 < packet.note.length := by
  intro packet member
  rw [(agreed.legal packet member).1]
  exact Nat.succ_pos _

lemma Agreed.turn_cases (agreed : Agreed channel) :
    let call := channel.spy.call.getD Call.fresh
    (call.iloop > 20000 ∧ turn channel.hook.shared channel.spy =
        ⟨channel.spy, { call with status := { call.status with timeout := true } }, none, true⟩) ∨
      (channel.seen.length = channel.written.length ∧ turn channel.hook.shared channel.spy =
        ⟨channel.spy, { call with iloop := call.iloop + 1 }, none, false⟩) ∨
      ∃ bound : channel.seen.length < channel.written.length,
        turn channel.hook.shared channel.spy =
          takeNoted channel.spy call channel.written[channel.seen.length].note := by
  intro call
  by_cases late : call.iloop > 20000
  · exact .inl ⟨late, readDDUTurn_timeout _ _ _ late⟩
  have waits : call.iloop ≤ 20000 := Nat.not_lt.mp late
  have tail : channel.hook.shared.tail = (cursor channel.hook).buf := agreed.tail
  rcases agreed.seen_le.eq_or_lt with all | unread
  · have same : channel.spy.cursor = cursor channel.hook := by
      rw [agreed.readerPlace, all, place_all, agreed.writerPlace]
    have nothing : channel.spy.bufPnt = channel.hook.shared.tail := by
      rw [tail, ← same]
      rfl
    exact .inr (Or.inl ⟨all, readDDUTurn_idle _ _ _ waits nothing⟩)
  refine .inr (Or.inr ⟨unread, ?_⟩)
  have unreadRecord : channel.seen.length < channel.records.length := by simpa using unread
  have within := agreed.within
  have reader := agreed.readerPlace
  obtain ⟨lapSmall, entry⟩ := agreed.entries _ unread le_rfl
  have looped := agreed.looped _ unread
  rw [← reader] at lapSmall entry looped
  have positive : ∀ record ∈ channel.records, 0 < record.length := by
    intro record member
    obtain ⟨packet, packetMember, rfl⟩ := mem_map.mp member
    exact agreed.length_pos packet packetMember
  have news : channel.spy.bufPnt ≠ channel.hook.shared.tail := by
    rw [reader, agreed.writerPlace] at within
    have apart := buf_ne_of_unread positive unreadRecord within
    rw [← agreed.writerPlace] at apart
    change _ ≠ (channel.place channel.seen.length).buf at apart
    rw [← reader] at apart
    rw [tail]
    exact apart.symm
  have notLapped : (channel.hook.shared.ring 0).info &&& 0x3fff = channel.spy.ringLoop ∨
      ((channel.hook.shared.ring 0).info &&& 0x3fff = channel.spy.ringLoop + 1 ∧
        channel.hook.shared.tail < channel.spy.bufPnt) := by
    rw [agreed.firstEntry, tail]
    rcases within with same | ⟨ahead, bufBehind, _⟩
    · have started : 0 < channel.hook.ringPnt2 := by
        have sameLap := same
        rw [reader, agreed.writerPlace] at sameLap
        have positive := ring_pos_of_unread unreadRecord sameLap
        rw [← agreed.writerPlace] at positive
        exact positive
      rw [if_neg (by omega)]
      exact .inl same
    · simp only [cursor, Spy.cursor] at ahead bufBehind
      split
      · exact .inl (by omega)
      · exact .inr ⟨ahead, bufBehind⟩
  have sameLoop : (channel.hook.shared.ring channel.spy.ringPnt).info &&& 0x3fff =
      channel.spy.ringLoop := by
    have decoded := congrArg RingEntry.info entry
    exact (congrArg (· &&& 0x3fff) decoded).trans (encode_lap _ lapSmall)
  rw [turn, readDDUTurn_take _ _ _ waits news notLapped sameLoop]
  exact (congrArg _ entry).trans (takePacket_encode lapSmall _ _ _ looped)

lemma after_hook (taken) : (channel.after taken).hook = channel.hook := by
  unfold Channel.after
  split <;> rfl

lemma after_written (taken) : (channel.after taken).written = channel.written := by
  unfold Channel.after
  split <;> rfl

lemma after_seen (taken) : (channel.after taken).seen = channel.seen ++ taken.took.toList := by
  unfold Channel.after
  split <;> rfl

lemma after_place (taken) : (channel.after taken).place = channel.place := by
  funext index
  simp only [Channel.place, Channel.records, after_written]

lemma after_cursor (taken) : (channel.after taken).spy.cursor = taken.spy.cursor := by
  unfold Channel.after
  split <;> rfl

lemma takeNoted_cursor (spy call note)
    (counts : spy.ringLoop + 1 < 65536)
    (looped : note.loopedBack =
      layout2.loopsBack note.endsEvent (spy.bufPnt + note.length) (spy.ringPnt + 1)) :
    (takeNoted spy call note).spy.cursor =
      advance layout2 spy.cursor ⟨note.length, note.endsEvent⟩ := by
  have loop : (spy.ringLoop + 1) % 65536 = spy.ringLoop + 1 := Nat.mod_eq_of_lt counts
  have rule : layout2.loopsBack note.endsEvent (spy.cursor.buf + note.length)
      (spy.cursor.ring + 1) = note.loopedBack := looped.symm
  rw [advance, rule]
  by_cases loops : note.loopedBack = true <;> simp [takeNoted, Spy.cursor, loops, loop]

lemma Agreed.after_quiet (agreed : Agreed channel) {taken} (quiet : taken.took = none)
    (still : taken.spy = channel.spy) : Agreed (channel.after taken) := by
  have seen : (channel.after taken).seen = channel.seen := by simp [after_seen, quiet]
  have reader : (channel.after taken).spy.cursor = channel.spy.cursor := by
    rw [after_cursor, still]
  have place := @after_place channel taken
  obtain ⟨writerPlace, readerPlace, seenWritten, legal, loopCount, tail, within, looped, entries,
    firstEntry⟩ := agreed
  constructor <;>
    simpa only [after_hook, after_written, seen, reader, place, Channel.records, Channel.notes]

lemma Agreed.after_take (agreed : Agreed channel) (bound call) :
    Agreed (channel.after
      (takeNoted channel.spy call channel.written[channel.seen.length].note)) := by
  have lapSmall := (agreed.entries _ bound le_rfl).1
  have looped := agreed.looped _ bound
  have next := place_succ _ bound
  rw [← agreed.readerPlace] at lapSmall looped next
  have counts : channel.spy.ringLoop + 1 < 65536 := by
    have : channel.spy.ringLoop < 0x4000 := lapSmall
    omega
  have moved := takeNoted_cursor channel.spy call _ counts looped
  set taken := takeNoted channel.spy call channel.written[channel.seen.length].note
  have seen : (channel.after taken).seen =
      channel.seen ++ [channel.written[channel.seen.length].note] := by
    rw [after_seen]
    rfl
  have place := @after_place channel taken
  have reader : (channel.after taken).spy.cursor = channel.place (channel.seen.length + 1) := by
    rw [after_cursor, moved, next]
    rfl
  have seenAll : channel.seen = channel.notes.take channel.seen.length :=
    prefix_iff_eq_take.mp agreed.seenWritten
  refine
    { writerPlace := ?_, readerPlace := ?_, seenWritten := ?_, legal := ?_, loopCount := ?_,
      tail := ?_, within := ?_, looped := ?_, entries := ?_, firstEntry := ?_ } <;>
    simp only [after_hook, after_written, seen, place, reader, Channel.records, Channel.notes,
      length_append, length_singleton]
  · exact agreed.writerPlace
  · have noted : channel.seen.length < channel.notes.length := by simpa using bound
    have noteHere : channel.written[channel.seen.length].note = channel.notes[channel.seen.length] := by
      simp [Channel.notes]
    have upTo : channel.seen ++ [channel.written[channel.seen.length].note] =
        channel.notes.take (channel.seen.length + 1) := by
      rw [take_succ_eq_append_getElem noted, ← seenAll, noteHere]
    rw [upTo]
    exact take_prefix _ _
  · exact agreed.legal
  · exact agreed.loopCount
  · exact agreed.tail
  · have within := agreed.within
    rw [agreed.readerPlace, agreed.writerPlace] at within
    rw [agreed.writerPlace]
    refine withinLap_later (Nat.le_succ _) (by rw [records_length]; exact bound) ?_ within
    rw [← place_all]
    exact lap_le_later _ _ bound
  · exact agreed.looped
  · intro index indexBound unseen
    exact agreed.entries index indexBound (by omega)
  · exact agreed.firstEntry

lemma agreed_poll (agreed : Agreed channel) : Agreed (poll channel) := by
  rw [poll]
  rcases agreed.turn_cases with ⟨_, timedOut⟩ | ⟨_, idle⟩ | ⟨bound, took⟩
  · rw [timedOut]
    exact agreed.after_quiet rfl rfl
  · rw [idle]
    exact agreed.after_quiet rfl rfl
  · rw [took]
    exact agreed.after_take bound _

end EmuLib.Reader
