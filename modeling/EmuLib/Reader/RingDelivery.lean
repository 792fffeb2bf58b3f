import EmuLib.Driver.EventContiguity
import EmuLib.Reader.RingProtocol

/-!
What the reader makes of the packets: it gets to see every packet, and a call that
reports no error hands out the packets of one event as one block.
-/

namespace EmuLib.Reader

open GuardedRun RingCursor Driver List

section

variable {channel : Channel}

def polls (channel : Channel) (turns : Nat) : Channel :=
  runFrom step channel (List.replicate turns .poll)

@[simp] lemma polls_zero : polls channel 0 = channel := rfl

@[simp] lemma polls_succ (turns) : polls channel (turns + 1) = polls (poll channel) turns :=
  rfl

@[simp] lemma poll_written : (poll channel).written = channel.written := after_written _

lemma Agreed.next_seen (agreed : Agreed channel)
    (unread : channel.seen.length < channel.written.length) :
    ∃ turns, Agreed (polls channel turns) ∧
      (polls channel turns).written = channel.written ∧
      (polls channel turns).seen.length = channel.seen.length + 1 := by
  rcases agreed.turn_cases with ⟨_, timedOut⟩ | ⟨all, _⟩ | ⟨bound, took⟩
  · have quiet : (poll channel).seen = channel.seen := by
      rw [poll, timedOut, after_seen]
      simp
    have restarted : (poll channel).spy.call = none := by
      rw [poll, timedOut]
      rfl
    have agreedNow := agreed_poll agreed
    rcases agreedNow.turn_cases with ⟨late, _⟩ | ⟨all, _⟩ | ⟨bound, took⟩
    · simp [restarted, Call.fresh] at late
    · rw [quiet, poll_written] at all
      omega
    · refine ⟨2, agreed_poll agreedNow, by simp, ?_⟩
      rw [polls_succ, polls_succ, polls_zero, poll, took, after_seen, length_append]
      exact congrArg (· + 1) (congrArg List.length quiet)
  · omega
  · refine ⟨1, agreed_poll agreed, by simp, ?_⟩
    rw [polls_succ, polls_zero, poll, took, after_seen]
    simp [takeNoted]

lemma polls_add (first second) :
    polls channel (first + second) = polls (polls channel first) second := by
  simp only [polls, replicate_add, runFrom_append]

lemma Agreed.all_seen (agreed : Agreed channel) :
    ∃ turns, (polls channel turns).seen = channel.notes := by
  generalize unread : channel.written.length - channel.seen.length = rest
  induction rest generalizing channel with
  | zero =>
    refine ⟨0, agreed.seenWritten.eq_of_length ?_⟩
    have bound := agreed.seen_le
    rw [notes_length]
    omega
  | succ rest ih =>
    obtain ⟨first, agreedNow, written, seen⟩ := agreed.next_seen (by omega)
    obtain ⟨second, all⟩ := ih agreedNow (by rw [written]; omega)
    refine ⟨first + second, ?_⟩
    rw [polls_add, all, Channel.notes, Channel.notes, written]

end

section

def lengths (notes : List PacketNote) : Nat := (notes.map PacketNote.length).sum

@[simp] lemma lengths_nil : lengths [] = 0 := rfl

@[simp] lemma lengths_append (first second) :
    lengths (first ++ second) = lengths first + lengths second := by
  simp [lengths]

structure Gathered (channel : Channel) (seen : List PacketNote) (spy : Spy) (call : Call) :
    Prop where
  packets : call.packets = (seen.length - channel.delivered) % 65536
  noOverwrite : call.status.loopOverwrite = false ∧ call.status.bufferOverwrite = false
  whole : (∀ note ∈ (seen.take channel.delivered).getLast?, note.endsEvent = true) →
    call.status.packetsMissing = false → call.status.oversized = false →
      call.len = lengths (seen.drop channel.delivered) ∧ call.len ≤ maxEvent2 ∧
        (channel.delivered < seen.length →
          spy.bufData = (channel.place channel.delivered).buf)

structure Reading (channel : Channel) : Prop where
  delivered_le : channel.delivered ≤ channel.seen.length
  deliveredTo : channel.deliveredTo = channel.place channel.delivered
  betweenCalls : channel.spy.call = none → channel.delivered = channel.seen.length
  cleanStart : (∀ note ∈ channel.seen.getLast?, note.endsEvent = true) →
    channel.spy.insideEventWithMissingPackets = false
  cleanCall : (∀ note ∈ (channel.seen.take channel.delivered).getLast?, note.endsEvent = true) →
    (channel.spy.call.getD Call.fresh).status.packetsMissing = false →
      channel.spy.insideEventWithMissingPackets = false
  inside : ∀ note ∈ channel.seen.drop channel.delivered, note.endsEvent = false
  gathered : Gathered channel channel.seen channel.spy (channel.spy.call.getD Call.fresh)

variable {channel : Channel}

lemma reading_initial : Reading Channel.initial where
  delivered_le := le_rfl
  deliveredTo := rfl
  betweenCalls _ := rfl
  cleanStart _ := rfl
  cleanCall _ _ := rfl
  inside := by simp [Channel.initial]
  gathered := ⟨rfl, ⟨rfl, rfl⟩, fun _ _ _ => ⟨rfl, Nat.zero_le _, fun news => absurd news (by decide)⟩⟩

lemma gathered_fresh (seen spy) (all : channel.delivered = seen.length) :
    Gathered channel seen spy Call.fresh where
  packets := by rw [all, Nat.sub_self]; rfl
  noOverwrite := ⟨rfl, rfl⟩
  whole _ _ _ := by
    rw [all, drop_length]
    exact ⟨rfl, Nat.zero_le _, fun news => absurd news (Nat.lt_irrefl _)⟩

lemma Agreed.seen_legal (agreed : Agreed channel) :
    ∀ note ∈ channel.seen, skbExtra ≤ note.length := by
  intro note member
  obtain ⟨packet, written, rfl⟩ := mem_map.mp (agreed.seenWritten.subset member)
  rw [(agreed.legal packet written).1]
  exact Nat.le_add_left _ _

lemma count_le_lengths {notes} (legal : ∀ note ∈ notes, skbExtra ≤ note.length) :
    skbExtra * notes.length ≤ lengths notes := by
  induction notes with
  | nil => simp
  | cons note rest ih =>
    have here := legal note (by simp)
    have later := ih fun other member => legal other (by simp [member])
    simp only [lengths, map_cons, sum_cons, length_cons] at later ⊢
    rw [Nat.mul_succ]
    omega

lemma gathered_take (agreed : Agreed channel) (reading : Reading channel) (note) :
    let taken := takeNoted channel.spy (channel.spy.call.getD Call.fresh) note
    Gathered channel (channel.seen ++ [note]) taken.spy taken.call := by
  intro taken
  have order := reading.delivered_le
  have before : (channel.seen ++ [note]).take channel.delivered =
      channel.seen.take channel.delivered := take_append_of_le_length order
  have gathered := reading.gathered
  refine ⟨?_, gathered.noOverwrite, ?_⟩
  · change ((channel.spy.call.getD Call.fresh).packets + 1) % 65536 = _
    rw [gathered.packets, length_append, length_singleton]
    omega
  · rw [before, drop_append_of_le_length order]
    intro boundary noneMissing fits
    simp only [taken, takeNoted, Bool.or_eq_false_iff, decide_eq_false_iff_not] at noneMissing fits
    have clean := reading.cleanCall boundary noneMissing.1
    obtain ⟨len, lenSmall, bufData⟩ := gathered.whole boundary noneMissing.1 fits.1
    have lenNow : taken.call.len = (channel.spy.call.getD Call.fresh).len + note.length := by
      simp [taken, takeNoted, clean, noneMissing.2]
    refine ⟨?_, by rw [lenNow]; omega, fun _ => ?_⟩
    · rw [lenNow, len]
      simp [lengths]
    · change (if (channel.spy.call.getD Call.fresh).packets = 0 then channel.spy.bufPnt
        else channel.spy.bufData) = _
      rcases order.eq_or_lt with all | some
      · have none : (channel.spy.call.getD Call.fresh).packets = 0 := by
          rw [gathered.packets, all, Nat.sub_self]
        rw [if_pos none, all, ← agreed.readerPlace]
        rfl
      · have few : skbExtra * (channel.seen.drop channel.delivered).length ≤
            lengths (channel.seen.drop channel.delivered) :=
          count_le_lengths fun other member => agreed.seen_legal other (mem_of_mem_drop member)
        rw [length_drop] at few
        change 8 * (channel.seen.length - channel.delivered) ≤ _ at few
        have several : (channel.spy.call.getD Call.fresh).packets ≠ 0 := by
          rw [gathered.packets]
          have oversize : maxEvent2 = 180000 := rfl
          omega
        rw [if_neg several, bufData some]

lemma after_returns {taken} (returns : taken.returns = true) :
    channel.after taken =
      { channel with
        spy := { taken.spy with call := none }
        seen := channel.seen ++ taken.took.toList
        deliveries := channel.deliveries ++ [⟨channel.delivered,
          (channel.seen ++ taken.took.toList).length,
          result channel.hook.shared taken.spy taken.call⟩]
        delivered := (channel.seen ++ taken.took.toList).length
        deliveredTo := taken.spy.cursor } := by
  simp [Channel.after, Turn.spyAfter, returns]

lemma after_continues {taken} (continues : taken.returns = false) :
    channel.after taken =
      { channel with
        spy := { taken.spy with call := some taken.call }
        seen := channel.seen ++ taken.took.toList } := by
  simp [Channel.after, Turn.spyAfter, continues]

lemma reading_returned {taken} (agreedAfter : Agreed (channel.after taken))
    (returns : taken.returns = true)
    (clean : (∀ note ∈ (channel.seen ++ taken.took.toList).getLast?, note.endsEvent = true) →
      taken.spy.insideEventWithMissingPackets = false) : Reading (channel.after taken) := by
  have place := agreedAfter.readerPlace
  rw [after_returns returns] at place ⊢
  refine ⟨le_rfl, place, fun _ => rfl, clean, fun boundary _ => ?_, ?_, gathered_fresh _ _ rfl⟩
  · simp only [take_length] at boundary
    exact clean boundary
  · simp

lemma reading_poll (agreed : Agreed channel) (reading : Reading channel) :
    Reading (poll channel) := by
  have agreedAfter := agreed_poll agreed
  rw [poll] at agreedAfter ⊢
  rcases agreed.turn_cases with ⟨_, timedOut⟩ | ⟨_, idle⟩ | ⟨bound, took⟩
  · rw [timedOut] at agreedAfter ⊢
    refine reading_returned agreedAfter rfl ?_
    simpa using reading.cleanStart
  · rw [idle, after_continues rfl]
    have gathered := reading.gathered
    exact
      { delivered_le := by simpa using reading.delivered_le
        deliveredTo := reading.deliveredTo
        betweenCalls := by simp
        cleanStart := by simpa using reading.cleanStart
        cleanCall := by simpa using reading.cleanCall
        inside := by simpa using reading.inside
        gathered := by
          simp only [Option.toList_none, append_nil]
          exact ⟨gathered.packets, gathered.noOverwrite, gathered.whole⟩ }
  · rw [took] at agreedAfter ⊢
    have gathered := gathered_take agreed reading channel.written[channel.seen.length].note
    generalize channel.written[channel.seen.length].note = note at *
    by_cases ends : note.endsEvent = true
    · refine reading_returned agreedAfter ends fun _ => ?_
      simp [takeNoted, ends]
    · have goesOn : note.endsEvent = false := by simpa using ends
      have order := reading.delivered_le
      rw [after_continues goesOn]
      exact
        { delivered_le := by
            simp only [takeNoted, Option.toList_some, length_append]
            omega
          deliveredTo := reading.deliveredTo
          betweenCalls := by simp
          cleanStart := by simp [takeNoted, goesOn]
          cleanCall := by
            simp only [takeNoted, Option.toList_some, take_append_of_le_length order,
              Option.getD_some, Bool.or_eq_false_iff]
            intro boundary noneMissing
            simp [reading.cleanCall boundary noneMissing.1, noneMissing.2]
          inside := by
            simp only [takeNoted, Option.toList_some, drop_append_of_le_length order]
            intro other member
            rcases mem_append.mp member with member | member
            · exact reading.inside other member
            · rw [mem_singleton.mp member]
              exact goesOn
          gathered := ⟨gathered.packets, gathered.noOverwrite, gathered.whole⟩ }

lemma reading_write (agreed : Agreed channel) (reading : Reading channel) (skb) :
    Reading (write channel skb) := by
  have place : (write channel skb).place channel.delivered = channel.place channel.delivered :=
    place_write skb (reading.delivered_le.trans agreed.seen_le)
  obtain ⟨deliveredLe, deliveredTo, betweenCalls, cleanStart, cleanCall, inside, gathered⟩ := reading
  refine ⟨deliveredLe, deliveredTo.trans place.symm, betweenCalls, cleanStart, cleanCall, inside,
    gathered.packets, gathered.noOverwrite, ?_⟩
  intro boundary noneMissing fits
  obtain ⟨len, small, bufData⟩ := gathered.whole boundary noneMissing fits
  exact ⟨len, small, fun some => (bufData some).trans (congrArg Cursor.buf place.symm)⟩

end

section

def Copied (frame chunk : List UInt8) : Prop :=
  chunk.length = frame.length ∧
    chunk.take (8 * (frame.length / 8)) = frame.take (8 * (frame.length / 8))

def Concatenation (frames : List (List UInt8)) (block : List UInt8) : Prop :=
  ∃ chunks, List.Forall₂ Copied frames chunks ∧ block = chunks.flatten

def Delivery.before (delivery : Delivery) (written : List Packet) : List Packet :=
  written.take delivery.first

def Delivery.packets (delivery : Delivery) (written : List Packet) : List Packet :=
  (written.drop delivery.first).take (delivery.last - delivery.first)

def IsEvent (packets : List Packet) : Prop :=
  ∃ inner last, packets = inner ++ [last] ∧ last.note.endsEvent = true ∧
    ∀ packet ∈ inner, packet.note.endsEvent = false

/-- A call without error that starts after the end of an event delivers the next event
in one block, if the hook has not looped back inside that event. -/
def Faithful (written : List Packet) (delivery : Delivery) : Prop :=
  delivery.result.status = Status.clear →
    (∀ packet ∈ (delivery.before written).getLast?, packet.note.endsEvent = true) →
      (∀ packet ∈ (delivery.packets written).dropLast, packet.note.loopedBack = false) →
        IsEvent (delivery.packets written) ∧
          Concatenation ((delivery.packets written).map (·.skb.frame)) delivery.result.block

lemma blockAt_add (data start first second) :
    blockAt data start (first + second) =
      blockAt data start first ++ blockAt data (start + first) second := by
  simp [blockAt, range_add, Nat.add_assoc]

lemma blockAt_copied (data start frame)
    (kept : ∀ offset (inside : offset < frame.length), offset < 8 * (frame.length / 8) →
      data (start + offset) = frame[offset]) :
    Copied frame (blockAt data start frame.length) := by
  refine ⟨by simp [blockAt], ext_getElem (by simp [blockAt]) ?_⟩
  intro offset bound _
  have inside : offset < 8 * (frame.length / 8) ∧ offset < frame.length :=
    Nat.lt_min.mp (by simpa [blockAt] using bound)
  simp only [getElem_take, blockAt, getElem_map, getElem_range]
  exact kept offset inside.2 inside.1

lemma blockAt_concatenation (data start frames)
    (copied : ∀ index (bound : index < frames.length),
      Copied frames[index] (blockAt data (start + ((frames.take index).map List.length).sum)
        frames[index].length)) :
    Concatenation frames (blockAt data start (frames.map List.length).sum) := by
  induction frames generalizing start with
  | nil => exact ⟨[], List.Forall₂.nil, rfl⟩
  | cons frame rest ih =>
    have here : Copied frame (blockAt data start frame.length) := copied 0 (Nat.succ_pos _)
    obtain ⟨chunks, chunksCopied, joined⟩ := ih (start + frame.length) fun index bound => by
      have later := copied (index + 1) (Nat.succ_lt_succ bound)
      simpa [Nat.add_assoc] using later
    refine ⟨blockAt data start frame.length :: chunks, List.Forall₂.cons here chunksCopied, ?_⟩
    rw [map_cons, sum_cons, blockAt_add, joined, flatten_cons]

variable {channel : Channel}

def Kept (channel : Channel) : Prop :=
  ∀ index (bound : index < channel.written.length), channel.delivered ≤ index →
    ∀ offset, offset < 8 * (channel.written[index].note.length / 8) →
      channel.hook.shared.data ((channel.place index).buf + offset) =
        channel.written[index].skb.byte offset

lemma kept_write (agreed : Agreed channel) (reading : Reading channel) {skb} (kept : Kept channel)
    (fits : LoopCountFits channel (.packet skb))
    (unlapped : UnlappedDelivery channel (.packet skb)) : Kept (write channel skb) := by
  intro index bound undelivered offset inside
  have here : channel.place channel.written.length = cursor channel.hook := by
    rw [place_all, agreed.writerPlace]
  simp only [write, length_append, length_singleton] at bound
  rw [place_write skb (Nat.le_of_lt_succ bound)]
  by_cases old : index < channel.written.length
  · simp only [write, getElem_append_left old, netifRxHook2_data, copyPacket] at inside ⊢
    have within : WithinLap (cursor (netifRxHook2 channel.hook skb))
        (channel.place channel.delivered) := reading.deliveredTo ▸ unlapped
    have apart := (agreed.write_disjoint fits within undelivered old).2
    rw [if_neg (by omega)]
    exact kept index old undelivered offset inside
  · have last : index = channel.written.length := by omega
    subst last
    simp only [write, getElem_concat_length, netifRxHook2_data, copyPacket] at inside ⊢
    rw [here, if_pos]
    · exact congrArg skb.byte (congrArg Nat.cast (Nat.add_sub_cancel_left _ _))
    · exact ⟨Nat.le_add_right _ _, Nat.add_lt_add_left inside _⟩

lemma kept_poll (reading : Reading channel) (kept : Kept channel) : Kept (poll channel) := by
  have later : channel.delivered ≤ (poll channel).delivered := by
    rw [poll]
    by_cases returns : (turn channel.hook.shared channel.spy).returns = true
    · rw [after_returns returns, length_append]
      exact reading.delivered_le.trans (Nat.le_add_right _ _)
    · rw [after_continues (by simpa using returns)]
  intro index bound undelivered offset inside
  have held := kept index (by simpa using bound) (later.trans undelivered) offset
  simp only [poll, after_written, after_hook, after_place] at inside ⊢
  exact held inside

lemma Agreed.place_inside (agreed : Agreed channel) (first) :
    ∀ count, first + count < channel.written.length →
      (∀ index (bound : index < channel.written.length), first ≤ index → index < first + count →
        channel.written[index].note.loopedBack = false) →
      (channel.place (first + count)).buf = (channel.place first).buf +
        (((channel.written.drop first).take count).map (·.note.length)).sum := by
  intro count
  induction count with
  | zero => simp
  | succ count ih =>
    intro bound stays
    have before : first + count < channel.written.length := by omega
    have here := ih before fun index indexBound lower upper =>
      stays index indexBound lower (by omega)
    have looped := agreed.looped _ before
    rw [stays _ before (Nat.le_add_right _ _) (by omega)] at looped
    have next : (channel.place (first + count + 1)).buf =
        (channel.place (first + count)).buf + channel.written[first + count].note.length := by
      rw [place_succ _ before]
      exact congrArg Cursor.buf (if_neg (by rw [Packet.record, ← looped]; exact Bool.false_ne_true))
    have dropped : count < (channel.written.drop first).length := by
      rw [length_drop]
      omega
    rw [← Nat.add_assoc, next, here, take_succ_eq_append_getElem dropped]
    simp [Nat.add_assoc]

lemma Agreed.seen_eq (agreed : Agreed channel) {count} (bound : count ≤ channel.seen.length) :
    channel.seen.take count = (channel.written.take count).map Packet.note := by
  rw [prefix_iff_eq_take.mp agreed.seenWritten, take_take, Nat.min_eq_left bound,
    Channel.notes, map_take]

lemma Agreed.undelivered_eq (agreed : Agreed channel) :
    channel.seen.drop channel.delivered =
      ((channel.written.drop channel.delivered).take
        (channel.seen.length - channel.delivered)).map Packet.note := by
  have all := agreed.seen_eq (le_refl channel.seen.length)
  rw [take_length] at all
  conv_lhs => rw [all]
  rw [← map_drop, drop_take]

lemma frames_length (agreed : Agreed channel) {packets} (some : packets ⊆ channel.written) :
    (packets.map (·.skb.frame)).map List.length = packets.map (·.note.length) := by
  rw [map_map]
  refine map_congr_left fun packet member => ?_
  simp [(agreed.legal packet (some member)).1]

lemma faithful_take (agreed : Agreed channel) (reading : Reading channel) (kept : Kept channel)
    (bound) (ends : channel.written[channel.seen.length].note.endsEvent = true) :
    let taken := takeNoted channel.spy (channel.spy.call.getD Call.fresh)
      channel.written[channel.seen.length].note
    Faithful channel.written ⟨channel.delivered, channel.seen.length + 1,
      result channel.hook.shared taken.spy taken.call⟩ := by
  intro taken clear boundary inside
  have order := reading.delivered_le
  have gathered := gathered_take agreed reading channel.written[channel.seen.length].note
  have boundaryNotes : ∀ note ∈ ((channel.seen ++ [channel.written[channel.seen.length].note]).take
      channel.delivered).getLast?, note.endsEvent = true := by
    rw [take_append_of_le_length order, agreed.seen_eq order, getLast?_map]
    intro note member
    obtain ⟨packet, packetMember, rfl⟩ := Option.mem_map.mp member
    exact boundary packet packetMember
  obtain ⟨len, -, bufData⟩ := gathered.whole boundaryNotes
    (congrArg Status.packetsMissing clear) (congrArg Status.oversized clear)
  have start := bufData (by simp only [length_append, length_singleton]; omega)
  have count : channel.seen.length + 1 - channel.delivered =
      (channel.seen.length - channel.delivered) + 1 := by omega
  have dropped : channel.seen.length - channel.delivered <
      (channel.written.drop channel.delivered).length := by
    rw [length_drop]
    omega
  have lastHere : (channel.written.drop channel.delivered)[channel.seen.length -
      channel.delivered] = channel.written[channel.seen.length] := by
    simp [Nat.add_sub_cancel' order]
  set inner := (channel.written.drop channel.delivered).take
    (channel.seen.length - channel.delivered) with innerEq
  have packetsEq : (channel.written.drop channel.delivered).take
      (channel.seen.length + 1 - channel.delivered) =
        inner ++ [channel.written[channel.seen.length]] := by
    rw [count, take_succ_eq_append_getElem dropped, lastHere]
  simp only [Delivery.packets] at inside ⊢
  refine ⟨⟨inner, channel.written[channel.seen.length], packetsEq, ends, ?_⟩, ?_⟩
  · intro packet member
    refine reading.inside packet.note ?_
    rw [agreed.undelivered_eq]
    exact mem_map_of_mem member
  rw [packetsEq, dropLast_concat] at inside
  have total : taken.call.len =
      (((inner ++ [channel.written[channel.seen.length]]).map (·.skb.frame)).map List.length).sum := by
    rw [frames_length agreed (by
      rw [← packetsEq]
      exact List.Subset.trans (take_subset _ _) (drop_subset _ _)), len,
      drop_append_of_le_length order, agreed.undelivered_eq, lengths]
    simp [map_map, Function.comp_def, innerEq]
  change Concatenation _ (blockAt channel.hook.shared.data taken.spy.bufData taken.call.len)
  rw [start, total, packetsEq]
  refine blockAt_concatenation _ _ _ fun index indexBound => ?_
  have innerLength : inner.length = channel.seen.length - channel.delivered := by
    rw [length_take]
    omega
  have indexSeen : channel.delivered + index ≤ channel.seen.length := by
    simp only [length_map, length_append, length_singleton, innerLength] at indexBound
    omega
  have writtenBound : channel.delivered + index < channel.written.length :=
    lt_of_le_of_lt indexSeen bound
  have packetBound : index < (inner ++ [channel.written[channel.seen.length]]).length := by
    simpa using indexBound
  have packetHere : (inner ++ [channel.written[channel.seen.length]])[index] =
      channel.written[channel.delivered + index] := by
    simp only [← packetsEq, getElem_take, getElem_drop]
  have inPlace : (channel.place (channel.delivered + index)).buf =
      (channel.place channel.delivered).buf +
        ((((inner ++ [channel.written[channel.seen.length]]).map (·.skb.frame)).take
          index).map List.length).sum := by
    have subset : (inner ++ [channel.written[channel.seen.length]]).take index ⊆
        channel.written := by
      rw [← packetsEq]
      exact List.Subset.trans (take_subset _ _)
        (List.Subset.trans (take_subset _ _) (drop_subset _ _))
    rw [← map_take, frames_length agreed subset, ← packetsEq, take_take,
      Nat.min_eq_left (by omega)]
    refine agreed.place_inside _ _ writtenBound fun other otherBound lower upper => ?_
    refine inside channel.written[other] ?_
    rw [innerEq]
    have position : other - channel.delivered < channel.seen.length - channel.delivered := by omega
    refine mem_iff_getElem.mpr ⟨other - channel.delivered, ?_, ?_⟩
    · rw [innerLength]
      exact position
    · simp [Nat.add_sub_cancel' lower]
  have length := (agreed.legal _ (getElem_mem writtenBound)).1
  rw [getElem_map, packetHere, ← inPlace]
  refine blockAt_copied _ _ _ fun offset offsetInside offsetCopied => ?_
  rw [SkBuff.frame_length, ← length] at offsetCopied
  rw [SkBuff.frame_getElem]
  exact kept _ writtenBound (Nat.le_add_right _ _) offset offsetCopied

lemma Faithful.snoc {written delivery} (faithful : Faithful written delivery)
    (order : delivery.first ≤ delivery.last) (bound : delivery.last ≤ written.length) (packet) :
    Faithful (written ++ [packet]) delivery := by
  have before : delivery.before (written ++ [packet]) = delivery.before written :=
    take_append_of_le_length (order.trans bound)
  have packets : delivery.packets (written ++ [packet]) = delivery.packets written := by
    rw [Delivery.packets, drop_append_of_le_length (order.trans bound),
      take_append_of_le_length (by rw [length_drop]; omega)]
    rfl
  simpa only [Faithful, before, packets] using faithful

end

variable {channel : Channel}

structure InStep (channel : Channel) : Prop where
  agreed : Agreed channel
  reading : Reading channel
  noOverwrite : ∀ delivery ∈ channel.deliveries,
    delivery.result.status.loopOverwrite = false ∧
      delivery.result.status.bufferOverwrite = false

structure Intact (channel : Channel) : Prop where
  inStep : InStep channel
  kept : Kept channel
  faithful : ∀ delivery ∈ channel.deliveries, delivery.first ≤ delivery.last ∧
    delivery.last ≤ channel.written.length ∧ Faithful channel.written delivery

lemma inStep_initial : InStep Channel.initial :=
  ⟨agreed_initial, reading_initial, by simp [Channel.initial]⟩

lemma intact_initial : Intact Channel.initial :=
  ⟨inStep_initial, by simp [Kept, Channel.initial], by simp [Channel.initial]⟩

lemma inStep_step (channel input) (inStep : InStep channel)
    (allowed : Unlapped channel input ∧ LoopCountFits channel input) :
    InStep (step channel input) := by
  obtain ⟨agreed, reading, noOverwrite⟩ := inStep
  cases input with
  | packet skb =>
    exact ⟨agreed_write agreed allowed.1 allowed.2, reading_write agreed reading skb, noOverwrite⟩
  | poll =>
    refine ⟨agreed_poll agreed, reading_poll agreed reading, ?_⟩
    intro delivery member
    simp only [step, poll] at member
    rcases agreed.turn_cases with ⟨_, timedOut⟩ | ⟨_, idle⟩ | ⟨bound, took⟩
    · rw [timedOut] at member
      rcases mem_append.mp member with member | member
      · exact noOverwrite delivery member
      · rw [mem_singleton.mp member]
        exact reading.gathered.noOverwrite
    · rw [idle] at member
      exact noOverwrite delivery member
    · have gathered := gathered_take agreed reading channel.written[channel.seen.length].note
      rw [took] at member
      by_cases ends : channel.written[channel.seen.length].note.endsEvent = true
      · rw [after_returns ends] at member
        rcases mem_append.mp member with member | member
        · exact noOverwrite delivery member
        · rw [mem_singleton.mp member]
          exact gathered.noOverwrite
      · rw [after_continues (by simpa [takeNoted] using ends)] at member
        exact noOverwrite delivery member

lemma intact_step (channel input) (intact : Intact channel)
    (allowed : (Unlapped channel input ∧ LoopCountFits channel input) ∧
      UnlappedDelivery channel input) : Intact (step channel input) := by
  obtain ⟨⟨agreed, reading, noOverwrite⟩, kept, faithful⟩ := intact
  have inStep := inStep_step channel input ⟨agreed, reading, noOverwrite⟩ allowed.1
  cases input with
  | packet skb =>
    refine ⟨inStep, kept_write agreed reading kept allowed.1.2 allowed.2, ?_⟩
    intro delivery member
    obtain ⟨order, bound, sound⟩ := faithful delivery member
    refine ⟨order, bound.trans ?_, sound.snoc order bound _⟩
    simp [step, write]
  | poll =>
    refine ⟨inStep, kept_poll reading kept, ?_⟩
    intro delivery member
    simp only [step, poll, after_written] at member ⊢
    rcases agreed.turn_cases with ⟨_, timedOut⟩ | ⟨_, idle⟩ | ⟨bound, took⟩
    · rw [timedOut] at member
      rcases mem_append.mp member with member | member
      · exact faithful delivery member
      · rw [mem_singleton.mp member]
        refine ⟨by simpa using reading.delivered_le, by simpa using agreed.seen_le, fun clear => ?_⟩
        exact absurd (congrArg Status.timeout clear) (by simp [result, Status.clear])
    · rw [idle] at member
      exact faithful delivery member
    · rw [took] at member
      by_cases ends : channel.written[channel.seen.length].note.endsEvent = true
      · rw [after_returns ends] at member
        rcases mem_append.mp member with member | member
        · exact faithful delivery member
        · rw [mem_singleton.mp member]
          have order := reading.delivered_le
          refine ⟨?_, ?_, ?_⟩
          · simp only [takeNoted, Option.toList_some, length_append]
            omega
          · simpa [takeNoted] using Nat.succ_le_of_lt bound
          · simpa [takeNoted] using faithful_take agreed reading kept bound ends
      · rw [after_continues (by simpa [takeNoted] using ends)] at member
        exact faithful delivery member

/-- The hook and the reader stay together over every run in which the hook keeps less
than a lap ahead and its loop count fits the ring entry. -/
theorem ring_protocol (inputs : List Input)
    (unlapped : Guarded step Unlapped Channel.initial inputs)
    (loopCountFits : Guarded step LoopCountFits Channel.initial inputs) :
    let channel := runFrom step Channel.initial inputs
    channel.seen <+: channel.notes ∧
      (∀ delivery ∈ channel.deliveries, delivery.result.status.loopOverwrite = false ∧
        delivery.result.status.bufferOverwrite = false) ∧
      (∃ turns, (polls channel turns).seen = channel.notes) ∧
      (Guarded step UnlappedDelivery Channel.initial inputs →
        ∀ delivery ∈ channel.deliveries, Faithful channel.written delivery) := by
  intro channel
  have guarded := guarded_and.mpr ⟨unlapped, loopCountFits⟩
  have inStep : InStep channel := run_invariant inStep_step inStep_initial guarded
  refine ⟨inStep.agreed.seenWritten, inStep.noOverwrite, inStep.agreed.all_seen, ?_⟩
  intro undelivered delivery member
  have intact : Intact channel :=
    run_invariant intact_step intact_initial (guarded_and.mpr ⟨guarded, undelivered⟩)
  exact (intact.faithful delivery member).2.2

def counted (skb : SkBuff) (count : UInt8) : SkBuff :=
  { skb with byte := Function.update skb.byte skb.length count }

/-- A packet inside an event, a turn of the reader, the end of the event and another turn. -/
theorem ring_protocol_twoPackets :
    let inputs : List Input :=
      [.packet (blankPacket 72 false), .poll, .packet (counted (blankPacket 64 true) 1), .poll]
    let channel := runFrom step Channel.initial inputs
    channel.seen <+: channel.notes ∧
      (∀ delivery ∈ channel.deliveries, delivery.result.status.loopOverwrite = false ∧
        delivery.result.status.bufferOverwrite = false) ∧
      (∃ turns, (polls channel turns).seen = channel.notes) ∧
      (Guarded step UnlappedDelivery Channel.initial inputs →
        ∀ delivery ∈ channel.deliveries, Faithful channel.written delivery) :=
  ring_protocol [.packet (blankPacket 72 false), .poll, .packet (counted (blankPacket 64 true) 1), .poll]
    ⟨⟨by decide, by decide⟩, trivial, ⟨by decide, by decide⟩, trivial, trivial⟩
    ⟨by unfold LoopCountFits; decide, trivial, by unfold LoopCountFits; decide, trivial, trivial⟩

end EmuLib.Reader
