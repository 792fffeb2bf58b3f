import EmuLib.Reader.RingDelivery

/-!
Where the two parties drift apart: a call that gives up inside an event, the bytes that
the hook does not copy, and the loop count that outgrows its fourteen bits.
-/

namespace EmuLib.Reader

open GuardedRun RingCursor Driver

def sinceEndOfEvent (packets : List Packet) : List Packet :=
  let backward := packets.reverse
  (backward.take 1 ++ (backward.drop 1).takeWhile fun packet => !packet.note.endsEvent).reverse

/-- Every call without error returns the packets written since the previous end of event. -/
def ReturnsWholeEvents (channel : Channel) : Prop :=
  ∀ delivery ∈ channel.deliveries, delivery.result.status = Status.clear →
    delivery.result.block =
      ((sinceEndOfEvent (channel.written.take delivery.last)).map (·.skb.frame)).flatten

def Channel.waiting (channel : Channel) (call : Call) : Channel :=
  { channel with spy.call := some call }

variable {channel : Channel}

lemma idle_polls (call turns)
    (nothing : channel.spy.bufPnt = channel.hook.shared.tail) (waits : call.iloop + turns ≤ 20001) :
    polls (channel.waiting call) turns =
      channel.waiting { call with iloop := call.iloop + turns } := by
  induction turns generalizing call with
  | zero => rfl
  | succ turns ih =>
    have idle : poll (channel.waiting call) =
        channel.waiting { call with iloop := call.iloop + 1 } := by
      have taken : turn (channel.waiting call).hook.shared (channel.waiting call).spy =
          ⟨(channel.waiting call).spy, { call with iloop := call.iloop + 1 }, none, false⟩ :=
        readDDUTurn_idle _ _ call (by omega) nothing
      rw [poll, taken, after_continues rfl]
      simp [Channel.waiting]
    rw [polls_succ, idle, ih _ (by simp only; omega), Nat.add_assoc, Nat.add_comm 1 turns]

def firstTaken : Channel :=
  runFrom step Channel.initial [.packet (blankPacket 72 false), .poll]

def interrupted (turns : Nat) : Channel :=
  runFrom step (firstTaken.waiting { firstTaken.spy.call.getD Call.fresh with iloop := turns })
    [.poll, .packet (counted (blankPacket 64 true) 1), .poll]

def interruption (turns : Nat) : List Input :=
  [.packet (blankPacket 72 false), .poll] ++ List.replicate turns .poll ++
    [.poll, .packet (counted (blankPacket 64 true) 1), .poll]

lemma idle_firstTaken (turns) (waits : turns ≤ 20001) : polls firstTaken turns =
    firstTaken.waiting { firstTaken.spy.call.getD Call.fresh with iloop := turns } := by
  have fresh : (firstTaken.spy.call.getD Call.fresh).iloop = 0 := by decide
  have later := @idle_polls firstTaken (firstTaken.spy.call.getD Call.fresh) turns
    (by decide) (by omega)
  rwa [fresh, Nat.zero_add] at later

lemma interrupted_run (turns) (waits : turns ≤ 20001) :
    runFrom step Channel.initial (interruption turns) = interrupted turns := by
  rw [interruption, runFrom_append, interrupted, ← idle_firstTaken turns waits]
  rfl

lemma guarded_interruption (guard turns) (waits : turns ≤ 20001)
    (free : ∀ channel, guard channel .poll)
    (first : guard Channel.initial (.packet (blankPacket 72 false)))
    (second : guard (poll (firstTaken.waiting
      { firstTaken.spy.call.getD Call.fresh with iloop := turns }))
        (.packet (counted (blankPacket 64 true) 1))) :
    Guarded step guard Channel.initial (interruption turns) := by
  have idle : ∀ channel turns, Guarded step guard channel (List.replicate turns .poll) := by
    intro channel turns
    induction turns generalizing channel with
    | zero => trivial
    | succ turns ih => exact ⟨free channel, ih _⟩
  rw [interruption, guarded_append, guarded_append]
  refine ⟨⟨⟨first, free _, trivial⟩, idle _ _⟩, free _, ?_, free _, trivial⟩
  change guard (poll (polls firstTaken turns)) _
  rwa [idle_firstTaken turns waits]

lemma interrupted_second : ∃ delivery ∈ (interrupted 20001).deliveries,
    delivery.result.status = Status.clear ∧
      delivery.result.block.length ≠
        ((sinceEndOfEvent ((interrupted 20001).written.take delivery.last)).map
          (·.skb.frame)).flatten.length := by
  decide +kernel

/-- A call that gives up in the middle of an event lets the next call return the rest of
the event without an error. -/
lemma interruption_splits_event :
    ∃ inputs, Guarded step Unlapped Channel.initial inputs ∧
      Guarded step LoopCountFits Channel.initial inputs ∧
      Guarded step UnlappedDelivery Channel.initial inputs ∧
      ¬ ReturnsWholeEvents (runFrom step Channel.initial inputs) := by
  refine ⟨interruption 20001,
    guarded_interruption _ 20001 le_rfl (fun _ => trivial) ⟨by decide, by decide⟩
      ⟨by decide, by decide +kernel⟩,
    guarded_interruption _ 20001 le_rfl (fun _ => trivial) (by unfold LoopCountFits; decide)
      (by unfold LoopCountFits; decide +kernel),
    guarded_interruption _ 20001 le_rfl (fun _ => trivial) (by unfold UnlappedDelivery; decide)
      (by unfold UnlappedDelivery; decide +kernel), ?_⟩
  rw [interrupted_run 20001 le_rfl]
  intro whole
  obtain ⟨delivery, member, clear, short⟩ := interrupted_second
  exact short (congrArg List.length (whole delivery member clear))

def oddPacket : SkBuff :=
  { blankPacket 65 true with byte := Function.update (blankPacket 65 true).byte 64 1 }

lemma oddPacket_not_copied :
    ¬ ReturnsWholeEvents (runFrom step Channel.initial [.packet oddPacket, .poll]) := by
  intro whole
  have differs : ∃ delivery ∈ (runFrom step Channel.initial [.packet oddPacket, .poll]).deliveries,
      delivery.result.status = Status.clear ∧
        delivery.result.block ≠ ((sinceEndOfEvent ((runFrom step Channel.initial
          [.packet oddPacket, .poll]).written.take delivery.last)).map (·.skb.frame)).flatten := by
    decide +kernel
  obtain ⟨delivery, member, clear, other⟩ := differs
  exact other (whole delivery member clear)

def fullEvent : SkBuff := blankPacket 9100 true

lemma fullEvent_endsEvent : fullEvent.endsEvent = true := by
  decide

def lockStep (events : Nat) : List Input :=
  (List.replicate events [Input.packet fullEvent, Input.poll]).flatten

lemma lockStep_succ (events) :
    lockStep (events + 1) = lockStep events ++ [.packet fullEvent, .poll] := by
  simp [lockStep, List.replicate_succ']

def fullEventCursor (events : Nat) : Cursor :=
  ⟨9100 * (events % 1781), events % 1781, events / 1781⟩

lemma fullEventCursor_succ (events) :
    advance layout2 (fullEventCursor events) ⟨9100, true⟩ = fullEventCursor (events + 1) := by
  have rule := loopsBack_iff layout2 true
    ((fullEventCursor events).buf + 9100) ((fullEventCursor events).ring + 1)
  have bufEnd : layout2.bufEnd = 16374900 := rfl
  have bufEventEnd : layout2.bufEventEnd = 16203920 := rfl
  have ringSize : layout2.ringSize = 511986 := rfl
  have buf : (fullEventCursor events).buf = 9100 * (events % 1781) := rfl
  have ring : (fullEventCursor events).ring = events % 1781 := rfl
  by_cases last : events % 1781 = 1780
  · refine (if_pos (rule.mpr (Or.inl ⟨rfl, ?_⟩))).trans ?_
    · omega
    · simp only [fullEventCursor, Cursor.mk.injEq]
      omega
  · refine (if_neg fun loops => ?_).trans ?_
    · have full := rule.mp loops
      omega
    · simp only [fullEventCursor, Cursor.mk.injEq]
      omega

structure InLockStep (channel : Channel) (events : Nat) : Prop where
  agreed : Agreed channel
  written : channel.written.length = events
  seen : channel.seen.length = events
  idle : channel.spy.call = none
  flagged : channel.hook.flagEevent2 = true
  place : cursor channel.hook = fullEventCursor events

lemma InLockStep.reader {events} (inStep : InLockStep channel events) :
    channel.spy.cursor = fullEventCursor events := by
  have all : channel.seen.length = channel.written.length := by rw [inStep.seen, inStep.written]
  rw [inStep.agreed.readerPlace, all, place_all, ← inStep.agreed.writerPlace, inStep.place]

lemma InLockStep.unlapped {events} (inStep : InLockStep channel events)
    (bound : events ≤ 1781 * 0x4000) : Unlapped channel (.packet fullEvent) := by
  have lap : channel.hook.ringLoop2 = events / 1781 := congrArg Cursor.lap inStep.place
  have moved : cursor (netifRxHook2 channel.hook fullEvent) = fullEventCursor (events + 1) := by
    rw [netifRxHook2_cursor _ _ (by omega), inStep.place, record, inStep.flagged,
      ← fullEventCursor_succ]
    rfl
  refine ⟨by decide, ?_⟩
  rw [moved, inStep.reader]
  simp only [WithinLap, fullEventCursor]
  omega

lemma InLockStep.next {events} (inStep : InLockStep channel events)
    (bound : events < 1781 * 0x4000) :
    LoopCountFits channel (.packet fullEvent) ∧
      InLockStep (poll (write channel fullEvent)) (events + 1) := by
  have unlapped := inStep.unlapped (Nat.le_of_lt bound)
  have lap : channel.hook.ringLoop2 = events / 1781 := congrArg Cursor.lap inStep.place
  have fits : LoopCountFits channel (.packet fullEvent) := by
    change channel.hook.ringLoop2 < 0x4000
    omega
  have agreedNow := agreed_write inStep.agreed unlapped fits
  have written : (write channel fullEvent).written.length = events + 1 := by
    simp [write, inStep.written]
  have seen : (write channel fullEvent).seen.length = events := inStep.seen
  have idle : (write channel fullEvent).spy.call = none := inStep.idle
  have moved : cursor (netifRxHook2 channel.hook fullEvent) = fullEventCursor (events + 1) := by
    rw [netifRxHook2_cursor _ _ (by omega), inStep.place, record, inStep.flagged,
      ← fullEventCursor_succ]
    rfl
  refine ⟨fits, ?_⟩
  have agreedAfter := agreed_poll agreedNow
  rcases agreedNow.turn_cases with ⟨late, _⟩ | ⟨all, _⟩ | ⟨unread, took⟩
  · simp [idle, Call.fresh] at late
  · omega
  have ends : (write channel fullEvent).written[(write channel fullEvent).seen.length].note.endsEvent =
      true := by
    have last : (write channel fullEvent).seen.length = channel.written.length := by
      rw [seen, inStep.written]
    have here : (write channel fullEvent).written[(write channel fullEvent).seen.length] =
        ⟨noteOf channel.hook fullEvent, fullEvent⟩ := List.getElem_concat_length last unread
    rw [here]
    simp [noteOf, inStep.flagged, fullEvent_endsEvent]
  rw [poll, took, after_returns ends] at agreedAfter ⊢
  refine ⟨agreedAfter, written, ?_, rfl, ?_, moved⟩
  · simp [takeNoted, seen]
  · exact (netifRxHook2_flagEevent2 _ _).trans inStep.flagged

lemma lockStep_run (events) (bound : events ≤ 1781 * 0x4000) :
    Guarded step Unlapped Channel.initial (lockStep events) ∧
      InLockStep (runFrom step Channel.initial (lockStep events)) events := by
  induction events with
  | zero =>
    exact ⟨trivial, agreed_initial, rfl, rfl, rfl, rfl, rfl⟩
  | succ events ih =>
    obtain ⟨guarded, inStep⟩ := ih (by omega)
    have next := inStep.next (by omega)
    rw [lockStep_succ, guarded_append, runFrom_append]
    exact ⟨⟨guarded, inStep.unlapped (by omega), trivial, trivial⟩, next.2⟩

lemma overflowed_entry (hook skb) (full : hook.ringLoop2 = 0x4000) :
    (ringEntry hook skb).info &&& 0x3fff = 0 := by
  have eevent : eeventMask hook.flagEevent2 skb &&& 0x3fff = 0 := by
    unfold eeventMask
    split <;> rfl
  have missing : missingMask hook skb &&& 0x3fff = 0 := by
    unfold missingMask
    split_ifs <;> rfl
  simp [ringEntry, full, Nat.and_or_distrib_right, missing, eevent]

lemma loopCount_overflows :
    ∃ inputs, Guarded step Unlapped Channel.initial inputs ∧
      ∃ delivery ∈ (runFrom step Channel.initial inputs).deliveries,
        delivery.result.status.loopOverwrite = true := by
  obtain ⟨events, count⟩ : ∃ events, events = 1781 * 0x4000 := ⟨_, rfl⟩
  obtain ⟨guarded, inStep⟩ := lockStep_run events count.le
  refine ⟨lockStep events ++ [.packet fullEvent, .poll], ?_⟩
  rw [guarded_append, runFrom_append]
  generalize runFrom step Channel.initial (lockStep events) = channel at guarded inStep ⊢
  refine ⟨⟨guarded, inStep.unlapped count.le, trivial, trivial⟩, ?_⟩
  have lapped : fullEventCursor events = ⟨0, 0, 0x4000⟩ := by
    simp [fullEventCursor, count]
  have spy := inStep.reader
  have hook := inStep.place
  rw [lapped] at spy hook
  have bufPnt : channel.spy.bufPnt = 0 := congrArg Cursor.buf spy
  have ringPnt : channel.spy.ringPnt = 0 := congrArg Cursor.ring spy
  have ringLoop : channel.spy.ringLoop = 0x4000 := congrArg Cursor.lap spy
  have bufPnt2 : channel.hook.bufPnt2 = 0 := congrArg Cursor.buf hook
  have ringPnt2 : channel.hook.ringPnt2 = 0 := congrArg Cursor.ring hook
  have ringLoop2 : channel.hook.ringLoop2 = 0x4000 := congrArg Cursor.lap hook
  have stays : ¬ loopsBack channel.hook fullEvent = true := by
    rw [Driver.loopsBack_iff, bufPnt2, ringPnt2, inStep.flagged]
    decide
  have tail : (netifRxHook2 channel.hook fullEvent).shared.tail = 9100 := by
    rw [netifRxHook2_tail, netifRxHook2_bufPnt2, if_neg stays, bufPnt2]
    rfl
  have entry : ((netifRxHook2 channel.hook fullEvent).shared.ring 0).info &&& 0x3fff = 0 := by
    rw [netifRxHook2_ring, ringPnt2]
    exact overflowed_entry _ _ ringLoop2
  have lost : turn (netifRxHook2 channel.hook fullEvent).shared channel.spy =
      resynchronize channel.spy Call.fresh 0 { Status.initial with loopOverwrite := true } := by
    rw [turn, inStep.idle, Option.getD_none, readDDUTurn_loopOverwrite _ _ _ (by decide), entry]
    · rfl
    · rw [bufPnt, tail]
      decide
    · rw [entry]
      exact Nat.zero_le _
    · rw [ringPnt, entry, ringLoop]
      decide
  change ∃ delivery ∈ (poll (write channel fullEvent)).deliveries, _
  have polled : poll (write channel fullEvent) = (write channel fullEvent).after
      (resynchronize channel.spy Call.fresh 0 { Status.initial with loopOverwrite := true }) :=
    congrArg _ lost
  rw [polled]
  exact ⟨_, List.mem_append_right _ (List.mem_singleton_self _), rfl⟩

theorem ring_protocol_limits :
    (∃ inputs, Guarded step Unlapped Channel.initial inputs ∧
      Guarded step LoopCountFits Channel.initial inputs ∧
      Guarded step UnlappedDelivery Channel.initial inputs ∧
      ¬ ReturnsWholeEvents (runFrom step Channel.initial inputs)) ∧
    ¬ ReturnsWholeEvents (runFrom step Channel.initial [.packet oddPacket, .poll]) ∧
    ∃ inputs, Guarded step Unlapped Channel.initial inputs ∧
      ∃ delivery ∈ (runFrom step Channel.initial inputs).deliveries,
        delivery.result.status.loopOverwrite = true :=
  ⟨interruption_splits_event, oddPacket_not_copied, loopCount_overflows⟩

end EmuLib.Reader
