import EmuLib.Driver.EthHook
import Mathlib.Data.List.Induction

/-!
Where the hook puts the packets of one event.  The reader hands an event out as one
block, so its packets have to lie one behind the other in the data area.
-/

namespace EmuLib.Driver

open GuardedRun RingCursor List

def hookAfter (skbs : List SkBuff) : EthHook := runFrom netifRxHook2 initModule2 skbs

def totalBytes : List SkBuff → Nat
  | [] => 0
  | skb :: rest => skb.length + totalBytes rest

def Carried (skb : SkBuff) : Prop := 60 ≤ skb.length ∧ skb.length ≤ maxPacket2

instance (skb : SkBuff) : Decidable (Carried skb) :=
  inferInstanceAs (Decidable (_ ∧ _))

def BetweenEnds (before event : List SkBuff) : Prop :=
  (∀ skb ∈ before.getLast?, skb.endsEvent = true) ∧
    ∃ inner last, event = inner ++ [last] ∧ last.endsEvent = true ∧
      ∀ skb ∈ inner, skb.endsEvent = false

def StoredConsecutively (before event : List SkBuff) : Prop :=
  ∀ count, count < event.length →
    (hookAfter (before ++ event.take count)).bufPnt2 =
      (hookAfter before).bufPnt2 + totalBytes (event.take count)

def ContiguousWhenNotOversized (before event : List SkBuff) : Prop :=
  totalBytes event ≤ maxEvent2 → StoredConsecutively before event

@[simp] lemma totalBytes_nil : totalBytes [] = 0 := rfl

@[simp] lemma totalBytes_cons (skb skbs) :
    totalBytes (skb :: skbs) = skb.length + totalBytes skbs := rfl

lemma hookAfter_append (before rest) :
    hookAfter (before ++ rest) = runFrom netifRxHook2 (hookAfter before) rest := by
  simp [hookAfter]

structure Placed (hook : EthHook) : Prop where
  eventsFlagged : hook.flagEevent2 = true
  packetFits : hook.bufPnt2 ≤ bufEnd2
  ringBehindBuf : 60 * hook.ringPnt2 ≤ hook.bufPnt2

lemma placed_initModule2 : Placed initModule2 :=
  ⟨rfl, by decide, by decide⟩

variable {hook : EthHook}

lemma Placed.ring_lt (placed : Placed hook) : hook.ringPnt2 + 1 < ringSize2 := by
  have fits := placed.packetFits
  have behind := placed.ringBehindBuf
  have bufEnd : bufEnd2 = 16374900 := rfl
  have ringSize : ringSize2 = 511986 := rfl
  omega

lemma Placed.loopsBack_iff (placed : Placed hook) (skb) :
    loopsBack hook skb = true ↔
      (skb.endsEvent = true ∧ hook.bufPnt2 + skb.length > bufEend2) ∨
        hook.bufPnt2 + skb.length > bufEnd2 := by
  have room := placed.ring_lt
  rw [Driver.loopsBack_iff, placed.eventsFlagged]
  constructor
  · rintro (ends | full | ringFull)
    · exact .inl ends
    · exact .inr full
    · omega
  · rintro (ends | full)
    · exact .inl ends
    · exact .inr (Or.inl full)

lemma placed_step (hook skb) (placed : Placed hook)
    (carried : Carried skb) : Placed (netifRxHook2 hook skb) := by
  have bound := carried.1
  have behind := placed.ringBehindBuf
  have loops := placed.loopsBack_iff skb
  refine ⟨?_, ?_, ?_⟩
  · rw [netifRxHook2_flagEevent2]
    exact placed.eventsFlagged
  · rw [netifRxHook2_bufPnt2]
    split
    · exact Nat.zero_le _
    · rename_i stays
      rw [loops] at stays
      omega
  · rw [netifRxHook2_bufPnt2, netifRxHook2_ringPnt2]
    split
    · omega
    · omega

lemma placed_run (placed : Placed hook) {skbs}
    (carried : ∀ skb ∈ skbs, Carried skb) : Placed (runFrom netifRxHook2 hook skbs) := by
  induction skbs generalizing hook with
  | nil => exact placed
  | cons skb rest ih =>
    exact ih (placed_step hook skb placed (carried skb (by simp)))
      (fun later member => carried later (by simp [member]))

lemma placed_hookAfter {skbs} (carried : ∀ skb ∈ skbs, Carried skb) : Placed (hookAfter skbs) :=
  placed_run placed_initModule2 carried

/-- Nothing has been written behind the data area, nor behind the last entry of the ring. -/
structure Inside (hook : EthHook) : Prop where
  bufInside : hook.bufPnt2 ≤ bufEnd2
  ringInside : hook.ringPnt2 < ringSize2
  data : ∀ address, dataAreaSize ≤ address → hook.shared.data address = 0
  ring : ∀ entry, ringSize2 ≤ entry → hook.shared.ring entry = ⟨0, 0⟩

lemma inside_step (hook skb) (inside : Inside hook) (fits : skb.length ≤ maxPacket2) :
    Inside (netifRxHook2 hook skb) := by
  have room : bufEnd2 + maxPacket2 = dataAreaSize := by decide
  have loops := loopsBack_iff hook skb
  have bufInside := inside.bufInside
  refine ⟨?_, ?_, fun address behind => ?_, fun entry behind => ?_⟩
  · rw [netifRxHook2_bufPnt2]
    split
    · exact Nat.zero_le _
    · rename_i stays
      rw [loops] at stays
      omega
  · rw [netifRxHook2_ringPnt2]
    split
    · decide
    · rename_i stays
      rw [loops] at stays
      omega
  · have outside : ¬ (hook.bufPnt2 ≤ address ∧ address < hook.bufPnt2 + 8 * (skb.length / 8)) := by
      omega
    rw [netifRxHook2_data, copyPacket, if_neg outside, inside.data address behind]
  · have ringInside := inside.ringInside
    rw [netifRxHook2_ring, Function.update_of_ne (by omega), inside.ring entry behind]

theorem never_writes_outside (skbs : List SkBuff) (fit : ∀ skb ∈ skbs, skb.length ≤ maxPacket2) :
    Inside (hookAfter skbs) := by
  have start : Inside initModule2 := ⟨Nat.zero_le _, by decide, fun _ _ => rfl, fun _ _ => rfl⟩
  exact run_invariant inside_step start (guarded_of_forall fit _)

lemma inner_consecutive (placed : Placed hook) {inner} (carried : ∀ skb ∈ inner, Carried skb)
    (inside : ∀ skb ∈ inner, skb.endsEvent = false)
    (fits : hook.bufPnt2 + totalBytes inner ≤ bufEnd2) :
    ∀ count, count ≤ inner.length →
      (runFrom netifRxHook2 hook (inner.take count)).bufPnt2 =
        hook.bufPnt2 + totalBytes (inner.take count) := by
  intro count bound
  induction inner generalizing hook count with
  | nil => simp
  | cons skb rest ih =>
    cases count with
    | zero => simp
    | succ count =>
      rw [totalBytes_cons] at fits
      have stays : ¬ loopsBack hook skb = true := by
        rw [placed.loopsBack_iff, inside skb (by simp)]
        simp only [Bool.false_eq_true, false_and, false_or]
        omega
      have moved : (netifRxHook2 hook skb).bufPnt2 = hook.bufPnt2 + skb.length := by
        rw [netifRxHook2_bufPnt2, if_neg stays]
      have later := ih (placed_step hook skb placed (carried skb (by simp)))
        (fun other member => carried other (by simp [member]))
        (fun other member => inside other (by simp [member]))
        (by omega) count (by simpa using bound)
      rw [take_succ_cons, runFrom_cons, totalBytes_cons]
      omega

lemma consecutive_iff {before inner} (last) (carried : ∀ skb ∈ before ++ inner, Carried skb)
    (inside : ∀ skb ∈ inner, skb.endsEvent = false) :
    StoredConsecutively before (inner ++ [last]) ↔
      (hookAfter before).bufPnt2 + totalBytes inner ≤ bufEnd2 := by
  constructor
  · intro consecutive
    have atLast := consecutive inner.length (by simp)
    rw [take_left] at atLast
    rw [← atLast]
    exact (placed_hookAfter carried).packetFits
  · intro fits count bound
    have placed : Placed (hookAfter before) := placed_hookAfter
      (fun skb member => carried skb (by simp [member]))
    have inInner : count ≤ inner.length := by
      rw [length_append, length_singleton] at bound
      omega
    rw [hookAfter_append, take_append_of_le_length inInner]
    exact inner_consecutive placed (fun skb member => carried skb (by simp [member])) inside fits
      count inInner

/-- An event of at most `MAXEVENT_2` bytes lies in one piece exactly if the packets
before its last one end at most at `buf_end`. -/
theorem event_contiguous_iff (before event : List SkBuff)
    (carried : ∀ skb ∈ before ++ event, Carried skb) (between : BetweenEnds before event) :
    ContiguousWhenNotOversized before event ↔
      (totalBytes event ≤ maxEvent2 →
        (hookAfter before).bufPnt2 + totalBytes event.dropLast ≤ bufEnd2) := by
  obtain ⟨inner, last, rfl, _, inside⟩ := between.2
  rw [dropLast_concat]
  refine imp_congr_right fun _ => consecutive_iff last ?_ inside
  intro skb member
  exact carried skb (by simp only [mem_append] at member ⊢; tauto)

def blankPacket (length : Nat) (ends : Bool) : SkBuff where
  len := length - skbExtra
  byte := fun offset =>
    let fromEnd := offset - length
    if ends && (fromEnd == -23 || fromEnd == -21 || fromEnd == -17) then 0x80
    else if ends && (fromEnd == -20 || fromEnd == -19) then 0xff
    else 0

theorem never_writes_outside_largest : Inside (hookAfter [blankPacket 9100 true]) :=
  never_writes_outside [blankPacket 9100 true] (by decide)

theorem blankEvent_contiguous :
    ContiguousWhenNotOversized [] [blankPacket 9100 false, blankPacket 100 true] ↔
      (totalBytes [blankPacket 9100 false, blankPacket 100 true] ≤ maxEvent2 →
        (hookAfter []).bufPnt2 +
          totalBytes [blankPacket 9100 false, blankPacket 100 true].dropLast ≤ bufEnd2) :=
  event_contiguous_iff [] [blankPacket 9100 false, blankPacket 100 true]
    (by simp only [nil_append, forall_mem_cons]; decide)
    ⟨by simp, [blankPacket 9100 false], blankPacket 100 true, rfl, by decide, by simp; decide⟩

lemma fullEvents_bufPnt2 (events) (bound : events ≤ 1780) :
    (hookAfter (replicate events (blankPacket 9100 true))).bufPnt2 = 9100 * events := by
  induction events with
  | zero => rfl
  | succ events ih =>
    have length : (blankPacket 9100 true).length = 9100 := rfl
    have placed : Placed (hookAfter (replicate events (blankPacket 9100 true))) :=
      placed_hookAfter (fun skb member => by rw [(mem_replicate.mp member).2]; decide)
    have stays : ¬ loopsBack (hookAfter (replicate events (blankPacket 9100 true)))
        (blankPacket 9100 true) = true := by
      rw [placed.loopsBack_iff]
      have bufEnd : bufEnd2 = 16374900 := rfl
      have bufEend : bufEend2 = 16203920 := rfl
      omega
    rw [replicate_succ', hookAfter_append, runFrom_cons, runFrom_nil,
      netifRxHook2_bufPnt2, if_neg stays]
    omega

/-- An event of 178000 bytes is torn apart when it starts close to `buf_eend`. -/
theorem split_event :
    ∃ before event : List SkBuff, (∀ skb ∈ before ++ event, Carried skb) ∧
      BetweenEnds before event ∧ ¬ ContiguousWhenNotOversized before event := by
  have inside : ∀ skb ∈ List.replicate 19 (blankPacket 9100 false) ++ [blankPacket 5000 false],
      skb.endsEvent = false ∧ Carried skb := by
    intro skb member
    rcases mem_append.mp member with member | member
    · rw [(mem_replicate.mp member).2]
      decide
    · rw [mem_singleton.mp member]
      decide
  have carriedBefore : ∀ skb ∈ List.replicate 1780 (blankPacket 9100 true), Carried skb := by
    intro skb member
    rw [(mem_replicate.mp member).2]
    decide
  refine ⟨List.replicate 1780 (blankPacket 9100 true),
    (List.replicate 19 (blankPacket 9100 false) ++ [blankPacket 5000 false]) ++
      [blankPacket 100 true], ?_, ⟨?_, _, _, rfl, by decide, fun skb member => (inside skb member).1⟩,
    ?_⟩
  · intro skb member
    rw [mem_append, mem_append, mem_singleton] at member
    rcases member with member | member | rfl
    · exact carriedBefore skb member
    · exact (inside skb member).2
    · decide
  · intro skb member
    rw [(mem_replicate.mp (mem_of_getLast? member)).2]
    decide
  · intro contiguous
    have consecutive := contiguous (by decide)
    rw [consecutive_iff _ _ fun skb member => (inside skb member).1,
      fullEvents_bufPnt2 1780 (Nat.le_refl _)] at consecutive
    · revert consecutive
      decide
    · intro skb member
      rcases mem_append.mp member with member | member
      · exact carriedBefore skb member
      · exact (inside skb member).2

end EmuLib.Driver
