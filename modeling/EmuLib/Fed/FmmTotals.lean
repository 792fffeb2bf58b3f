import Mathlib.Algebra.BigOperators.Group.List.Basic
import EmuLib.Fed.FmmRelease

/-!
The total that is compared with the threshold for releasing the FMMs, as a list of fibers.
-/

namespace EmuLib.Fed.FmmRelease

open GuardedRun List

/-! What the record of a run tells. -/

section

variable (setup : Setup) (crate slot : Nat)

def lastRead : List Entry → Option Reading
  | [] => none
  | .read other otherSlot reading :: older =>
    if other = crate ∧ otherSlot = slot then some reading else lastRead older
  | .counted _ :: older => lastRead older
  | .restarted other :: older => if other = crate then none else lastRead older

def lastCounted : List Entry → Option Reading
  | [] => none
  | .read .. :: older => lastCounted older
  | .counted other :: older => if other = crate then lastRead crate slot older else lastCounted older
  | .restarted other :: older => if other = crate then none else lastCounted older

/-- The bits of the fibers that are not ignored for good, and the bit of the DDU, at the last
interrupt of the DDU with a new chamber error. -/
def lastHandled : List Entry → BitVec 16
  | [] => 0
  | .read other otherSlot reading :: older =>
    if other = crate ∧ otherSlot = slot then
      if combinedStatus setup crate slot reading.status &&& ~~~(lastHandled older) &&& 0x7fff = 0 then
        lastHandled older
      else combinedStatus setup crate slot reading.status
    else lastHandled older
  | .counted _ :: older => lastHandled older
  | .restarted other :: older => if other = crate then 0 else lastHandled older

def lastL1A : List Entry → Nat
  | [] => 0
  | .read other _ reading :: older => if other = crate then reading.l1a else lastL1A older
  | .counted _ :: older => lastL1A older
  | .restarted other :: older => if other = crate then 0 else lastL1A older

def fibersOf : Option Reading → List Nat
  | none => []
  | some reading =>
    (List.range 15).filter fun fiber =>
      reading.status.getLsbD fiber && !setup.ignoreErr crate slot fiber &&
        !reading.ignored.getLsbD fiber

def WentBack (reading : Reading) (older : List Entry) : Prop :=
  lastHandled setup crate slot older &&& ~~~(combinedStatus setup crate slot reading.status) ≠ 0 ∨
    (0 < reading.l1a ∧ reading.l1a < lastL1A crate older)

instance (reading : Reading) (older : List Entry) :
    Decidable (WentBack setup crate slot reading older) :=
  inferInstanceAs (Decidable (_ ∨ _))

end

def fibersOfDdu (setup : Setup) (crate slot : Nat) (reading : Option Reading) :
    List (Nat × Nat × Nat) :=
  (fibersOf setup crate slot reading).map fun fiber => (crate, slot, fiber)

def fibersCounted (setup : Setup) (log : List Entry) : List (Nat × Nat × Nat) :=
  setup.crates.flatMap fun crate => (setup.slots crate).flatMap fun slot =>
    fibersOfDdu setup crate slot (lastCounted crate slot log)

lemma fibersOfDdu_nodup (setup crate slot reading) :
    (fibersOfDdu setup crate slot reading).Nodup := by
  refine List.Nodup.map (fun first second same => by simpa using same) ?_
  cases reading with
  | none => exact nodup_nil
  | some reading => exact nodup_range.filter _

lemma mem_fibersOfDdu {setup crate slot reading fiber} (mem : fiber ∈ fibersOfDdu setup crate slot reading) :
    fiber.1 = crate ∧ fiber.2.1 = slot := by
  obtain ⟨_, -, rfl⟩ := mem_map.1 mem
  exact ⟨rfl, rfl⟩

lemma fibersCounted_nodup (setup log) : (fibersCounted setup log).Nodup := by
  refine nodup_flatMap.2 ⟨fun crate _ => nodup_flatMap.2 ⟨fun slot _ =>
    fibersOfDdu_nodup setup crate slot _, ?_⟩, ?_⟩
  · refine (setup.slots_nodup crate).imp fun {first second} different => ?_
    intro fiber left right
    exact different ((mem_fibersOfDdu left).2.symm.trans (mem_fibersOfDdu right).2)
  · refine setup.crates_nodup.imp fun {first second} different => ?_
    intro fiber left right
    obtain ⟨_, -, left⟩ := mem_flatMap.1 left
    obtain ⟨_, -, right⟩ := mem_flatMap.1 right
    exact different ((mem_fibersOfDdu left).1.symm.trans (mem_fibersOfDdu right).1)

/-! The counts of a status word. -/

lemma ignBits_fold (ignore : Nat → Bool) (count fiber) (small : count ≤ 16) :
    ((List.range count).foldl
      (fun bits iFiber => if ignore iFiber then bits ||| (1#16 <<< iFiber) else bits)
      (0 : BitVec 16)).getLsbD fiber = (decide (fiber < count) && ignore fiber) := by
  induction count with
  | zero => simp
  | succ count ih =>
    rw [range_succ, foldl_append, foldl_cons, foldl_nil]
    have before := ih (by omega)
    by_cases ignored : ignore count
    · rw [if_pos ignored, BitVec.getLsbD_or, before, BitVec.getLsbD_shiftLeft, BitVec.getLsbD_one]
      by_cases same : fiber = count
      · subst same
        have : fiber < 16 := by omega
        simp [this, ignored]
      · have later : decide (fiber < count + 1) = decide (fiber < count) := by
          simp only [decide_eq_decide]
          omega
        rw [later]
        have off : (decide (fiber < 16) && !decide (fiber < count) &&
            (decide (0 < 16) && decide (fiber - count = 0))) = false := by
          simp only [Bool.and_eq_false_iff, Bool.not_eq_false', decide_eq_false_iff_not,
            decide_eq_true_eq]
          omega
        rw [off, Bool.or_false]
    · rw [if_neg ignored, before]
      by_cases same : fiber = count
      · subst same
        simp [ignored]
      · have later : decide (fiber < count + 1) = decide (fiber < count) := by
          simp only [decide_eq_decide]
          omega
        rw [later]

lemma combinedStatus_bit (setup crate slot status fiber) :
    (combinedStatus setup crate slot status).getLsbD fiber =
      (status.getLsbD fiber && !(decide (fiber < 15) && setup.ignoreErr crate slot fiber)) := by
  have bits : (ignBits setup crate slot).getLsbD fiber =
      (decide (fiber < 15) && setup.ignoreErr crate slot fiber) :=
    ignBits_fold (setup.ignoreErr crate slot) 15 fiber (by decide)
  unfold combinedStatus
  split
  · rw [BitVec.getLsbD_and, BitVec.getLsbD_not, bits]
    by_cases inside : fiber < 16
    · simp [inside]
    · rw [BitVec.getLsbD_of_ge status fiber (by omega)]
      rfl
  · next none_ =>
      rw [← bits, not_not.1 none_]
      simp

lemma bitCount_split (bits) :
    bitCount bits = ((List.range 15).countP fun fiber => bits.getLsbD fiber) +
      (bits.getLsbD 15).toNat := by
  rw [bitCount, range_succ, countP_append]
  congr 1

lemma chamberErrors_eq (combined) :
    chamberErrors combined = (List.range 15).countP fun fiber => combined.getLsbD fiber := by
  have top : 32768 ≤ combined.toNat ↔ combined.getLsbD 15 = true := by
    rw [← BitVec.msb_eq_getLsbD_last (w := 16), BitVec.msb_eq_decide, decide_eq_true_eq]
  unfold chamberErrors
  simp only [bitCount_split, top]
  cases combined.getLsbD 15 <;> simp

def inError (setup : Setup) (crate slot : Nat) : Option Reading → Nat
  | none => 0
  | some reading =>
    (List.range 15).countP fun fiber =>
      reading.status.getLsbD fiber && !setup.ignoreErr crate slot fiber

def inErrorIgnored (setup : Setup) (crate slot : Nat) : Option Reading → Nat
  | none => 0
  | some reading =>
    (List.range 15).countP fun fiber =>
      (reading.status.getLsbD fiber && !setup.ignoreErr crate slot fiber) &&
        reading.ignored.getLsbD fiber

lemma inError_split (setup crate slot reading) :
    inError setup crate slot reading =
      inErrorIgnored setup crate slot reading + (fibersOfDdu setup crate slot reading).length := by
  cases reading with
  | none => rfl
  | some reading =>
    rw [fibersOfDdu, length_map, fibersOf, ← countP_eq_length_filter, inError,
      inErrorIgnored, countP_eq_countP_filter_add _ _ fun fiber =>
        reading.ignored.getLsbD fiber, countP_filter, countP_filter]

lemma combined_fiber (setup crate slot status) {fiber} (inside : fiber ∈ List.range 15) :
    (combinedStatus setup crate slot status).getLsbD fiber =
      (status.getLsbD fiber && !setup.ignoreErr crate slot fiber) := by
  have small := mem_range.1 inside
  simp [combinedStatus_bit, small]

lemma chamberErrors_combined (setup crate slot reading) :
    chamberErrors (combinedStatus setup crate slot reading.status) =
      inError setup crate slot (some reading) := by
  rw [chamberErrors_eq]
  refine countP_congr fun fiber inside => ?_
  rw [combined_fiber setup crate slot reading.status inside]

lemma bitCount_ignored (setup crate slot reading)
    (chambers : reading.ignored.getLsbD 15 = false) :
    bitCount (reading.ignored &&& combinedStatus setup crate slot reading.status) =
      inErrorIgnored setup crate slot (some reading) := by
  rw [bitCount_split, BitVec.getLsbD_and, chambers]
  refine countP_congr fun fiber inside => ?_
  rw [BitVec.getLsbD_and, combined_fiber setup crate slot reading.status inside, Bool.and_comm]

lemma fibersCounted_length (setup log) :
    (fibersCounted setup log).length = (setup.crates.map fun crate =>
      ((setup.slots crate).map fun slot =>
        (fibersOfDdu setup crate slot (lastCounted crate slot log)).length).sum).sum := by
  simp only [fibersCounted, length_flatMap]

end EmuLib.Fed.FmmRelease
