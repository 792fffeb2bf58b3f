import EmuLib.Lib.CyclicRuns
import Mathlib.Data.Rat.Floor

/-!
The search for windows of good channels in data that wrap around.
-/

namespace EmuLib.ChamberUtilities

open CyclicRuns

def countThreshold : Int := 10
def widthThreshold : Nat := 2
def maxTimeDelay : Nat := 25

def roundOff (realNumber : Rat) : Int :=
  let moved := realNumber + 1 / 2
  if 0 ≤ moved then moved.floor else moved.ceil

structure Windows where
  counter : Int
  width : Int → Nat
  start : Int → Nat

def Windows.none : Windows := ⟨-1, fun _ => 0, fun _ => 0⟩

section

variable (data : Nat → Int) (length : Nat)

def copy (i : Nat) : Int := data (i % length)

def beginChannel : Option Nat :=
  (List.range (2 * length)).find? fun i => countThreshold < copy data length i

def windowStep (windows : Windows) (delay : Nat) : Windows :=
  if copy data length delay < countThreshold then
    let started :=
      if countThreshold ≤ copy data length (delay - 1) then
        { windows with
          counter := windows.counter + 1
          start := Function.update windows.start (windows.counter + 1) delay }
      else windows
    { started with
      width := Function.update started.width started.counter (started.width started.counter + 1) }
  else windows

def findWindows (begin_ : Nat) : Windows :=
  (List.range' begin_ length).foldl (windowStep data length) .none

def turnedOver (count : Int) : Nat := (~~~(BitVec.ofInt 32 count ||| 0xffff0000#32)).toNat

def averageChannel (start width : Nat) : Rat :=
  let sums := (List.range' start width).foldl (fun sums channel =>
    (sums.1 + turnedOver (copy data length channel) * channel,
      sums.2 + turnedOver (copy data length channel))) (0, 0)
  (sums.1 : Rat) / sums.2

def bestValue (windows : Windows) : Int :=
  (List.range (windows.counter + 1).toNat).foldl (fun best counter =>
    if widthThreshold < windows.width counter then
      roundOff (averageChannel data length (windows.start counter) (windows.width counter)) % length
    else best) (-1)

def windowAnalysis (windowCounter : Int) : Int × Int :=
  match beginChannel data length with
  | .none => (-999, windowCounter)
  | some begin_ =>
    let windows := findWindows data length begin_
    if windows.counter < 0 then (-999, windows.counter)
    else (bestValue data length windows, windows.counter)

end

variable {data : Nat → Int} {length : Nat}

def Good (data : Nat → Int) (delay : Nat) : Prop := data delay < countThreshold

instance (data : Nat → Int) : DecidablePred (Good data) :=
  fun _ => inferInstanceAs (Decidable (_ < _))

lemma windowStep_counter (windows) {delay} (positive : delay ≠ 0) :
    (windowStep data length windows delay).counter =
      windows.counter + if Start (Good data) length delay then 1 else 0 := by
  have previous : (delay + length - 1) % length = (delay - 1) % length := by
    have split : delay + length - 1 = delay - 1 + length := by omega
    rw [split, Nat.add_mod_right]
  have starts : Start (Good data) length delay ↔ copy data length delay < countThreshold ∧
      ¬ copy data length (delay - 1) < countThreshold := by
    rw [Start, previous]
    exact Iff.rfl
  rw [windowStep]
  by_cases good : copy data length delay < countThreshold
  · by_cases begins : countThreshold ≤ copy data length (delay - 1)
    · rw [if_pos good, if_pos (starts.2 ⟨good, Int.not_lt.2 begins⟩)]
      rw [if_pos begins]
    · rw [if_pos good, if_neg fun both => begins (Int.not_lt.1 (starts.1 both).2)]
      rw [if_neg begins]
      exact (Int.add_zero _).symm
  · rw [if_neg good, if_neg fun both => good (starts.1 both).1]
    exact (Int.add_zero _).symm

lemma foldl_counter (windows first count) (positive : first ≠ 0) :
    ((List.range' first count).foldl (windowStep data length) windows).counter =
      windows.counter + (List.range' first count).countP (Start (Good data) length) := by
  induction count generalizing first windows with
  | zero => exact (Int.add_zero _).symm
  | succ count ih =>
    rw [List.range'_succ, List.foldl_cons, List.countP_cons,
      ih (windowStep data length windows first) (first + 1) (Nat.succ_ne_zero _),
      windowStep_counter windows positive]
    by_cases starts : Start (Good data) length first
    · simp only [starts, if_true, decide_true]
      omega
    · simp only [starts, if_false, decide_false, Bool.false_eq_true]
      omega

lemma findWindows_counter {begin_} (bad : countThreshold < copy data length begin_)
    (positive : 0 < length) :
    (findWindows data length begin_).counter + 1 =
      (List.range' begin_ length).countP (Start (Good data) length) := by
  obtain ⟨rest, rfl⟩ : ∃ rest, length = rest + 1 := ⟨length - 1, by omega⟩
  have not_good : ¬ copy data (rest + 1) begin_ < countThreshold := by omega
  have same : windowStep data (rest + 1) .none begin_ = .none := if_neg not_good
  have no_start : ¬ Start (Good data) (rest + 1) begin_ := fun starts => not_good starts.1
  rw [findWindows, List.range'_succ, List.foldl_cons, same,
    foldl_counter .none (begin_ + 1) rest (Nat.succ_ne_zero _), List.countP_cons]
  simp only [no_start, decide_false, Bool.false_eq_true, if_false, Windows.none]
  omega

lemma windowAnalysis_counts {channel} (inside : channel < length)
    (bad : countThreshold < data channel) (windowCounter) :
    (windowAnalysis data length windowCounter).2 + 1 = runs (Good data) length := by
  have positive : 0 < length := by omega
  obtain ⟨begin_, found⟩ : ∃ begin_, beginChannel data length = some begin_ := by
    apply Option.isSome_iff_exists.1
    rw [beginChannel, List.find?_isSome]
    refine ⟨channel, List.mem_range.2 (by omega), decide_eq_true ?_⟩
    rw [copy, Nat.mod_eq_of_lt inside]
    exact bad
  have first : countThreshold < copy data length begin_ := by
    have test := List.find?_some found
    exact of_decide_eq_true test
  have not_good : ¬ Good data channel := Int.not_lt.2 (Int.le_of_lt bad)
  have counted := findWindows_counter first positive
  rw [runs_of_bad inside not_good] at counted
  rw [windowAnalysis, found]
  dsimp only
  split <;> exact counted

end EmuLib.ChamberUtilities
