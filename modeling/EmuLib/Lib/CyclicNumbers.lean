import Mathlib.Data.List.Chain

/-!
Numbers that are counted up to a modulus and start again at zero: what comes next, and
which numbers are missing between two of them.
-/

namespace EmuLib.CyclicNumbers

open List

def Follows (modulus first second : Nat) : Prop := second = (first + 1) % modulus

def missing (modulus first second : Nat) : List Nat :=
  if first < second then List.range' (first + 1) (second - (first + 1))
  else if second < first then
    List.range' (first + 1) (modulus - (first + 1)) ++ List.range' 0 second
  else []

section

variable {modulus first second : Nat}

lemma range'_follows (start) : ∀ count, start + count ≤ modulus →
    List.IsChain (Follows modulus) (range' start count) := by
  intro count
  induction count generalizing start with
  | zero => simp
  | succ count ih =>
    intro bound
    have later := ih (start + 1) (by omega)
    cases count with
    | zero => simp
    | succ count =>
      simp only [range'_succ, isChain_cons_cons] at later ⊢
      exact ⟨(Nat.mod_eq_of_lt (by omega)).symm, later⟩

lemma range'_closed (first second) (order : first < second) :
    first :: range' (first + 1) (second - (first + 1)) ++ [second] =
      range' first (second - first + 1) := by
  obtain ⟨count, rfl⟩ := Nat.exists_eq_add_of_lt order
  have length : first + count + 1 - (first + 1) = count := by omega
  have total : first + count + 1 - first + 1 = count + 1 + 1 := by omega
  have last : first + 1 + 1 * count = first + count + 1 := by omega
  rw [length, total, range'_succ, range'_concat, cons_append, last]

lemma missing_follows (firstBound : first < modulus) (secondBound : second < modulus)
    (differ : first ≠ second) :
    List.IsChain (Follows modulus) (first :: missing modulus first second ++ [second]) := by
  unfold missing
  by_cases order : first < second
  · rw [if_pos order, range'_closed first second order]
    apply range'_follows
    omega
  · have wrapped : second < first := by omega
    have upper : first :: range' (first + 1) (modulus - (first + 1)) =
        range' first (modulus - first) := by
      have length : modulus - first = modulus - (first + 1) + 1 := by omega
      rw [length, range'_succ]
    have lower : range' 0 second ++ [second] = range' 0 (second + 1) := by
      simp [range'_concat]
    rw [if_neg order, if_pos wrapped, ← cons_append, upper, append_assoc, lower, isChain_append]
    refine ⟨?_, ?_, ?_⟩
    · apply range'_follows
      omega
    · apply range'_follows
      omega
    · intro last lastMem next nextMem
      have nextZero : next = 0 := by
        rw [range'_succ] at nextMem
        simpa using nextMem.symm
      have lastMax : last = modulus - 1 := by
        have length : modulus - first = modulus - (first + 1) + 1 := by omega
        rw [length, range'_concat] at lastMem
        simp only [Nat.one_mul, getLast?_append, getLast?_singleton, Option.some_or,
          Option.mem_def, Option.some.injEq] at lastMem
        omega
      have full : last + 1 = modulus := by omega
      rw [Follows, nextZero, full, Nat.mod_self]

end

def counted (modulus start count : Nat) : List Nat :=
  (List.range' start count).map fun number => number % modulus

variable {modulus start count : Nat}

@[simp] lemma counted_zero : counted modulus start 0 = [] := rfl

@[simp] lemma counted_length : (counted modulus start count).length = count := by
  simp [counted]

lemma counted_succ : counted modulus start (count + 1) =
    start % modulus :: counted modulus (start + 1) count := by
  simp [counted, range'_succ]

lemma counted_append (more) : counted modulus start (count + more) =
    counted modulus start count ++ counted modulus (start + count) more := by
  have split : range' start (count + more) =
      range' start count ++ range' (start + count) more := by
    rw [range'_append_1]
  rw [counted, split, map_append]
  rfl

/-- A counter that itself wraps around at a multiple of the modulus counts alike. -/
lemma counted_wrapped {word} (divides : modulus ∣ word) :
    counted modulus (start % word) count = counted modulus start count := by
  simp only [counted, range'_eq_map_range, map_map]
  apply map_congr_left
  intro offset _
  simp only [Function.comp_apply]
  rw [Nat.add_mod, Nat.mod_mod_of_dvd start divides, ← Nat.add_mod]

end EmuLib.CyclicNumbers
