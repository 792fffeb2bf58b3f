import Mathlib.Data.Set.Finite.Lattice
import Mathlib.Data.Fintype.Pigeonhole

/-!
Walks of a deterministic machine that may stop: over finitely many states, a walk ends exactly if it
comes to no state twice.
-/

namespace EmuLib.PartialWalk

open Option

variable {α β : Type*}

def after (step : α → Option α) (start : α) : Nat → Option α
  | 0 => some start
  | count + 1 => (after step start count).bind step

def Ends (step : α → Option α) (start : α) : Prop := ∃ count, after step start count = none

section

variable {step : α → Option α} {start : α}

lemma after_succ (count) :
    after step start (count + 1) = (after step start count).bind step := rfl

lemma after_none {count} (ended : after step start count = none) (more) :
    after step start (count + more) = none := by
  induction more with
  | zero => exact ended
  | succ more ih => rw [← Nat.add_assoc, after_succ, ih, bind_none]

lemma after_add {first second} (same : after step start first = after step start second)
    (more) : after step start (first + more) = after step start (second + more) := by
  induction more with
  | zero => exact same
  | succ more ih => rw [← Nat.add_assoc, ← Nat.add_assoc, after_succ, after_succ, ih]

lemma after_round {first period} (same : after step start (first + period) =
    after step start first) (rounds) :
    after step start (first + rounds * period) = after step start first := by
  induction rounds with
  | zero => rw [Nat.zero_mul, Nat.add_zero]
  | succ rounds ih =>
    have split : first + (rounds + 1) * period = first + period + rounds * period := by
      rw [Nat.succ_mul]
      omega
    rw [split, after_add same, ih]

lemma not_ends_of_repeat {first second state} (earlier : first < second)
    (once : after step start first = some state) (twice : after step start second = some state) :
    ¬ Ends step start := by
  rintro ⟨count, ended⟩
  have period : first + (second - first) = second := by omega
  have same : after step start (first + (second - first)) = after step start first := by
    rw [period, once, twice]
  have round := after_round same count
  have far : count ≤ first + count * (second - first) :=
    Nat.le_trans (Nat.le_mul_of_pos_right count (by omega)) (Nat.le_add_left _ _)
  have gone := after_none ended (first + count * (second - first) - count)
  rw [Nat.add_sub_cancel' far, round, once] at gone
  exact some_ne_none _ gone

def Fresh (step : α → Option α) (start : α) : Prop :=
  ∀ first second state, after step start first = some state →
    after step start second = some state → first = second

lemma ends_iff_fresh {states : Set α} (finite : states.Finite)
    (inside : ∀ count state, after step start count = some state → state ∈ states) :
    Ends step start ↔ Fresh step start := by
  constructor
  · intro ends first second state once twice
    rcases Nat.lt_trichotomy first second with earlier | same | later
    · exact absurd ends (not_ends_of_repeat earlier once twice)
    · exact same
    · exact absurd ends (not_ends_of_repeat later twice once)
  · intro fresh
    by_contra endless
    have going : ∀ count, ∃ state, after step start count = some state := fun count =>
      ne_none_iff_exists'.1 fun ended => endless ⟨count, ended⟩
    choose state there using going
    have injective : Function.Injective state := fun first second same =>
      fresh first second (state first) (there first) (same ▸ there second)
    exact Set.infinite_of_injective_forall_mem injective (fun count => inside count _ (there count))
      finite

end

variable {step : α → Option α} {start : α} {image : β → Option β} {view : α → β}

lemma after_view (respects : ∀ state, (step state).map view = image (view state)) (count) :
    (after step start count).map view = after image (view start) count := by
  induction count with
  | zero => rfl
  | succ count ih =>
    rw [after_succ, after_succ, ← ih]
    cases after step start count with
    | none => rfl
    | some state => exact respects state

lemma ends_view (respects : ∀ state, (step state).map view = image (view state)) :
    Ends step start ↔ Ends image (view start) := by
  constructor
  · rintro ⟨count, ended⟩
    exact ⟨count, by rw [← after_view respects, ended, map_none]⟩
  · rintro ⟨count, ended⟩
    rw [← after_view respects, map_eq_none_iff] at ended
    exact ⟨count, ended⟩

end EmuLib.PartialWalk
