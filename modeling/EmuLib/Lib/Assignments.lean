import Mathlib.Logic.Function.Basic

/-!
Assignments to the members of an object, one after the other.
-/

namespace EmuLib.Assignments

open Function

variable {κ ν : Type*} [DecidableEq κ]

def assignAll : List (κ × ν) → (κ → ν) → κ → ν
  | [], values => values
  | (member, value) :: rest, values => assignAll rest (Function.update values member value)

lemma assignAll_congr (assignments : List (κ × ν)) {values others member}
    (same : values member = others member) :
    assignAll assignments values member = assignAll assignments others member := by
  induction assignments generalizing values others with
  | nil => exact same
  | cons assignment rest ih =>
    refine ih ?_
    by_cases here : member = assignment.1
    · rw [here, update_self, update_self]
    · rw [update_of_ne here, update_of_ne here, same]

lemma assignAll_other {assignments member} (other : member ∉ assignments.map Prod.fst)
    (values : κ → ν) : assignAll assignments values member = values member := by
  induction assignments generalizing values with
  | nil => rfl
  | cons assignment rest ih =>
    rw [List.map_cons, List.mem_cons, not_or] at other
    exact (ih other.2 _).trans (update_of_ne other.1 _ _)

lemma assignAll_agreed {assignments : List (κ × ν)} {member value}
    (agreed : ∀ assignment ∈ assignments, assignment.1 = member → assignment.2 = value)
    (assigned : member ∈ assignments.map Prod.fst) (values) :
    assignAll assignments values member = value := by
  induction assignments generalizing values with
  | nil => exact absurd assigned List.not_mem_nil
  | cons assignment rest ih =>
    obtain ⟨here, later⟩ := List.forall_mem_cons.1 agreed
    by_cases again : member ∈ rest.map Prod.fst
    · exact ih later again _
    · have now : assignment.1 = member := by
        rw [List.map_cons, List.mem_cons] at assigned
        exact (assigned.resolve_right again).symm
      rw [assignAll, assignAll_other again, ← now, update_self]
      exact here now

end EmuLib.Assignments
