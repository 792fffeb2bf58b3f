import Mathlib.Data.List.Basic

/-!
What has begun in a list of events and has not ended since, as lists grow at their end.
-/

namespace EmuLib.Latest

open List

variable {Item : Type*}

def Since (starts : List Item → Item → Prop) (ends : Item → Prop) (items : List Item) : Prop :=
  ∃ earlier item later, items = earlier ++ item :: later ∧ starts earlier item ∧
    ∀ other ∈ later, ¬ ends other

variable {starts : List Item → Item → Prop} {ends : Item → Prop} {items : List Item}

lemma since_nil : ¬ Since starts ends [] := by
  rintro ⟨earlier, item, later, cut, _⟩
  exact absurd cut.symm (by simp)

lemma since_snoc (item) :
    Since starts ends (items ++ [item]) ↔
      starts items item ∨ Since starts ends items ∧ ¬ ends item := by
  constructor
  · rintro ⟨earlier, first, later, cut, begins, open_⟩
    rcases eq_nil_or_concat later with rfl | ⟨before, last, rfl⟩
    · obtain ⟨rfl, same⟩ := append_inj' cut rfl
      obtain rfl := singleton_inj.mp same
      exact .inl begins
    · rw [concat_eq_append] at cut open_
      have shape : earlier ++ first :: (before ++ [last]) = (earlier ++ first :: before) ++ [last] := by
        simp
      rw [shape] at cut
      obtain ⟨rfl, same⟩ := append_inj' cut rfl
      obtain rfl := singleton_inj.mp same
      refine .inr ⟨⟨earlier, first, before, rfl, begins, ?_⟩, open_ item (by simp)⟩
      intro other inside
      exact open_ other (by simp [inside])
  · rintro (begins | ⟨⟨earlier, first, later, rfl, begins, open_⟩, goesOn⟩)
    · exact ⟨items, item, [], rfl, begins, by simp⟩
    · refine ⟨earlier, first, later ++ [item], by simp, begins, ?_⟩
      intro other inside
      rcases mem_append.mp inside with inside | inside
      · exact open_ other inside
      · rw [mem_singleton.mp inside]
        exact goesOn

lemma Since.starting (since : Since starts ends items) :
    ∃ earlier, ∃ item ∈ items, starts earlier item := by
  obtain ⟨earlier, item, later, rfl, begins, _⟩ := since
  exact ⟨earlier, item, by simp, begins⟩

end EmuLib.Latest
