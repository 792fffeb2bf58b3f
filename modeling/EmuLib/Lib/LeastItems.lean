import Mathlib.Data.List.Induction

/-!
The first of the least items of a kind, and the loop that looks for it.
-/

namespace EmuLib.LeastItems

open List

variable {Item Found : Type}

def FirstLeast (items : List Item) (fits : Item → Prop) (key : Item → Nat) (item : Item) : Prop :=
  ∃ before after, items = before ++ item :: after ∧ fits item ∧
    (∀ other ∈ before, fits other → key item < key other) ∧
    ∀ other ∈ after, fits other → key item ≤ key other

variable {fits : Item → Prop} [DecidablePred fits] {key : Item → Nat} {items : List Item}
  {item : Item}

def look (fits : Item → Prop) [DecidablePred fits] (key : Item → Nat) (value : Item → Found)
    (best : Found × Nat) (item : Item) : Found × Nat :=
  if key item < best.2 ∧ fits item then (value item, key item) else best

omit [DecidablePred fits] in
lemma FirstLeast.mem (first : FirstLeast items fits key item) : item ∈ items := by
  obtain ⟨before, after, rfl, -⟩ := first
  exact mem_append_right _ mem_cons_self

omit [DecidablePred fits] in
lemma FirstLeast.unique {other : Item} (first : FirstLeast items fits key item)
    (second : FirstLeast items fits key other) : item = other := by
  obtain ⟨before, after, rfl, is, early, late⟩ := first
  obtain ⟨before', after', same, is', early', late'⟩ := second
  rcases append_eq_append_iff.1 same with ⟨middle, rfl, rest⟩ | ⟨middle, rfl, rest⟩
  · cases middle with
    | nil => exact (List.cons.inj rest).1
    | cons head middle =>
      obtain ⟨rfl, rfl⟩ := List.cons.inj rest
      have less := early' item (mem_append_right _ mem_cons_self) is
      have more := late other (mem_append_right _ mem_cons_self) is'
      omega
  · cases middle with
    | nil => exact (List.cons.inj rest).1.symm
    | cons head middle =>
      obtain ⟨rfl, rfl⟩ := List.cons.inj rest
      have less := early other (mem_append_right _ mem_cons_self) is'
      have more := late' item (mem_append_right _ mem_cons_self) is
      omega

lemma foldl_look (value : Item → Found) (nothing) {most}
    (small : ∀ item ∈ items, fits item → key item < most) :
    (∀ item ∈ items, ¬ fits item) ∧
        items.foldl (look fits key value) (nothing, most) = (nothing, most) ∨
      ∃ item, FirstLeast items fits key item ∧
        items.foldl (look fits key value) (nothing, most) = (value item, key item) := by
  induction items using reverseRecOn with
  | nil => exact .inl ⟨fun _ member => absurd member not_mem_nil, rfl⟩
  | append_singleton items last ih =>
    have inside : ∀ item ∈ items, fits item → key item < most := fun item member =>
      small item (mem_append_left _ member)
    rw [foldl_append, foldl_cons]
    rcases ih inside with ⟨none_, same⟩ | ⟨item, first, same⟩
    · rw [same]
      by_cases is : fits last
      · have below := small last (mem_append_right _ mem_cons_self) is
        rw [look, if_pos ⟨below, is⟩]
        exact .inr ⟨last, ⟨items, [], rfl, is, fun other member fit =>
          absurd fit (none_ other member), fun _ member => absurd member not_mem_nil⟩, rfl⟩
      · rw [look, if_neg fun both => is both.2]
        refine .inl ⟨fun other member => ?_, rfl⟩
        rcases mem_append.1 member with before | here
        · exact none_ other before
        · rw [mem_singleton.1 here]
          exact is
    · rw [same]
      obtain ⟨before, after, rfl, is, early, late⟩ := first
      by_cases better : key last < key item ∧ fits last
      · rw [look, if_pos better]
        refine .inr ⟨last, ⟨before ++ item :: after, [], rfl, better.2, ?_,
          fun _ member => absurd member not_mem_nil⟩, rfl⟩
        intro other member fit
        rcases mem_append.1 member with ahead | rest
        · exact Nat.lt_trans better.1 (early other ahead fit)
        · rcases mem_cons.1 rest with rfl | behind
          · exact better.1
          · exact Nat.lt_of_lt_of_le better.1 (late other behind fit)
      · rw [look, if_neg better]
        refine .inr ⟨item, ⟨before, after ++ [last], ?_, is, early, fun other member fit => ?_⟩, rfl⟩
        · rw [append_assoc, cons_append]
        · rcases mem_append.1 member with behind | here
          · exact late other behind fit
          · obtain rfl := mem_singleton.1 here
            exact Nat.not_lt.1 fun less => better ⟨less, fit⟩

end EmuLib.LeastItems
