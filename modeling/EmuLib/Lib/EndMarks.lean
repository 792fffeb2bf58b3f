import Mathlib.Data.List.Induction

/-!
A list in which some items end a group: the complete groups in it, and the items after
the last end.
-/

namespace EmuLib.EndMarks

variable {Item : Type*} (ends : Item → Bool)

def mark (cut : List (List Item) × List Item) (item : Item) : List (List Item) × List Item :=
  if ends item then (cut.1 ++ [cut.2 ++ [item]], []) else (cut.1, cut.2 ++ [item])

def cut (items : List Item) : List (List Item) × List Item := items.foldl (mark ends) ([], [])

def throughEnd : List Item → List Item × List Item
  | [] => ([], [])
  | item :: rest =>
    if ends item then ([item], rest)
    else (item :: (throughEnd rest).1, (throughEnd rest).2)

variable {ends}

@[simp] lemma cut_nil : cut ends [] = ([], []) := rfl

lemma cut_snoc (items item) : cut ends (items ++ [item]) = mark ends (cut ends items) item := by
  simp [cut]

lemma foldl_mark (groups) (opened items : List Item) :
    items.foldl (mark ends) (groups, opened) =
      (groups ++ (items.foldl (mark ends) ([], opened)).1,
        (items.foldl (mark ends) ([], opened)).2) := by
  induction items generalizing groups opened with
  | nil => simp
  | cons item rest ih =>
    simp only [List.foldl_cons, mark]
    cases ends item with
    | true =>
      simp only [if_true]
      rw [ih (groups ++ [opened ++ [item]]), ih ([] ++ [opened ++ [item]])]
      simp
    | false =>
      exact ih groups (opened ++ [item])

lemma foldl_throughEnd (opened items) (marked : items.any ends = true) :
    items.foldl (mark ends) ([], opened) =
      ((opened ++ (throughEnd ends items).1) :: (cut ends (throughEnd ends items).2).1,
        (cut ends (throughEnd ends items).2).2) := by
  induction items generalizing opened with
  | nil => simp at marked
  | cons item rest ih =>
    simp only [List.foldl_cons, mark, throughEnd]
    cases here : ends item with
    | true =>
      rw [foldl_mark]
      rfl
    | false =>
      simp only [Bool.false_eq_true, if_false]
      have later : rest.any ends = true := by simpa [here] using marked
      rw [ih (opened ++ [item]) later]
      simp

variable {items : List Item}

lemma cut_throughEnd (marked : items.any ends = true) :
    cut ends items =
      ((throughEnd ends items).1 :: (cut ends (throughEnd ends items).2).1,
        (cut ends (throughEnd ends items).2).2) := by
  unfold cut
  rw [foldl_throughEnd [] items marked]
  rfl

lemma cut_unmarked (unmarked : items.any ends = false) : cut ends items = ([], items) := by
  have keeps : ∀ opened : List Item,
      items.foldl (mark ends) ([], opened) = ([], opened ++ items) := by
    induction items with
    | nil => simp
    | cons item rest ih =>
      simp only [List.any_cons, Bool.or_eq_false_iff] at unmarked
      intro opened
      simp only [List.foldl_cons, mark, unmarked.1, Bool.false_eq_true, if_false]
      rw [ih unmarked.2]
      simp
  simpa [cut] using keeps []

lemma throughEnd_append (items) :
    (throughEnd ends items).1 ++ (throughEnd ends items).2 = items := by
  induction items with
  | nil => rfl
  | cons item rest ih =>
    simp only [throughEnd]
    cases ends item with
    | true => rfl
    | false =>
      simp only [Bool.false_eq_true, if_false, List.cons_append]
      rw [ih]

lemma throughEnd_length (marked : items.any ends = true) :
    (throughEnd ends items).2.length < items.length := by
  induction items with
  | nil => simp at marked
  | cons item rest ih =>
    simp only [throughEnd]
    cases here : ends item with
    | true => simp
    | false =>
      have later : rest.any ends = true := by simpa [here] using marked
      have shorter := ih later
      simp only [Bool.false_eq_true, if_false, List.length_cons]
      omega

lemma cut_groups (items) : (cut ends items).1.length = items.countP ends := by
  induction items using List.reverseRecOn with
  | nil => rfl
  | append_singleton items item ih =>
    rw [cut_snoc]
    unfold mark
    cases isEnd : ends item <;> simp [ih, isEnd]

lemma throughEnd_count (marked : items.any ends = true) :
    items.countP ends = (throughEnd ends items).2.countP ends + 1 := by
  rw [← cut_groups, ← cut_groups, cut_throughEnd marked, List.length_cons]

lemma cut_cons_end {item} (rest) (isEnd : ends item = true) :
    cut ends (item :: rest) = ([item] :: (cut ends rest).1, (cut ends rest).2) := by
  have marked : (item :: rest).any ends = true := by simp [isEnd]
  rw [cut_throughEnd marked]
  simp [throughEnd, isEnd]

end EmuLib.EndMarks
