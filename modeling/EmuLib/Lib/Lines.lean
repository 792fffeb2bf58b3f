import Mathlib.Data.List.Basic

/-!
The lines of a text as `fgets` reads them, what `strrchr` cuts off, and the words of a line.
-/

namespace EmuLib.Lines

open List

variable {α : Type*}

def consFirst (item : α) : List (List α) → List (List α)
  | [] => [[item]]
  | first :: others => (item :: first) :: others

section

variable [DecidableEq α] (newline : α) (size : Nat)

/-- At most `size` items at a time, and never beyond a newline; there is room for so many more. -/
def linesFrom : Nat → List α → List (List α)
  | _, [] => []
  | room, item :: rest =>
    if item = newline ∨ room ≤ 1 then [item] :: linesFrom size rest
    else consFirst item (linesFrom (room - 1) rest)

def lines (text : List α) : List (List α) := linesFrom newline size size text

def Whole : List (List α) → Prop
  | [] => True
  | line :: rest =>
    line.length ≤ size ∧ Whole rest ∧
      ∃ text, newline ∉ text ∧ (line = text ++ [newline] ∨ line = text ∧ text ≠ [] ∧ rest = [])

variable {newline size}

lemma linesFrom_ended (text rest) (inside : newline ∉ text) :
    ∀ room, text.length + 1 ≤ room →
      linesFrom newline size room (text ++ newline :: rest) =
        (text ++ [newline]) :: linesFrom newline size size rest := by
  induction text with
  | nil =>
    intro room _
    exact if_pos (Or.inl rfl)
  | cons item others ih =>
    intro room fits
    rw [mem_cons, not_or] at inside
    rw [length_cons] at fits
    have within : ¬(item = newline ∨ room ≤ 1) := by
      rintro (same | short)
      · exact inside.1 same.symm
      · omega
    have later := ih inside.2 (room - 1) (by omega)
    rw [cons_append, linesFrom, if_neg within, later]
    rfl

lemma linesFrom_last (text) (inside : newline ∉ text) (some_ : text ≠ []) :
    ∀ room, text.length ≤ room → linesFrom newline size room text = [text] := by
  induction text with
  | nil => exact absurd rfl some_
  | cons item others ih =>
    intro room fits
    rw [mem_cons, not_or] at inside
    rw [length_cons] at fits
    cases others with
    | nil =>
      rw [linesFrom]
      split <;> rfl
    | cons next more =>
      have within : ¬(item = newline ∨ room ≤ 1) := by
        rintro (same | short)
        · exact inside.1 same.symm
        · rw [length_cons] at fits
          omega
      have later := ih inside.2 (cons_ne_nil next more) (room - 1) (by omega)
      rw [linesFrom, if_neg within, later]
      rfl

lemma lines_flatten (all) (whole : Whole newline size all) :
    lines newline size all.flatten = all := by
  induction all with
  | nil => rfl
  | cons line rest ih =>
    obtain ⟨fits, later, text, inside, ended | ⟨last, some_, rfl⟩⟩ := whole
    · subst ended
      have room : text.length + 1 ≤ size := by simpa using fits
      have read := @linesFrom_ended α _ newline size text rest.flatten inside size room
      rw [flatten_cons, append_assoc, singleton_append, lines, read]
      exact congrArg ((text ++ [newline]) :: ·) (ih later)
    · subst last
      rw [flatten_cons, flatten_nil, append_nil]
      exact linesFrom_last line inside some_ size fits

end

section

variable [DecidableEq α]

def cutLast (mark : α) : List α → List α
  | [] => []
  | item :: rest =>
    if mark ∈ rest then item :: cutLast mark rest else if item = mark then [] else item :: rest

lemma cutLast_none {mark : α} {text} (none_ : mark ∉ text) : cutLast mark text = text := by
  cases text with
  | nil => rfl
  | cons item rest =>
    rw [mem_cons, not_or] at none_
    rw [cutLast, if_neg none_.2, if_neg (Ne.symm none_.1)]

lemma cutLast_append {mark} (text : List α) {rest} (none_ : mark ∉ rest) :
    cutLast mark (text ++ mark :: rest) = text := by
  induction text with
  | nil => rw [nil_append, cutLast, if_neg none_, if_pos rfl]
  | cons item others ih =>
    have later : mark ∈ others ++ mark :: rest := by simp
    rw [cons_append, cutLast, if_pos later, ih]

end

variable (blank : α → Bool)

def ends (rest : List α) : Bool := rest.head?.all blank

def words : List α → List (List α)
  | [] => []
  | item :: rest =>
    if blank item then words rest
    else if ends blank rest then [item] :: words rest
    else consFirst item (words rest)

variable {blank}

lemma words_blanks (gap) (blanks : ∀ item ∈ gap, blank item = true) (rest) :
    words blank (gap ++ rest) = words blank rest := by
  induction gap with
  | nil => rfl
  | cons item others ih =>
    have first := blanks item mem_cons_self
    rw [cons_append, words, if_pos first]
    exact ih fun other member => blanks other (mem_cons_of_mem item member)

lemma words_word (word) (solid : ∀ item ∈ word, blank item = false) (some_ : word ≠ []) {rest}
    (ended : ends blank rest = true) : words blank (word ++ rest) = word :: words blank rest := by
  induction word with
  | nil => exact absurd rfl some_
  | cons item others ih =>
    have first := solid item mem_cons_self
    have more : ∀ other ∈ others, blank other = false := fun other member =>
      solid other (mem_cons_of_mem item member)
    rw [cons_append, words, if_neg (by rw [first]; exact Bool.false_ne_true)]
    cases others with
    | nil => exact if_pos ended
    | cons next further =>
      have goes_on : ¬ends blank (next :: further ++ rest) = true := by
        simpa [ends] using more next mem_cons_self
      rw [if_neg goes_on, ih more (cons_ne_nil next further)]
      rfl

lemma mem_words {text word} (member : word ∈ words blank text) :
    word ≠ [] ∧ ∀ item ∈ word, item ∈ text ∧ blank item = false := by
  induction text generalizing word with
  | nil => exact absurd member not_mem_nil
  | cons item rest ih =>
    have later {other : List α} (found : other ∈ words blank rest) :
        other ≠ [] ∧ ∀ one ∈ other, one ∈ item :: rest ∧ blank one = false := by
      obtain ⟨some_, inside⟩ := ih found
      exact ⟨some_, fun one place =>
        ⟨mem_cons_of_mem item (inside one place).1, (inside one place).2⟩⟩
    rw [words] at member
    by_cases gap : blank item = true
    · rw [if_pos gap] at member
      exact later member
    · rw [if_neg gap] at member
      have first : item ∈ item :: rest ∧ blank item = false :=
        ⟨mem_cons_self, Bool.eq_false_iff.2 gap⟩
      have alone : [item] ≠ [] ∧ ∀ one ∈ [item], one ∈ item :: rest ∧ blank one = false := by
        refine ⟨cons_ne_nil item [], fun one place => ?_⟩
        rw [mem_singleton.1 place]
        exact first
      split at member
      · rcases mem_cons.1 member with rfl | found
        · exact alone
        · exact later found
      · cases found : words blank rest with
        | nil =>
          rw [found] at member
          rw [mem_singleton.1 member]
          exact alone
        | cons start others =>
          rw [found] at member
          rcases mem_cons.1 member with rfl | other
          · refine ⟨cons_ne_nil item start, fun one place => ?_⟩
            rcases mem_cons.1 place with rfl | inside
            · exact first
            · exact (later (found ▸ mem_cons_self)).2 one inside
          · exact later (found ▸ mem_cons_of_mem start other)

end EmuLib.Lines
