import Mathlib.Data.List.Basic

/-!
Words in consecutive places of a buffer, and the search for the first place where something
is found.
-/

namespace EmuLib.Buffer

variable {α : Type*}

def Holds (buf : Nat → α) (place : Nat) (words : List α) : Prop :=
  ∀ index (inside : index < words.length), buf (place + index) = words[index]

def seek (here : Nat → Bool) : Nat → Nat → Option Nat
  | 0, _ => none
  | limit + 1, start => if here start then some start else seek here limit (start + 1)

section

variable {buf : Nat → α} {place : Nat} {first second : List α}

lemma holds_append :
    Holds buf place (first ++ second) ↔
      Holds buf place first ∧ Holds buf (place + first.length) second := by
  constructor
  · intro both
    constructor
    · intro index inside
      rw [both index (by simp; omega), List.getElem_append_left inside]
    · intro index inside
      rw [Nat.add_assoc, both (first.length + index) (by simp; omega)]
      simp
  · rintro ⟨left, right⟩ index inside
    rw [List.length_append] at inside
    by_cases early : index < first.length
    · rw [left index early, List.getElem_append_left early]
    · rw [List.getElem_append_right (by omega), ← right (index - first.length) (by omega)]
      congr 1
      omega

lemma holds_cons {word} :
    Holds buf place (word :: second) ↔ buf place = word ∧ Holds buf (place + 1) second := by
  rw [← List.singleton_append, holds_append]
  refine and_congr_left' ⟨fun one => one 0 (by simp), fun one index inside => ?_⟩
  obtain rfl : index = 0 := by simpa using inside
  exact one

lemma Holds.at? {words} (holds : Holds buf place words) {index word}
    (known : words[index]? = some word) : buf (place + index) = word := by
  obtain ⟨inside, rfl⟩ := List.getElem?_eq_some_iff.mp known
  exact holds index inside

lemma Holds.getD (words : List α) (blank) :
    Holds (fun index => words.getD index blank) 0 words := by
  intro index inside
  simp [inside]

lemma holds_shift {words start} :
    Holds (fun index => buf (start + index)) place words ↔ Holds buf (start + place) words := by
  simp only [Holds, Nat.add_assoc]

end

variable {here there : Nat → Bool} {limit start place stop : Nat}

lemma seek_found (found : here start = true) : seek here (limit + 1) start = some start := by
  simp [seek, found]

lemma seek_eq_some_iff :
    seek here limit start = some place ↔
      start ≤ place ∧ place < start + limit ∧ here place = true ∧
        ∀ earlier, start ≤ earlier → earlier < place → here earlier = false := by
  induction limit generalizing start with
  | zero =>
    simp only [seek, reduceCtorEq, false_iff]
    omega
  | succ limit ih =>
    rw [seek]
    cases found : here start with
    | true =>
      simp only [if_true, Option.some.injEq]
      constructor
      · rintro rfl
        exact ⟨Nat.le_refl _, by omega, found, fun earlier _ _ => by omega⟩
      · rintro ⟨behind, _, _, first⟩
        by_contra other
        have missed := first start (Nat.le_refl _) (by omega)
        rw [found] at missed
        exact Bool.noConfusion missed
    | false =>
      simp only [Bool.false_eq_true, if_false, ih]
      constructor
      · rintro ⟨behind, within, there, first⟩
        refine ⟨by omega, by omega, there, fun earlier low high => ?_⟩
        rcases Nat.eq_or_lt_of_le low with same | later
        · exact same ▸ found
        · exact first earlier later high
      · rintro ⟨behind, within, there, first⟩
        have other : place ≠ start := by
          rintro rfl
          rw [found] at there
          exact Bool.noConfusion there
        exact ⟨by omega, by omega, there, fun earlier low high => first earlier (by omega) high⟩

lemma seek_bounds (found : seek here limit start = some place) :
    start ≤ place ∧ place < start + limit :=
  have facts := seek_eq_some_iff.mp found
  ⟨facts.1, facts.2.1⟩

/-- Two searches agree when they see the same up to a place where both come to an end. -/
lemma seek_shift (same : ∀ index ≤ stop, here (start + index) = there index)
    (ends : there stop = true) : seek here limit start = (seek there limit 0).map (start + ·) := by
  have from_place : ∀ place ≤ stop,
      seek here limit (start + place) = (seek there limit place).map (start + ·) := by
    induction limit with
    | zero => exact fun _ _ => rfl
    | succ limit ih =>
      intro place within
      rw [seek, seek, same place within]
      cases found : there place with
      | true => rfl
      | false =>
        have before : place ≠ stop := by
          rintro rfl
          rw [ends] at found
          exact Bool.noConfusion found
        simpa [Nat.add_assoc] using ih (place + 1) (by omega)
  exact from_place 0 (Nat.zero_le _)

lemma seek_le (ends : here stop = true) (behind : start ≤ stop) :
    (seek here limit start).getD (start + limit) ≤ stop := by
  induction limit generalizing start with
  | zero => exact behind
  | succ limit ih =>
    rw [seek]
    cases found : here start with
    | true => exact behind
    | false =>
      have before : start ≠ stop := by
        rintro rfl
        rw [ends] at found
        exact Bool.noConfusion found
      have later : (seek here limit (start + 1)).getD (start + 1 + limit) ≤ stop :=
        ih (by omega)
      rwa [Nat.add_right_comm] at later

end EmuLib.Buffer
