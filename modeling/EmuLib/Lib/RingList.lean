import Mathlib.Data.List.DropRight

/-!
A list whose ends are joined and that is never empty, with the place of its current element; and
the window of the last elements of a list, which is what such a ring keeps.
-/

namespace EmuLib.RingList

open List

variable {α β : Type*}

structure Circular (α : Type*) where
  before : List α
  current : α
  after : List α

namespace Circular

def size (ring : Circular α) : Nat := ring.before.length + 1 + ring.after.length

def advance (ring : Circular α) : Circular α :=
  match ring.after, ring.before with
  | next :: rest, before => ⟨before ++ [ring.current], next, rest⟩
  | [], first :: rest => ⟨[], first, rest ++ [ring.current]⟩
  | [], [] => ring

def modifyCurrent (ring : Circular α) (change : α → α) : Circular α :=
  { ring with current := change ring.current }

def map (ring : Circular α) (change : α → β) : Circular β :=
  ⟨ring.before.map change, change ring.current, ring.after.map change⟩

def pushBack (ring : Circular α) (element : α) : Circular α :=
  { ring with after := ring.after ++ [element] }

def fromOldest (ring : Circular α) : List α := ring.after ++ ring.before ++ [ring.current]

@[simp] lemma fromOldest_length (ring : Circular α) : ring.fromOldest.length = ring.size := by
  simp only [fromOldest, size, length_append, length_singleton]
  omega

@[simp] lemma fromOldest_map (ring : Circular α) (change : α → β) :
    (ring.map change).fromOldest = ring.fromOldest.map change := by
  simp [fromOldest, map]

@[simp] lemma size_modifyCurrent (ring : Circular α) (change) :
    (ring.modifyCurrent change).size = ring.size := rfl

@[simp] lemma size_map (ring : Circular α) (change : α → β) : (ring.map change).size = ring.size := by
  simp [size, map]

@[simp] lemma size_pushBack (ring : Circular α) (element) :
    (ring.pushBack element).size = ring.size + 1 := by
  simp only [size, pushBack, length_append, length_singleton]
  omega

lemma fromOldest_modifyCurrent {ring : Circular α} {earlier last}
    (elements : ring.fromOldest = earlier ++ [last]) (change) :
    (ring.modifyCurrent change).fromOldest = earlier ++ [change last] := by
  obtain ⟨same, current⟩ := append_inj' elements rfl
  simp only [List.cons.injEq, and_true] at current
  simp [fromOldest, modifyCurrent, same, current]

lemma fromOldest_advance {ring : Circular α} {oldest rest}
    (elements : ring.fromOldest = oldest :: rest) : ring.advance.fromOldest = rest ++ [oldest] := by
  obtain ⟨before, current, after⟩ := ring
  cases after with
  | cons next later =>
    obtain ⟨rfl, rfl⟩ := elements
    simp [advance, fromOldest]
  | nil =>
    cases before with
    | cons first later =>
      obtain ⟨rfl, rfl⟩ := elements
      simp [advance, fromOldest]
    | nil =>
      obtain ⟨rfl, rfl⟩ := elements
      rfl

@[simp] lemma size_advance (ring : Circular α) : ring.advance.size = ring.size := by
  obtain ⟨oldest, rest, elements⟩ : ∃ oldest rest, ring.fromOldest = oldest :: rest := by
    apply exists_cons_of_ne_nil
    simp [fromOldest]
  rw [← fromOldest_length, fromOldest_advance elements, ← fromOldest_length, elements]
  simp

def All (holds : α → Prop) (ring : Circular α) : Prop :=
  (∀ element ∈ ring.before, holds element) ∧ holds ring.current ∧
    ∀ element ∈ ring.after, holds element

variable {holds : α → Prop} {ring : Circular α}

lemma all_iff : ring.All holds ↔ ∀ element ∈ ring.fromOldest, holds element := by
  simp only [All, fromOldest, mem_append, mem_singleton]
  constructor
  · rintro ⟨before, current, after⟩ element ((found | found) | rfl)
    · exact after element found
    · exact before element found
    · exact current
  · intro every
    exact ⟨fun element found => every element (.inl (.inr found)), every _ (.inr rfl),
      fun element found => every element (.inl (.inl found))⟩

lemma all_advance (all : ring.All holds) : ring.advance.All holds := by
  obtain ⟨before, current, after⟩ := ring
  obtain ⟨inBefore, isCurrent, inAfter⟩ := all
  cases after with
  | cons next rest =>
    obtain ⟨isNext, inRest⟩ := forall_mem_cons.mp inAfter
    exact ⟨forall_mem_append.mpr ⟨inBefore, by simpa using isCurrent⟩, isNext, inRest⟩
  | nil =>
    cases before with
    | nil => exact ⟨inBefore, isCurrent, inAfter⟩
    | cons first rest =>
      obtain ⟨isFirst, inRest⟩ := forall_mem_cons.mp inBefore
      exact ⟨forall_mem_nil _, isFirst, forall_mem_append.mpr ⟨inRest, by simpa using isCurrent⟩⟩

lemma all_modifyCurrent {change} (changed : holds ring.current → holds (change ring.current))
    (all : ring.All holds) : (ring.modifyCurrent change).All holds :=
  ⟨all.1, changed all.2.1, all.2.2⟩

lemma all_map {kept : β → Prop} {change} (changed : ∀ element, kept (change element)) :
    (ring.map change).All kept := by
  refine ⟨?_, changed _, ?_⟩ <;>
  · intro element found
    obtain ⟨_, _, rfl⟩ := mem_map.mp found
    exact changed _

lemma all_pushBack {element} (all : ring.All holds) (added : holds element) :
    (ring.pushBack element).All holds :=
  ⟨all.1, all.2.1, forall_mem_append.mpr ⟨all.2.2, by simpa using added⟩⟩

end Circular

variable {elements : List α} {count : Nat}

lemma rtake_of_length_le (few : elements.length ≤ count) : elements.rtake count = elements := by
  have none : elements.length - count = 0 := by omega
  rw [rtake, none, drop_zero]

lemma rtake_length (elements : List α) (count) :
    (elements.rtake count).length = min count elements.length := by
  rw [rtake, length_drop]
  omega

lemma rtake_snoc (elements : List α) (element) (positive : 0 < count) :
    (elements.rtake count ++ [element]).rtake count = (elements ++ [element]).rtake count := by
  obtain ⟨less, rfl⟩ : ∃ less, count = less + 1 := ⟨count - 1, by omega⟩
  rw [rtake_concat_succ, rtake_concat_succ, rtake, rtake, length_drop, drop_drop]
  congr 2
  omega

lemma rtake_eq_rtake {first second} :
    elements.rtake first = elements.rtake second ↔
      min first elements.length = min second elements.length := by
  constructor
  · intro same
    rw [← rtake_length, ← rtake_length, same]
  · intro same
    have dropped : elements.length - first = elements.length - second := by omega
    rw [rtake, rtake, dropped]

lemma rtake_suffix (elements : List α) (count) : elements.rtake count <:+ elements :=
  drop_suffix _ _

end EmuLib.RingList
