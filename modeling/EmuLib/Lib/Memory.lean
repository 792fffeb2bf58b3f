import Mathlib.Data.List.GetD

/-!
Lists of values in consecutive places of a memory.
-/

namespace EmuLib.Memory

open List

variable {α : Type*}

def store (memory : Nat → α) (place : Nat) (values : List α) : Nat → α := fun address =>
  if place ≤ address then values.getD (address - place) (memory address) else memory address

def load (memory : Nat → α) (place count : Nat) : List α :=
  (List.range count).map fun index => memory (place + index)

@[simp] lemma load_length (memory : Nat → α) (place count) :
    (load memory place count).length = count := by
  simp [load]

variable {memory : Nat → α} {place : Nat}

lemma load_congr {other count} :
    load memory place count = load other place count ↔
      ∀ index < count, memory (place + index) = other (place + index) := by
  simp [load]

lemma load_add (memory : Nat → α) (place count more) :
    load memory place (count + more) =
      load memory place count ++ load memory (place + count) more := by
  simp [load, range_add, Nat.add_assoc]

variable {values : List α}

lemma store_outside (memory) {address}
    (outside : address < place ∨ place + values.length ≤ address) :
    store memory place values address = memory address := by
  unfold store
  split
  · exact getD_eq_default _ _ (by omega)
  · rfl

lemma store_inside (memory place) {index} (inside) :
    store memory place values (place + index) = values[index] := by
  simp [store, inside]

lemma store_same {other address}
    (same : memory address = other address ∨
      place ≤ address ∧ address < place + values.length) :
    store memory place values address = store other place values address := by
  unfold store
  rcases same with same | ⟨behind, within⟩
  · rw [same]
  · rw [if_pos behind, if_pos behind, getD_eq_getElem _ _ (by omega),
      getD_eq_getElem _ _ (by omega)]

@[simp] lemma store_nil (memory : Nat → α) (place) : store memory place [] = memory := by
  funext address
  simp [store]

lemma load_store (memory : Nat → α) (place values) :
    load (store memory place values) place values.length = values := by
  apply ext_getElem
  · simp
  · intro index _ inside
    simpa [load] using store_inside memory place inside

lemma load_store_apart (memory) {count start}
    (apart : place + count ≤ start ∨ start + values.length ≤ place) :
    load (store memory start values) place count = load memory place count := by
  rw [load_congr]
  intro index bound
  exact store_outside memory (by omega)

lemma load_store_append (memory : Nat → α) (place count values) :
    load (store memory (place + count) values) place (count + values.length) =
      load memory place count ++ values := by
  rw [load_add, load_store, load_store_apart memory (Or.inl (Nat.le_refl _))]

lemma store_append (memory : Nat → α) (place first second) :
    store memory place (first ++ second) =
      store (store memory place first) (place + first.length) second := by
  funext address
  by_cases before : address < place + first.length
  · rw [store_outside _ (Or.inl before)]
    unfold store
    split
    · rw [getD_append _ _ _ _ (by omega)]
    · rfl
  · have inSecond : address - place - first.length = address - (place + first.length) := by omega
    unfold store
    rw [if_pos (by omega), if_pos (by omega), if_pos (by omega),
      getD_append_right _ _ _ _ (by omega), inSecond,
      getD_eq_default first _ (by omega)]

lemma load_store_middle (memory : Nat → α) (place first second third) :
    load (store memory place (first ++ second ++ third)) (place + first.length) second.length =
      second := by
  rw [store_append, store_append, load_store_apart _ (Or.inl (by simp [Nat.add_assoc])),
    load_store]

lemma load_at (loaded : load memory place values.length = values) (index within) : memory
    (place + index) = values[index] := by
  have read : (load memory place values.length).get ⟨index, by simpa using within⟩ =
      memory (place + index) := by
    simp [load]
  rw [← read]
  exact getElem_of_eq loaded _

end EmuLib.Memory
