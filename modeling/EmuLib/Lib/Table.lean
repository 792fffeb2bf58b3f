import Mathlib.Data.List.GetD
import Mathlib.Logic.Function.Basic

/-!
Tables of a fixed size whose indices are checked, and loops over a range of indices that may fail.
-/

namespace EmuLib.Table

open List Function

variable {α State Plain Item : Type}

def entry (table : List α) (index : Int) : Option α :=
  if 0 ≤ index then table[index.toNat]? else none

def enter (table : List α) (index : Int) (value : α) : Option (List α) :=
  if 0 ≤ index ∧ index.toNat < table.length then some (table.set index.toNat value) else none

section

variable {table : List α} {index : Nat}

@[simp] lemma entry_natCast (table : List α) (index : Nat) :
    entry table (index : Int) = table[index]? := by
  rw [entry, if_pos (Int.natCast_nonneg index), Int.toNat_natCast]

lemma entry_inside (inside) : entry table (index : Int) = some table[index] := by
  rw [entry_natCast, getElem?_eq_getElem inside]

lemma enter_inside (inside : index < table.length) (value) :
    enter table (index : Int) value = some (table.set index value) := by
  rw [enter, Int.toNat_natCast, if_pos ⟨Int.natCast_nonneg index, inside⟩]

end

section

structure Shows (table : List α) (size : Nat) (values : Int → α) : Prop where
  length_eq : table.length = size
  entry_eq : ∀ index < size, table[index]? = some (values (index : Nat))

variable {table : List α} {size : Nat} {values : Int → α} {index : Int}

lemma shows_replicate (size) (value : α) :
    Shows (replicate size value) size fun _ => value :=
  ⟨length_replicate, fun _ inside => getElem?_replicate_of_lt inside⟩

lemma Shows.congr {other} (shows_ : Shows table size values)
    (same : ∀ index : Nat, index < size → values index = other index) : Shows table size other :=
  ⟨shows_.length_eq, fun index inside => by rw [shows_.entry_eq index inside, same index inside]⟩

lemma Shows.entry (shows_ : Shows table size values) (inside : 0 ≤ index ∧ index < size) :
    entry table index = some (values index) := by
  obtain ⟨place, rfl⟩ := Int.eq_ofNat_of_zero_le inside.1
  have below : place < size := Int.ofNat_lt.1 inside.2
  exact (entry_natCast table place).trans (shows_.entry_eq place below)

lemma Shows.enter (shows_ : Shows table size values) (inside : 0 ≤ index ∧ index < size)
    (value) : ∃ next, enter table index value = some next ∧
      Shows next size (update values index value) := by
  obtain ⟨place, rfl⟩ := Int.eq_ofNat_of_zero_le inside.1
  have below : place < size := Int.ofNat_lt.1 inside.2
  have fits : place < table.length := shows_.length_eq ▸ below
  refine ⟨table.set place value, enter_inside fits value, ?_, fun other within => ?_⟩
  · rw [length_set]
    exact shows_.length_eq
  · by_cases same : place = other
    · subst same
      rw [getElem?_set_self fits]
      exact congrArg some (update_self (place : Int) value values).symm
    · rw [getElem?_set_ne same, shows_.entry_eq other within]
      have apart : (other : Int) ≠ (place : Int) := fun eq => same (Int.ofNat.inj eq).symm
      rw [update_of_ne apart]

end

lemma foldlM_range' {body} {holds : Nat → State → Prop}
    {first count start} (begins : holds first start)
    (keeps : ∀ index, first ≤ index → index < first + count → ∀ state, holds index state →
      ∃ next, body state index = some next ∧ holds (index + 1) next) :
    ∃ last, (range' first count).foldlM body start = some last ∧
      holds (first + count) last := by
  induction count generalizing first start with
  | zero => exact ⟨start, rfl, begins⟩
  | succ count ih =>
    obtain ⟨next, done, after⟩ := keeps first (Nat.le_refl _) (by omega) start begins
    obtain ⟨last, rest, ends⟩ := ih after fun index above below =>
      keeps index (by omega) (by omega)
    refine ⟨last, ?_, ?_⟩
    · rw [range'_succ, foldlM_cons, done]
      exact rest
    · have shift : first + (count + 1) = first + 1 + count := by omega
      rw [shift]
      exact ends

lemma foldlM_turns {body} {holds : State → Prop}
    (keeps : ∀ state item next, holds state → body state item = some next → holds next)
    {items : List Item} {start last} (begins : holds start)
    (ended : items.foldlM body start = some last) :
    holds last ∧ ∀ item ∈ items, ∃ state next, holds state ∧ body state item = some next := by
  induction items generalizing start with
  | nil =>
    rw [← Option.some.inj ended]
    exact ⟨begins, fun item member => absurd member not_mem_nil⟩
  | cons item rest ih =>
    obtain ⟨next, done, further⟩ := Option.bind_eq_some_iff.1 ended
    obtain ⟨ends, turns⟩ := ih (keeps start item next begins done) further
    refine ⟨ends, fun other member => ?_⟩
    rcases mem_cons.1 member with rfl | later
    · exact ⟨start, next, begins, done⟩
    · exact turns other later

lemma foldlM_some {body pure_}
    {items : List Item} (turns : ∀ item ∈ items, ∀ state, body state item = some (pure_ state item))
    (start : State) : items.foldlM body start = some (items.foldl pure_ start) := by
  induction items generalizing start with
  | nil => rfl
  | cons item rest ih =>
    rw [foldlM_cons, turns item mem_cons_self]
    exact ih (fun other member => turns other (mem_cons_of_mem _ member)) _

variable {size : Nat}

def arrayAt (array : Fin size → α) (index : Nat) : Option α :=
  if inside : index < size then some (array ⟨index, inside⟩) else none

def setArray (array : Fin size → α) (index : Nat) (value : α) : Option (Fin size → α) :=
  if inside : index < size then some (update array ⟨index, inside⟩ value) else none

variable {array : Fin size → α} {index : Nat}

lemma arrayAt_inside (inside) :
    arrayAt array index = some (array ⟨index, inside⟩) := dif_pos inside

lemma setArray_inside (inside value) :
    setArray array index value = some (update array ⟨index, inside⟩ value) := dif_pos inside

lemma inside_of_setArray {value next}
    (set : setArray array index value = some next) : index < size := by
  by_contra outside
  rw [setArray, dif_neg outside] at set
  exact absurd set (by simp)

lemma foldlM_entries {body} {field : State → Fin size → α}
    {change : Fin size → α → α} {count}
    (turn : ∀ state index, index < count → ∃ (inside : index < size) (next : State),
      body state index = some next ∧ field next = update (field state) ⟨index, inside⟩
        (change ⟨index, inside⟩ (field state ⟨index, inside⟩)))
    (start) :
    ∃ last, (List.range count).foldlM body start = some last ∧ ∀ place : Fin size,
      field last place =
        if (place : Nat) < count then change place (field start place) else field start place := by
  rw [range_eq_range']
  have run := @foldlM_range' State body
    (fun index state => ∀ place : Fin size, field state place =
      if (place : Nat) < index then change place (field start place) else field start place)
    0 count start (fun place => (if_neg (Nat.not_lt_zero _)).symm) ?_
  · obtain ⟨last, ended, entries⟩ := run
    rw [Nat.zero_add] at entries
    exact ⟨last, ended, entries⟩
  · intro index _ below state before
    obtain ⟨inside, next, done, changed⟩ := turn state index (by omega)
    refine ⟨next, done, fun place => ?_⟩
    rw [changed]
    by_cases here : place = ⟨index, inside⟩
    · subst here
      rw [update_self, before, if_neg (Nat.lt_irrefl _), if_pos (Nat.lt_succ_self _)]
    · have apart : (place : Nat) ≠ index := fun eq => here (Fin.ext eq)
      have same : (place : Nat) < index + 1 ↔ (place : Nat) < index := by omega
      rw [update_of_ne here, before]
      simp only [same]

end EmuLib.Table
