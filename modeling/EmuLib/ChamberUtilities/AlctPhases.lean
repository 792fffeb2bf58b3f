import EmuLib.Lib.LeastItems
import EmuLib.Lib.Table

/-!
The choice of the ALCT's receive and transmit phases from a table of results.
-/

namespace EmuLib.ChamberUtilities

open LeastItems List

def maxNumberOfValues : Nat := 25

def element (timing : Nat → Nat → Int) (row column : Int) : Option Int :=
  if (0 ≤ row ∧ row < maxNumberOfValues) ∧ 0 ≤ column ∧ column < maxNumberOfValues then
    some (timing row.toNat column.toNat)
  else none

/-- The non-zero elements read one after the other; the last one is read before the count ends. -/
def scanElements (read : Nat → Option Int) : Nat → Nat → Option Nat
  | 0, distance => do
      let _ ← read distance
      return distance - 1
  | left + 1, distance => do
      let value ← read distance
      if value ≠ 0 then scanElements read left (distance + 1) else return distance - 1

structure Neighbours where
  down : Nat
  right : Nat
  up : Nat
  left : Nat
  deriving DecidableEq

def scanNeighbours (timing : Nat → Nat → Int) (j k : Int) : Option Neighbours := do
  let around : Int := maxNumberOfValues
  let down ← scanElements (fun i => element timing ((j + i) % around) k) 24 1
  let right ← scanElements (fun p => element timing j ((k + p) % around)) 24 1
  let up ← scanElements (fun i => element timing ((around + (j - i)) % around) k) 24 1
  let left ← scanElements (fun p => element timing j ((around + (k - p)) % around)) 24 1
  return ⟨down, right, up, left⟩

def difference (first second : Nat) : Nat := ((first : Int) - second).natAbs

def minUpDown : Nat := 1
def minLeftRight : Nat := 1

def rowTurn (timing : Nat → Nat → Int) (best : Int × Nat) (j k : Nat) : Option (Int × Nat) := do
  let value ← element timing j k
  if value ≠ 0 then
    let around ← scanNeighbours timing j k
    return if difference around.down around.up < best.2 ∧ minUpDown < around.up ∧
        minUpDown < around.down then ((j : Int), difference around.down around.up)
      else best
  else return best

def columnTurn (timing : Nat → Nat → Int) (row : Int) (best : Int × Nat) (k : Nat) :
    Option (Int × Nat) := do
  let value ← element timing row k
  if value ≠ 0 then
    let around ← scanNeighbours timing row k
    return if difference around.left around.right < best.2 ∧ minLeftRight < around.left ∧
        minLeftRight < around.right then ((k : Int), difference around.left around.right)
      else best
  else return best

def alctPhaseAnalysis (timing : Nat → Nat → Int) : Option (Int × Int) := do
  let rows ← (List.range maxNumberOfValues).foldlM (fun best j =>
    (List.range maxNumberOfValues).foldlM (fun best k => rowTurn timing best j k) best) (999, 999)
  let columns ← (List.range maxNumberOfValues).foldlM (columnTurn timing rows.1) (999, 999)
  return (rows.1, columns.1)

section

structure IsRun (good : Nat → Prop) (count : Nat) : Prop where
  around : count ≤ 24
  all : ∀ distance, 1 ≤ distance → distance ≤ count → good distance
  ends : count = 24 ∨ ¬ good (count + 1)

def runLength (good : Nat → Prop) [DecidablePred good] : Nat → Nat → Nat
  | 0, _ => 0
  | left + 1, distance => if good distance then runLength good left (distance + 1) + 1 else 0

lemma runLength_isRun (good) [DecidablePred good] (left distance)
    (here : left + distance = 25) (positive : 1 ≤ distance)
    (before : ∀ earlier, 1 ≤ earlier → earlier < distance → good earlier) :
    IsRun good (distance - 1 + runLength good left distance) := by
  induction left generalizing distance with
  | zero =>
    rw [runLength]
    exact ⟨by omega, fun earlier above below => before earlier above (by omega), .inl (by omega)⟩
  | succ left ih =>
    rw [runLength]
    by_cases is : good distance
    · have next := ih (distance + 1) (by omega) (by omega) fun earlier above below => by
        rcases Nat.lt_or_eq_of_le (Nat.le_of_lt_succ below) with earlier_ | rfl
        · exact before earlier above earlier_
        · exact is
      have same : distance - 1 + (runLength good left (distance + 1) + 1) =
          distance + 1 - 1 + runLength good left (distance + 1) := by omega
      rw [if_pos is, same]
      exact next
    · rw [if_neg is]
      refine ⟨by omega, fun earlier above below => before earlier above (by omega), .inr ?_⟩
      rw [Nat.sub_add_cancel positive]
      exact is

lemma scanElements_eq {read} {values : Nat → Int}
    (reads : ∀ distance, 1 ≤ distance → distance ≤ 25 → read distance = some (values distance))
    (left distance) (here : left + distance = 25) (positive : 1 ≤ distance) :
    scanElements read left distance =
      some (distance - 1 + runLength (fun distance => values distance ≠ 0) left distance) := by
  induction left generalizing distance with
  | zero =>
    rw [scanElements, reads distance positive (by omega)]
    rfl
  | succ left ih =>
    rw [scanElements, reads distance positive (by omega), Option.bind_eq_bind, Option.bind_some,
      runLength]
    by_cases good : values distance ≠ 0
    · rw [if_pos good, if_pos good, ih (distance + 1) (by omega) (by omega)]
      congr 1
      omega
    · rw [if_neg good, if_neg good]
      rfl

variable {timing : Nat → Nat → Int}

lemma element_inside (timing) {row column : Nat} (inside : row < 25)
    (within : column < 25) : element timing row column = some (timing row column) := by
  have limits : (0 ≤ (row : Int) ∧ (row : Int) < maxNumberOfValues) ∧
      0 ≤ (column : Int) ∧ (column : Int) < maxNumberOfValues := by
    rw [maxNumberOfValues]
    omega
  rw [element, if_pos limits, Int.toNat_natCast, Int.toNat_natCast]

def neighbours (timing : Nat → Nat → Int) (j k : Nat) : Neighbours where
  down := runLength (fun i => timing ((j + i) % 25) k ≠ 0) 24 1
  right := runLength (fun p => timing j ((k + p) % 25) ≠ 0) 24 1
  up := runLength (fun i => timing ((j + 25 - i) % 25) k ≠ 0) 24 1
  left := runLength (fun p => timing j ((k + 25 - p) % 25) ≠ 0) 24 1

structure CountsAround (timing : Nat → Nat → Int) (j k : Nat) (around : Neighbours) : Prop where
  down : IsRun (fun i => timing ((j + i) % 25) k ≠ 0) around.down
  right : IsRun (fun p => timing j ((k + p) % 25) ≠ 0) around.right
  up : IsRun (fun i => timing ((j + 25 - i) % 25) k ≠ 0) around.up
  left : IsRun (fun p => timing j ((k + 25 - p) % 25) ≠ 0) around.left

lemma neighbours_count (timing j k) : CountsAround timing j k (neighbours timing j k) := by
  have run (good : Nat → Prop) [DecidablePred good] : IsRun good (runLength good 24 1) := by
    have from_one := runLength_isRun good 24 1 rfl (Nat.le_refl _) fun earlier above below => by omega
    rw [Nat.zero_add] at from_one
    exact from_one
  exact ⟨run _, run _, run _, run _⟩

lemma scanNeighbours_eq (timing) {j k : Nat} (inside : j < 25)
    (within : k < 25) : scanNeighbours timing j k = some (neighbours timing j k) := by
  have forward (place distance : Nat) :
      ((place : Int) + distance) % (maxNumberOfValues : Nat) = ((place + distance) % 25 : Nat) := rfl
  have back (place : Nat) {distance : Nat} (upto : distance ≤ 25) :
      ((maxNumberOfValues : Nat) + ((place : Int) - distance)) % (maxNumberOfValues : Nat) =
        ((place + 25 - distance) % 25 : Nat) := by
    rw [maxNumberOfValues]
    omega
  have small (place : Nat) : place % 25 < 25 := Nat.mod_lt _ (by decide)
  have scan {read : Nat → Option Int} {values : Nat → Int}
      (reads : ∀ distance, 1 ≤ distance → distance ≤ 25 → read distance = some (values distance)) :
      scanElements read 24 1 = some (runLength (fun distance => values distance ≠ 0) 24 1) := by
    rw [scanElements_eq reads 24 1 rfl (Nat.le_refl _), Nat.zero_add]
  have down := @scan (fun i => element timing ((j + i) % (maxNumberOfValues : Nat)) k)
    (fun i => timing ((j + i) % 25) k)
    fun i _ _ => by rw [forward, element_inside timing (small _) within]
  have right := @scan (fun p => element timing j ((k + p) % (maxNumberOfValues : Nat)))
    (fun p => timing j ((k + p) % 25))
    fun p _ _ => by rw [forward, element_inside timing inside (small _)]
  have up := @scan (fun i => element timing (((maxNumberOfValues : Nat) + ((j : Int) - i)) %
      (maxNumberOfValues : Nat)) k) (fun i => timing ((j + 25 - i) % 25) k)
    fun i _ upto => by rw [back j upto, element_inside timing (small _) within]
  have left := @scan (fun p => element timing j (((maxNumberOfValues : Nat) + ((k : Int) - p)) %
      (maxNumberOfValues : Nat))) (fun p => timing j ((k + 25 - p) % 25))
    fun p _ upto => by rw [back k upto, element_inside timing inside (small _)]
  rw [scanNeighbours, down, right, up, left]
  rfl

end

open Table (foldlM_some)

variable (timing : Nat → Nat → Int)

def VerticallyInner (cell : Nat × Nat) : Prop :=
  timing cell.1 cell.2 ≠ 0 ∧ minUpDown < (neighbours timing cell.1 cell.2).up ∧
    minUpDown < (neighbours timing cell.1 cell.2).down

def HorizontallyInner (cell : Nat × Nat) : Prop :=
  timing cell.1 cell.2 ≠ 0 ∧ minLeftRight < (neighbours timing cell.1 cell.2).left ∧
    minLeftRight < (neighbours timing cell.1 cell.2).right

instance : DecidablePred (VerticallyInner timing) := fun _ => inferInstanceAs (Decidable (_ ∧ _))

instance : DecidablePred (HorizontallyInner timing) := fun _ => inferInstanceAs (Decidable (_ ∧ _))

def upDownDifference (cell : Nat × Nat) : Nat :=
  difference (neighbours timing cell.1 cell.2).down (neighbours timing cell.1 cell.2).up

def leftRightDifference (cell : Nat × Nat) : Nat :=
  difference (neighbours timing cell.1 cell.2).left (neighbours timing cell.1 cell.2).right

def cells : List (Nat × Nat) :=
  (List.range 25).flatMap fun j => (List.range 25).map fun k => (j, k)

def rowCells (j : Nat) : List (Nat × Nat) := (List.range 25).map fun k => (j, k)

variable {timing}

lemma mem_cells {cell} : cell ∈ cells ↔ cell.1 < 25 ∧ cell.2 < 25 := by
  simp only [cells, mem_flatMap, mem_map, mem_range, Prod.ext_iff]
  constructor
  · rintro ⟨j, inside, k, within, rfl, rfl⟩
    exact ⟨inside, within⟩
  · exact fun both => ⟨cell.1, both.1, cell.2, both.2, rfl, rfl⟩

lemma rowTurn_eq {j k} (inside : j < 25) (within : k < 25) (best) :
    rowTurn timing best j k = some (look (VerticallyInner timing) (upDownDifference timing)
      (fun cell => (cell.1 : Int)) best (j, k)) := by
  rw [rowTurn, element_inside timing inside within, Option.bind_eq_bind, Option.bind_some, look]
  by_cases good : timing j k ≠ 0
  · rw [if_pos good, scanNeighbours_eq timing inside within]
    refine congrArg some (if_congr ?_ rfl rfl)
    exact and_congr_right fun _ => (and_iff_right good).symm
  · rw [if_neg good, if_neg fun both => good both.2.1]
    rfl

lemma columnTurn_eq {j k : Nat} (inside : j < 25) (within : k < 25) (best) :
    columnTurn timing j best k = some (look (HorizontallyInner timing)
      (leftRightDifference timing) (fun cell => (cell.2 : Int)) best (j, k)) := by
  rw [columnTurn, element_inside timing inside within, Option.bind_eq_bind, Option.bind_some, look]
  by_cases good : timing j k ≠ 0
  · rw [if_pos good, scanNeighbours_eq timing inside within]
    refine congrArg some (if_congr ?_ rfl rfl)
    exact and_congr_right fun _ => (and_iff_right good).symm
  · rw [if_neg good, if_neg fun both => good both.2.1]
    rfl

lemma difference_small {first second} (one : first ≤ 24) (two : second ≤ 24) :
    difference first second < 999 := by
  rw [difference]
  omega

lemma upDown_small (timing cell) : upDownDifference timing cell < 999 :=
  difference_small (neighbours_count timing cell.1 cell.2).down.around
    (neighbours_count timing cell.1 cell.2).up.around

lemma leftRight_small (timing cell) : leftRightDifference timing cell < 999 :=
  difference_small (neighbours_count timing cell.1 cell.2).left.around
    (neighbours_count timing cell.1 cell.2).right.around

lemma rows_eq (timing best) :
    (List.range maxNumberOfValues).foldlM (fun best j =>
      (List.range maxNumberOfValues).foldlM (fun best k => rowTurn timing best j k) best) best =
      some (cells.foldl (look (VerticallyInner timing) (upDownDifference timing)
        fun cell => (cell.1 : Int)) best) := by
  rw [cells, foldl_flatMap]
  refine foldlM_some (fun j member best => ?_) best
  have inside : j < 25 := mem_range.1 member
  exact foldlM_some (fun k within best => rowTurn_eq inside (mem_range.1 within) best) best

lemma columns_eq {j : Nat} (inside : j < 25) (best) :
    (List.range maxNumberOfValues).foldlM (columnTurn timing j) best =
      some ((rowCells j).foldl (look (HorizontallyInner timing) (leftRightDifference timing)
        fun cell => (cell.2 : Int)) best) := by
  exact foldlM_some (fun k within best => columnTurn_eq inside (mem_range.1 within) best) best

def Inner (timing : Nat → Nat → Int) (cell : Nat × Nat) : Prop :=
  VerticallyInner timing cell ∧ HorizontallyInner timing cell

/-- All accesses are inside, and the phases of an inner element are stored, or that there is none. -/
def ChoosesRight (timing : Nat → Nat → Int) : Prop :=
  ∃ row column, alctPhaseAnalysis timing = some (row, column) ∧
    ((row = 999 ∧ column = 999 ∧ ∀ cell ∈ cells, ¬ Inner timing cell) ∨
      ∃ cell ∈ cells, row = cell.1 ∧ column = cell.2 ∧ Inner timing cell)

/-- The first of the vertically most balanced elements has, in its row, a horizontally inner one, and
the first of the horizontally most balanced ones of that row is vertically inner as well. -/
def PassesAgree (timing : Nat → Nat → Int) : Prop :=
  ∃ cell, FirstLeast cells (VerticallyInner timing) (upDownDifference timing) cell ∧
    ∃ other, FirstLeast (rowCells cell.1) (HorizontallyInner timing) (leftRightDifference timing)
      other ∧ VerticallyInner timing other

lemma mem_rowCells {j cell} : cell ∈ rowCells j ↔ cell.1 = j ∧ cell.2 < 25 := by
  simp only [rowCells, mem_map, mem_range, Prod.ext_iff]
  constructor
  · rintro ⟨k, within, rfl, rfl⟩
    exact ⟨rfl, within⟩
  · exact fun both => ⟨cell.2, both.2, both.1.symm, rfl⟩

theorem alctPhaseAnalysis_right_iff (timing : Nat → Nat → Int) :
    (∀ j k : Nat, j < 25 → k < 25 → ∃ around, scanNeighbours timing j k = some around ∧
      CountsAround timing j k around) ∧
    (ChoosesRight timing ↔ PassesAgree timing) := by
  refine ⟨fun j k inside within =>
    ⟨_, scanNeighbours_eq timing inside within, neighbours_count timing j k⟩, ?_⟩
  have rows := rows_eq timing (999, 999)
  rcases foldl_look (fun cell : Nat × Nat => (cell.1 : Int)) (999 : Int)
    (fun cell _ (_ : VerticallyInner timing cell) => upDown_small timing cell) with
    ⟨none_, found⟩ | ⟨cell, first, found⟩
  · -- the second pass reads row 999
    rw [found] at rows
    have nothing : alctPhaseAnalysis timing = none := by
      rw [alctPhaseAnalysis, rows]
      rfl
    constructor
    · rintro ⟨row, column, done, -⟩
      rw [nothing] at done
      exact absurd done.symm (Option.some_ne_none _)
    · rintro ⟨cell, first, -⟩
      obtain ⟨before, after, -, inner, -⟩ := id first
      exact absurd inner (none_ cell first.mem)
  · rw [found] at rows
    have inside := mem_cells.1 first.mem
    have columns := @columns_eq timing cell.1 inside.1 (999, 999)
    rcases foldl_look (fun cell : Nat × Nat => (cell.2 : Int)) (999 : Int)
      (fun other (_ : other ∈ rowCells cell.1) (_ : HorizontallyInner timing other) =>
        leftRight_small timing other) with ⟨none_, foundToo⟩ | ⟨other, firstToo, foundToo⟩
    · rw [foundToo] at columns
      have stored : alctPhaseAnalysis timing = some ((cell.1 : Int), 999) := by
        rw [alctPhaseAnalysis, rows, Option.bind_eq_bind, Option.bind_some, columns]
        rfl
      constructor
      · rintro ⟨row, column, done, outcome⟩
        rw [stored] at done
        obtain ⟨rfl, rfl⟩ := Prod.mk.inj (Option.some.inj done)
        rcases outcome with ⟨failed, -⟩ | ⟨chosen, member, -, same, -⟩
        · omega
        · have limit := (mem_cells.1 member).2
          omega
      · rintro ⟨chosen, again, other, firstToo, -⟩
        obtain rfl := first.unique again
        obtain ⟨before, after, -, inner, -⟩ := id firstToo
        exact absurd inner (none_ other firstToo.mem)
    · rw [foundToo] at columns
      have placed := mem_rowCells.1 firstToo.mem
      obtain ⟨before, after, -, horizontal, -⟩ := id firstToo
      have stored : alctPhaseAnalysis timing = some ((other.1 : Int), (other.2 : Int)) := by
        rw [alctPhaseAnalysis, rows, Option.bind_eq_bind, Option.bind_some, columns, placed.1]
        rfl
      constructor
      · rintro ⟨row, column, done, outcome⟩
        rw [stored] at done
        obtain ⟨rfl, rfl⟩ := Prod.mk.inj (Option.some.inj done)
        rcases outcome with ⟨failed, -⟩ | ⟨chosen, member, same, sameToo, inner⟩
        · have limit := inside.1
          omega
        · have equal : other = chosen := Prod.ext (Int.ofNat.inj same) (Int.ofNat.inj sameToo)
          exact ⟨cell, first, other, firstToo, equal ▸ inner.1⟩
      · rintro ⟨chosen, again, another, firstAgain, vertical⟩
        obtain rfl := first.unique again
        obtain rfl := firstToo.unique firstAgain
        refine ⟨_, _, stored, Or.inr ⟨other, mem_cells.2 ⟨?_, placed.2⟩, rfl, rfl, vertical, horizontal⟩⟩
        rw [placed.1]
        exact inside.1

theorem alctPhaseAnalysis_right_full : ChoosesRight fun _ _ => 1 := by
  refine (alctPhaseAnalysis_right_iff fun _ _ => 1).2.2
    ⟨(0, 0), ⟨[], cells.tail, rfl, by decide, fun _ none_ => absurd none_ not_mem_nil,
      fun _ _ _ => ?_⟩, (0, 0), ⟨[], (rowCells 0).tail, rfl, by decide,
        fun _ none_ => absurd none_ not_mem_nil, fun _ _ _ => ?_⟩, by decide⟩
  · exact Nat.zero_le _
  · exact Nat.zero_le _

theorem alctPhaseAnalysis_misses : ¬ ChoosesRight (fun _ _ => 0) ∧
    ¬ ChoosesRight (fun j k => if j < 5 ∧ k = 0 then 1 else 0) := by
  constructor
  · rintro ⟨row, column, done, -⟩
    have nothing : alctPhaseAnalysis (fun _ _ => 0) = none := by decide +kernel
    rw [nothing] at done
    exact absurd done.symm (Option.some_ne_none _)
  · rintro ⟨row, column, done, outcome⟩
    have half : alctPhaseAnalysis (fun j k => if j < 5 ∧ k = 0 then 1 else 0) = some (2, 999) := by
      decide +kernel
    rw [half] at done
    obtain ⟨rfl, rfl⟩ := Prod.mk.inj (Option.some.inj done)
    rcases outcome with ⟨failed, -⟩ | ⟨chosen, member, -, same, -⟩
    · exact absurd failed (by decide)
    · have limit := (mem_cells.1 member).2
      omega

end EmuLib.ChamberUtilities
