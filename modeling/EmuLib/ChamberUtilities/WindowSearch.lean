import EmuLib.ChamberUtilities.WindowAnalysis
import EmuLib.Lib.Table
import Mathlib.Algebra.BigOperators.Ring.Finset
import Mathlib.Algebra.Order.BigOperators.Group.Finset

/-!
What the search for windows finds: all of them, and the middle of one that is wide enough.
-/

namespace EmuLib.ChamberUtilities

open CyclicRuns List Function

section

variable (length : Nat)

def Windows.places (windows : Windows) : List (Nat × Nat) :=
  (List.range (windows.counter + 1).toNat).map fun counter : Nat =>
    (windows.start counter, windows.width counter)

def windowsFound (data : Nat → Int) : List (Nat × Nat) :=
  match beginChannel data length with
  | none => []
  | some begin_ => (findWindows data length begin_).places.map fun window =>
    (window.1 % length, window.2)

structure Holds (windows : Windows) (found : List (Nat × Nat)) : Prop where
  counter : windows.counter + 1 = found.length
  places : windows.places = found.reverse
  unused : ∀ counter : Int, windows.counter < counter → windows.width counter = 0

end

section

variable {data : Nat → Int} {length : Nat}

lemma Holds.range {windows found} (holds : Holds windows found) :
    (windows.counter + 1).toNat = found.length := by
  rw [holds.counter, Int.toNat_natCast]

lemma Holds.start {windows found} (holds : Holds windows found) (delay) :
    Holds ⟨windows.counter + 1,
      update windows.width (windows.counter + 1) (windows.width (windows.counter + 1) + 1),
      update windows.start (windows.counter + 1) delay⟩ ((delay, 1) :: found) := by
  refine ⟨?_, ?_, fun counter above => ?_⟩
  · rw [holds.counter]
    rfl
  · have before := holds.places
    rw [Windows.places] at before
    rw [Windows.places, reverse_cons, ← before]
    dsimp only
    rw [holds.counter, show ((found.length : Int) + 1).toNat = found.length + 1 from rfl,
      range_succ, map_append]
    congr 1
    · refine map_congr_left fun index member => ?_
      have below := mem_range.1 member
      have other : (index : Int) ≠ found.length := by omega
      rw [update_of_ne other, update_of_ne other]
    · have fresh := holds.unused (found.length : Int) (by have := holds.counter; omega)
      rw [map_singleton, update_self, update_self, fresh]
  · dsimp only at above ⊢
    rw [update_of_ne (by omega)]
    exact holds.unused counter (by omega)

lemma Holds.widen {windows found} (holds : Holds windows found) :
    Holds ⟨windows.counter,
      update windows.width windows.counter (windows.width windows.counter + 1),
      windows.start⟩ (widenLatest found) := by
  have unused (counter : Int) (above : windows.counter < counter) : update windows.width
      windows.counter (windows.width windows.counter + 1) counter = 0 := by
    rw [update_of_ne (by omega)]
    exact holds.unused counter above
  have counted := holds.counter
  cases found with
  | nil =>
    refine ⟨counted, ?_, unused⟩
    rw [Windows.places]
    rw [counted]
    rfl
  | cons latest earlier =>
    have before := holds.places
    rw [length_cons, Nat.cast_succ] at counted
    have last : windows.counter = earlier.length := by omega
    rw [Windows.places, holds.range, length_cons, range_succ, map_append, reverse_cons] at before
    have parts := append_inj' before rfl
    refine ⟨counted, ?_, unused⟩
    rw [Windows.places, widenLatest, reverse_cons]
    dsimp only
    rw [counted, show ((earlier.length : Int) + 1).toNat = earlier.length + 1 from rfl,
      range_succ, map_append, map_singleton, ← parts.1]
    have same : (windows.start earlier.length, windows.width earlier.length) = latest :=
      singleton_inj.1 parts.2
    congr 1
    · refine map_congr_left fun index member => ?_
      have below := mem_range.1 member
      rw [update_of_ne (by omega)]
    · rw [last, update_self, ← same]

lemma Holds.step {windows found} (holds : Holds windows found)
    (delay) : Holds (windowStep data length windows delay)
      (scanStep (fun place => Good data (place % length)) found delay) := by
  rw [windowStep, scanStep]
  by_cases good : copy data length delay < countThreshold
  · rw [if_pos good, if_pos (show Good data (delay % length) from good)]
    by_cases begins : countThreshold ≤ copy data length (delay - 1)
    · rw [if_neg (show ¬ Good data ((delay - 1) % length) from Int.not_lt.2 begins)]
      rw [if_pos begins]
      exact holds.start delay
    · rw [if_pos (show Good data ((delay - 1) % length) from Int.not_le.1 begins)]
      rw [if_neg begins]
      exact holds.widen
  · rw [if_neg good, if_neg (show ¬ Good data (delay % length) from good)]
    exact holds

lemma windows_hold (data length begin_ count) :
    Holds ((range' begin_ count).foldl (windowStep data length) .none)
      (scan (fun place => Good data (place % length)) begin_ count) := by
  have run (delays : List Nat) (windows : Windows) (found : List (Nat × Nat))
      (holds : Holds windows found) : Holds (delays.foldl (windowStep data length) windows)
        (delays.foldl (scanStep fun place => Good data (place % length)) found) := by
    induction delays generalizing windows found with
    | nil => exact holds
    | cons delay rest ih => exact ih _ _ (holds.step delay)
  exact run _ _ _ ⟨rfl, rfl, fun _ _ => rfl⟩

lemma findWindows_holds (data length begin_) :
    Holds (findWindows data length begin_)
      (scan (fun place => Good data (place % length)) begin_ length) :=
  windows_hold data length begin_ length

lemma beginChannel_first {channel} (inside : channel < length)
    (bad : countThreshold < data channel) : ∃ begin_, beginChannel data length = some begin_ ∧
      begin_ < length ∧ countThreshold < data begin_ := by
  have copied {place : Nat} (within : place < length) : copy data length place = data place := by
    rw [copy, Nat.mod_eq_of_lt within]
  obtain ⟨begin_, found⟩ : ∃ begin_, beginChannel data length = some begin_ := by
    apply Option.isSome_iff_exists.1
    rw [beginChannel, find?_isSome]
    refine ⟨channel, mem_range.2 (by omega), decide_eq_true ?_⟩
    rw [copied inside]
    exact bad
  have first := List.find?_range_eq_some.1 found
  have early : begin_ ≤ channel := by
    by_contra later
    have below := first.2.2 channel (Nat.lt_of_not_le later)
    rw [copied inside, decide_eq_true bad] at below
    exact absurd below Bool.false_ne_true
  have within : begin_ < length := Nat.lt_of_le_of_lt early inside
  refine ⟨begin_, found, within, ?_⟩
  have test := of_decide_eq_true first.1
  rw [copied within] at test
  exact test

lemma bad_begin {begin_} (inside : begin_ < length) (bad : countThreshold < data begin_) :
    ¬ Good data (begin_ % length) := by
  rw [Nat.mod_eq_of_lt inside]
  exact Int.not_lt.2 (Int.le_of_lt bad)

lemma windows_scanned {begin_} (inside : begin_ < length) (bad : countThreshold < data begin_) :
    Scanned (fun place => Good data (place % length)) begin_ (begin_ + length)
      (scan (fun place => Good data (place % length)) begin_ length) := by
  have not_good := bad_begin inside bad
  obtain ⟨rest, rfl⟩ : ∃ rest, length = rest + 1 := ⟨length - 1, by omega⟩
  exact @scan_scanned (fun place => Good data (place % (rest + 1))) _ begin_ not_good rest

lemma mem_windowsFound {channel} (inside : channel < length)
    (bad : countThreshold < data channel) (start width) :
    (start, width) ∈ windowsFound length data ↔ Run (Good data) length start width := by
  obtain ⟨begin_, found, within, bad_⟩ := beginChannel_first inside bad
  have not_good := bad_begin within bad_
  rw [run_iff_found (windows_scanned within bad_) not_good (by omega), windowsFound, found]
  dsimp only
  rw [(findWindows_holds data length begin_).places, mem_map]
  refine exists_congr fun window => ?_
  rw [mem_reverse, Prod.mk.injEq]

lemma windowsFound_nodup {channel} (inside : channel < length)
    (bad : countThreshold < data channel) : (windowsFound length data).Nodup := by
  obtain ⟨begin_, found, within, bad_⟩ := beginChannel_first inside bad
  have each := found_nodup (windows_scanned within bad_)
  rw [windowsFound, found]
  dsimp only
  rw [(findWindows_holds data length begin_).places, map_reverse]
  exact nodup_reverse.2 each

end

section

variable {data : Nat → Int} {length start width : Nat}

def weight (data : Nat → Int) (length start channel : Nat) : Nat :=
  turnedOver (copy data length (start + channel))

def weights (data : Nat → Int) (length start width : Nat) : Nat :=
  ∑ channel ∈ Finset.range width, weight data length start channel

def moments (data : Nat → Int) (length start width : Nat) : Nat :=
  ∑ channel ∈ Finset.range width, weight data length start channel * channel

lemma turnedOver_pos {count} (positive : 0 ≤ count) (good : count < countThreshold) :
    0 < turnedOver count := by
  have each : ∀ small : Fin 10, 0 < turnedOver (small : Nat) := by decide
  rw [countThreshold] at good
  obtain ⟨small, rfl⟩ := Int.eq_ofNat_of_zero_le positive
  exact each ⟨small, by omega⟩

lemma sums_of_window (data length start width) :
    (range' start width).foldl (fun sums channel =>
      (sums.1 + turnedOver (copy data length channel) * channel,
        sums.2 + turnedOver (copy data length channel))) (0, 0) =
      (start * weights data length start width + moments data length start width,
        weights data length start width) := by
  induction width with
  | zero => rfl
  | succ width ih =>
    rw [range'_1_concat, foldl_append, ih, foldl_cons, foldl_nil, weights,
      weights, moments, moments, Finset.sum_range_succ, Finset.sum_range_succ]
    refine Prod.ext ?_ rfl
    rw [weight]
    ring

def middle (data : Nat → Int) (length start width : Nat) : Int :=
  ((moments data length start width : Rat) / weights data length start width + 1 / 2).floor

lemma weights_pos (some_ : 0 < width)
    (each : ∀ channel < width, 0 < weight data length start channel) :
    0 < weights data length start width :=
  Finset.sum_pos (fun channel member => each channel (Finset.mem_range.1 member))
    ⟨0, Finset.mem_range.2 some_⟩

lemma averageChannel_eq (positive : 0 < weights data length start width) :
    averageChannel data length start width =
      start + (moments data length start width : Rat) / weights data length start width := by
  have nonzero : (weights data length start width : Rat) ≠ 0 :=
    Nat.cast_ne_zero.2 (Nat.ne_of_gt positive)
  rw [averageChannel, sums_of_window]
  rw [Nat.cast_add, Nat.cast_mul, add_div, mul_div_cancel_right₀ _ nonzero]

lemma moments_le (data length start width) :
    moments data length start width ≤ (width - 1) * weights data length start width := by
  rw [weights, Finset.mul_sum]
  refine Finset.sum_le_sum fun channel member => ?_
  have below := Finset.mem_range.1 member
  rw [Nat.mul_comm]
  exact Nat.mul_le_mul_right _ (by omega)

lemma floor_eq (realNumber : Rat) : realNumber.floor = ⌊realNumber⌋ := rfl

lemma middle_within (some_ : 0 < width) (positive : 0 < weights data length start width) :
    0 ≤ middle data length start width ∧ middle data length start width < width := by
  have count : (0 : Rat) < weights data length start width := Nat.cast_pos.2 positive
  have above : (0 : Rat) ≤ (moments data length start width : Rat) / weights data length start width :=
    div_nonneg (Nat.cast_nonneg _) count.le
  have below : (moments data length start width : Rat) / weights data length start width ≤
      (width - 1 : Nat) := by
    rw [div_le_iff₀ count, ← Nat.cast_mul]
    exact Nat.cast_le.2 (moments_le data length start width)
  constructor
  · rw [middle, floor_eq, Int.floor_nonneg]
    linarith
  · rw [middle, floor_eq, Int.floor_lt]
    have split : ((width - 1 : Nat) : Rat) = width - 1 := Nat.cast_pred some_
    push_cast
    linarith

lemma roundOff_average (positive : 0 < weights data length start width) :
    roundOff (averageChannel data length start width) =
      start + middle data length start width := by
  have count : (0 : Rat) < weights data length start width := Nat.cast_pos.2 positive
  have above : (0 : Rat) ≤ (moments data length start width : Rat) / weights data length start width :=
    div_nonneg (Nat.cast_nonneg _) count.le
  rw [roundOff, averageChannel_eq positive, middle, if_pos (by linarith), floor_eq, floor_eq, add_assoc,
    Int.floor_natCast_add]

lemma middle_turn {other shift first} (positive : 0 < length)
    (same : ∀ channel < length, other ((channel + shift) % length) = data channel)
    (begins : first % length = (start + shift) % length) :
    middle other length first width = middle data length start width := by
  have each (channel : Nat) : weight other length first channel = weight data length start channel := by
    have turned : (first + channel) % length = ((start + channel) % length + shift) % length := by
      rw [← Nat.mod_add_mod, begins, mod_turned]
    rw [weight, weight, copy, copy, turned, same _ (Nat.mod_lt _ positive)]
  have all : weight other length first = weight data length start := funext each
  rw [middle, middle, moments, moments, weights, weights, all]

end

section

variable {data : Nat → Int} {length : Nat}

lemma foldl_decides {Item Value : Type} (kind) [DecidablePred kind]
    (value : Item → Value) (items : List Item) (best) :
    (∀ item ∈ items, ¬ kind item) ∧
        items.foldl (fun best item => if kind item then value item else best) best = best ∨
      ∃ item ∈ items, kind item ∧
        items.foldl (fun best item => if kind item then value item else best) best = value item := by
  induction items generalizing best with
  | nil => exact .inl ⟨fun _ member => absurd member not_mem_nil, rfl⟩
  | cons item rest ih =>
    rw [foldl_cons]
    rcases ih (if kind item then value item else best) with ⟨none_, same⟩ | ⟨other, member, is, same⟩
    · by_cases is : kind item
      · rw [if_pos is] at same ⊢
        exact .inr ⟨item, mem_cons_self, is, same⟩
      · rw [if_neg is] at same ⊢
        refine .inl ⟨fun other member => ?_, same⟩
        rcases mem_cons.1 member with rfl | further
        · exact is
        · exact none_ other further
    · exact .inr ⟨other, mem_cons_of_mem _ member, is, same⟩

lemma bestValue_places (windows) : bestValue data length windows =
    windows.places.foldl (fun best window => if widthThreshold < window.2 then
      roundOff (averageChannel data length window.1 window.2) % length else best) (-1) := by
  rw [Windows.places, bestValue]
  simp only [bind_pure_comp, map_eq_map, foldl_map]

def centre (data : Nat → Int) (length start width : Nat) : Int :=
  (start + middle data length start width) % length

lemma weights_of_run (counts : ∀ channel < length, 0 ≤ data channel) {place width}
    (run : Run (Good data) length (place % length) width) :
    0 < weights data length place width := by
  have positive : 0 < length := Nat.lt_of_le_of_lt (Nat.zero_le _) run.within
  refine weights_pos run.some_ fun channel below => ?_
  have good := run.all channel below
  rw [Nat.mod_add_mod] at good
  exact turnedOver_pos (counts _ (Nat.mod_lt _ positive)) good

lemma windowAnalysis_cases (counts : ∀ channel < length, 0 ≤ data channel) {channel}
    (inside : channel < length) (bad : countThreshold < data channel) (windowCounter) :
    (windowsFound length data = [] ∧ (windowAnalysis data length windowCounter).1 = -999) ∨
    (windowsFound length data ≠ [] ∧
      (∀ window ∈ windowsFound length data, ¬ widthThreshold < window.2) ∧
      (windowAnalysis data length windowCounter).1 = -1) ∨
    ∃ window ∈ windowsFound length data, widthThreshold < window.2 ∧
      (windowAnalysis data length windowCounter).1 = centre data length window.1 window.2 := by
  have positive : 0 < length := by omega
  have listed := fun start width => mem_windowsFound inside bad start width
  obtain ⟨begin_, found, -, -⟩ := beginChannel_first inside bad
  have counted : (findWindows data length begin_).counter < 0 ↔
      (findWindows data length begin_).places = [] := by
    have holds := findWindows_holds data length begin_
    have number := holds.counter
    rw [holds.places, reverse_eq_nil_iff, ← length_eq_zero_iff]
    omega
  rw [windowsFound, found] at listed ⊢
  rw [windowAnalysis, found]
  dsimp only at listed ⊢
  rw [map_eq_nil_iff]
  by_cases none_ : (findWindows data length begin_).counter < 0
  · rw [if_pos none_]
    exact .inl ⟨counted.1 none_, rfl⟩
  · rw [if_neg none_]
    rw [bestValue_places]
    rcases foldl_decides (fun window : Nat × Nat => widthThreshold < window.2) (fun window =>
      roundOff (averageChannel data length window.1 window.2) % length)
      (findWindows data length begin_).places (-1) with ⟨narrow, same⟩ | ⟨window, member, wide, same⟩
    · refine .inr (Or.inl ⟨fun empty => none_ (counted.2 (map_eq_nil_iff.1 empty)), ?_, same⟩)
      intro window member
      obtain ⟨other, before, rfl⟩ := mem_map.1 member
      exact narrow other before
    · have placed := mem_map_of_mem (f := fun window => (window.1 % length, window.2)) member
      refine .inr (Or.inr ⟨_, placed, wide, ?_⟩)
      have run := (listed _ _).1 placed
      have turned : middle data length window.1 window.2 =
          middle data length (window.1 % length) window.2 := by
        have same (channel : Nat) (below : channel < length) :
            data ((channel + 0) % length) = data channel := by
          rw [Nat.add_zero, Nat.mod_eq_of_lt below]
        exact middle_turn positive same (by rw [Nat.add_zero, Nat.mod_mod])
      rw [same, roundOff_average (weights_of_run counts run), centre, turned]
      rw [Int.natCast_mod, Int.emod_add_emod]

end

section

open Table (entry enter)

variable (data : Nat → Int) (length : Nat)

def doubled : List Int := (List.range (2 * length)).map (copy data length)

structure WindowTables where
  counter : Int
  width : List Nat
  start : List Nat

def WindowTables.none : WindowTables := ⟨-1, List.replicate length 0, List.replicate length 0⟩

/-- As `windowStep`, where every access has to be inside of its array. -/
def tableStep (windows : WindowTables) (delay : Nat) : Option WindowTables := do
  let count ← entry (doubled data length) delay
  if count < countThreshold then
    let previous ← entry (doubled data length) (delay - 1)
    let started ←
      if countThreshold ≤ previous then do
        let start ← enter windows.start (windows.counter + 1) delay
        pure { windows with counter := windows.counter + 1, start := start }
      else pure windows
    let width ← entry started.width started.counter
    let widths ← enter started.width started.counter (width + 1)
    return { started with width := widths }
  else return windows

def tableAverage (start width : Nat) : Option Rat := do
  let sums ← (List.range' start width).foldlM (fun (sums : Nat × Nat) (channel : Nat) => do
    let count ← entry (doubled data length) channel
    return (sums.1 + turnedOver count * channel, sums.2 + turnedOver count)) (0, 0)
  return (sums.1 : Rat) / sums.2

def tableBest (windows : WindowTables) : Option Int :=
  (List.range (windows.counter + 1).toNat).foldlM (fun (best : Int) (counter : Nat) => do
    let width ← entry windows.width counter
    if widthThreshold < width then
      let start ← entry windows.start counter
      let average ← tableAverage data length start width
      return roundOff average % length
    else return best) (-1)

/-- As `windowAnalysis`, if every access is inside. -/
def windowAnalysisInTables (windowCounter : Int) : Option (Int × Int) :=
  match beginChannel data length with
  | none => some (-999, windowCounter)
  | some begin_ => do
      let windows ← (List.range' begin_ length).foldlM (tableStep data length) (.none length)
      if windows.counter < 0 then return (-999, windows.counter)
      else return (← tableBest data length windows, windows.counter)

end

section

open Table (entry enter Shows foldlM_range' foldlM_some)

variable {data : Nat → Int} {length : Nat}

lemma doubled_entry {place} (inside : place < 2 * length) :
    entry (doubled data length) place = some (copy data length place) := by
  have fits : place < (doubled data length).length := by
    rw [doubled, length_map, length_range]
    exact inside
  rw [Table.entry_inside fits]
  simp only [doubled, getElem_map, getElem_range]

structure Agrees (length : Nat) (tables : WindowTables) (windows : Windows) : Prop where
  counter : tables.counter = windows.counter
  width : Shows tables.width length windows.width
  start : Shows tables.start length windows.start

lemma Agrees.widen {tables windows}
    (agrees : Agrees length tables windows)
    (inside : 0 ≤ windows.counter ∧ windows.counter < length) :
    ∃ next, (do
      let width ← entry tables.width tables.counter
      let widths ← enter tables.width tables.counter (width + 1)
      return { tables with width := widths }) = some next ∧
      Agrees length next { windows with
        width := update windows.width windows.counter (windows.width windows.counter + 1) } := by
  obtain ⟨widths, entered, shows_⟩ := agrees.width.enter inside (windows.width windows.counter + 1)
  rw [agrees.counter, agrees.width.entry inside, Option.bind_eq_bind, Option.bind_some, entered]
  exact ⟨_, rfl, rfl, shows_, agrees.start⟩

lemma Agrees.step {tables windows}
    (agrees : Agrees length tables windows) {delay} (inside : delay < 2 * length)
    (room : windows.counter + 1 < length) (before : -1 ≤ windows.counter)
    (positive : copy data length delay < countThreshold → 0 < delay)
    (started : copy data length delay < countThreshold →
      copy data length (delay - 1) < countThreshold → 0 ≤ windows.counter) :
    ∃ next, tableStep data length tables delay = some next ∧
      Agrees length next (windowStep data length windows delay) := by
  rw [tableStep, windowStep, doubled_entry inside, Option.bind_eq_bind, Option.bind_some]
  by_cases good : copy data length delay < countThreshold
  · have previous : ((delay : Int) - 1) = ((delay - 1 : Nat) : Int) := by omega
    rw [if_pos good, if_pos good, previous, doubled_entry (by omega), Option.bind_some]
    by_cases begins : countThreshold ≤ copy data length (delay - 1)
    · obtain ⟨starts, entered, shows_⟩ :=
        @Table.Shows.enter _ _ _ _ (windows.counter + 1) agrees.start ⟨by omega, room⟩ delay
      rw [if_pos begins, if_pos begins, agrees.counter, entered]
      have next : Agrees length ⟨windows.counter + 1, tables.width, starts⟩
          ⟨windows.counter + 1, windows.width,
            update windows.start (windows.counter + 1) delay⟩ :=
        ⟨rfl, agrees.width, shows_⟩
      have first : 0 ≤ windows.counter + 1 := by omega
      exact next.widen ⟨first, room⟩
    · rw [if_neg begins, if_neg begins]
      exact agrees.widen ⟨started good (Int.not_le.1 begins), by omega⟩
  · rw [if_neg good, if_neg good]
    exact ⟨tables, rfl, agrees⟩

lemma scan_length (good) [DecidablePred good] {first} (bad : ¬ good first)
    (count) : (scan good first (count + 1)).length ≤ count := by
  have step (found : List (Nat × Nat)) (place : Nat) :
      (scanStep good found place).length ≤ found.length + 1 := by
    rw [scanStep]
    split
    · split
      · cases found with
        | nil => exact Nat.zero_le _
        | cons latest earlier => exact Nat.le_succ _
      · exact Nat.le_refl _
    · exact Nat.le_succ _
  induction count with
  | zero =>
    have alone : scan good first 1 = [] := if_neg bad
    rw [alone]
    exact Nat.le_refl _
  | succ count ih =>
    rw [scan, range'_1_concat, foldl_append]
    exact Nat.le_trans (step _ _) (Nat.succ_le_succ ih)

lemma tableSteps_agree {begin_} (inside : begin_ < length) (bad : countThreshold < data begin_) :
    ∃ tables, (range' begin_ length).foldlM (tableStep data length) (.none length) =
      some tables ∧ Agrees length tables (findWindows data length begin_) := by
  let good : Nat → Prop := fun place => Good data (place % length)
  have not_good : ¬ good begin_ := bad_begin inside bad
  let windows (count : Nat) := (range' begin_ count).foldl (windowStep data length) .none
  have turns := @foldlM_range' WindowTables (tableStep data length) (fun delay tables =>
    Agrees length tables (windows (delay - begin_))) begin_ length (.none length) ?_ ?_
  · obtain ⟨tables, done, agrees⟩ := turns
    rw [Nat.add_sub_cancel_left] at agrees
    exact ⟨tables, done, agrees⟩
  · rw [Nat.sub_self]
    exact ⟨rfl, Table.shows_replicate length 0, Table.shows_replicate length 0⟩
  · intro delay above below tables agrees
    obtain ⟨count, rfl⟩ : ∃ count, delay = begin_ + count := ⟨delay - begin_, by omega⟩
    have next : windows (begin_ + count + 1 - begin_) =
        windowStep data length (windows count) (begin_ + count) := by
      have one : begin_ + count + 1 - begin_ = count + 1 := by omega
      dsimp only [windows]
      rw [one, range'_1_concat, foldl_append]
      rfl
    rw [Nat.add_sub_cancel_left] at agrees
    rw [next]
    have number : (windows count).counter + 1 = (scan good begin_ count).length :=
      (windows_hold data length begin_ count).counter
    cases count with
    | zero =>
      -- the search begins with a bad channel
      have empty : (windows 0).counter = -1 := rfl
      exact agrees.step (by omega) (by omega) (Int.le_refl _) (fun is => absurd is not_good)
        fun is => absurd is not_good
    | succ count =>
      have few := scan_length good not_good count
      have scanned := scan_scanned not_good count
      refine agrees.step (by omega) (by omega) (by omega) (fun _ => by omega) fun _ previous => ?_
      obtain ⟨latest, earlier, found, -⟩ := scanned.latest (by omega) previous
      rw [found, length_cons] at number
      omega

lemma tableAverage_eq {start width} (inside : start + width ≤ 2 * length) :
    tableAverage data length start width = some (averageChannel data length start width) := by
  have turns (sums : Nat × Nat) (channel : Nat) (member : channel ∈ range' start width) : (do
      let count ← entry (doubled data length) channel
      return (sums.1 + turnedOver count * channel, sums.2 + turnedOver count)) =
        some (sums.1 + turnedOver (copy data length channel) * channel,
          sums.2 + turnedOver (copy data length channel)) := by
    have within := mem_range'_1.1 member
    rw [doubled_entry (by omega)]
    rfl
  rw [tableAverage, foldlM_some (fun channel member sums => turns sums channel member)]
  rfl

lemma tableBest_eq {tables windows}
    (agrees : Agrees length tables windows) (room : windows.counter < length)
    (inside : ∀ window ∈ windows.places, window.1 + window.2 ≤ 2 * length) :
    tableBest data length tables = some (bestValue data length windows) := by
  have turns (best : Int) (counter : Nat)
      (member : counter ∈ List.range (windows.counter + 1).toNat) : (do
        let width ← entry tables.width counter
        if widthThreshold < width then
          let start ← entry tables.start counter
          let average ← tableAverage data length start width
          return roundOff average % length
        else return best) =
      some (if widthThreshold < windows.width counter then
        roundOff (averageChannel data length (windows.start counter) (windows.width counter)) % length
      else best) := by
    have below := mem_range.1 member
    have within : 0 ≤ (counter : Int) ∧ (counter : Int) < length := by omega
    have place := inside (windows.start counter, windows.width counter)
      (mem_map.2 ⟨counter, member, rfl⟩)
    rw [agrees.width.entry within, agrees.start.entry within, Option.bind_eq_bind, Option.bind_some]
    split
    · rw [Option.bind_some, tableAverage_eq place]
      rfl
    · rfl
  rw [tableBest, agrees.counter,
    foldlM_some fun counter member best => turns best counter member, bestValue]
  simp only [bind_pure_comp, map_eq_map, foldl_map]

lemma windowAnalysis_inside {channel} (inside : channel < length)
    (bad : countThreshold < data channel) (windowCounter) :
    windowAnalysisInTables data length windowCounter =
      some (windowAnalysis data length windowCounter) := by
  obtain ⟨begin_, found, within, bad_⟩ := beginChannel_first inside bad
  obtain ⟨tables, done, agrees⟩ := tableSteps_agree within bad_
  have scanned := windows_scanned within bad_
  have holds := findWindows_holds data length begin_
  rw [windowAnalysisInTables, windowAnalysis, found]
  dsimp only
  rw [done, Option.bind_eq_bind, Option.bind_some, agrees.counter]
  split
  · rfl
  · have number := holds.counter
    have room : (findWindows data length begin_).counter < length := by
      have few := @scan_length (fun place => Good data (place % length)) _ begin_
        (bad_begin within bad_) (length - 1)
      have whole : length - 1 + 1 = length := by omega
      rw [whole] at few
      omega
    rw [tableBest_eq agrees room fun window member => ?_]
    · rfl
    · rw [holds.places, mem_reverse] at member
      have ends := (scanned.inside window member).2.2
      omega

end

variable {data : Nat → Int} {length : Nat}

lemma centre_within (counts : ∀ channel < length, 0 ≤ data channel) {start width}
    (run : Run (Good data) length start width) :
    ∃ within < width, centre data length start width = ((start + within) % length : Nat) := by
  have positive := weights_of_run counts (Nat.mod_eq_of_lt run.within ▸ run)
  obtain ⟨lower, upper⟩ := middle_within run.some_ positive
  obtain ⟨within, same⟩ := Int.eq_ofNat_of_zero_le lower
  refine ⟨within, by omega, ?_⟩
  rw [centre, same]
  rfl

lemma centre_turn {other start width shift} (positive : 0 < length)
    (same : ∀ channel < length, other ((channel + shift) % length) = data channel) :
    centre other length ((start + shift) % length) width =
      (centre data length start width + shift) % length := by
  have turned : middle other length ((start + shift) % length) width =
      middle data length start width := middle_turn positive same (Nat.mod_mod _ _)
  have order : (start : Int) + middle data length start width + shift =
      start + shift + middle data length start width := by omega
  rw [centre, centre, turned, Int.emod_add_emod, order, Int.natCast_mod, Int.emod_add_emod,
    Nat.cast_add]

lemma turn_back {Value : Type} {values other : Nat → Value} {shift} (positive : 0 < length)
    (same : ∀ channel < length, other ((channel + shift) % length) = values channel)
    (channel) (inside : channel < length) :
    values ((channel + (length - shift % length)) % length) = other channel := by
  have small := Nat.mod_lt shift positive
  have whole : channel + (length - shift % length) + shift % length = channel + length := by omega
  rw [← same _ (Nat.mod_lt _ positive), Nat.mod_add_mod, ← Nat.add_mod_mod, whole,
    Nat.add_mod_right, Nat.mod_eq_of_lt inside]

lemma windowAnalysis_of_unique (counts : ∀ channel < length, 0 ≤ data channel) {channel}
    (inside : channel < length) (bad : countThreshold < data channel) {start width}
    (run : Run (Good data) length start width) (wide : widthThreshold < width)
    (only : ∀ first more, Run (Good data) length first more → widthThreshold < more →
      first = start ∧ more = width) (windowCounter) :
    (windowAnalysis data length windowCounter).1 = centre data length start width := by
  have listed := mem_windowsFound inside bad
  rcases windowAnalysis_cases counts inside bad windowCounter with
    ⟨empty, -⟩ | ⟨-, narrow, -⟩ | ⟨window, member, enough, same⟩
  · have member := (listed start width).2 run
    rw [empty] at member
    exact absurd member not_mem_nil
  · exact absurd wide (narrow _ ((listed start width).2 run))
  · obtain ⟨first, more⟩ := only _ _ ((listed _ _).1 member) enough
    rw [same, first, more]

theorem windowAnalysis_windows
    (counts : ∀ channel < length, 0 ≤ data channel ∧ data channel < 65536)
    (bad : ∃ channel < length, countThreshold < data channel) (windowCounter : Int) :
    windowAnalysisInTables data length windowCounter =
        some (windowAnalysis data length windowCounter) ∧
      (windowsFound length data).Nodup ∧
      (∀ start width, (start, width) ∈ windowsFound length data ↔
        Run (Good data) length start width) ∧
      ((windowAnalysis data length windowCounter).1 = -999 ↔
        ¬ ∃ start width, Run (Good data) length start width) ∧
      ((windowAnalysis data length windowCounter).1 = -1 ↔
        (∃ start width, Run (Good data) length start width) ∧
          ∀ start width, Run (Good data) length start width → width ≤ widthThreshold) ∧
      ((∃ start width, Run (Good data) length start width ∧ widthThreshold < width) →
        ∃ start width, Run (Good data) length start width ∧ widthThreshold < width ∧
          ∃ within < width, (windowAnalysis data length windowCounter).1 =
            ((start + within) % length : Nat)) ∧
      ∀ (other : Nat → Int) (shift : Nat) (otherCounter : Int),
        (∀ channel < length, other ((channel + shift) % length) = data channel) →
        (∃! run : Nat × Nat, Run (Good data) length run.1 run.2 ∧ widthThreshold < run.2) →
        (windowAnalysis other length otherCounter).1 =
          ((windowAnalysis data length windowCounter).1 + shift) % length := by
  have positive_ : ∀ channel < length, 0 ≤ data channel := fun channel below =>
    (counts channel below).1
  obtain ⟨channel, inside, bad⟩ := bad
  have listed := mem_windowsFound inside bad
  have nonempty :
      windowsFound length data ≠ [] ↔ ∃ start width, Run (Good data) length start width := by
    constructor
    · intro some_
      obtain ⟨window, member⟩ := exists_mem_of_ne_nil _ some_
      exact ⟨_, _, (listed _ _).1 member⟩
    · rintro ⟨start, width, run⟩
      exact ne_nil_of_mem ((listed start width).2 run)
  refine ⟨windowAnalysis_inside inside bad windowCounter, windowsFound_nodup inside bad, listed, ?_, ?_,
    ?_, ?_⟩
  · rw [← nonempty, not_not]
    rcases windowAnalysis_cases positive_ inside bad windowCounter with
      ⟨empty, same⟩ | ⟨some_, -, same⟩ | ⟨window, member, -, same⟩
    · simp only [empty, same]
    · simp only [some_, same, iff_false]
      omega
    · obtain ⟨within, -, value⟩ := centre_within positive_ ((listed _ _).1 member)
      refine ⟨fun error => by omega, fun empty => ?_⟩
      rw [empty] at member
      exact absurd member not_mem_nil
  · rw [← nonempty]
    rcases windowAnalysis_cases positive_ inside bad windowCounter with
      ⟨empty, same⟩ | ⟨some_, narrow, same⟩ | ⟨window, member, wide, same⟩
    · exact ⟨fun error => by omega, fun both => absurd empty both.1⟩
    · exact ⟨fun _ => ⟨some_, fun start width run =>
        Nat.not_lt.1 (narrow _ ((listed start width).2 run))⟩, fun _ => same⟩
    · have run := (listed _ _).1 member
      obtain ⟨within, -, value⟩ := centre_within positive_ run
      exact ⟨fun error => by omega, fun both => absurd wide (Nat.not_lt.2 (both.2 _ _ run))⟩
  · rintro ⟨start, width, run, wide⟩
    rcases windowAnalysis_cases positive_ inside bad windowCounter with
      ⟨empty, -⟩ | ⟨-, narrow, -⟩ | ⟨window, member, enough, same⟩
    · exact absurd empty (nonempty.2 ⟨start, width, run⟩)
    · exact absurd wide (narrow _ ((listed start width).2 run))
    · have run := (listed _ _).1 member
      exact ⟨_, _, run, enough, by rw [same]; exact centre_within positive_ run⟩
  · rintro other shift otherCounter turned ⟨⟨start, width⟩, ⟨run, wide⟩, only⟩
    have around : 0 < length := by omega
    have goods : ∀ place < length,
        (Good other ((place + shift) % length) ↔ Good data place) := fun place below => by
      rw [Good, Good, turned place below]
    have back := turn_back around turned
    have counts_ : ∀ place < length, 0 ≤ other place := fun place below => by
      rw [← back place below]
      exact positive_ _ (Nat.mod_lt _ around)
    have bad_ : countThreshold < other ((channel + shift) % length) := by
      rw [turned channel inside]
      exact bad
    have one := windowAnalysis_of_unique positive_ inside bad run wide (fun first more run' wide' =>
      Prod.mk.inj (only (first, more) ⟨run', wide'⟩)) windowCounter
    have runTurned := run.turn goods
    have two := windowAnalysis_of_unique counts_ (Nat.mod_lt _ around) bad_ runTurned wide
      (fun first more run' wide' => ?_) otherCounter
    · rw [one, two, centre_turn around turned]
    · have goodsBack : ∀ place < length,
          (Good data ((place + (length - shift % length)) % length) ↔ Good other place) :=
        fun place below => by rw [Good, Good, back place below]
      obtain ⟨same, rfl⟩ := Prod.mk.inj (only _ ⟨run'.turn goodsBack, wide'⟩)
      refine ⟨?_, rfl⟩
      have small := Nat.mod_lt shift around
      have whole : first + (length - shift % length) + shift % length = first + length := by omega
      rw [← same, Nat.mod_add_mod, ← Nat.add_mod_mod, whole, Nat.add_mod_right,
        Nat.mod_eq_of_lt run'.within]

/-- One bad channel of four. -/
theorem windowAnalysis_windows_four :
    (windowAnalysis (fun channel => if channel = 3 then 20 else 0) 4 0).1 =
      ((windowAnalysis (fun channel => if channel = 0 then 20 else 0) 4 0).1 + 3) % 4 := by
  obtain ⟨-, -, listed, -, -, -, turns⟩ :=
    @windowAnalysis_windows (fun channel => if channel = 0 then 20 else 0) 4 (by decide)
      ⟨0, by decide⟩ 0
  refine turns _ 3 0 (by decide) ⟨(1, 3), ⟨(listed 1 3).1 (by decide), by decide⟩, fun run wide => ?_⟩
  have member := (listed run.1 run.2).2 wide.1
  exact mem_singleton.1 member

end EmuLib.ChamberUtilities
