import EmuLib.ChamberUtilities.WindowAnalysis
import EmuLib.Lib.Table
import Mathlib.Algebra.BigOperators.Ring.Finset
import Mathlib.Data.Int.ModEq
import Mathlib.Algebra.Order.BigOperators.Group.List

/-!
The average of receive phases, which wrap around, and the decision that is taken with it.
-/

namespace EmuLib.ChamberUtilities

open List Function

open Table (entry enter)

inductive CfebTimingScanType
  | normalScan
  | me11bScan
  | me11aScan
  | normalNewScan
  | me11bNewScan
  | me11aNewScan
  | simplePulseScan
  | simpleInjectScan
  deriving DecidableEq

def fillVector (values : List Int) (maxValue : Nat) : Option (List Nat) :=
  (List.range maxValue).foldlM (fun vector (i : Nat) => enter vector i (values.count (i : Int)))
    (List.replicate 50 0)

def correctEdge (maxValue : Nat) : Nat → List Nat → Nat → Option (List Nat)
  | 0, _, _ => none
  | fuel + 1, vector, i => do
      let count ← entry vector i
      if 0 < count then
        let moved ← enter vector (i + maxValue : Nat) count
        let cleared ← enter moved i 0
        correctEdge maxValue fuel cleared (i + 1)
      else return vector

def meanOfVector (vector : List Nat) (maxValue : Nat) : Option Rat := do
  let sums ← (List.range (2 * maxValue)).foldlM (fun (sums : Nat × Nat) (index : Nat) => do
    let count ← entry vector index
    return if 0 < count then (sums.1 + index * count, sums.2 + count) else sums) (0, 0)
  let mean : Rat := sums.1 / sums.2
  return if (maxValue : Rat) - 1 / 10 < mean then mean - maxValue else mean

def averageWithWraparound (values : List Int) (maxValue : Nat) : Option Rat := do
  let filled ← fillVector values maxValue
  let corrected ← correctEdge maxValue 51 filled 0
  meanOfVector corrected maxValue

def determineAverageWithWraparound5 (val1 val2 val3 val4 val5 : Int) (maxValue : Nat) :
    Option Rat := averageWithWraparound [val1, val2, val3, val4, val5] maxValue

def determineAverageWithWraparound4 (val1 val2 val3 val4 : Int) (maxValue : Nat) : Option Rat :=
  averageWithWraparound [val1, val2, val3, val4] maxValue

def specialRegionFunction (signedRx : Rat) : Rat :=
  if -25 < signedRx ∧ signedRx < 2 then -43 / 100 * signedRx + 5
  else if 2 ≤ signedRx ∧ signedRx ≤ 13 then 7
  else if 13 < signedRx ∧ signedRx < 25 then 4 / 10 * signedRx - 55 / 10
  else 99999

/-- The decision on an average; CFEB 5 gives the sign and the time of flight, except for ME1/1b. -/
def specialFor (tof pn : Fin 5 → Int) (scanType : CfebTimingScanType) (averageRx : Rat) : Bool :=
  let signedRx :=
    if scanType = .me11aScan ∨ scanType = .normalScan then
      if pn 4 = 0 then -averageRx else averageRx
    else if scanType = .me11bScan then if pn 0 = 0 then -averageRx else averageRx
    else averageRx
  let timeOfFlight : Rat :=
    if scanType = .me11aScan ∨ scanType = .normalScan then tof 4
    else if scanType = .me11bScan then tof 0
    else -999
  specialRegionFunction signedRx < timeOfFlight

def inSpecialRegion (tof rx pn : Fin 5 → Int) (scanType : CfebTimingScanType) : Option Bool :=
  (match scanType with
    | .normalScan =>
      determineAverageWithWraparound5 (rx 0) (rx 1) (rx 2) (rx 3) (rx 4) maxTimeDelay
    | .me11bScan => determineAverageWithWraparound4 (rx 0) (rx 1) (rx 2) (rx 3) maxTimeDelay
    | .me11aScan => some (rx 4 : Rat)
    | _ => some (-1)).map (specialFor tof pn scanType)

section

open Table (Shows foldlM_range')

variable {places : List Nat} {maxValue : Nat}

def movedUpTo (places : List Nat) (maxValue i j : Nat) : Nat :=
  if j < i then 0
  else if j < maxValue then places.count j
  else if j < maxValue + i then places.count (j - maxValue)
  else 0

lemma count_cast (places : List Nat) (i : Nat) :
    (places.map Nat.cast : List Int).count (i : Int) = places.count i :=
  count_map_of_injective places _ Nat.cast_injective i

lemma fillVector_shows (places) (small : maxValue ≤ 50) :
    ∃ vector, fillVector (places.map Nat.cast) maxValue = some vector ∧
      Shows vector 50 fun j => movedUpTo places maxValue 0 j.toNat := by
  obtain ⟨vector, filled, shows_⟩ := @foldlM_range' (List Nat)
    (fun vector i => enter vector (i : Nat) ((places.map Nat.cast).count (i : Int)))
    (fun i vector => Shows vector 50 fun j => if j.toNat < i then places.count j.toNat else 0)
    0 maxValue (replicate 50 0)
    ((Table.shows_replicate 50 0).congr fun index _ => (if_neg (Nat.not_lt_zero _)).symm)
    fun index _ below vector shows_ => by
      obtain ⟨next, entered, shows_⟩ := @Table.Shows.enter _ _ _ _ (index : Int) shows_ (by omega)
        ((places.map Nat.cast).count (index : Int))
      refine ⟨next, entered, shows_.congr fun other _ => ?_⟩
      by_cases same : other = index
      · rw [same, update_self, count_cast, Int.toNat_natCast,
          if_pos (Nat.lt_succ_self index)]
      · rw [update_of_ne (by omega)]
        exact if_congr (by omega) rfl rfl
  refine ⟨vector, ?_, shows_.congr fun index _ => ?_⟩
  · rw [fillVector, range_eq_range']
    exact filled
  · rw [Nat.zero_add, movedUpTo, Nat.add_zero]
    split
    · rfl
    · rfl

lemma correctEdge_shows {gap} (small : maxValue ≤ 25) (below : gap < maxValue)
    (free : places.count gap = 0) (occurs : ∀ i < gap, 0 < places.count i) (fuel i)
    (upto : i ≤ gap) (enough : gap - i < fuel) {vector}
    (shows_ : Shows vector 50 fun j => movedUpTo places maxValue i j.toNat) :
    ∃ last, correctEdge maxValue fuel vector i = some last ∧
      Shows last 50 fun j => movedUpTo places maxValue gap j.toNat := by
  induction fuel generalizing i vector with
  | zero => exact absurd enough (Nat.not_lt_zero _)
  | succ fuel ih =>
    have inside : 0 ≤ (i : Int) ∧ (i : Int) < (50 : Nat) := by omega
    have here : movedUpTo places maxValue i i = places.count i := by
      rw [movedUpTo, if_neg (Nat.lt_irrefl i), if_pos (by omega)]
    rw [correctEdge, shows_.entry inside, Option.bind_eq_bind, Option.bind_some,
      Int.toNat_natCast, here]
    rcases Nat.lt_or_eq_of_le upto with before | rfl
    · obtain ⟨moved, entered, showsMoved⟩ := @Table.Shows.enter _ _ _ _ ((i + maxValue : Nat) : Int)
        shows_ (by omega) (places.count i)
      obtain ⟨cleared, enteredToo, showsCleared⟩ := showsMoved.enter inside 0
      rw [if_pos (occurs i before), entered, Option.bind_eq_bind, Option.bind_some, enteredToo]
      refine ih (i + 1) before (by omega) (showsCleared.congr fun j _ => ?_)
      rw [Int.toNat_natCast, movedUpTo]
      by_cases same : j = i
      · rw [same, update_self, if_pos (Nat.lt_succ_self i)]
      · rw [update_of_ne (by omega)]
        by_cases target : j = i + maxValue
        · have back : i + maxValue - maxValue = i := by omega
          rw [target, update_self, if_neg (by omega), if_neg (by omega),
            if_pos (by omega), back]
        · rw [update_of_ne (by omega), Int.toNat_natCast, movedUpTo,
            if_congr (show j < i ↔ j < i + 1 by omega) rfl rfl,
            if_congr (show j < maxValue + i ↔ j < maxValue + (i + 1) by omega) rfl rfl]
    · rw [free]
      exact ⟨vector, rfl, shows_⟩

lemma sum_counts (inside : ∀ place ∈ places, place < maxValue) (worth) :
    ∑ i ∈ Finset.range maxValue, worth i * places.count i = (places.map worth).sum := by
  induction places with
  | nil => simp
  | cons place rest ih =>
    have single : ∑ i ∈ Finset.range maxValue, worth i * (if place = i then 1 else 0) =
        worth place := by
      simp [inside place mem_cons_self]
    simp only [count_cons, Nat.mul_add, Finset.sum_add_distrib, beq_iff_eq, single,
      ih fun other member => inside other (mem_cons_of_mem _ member), map_cons,
      sum_cons]
    exact Nat.add_comm _ _

def movedPlace (maxValue gap place : Nat) : Nat := if place < gap then maxValue + place else place

lemma sum_moved {gap} (below : gap < maxValue) (inside : ∀ place ∈ places, place < maxValue)
    (worth : Nat → Nat) :
    ∑ j ∈ Finset.range (2 * maxValue), worth j * movedUpTo places maxValue gap j =
      (places.map fun place => worth (movedPlace maxValue gap place)).sum := by
  have twice : 2 * maxValue = maxValue + maxValue := by omega
  rw [twice, Finset.sum_range_add, ← Finset.sum_add_distrib, ← sum_counts inside]
  refine Finset.sum_congr rfl fun j member => ?_
  have lower := Finset.mem_range.1 member
  have back : maxValue + j - maxValue = j := by omega
  rw [movedUpTo, movedUpTo, movedPlace, back]
  by_cases moved : j < gap
  · rw [if_pos moved, if_neg (by omega), if_neg (by omega), if_pos (by omega), if_pos moved,
      Nat.mul_zero, Nat.zero_add]
  · rw [if_neg moved, if_pos lower, if_neg (by omega), if_neg (by omega), if_neg (by omega),
      if_neg moved, Nat.mul_zero, Nat.add_zero]

lemma meanOfVector_eq {vector values} (shows_ : Shows vector 50 values)
    (small : maxValue ≤ 25) : meanOfVector vector maxValue =
      let mean : Rat := (∑ j ∈ Finset.range (2 * maxValue), j * values j : Nat) /
        (∑ j ∈ Finset.range (2 * maxValue), values j : Nat)
      some (if (maxValue : Rat) - 1 / 10 < mean then mean - maxValue else mean) := by
  obtain ⟨sums, done, same⟩ := @foldlM_range' (Nat × Nat)
    (fun sums index => do
      let count ← entry vector index
      return if 0 < count then (sums.1 + index * count, sums.2 + count) else sums)
    (fun index sums => sums =
      (∑ j ∈ Finset.range index, j * values j, ∑ j ∈ Finset.range index, values j))
    0 (2 * maxValue) (0, 0) rfl
    fun index _ below sums same => by
      have inside : 0 ≤ (index : Int) ∧ (index : Int) < (50 : Nat) := by omega
      refine ⟨_, by rw [shows_.entry inside]; rfl, ?_⟩
      rw [same, Finset.sum_range_succ, Finset.sum_range_succ]
      split
      · rfl
      next none_ =>
        have zero : values index = 0 := Nat.eq_zero_of_not_pos none_
        rw [zero, Nat.mul_zero, Nat.add_zero, Nat.add_zero]
  rw [meanOfVector, range_eq_range', done, same, Nat.zero_add]
  rfl

end

section

variable {places : List Nat} {maxValue gap : Nat}

lemma averageWithWraparound_eq (small : maxValue ≤ 25) (below : gap < maxValue)
    (free : places.count gap = 0) (occurs : ∀ i < gap, 0 < places.count i)
    (inside : ∀ place ∈ places, place < maxValue) :
    averageWithWraparound (places.map Nat.cast) maxValue =
      let mean : Rat := (places.map (movedPlace maxValue gap)).sum / places.length
      some (if (maxValue : Rat) - 1 / 10 < mean then mean - maxValue else mean) := by
  obtain ⟨filled, done, showsFilled⟩ := fillVector_shows places (show maxValue ≤ 50 by omega)
  obtain ⟨corrected, moved, showsMoved⟩ :=
    correctEdge_shows small below free occurs 51 0 (Nat.zero_le _) (by omega) showsFilled
  have moments := sum_moved below inside fun j => j
  have number := sum_moved below inside fun _ => 1
  simp only [Nat.one_mul] at number
  rw [averageWithWraparound, done, Option.bind_eq_bind, Option.bind_some, moved,
    Option.bind_some, meanOfVector_eq showsMoved small]
  have each : (places.map fun _ => 1).sum = places.length := by simp
  simp only [Int.toNat_natCast, moments, number, each]

end

def arcPlaces (maxValue first : Nat) (steps : List Nat) : List Nat :=
  steps.map fun step => (first + step) % maxValue

def arcValues (maxValue first : Nat) (steps : List Nat) : List Int :=
  (arcPlaces maxValue first steps).map Nat.cast

def unwrappedMean (first : Nat) (steps : List Nat) : Rat :=
  ((steps.map fun step => first + step).sum : Nat) / steps.length

def AveragesRight (maxValue first : Nat) (steps : List Nat) : Prop :=
  ∃ average, averageWithWraparound (arcValues maxValue first steps) maxValue = some average ∧
    ∃ turns : Int, average = unwrappedMean first steps + turns * maxValue

def Past (maxValue first step : Nat) : Prop := maxValue ≤ first + step

instance (maxValue first : Nat) : DecidablePred (Past maxValue first) :=
  fun _ => inferInstanceAs (Decidable (_ ≤ _))

def InRun (places : List Nat) (place : Nat) : Prop := ∀ below ≤ place, below ∈ places

instance (places : List Nat) : DecidablePred (InRun places) :=
  fun place => inferInstanceAs (Decidable (∀ below ≤ place, below ∈ places))

/-- The values in the unbroken run from zero on are those after the wrap-around; or they are all on
one side of it, and all or none of them are in the run. -/
def RunUnwraps (maxValue first : Nat) (steps : List Nat) : Prop :=
  maxValue ≠ 1 ∧
    ((∀ step ∈ steps, InRun (arcPlaces maxValue first steps) ((first + step) % maxValue) ↔
        Past maxValue first step) ∨
      (∀ step ∈ steps, InRun (arcPlaces maxValue first steps) ((first + step) % maxValue) ∧
        ¬ Past maxValue first step) ∨
      ∀ step ∈ steps, ¬ InRun (arcPlaces maxValue first steps) ((first + step) % maxValue) ∧
        Past maxValue first step)

instance (maxValue first : Nat) (steps : List Nat) : Decidable (RunUnwraps maxValue first steps) :=
  inferInstanceAs (Decidable (_ ∧ _))

variable {maxValue first gap : Nat} {steps places : List Nat}

lemma sum_marked (worth more mark) [DecidablePred mark]
    (steps : List Nat) : (steps.map fun step => worth step + if mark step then more else 0).sum =
      (steps.map worth).sum + more * steps.countP mark := by
  induction steps with
  | nil => rfl
  | cons step rest ih =>
    rw [map_cons, sum_cons, map_cons, sum_cons, countP_cons, Nat.mul_add]
    by_cases marked : mark step
    · simp only [marked, if_true, decide_true]
      omega
    · simp only [marked, if_false, decide_false, Bool.false_eq_true, Nat.mul_zero]
      omega

lemma step_place (inside : first < maxValue) {step} (short : 2 * step < maxValue) :
    first + step = (first + step) % maxValue + if Past maxValue first step then maxValue else 0 := by
  by_cases past : Past maxValue first step
  · have over_ : maxValue ≤ first + step := past
    have rest : first + step - maxValue < maxValue := by omega
    rw [if_pos past, Nat.mod_eq_sub_mod over_, Nat.mod_eq_of_lt rest]
    omega
  · rw [if_neg past, Nat.mod_eq_of_lt (Nat.lt_of_not_le past), Nat.add_zero]

lemma sum_unwrapped (inside : first < maxValue) (arc : ∀ step ∈ steps, 2 * step < maxValue) :
    (steps.map fun step => first + step).sum =
      (arcPlaces maxValue first steps).sum + maxValue * steps.countP (Past maxValue first) := by
  rw [arcPlaces, ← sum_marked]
  exact congrArg List.sum (map_congr_left fun step member => step_place inside (arc step member))

lemma sum_corrected (maxValue first gap steps) :
    ((arcPlaces maxValue first steps).map (movedPlace maxValue gap)).sum =
      (arcPlaces maxValue first steps).sum +
        maxValue * steps.countP fun step => (first + step) % maxValue < gap := by
  rw [arcPlaces, map_map, ← sum_marked]
  refine congrArg List.sum (map_congr_left fun step _ => ?_)
  rw [Function.comp_apply, movedPlace]
  split
  · exact Nat.add_comm _ _
  · rfl

lemma inRun_iff (free : places.count gap = 0) (occurs : ∀ i < gap, 0 < places.count i)
    (place) : InRun places place ↔ place < gap := by
  constructor
  · intro run
    by_contra above
    exact absurd free (Nat.ne_of_gt (count_pos_iff.2 (run gap (Nat.not_lt.1 above))))
  · exact fun below lower upto => count_pos_iff.1 (occurs lower (Nat.lt_of_le_of_lt upto below))

lemma exists_gap (inside : first < maxValue) (arc : ∀ step ∈ steps, 2 * step < maxValue)
    (several : maxValue ≠ 1) : ∃ gap < maxValue,
      (arcPlaces maxValue first steps).count gap = 0 ∧
        ∀ i < gap, 0 < (arcPlaces maxValue first steps).count i := by
  have free : ∃ gap, (arcPlaces maxValue first steps).count gap = 0 ∧ gap < maxValue := by
    refine ⟨(first + (maxValue - 1)) % maxValue, ?_, Nat.mod_lt _ (by omega)⟩
    rw [count_eq_zero]
    intro member
    obtain ⟨step, behind, same⟩ := mem_map.1 member
    have short := arc step behind
    have apart : step % maxValue = (maxValue - 1) % maxValue :=
      Nat.ModEq.add_left_cancel' first same
    rw [Nat.mod_eq_of_lt (by omega), Nat.mod_eq_of_lt (by omega)] at apart
    omega
  have least := Nat.find_spec free
  refine ⟨Nat.find free, least.2, least.1, fun i below => Nat.pos_of_ne_zero fun none_ => ?_⟩
  exact Nat.find_min free below ⟨none_, Nat.lt_trans below least.2⟩

lemma past_of_inRun (inside : first < maxValue) (arc : ∀ step ∈ steps, 2 * step < maxValue)
    {crossing} (member : crossing ∈ steps) (past : Past maxValue first crossing) {step}
    (run : InRun (arcPlaces maxValue first steps) ((first + step) % maxValue)) :
    Past maxValue first step := by
  by_contra before
  rw [Past] at before past
  have short := arc crossing member
  rw [Nat.mod_eq_of_lt (by omega)] at run
  obtain ⟨other, further, same⟩ := mem_map.1 (run (first - 1) (by omega))
  have near := arc other further
  have split := step_place inside near
  have cases_ : (if Past maxValue first other then maxValue else 0) = 0 ∨
      (if Past maxValue first other then maxValue else 0) = maxValue := by
    split
    · exact .inr rfl
    · exact .inl rfl
  omega

lemma countP_back {p q} [DecidablePred p] [DecidablePred q]
    (forward : ∀ step ∈ steps, p step → q step) (same : steps.countP p = steps.countP q) :
    ∀ step ∈ steps, q step → p step := by
  induction steps with
  | nil => exact fun step member => absurd member not_mem_nil
  | cons step rest ih =>
    have fewer : rest.countP p ≤ rest.countP q :=
      countP_mono_left fun other member is => decide_eq_true
        (forward other (mem_cons_of_mem _ member) (of_decide_eq_true is))
    have here := forward step mem_cons_self
    rw [countP_cons, countP_cons] at same
    have agree : q step → p step := by
      intro is
      by_contra not
      simp only [is, not, decide_true, decide_false, if_true, Bool.false_eq_true, if_false] at same
      omega
    have counts : rest.countP p = rest.countP q := by
      by_cases is : p step
      · simp only [is, here is, decide_true, if_true] at same
        omega
      · simp only [is, decide_false, Bool.false_eq_true, if_false] at same
        omega
    rintro other member
    rcases mem_cons.1 member with rfl | further
    · exact agree
    · exact ih (fun item inside => forward item (mem_cons_of_mem _ inside)) counts other further

lemma dvd_counts_iff {p q} [DecidablePred p] [DecidablePred q] (some_ : steps ≠ [])
    (forward : (∃ step ∈ steps, q step) → ∀ step ∈ steps, p step → q step) :
    (steps.length : Int) ∣ steps.countP p - steps.countP q ↔
      (∀ step ∈ steps, p step ↔ q step) ∨ (∀ step ∈ steps, p step ∧ ¬ q step) ∨
        ∀ step ∈ steps, ¬ p step ∧ q step := by
  have positive : 0 < steps.length := length_pos_of_ne_nil some_
  have fewP : steps.countP p ≤ steps.length := countP_le_length
  have fewQ : steps.countP q ≤ steps.length := countP_le_length
  have noneP : steps.countP p = 0 ↔ ∀ step ∈ steps, ¬ p step := by
    simp only [countP_eq_zero, decide_eq_true_iff]
  have noneQ : steps.countP q = 0 ↔ ∀ step ∈ steps, ¬ q step := by
    simp only [countP_eq_zero, decide_eq_true_iff]
  have allP : steps.countP p = steps.length ↔ ∀ step ∈ steps, p step := by
    simp only [countP_eq_length, decide_eq_true_iff]
  have allQ : steps.countP q = steps.length ↔ ∀ step ∈ steps, q step := by
    simp only [countP_eq_length, decide_eq_true_iff]
  constructor
  · intro divides
    have cases_ : steps.countP p = steps.countP q ∨
        (steps.countP p = steps.length ∧ steps.countP q = 0) ∨
        (steps.countP p = 0 ∧ steps.countP q = steps.length) := by
      obtain ⟨times, same⟩ := divides
      rcases Int.lt_trichotomy times 0 with negative | rfl | above
      · have bound : (steps.length : Int) * times ≤ -steps.length := by nlinarith
        omega
      · omega
      · have bound : (steps.length : Int) ≤ steps.length * times := by nlinarith
        omega
    rcases cases_ with same | ⟨all, none_⟩ | ⟨none_, all⟩
    · rcases Nat.eq_zero_or_pos (steps.countP q) with zero | more
      · have neither := noneP.1 (same.trans zero)
        have nor := noneQ.1 zero
        exact .inl fun step member =>
          ⟨fun is => absurd is (neither step member), fun is => absurd is (nor step member)⟩
      · obtain ⟨crossing, member, past⟩ := countP_pos_iff.1 more
        have onward := forward ⟨crossing, member, of_decide_eq_true past⟩
        exact .inl fun step behind => ⟨onward step behind, countP_back onward same step behind⟩
    · exact .inr (Or.inl fun step member => ⟨allP.1 all step member, noneQ.1 none_ step member⟩)
    · exact .inr (Or.inr fun step member => ⟨noneP.1 none_ step member, allQ.1 all step member⟩)
  · rintro (same | both | both)
    · have equal : steps.countP p = steps.countP q :=
        countP_congr fun step member => by
          rw [decide_eq_true_iff, decide_eq_true_iff]
          exact same step member
      rw [equal, Int.sub_self]
      exact dvd_zero _
    · rw [allP.2 fun step member => (both step member).1, noneQ.2 fun step member => (both step member).2,
        Nat.cast_zero, Int.sub_zero]
    · rw [noneP.2 fun step member => (both step member).1, allQ.2 fun step member => (both step member).2,
        Nat.cast_zero, Int.zero_sub, Int.dvd_neg]

lemma average_of_arc (small : maxValue ≤ 25) (inside : first < maxValue)
    (arc : ∀ step ∈ steps, 2 * step < maxValue) (several : maxValue ≠ 1) :
    averageWithWraparound (arcValues maxValue first steps) maxValue =
      let mean : Rat := ((arcPlaces maxValue first steps).sum + maxValue * steps.countP fun step =>
        InRun (arcPlaces maxValue first steps) ((first + step) % maxValue) : Nat) / steps.length
      some (if (maxValue : Rat) - 1 / 10 < mean then mean - maxValue else mean) := by
  obtain ⟨gap, below, free, occurs⟩ := exists_gap inside arc several
  have inside_ : ∀ place ∈ arcPlaces maxValue first steps, place < maxValue := by
    intro place member
    obtain ⟨step, -, rfl⟩ := mem_map.1 member
    exact Nat.mod_lt _ (by omega)
  have same : (steps.countP fun step => (first + step) % maxValue < gap) = steps.countP fun step =>
      InRun (arcPlaces maxValue first steps) ((first + step) % maxValue) :=
    countP_congr fun step _ => by
      rw [decide_eq_true_iff, decide_eq_true_iff]
      exact (inRun_iff free occurs _).symm
  have length_ : (arcPlaces maxValue first steps).length = steps.length := length_map _
  rw [arcValues, averageWithWraparound_eq small below free occurs inside_, sum_corrected, same,
    length_]

lemma turns_iff {number more fewer : Nat} (positive : 0 < number) (modulus : 0 < maxValue) (sum) :
    (∃ turns : Int, ((sum + maxValue * more : Nat) : Rat) / number =
      ((sum + maxValue * fewer : Nat) : Rat) / number + turns * maxValue) ↔
        (number : Int) ∣ more - fewer := by
  have nonzero : (number : Rat) ≠ 0 := Nat.cast_ne_zero.2 (Nat.ne_of_gt positive)
  have nonzero_ : (maxValue : Rat) ≠ 0 := Nat.cast_ne_zero.2 (Nat.ne_of_gt modulus)
  refine exists_congr fun turns => ?_
  have clear : ((sum + maxValue * more : Nat) : Rat) / number =
      ((sum + maxValue * fewer : Nat) : Rat) / number + turns * maxValue ↔
        (more : Rat) - fewer = number * turns := by
    rw [div_add' _ _ _ nonzero, div_left_inj' nonzero]
    push_cast
    constructor
    · intro same
      apply mul_left_cancel₀ nonzero_
      linarith
    · intro same
      have times : (maxValue : Rat) * (more - fewer) = maxValue * (number * turns) := by rw [same]
      linarith
  rw [clear]
  exact_mod_cast Iff.rfl

lemma averagesRight_iff (small : maxValue ≤ 25) (inside : first < maxValue)
    (arc : ∀ step ∈ steps, 2 * step < maxValue) (several : maxValue ≠ 1) (some_ : steps ≠ []) :
    AveragesRight maxValue first steps ↔ RunUnwraps maxValue first steps := by
  have positive : 0 < steps.length := length_pos_of_ne_nil some_
  have modulus : 0 < maxValue := by omega
  rw [RunUnwraps, and_iff_right several, ← dvd_counts_iff some_ fun ⟨crossing, member, past⟩ step _ =>
    past_of_inRun inside arc member past, 
    ← turns_iff positive modulus (arcPlaces maxValue first steps).sum, AveragesRight, unwrappedMean,
    average_of_arc small inside arc several, sum_unwrapped inside arc]
  simp only [Option.some.injEq, exists_eq_left']
  split
  · constructor
    · rintro ⟨turns, same⟩
      refine ⟨turns + 1, ?_⟩
      rw [Int.cast_add]
      linarith
    · rintro ⟨turns, same⟩
      refine ⟨turns - 1, ?_⟩
      rw [Int.cast_sub]
      linarith
  · exact Iff.rfl

lemma average_bounds (small : maxValue ≤ 25) (inside : first < maxValue)
    (arc : ∀ step ∈ steps, 2 * step < maxValue) (several : maxValue ≠ 1) {average}
    (returned : averageWithWraparound (arcValues maxValue first steps) maxValue = some average) :
    -1 / 10 < average ∧ average ≤ maxValue - 1 / 10 := by
  obtain ⟨gap, below, free, occurs⟩ := exists_gap inside arc several
  have inside_ : ∀ place ∈ arcPlaces maxValue first steps, place < maxValue := by
    intro place member
    obtain ⟨step, -, rfl⟩ := mem_map.1 member
    exact Nat.mod_lt _ (by omega)
  rw [arcValues, averageWithWraparound_eq small below free occurs inside_] at returned
  -- no value is moved up to the double of the largest
  have limit : (((arcPlaces maxValue first steps).map (movedPlace maxValue gap)).sum : Rat) ≤
      (arcPlaces maxValue first steps).length * (2 * maxValue - 2 : Nat) := by
    have each : ∀ place ∈ (arcPlaces maxValue first steps).map (movedPlace maxValue gap),
        place ≤ 2 * maxValue - 2 := by
      intro place member
      obtain ⟨before, behind, rfl⟩ := mem_map.1 member
      have small_ := inside_ before behind
      rw [movedPlace]
      split <;> omega
    have total := sum_le_card_nsmul _ _ each
    rw [length_map] at total
    exact_mod_cast total
  have nonneg : (0 : Rat) ≤ (((arcPlaces maxValue first steps).map (movedPlace maxValue gap)).sum : Nat) :=
    Nat.cast_nonneg _
  have mean_nonneg := div_nonneg nonneg (Nat.cast_nonneg (arcPlaces maxValue first steps).length)
  have mean_le : (((arcPlaces maxValue first steps).map (movedPlace maxValue gap)).sum : Rat) /
      (arcPlaces maxValue first steps).length ≤ (2 * maxValue - 2 : Nat) := by
    refine div_le_of_le_mul₀ (Nat.cast_nonneg _) (Nat.cast_nonneg _) ?_
    rw [mul_comm]
    exact limit
  have twice : ((2 * maxValue - 2 : Nat) : Rat) = 2 * maxValue - 2 := by
    rw [Nat.cast_sub (by omega)]
    push_cast
    rfl
  rw [twice] at mean_le
  dsimp only at returned
  split at returned
  next above =>
    rw [← Option.some.inj returned]
    constructor <;> linarith
  next low =>
    rw [← Option.some.inj returned]
    constructor <;> linarith

lemma average_determined (small : maxValue ≤ 25) (inside : first < maxValue)
    (arc : ∀ step ∈ steps, 2 * step < maxValue) (some_ : steps ≠ [])
    (unwraps : RunUnwraps maxValue first steps) {average} {turns : Int}
    (mean : average = unwrappedMean first steps + turns * maxValue)
    (bounds : -1 / 10 < average ∧ average ≤ maxValue - 1 / 10) :
    averageWithWraparound (arcValues maxValue first steps) maxValue = some average := by
  have several := unwraps.1
  obtain ⟨returned, done, other, same⟩ := (averagesRight_iff small inside arc several some_).2 unwraps
  have limits := average_bounds small inside arc several done
  have modulus : (0 : Rat) < maxValue := Nat.cast_pos.2 (by omega)
  have apart : returned - average = ((other - turns : Int) : Rat) * maxValue := by
    rw [same, mean, Int.cast_sub]
    ring
  have above : (-1 : Rat) < (other - turns : Int) := by
    by_contra far
    have moved := mul_le_mul_of_nonneg_right (not_lt.1 far) modulus.le
    linarith
  have below : ((other - turns : Int) : Rat) < 1 := by
    by_contra far
    have moved := mul_le_mul_of_nonneg_right (not_lt.1 far) modulus.le
    linarith
  have equal : other - turns = 0 := by
    have lower : -1 < other - turns := by exact_mod_cast above
    have upper : other - turns < 1 := by exact_mod_cast below
    omega
  rw [equal, Int.cast_zero, zero_mul, sub_eq_zero] at apart
  rw [done, apart]

lemma unwrappedMean_shift (some_ : steps ≠ []) (first shift) :
    unwrappedMean (first + shift) steps = unwrappedMean first steps + shift := by
  have nonzero : (steps.length : Rat) ≠ 0 :=
    Nat.cast_ne_zero.2 (Nat.ne_of_gt (length_pos_of_ne_nil some_))
  have sums : (steps.map fun step => first + shift + step).sum =
      (steps.map fun step => first + step).sum + shift * steps.length := by
    have always := sum_marked (fun step => first + step) shift (fun _ => True) steps
    rw [countP_eq_length.2 fun _ _ => decide_eq_true trivial] at always
    rw [← always]
    refine congrArg List.sum (map_congr_left fun step _ => ?_)
    rw [if_pos trivial]
    omega
  rw [unwrappedMean, unwrappedMean, sums, Nat.cast_add, Nat.cast_mul, add_div,
    mul_div_cancel_right₀ _ nonzero]

lemma average_of_one (first) (number : steps.length = 4 ∨ steps.length = 5) :
    averageWithWraparound (arcValues 1 first steps) 1 = none := by
  have zeros : arcValues 1 first steps = replicate steps.length 0 := by
    refine eq_replicate_iff.2 ⟨?_, fun value member => ?_⟩
    · rw [arcValues, arcPlaces, length_map, length_map]
    · obtain ⟨place, inside, rfl⟩ := mem_map.1 member
      obtain ⟨step, -, rfl⟩ := mem_map.1 inside
      rw [Nat.mod_one]
      rfl
  rw [zeros]
  rcases number with four | five
  · rw [four]
    decide +kernel
  · rw [five]
    decide +kernel

theorem averageWithWraparound_unwraps (small : maxValue ≤ 25) (inside : first < maxValue)
    (number : steps.length = 4 ∨ steps.length = 5) (arc : ∀ step ∈ steps, 2 * step < maxValue) :
    (AveragesRight maxValue first steps ↔ RunUnwraps maxValue first steps) ∧
      (∀ shift, RunUnwraps maxValue first steps →
        RunUnwraps maxValue ((first + shift) % maxValue) steps →
        ∃ average shifted,
          averageWithWraparound (arcValues maxValue first steps) maxValue = some average ∧
          averageWithWraparound (arcValues maxValue ((first + shift) % maxValue) steps) maxValue =
            some shifted ∧
          ∃ turns : Int, shifted = average + shift + turns * maxValue) ∧
      ∀ (average : Rat) (turns : Int), average = unwrappedMean first steps + turns * maxValue →
        -1 / 10 < average → average ≤ maxValue - 1 / 10 → RunUnwraps maxValue first steps →
        ∀ tof rx pn scanType, maxValue = maxTimeDelay →
          (scanType = .normalScan ∧ [rx 0, rx 1, rx 2, rx 3, rx 4] = arcValues maxValue first steps ∨
            scanType = .me11bScan ∧ [rx 0, rx 1, rx 2, rx 3] = arcValues maxValue first steps) →
          inSpecialRegion tof rx pn scanType = some (specialFor tof pn scanType average) := by
  have some_ : steps ≠ [] := by
    rintro rfl
    rcases number with none_ | none_ <;> exact absurd none_ (by decide)
  refine ⟨?_, fun shift here there => ?_, ?_⟩
  · by_cases several : maxValue = 1
    · subst several
      refine ⟨fun ⟨average, done, _⟩ => ?_, fun unwraps => absurd rfl unwraps.1⟩
      rw [average_of_one first number] at done
      exact absurd done.symm (Option.some_ne_none _)
    · exact averagesRight_iff small inside arc several some_
  · have around : 0 < maxValue := by omega
    obtain ⟨average, done, turns, same⟩ := (averagesRight_iff small inside arc here.1 some_).2 here
    obtain ⟨shifted, doneToo, turnsToo, sameToo⟩ :=
      (averagesRight_iff small (Nat.mod_lt _ around) arc here.1 some_).2 there
    obtain ⟨round, whole⟩ :
        ∃ round, first + shift = (first + shift) % maxValue + round * maxValue :=
      ⟨(first + shift) / maxValue, by rw [Nat.mul_comm]; exact (Nat.mod_add_div _ _).symm⟩
    have means := unwrappedMean_shift some_ ((first + shift) % maxValue) (round * maxValue)
    rw [← whole, unwrappedMean_shift some_, Nat.cast_mul] at means
    refine ⟨average, shifted, done, doneToo, turnsToo - turns - round, ?_⟩
    rw [Int.cast_sub, Int.cast_sub, Int.cast_natCast]
    linarith
  · rintro average turns mean above below unwraps tof rx pn scanType rfl (⟨rfl, values⟩ | ⟨rfl, values⟩)
    · have done := average_determined small inside arc some_ unwraps mean ⟨above, below⟩
      rw [inSpecialRegion, determineAverageWithWraparound5, values, done]
      rfl
    · have done := average_determined small inside arc some_ unwraps mean ⟨above, below⟩
      rw [inSpecialRegion, determineAverageWithWraparound4, values, done]
      rfl

theorem averageWithWraparound_unwraps_edge : AveragesRight 25 23 [0, 1, 2, 3] :=
  (averageWithWraparound_unwraps (by decide) (by decide) (Or.inl rfl) (by decide)).1.2 (by decide)

theorem averageWithWraparound_misses :
    arcValues 25 24 [0, 0, 2, 2] = [24, 24, 1, 1] ∧ (∀ step ∈ [0, 0, 2, 2], 2 * step < 25) ∧
      ¬ AveragesRight 25 24 [0, 0, 2, 2] := by
  refine ⟨by decide, by decide, ?_⟩
  rintro ⟨average, done, turns, same⟩
  have half : averageWithWraparound (arcValues 25 24 [0, 0, 2, 2]) 25 = some (25 / 2) := by
    decide +kernel
  have mean : unwrappedMean 24 [0, 0, 2, 2] = 25 := by
    decide +kernel
  rw [half] at done
  rw [← Option.some.inj done] at same
  have double : (turns : Rat) * 2 = -1 := by
    linarith
  have odd : turns * 2 = -1 := by exact_mod_cast double
  omega

end EmuLib.ChamberUtilities
