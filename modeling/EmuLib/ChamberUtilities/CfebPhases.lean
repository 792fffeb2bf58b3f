import EmuLib.ChamberUtilities.WindowAnalysis

/-!
The analysis of a scan over the receive delays of the CFEBs, with both clock polarities.
-/

namespace EmuLib.ChamberUtilities

open CyclicRuns List Option Bool Function

inductive ScanType
  | normalScan
  | me11bScan
  | me11aScan
  | normalNewScan
  | me11bNewScan
  | me11aNewScan
  | simplePulseScan
  | simpleInjectScan
deriving DecidableEq

namespace ScanType

variable (scanType : ScanType)

def isNewScan : Bool :=
  match scanType with
  | normalNewScan | me11bNewScan | me11aNewScan => true
  | _ => false

def analysed : ScanType :=
  match scanType with
  | normalNewScan => normalScan
  | me11bNewScan => me11bScan
  | me11aNewScan => me11aScan
  | other => other

def minCfeb : Nat := if scanType.analysed = me11aScan then 4 else 0

def maxCfeb : Nat := if scanType.analysed = me11bScan then 4 else 5

def optimalNumberOfGoodScans : Nat :=
  if scanType.analysed = me11aScan then 1 else if scanType.analysed = me11bScan then 4 else 5

def allowsOneBad : Prop := scanType.analysed = me11bScan ∨ scanType.analysed = normalScan

instance : Decidable scanType.allowsOneBad := inferInstanceAs (Decidable (_ ∨ _))

def Covers (cfeb : Nat) : Prop := scanType.minCfeb ≤ cfeb ∧ cfeb < scanType.maxCfeb

instance (cfeb : Nat) : Decidable (scanType.Covers cfeb) := inferInstanceAs (Decidable (_ ∧ _))

end ScanType

abbrev Pulsing := Nat → Nat → Nat → Nat → Bool

section

variable (found : Pulsing) (scanType : ScanType) (cfeb posneg : Nat)

def muons (timeDelay : Nat) : Nat :=
  if scanType.isNewScan then 0 else (List.range 2).countP (found cfeb posneg timeDelay)

def noMuons (timeDelay : Nat) : Nat :=
  if scanType.isNewScan then 0
  else 10 * (List.range 2).countP fun nmuons => !found cfeb posneg timeDelay nmuons

end

structure Chamber where
  windowCounter : Int
  cfebRxPhase : Nat → Int
  cfebRxPosneg : Nat → Int

def scannedPairs : List (Nat × Nat) :=
  (List.range 2).flatMap fun posneg => (List.range 5).map fun cfeb => (cfeb, posneg)

def windowsStep (noMuons : Nat → Nat → Nat → Nat) (state : Int × (Nat × Nat → Int))
    (pair : Nat × Nat) : Int × (Nat × Nat → Int) :=
  let windowCounter :=
    (windowAnalysis (fun delay => noMuons pair.1 pair.2 delay) maxTimeDelay state.1).2
  (windowCounter, update state.2 pair (state.2 pair + (windowCounter + 1)))

def windowsPerCfeb (noMuons : Nat → Nat → Nat → Nat) (windowCounter : Int) :
    Int × (Nat × Nat → Int) :=
  scannedPairs.foldl (windowsStep noMuons) (windowCounter, fun _ => 0)

/-- The loop over the leading delays with muons. Nothing is returned where it reads behind the
table. -/
def unwrapFrom (muons : Nat → Nat) : Nat → Nat → (Nat → Nat) → Option (Nat → Nat)
  | 0, _, _ => none
  | remaining + 1, timeDelay, work =>
    if 0 < muons timeDelay then
      unwrapFrom muons remaining (timeDelay + 1)
        (update (update work (timeDelay + maxTimeDelay) (muons timeDelay))
          timeDelay 0)
    else some work

def muonsWork (muons : Nat → Nat) : Option (Nat → Nat) :=
  unwrapFrom muons maxTimeDelay 0 fun timeDelay => if timeDelay < maxTimeDelay then muons timeDelay else 0

def meanSums (work : Nat → Nat) : Nat × Nat :=
  (List.range (2 * maxTimeDelay)).foldl (fun sums timeDelay =>
    if 0 < work timeDelay then (sums.1 + timeDelay * work timeDelay, sums.2 + work timeDelay)
    else sums) (0, 0)

def cfebMean (work : Nat → Nat) : Rat :=
  let mean := if 0 < (meanSums work).2 then ((meanSums work).1 : Rat) / (meanSums work).2 else -999
  if (maxTimeDelay : Rat) - 1 < mean then mean - maxTimeDelay else mean

section

variable (scanType : ScanType) (windows : Nat × Nat → Int)

def cfebs : List Nat :=
  List.range' scanType.minCfeb (scanType.maxCfeb - scanType.minCfeb)

def goodScan (posneg : Nat) : Nat := (cfebs scanType).countP fun cfeb => windows (cfeb, posneg) = 1

def badCfeb (posneg : Nat) : Option Nat :=
  (cfebs scanType).foldl (fun bad cfeb => if windows (cfeb, posneg) = 1 then bad else some cfeb) none

def pickFrom : List Nat → Option Nat → Option Nat
  | [], pick => pick
  | posneg :: rest, pick =>
    if goodScan scanType windows posneg = scanType.optimalNumberOfGoodScans then some posneg
    else if scanType.allowsOneBad ∧
        goodScan scanType windows posneg = scanType.optimalNumberOfGoodScans - 1 then
      pickFrom rest (some posneg)
    else pickFrom rest pick

def pickPosneg : Option Nat := pickFrom scanType windows (List.range 2) none

def storeAll (mean : Nat → Nat → Rat) (posneg : Nat) (chamber : Chamber) :
    Chamber :=
  (cfebs scanType).foldl (fun chamber cfeb =>
    { chamber with
      cfebRxPhase := update chamber.cfebRxPhase cfeb (roundOff (mean cfeb posneg))
      cfebRxPosneg := update chamber.cfebRxPosneg cfeb posneg }) chamber

def copyNext (bad : Nat) (chamber : Chamber) : Chamber :=
  let next := (bad + 1) % scanType.maxCfeb
  { chamber with
    cfebRxPhase := update chamber.cfebRxPhase bad (chamber.cfebRxPhase next)
    cfebRxPosneg := update chamber.cfebRxPosneg bad (chamber.cfebRxPosneg next) }

def store (mean : Nat → Nat → Rat) (chamber : Chamber) : Chamber :=
  match pickPosneg scanType windows with
  | none => chamber
  | some posneg =>
    match badCfeb scanType windows posneg with
    | none => storeAll scanType mean posneg chamber
    | some bad => copyNext scanType bad (storeAll scanType mean posneg chamber)

end

section

variable (found : Pulsing) (scanType : ScanType) (chamber : Chamber)

def scanWindows : Nat × Nat → Int :=
  (windowsPerCfeb (noMuons found scanType) chamber.windowCounter).2

def cfebTiming : Option Chamber :=
  if ∀ pair ∈ scannedPairs, (muonsWork (muons found scanType pair.1 pair.2)).isSome then
    some (store scanType (scanWindows found scanType chamber)
      (fun cfeb posneg =>
        cfebMean ((muonsWork (muons found scanType cfeb posneg)).getD fun _ => 0))
      { chamber with
        windowCounter :=
          (windowsPerCfeb (noMuons found scanType) chamber.windowCounter).1 })
  else none

end

section

variable {muons : Nat → Nat}

def unwound (muons : Nat → Nat) (first place : Nat) : Nat :=
  if first ≤ place ∧ place < first + maxTimeDelay then muons (place % maxTimeDelay) else 0

lemma unwrapFrom_some {first} (leading : ∀ delay < first, 0 < muons delay)
    (none_ : muons first = 0) (inside : first < maxTimeDelay) (remaining) :
    ∀ (timeDelay : Nat) (work : Nat → Nat),
    timeDelay ≤ first → first < timeDelay + remaining →
    unwrapFrom muons remaining timeDelay work = some fun place =>
      if timeDelay ≤ place ∧ place < first then 0
      else if timeDelay + maxTimeDelay ≤ place ∧ place < first + maxTimeDelay then
        muons (place - maxTimeDelay)
      else work place := by
  induction remaining with
  | zero => intro timeDelay work reached more; omega
  | succ remaining ih =>
    intro timeDelay work reached more
    rw [unwrapFrom]
    rcases Nat.eq_or_lt_of_le reached with rfl | before
    · rw [if_neg (by omega)]
      refine congrArg some (funext fun place => ?_)
      rw [if_neg (by omega), if_neg (by omega)]
    · have few : first < 25 := inside
      rw [if_pos (leading timeDelay before), ih _ _ before (by omega)]
      refine congrArg some (funext fun place => ?_)
      rw [maxTimeDelay]
      by_cases here : place = timeDelay
      · rw [if_neg (by omega), if_neg (by omega), here, update_self, if_pos (by omega)]
      · by_cases moved : place = timeDelay + 25
        · have back : place - 25 = timeDelay := by omega
          rw [if_neg (by omega), if_neg (by omega), if_neg (by omega), if_pos (by omega),
            update_of_ne here, moved, update_self, ← moved, back]
        · rw [update_of_ne here, update_of_ne moved]
          by_cases cleared : timeDelay + 1 ≤ place ∧ place < first
          · rw [if_pos cleared, if_pos (by omega)]
          · rw [if_neg cleared]
            by_cases behind : timeDelay + 1 + 25 ≤ place ∧ place < first + 25
            · rw [if_pos behind, if_neg (by omega), if_pos (by omega)]
            · rw [if_neg behind, if_neg (by omega), if_neg (by omega)]

lemma muonsWork_some {first} (leading : ∀ delay < first, 0 < muons delay)
    (none_ : muons first = 0) (inside : first < maxTimeDelay) :
    muonsWork muons = some (unwound muons first) := by
  rw [muonsWork, unwrapFrom_some leading none_ inside maxTimeDelay 0 _ (Nat.zero_le _) (by omega)]
  refine congrArg some (funext fun place => ?_)
  rw [maxTimeDelay] at inside
  rw [unwound, maxTimeDelay]
  by_cases early : place < first
  · rw [if_pos (by omega), if_neg (by omega)]
  · rw [if_neg (by omega)]
    by_cases moved : 25 ≤ place ∧ place < first + 25
    · have around : place % 25 = place - 25 := by omega
      rw [if_pos (by omega), if_pos (by omega), around]
    · rw [if_neg (by omega)]
      by_cases kept : place < 25
      · rw [if_pos kept, if_pos (by omega), Nat.mod_eq_of_lt kept]
      · rw [if_neg kept, if_neg (by omega)]

lemma first_missed {delay} (inside : delay < maxTimeDelay) (missed : muons delay = 0) :
    ∃ first < maxTimeDelay, muons first = 0 ∧ ∀ earlier < first, 0 < muons earlier := by
  induction delay using Nat.strongRecOn with
  | ind delay ih =>
    by_cases leading : ∀ earlier < delay, 0 < muons earlier
    · exact ⟨delay, inside, missed, leading⟩
    · obtain ⟨earlier, before, none_⟩ : ∃ earlier < delay, muons earlier = 0 := by
        by_contra all
        refine leading fun earlier before => Nat.pos_of_ne_zero fun none_ => ?_
        exact all ⟨earlier, before, none_⟩
      exact ih earlier before (Nat.lt_trans before inside) none_

end

section

variable {work : Nat → Nat}

def meanStep (work : Nat → Nat) (sums : Nat × Nat) (timeDelay : Nat) : Nat × Nat :=
  if 0 < work timeDelay then (sums.1 + timeDelay * work timeDelay, sums.2 + work timeDelay)
  else sums

lemma sums_between {low high} (delays : List Nat)
    (between : ∀ delay ∈ delays, 0 < work delay → low ≤ delay ∧ delay ≤ high) :
    ∀ sums : Nat × Nat, low * sums.2 ≤ sums.1 ∧ sums.1 ≤ high * sums.2 →
      low * (delays.foldl (meanStep work) sums).2 ≤ (delays.foldl (meanStep work) sums).1 ∧
        (delays.foldl (meanStep work) sums).1 ≤ high * (delays.foldl (meanStep work) sums).2 := by
  induction delays with
  | nil => exact fun sums bounds => bounds
  | cons delay rest ih =>
    intro sums bounds
    refine ih (fun other member => between other (mem_cons_of_mem _ member)) _ ?_
    rw [meanStep]
    split
    · rename_i some_
      obtain ⟨least, most⟩ := between delay mem_cons_self some_
      have below : low * work delay ≤ delay * work delay := Nat.mul_le_mul_right _ least
      have above : delay * work delay ≤ high * work delay := Nat.mul_le_mul_right _ most
      constructor
      · rw [Nat.mul_add]
        exact Nat.add_le_add bounds.1 below
      · rw [Nat.mul_add]
        exact Nat.add_le_add bounds.2 above
    · exact bounds

lemma sums_positive (delays : List Nat) : ∀ sums : Nat × Nat,
    (0 < sums.2 ∨ ∃ delay ∈ delays, 0 < work delay) → 0 < (delays.foldl (meanStep work) sums).2 := by
  induction delays with
  | nil =>
    rintro sums (some_ | ⟨delay, member, -⟩)
    · exact some_
    · exact absurd member not_mem_nil
  | cons first rest ih =>
    intro sums some_
    refine ih _ ?_
    rw [meanStep]
    rcases some_ with before | ⟨delay, member, holds⟩
    · refine .inl ?_
      split
      · exact Nat.lt_of_lt_of_le before (Nat.le_add_right _ _)
      · exact before
    · rcases mem_cons.1 member with rfl | later
      · rw [if_pos holds]
        exact .inl (Nat.lt_of_lt_of_le holds (Nat.le_add_left _ _))
      · exact .inr ⟨delay, later, holds⟩

lemma mean_between {low high} (ends : high < 2 * maxTimeDelay)
    (some_ : ∃ delay < 2 * maxTimeDelay, 0 < work delay)
    (between : ∀ delay < 2 * maxTimeDelay, 0 < work delay → low ≤ delay ∧ delay ≤ high) :
    ∃ place, low ≤ place ∧ place ≤ high ∧
      roundOff (cfebMean work) = (place % maxTimeDelay : Nat) := by
  obtain ⟨sum, count, sums⟩ : ∃ sum count, meanSums work = (sum, count) := ⟨_, _, rfl⟩
  have bounds := sums_between (List.range (2 * maxTimeDelay))
    (fun delay member => between delay (mem_range.1 member)) (0, 0)
    ⟨Nat.le_refl _, Nat.le_refl _⟩
  obtain ⟨delay, inside, holds⟩ := some_
  have positive := sums_positive (List.range (2 * maxTimeDelay)) (0, 0)
    (.inr ⟨delay, mem_range.2 inside, holds⟩)
  change low * (meanSums work).2 ≤ (meanSums work).1 ∧
    (meanSums work).1 ≤ high * (meanSums work).2 at bounds
  change 0 < (meanSums work).2 at positive
  rw [sums] at bounds positive
  have counted : (0 : Rat) < count := by exact_mod_cast positive
  have least : (low : Rat) ≤ (sum : Rat) / count := by
    rw [le_div_iff₀ counted]
    exact_mod_cast bounds.1
  have most : (sum : Rat) / count ≤ high := by
    rw [div_le_iff₀ counted]
    exact_mod_cast bounds.2
  generalize mean : (sum : Rat) / count = average at least most
  have value : cfebMean work = if 24 < average then average - 25 else average := by
    rw [cfebMean, sums]
    dsimp only
    rw [if_pos positive, mean, maxTimeDelay]
    norm_num
  rw [maxTimeDelay] at ends
  obtain ⟨rounded, is⟩ : ∃ rounded, rounded = (average + 1 / 2).floor := ⟨_, rfl⟩
  have below : (rounded : Rat) ≤ average + 1 / 2 := is ▸ Rat.floor_le _
  have above : average + 1 / 2 < (rounded : Rat) + 1 := by
    have next := Rat.lt_floor_add_one (average + 1 / 2)
    rw [← is] at next
    exact_mod_cast next
  have from_ : (low : Int) ≤ rounded := by
    rw [is, Rat.le_floor_iff]
    push_cast
    linarith
  have upto : rounded ≤ (high : Int) := by
    have strict : (rounded : Rat) < (high : Rat) + 1 := by linarith
    have whole : rounded < (high : Int) + 1 := by exact_mod_cast strict
    omega
  rw [value, roundOff, maxTimeDelay]
  by_cases late : 24 < average
  · simp only [if_pos late]
    by_cases negative : 0 ≤ average - 25 + 1 / 2
    · have around : (average - 25 + 1 / 2).floor = rounded - 25 := by
        apply Int.le_antisymm
        · have strict : (average - 25 + 1 / 2).floor < rounded - 25 + 1 := by
            rw [Rat.floor_lt_iff]
            push_cast
            linarith
          omega
        · rw [Rat.le_floor_iff]
          push_cast
          linarith
      have second : 25 ≤ rounded := by
        rw [is, Rat.le_floor_iff]
        push_cast
        linarith
      rw [if_pos negative, around]
      exact ⟨rounded.toNat, by omega, by omega, by omega⟩
    · have zero : (average - 25 + 1 / 2).ceil = 0 := by
        apply Int.le_antisymm
        · rw [Rat.ceil_le_iff]
          push_cast
          linarith
        · have strict : -1 < (average - 25 + 1 / 2).ceil := by
            rw [Rat.lt_ceil_iff]
            push_cast
            linarith
          omega
      have early : low < 25 := by
        have strict : (low : Rat) < 25 := by linarith
        exact_mod_cast strict
      have beyond : 24 < high := by
        have strict : (24 : Rat) < high := by linarith
        exact_mod_cast strict
      rw [if_neg negative, zero]
      exact ⟨25, by omega, by omega, rfl⟩
  · simp only [if_neg late]
    have few : rounded < 25 := by
      rw [is, Rat.floor_lt_iff]
      push_cast
      linarith
    have not_negative : (0 : Rat) ≤ low := by exact_mod_cast Nat.zero_le low
    rw [if_pos (by linarith), ← is]
    exact ⟨rounded.toNat, by omega, by omega, by omega⟩

variable {muons : Nat → Nat}

lemma unwound_some {first place} (some_ : 0 < unwound muons first place) :
    (first ≤ place ∧ place < first + maxTimeDelay) ∧ 0 < muons (place % maxTimeDelay) := by
  rw [unwound] at some_
  split at some_
  · rename_i inside
    exact ⟨inside, some_⟩
  · exact absurd some_ (Nat.lt_irrefl 0)

lemma phase_found {missed} (inside : missed < maxTimeDelay) (none_ : muons missed = 0) {delay}
    (within : delay < maxTimeDelay) (some_ : 0 < muons delay) :
    ∃ work, muonsWork muons = some work ∧
      ∃ place < maxTimeDelay, roundOff (cfebMean work) = (place : Nat) ∧
        (runs (fun delay => 0 < muons delay) maxTimeDelay = 1 → 0 < muons place) := by
  obtain ⟨first, few, zero, leading⟩ := first_missed inside none_
  refine ⟨_, muonsWork_some leading zero few, ?_⟩
  have positive : 0 < maxTimeDelay := by decide
  rw [maxTimeDelay] at few within
  have holds : ∃ place < 2 * maxTimeDelay, 0 < unwound muons first place := by
    rw [maxTimeDelay]
    rcases Nat.lt_or_ge delay first with early | late
    · refine ⟨delay + 25, by omega, ?_⟩
      rw [unwound, maxTimeDelay, if_pos (by omega), Nat.add_mod_right, Nat.mod_eq_of_lt within]
      exact some_
    · refine ⟨delay, by omega, ?_⟩
      rw [unwound, maxTimeDelay, if_pos (by omega), Nat.mod_eq_of_lt within]
      exact some_
  have bad : ¬ 0 < muons (first % maxTimeDelay) := by
    rw [maxTimeDelay, Nat.mod_eq_of_lt few, zero]
    exact Nat.lt_irrefl 0
  by_cases one : runs (fun delay => 0 < muons delay) maxTimeDelay = 1
  · obtain ⟨start, last, behind, order, before, run⟩ :=
      @single_run (fun delay => 0 < muons delay) _ maxTimeDelay first bad positive one
    have ends : last < 2 * maxTimeDelay := by
      rw [maxTimeDelay] at before ⊢
      omega
    obtain ⟨place, from_, upto, rounded⟩ := mean_between ends holds fun other _ there =>
      have is := unwound_some there
      (run other is.1.1 is.1.2).1 is.2
    exact ⟨_, Nat.mod_lt _ positive, rounded, fun _ =>
      (run place (by omega) (by omega)).2 ⟨from_, upto⟩⟩
  · have ends : 49 < 2 * maxTimeDelay := by decide
    obtain ⟨place, -, -, rounded⟩ := mean_between ends holds fun other less _ =>
      ⟨Nat.zero_le other, Nat.le_of_lt_succ less⟩
    exact ⟨_, Nat.mod_lt _ positive, rounded, fun single => absurd single one⟩

end

section

variable (found : Pulsing) (cfeb posneg : Nat)

def BothFound (timeDelay : Nat) : Prop :=
  found cfeb posneg timeDelay 0 = true ∧ found cfeb posneg timeDelay 1 = true

def SomeFound (timeDelay : Nat) : Prop :=
  found cfeb posneg timeDelay 0 = true ∨ found cfeb posneg timeDelay 1 = true

instance : DecidablePred (BothFound found cfeb posneg) :=
  fun _ => inferInstanceAs (Decidable (_ ∧ _))

instance : DecidablePred (SomeFound found cfeb posneg) :=
  fun _ => inferInstanceAs (Decidable (_ ∨ _))

def HasMissed : Prop := ∃ timeDelay < maxTimeDelay, ¬ SomeFound found cfeb posneg timeDelay

variable {found cfeb posneg} {scanType : ScanType}

lemma countP_pulses (pulse) :
    (List.range 2).countP pulse = (if pulse 0 then 1 else 0) + if pulse 1 then 1 else 0 := by
  cases first : pulse 0 <;> cases second : pulse 1 <;> simp [range_succ, first, second]

lemma muons_positive (counts : scanType.isNewScan = false) (timeDelay) :
    0 < muons found scanType cfeb posneg timeDelay ↔ SomeFound found cfeb posneg timeDelay := by
  rw [muons, counts, countP_pulses, SomeFound]
  cases found cfeb posneg timeDelay 0 <;> cases found cfeb posneg timeDelay 1 <;> simp

lemma noMuons_good (counts : scanType.isNewScan = false) (timeDelay) :
    Good (fun delay => noMuons found scanType cfeb posneg delay) timeDelay ↔
      BothFound found cfeb posneg timeDelay := by
  rw [Good, countThreshold, noMuons, counts, countP_pulses, BothFound]
  cases found cfeb posneg timeDelay 0 <;> cases found cfeb posneg timeDelay 1 <;> simp

lemma noMuons_missed (counts : scanType.isNewScan = false) {timeDelay}
    (missed : ¬ SomeFound found cfeb posneg timeDelay) :
    countThreshold < (noMuons found scanType cfeb posneg timeDelay : Int) := by
  rw [countThreshold, noMuons, countP_pulses]
  rw [SomeFound] at missed
  cases first : found cfeb posneg timeDelay 0 <;>
    cases second : found cfeb posneg timeDelay 1 <;> simp_all

end

section

variable {table : Nat → Nat → Nat → Nat} {pair : Nat × Nat}

lemma windows_absent (pairs : List (Nat × Nat)) (absent : pair ∉ pairs) :
    ∀ state, (pairs.foldl (windowsStep table) state).2 pair = state.2 pair := by
  induction pairs with
  | nil => exact fun _ => rfl
  | cons first rest ih =>
    intro state
    obtain ⟨other, later⟩ := not_or.1 (fun either => absent (mem_cons.2 either))
    rw [foldl_cons, ih later]
    exact update_of_ne other ..

lemma windows_counted {number} (pairs : List (Nat × Nat)) (member : pair ∈ pairs)
    (once : pairs.Nodup) (counted : ∀ windowCounter,
      (windowAnalysis (fun delay => table pair.1 pair.2 delay) maxTimeDelay windowCounter).2 + 1 =
        number) :
    ∀ state, (pairs.foldl (windowsStep table) state).2 pair = state.2 pair + number := by
  induction pairs with
  | nil => exact absurd member not_mem_nil
  | cons first rest ih =>
    intro state
    obtain ⟨absent, others⟩ := nodup_cons.1 once
    rw [foldl_cons]
    by_cases here : pair = first
    · subst here
      rw [windows_absent rest absent, windowsStep]
      dsimp only
      rw [update_self, counted]
    · rw [ih ((mem_cons.1 member).resolve_left here) others, windowsStep]
      dsimp only
      rw [update_of_ne here]

lemma mem_scannedPairs {cfeb posneg} : (cfeb, posneg) ∈ scannedPairs ↔ cfeb < 5 ∧ posneg < 2 := by
  rw [scannedPairs, mem_flatMap]
  constructor
  · rintro ⟨other, inside, member⟩
    obtain ⟨place, within, same⟩ := mem_map.1 member
    obtain ⟨rfl, rfl⟩ := Prod.mk.inj same
    exact ⟨mem_range.1 within, mem_range.1 inside⟩
  · rintro ⟨few, valid⟩
    exact ⟨posneg, mem_range.2 valid, mem_map.2 ⟨cfeb, mem_range.2 few, rfl⟩⟩

lemma scanWindows_runs {found scanType} (counts : scanType.isNewScan = false) (chamber)
    {cfeb posneg} (few : cfeb < 5) (valid : posneg < 2) (missed : HasMissed found cfeb posneg) :
    scanWindows found scanType chamber (cfeb, posneg) =
      runs (BothFound found cfeb posneg) maxTimeDelay := by
  obtain ⟨delay, inside, missing⟩ := missed
  have positive : 0 < maxTimeDelay := by decide
  have same : runs (Good fun delay => (noMuons found scanType cfeb posneg delay : Int))
      maxTimeDelay = runs (BothFound found cfeb posneg) maxTimeDelay :=
    runs_congr positive fun place _ => noMuons_good counts place
  have counted (windowCounter : Int) : (windowAnalysis (fun delay =>
      (noMuons found scanType cfeb posneg delay : Int)) maxTimeDelay windowCounter).2 + 1 = _ :=
    windowAnalysis_counts inside (noMuons_missed counts missing) windowCounter
  rw [← same, scanWindows, windowsPerCfeb, windows_counted scannedPairs
    (mem_scannedPairs.2 ⟨few, valid⟩) (by decide) counted]
  exact Int.zero_add _

end

section

variable {scanType : ScanType} {windows : Nat × Nat → Int} {mean : Nat → Nat → Rat}
  {chamber : Chamber} {posneg : Nat}

lemma mem_cfebs {cfeb} : cfeb ∈ cfebs scanType ↔ scanType.Covers cfeb := by
  rw [cfebs, mem_range'_1, ScanType.Covers]
  omega

lemma cfebs_length : (cfebs scanType).length = scanType.optimalNumberOfGoodScans := by
  cases scanType <;> rfl

lemma storeAll_phase (scanType mean posneg chamber cfeb) :
    (storeAll scanType mean posneg chamber).cfebRxPhase cfeb =
      if scanType.Covers cfeb then roundOff (mean cfeb posneg) else chamber.cfebRxPhase cfeb := by
  have all (places : List Nat) : ∀ chamber : Chamber, (places.foldl (fun chamber cfeb =>
      { chamber with
        cfebRxPhase := update chamber.cfebRxPhase cfeb (roundOff (mean cfeb posneg))
        cfebRxPosneg := update chamber.cfebRxPosneg cfeb posneg })
      chamber).cfebRxPhase cfeb =
        if cfeb ∈ places then roundOff (mean cfeb posneg) else chamber.cfebRxPhase cfeb := by
    induction places with
    | nil => exact fun _ => rfl
    | cons first rest ih =>
      intro chamber
      rw [foldl_cons, ih]
      by_cases later : cfeb ∈ rest
      · rw [if_pos later, if_pos (mem_cons_of_mem _ later)]
      · rw [if_neg later]
        by_cases here : cfeb = first
        · subst here
          rw [if_pos mem_cons_self]
          exact update_self ..
        · rw [if_neg (by rw [mem_cons]; exact fun either => either.elim here later)]
          exact update_of_ne here ..
  rw [storeAll, all, if_congr mem_cfebs rfl rfl]

lemma badCfeb_cases (scanType windows posneg) :
    (badCfeb scanType windows posneg = none ∧
        ∀ cfeb, scanType.Covers cfeb → windows (cfeb, posneg) = 1) ∨
      ∃ bad, badCfeb scanType windows posneg = some bad ∧ scanType.Covers bad ∧
        windows (bad, posneg) ≠ 1 := by
  have all (places : List Nat) : ∀ start : Option Nat,
      (∀ bad, start = some bad → windows (bad, posneg) ≠ 1) →
      ((places.foldl (fun bad cfeb => if windows (cfeb, posneg) = 1 then bad else some cfeb)
          start) = start ∧ ∀ cfeb ∈ places, windows (cfeb, posneg) = 1) ∨
        ∃ bad ∈ places, (places.foldl (fun bad cfeb =>
          if windows (cfeb, posneg) = 1 then bad else some cfeb) start) = some bad ∧
            windows (bad, posneg) ≠ 1 := by
    induction places with
    | nil => exact fun start _ => .inl ⟨rfl, fun _ member => absurd member not_mem_nil⟩
    | cons first rest ih =>
      intro start valid
      rw [foldl_cons]
      by_cases one : windows (first, posneg) = 1
      · rw [if_pos one]
        rcases ih start valid with ⟨same, others⟩ | ⟨bad, member, is, failed⟩
        · exact .inl ⟨same, forall_mem_cons.2 ⟨one, others⟩⟩
        · exact .inr ⟨bad, mem_cons_of_mem _ member, is, failed⟩
      · rw [if_neg one]
        have failed : ∀ bad, some first = some bad → windows (bad, posneg) ≠ 1 := by
          rintro bad ⟨⟩
          exact one
        rcases ih (some first) failed with ⟨same, -⟩ | ⟨bad, member, is, other⟩
        · exact .inr ⟨first, mem_cons_self, same, one⟩
        · exact .inr ⟨bad, mem_cons_of_mem _ member, is, other⟩
  have nothing : ∀ bad, none = some bad → windows (bad, posneg) ≠ 1 := fun _ impossible =>
    absurd impossible.symm (some_ne_none _)
  rcases all (cfebs scanType) none nothing with ⟨same, good⟩ | ⟨bad, member, is, failed⟩
  · exact .inl ⟨same, fun cfeb covers => good cfeb (mem_cfebs.2 covers)⟩
  · exact .inr ⟨bad, is, mem_cfebs.1 member, failed⟩

lemma pickFrom_picked (places) : ∀ (start : Option Nat) {pick : Nat},
    (∀ earlier, start = some earlier → scanType.allowsOneBad) →
    pickFrom scanType windows places start = some pick →
    goodScan scanType windows pick = scanType.optimalNumberOfGoodScans ∨ scanType.allowsOneBad := by
  induction places with
  | nil =>
    intro start pick valid picked
    exact .inr (valid pick picked)
  | cons first rest ih =>
    intro start pick valid picked
    rw [pickFrom] at picked
    split at picked
    · rename_i perfect
      obtain rfl := Option.some.inj picked
      exact .inl perfect
    · split at picked
      · rename_i almost
        exact ih (some first) (fun _ _ => almost.1) picked
      · exact ih start valid picked

lemma picked_bad {pick bad} (picked : pickPosneg scanType windows = some pick)
    (covers : scanType.Covers bad) (failed : windows (bad, pick) ≠ 1) :
    scanType.Covers ((bad + 1) % scanType.maxCfeb) ∧ (bad + 1) % scanType.maxCfeb ≠ bad := by
  have allows : scanType.allowsOneBad := by
    refine (pickFrom_picked (List.range 2) none
      (fun _ impossible => absurd impossible.symm (some_ne_none _)) picked).resolve_left ?_
    intro perfect
    rw [goodScan, ← cfebs_length, countP_eq_length] at perfect
    exact failed (of_decide_eq_true (perfect bad (mem_cfebs.2 covers)))
  have range : scanType.minCfeb = 0 ∧ (scanType.maxCfeb = 4 ∨ scanType.maxCfeb = 5) := by
    rw [ScanType.minCfeb, ScanType.maxCfeb]
    rcases allows with is | is
    · rw [is]
      exact ⟨rfl, .inl rfl⟩
    · rw [is]
      exact ⟨rfl, .inr rfl⟩
  obtain ⟨least, most⟩ := range
  rw [ScanType.Covers]
  rcases most with is | is
  · rw [is]
    omega
  · rw [is]
    omega

lemma store_phase {pick cfeb} (picked : pickPosneg scanType windows = some pick)
    (covers : scanType.Covers cfeb) (one : windows (cfeb, pick) = 1) :
    (store scanType windows mean chamber).cfebRxPhase cfeb = roundOff (mean cfeb pick) := by
  have phase := storeAll_phase scanType mean pick chamber cfeb
  rw [if_pos covers] at phase
  rw [store, picked]
  dsimp only
  rcases badCfeb_cases scanType windows pick with ⟨none_, -⟩ | ⟨bad, is, -, failed⟩
  · rw [none_]
    exact phase
  · have apart : cfeb ≠ bad := fun same => failed (same ▸ one)
    rw [is]
    exact (update_of_ne apart ..).trans phase

lemma store_failed {pick bad} (picked : pickPosneg scanType windows = some pick)
    (is : badCfeb scanType windows pick = some bad) :
    ∃ other, scanType.Covers other ∧ other ≠ bad ∧
      (store scanType windows mean chamber).cfebRxPhase bad =
        (store scanType windows mean chamber).cfebRxPhase other := by
  rcases badCfeb_cases scanType windows pick with ⟨none_, -⟩ | ⟨again, same, covers, failed⟩
  · rw [none_] at is
    exact absurd is.symm (some_ne_none _)
  · rw [is] at same
    obtain rfl := Option.some.inj same
    obtain ⟨next, apart⟩ := picked_bad picked covers failed
    refine ⟨_, next, apart, ?_⟩
    rw [store, picked]
    dsimp only
    rw [is]
    exact (update_self ..).trans (update_of_ne apart ..).symm

lemma store_others {cfeb} (outside : ¬ scanType.Covers cfeb) :
    (store scanType windows mean chamber).cfebRxPhase cfeb = chamber.cfebRxPhase cfeb := by
  have phase (posneg : Nat) := storeAll_phase scanType mean posneg chamber cfeb
  simp only [if_neg outside] at phase
  rw [store]
  split
  · rfl
  · rename_i posneg picked
    rcases badCfeb_cases scanType windows posneg with ⟨none_, -⟩ | ⟨bad, is, covers, -⟩
    · rw [none_]
      exact phase posneg
    · have apart : cfeb ≠ bad := fun same => outside (same ▸ covers)
      rw [is]
      exact (update_of_ne apart ..).trans (phase posneg)

end

/-- A phase that has been chosen for a CFEB and a polarity: always a delay of the scan, and one at
which pulses were found, if those delays lie side by side. -/
structure InWindow (found : Pulsing) (cfeb posneg : Nat) (phase : Int) : Prop where
  inScan : 0 ≤ phase ∧ phase ≤ 24
  someFound : runs (SomeFound found cfeb posneg) maxTimeDelay = 1 →
    SomeFound found cfeb posneg phase.toNat
  bothFound : (∀ delay < maxTimeDelay, SomeFound found cfeb posneg delay →
    BothFound found cfeb posneg delay) → BothFound found cfeb posneg phase.toNat

structure Stores (found : Pulsing) (scanType : ScanType) (chamber final : Chamber) : Prop where
  windows : scanType.isNewScan = false →
    ∀ posneg, pickPosneg scanType (scanWindows found scanType chamber) = some posneg →
    posneg < 2 ∧ ∀ cfeb, scanType.Covers cfeb →
      scanWindows found scanType chamber (cfeb, posneg) = 1 →
      InWindow found cfeb posneg (final.cfebRxPhase cfeb)
  failed : ∀ posneg, pickPosneg scanType (scanWindows found scanType chamber) = some posneg →
    ∀ bad, badCfeb scanType (scanWindows found scanType chamber) posneg = some bad →
      ∃ other, scanType.Covers other ∧ other ≠ bad ∧
        final.cfebRxPhase bad = final.cfebRxPhase other
  others : ∀ cfeb, ¬ scanType.Covers cfeb → final.cfebRxPhase cfeb = chamber.cfebRxPhase cfeb

variable {found : Pulsing} {scanType : ScanType} {chamber : Chamber}

lemma covers_few {cfeb} (covers : scanType.Covers cfeb) : cfeb < 5 := by
  refine Nat.lt_of_lt_of_le covers.2 ?_
  rw [ScanType.maxCfeb]
  split <;> decide

lemma phase_inWindow (counts : scanType.isNewScan = false) {cfeb posneg}
    (missed : HasMissed found cfeb posneg)
    (one : (runs (BothFound found cfeb posneg) maxTimeDelay : Int) = 1) :
    ∃ work, muonsWork (muons found scanType cfeb posneg) = some work ∧
      InWindow found cfeb posneg (roundOff (cfebMean work)) := by
  obtain ⟨gap, inside, missing⟩ := missed
  have positive : 0 < maxTimeDelay := by decide
  have none_ : muons found scanType cfeb posneg gap = 0 :=
    Nat.eq_zero_of_not_pos fun some_ => missing ((muons_positive counts gap).1 some_)
  have not_both : ¬ BothFound found cfeb posneg gap := fun both => missing (.inl both.1)
  obtain ⟨delay, within, both⟩ : ∃ delay < maxTimeDelay, BothFound found cfeb posneg delay := by
    have starts : (List.range maxTimeDelay).countP
        (Start (BothFound found cfeb posneg) maxTimeDelay) ≠ 0 := by
      rw [← starts_from 0, runs_of_bad inside not_both]
      omega
    obtain ⟨start, -, begins⟩ := countP_pos_iff.1 (Nat.pos_of_ne_zero starts)
    exact ⟨_, Nat.mod_lt _ positive, (of_decide_eq_true begins).1⟩
  obtain ⟨work, unwrapped, place, few, rounded, single⟩ := phase_found inside none_ within
    ((muons_positive counts delay).2 (.inl both.1))
  have same : runs (fun delay => 0 < muons found scanType cfeb posneg delay) maxTimeDelay =
      runs (SomeFound found cfeb posneg) maxTimeDelay :=
    runs_congr positive fun delay _ => muons_positive counts delay
  refine ⟨work, unwrapped, ?_⟩
  rw [rounded]
  rw [maxTimeDelay] at few
  have found_ (side : runs (SomeFound found cfeb posneg) maxTimeDelay = 1) :
      SomeFound found cfeb posneg place := by
    exact (muons_positive counts place).1 (single (same.trans side))
  refine ⟨by omega, found_, fun full => full place few (found_ ?_)⟩
  have equal : runs (SomeFound found cfeb posneg) maxTimeDelay =
      runs (BothFound found cfeb posneg) maxTimeDelay :=
    runs_congr positive fun delay within => ⟨full delay within, fun both => .inl both.1⟩
  rw [equal]
  exact_mod_cast one

lemma pick_valid {pick windows} (picked : pickPosneg scanType windows = some pick) : pick < 2:= by
  rw [pickPosneg] at picked
  simp only [range_succ, range_zero, nil_append, cons_append, pickFrom] at picked
  grind

lemma unwrapFrom_stops {muons} (remaining) :
    ∀ (timeDelay : Nat) (work : Nat → Nat), (unwrapFrom muons remaining timeDelay work).isSome →
      ∃ delay < timeDelay + remaining, muons delay = 0 := by
  induction remaining with
  | zero => exact fun _ _ stops => absurd stops false_ne_true
  | succ remaining ih =>
    intro timeDelay work stops
    rw [unwrapFrom] at stops
    split at stops
    · obtain ⟨delay, inside, none_⟩ := ih (timeDelay + 1) _ stops
      exact ⟨delay, by omega, none_⟩
    · exact ⟨timeDelay, by omega, by omega⟩

lemma muonsWork_isSome {muons} :
    (muonsWork muons).isSome ↔ ∃ delay < maxTimeDelay, muons delay = 0 := by
  constructor
  · intro stops
    obtain ⟨delay, inside, none_⟩ := unwrapFrom_stops maxTimeDelay 0 _ stops
    exact ⟨delay, by omega, none_⟩
  · rintro ⟨delay, inside, none_⟩
    obtain ⟨first, early, zero, leading⟩ := first_missed inside none_
    rw [muonsWork_some leading zero early]
    rfl

lemma unwraps_iff (found cfeb posneg) :
    (muonsWork (muons found scanType cfeb posneg)).isSome ↔
      scanType.isNewScan = true ∨ HasMissed found cfeb posneg := by
  rw [muonsWork_isSome]
  cases counts : scanType.isNewScan with
  | true =>
    have nothing : muons found scanType cfeb posneg 0 = 0 := if_pos counts
    exact ⟨fun _ => .inl rfl, fun _ => ⟨0, by decide, nothing⟩⟩
  | false =>
    constructor
    · rintro ⟨delay, inside, none_⟩
      refine .inr ⟨delay, inside, fun some_ => ?_⟩
      have positive := (muons_positive counts delay).2 some_
      omega
    · rintro (impossible | ⟨delay, inside, missed⟩)
      · exact absurd impossible false_ne_true
      · exact ⟨delay, inside, Nat.eq_zero_of_not_pos fun some_ =>
          missed ((muons_positive counts delay).1 some_)⟩

lemma cfebTiming_isSome (found scanType chamber) :
    (cfebTiming found scanType chamber).isSome ↔ scanType.isNewScan = true ∨
      ∀ cfeb < 5, ∀ posneg < 2, HasMissed found cfeb posneg := by
  rw [cfebTiming]
  have all : (∀ pair ∈ scannedPairs, (muonsWork (muons found scanType pair.1 pair.2)).isSome) ↔
      scanType.isNewScan = true ∨ ∀ cfeb < 5, ∀ posneg < 2, HasMissed found cfeb posneg := by
    constructor
    · intro inside
      by_cases new : scanType.isNewScan = true
      · exact .inl new
      · refine .inr fun cfeb few posneg valid => ?_
        have unwraps := inside (cfeb, posneg) (mem_scannedPairs.2 ⟨few, valid⟩)
        exact ((unwraps_iff found cfeb posneg).1 unwraps).resolve_left new
    · rintro either ⟨cfeb, posneg⟩ member
      obtain ⟨few, valid⟩ := mem_scannedPairs.1 member
      exact (unwraps_iff found cfeb posneg).2 (either.imp_right fun missed =>
        missed cfeb few posneg valid)
  rw [← all]
  split
  · rename_i inside
    exact ⟨fun _ => inside, fun _ => rfl⟩
  · rename_i outside
    exact ⟨fun impossible => absurd impossible false_ne_true, fun inside => absurd inside outside⟩

lemma scan_stores {final} (done : cfebTiming found scanType chamber = some final) :
    Stores found scanType chamber final := by
  have stays := (cfebTiming_isSome found scanType chamber).1 (by rw [done]; rfl)
  rw [cfebTiming] at done
  split at done
  · obtain rfl := Option.some.inj done
    refine ⟨fun counts posneg picked => ?_, fun posneg picked bad is => store_failed picked is,
      fun cfeb outside => store_others outside⟩
    have valid := pick_valid picked
    refine ⟨valid, fun cfeb covers one => ?_⟩
    have few := covers_few covers
    have missed := stays.resolve_left (by rw [counts]; exact false_ne_true)
    have gap := missed cfeb few posneg valid
    have number := scanWindows_runs counts chamber few valid gap
    rw [one] at number
    obtain ⟨work, unwrapped, window⟩ := phase_inWindow counts gap number.symm
    rw [store_phase picked covers one, unwrapped]
    exact window
  · exact absurd done.symm (some_ne_none _)

/-- Windows are counted where a delay is clearly bad, and phases stored where one is for each CFEB
and polarity. -/
theorem phases_chosen (found : Pulsing) (scanType : ScanType) (chamber : Chamber) :
    (scanType.isNewScan = false → ∀ cfeb < 5, ∀ posneg < 2, HasMissed found cfeb posneg →
      scanWindows found scanType chamber (cfeb, posneg) =
        runs (BothFound found cfeb posneg) maxTimeDelay) ∧
    ((cfebTiming found scanType chamber).isSome ↔ scanType.isNewScan = true ∨
      ∀ cfeb < 5, ∀ posneg < 2, HasMissed found cfeb posneg) ∧
    ∀ final, cfebTiming found scanType chamber = some final →
      Stores found scanType chamber final :=
  ⟨fun counts _ few _ valid missed => scanWindows_runs counts chamber few valid missed,
    cfebTiming_isSome found scanType chamber, fun _ done => scan_stores done⟩

def wrappedFound : Pulsing := fun _ _ delay _ => decide (20 ≤ delay ∨ delay < 3)

lemma wrapped_missed (cfeb posneg) : HasMissed wrappedFound cfeb posneg :=
  ⟨10, by decide, fun either => either.elim (absurd · false_ne_true)
    (absurd · false_ne_true)⟩

def freshChamber : Chamber := ⟨3, fun _ => 0, fun _ => 0⟩

theorem phases_chosen_me11b :
    scanWindows wrappedFound .me11bScan freshChamber (0, 1) =
        runs (BothFound wrappedFound 0 1) maxTimeDelay ∧
      (cfebTiming wrappedFound .me11bScan freshChamber).isSome :=
  ⟨(phases_chosen wrappedFound .me11bScan freshChamber).1 rfl 0 (by decide) 1 (by decide)
      (wrapped_missed 0 1),
    (phases_chosen wrappedFound .me11bScan freshChamber).2.1.2 (.inr fun cfeb _ posneg _ =>
      wrapped_missed cfeb posneg)⟩

def partlyFound : Pulsing := fun _ _ delay nmuon =>
  decide (5 ≤ delay ∧ delay ≤ 7) || (decide (15 ≤ delay ∧ delay ≤ 20) && nmuon == 0)

def allFound : Pulsing := fun _ _ _ _ => true

/-- A counter that is left over, data that are good all around, and a mean between two windows. -/
theorem windows_stale : scanWindows allFound .normalScan freshChamber (0, 0) ≠
      runs (BothFound allFound 0 0) maxTimeDelay ∧
    cfebTiming allFound .normalScan freshChamber = none ∧
    ∃ final, cfebTiming partlyFound .normalScan freshChamber = some final ∧
      pickPosneg .normalScan (scanWindows partlyFound .normalScan freshChamber) = some 0 ∧
      scanWindows partlyFound .normalScan freshChamber (0, 0) = 1 ∧
      ¬ SomeFound partlyFound 0 0 (final.cfebRxPhase 0).toNat := by
  refine ⟨by decide +kernel, ?_, ?_⟩
  · refine if_neg fun inside => ?_
    have member : (0, 0) ∈ scannedPairs := mem_scannedPairs.2 ⟨by decide, by decide⟩
    obtain ⟨delay, -, none_⟩ := muonsWork_isSome.1 (inside _ member)
    exact absurd none_ (by decide : (2 : Nat) ≠ 0)
  · have stays : (cfebTiming partlyFound .normalScan freshChamber).isSome :=
      (cfebTiming_isSome _ _ _).2 (.inr fun cfeb _ posneg _ => ⟨0, by decide, fun either =>
        either.elim (absurd · false_ne_true) (absurd · false_ne_true)⟩)
    obtain ⟨final, done⟩ := isSome_iff_exists.1 stays
    have phase : (cfebTiming partlyFound .normalScan freshChamber).map
        (fun final => final.cfebRxPhase 0) = some 12 := by decide +kernel
    rw [done] at phase
    refine ⟨final, done, by decide +kernel, by decide +kernel, ?_⟩
    have delay : final.cfebRxPhase 0 = 12 := Option.some.inj phase
    rw [delay]
    decide

end EmuLib.ChamberUtilities
