import EmuLib.Lib.Table
import Mathlib.Algebra.Order.Field.Rat

/-!
The check of the front end boards by their motherboard: the status word and the threshold of each are
compared with what has been configured.
-/

namespace EmuLib.Daqmb

open Option

open Table (arrayAt setArray arrayAt_inside setArray_inside inside_of_setArray foldlM_entries)

def f1scam : Nat := 7

structure Cfeb where
  number : Nat
  hardwareVersion : Int

def Cfeb.scamDevice (cfeb : Cfeb) : Nat := f1scam + cfeb.number

abbrev StatusWord := Fin 4 → UInt8

/-- What a board shifts out as its status, and what the ADC of the motherboard gives for a chip and
a channel. -/
structure FrontEnd where
  status : Cfeb → StatusWord
  readADC : Nat → Nat → Nat

/-- Rounding to the nearest `float`: whole numbers of 24 bits are kept. -/
structure FloatRounding where
  round : ℚ → ℚ
  exact : ∀ n : Int, n.natAbs ≤ 16777216 → round n = n

structure CheckedDaqmb where
  hardwareVersion : Int
  cfebs : List Cfeb
  compMode : BitVec 32
  compTiming : BitVec 32
  preBlockEnd : BitVec 32
  killflatclk : BitVec 32
  setCompThresh : ℚ
  killinput : BitVec 32
  cfebClkDelay : BitVec 32
  xfinelatency : BitVec 32
  xlatency : BitVec 32
  febstat : Fin 7 → StatusWord
  cfebConfigStatus : Fin 7 → Bool
  smokingGunStatus : Fin 7 → Bool

section

variable (frontEnd : FrontEnd) (daqmb : CheckedDaqmb)

/-- One turn of the loop of `cfebs_readstatus`: the members and its own array, which it prints. -/
def readstatus (tables : (Fin 7 → StatusWord) × (Fin 5 → StatusWord)) (icfeb : Nat) :
    Option ((Fin 7 → StatusWord) × (Fin 5 → StatusWord)) := do
  let cfeb ← daqmb.cfebs[icfeb]?
  if cfeb.hardwareVersion ≤ 1 then
    let idv := cfeb.scamDevice - f1scam
    let febbuf ← setArray tables.2 idv (frontEnd.status cfeb)
    let febstat ← setArray tables.1 idv (frontEnd.status cfeb)
    return (febstat, febbuf)
  else if cfeb.hardwareVersion = 2 then
    let febstat ← setArray tables.1 icfeb (frontEnd.status cfeb)
    return (febstat, tables.2)
  else
    return tables

def cfebsReadstatus (febbuf : Fin 5 → StatusWord) : Option CheckedDaqmb := do
  let tables ← (List.range daqmb.cfebs.length).foldlM (readstatus frontEnd daqmb)
    (daqmb.febstat, febbuf)
  return { daqmb with febstat := tables.1 }

def adcplus (ichp ichn : Nat) : ℚ :=
  if daqmb.hardwareVersion ≤ 1 then ((frontEnd.readADC ichp ichn % 4096 : Nat) : ℚ) else 0

end

section

def compareValues (testval compareval : BitVec 32) : Bool := testval == compareval

def compareTolerance (rounding : FloatRounding) (testval compareval tolerance : ℚ) : Bool :=
  !decide (|rounding.round (testval - compareval)| > tolerance)

def charInt (byte : UInt8) : BitVec 32 := byte.toBitVec.signExtend 32

lemma third_byte : 2 < 4 := by decide

lemma fourth_byte : 3 < 4 := by decide

def compModeBitsOld (status : StatusWord) : BitVec 32 := charInt (status ⟨2, third_byte⟩) &&& 0x1f

def preBlockEndOld (status : StatusWord) : BitVec 32 :=
  ((charInt (status ⟨2, third_byte⟩)).sshiftRight 5 &&& 0x07) +
    ((charInt (status ⟨3, fourth_byte⟩) &&& 0x01) <<< 3)

def xlatencyOld (status : StatusWord) : BitVec 32 :=
  (charInt (status ⟨3, fourth_byte⟩)).sshiftRight 1 &&& 0x03

variable (daqmb : CheckedDaqmb)

def compModeBits : BitVec 32 := (daqmb.compMode &&& 3) ||| ((daqmb.compTiming &&& 7) <<< 2)

def statusMatches (status : StatusWord) : Bool :=
  compareValues (compModeBitsOld status) (compModeBits daqmb) &&
    compareValues (preBlockEndOld status) daqmb.preBlockEnd &&
    compareValues (xlatencyOld status) daqmb.xlatency

def gunSmokes (status : StatusWord) : Bool :=
  (compareValues (compModeBitsOld status) 0x1f && compareValues (preBlockEndOld status) 0xf &&
      compareValues (xlatencyOld status) 0x3) &&
    !(compModeBits daqmb == 0x1f && daqmb.preBlockEnd == 0xf && daqmb.xlatency == 0x3)

def comparisonThreshold : ℚ := 100

def thresholdMatches (rounding : FloatRounding) (compthresh : ℚ) : Bool :=
  compareTolerance rounding (rounding.round (3550 - compthresh))
    (rounding.round (daqmb.setCompThresh * 1000)) comparisonThreshold

structure CfebResults where
  configStatus : Fin 7 → Bool
  smokingGun : Fin 7 → Bool

def beginResults (results : CfebResults) (lfeb : Nat) : Option CfebResults := do
  let configStatus ← setArray results.configStatus lfeb true
  let smokingGun ← setArray results.smokingGun lfeb true
  return ⟨configStatus, smokingGun⟩

def compareStatus (results : CfebResults) (lfeb : Nat) : Option CfebResults := do
  let status ← arrayAt daqmb.febstat lfeb
  let before ← arrayAt results.configStatus lfeb
  let configStatus ← setArray results.configStatus lfeb (before && statusMatches daqmb status)
  if gunSmokes daqmb status then
    let smokingGun ← setArray results.smokingGun lfeb false
    return ⟨configStatus, smokingGun⟩
  else
    return ⟨configStatus, results.smokingGun⟩

def readThreshold (frontEnd : FrontEnd) (compthresh : Fin 5 → ℚ) (lfeb : Nat) :
    Option (Fin 5 → ℚ) :=
  setArray compthresh lfeb (adcplus frontEnd daqmb 2 lfeb)

def compareThreshold (rounding : FloatRounding) (compthresh : Fin 5 → ℚ) (results : CfebResults)
    (lfeb : Nat) : Option CfebResults := do
  let read ← arrayAt compthresh lfeb
  let before ← arrayAt results.configStatus lfeb
  let configStatus ← setArray results.configStatus lfeb
    (before && thresholdMatches daqmb rounding read)
  return ⟨configStatus, results.smokingGun⟩

def takeSettings : CheckedDaqmb :=
  { daqmb with
    killinput := daqmb.killflatclk.sshiftRight 7 &&& 0x07
    cfebClkDelay := daqmb.killflatclk &&& 0x1f
    xfinelatency := daqmb.killflatclk.sshiftRight 10 &&& 0x0f
    xlatency := daqmb.killflatclk.sshiftRight 5 &&& 0x03 }

structure UnsetArrays where
  febbuf : Fin 5 → StatusWord
  compthresh : Fin 5 → ℚ

def checkCFEBsConfiguration (rounding : FloatRounding) (unset : UnsetArrays) (frontEnd : FrontEnd) :
    Option CheckedDaqmb := do
  let read ← cfebsReadstatus frontEnd daqmb unset.febbuf
  let daqmb := takeSettings read
  let boards := List.range daqmb.cfebs.length
  let results ← boards.foldlM beginResults ⟨daqmb.cfebConfigStatus, daqmb.smokingGunStatus⟩
  let results ← boards.foldlM (compareStatus daqmb) results
  let compthresh ← boards.foldlM (readThreshold daqmb frontEnd) unset.compthresh
  let results ← boards.foldlM (compareThreshold daqmb rounding compthresh) results
  return { daqmb with
    cfebConfigStatus := results.configStatus
    smokingGunStatus := results.smokingGun }

end

section

variable {frontEnd : FrontEnd} {daqmb : CheckedDaqmb} {rounding : FloatRounding}

def statusRead (frontEnd : FrontEnd) (daqmb : CheckedDaqmb) (place : Fin 7) (before : StatusWord) :
    StatusWord :=
  match daqmb.cfebs[(place : Nat)]? with
  | some cfeb => if cfeb.hardwareVersion ≤ 2 then frontEnd.status cfeb else before
  | none => before

lemma cfebsReadstatus_some (few : daqmb.cfebs.length ≤ 5)
    (own : ∀ (i : Nat) (cfeb : Cfeb), daqmb.cfebs[i]? = some cfeb → cfeb.number = i)
    (febbuf) :
    ∃ febstat, cfebsReadstatus frontEnd daqmb febbuf = some { daqmb with febstat } ∧
      ∀ place : Fin 7, febstat place =
        if (place : Nat) < daqmb.cfebs.length then statusRead frontEnd daqmb place (daqmb.febstat place)
        else daqmb.febstat place := by
  have turn (tables : (Fin 7 → StatusWord) × (Fin 5 → StatusWord)) (icfeb : Nat)
      (below : icfeb < daqmb.cfebs.length) : ∃ (inside : icfeb < 7)
        (next : (Fin 7 → StatusWord) × (Fin 5 → StatusWord)),
        readstatus frontEnd daqmb tables icfeb = some next ∧
          next.1 = Function.update tables.1 ⟨icfeb, inside⟩
            (statusRead frontEnd daqmb ⟨icfeb, inside⟩ (tables.1 ⟨icfeb, inside⟩)) := by
    have inside : icfeb < 7 := by omega
    have short : icfeb < 5 := by omega
    obtain ⟨cfeb, is⟩ : ∃ cfeb, daqmb.cfebs[icfeb]? = some cfeb :=
      ⟨_, List.getElem?_eq_getElem below⟩
    have device : cfeb.scamDevice - f1scam = icfeb := by
      rw [Cfeb.scamDevice, own icfeb cfeb is, Nat.add_sub_cancel_left]
    have changed : statusRead frontEnd daqmb ⟨icfeb, inside⟩ (tables.1 ⟨icfeb, inside⟩) =
        if cfeb.hardwareVersion ≤ 2 then frontEnd.status cfeb else tables.1 ⟨icfeb, inside⟩ := by
      rw [statusRead]
      rw [is]
    refine ⟨inside, ?_⟩
    rw [readstatus, is, changed]
    dsimp only [bind, Option.bind]
    by_cases old : cfeb.hardwareVersion ≤ 1
    · rw [if_pos old, if_pos (by omega), device, setArray_inside short, setArray_inside inside]
      exact ⟨_, rfl, rfl⟩
    · rw [if_neg old]
      by_cases new : cfeb.hardwareVersion = 2
      · rw [if_pos new, if_pos (by omega), setArray_inside inside]
        exact ⟨_, rfl, rfl⟩
      · rw [if_neg new, if_neg (by omega)]
        exact ⟨tables, rfl, (Function.update_eq_self _ _).symm⟩
  obtain ⟨tables, ended, entries⟩ := foldlM_entries turn (daqmb.febstat, febbuf)
  refine ⟨tables.1, ?_, entries⟩
  rw [cfebsReadstatus, ended]
  rfl

variable {count : Nat}

lemma beginResults_run (few : count ≤ 7) (results) :
    ∃ last, (List.range count).foldlM beginResults results = some last ∧
      ∀ place : Fin 7, (place : Nat) < count → last.configStatus place = true := by
  obtain ⟨last, ended, entries⟩ := @foldlM_entries Bool CfebResults 7 beginResults
    CfebResults.configStatus (fun _ _ => true) count (fun results lfeb below => by
      have inside : lfeb < 7 := by omega
      rw [beginResults, setArray_inside inside, setArray_inside inside]
      exact ⟨inside, _, rfl, rfl⟩) results
  exact ⟨last, ended, fun place below => (entries place).trans (if_pos below)⟩

lemma compareStatus_run (few : count ≤ 7) (results) :
    ∃ last, (List.range count).foldlM (compareStatus daqmb) results = some last ∧
      ∀ place : Fin 7, (place : Nat) < count → last.configStatus place =
        (results.configStatus place && statusMatches daqmb (daqmb.febstat place)) := by
  obtain ⟨last, ended, entries⟩ := @foldlM_entries Bool CfebResults 7 (compareStatus daqmb)
    CfebResults.configStatus
    (fun place before => before && statusMatches daqmb (daqmb.febstat place)) count
    (fun results lfeb below => by
      have inside : lfeb < 7 := by omega
      refine ⟨inside, ?_⟩
      rw [compareStatus, arrayAt_inside inside, arrayAt_inside inside]
      dsimp only [bind, Option.bind]
      rw [setArray_inside inside, setArray_inside inside]
      by_cases smokes : gunSmokes daqmb (daqmb.febstat ⟨lfeb, inside⟩) = true
      · simp only [smokes, if_true]
        exact ⟨⟨_, _⟩, rfl, rfl⟩
      · simp only [smokes]
        exact ⟨⟨_, _⟩, rfl, rfl⟩) results
  exact ⟨last, ended, fun place below => (entries place).trans (if_pos below)⟩

lemma readThreshold_run (few : count ≤ 5) (compthresh) :
    ∃ last, (List.range count).foldlM (readThreshold daqmb frontEnd) compthresh = some last ∧
      ∀ place : Fin 5, (place : Nat) < count → last place = adcplus frontEnd daqmb 2 place := by
  obtain ⟨last, ended, entries⟩ := @foldlM_entries ℚ (Fin 5 → ℚ) 5 (readThreshold daqmb frontEnd)
    id (fun place _ => adcplus frontEnd daqmb 2 place) count (fun compthresh lfeb below =>
      ⟨by omega, _, setArray_inside (by omega) _, rfl⟩) compthresh
  exact ⟨last, ended, fun place below => (entries place).trans (if_pos below)⟩

lemma compareThreshold_run (few : count ≤ 5) (compthresh results) :
    ∃ last, (List.range count).foldlM (compareThreshold daqmb rounding compthresh) results =
        some last ∧
      ∀ (place : Fin 5), (place : Nat) < count → last.configStatus (place.castLE (by decide)) =
        (results.configStatus (place.castLE (by decide)) &&
          thresholdMatches daqmb rounding (compthresh place)) := by
  obtain ⟨last, ended, entries⟩ := @foldlM_entries Bool CfebResults 7
    (compareThreshold daqmb rounding compthresh) CfebResults.configStatus
    (fun place before => before && ((arrayAt compthresh place).map
      (thresholdMatches daqmb rounding)).getD true) count (fun results lfeb below => by
      have inside : lfeb < 7 := by omega
      have five : lfeb < 5 := by omega
      refine ⟨inside, ?_⟩
      rw [compareThreshold, arrayAt_inside inside, arrayAt_inside five]
      dsimp only [bind, Option.bind]
      rw [setArray_inside inside]
      exact ⟨_, rfl, rfl⟩) results
  refine ⟨last, ended, fun place below => ?_⟩
  have entry := (entries (place.castLE (by decide))).trans (if_pos below)
  have own := @arrayAt_inside _ _ compthresh place.val place.isLt
  rw [Fin.val_castLE, own] at entry
  exact entry

lemma check_some {unset read} (reading : cfebsReadstatus frontEnd daqmb unset.febbuf = some read)
    (few : read.cfebs.length ≤ 5) :
    ∃ after, checkCFEBsConfiguration daqmb rounding unset frontEnd = some after ∧
      ∀ place : Fin 7, (place : Nat) < read.cfebs.length → after.cfebConfigStatus place =
        (statusMatches (takeSettings read) (read.febstat place) &&
          thresholdMatches (takeSettings read) rounding
            (adcplus frontEnd (takeSettings read) 2 place)) := by
  have five : (takeSettings read).cfebs.length ≤ 5 := few
  have seven : (takeSettings read).cfebs.length ≤ 7 := le_trans five (by decide)
  obtain ⟨began, begins, beginning⟩ :=
    beginResults_run seven ⟨read.cfebConfigStatus, read.smokingGunStatus⟩
  obtain ⟨compared, compares, comparing⟩ := @compareStatus_run (takeSettings read) _ seven began
  obtain ⟨compthresh, reads, thresholds⟩ :=
    @readThreshold_run frontEnd (takeSettings read) _ five unset.compthresh
  obtain ⟨judged, judges, judging⟩ :=
    @compareThreshold_run (takeSettings read) rounding _ five compthresh compared
  refine ⟨{ takeSettings read with
    cfebConfigStatus := judged.configStatus
    smokingGunStatus := judged.smokingGun }, ?_, fun place below => ?_⟩
  · rw [checkCFEBsConfiguration, reading]
    dsimp only [bind, Option.bind]
    have same : List.foldlM beginResults ⟨(takeSettings read).cfebConfigStatus,
        (takeSettings read).smokingGunStatus⟩ (List.range (takeSettings read).cfebs.length) =
        some began := begins
    simp only [same, compares, reads, judges]
    rfl
  · have inside : (place : Nat) < 5 := Nat.lt_of_lt_of_le below few
    have last := judging ⟨place, inside⟩ below
    rw [thresholds ⟨place, inside⟩ below] at last
    have first := comparing place below
    rw [beginning place below] at first
    exact last.trans (congrArg (· && _) first)

end

variable (rounding : FloatRounding)

def BoardMatches (daqmb : CheckedDaqmb) (frontEnd : FrontEnd) (cfeb : Cfeb) : Prop :=
  statusMatches (takeSettings daqmb) (frontEnd.status cfeb) = true ∧
    thresholdMatches daqmb rounding ((frontEnd.readADC 2 cfeb.number % 4096 : Nat) : ℚ) = true

/-- Whatever the boards answer and the tables held, no array is used outside its bounds and each board
is judged by its own data. -/
def JudgesEach (hardwareVersion : Int) (cfebs : List Cfeb) : Prop :=
  ∀ (daqmb : CheckedDaqmb) (unset : UnsetArrays) (frontEnd : FrontEnd),
    daqmb.hardwareVersion = hardwareVersion → daqmb.cfebs = cfebs →
    ∃ after, checkCFEBsConfiguration daqmb rounding unset frontEnd = some after ∧
      ∀ (i : Nat) (cfeb : Cfeb), cfebs[i]? = some cfeb →
        ∃ status, arrayAt after.cfebConfigStatus i = some status ∧
          (status = true ↔ BoardMatches rounding daqmb frontEnd cfeb)

/-- Each board has its place in the list for its number, there are at most five, and each can be read.
-/
def InPlace (hardwareVersion : Int) (cfebs : List Cfeb) : Prop :=
  cfebs = [] ∨ hardwareVersion ≤ 1 ∧ cfebs.length ≤ 5 ∧
    ∀ (i : Nat) (cfeb : Cfeb), cfebs[i]? = some cfeb → cfeb.number = i ∧ cfeb.hardwareVersion ≤ 2

variable {rounding} {hardwareVersion : Int} {cfebs : List Cfeb}

lemma few_of_check {daqmb after unset frontEnd}
    (check : checkCFEBsConfiguration daqmb rounding unset frontEnd = some after) :
    daqmb.cfebs.length ≤ 5 := by
  obtain ⟨read, reading, rest⟩ := bind_eq_some_iff.1 check
  obtain ⟨tables, -, is⟩ := bind_eq_some_iff.1 reading
  have same : (takeSettings read).cfebs = daqmb.cfebs := by
    rw [← Option.some.inj is]
    rfl
  obtain ⟨began, -, rest⟩ := bind_eq_some_iff.1 rest
  obtain ⟨compared, -, rest⟩ := bind_eq_some_iff.1 rest
  obtain ⟨compthresh, reads, -⟩ := bind_eq_some_iff.1 rest
  rw [same] at reads
  by_contra many
  have turns := (@Table.foldlM_turns _ _ _ (fun _ => True) (fun _ _ _ _ _ => trivial) _ _ _ trivial
    reads).2 5 (List.mem_range.2 (Nat.lt_of_not_le many))
  obtain ⟨before, next, -, turn⟩ := turns
  exact absurd (inside_of_setArray turn) (by decide)

lemma check_judged {daqmb after unset frontEnd}
    (check : checkCFEBsConfiguration daqmb rounding unset frontEnd = some after) :
    ∃ read, cfebsReadstatus frontEnd daqmb unset.febbuf = some read ∧
      ∀ place : Fin 7, (place : Nat) < daqmb.cfebs.length → after.cfebConfigStatus place =
        (statusMatches (takeSettings read) (read.febstat place) &&
          thresholdMatches (takeSettings read) rounding
            (adcplus frontEnd (takeSettings read) 2 place)) := by
  obtain ⟨read, reading, -⟩ := bind_eq_some_iff.1 check
  obtain ⟨tables, -, is⟩ := bind_eq_some_iff.1 reading
  have same : read.cfebs = daqmb.cfebs := by rw [← Option.some.inj is]
  obtain ⟨last, checked, judged⟩ :=
    @check_some frontEnd daqmb rounding unset read reading (same ▸ few_of_check check)
  rw [same] at judged
  exact ⟨read, reading, Option.some.inj (check.symm.trans checked) ▸ judged⟩

lemma judges_of_inPlace (inPlace : InPlace hardwareVersion cfebs) :
    JudgesEach rounding hardwareVersion cfebs := by
  rintro daqmb unset frontEnd rfl rfl
  have few : daqmb.cfebs.length ≤ 5 := by
    rcases inPlace with none_ | ⟨-, few, -⟩
    · simp [none_]
    · exact few
  have placed (i : Nat) (cfeb : Cfeb) (is : daqmb.cfebs[i]? = some cfeb) :
      daqmb.hardwareVersion ≤ 1 ∧ cfeb.number = i ∧ cfeb.hardwareVersion ≤ 2 := by
    rcases inPlace with none_ | ⟨old, -, each⟩
    · simp [none_] at is
    · exact ⟨old, each i cfeb is⟩
  obtain ⟨febstat, reading, stored⟩ := @cfebsReadstatus_some frontEnd daqmb few
    (fun i cfeb is => (placed i cfeb is).2.1) unset.febbuf
  obtain ⟨after, check, judged⟩ := @check_some frontEnd daqmb rounding unset _ reading few
  refine ⟨after, check, fun i cfeb is => ?_⟩
  obtain ⟨old, number, readable⟩ := placed i cfeb is
  have below : i < daqmb.cfebs.length := (List.getElem?_eq_some_iff.1 is).1
  have inside : i < 7 := by omega
  refine ⟨_, arrayAt_inside inside, ?_⟩
  have own : febstat ⟨i, inside⟩ = frontEnd.status cfeb := by
    rw [stored, if_pos below, statusRead]
    rw [is]
    exact if_pos readable
  have channel : adcplus frontEnd daqmb 2 i =
      ((frontEnd.readADC 2 cfeb.number % 4096 : Nat) : ℚ) := by
    rw [number]
    exact if_pos old
  rw [judged ⟨i, inside⟩ below, Bool.and_eq_true, BoardMatches, ← own, ← channel]
  rfl

def zeroDaqmb (hardwareVersion : Int) (cfebs : List Cfeb) : CheckedDaqmb where
  hardwareVersion := hardwareVersion
  cfebs := cfebs
  compMode := 0
  compTiming := 0
  preBlockEnd := 0
  killflatclk := 0
  setCompThresh := 0
  killinput := 0
  cfebClkDelay := 0
  xfinelatency := 0
  xlatency := 0
  febstat := fun _ _ => 0xFF
  cfebConfigStatus := fun _ => false
  smokingGunStatus := fun _ => false

def zeroFrontEnd (number : Nat) : FrontEnd where
  status _ _ := 0
  readADC _ channel := if channel = number then 3550 else 0

lemma status_matches_zero :
    statusMatches (takeSettings (zeroDaqmb hardwareVersion cfebs)) (fun _ => 0) = true := by
  simp only [statusMatches, takeSettings, zeroDaqmb, compModeBits]
  decide

lemma status_misses_zero :
    statusMatches (takeSettings (zeroDaqmb hardwareVersion cfebs)) (fun _ => 0xFF) = false := by
  simp only [statusMatches, takeSettings, zeroDaqmb, compModeBits]
  decide

lemma threshold_matches_zero : thresholdMatches (zeroDaqmb hardwareVersion cfebs) rounding 3550 =
    true := by
  have zero : rounding.round 0 = 0 := by exact_mod_cast rounding.exact 0 (by decide)
  simp [thresholdMatches, compareTolerance, zeroDaqmb, comparisonThreshold, zero]

lemma threshold_misses_zero : thresholdMatches (zeroDaqmb hardwareVersion cfebs) rounding 0 =
    false := by
  have zero : rounding.round 0 = 0 := by exact_mod_cast rounding.exact 0 (by decide)
  have far : rounding.round 3550 = 3550 := by exact_mod_cast rounding.exact 3550 (by decide)
  have beyond : (100 : ℚ) < 3550 := by decide +kernel
  simp [thresholdMatches, compareTolerance, zeroDaqmb, comparisonThreshold, zero, far, beyond]

lemma inPlace_of_judges (judges : JudgesEach rounding hardwareVersion cfebs) :
    InPlace hardwareVersion cfebs := by
  let unset : UnsetArrays := ⟨fun _ _ => 0, fun _ => 0⟩
  obtain ⟨_, check, -⟩ := judges (zeroDaqmb hardwareVersion cfebs) unset (zeroFrontEnd 0) rfl rfl
  have few : cfebs.length ≤ 5 := few_of_check check
  -- A board that answers as configured passes: what is compared for it must be its own.
  have passes (i : Nat) (cfeb : Cfeb) (is : cfebs[i]? = some cfeb) (inside : i < 7) :
      ∃ read, cfebsReadstatus (zeroFrontEnd cfeb.number) (zeroDaqmb hardwareVersion cfebs)
          unset.febbuf = some read ∧
        statusMatches (takeSettings read) (read.febstat ⟨i, inside⟩) = true ∧
        thresholdMatches (takeSettings read) rounding
          (adcplus (zeroFrontEnd cfeb.number) (takeSettings read) 2 i) = true := by
    obtain ⟨after, check, each⟩ :=
      judges (zeroDaqmb hardwareVersion cfebs) unset (zeroFrontEnd cfeb.number) rfl rfl
    obtain ⟨read, reading, judged⟩ := check_judged check
    obtain ⟨status, entry, status_iff⟩ := each i cfeb is
    have fine : BoardMatches rounding (zeroDaqmb hardwareVersion cfebs)
        (zeroFrontEnd cfeb.number) cfeb := by
      refine ⟨status_matches_zero, ?_⟩
      rw [zeroFrontEnd]
      dsimp only
      rw [if_pos rfl]
      exact threshold_matches_zero
    have below : i < cfebs.length := (List.getElem?_eq_some_iff.1 is).1
    have true_ := judged ⟨i, inside⟩ below
    rw [arrayAt_inside inside, Option.some.injEq] at entry
    rw [entry, status_iff.2 fine] at true_
    obtain ⟨bits, threshold⟩ := Bool.and_eq_true_iff.1 true_.symm
    exact ⟨read, reading, bits, threshold⟩
  have placed (i : Nat) (cfeb : Cfeb) (is : cfebs[i]? = some cfeb) :
      hardwareVersion ≤ 1 ∧ cfeb.number = i := by
    have below : i < cfebs.length := (List.getElem?_eq_some_iff.1 is).1
    obtain ⟨read, reading, -, threshold⟩ := passes i cfeb is (by omega)
    obtain ⟨tables, -, is_⟩ := bind_eq_some_iff.1 reading
    rw [← Option.some.inj is_] at threshold
    by_contra misplaced
    have none_ : adcplus (zeroFrontEnd cfeb.number) (zeroDaqmb hardwareVersion cfebs) 2 i = 0 := by
      rw [adcplus, zeroDaqmb, zeroFrontEnd]
      dsimp only
      by_cases old : hardwareVersion ≤ 1
      · have other : i ≠ cfeb.number := fun eq => misplaced ⟨old, eq.symm⟩
        rw [if_pos old, if_neg other]
        rfl
      · rw [if_neg old]
    have compared : thresholdMatches (zeroDaqmb hardwareVersion cfebs) rounding
        (adcplus (zeroFrontEnd cfeb.number) (zeroDaqmb hardwareVersion cfebs) 2 i) = true := threshold
    rw [none_, threshold_misses_zero] at compared
    exact absurd compared (by decide)
  rcases cfebs with - | ⟨first, rest⟩
  · exact .inl rfl
  · refine .inr ⟨(placed 0 first rfl).1, few, fun i cfeb is => ⟨(placed i cfeb is).2, ?_⟩⟩
    by_contra unread
    have below : i < (first :: rest).length := (List.getElem?_eq_some_iff.1 is).1
    have inside : i < 7 := by omega
    obtain ⟨read, reading, bits, -⟩ := passes i cfeb is inside
    obtain ⟨febstat, read_, stored⟩ := @cfebsReadstatus_some (zeroFrontEnd cfeb.number)
      (zeroDaqmb hardwareVersion (first :: rest)) few (fun i cfeb is => (placed i cfeb is).2)
      unset.febbuf
    have stale : febstat ⟨i, inside⟩ = fun _ => 0xFF := by
      refine (stored ⟨i, inside⟩).trans ((if_pos below).trans ?_)
      rw [statusRead]
      dsimp only [zeroDaqmb]
      rw [is]
      exact if_neg unread
    rw [← Option.some.inj (read_.symm.trans reading)] at bits
    have compared : statusMatches (takeSettings (zeroDaqmb hardwareVersion (first :: rest)))
        (febstat ⟨i, inside⟩) = true := bits
    rw [stale, status_misses_zero] at compared
    exact absurd compared (by decide)

theorem checkCFEBsConfiguration_judges_iff (rounding : FloatRounding) (hardwareVersion : Int)
    (cfebs : List Cfeb) :
    JudgesEach rounding hardwareVersion cfebs ↔ InPlace hardwareVersion cfebs :=
  ⟨inPlace_of_judges, judges_of_inPlace⟩

/-- Old boards without the first one, and the seven new boards of a chamber. -/
theorem checkCFEBsConfiguration_misjudges :
    ¬ JudgesEach ⟨id, fun _ _ => rfl⟩ 1 [⟨1, 1⟩, ⟨2, 1⟩, ⟨3, 1⟩, ⟨4, 1⟩] ∧
      ¬ JudgesEach ⟨id, fun _ _ => rfl⟩ 2
        [⟨0, 2⟩, ⟨1, 2⟩, ⟨2, 2⟩, ⟨3, 2⟩, ⟨4, 2⟩, ⟨5, 2⟩, ⟨6, 2⟩] := by
  constructor
  · intro judges
    rcases inPlace_of_judges judges with none_ | ⟨-, -, each⟩
    · exact absurd none_ (List.cons_ne_nil _ _)
    · exact absurd (each 0 ⟨1, 1⟩ rfl).1 (by decide)
  · intro judges
    rcases inPlace_of_judges judges with none_ | ⟨-, few, -⟩
    · exact absurd none_ (List.cons_ne_nil _ _)
    · exact absurd few (by decide)

end EmuLib.Daqmb
