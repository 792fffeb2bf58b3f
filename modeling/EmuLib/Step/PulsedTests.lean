import EmuLib.Lib.StoppableRuns
import Mathlib.Data.Rat.Floor

/-!
The tests of STEP that deliver a known number of pulses, triggers or settings: what they announce to
the progress counter, what they deliver, and where the output of the boards goes meanwhile.
-/

namespace EmuLib.Step.PulsedTests

open StoppableRuns List

structure Tmb where
  chamberType : String

structure Dmb where
  cfebs : List Int

structure Crate where
  ccb : Nat
  tmbs : List Tmb
  daqmbs : List Dmb

/-- Where a CCB prints: the stream `noBuffer` is a local variable of the procedure. -/
inductive Stream
  | cout
  | noBuffer
deriving DecidableEq

/-- Rounding to a `double`: it keeps the order, and whole numbers of 53 bits. -/
structure DoubleRounding where
  round : ℚ → ℚ
  mono : Monotone round
  exact : ∀ n : Int, n.natAbs ≤ 9007199254740992 → round n = n

structure Progress where
  current : Int
  total : Int

namespace Progress

variable (rounding : DoubleRounding) (progress : Progress)

def setTotal (total : Int) : Progress := { progress with total }

def increment (increment : Int) : Progress := { progress with current := progress.current + increment }

def getValue : ℚ :=
  if progress.total = 0 then 0 else rounding.round ((progress.current : ℚ) / (progress.total : ℚ))

def getPercent : Int :=
  if progress.current = progress.total then 100
  else
    let p := rounding.round (100 * progress.getValue rounding)
    if p < 0 then ⌈p⌉ else ⌊p⌋

end Progress

/-- An `int` from an unsigned number. -/
def toInt (value : Nat) : Int :=
  if value % 4294967296 < 2147483648 then (value % 4294967296 : Nat)
  else (value % 4294967296 : Nat) - 4294967296

inductive Act
  | announce (nEvents : Nat)
  | setTotal (nSettings : Nat)
  | redirectOutput (ccb : Nat) (stream : Stream)
  | deliver (ccb : Nat)
  | increment
deriving DecidableEq

structure TestState where
  nEvents : Nat
  progress : Progress
  delivered : Nat
  streams : Nat → Stream
  trail : List Progress

def TestState.act (state : TestState) : Act → TestState
  | .announce nEvents =>
    let nEvents := nEvents % 18446744073709551616
    let progress := state.progress.setTotal (toInt nEvents)
    { state with nEvents, progress, trail := progress :: state.trail }
  | .setTotal nSettings =>
    let progress := state.progress.setTotal (toInt (nSettings % 18446744073709551616))
    { state with progress, trail := progress :: state.trail }
  | .redirectOutput ccb stream => { state with streams := Function.update state.streams ccb stream }
  | .deliver _ => { state with delivered := state.delivered + 1 }
  | .increment =>
    let progress := state.progress.increment 1
    { state with progress, trail := progress :: state.trail }

/-- A test that has been configured: its total is one, for the progress to be zero per cent. -/
def configured : TestState where
  nEvents := 0
  progress := ⟨0, 1⟩
  delivered := 0
  streams := fun _ => .cout
  trail := [⟨0, 1⟩]

section

abbrev Parameters := String → Option Nat

abbrev Program := List (Instr Act)

def redirectOutput (crate : Crate) (stream : Stream) : Instr Act :=
  .act (.redirectOutput crate.ccb stream)

def pulse (crate : Crate) : Program := [.act (.deliver crate.ccb), .act .increment, .check]

def firstCfeb (dmb : Dmb) : Program := if dmb.cfebs.isEmpty then [.raise] else []

variable (parameters : Parameters) (crates : List Crate)

def parameter (name : String) : Nat := (parameters name).getD 0

def pulseAmpNameBase : String := "alct_test_pulse_amp_"

/-- `GetChamberType().substr(2)` of a shorter name raises an exception as well. -/
def hasPulseAmp (tmb : Tmb) : Bool :=
  decide (2 ≤ tmb.chamberType.length) &&
    (parameters (pulseAmpNameBase ++ String.ofList (tmb.chamberType.toList.drop 2))).isSome

def setUpPulsing (tmb : Tmb) : Program := if hasPulseAmp parameters tmb then [] else [.raise]

def enable12 : Program :=
  let nStrips := 6
  let eventsPerStrip := parameter parameters "events_per_strip"
  .act (.announce (crates.length * nStrips * eventsPerStrip)) ::
    crates.flatMap fun crate =>
      (List.range nStrips).flatMap fun _ =>
        crate.tmbs.flatMap (setUpPulsing parameters) ++
          [redirectOutput crate .noBuffer] ++
            (List.range eventsPerStrip).flatMap (fun _ => pulse crate) ++
          [redirectOutput crate .cout]

def enable13 : Program :=
  let tpampsPerRun := parameter parameters "tpamps_per_run"
  let thresholdsPerTpamp := parameter parameters "thresholds_per_tpamp"
  let eventsPerThreshold := parameter parameters "events_per_threshold"
  .act (.announce (crates.length * eventsPerThreshold * thresholdsPerTpamp * tpampsPerRun)) ::
    crates.flatMap fun crate =>
      (List.range tpampsPerRun).flatMap fun _ =>
        (List.range thresholdsPerTpamp).flatMap fun _ =>
          [redirectOutput crate .noBuffer] ++
            (List.range eventsPerThreshold).flatMap (fun _ => pulse crate) ++
          [redirectOutput crate .cout]

def enable14 : Program :=
  let delaysPerRun := parameter parameters "delays_per_run"
  let eventsPerDelay := parameter parameters "events_per_delay"
  .act (.announce (crates.length * delaysPerRun * eventsPerDelay)) ::
    crates.flatMap fun crate =>
      (List.range delaysPerRun).flatMap fun _ =>
        [redirectOutput crate .noBuffer] ++
          (List.range eventsPerDelay).flatMap (fun _ => pulse crate) ++
        [redirectOutput crate .cout]

def enable15 : Program :=
  let eventsTotal := parameter parameters "events_total"
  .act (.announce (crates.length * eventsTotal)) ::
    crates.flatMap fun crate =>
      [redirectOutput crate .noBuffer] ++
        (List.range eventsTotal).flatMap (fun _ => pulse crate) ++
      [redirectOutput crate .cout]

def enable16 : Program :=
  let nLayerPairs := 3
  let eventsPerLayer := parameter parameters "events_per_layer"
  .act (.announce (crates.length * nLayerPairs * eventsPerLayer)) ::
    crates.flatMap fun crate =>
      (List.range nLayerPairs).flatMap fun _ =>
        [redirectOutput crate .noBuffer] ++
          (List.range eventsPerLayer).flatMap (fun _ => pulse crate) ++
        [redirectOutput crate .cout]

def enable17 : Program :=
  let eventsPerDelay := parameter parameters "events_per_delay"
  let delaysPerStrip := parameter parameters "delays_per_strip"
  let stripsPerRun := parameter parameters "strips_per_run"
  let nPulses := crates.foldl (fun nPulses _ =>
    nPulses + stripsPerRun * delaysPerStrip * eventsPerDelay) 0
  .act (.announce nPulses) ::
    crates.flatMap fun crate =>
      (List.range stripsPerRun).flatMap fun _ =>
        crate.daqmbs.flatMap firstCfeb ++
          (List.range delaysPerStrip).flatMap fun _ =>
            crate.daqmbs.flatMap firstCfeb ++
              [redirectOutput crate .noBuffer] ++
                (List.range eventsPerDelay).flatMap (fun _ => pulse crate) ++
              [redirectOutput crate .cout]

def enable17b : Program :=
  let eventsPerPulsedac := parameter parameters "events_per_pulsedac"
  let pulseDacSettings := parameter parameters "pulse_dac_settings"
  let stripsPerRun := parameter parameters "strips_per_run"
  let nPulses := crates.foldl (fun nPulses _ =>
    nPulses + stripsPerRun * pulseDacSettings * eventsPerPulsedac) 0
  .act (.announce nPulses) ::
    crates.flatMap fun crate =>
      (List.range stripsPerRun).flatMap fun _ =>
        crate.daqmbs.flatMap firstCfeb ++
          (List.range pulseDacSettings).flatMap fun _ =>
            crate.daqmbs.flatMap firstCfeb ++
              [redirectOutput crate .noBuffer] ++
                (List.range eventsPerPulsedac).flatMap (fun _ => pulse crate) ++
              [redirectOutput crate .cout]

def enable19 : Program :=
  let eventsPerThresh := parameter parameters "events_per_thresh"
  let threshsPerTpamp := parameter parameters "threshs_per_tpamp"
  let dmbTpampsPerStrip := parameter parameters "dmb_tpamps_per_strip"
  let stripsPerRun := parameter parameters "strips_per_run"
  .act (.announce
      (crates.length * eventsPerThresh * threshsPerTpamp * dmbTpampsPerStrip * stripsPerRun)) ::
    crates.flatMap fun crate =>
      (List.range stripsPerRun).flatMap fun _ =>
        crate.daqmbs.flatMap firstCfeb ++
          (List.range dmbTpampsPerStrip).flatMap fun _ =>
            crate.daqmbs.flatMap firstCfeb ++
              (List.range threshsPerTpamp).flatMap fun _ =>
                crate.daqmbs.flatMap firstCfeb ++
                  [redirectOutput crate .noBuffer] ++
                    (List.range eventsPerThresh).flatMap fun _ =>
                      pulse crate ++ [redirectOutput crate .cout]

def enable21 : Program :=
  let eventsPerHstrip := parameter parameters "events_per_hstrip"
  let hstripsPerRun := parameter parameters "hstrips_per_run"
  .act (.announce (crates.length * eventsPerHstrip * hstripsPerRun)) ::
    crates.flatMap fun crate =>
      (if crate.tmbs.isEmpty then [.raise] else []) ++
        (List.range hstripsPerRun).flatMap fun _ =>
          crate.daqmbs.flatMap firstCfeb ++
            [redirectOutput crate .noBuffer] ++
              (List.range eventsPerHstrip).flatMap fun _ =>
                pulse crate ++ [redirectOutput crate .cout]

def enable25 : Program :=
  let trigSettings := parameter parameters "trig_settings"
  let nSettings := crates.foldl (fun nSettings crate =>
    nSettings + trigSettings * crate.tmbs.length) 0
  .act (.setTotal nSettings) ::
    crates.flatMap fun crate =>
      crate.tmbs.flatMap fun _ =>
        (List.range trigSettings).flatMap fun _ => [.act (.deliver crate.ccb), .act .increment]

def enable30 : Program :=
  let fromDepth := parameter parameters "fromDepth"
  let toDepth := parameter parameters "toDepth"
  .act (.announce (crates.length * (toDepth - fromDepth))) ::
    crates.flatMap fun crate =>
      (List.range (toDepth + 1 - fromDepth)).flatMap fun _ =>
        crate.daqmbs.flatMap firstCfeb ++ [.act (.deliver crate.ccb), .act .increment]

inductive Procedure
  | enable12 | enable13 | enable14 | enable15 | enable16 | enable17 | enable17b | enable19 | enable21
  | enable25 | enable30
deriving DecidableEq

def Procedure.program : Procedure → Parameters → List Crate → Program
  | .enable12 => PulsedTests.enable12
  | .enable13 => PulsedTests.enable13
  | .enable14 => PulsedTests.enable14
  | .enable15 => PulsedTests.enable15
  | .enable16 => PulsedTests.enable16
  | .enable17 => PulsedTests.enable17
  | .enable17b => PulsedTests.enable17b
  | .enable19 => PulsedTests.enable19
  | .enable21 => PulsedTests.enable21
  | .enable25 => PulsedTests.enable25
  | .enable30 => PulsedTests.enable30

/-- The procedure in a test that has been configured; `stops` tells at which looks the request to stop
is seen. -/
def runProcedure (stops : Nat → Bool) (procedure : Procedure) : Ending × Nat × TestState :=
  run TestState.act stops 0 configured (procedure.program parameters crates)

end

section

variable (parameters : Parameters)

def Procedure.raises : Procedure → Crate → Bool
  | .enable12, crate => crate.tmbs.any fun tmb => !hasPulseAmp parameters tmb
  | .enable17, crate | .enable17b, crate | .enable19, crate =>
    decide (0 < parameter parameters "strips_per_run") &&
      crate.daqmbs.any fun dmb => dmb.cfebs.isEmpty
  | .enable21, crate =>
    crate.tmbs.isEmpty || (decide (0 < parameter parameters "hstrips_per_run") &&
      crate.daqmbs.any fun dmb => dmb.cfebs.isEmpty)
  | .enable30, crate =>
    decide (parameter parameters "fromDepth" ≤ parameter parameters "toDepth") &&
      crate.daqmbs.any fun dmb => dmb.cfebs.isEmpty
  | _, _ => false

variable {parameters}

lemma raise_firstCfeb (dmb) : Instr.raise ∈ firstCfeb dmb ↔ dmb.cfebs.isEmpty = true := by
  rw [firstCfeb]
  split <;> simp [*]

lemma raise_setUpPulsing (tmb) :
    Instr.raise ∈ setUpPulsing parameters tmb ↔ hasPulseAmp parameters tmb = false := by
  rw [setUpPulsing]
  split <;> simp [*]

lemma exists_below (count) : (∃ index, index < count) ↔ 0 < count :=
  ⟨fun ⟨_, below⟩ => Nat.zero_lt_of_lt below, fun positive => ⟨0, positive⟩⟩

lemma or_and_absorb (found later) : found ∨ later ∧ found ↔ found :=
  or_iff_left_of_imp And.right

lemma raise_program_iff (procedure : Procedure) (crates) :
    Instr.raise ∈ procedure.program parameters crates ↔
      ∃ crate ∈ crates, procedure.raises parameters crate = true := by
  cases procedure with
  | enable12 =>
    simp [Procedure.program, enable12, Procedure.raises, raise_setUpPulsing, pulse, redirectOutput,
      exists_below]
  | enable13 =>
    simp [Procedure.program, enable13, Procedure.raises, pulse, redirectOutput]
  | enable14 =>
    simp [Procedure.program, enable14, Procedure.raises, pulse, redirectOutput]
  | enable15 =>
    simp [Procedure.program, enable15, Procedure.raises, pulse, redirectOutput]
  | enable16 =>
    simp [Procedure.program, enable16, Procedure.raises, pulse, redirectOutput]
  | enable17 =>
    simp [Procedure.program, enable17, Procedure.raises, raise_firstCfeb, pulse, redirectOutput,
      exists_below, or_and_absorb]
  | enable17b =>
    simp [Procedure.program, enable17b, Procedure.raises, raise_firstCfeb, pulse, redirectOutput,
      exists_below, or_and_absorb]
  | enable19 =>
    simp [Procedure.program, enable19, Procedure.raises, raise_firstCfeb, pulse, redirectOutput,
      exists_below, or_and_absorb]
  | enable21 =>
    simp [Procedure.program, enable21, Procedure.raises, raise_firstCfeb, pulse, redirectOutput,
      exists_below]
  | enable25 =>
    simp [Procedure.program, enable25, Procedure.raises]
  | enable30 =>
    have range : 0 < parameter parameters "toDepth" + 1 - parameter parameters "fromDepth" ↔
        parameter parameters "fromDepth" ≤ parameter parameters "toDepth" := by omega
    simp [Procedure.program, enable30, Procedure.raises, raise_firstCfeb, exists_below, range]

end

section

structure Adds (count : Nat) (before after : TestState) : Prop where
  delivered : after.delivered = before.delivered + count
  nEvents : after.nEvents = before.nEvents
  current : after.progress.current = before.progress.current + count
  total : after.progress.total = before.progress.total
  trail : ∀ progress ∈ after.trail, progress ∈ before.trail ∨
    progress.total = before.progress.total ∧ progress.current ≤ after.progress.current

def Delivers (program : Program) (count : Nat) : Prop :=
  ∀ state, Adds count state ((acts program).foldl TestState.act state)

variable {first second : Program} {count more : Nat} {Item : Type} {items : List Item}
  {body : Item → Program}

lemma Adds.refl (state) : Adds 0 state state :=
  ⟨rfl, rfl, (Int.add_zero _).symm, rfl, fun _ member => .inl member⟩

lemma Adds.trans {before between after} (adds : Adds count before between)
    (next : Adds more between after) : Adds (count + more) before after := by
  refine ⟨?_, next.nEvents.trans adds.nEvents, ?_, next.total.trans adds.total,
    fun progress member => ?_⟩
  · rw [next.delivered, adds.delivered, Nat.add_assoc]
  · rw [next.current, adds.current, Nat.cast_add, Int.add_assoc]
  · have grows := next.current
    rcases next.trail progress member with early | ⟨total, below⟩
    · rcases adds.trail progress early with earlier | ⟨total, below⟩
      · exact .inl earlier
      · exact .inr ⟨total, by omega⟩
    · exact .inr ⟨total.trans adds.total, below⟩

lemma delivers_nil : Delivers [] 0 := Adds.refl

lemma Delivers.append (delivers : Delivers first count) (next : Delivers second more) :
    Delivers (first ++ second) (count + more) := by
  intro state
  rw [acts, filterMap_append, foldl_append]
  exact (delivers state).trans (next _)

lemma delivers_flatMap_sum {counts} (turn : ∀ item ∈ items, Delivers (body item) (counts item)) :
    Delivers (items.flatMap body) (items.map counts).sum := by
  induction items with
  | nil => exact delivers_nil
  | cons item rest ih =>
    exact (turn item mem_cons_self).append
      (ih fun other member => turn other (mem_cons_of_mem _ member))

lemma delivers_flatMap (turn : ∀ item ∈ items, Delivers (body item) count) :
    Delivers (items.flatMap body) (items.length * count) := by
  have sum := delivers_flatMap_sum turn
  rwa [map_const', sum_replicate_nat] at sum

lemma delivers_range (turns) {turn : Nat → Program}
    (each : ∀ index, Delivers (turn index) count) :
    Delivers ((List.range turns).flatMap turn) (turns * count) := by
  have whole := @delivers_flatMap count Nat (List.range turns) turn fun index _ => each index
  rwa [length_range] at whole

lemma delivers_redirect (crate stream) :
    Delivers [redirectOutput crate stream] 0 :=
  fun _ => ⟨rfl, rfl, (Int.add_zero _).symm, rfl, fun _ member => .inl member⟩

lemma delivers_raise : Delivers [.raise] 0 := Adds.refl

lemma delivers_firstCfeb (dmbs : List Dmb) : Delivers (dmbs.flatMap firstCfeb) 0 := by
  have all := @delivers_flatMap 0 Dmb dmbs firstCfeb fun dmb _ => by
    rw [firstCfeb]
    split
    · exact delivers_raise
    · exact delivers_nil
  rwa [Nat.mul_zero] at all

lemma delivers_setUpPulsing (parameters) (tmbs : List Tmb) :
    Delivers (tmbs.flatMap (setUpPulsing parameters)) 0 := by
  have all := @delivers_flatMap 0 Tmb tmbs (setUpPulsing parameters) fun tmb _ => by
    rw [setUpPulsing]
    split
    · exact delivers_nil
    · exact delivers_raise
  rwa [Nat.mul_zero] at all

lemma delivers_one (crate : Crate) : Delivers [.act (.deliver crate.ccb), .act .increment] 1 := by
  refine fun state => ⟨rfl, rfl, rfl, rfl, fun progress member => ?_⟩
  rcases mem_cons.1 member with rfl | earlier
  · exact .inr ⟨rfl, le_refl _⟩
  · exact .inl earlier

lemma delivers_pulse (crate) : Delivers (pulse crate) 1 := delivers_one crate

lemma delivers_burst (crate events) :
    Delivers ([redirectOutput crate .noBuffer] ++
      (List.range events).flatMap (fun _ => pulse crate) ++ [redirectOutput crate .cout]) events := by
  have whole := ((delivers_redirect crate .noBuffer).append
    (delivers_range events fun _ => delivers_pulse crate)).append (delivers_redirect crate .cout)
  rwa [Nat.zero_add, Nat.mul_one] at whole

lemma delivers_burst_within (crate events) :
    Delivers ([redirectOutput crate .noBuffer] ++
      (List.range events).flatMap fun _ => pulse crate ++ [redirectOutput crate .cout]) events := by
  have whole := (delivers_redirect crate .noBuffer).append
    (delivers_range events fun _ => (delivers_pulse crate).append (delivers_redirect crate .cout))
  rwa [Nat.zero_add, Nat.mul_one] at whole

lemma Delivers.after (next : Delivers second more) (quiet : Delivers first 0) :
    Delivers (first ++ second) more := by
  have whole := quiet.append next
  rwa [Nat.zero_add] at whole

end

section

variable (parameters : Parameters)

def Procedure.perCrate : Procedure → Crate → Nat
  | .enable12, _ => 6 * parameter parameters "events_per_strip"
  | .enable13, _ =>
    parameter parameters "tpamps_per_run" * (parameter parameters "thresholds_per_tpamp" *
      parameter parameters "events_per_threshold")
  | .enable14, _ => parameter parameters "delays_per_run" * parameter parameters "events_per_delay"
  | .enable15, _ => parameter parameters "events_total"
  | .enable16, _ => 3 * parameter parameters "events_per_layer"
  | .enable17, _ =>
    parameter parameters "strips_per_run" * (parameter parameters "delays_per_strip" *
      parameter parameters "events_per_delay")
  | .enable17b, _ =>
    parameter parameters "strips_per_run" * (parameter parameters "pulse_dac_settings" *
      parameter parameters "events_per_pulsedac")
  | .enable19, _ =>
    parameter parameters "strips_per_run" * (parameter parameters "dmb_tpamps_per_strip" *
      (parameter parameters "threshs_per_tpamp" * parameter parameters "events_per_thresh"))
  | .enable21, _ => parameter parameters "hstrips_per_run" * parameter parameters "events_per_hstrip"
  | .enable25, crate => crate.tmbs.length * parameter parameters "trig_settings"
  | .enable30, _ => parameter parameters "toDepth" + 1 - parameter parameters "fromDepth"

def announced : Program → Nat
  | .act (.announce nEvents) :: _ => nEvents
  | .act (.setTotal nSettings) :: _ => nSettings
  | _ => 0

variable {parameters} {crates : List Crate}

lemma program_delivers (procedure : Procedure) :
    Delivers (procedure.program parameters crates).tail
      (crates.map (procedure.perCrate parameters)).sum := by
  cases procedure with
  | enable12 =>
    refine delivers_flatMap_sum fun crate _ => delivers_range _ fun _ => ?_
    rw [append_assoc, append_assoc]
    exact (delivers_burst crate _).after (delivers_setUpPulsing parameters crate.tmbs)
  | enable13 =>
    exact delivers_flatMap_sum fun crate _ => delivers_range _ fun _ => delivers_range _ fun _ =>
      delivers_burst crate _
  | enable14 =>
    exact delivers_flatMap_sum fun crate _ => delivers_range _ fun _ => delivers_burst crate _
  | enable15 => exact delivers_flatMap_sum fun crate _ => delivers_burst crate _
  | enable16 =>
    exact delivers_flatMap_sum fun crate _ => delivers_range _ fun _ => delivers_burst crate _
  | enable17 =>
    refine delivers_flatMap_sum fun crate _ => delivers_range _ fun _ =>
      (delivers_range _ fun _ => ?_).after (delivers_firstCfeb crate.daqmbs)
    rw [append_assoc, append_assoc]
    exact (delivers_burst crate _).after (delivers_firstCfeb crate.daqmbs)
  | enable17b =>
    refine delivers_flatMap_sum fun crate _ => delivers_range _ fun _ =>
      (delivers_range _ fun _ => ?_).after (delivers_firstCfeb crate.daqmbs)
    rw [append_assoc, append_assoc]
    exact (delivers_burst crate _).after (delivers_firstCfeb crate.daqmbs)
  | enable19 =>
    refine delivers_flatMap_sum fun crate _ => delivers_range _ fun _ =>
      (delivers_range _ fun _ => (delivers_range _ fun _ => ?_).after
        (delivers_firstCfeb crate.daqmbs)).after (delivers_firstCfeb crate.daqmbs)
    rw [append_assoc]
    exact (delivers_burst_within crate _).after (delivers_firstCfeb crate.daqmbs)
  | enable21 =>
    refine delivers_flatMap_sum fun crate _ => (delivers_range _ fun _ => ?_).after ?_
    · rw [append_assoc]
      exact (delivers_burst_within crate _).after (delivers_firstCfeb crate.daqmbs)
    · split
      · exact delivers_raise
      · exact delivers_nil
  | enable25 =>
    refine delivers_flatMap_sum fun crate _ => delivers_flatMap fun _ _ => ?_
    have settings := delivers_range (parameter parameters "trig_settings") fun _ =>
      delivers_one crate
    rwa [Nat.mul_one] at settings
  | enable30 =>
    refine delivers_flatMap_sum fun crate _ => ?_
    have depths := delivers_range
      (parameter parameters "toDepth" + 1 - parameter parameters "fromDepth") fun _ =>
      (delivers_one crate).after (delivers_firstCfeb crate.daqmbs)
    rwa [Nat.mul_one] at depths

lemma foldl_add (counts : Crate → Nat) (crates : List Crate) (first) :
    crates.foldl (fun total crate => total + counts crate) first =
      first + (crates.map counts).sum := by
  induction crates generalizing first with
  | nil => rfl
  | cons crate rest ih =>
    rw [foldl_cons, ih, map_cons, sum_cons, Nat.add_assoc]

lemma sum_const (count) (crates : List Crate) :
    (crates.map fun _ => count).sum = crates.length * count := by
  rw [map_const', sum_replicate_nat]

lemma announced_const {procedure : Procedure} (count)
    (each : ∀ crate, procedure.perCrate parameters crate = count)
    (is : announced (procedure.program parameters crates) = crates.length * count) :
    announced (procedure.program parameters crates) =
      (crates.map (procedure.perCrate parameters)).sum := by
  rw [is, ← sum_const count crates]
  exact congrArg List.sum (map_congr_left fun crate _ => (each crate).symm)

lemma announced_eq {procedure : Procedure} (other : procedure ≠ .enable30) :
    announced (procedure.program parameters crates) =
      (crates.map (procedure.perCrate parameters)).sum := by
  cases procedure with
  | enable12 =>
    refine announced_const (6 * parameter parameters "events_per_strip") (fun _ => rfl) ?_
    simp only [announced, Procedure.program, enable12]
    ring
  | enable13 =>
    refine announced_const (parameter parameters "tpamps_per_run" * (parameter parameters "thresholds_per_tpamp" *
      parameter parameters "events_per_threshold")) (fun _ => rfl) ?_
    simp only [announced, Procedure.program, enable13]
    ring
  | enable14 =>
    refine announced_const (parameter parameters "delays_per_run" * parameter parameters "events_per_delay") (fun _ => rfl) ?_
    simp only [announced, Procedure.program, enable14]
    ring
  | enable15 => exact (sum_const _ crates).symm
  | enable16 =>
    refine announced_const (3 * parameter parameters "events_per_layer") (fun _ => rfl) ?_
    simp only [announced, Procedure.program, enable16]
    ring
  | enable17 =>
    refine (foldl_add _ crates 0).trans ((Nat.zero_add _).trans ?_)
    refine congrArg List.sum (map_congr_left fun crate _ => ?_)
    exact Nat.mul_assoc _ _ _
  | enable17b =>
    refine (foldl_add _ crates 0).trans ((Nat.zero_add _).trans ?_)
    refine congrArg List.sum (map_congr_left fun crate _ => ?_)
    exact Nat.mul_assoc _ _ _
  | enable19 =>
    refine announced_const (parameter parameters "strips_per_run" * (parameter parameters "dmb_tpamps_per_strip" *
      (parameter parameters "threshs_per_tpamp" * parameter parameters "events_per_thresh"))) (fun _ => rfl) ?_
    simp only [announced, Procedure.program, enable19]
    ring
  | enable21 =>
    refine announced_const (parameter parameters "hstrips_per_run" *
      parameter parameters "events_per_hstrip") (fun _ => rfl) ?_
    simp only [announced, Procedure.program, enable21]
    ring
  | enable25 =>
    refine (foldl_add _ crates 0).trans ((Nat.zero_add _).trans ?_)
    refine congrArg List.sum (map_congr_left fun crate _ => ?_)
    exact Nat.mul_comm _ _
  | enable30 => exact absurd rfl other

end

section

variable {rounding : DoubleRounding} {progress : Progress}

lemma getPercent_le (positive : 0 ≤ progress.total) (below : progress.current ≤ progress.total) :
    progress.getPercent rounding ≤ 100 := by
  rw [Progress.getPercent]
  split
  · exact le_refl _
  · next other =>
      have value : progress.getValue rounding ≤ 1 := by
        rw [Progress.getValue]
        split
        · decide +kernel
        · next some_ =>
            have one : rounding.round 1 = 1 := by exact_mod_cast rounding.exact 1 (by decide)
            rw [← one]
            refine rounding.mono ?_
            have total : (0 : ℚ) < progress.total := by
              exact_mod_cast lt_of_le_of_ne positive (Ne.symm some_)
            rw [div_le_one total]
            exact_mod_cast below
      have hundred : rounding.round 100 = 100 := by exact_mod_cast rounding.exact 100 (by decide)
      have bound : rounding.round (100 * progress.getValue rounding) ≤ ((100 : Int) : ℚ) := by
        have rounded := rounding.mono (show 100 * progress.getValue rounding ≤ 100 by linarith)
        rw [hundred] at rounded
        exact_mod_cast rounded
      dsimp only
      split
      · exact Int.ceil_le.2 bound
      · exact (Int.floor_le_ceil _).trans (Int.ceil_le.2 bound)

lemma getPercent_done (done : progress.current = progress.total) :
    progress.getPercent rounding = 100 := if_pos done

end

variable (rounding : DoubleRounding) (parameters : Parameters) (crates : List Crate)

structure Completes (procedure : Procedure) (final : Ending × Nat × TestState) : Prop where
  returned : final.1 = .returned
  total : final.2.2.progress.total = final.2.2.delivered
  nEvents : procedure ≠ .enable25 → final.2.2.nEvents = final.2.2.delivered
  bounded : ∀ progress ∈ final.2.2.trail, progress.getPercent rounding ≤ 100
  done : final.2.2.progress.getPercent rounding = 100

variable {rounding parameters crates} {procedure : Procedure}

lemma program_head (procedure : Procedure) : ∃ first,
    procedure.program parameters crates = .act first :: (procedure.program parameters crates).tail ∧
      (first = .announce (announced (procedure.program parameters crates)) ∨
        procedure = .enable25 ∧
          first = .setTotal (announced (procedure.program parameters crates))) := by
  cases procedure with
  | enable25 => exact ⟨_, rfl, .inr ⟨rfl, rfl⟩⟩
  | _ => exact ⟨_, rfl, .inl rfl⟩

lemma toInt_small {value} (small : value < 2147483648) :
    toInt (value % 18446744073709551616) = value := by
  rw [toInt, Nat.mod_eq_of_lt (a := value) (by omega), if_pos (by omega), Nat.mod_eq_of_lt (by omega)]

lemma act_first {first : Act} {nEvents} (small : nEvents < 2147483648)
    (is : first = .announce nEvents ∨ procedure = .enable25 ∧ first = .setTotal nEvents) :
    (configured.act first).progress = ⟨0, nEvents⟩ ∧ (configured.act first).delivered = 0 ∧
      (procedure ≠ .enable25 → (configured.act first).nEvents = nEvents) ∧
      (configured.act first).trail = [⟨0, nEvents⟩, ⟨0, 1⟩] := by
  have total := toInt_small small
  rcases is with rfl | ⟨rfl, rfl⟩
  · refine ⟨?_, rfl, fun _ => Nat.mod_eq_of_lt (by omega), ?_⟩
    · rw [← total]
      rfl
    · rw [← total]
      rfl
  · refine ⟨?_, rfl, fun other => absurd rfl other, ?_⟩
    · rw [← total]
      rfl
    · rw [← total]
      rfl

lemma runProcedure_unstopped (sound : ∀ crate ∈ crates, procedure.raises parameters crate = false)
    (small : announced (procedure.program parameters crates) < 2147483648) :
    ∃ checks begun final, runProcedure parameters crates (fun _ => false) procedure =
        (.returned, checks, final) ∧
      begun.progress = ⟨0, announced (procedure.program parameters crates)⟩ ∧ begun.delivered = 0 ∧
      (procedure ≠ .enable25 →
        begun.nEvents = announced (procedure.program parameters crates)) ∧
      begun.trail = [⟨0, announced (procedure.program parameters crates)⟩, ⟨0, 1⟩] ∧
      Adds (crates.map (procedure.perCrate parameters)).sum begun final := by
  have quiet : Instr.raise ∉ procedure.program parameters crates := by
    rw [raise_program_iff]
    rintro ⟨crate, member, raises⟩
    rw [sound crate member] at raises
    cases raises
  obtain ⟨first, head, is⟩ := @program_head parameters crates procedure
  obtain ⟨progress, delivered, nEvents, trail⟩ := act_first small is
  obtain ⟨checks, ran⟩ : ∃ checks, runProcedure parameters crates (fun _ => false) procedure =
      (.returned, checks,
        (acts (procedure.program parameters crates)).foldl TestState.act configured) :=
    run_unstopped (fun _ => rfl) _ quiet
  refine ⟨checks, configured.act first, _, ran, progress, delivered, nEvents, trail, ?_⟩
  have adds := @program_delivers parameters crates procedure (configured.act first)
  rw [head]
  exact adds

lemma sum_enable30 : (crates.map (Procedure.enable30.perCrate parameters)).sum =
    crates.length * (parameter parameters "toDepth" + 1 - parameter parameters "fromDepth") :=
  sum_const _ crates

lemma announced_iff : announced (procedure.program parameters crates) =
      (crates.map (procedure.perCrate parameters)).sum ↔
    (procedure = .enable30 →
      crates = [] ∨ parameter parameters "toDepth" < parameter parameters "fromDepth") := by
  by_cases is : procedure = .enable30
  · subst is
    rw [sum_enable30]
    show crates.length * _ = _ ↔ _
    constructor
    · intro same _
      rcases Nat.eq_zero_or_pos crates.length with empty | some_
      · exact .inl (length_eq_zero_iff.1 empty)
      · have depths := Nat.eq_of_mul_eq_mul_left some_ same
        exact .inr (by omega)
    · intro few
      rcases few rfl with rfl | below
      · rw [length_nil, Nat.zero_mul, Nat.zero_mul]
      · rw [Nat.sub_eq_zero_of_le (Nat.le_of_lt below), Nat.sub_eq_zero_of_le below]
  · exact iff_of_true (announced_eq is) fun same => absurd same is

/-- A procedure completes unless a board it needs is missing, or a depth is not announced. -/
theorem unstopped_completes_iff (small : announced (procedure.program parameters crates) < 2147483648) :
    Completes rounding procedure (runProcedure parameters crates (fun _ => false) procedure) ↔
      (∀ crate ∈ crates, procedure.raises parameters crate = false) ∧
        (procedure = .enable30 →
          crates = [] ∨ parameter parameters "toDepth" < parameter parameters "fromDepth") := by
  rw [← announced_iff]
  constructor
  · intro completes
    have sound : ∀ crate ∈ crates, procedure.raises parameters crate = false := by
      intro crate member
      by_contra raises
      have raised : (runProcedure parameters crates (fun _ => false) procedure).1 = .raised :=
        run_raised (fun _ => rfl)
          ((raise_program_iff procedure crates).2 ⟨crate, member, Bool.not_eq_false _ ▸ raises⟩)
      exact Ending.noConfusion (raised.symm.trans completes.returned)
    obtain ⟨checks, begun, final, ran, progress, delivered, -, -, adds⟩ :=
      runProcedure_unstopped sound small
    have total := completes.total
    rw [ran] at total
    simp only [adds.total, adds.delivered, progress, delivered, Nat.zero_add] at total
    exact ⟨sound, by exact_mod_cast total⟩
  · rintro ⟨sound, same⟩
    obtain ⟨checks, begun, final, ran, progress, delivered, nEvents, trail, adds⟩ :=
      runProcedure_unstopped sound small
    have total : final.progress.total = announced (procedure.program parameters crates) := by
      rw [adds.total, progress]
    have current : final.progress.current = announced (procedure.program parameters crates) := by
      rw [adds.current, progress, same, Int.zero_add]
    have all : final.delivered = announced (procedure.program parameters crates) := by
      rw [adds.delivered, delivered, same, Nat.zero_add]
    rw [ran]
    refine ⟨rfl, by rw [total, all], fun other => ?_, fun other member => ?_, ?_⟩
    · rw [adds.nEvents, nEvents other, all]
    · rcases adds.trail other member with early | ⟨of, below⟩
      · rw [trail] at early
        rcases mem_cons.1 early with rfl | early
        · exact getPercent_le (Int.natCast_nonneg _) (Int.natCast_nonneg _)
        · obtain rfl := mem_singleton.1 early
          exact getPercent_le Int.one_nonneg Int.one_nonneg
      · rw [progress] at of
        refine getPercent_le ?_ ?_
        · rw [of]
          exact Int.natCast_nonneg _
        · rw [of, ← current]
          exact below
    · exact getPercent_done (current.trans total.symm)

def exactRounding : DoubleRounding := ⟨id, monotone_id, fun _ _ => rfl⟩

def twoPulses : Parameters := fun name => if name = "events_total" then some 2 else none

def twoDepths : Parameters := fun name =>
  if name = "fromDepth" then some 60 else if name = "toDepth" then some 61 else none

theorem twoPulses_completes :
    Completes exactRounding .enable15
      (runProcedure twoPulses [⟨0, [], []⟩] (fun _ => false) .enable15) :=
  (unstopped_completes_iff (by decide)).2 ⟨by decide, fun same => by cases same⟩

theorem twoDepths_overshoots :
    ¬ Completes exactRounding .enable30
      (runProcedure twoDepths [⟨0, [], [⟨[2, 2]⟩]⟩] (fun _ => false) .enable30) :=
  fun completes => absurd completes.total (by decide)

end EmuLib.Step.PulsedTests
