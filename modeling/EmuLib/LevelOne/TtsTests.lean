import Mathlib.Algebra.Ring.Int.Defs
import Mathlib.Algebra.Ring.Nat
import EmuLib.LevelOne.FunctionManager
import EmuLib.Lib.GuardedRun

/-!
The TTS tests of the function manager: the action that begins a test, and the setter, which runs
on a schedule of its own.
-/

namespace EmuLib.LevelOne.TtsTests

open GuardedRun

def getCrateNumber (fed : Int) : Int :=
  if fed = 760 then 3 else if fed = 752 ∨ fed.tdiv 10 = 83 then 2 else 1

def slots : List (Int × Int) :=
  [(760, 2), (750, 8), (841, 4), (842, 5), (843, 6), (844, 7), (845, 9), (846, 10), (847, 11),
    (848, 12), (849, 13), (752, 8), (831, 4), (832, 5), (833, 6), (834, 7), (835, 9), (836, 10),
    (837, 11), (838, 12), (839, 13)]

def getSlotNumber (fed : Int) : Int := (slots.lookup fed).getD 0

def int (value : Int) : Int := value.bmod (2 ^ 32)

def digitsValue (digits : List Char) : Option Int :=
  if digits ≠ [] ∧ digits.all Char.isDigit = true then
    some (digits.foldl (fun value digit => 10 * value + (digit.toNat - 48 : Nat)) 0)
  else none

def signedValue : List Char → Option Int
  | '-' :: digits => (digitsValue digits).map fun value => -value
  | '+' :: digits => digitsValue digits
  | digits => digitsValue digits

def parseInt (text : String) : Option Int :=
  (signedValue text.toList).filter fun value => int value = value

/-- `ParameterSet`, with what is not given as `none`. -/
structure Parameters where
  fedId : Option Int
  mode : Option String
  pattern : Option String
  sequenceRepeat : Option Int
  deriving DecidableEq

def Parameters.missing (parameters : Parameters) : Bool :=
  parameters.fedId.isNone || parameters.mode.isNone || parameters.mode == some "" ||
    parameters.pattern.isNone || parameters.pattern == some "" ||
    parameters.sequenceRepeat.isNone

structure TTSSetter where
  crate : Int
  slot : Int
  bits : Int
  repeat_ : Int
  deriving DecidableEq

def config (crate slot bits repeat_ : Int) : TTSSetter :=
  ⟨crate, slot, bits, if int (repeat_ * 16) = 0 then 1 else int (repeat_ * 16)⟩

/-- The call of `config`, if no exception leaves the action before. -/
def configured (parameters : Parameters) : Option TTSSetter := do
  let fedId ← parameters.fedId
  let _ ← parameters.mode
  let pattern ← parameters.pattern
  let cycles ← parameters.sequenceRepeat
  let bits ← parseInt pattern
  return config (getCrateNumber fedId) (getSlotNumber fedId) bits
    (if pattern = "PATTERN" then 0 else cycles)

inductive Action where
  | begun (parameters : Parameters)
  | ending
  deriving DecidableEq

inductive Entry where
  | accepted (parameters : Parameters)
  | setTTS (crate slot bits : Int)
  | returned
  | failed
  deriving DecidableEq

structure Handler where
  state : State
  action : Option Action
  ttsSetter : TTSSetter
  fired : List Input
  log : List Entry
  deriving DecidableEq

namespace Handler

def created : Handler := ⟨.ttsTestMode, none, ⟨0, 0, 0, 0⟩, [], []⟩

def testTTS (handler : Handler) (parameters : Parameters) : Handler :=
  if handler.action = none ∧ transition .testTTS handler.state = some .testingTTS then
    { handler with
      state := .testingTTS
      action := some (.begun parameters)
      log := handler.log ++ [.accepted parameters] }
  else handler

/-- `testingTTSAction` up to the event that it fires at its end. -/
def testingTTSAction (handler : Handler) : Handler :=
  match handler.action with
  | some (.begun parameters) =>
    let fired := if parameters.missing then handler.fired ++ [.setError] else handler.fired
    match configured parameters with
    | some setter => { handler with action := some .ending, ttsSetter := setter, fired := fired }
    | none => { handler with action := none, fired := fired }
  | _ => handler

def leaveIntermediateState (handler : Handler) : Handler :=
  if handler.action = some .ending then
    { handler with action := none, fired := handler.fired ++ [.setTTSTestMode] }
  else handler

def run (handler : Handler) : Handler :=
  let setter := handler.ttsSetter
  if 0 < setter.repeat_ then
    { handler with
      ttsSetter :=
        ⟨setter.crate, setter.slot, (int (setter.bits + 1)).tmod 16, setter.repeat_ - 1⟩
      fired := if setter.repeat_ - 1 = 0 then handler.fired ++ [.setTTSTestMode] else handler.fired
      log := handler.log ++ [.setTTS setter.crate setter.slot setter.bits] }
  else handler

def entered (before after : State) : List Entry :=
  if after = .error then [.failed]
  else if before = .testingTTS ∧ after = .ttsTestMode then [.returned] else []

def handle (handler : Handler) : Handler :=
  match handler.fired with
  | [] => handler
  | input :: rest =>
    match transition input handler.state with
    | none => { handler with fired := rest }
    | some after =>
      { handler with
        state := after
        fired := rest
        log := handler.log ++ entered handler.state after }

end Handler

inductive Turn where
  | testTTS (parameters : Parameters)
  | testingTTSAction
  | leaveIntermediateState
  | run
  | handle
  deriving DecidableEq

def Handler.step (handler : Handler) : Turn → Handler
  | .testTTS parameters => handler.testTTS parameters
  | .testingTTSAction => handler.testingTTSAction
  | .leaveIntermediateState => handler.leaveIntermediateState
  | .run => handler.run
  | .handle => handler.handle

structure Test where
  crate : Int
  slot : Int
  bits : Int
  shots : Nat

/-- What is asked for by parameters that are all given and make sense. -/
def Parameters.test (parameters : Parameters) : Option Test := do
  let fedId ← parameters.fedId
  let mode ← parameters.mode
  let bits ← parameters.pattern.bind parseInt
  let cycles ← parameters.sequenceRepeat
  if getSlotNumber fedId ≠ 0 ∧ (mode = "PATTERN" ∨ mode = "CYCLE") ∧ (0 ≤ bits ∧ bits ≤ 15) ∧
      1 ≤ cycles then
    some ⟨getCrateNumber fedId, getSlotNumber fedId, bits,
      if mode = "CYCLE" then 16 * cycles.toNat else 1⟩
  else none

def Test.shot (test : Test) (k : Nat) : Entry :=
  .setTTS test.crate test.slot ((test.bits + k) % 16)

def Parameters.outcome (parameters : Parameters) : List Entry :=
  match parameters.test with
  | some test => (List.range test.shots).map test.shot ++ [.returned]
  | none => [.failed]

def ideal (parameters : Parameters) : List Entry := .accepted parameters :: parameters.outcome

def Entry.command : Entry → Option Parameters
  | .accepted parameters => some parameters
  | _ => none

def commands (log : List Entry) : List Parameters := log.filterMap Entry.command

def whole (past : List Parameters) : List Entry := past.flatMap ideal

structure Right (handler : Handler) : Prop where
  begun : handler.log <+: whole (commands handler.log)
  complete : handler.state ≠ .testingTTS ∨
    handler.action = none ∧ handler.ttsSetter.repeat_ ≤ 0 ∧ handler.fired = [] →
    handler.log = whole (commands handler.log)

/-- A command that lacks a parameter, or one whose countdown gets to the number of its shots. -/
def Parameters.Counted (parameters : Parameters) : Prop :=
  (parameters.fedId = none ∨ parameters.mode = none ∨ parameters.pattern = none ∨
    parameters.sequenceRepeat = none) ∨
  parameters.test.isSome = true ∧
    if parameters.mode = some "CYCLE" then parameters.sequenceRepeat.getD 0 < 2 ^ 27
    else (2 ^ 28 : Int) ∣ parameters.sequenceRepeat.getD 0

instance (parameters : Parameters) : Decidable parameters.Counted :=
  inferInstanceAs (Decidable ((_ ∨ _ ∨ _ ∨ _) ∨ _ ∧ ite _ _ _))

def Fits (handler : Handler) : Turn → Prop
  | .testTTS parameters => parameters.Counted ∧ handler.fired = []
  | .leaveIntermediateState => handler.ttsSetter.repeat_ ≤ 0
  | _ => True

instance (handler : Handler) : ∀ turn, Decidable (Fits handler turn)
  | .testTTS _ => inferInstanceAs (Decidable (_ ∧ _))
  | .leaveIntermediateState => inferInstanceAs (Decidable (_ ≤ _))
  | .testingTTSAction | .run | .handle => .isTrue trivial

inductive Follows : Handler → Prop where
  | resting {past action setter fired} (spent : setter.repeat_ = 0)
    (begun : ∀ parameters, action ≠ some (.begun parameters))
    (spare : ∀ input ∈ fired, input = .setTTSTestMode) :
    Follows ⟨.ttsTestMode, action, setter, fired, whole past⟩
  | begun {past setter parameters} (spent : setter.repeat_ = 0) (counted : parameters.Counted) :
    Follows ⟨.testingTTS, some (.begun parameters), setter, [],
      whole past ++ [.accepted parameters]⟩
  | counting {past parameters test} {k : Nat} (asked : parameters.test = some test)
    (more : k < test.shots) : Follows ⟨.testingTTS, some .ending,
      ⟨test.crate, test.slot, (test.bits + k) % 16, (test.shots - k : Nat)⟩, [],
      whole past ++ .accepted parameters :: (List.range k).map test.shot⟩
  | counted {past parameters test action setter fired} (asked : parameters.test = some test)
    (spent : setter.repeat_ = 0) (begun : ∀ parameters, action ≠ some (.begun parameters))
    (spare : ∀ input ∈ fired, input = .setTTSTestMode) :
    Follows ⟨.testingTTS, action, setter, .setTTSTestMode :: fired,
      whole past ++ .accepted parameters :: (List.range test.shots).map test.shot⟩
  | failing {past parameters setter} (spent : setter.repeat_ = 0) (asked : parameters.test = none) :
    Follows ⟨.testingTTS, none, setter, [.setError], whole past ++ [.accepted parameters]⟩
  | failed {past setter} (spent : setter.repeat_ = 0) :
    Follows ⟨.error, none, setter, [], whole past⟩

lemma whole_snoc (past parameters) :
    whole (past ++ [parameters]) = whole past ++ ideal parameters := by
  rw [whole, List.flatMap_append, List.flatMap_singleton]
  rfl

@[simp] lemma commands_accepted (parameters) (rest) :
    commands (.accepted parameters :: rest) = parameters :: commands rest := rfl

@[simp] lemma commands_append (first second) :
    commands (first ++ second) = commands first ++ commands second := List.filterMap_append

lemma commands_outcome (parameters : Parameters) : commands parameters.outcome = [] := by
  unfold Parameters.outcome
  split <;> simp [commands, Entry.command, Test.shot]

lemma commands_whole (past) : commands (whole past) = past := by
  induction past with
  | nil => rfl
  | cons parameters rest ih =>
    rw [whole, List.flatMap_cons, commands_append, ideal, commands_accepted, commands_outcome]
    exact congrArg (parameters :: ·) ih

lemma commands_unfinished (past) {parameters entries rest}
    (split : parameters.outcome = entries ++ rest) :
    commands (whole past ++ .accepted parameters :: entries) = past ++ [parameters] := by
  have both := commands_outcome parameters
  rw [split, commands_append] at both
  rw [commands_append, commands_whole, commands_accepted, (List.append_eq_nil_iff.1 both).1]

lemma unfinished_right {past parameters entries rest action setter fired}
    (split : parameters.outcome = entries ++ rest)
    (left : ¬(action = none ∧ setter.repeat_ ≤ 0 ∧ fired = [])) :
    Right ⟨.testingTTS, action, setter, fired, whole past ++ .accepted parameters :: entries⟩ := by
  refine ⟨?_, fun away => absurd (away.resolve_left fun other => other rfl) left⟩
  dsimp only
  rw [commands_unfinished past split, whole_snoc, ideal, split]
  exact ⟨rest, by simp⟩

lemma outcome_shots {parameters : Parameters} {test} (asked : parameters.test = some test) {k}
    (less : k ≤ test.shots) :
    ∃ rest, parameters.outcome = (List.range k).map test.shot ++ rest := by
  obtain ⟨more, shots⟩ := Nat.exists_eq_add_of_le less
  unfold Parameters.outcome
  rw [asked]
  dsimp only
  rw [shots, List.range_add, List.map_append, List.append_assoc]
  exact ⟨_, rfl⟩

lemma outcome_failed {parameters : Parameters} (asked : parameters.test = none) :
    parameters.outcome = [.failed] := by
  unfold Parameters.outcome
  rw [asked]

lemma Follows.right {handler} (follows : Follows handler) : Right handler := by
  cases follows with
  | resting | failed => constructor <;> simp [commands_whole]
  | begun => exact unfinished_right rfl (by simp)
  | counting asked more =>
    obtain ⟨_, split⟩ := outcome_shots asked (Nat.le_of_lt more)
    exact unfinished_right split (by simp)
  | counted asked =>
    obtain ⟨_, split⟩ := outcome_shots asked (Nat.le_refl _)
    exact unfinished_right split (by simp)
  | failing => exact unfinished_right rfl (by simp)

lemma int_eq {value} (low : 0 ≤ value) (high : value < 2 ^ 31) : int value = value :=
  Int.bmod_eq_of_le (by omega) (by omega)

lemma Parameters.test_some {parameters : Parameters} {test}
    (asked : parameters.test = some test) : ∃ fedId mode pattern bits cycles,
      parameters = ⟨some fedId, some mode, some pattern, some cycles⟩ ∧
      parseInt pattern = some bits ∧ (mode = "PATTERN" ∨ mode = "CYCLE") ∧
      (0 ≤ bits ∧ bits ≤ 15) ∧ 1 ≤ cycles ∧
      test = ⟨getCrateNumber fedId, getSlotNumber fedId, bits,
        if mode = "CYCLE" then 16 * cycles.toNat else 1⟩ := by
  obtain ⟨fedId, mode, pattern, cycles⟩ := parameters
  simp only [Parameters.test, Option.bind_eq_bind, Option.bind_eq_some_iff,
    Option.ite_none_right_eq_some, Option.some.injEq] at asked
  obtain ⟨fed, rfl, kind, rfl, bits, ⟨text, rfl, parsed⟩, count, rfl, ⟨_, mode, small, positive⟩,
    rfl⟩ := asked
  exact ⟨fed, kind, text, bits, count, rfl, parsed, mode, small, positive, rfl⟩

lemma config_counted {crate slot bits cycles mode} (positive : 1 ≤ cycles)
    (fits : if mode = "CYCLE" then cycles < 2 ^ 27 else (2 ^ 28 : Int) ∣ cycles) :
    config crate slot bits cycles =
      ⟨crate, slot, bits, ((if mode = "CYCLE" then 16 * cycles.toNat else 1 : Nat) : Int)⟩ := by
  unfold config
  by_cases cycle : mode = "CYCLE"
  · rw [if_pos cycle] at fits ⊢
    rw [int_eq (by omega) (by omega), if_neg (by omega)]
    congr 1
    omega
  · rw [if_neg cycle] at fits ⊢
    obtain ⟨times, rfl⟩ := fits
    have wraps : int (2 ^ 28 * times * 16) = 0 :=
      Int.bmod_eq_zero_of_dvd ⟨times, by omega⟩
    rw [wraps]
    rfl

lemma Parameters.Counted.config {parameters} (counted : parameters.Counted) {test}
    (asked : parameters.test = some test) : 0 < test.shots ∧
    (0 ≤ test.bits ∧ test.bits ≤ 15) ∧ parameters.missing = false ∧
    configured parameters = some ⟨test.crate, test.slot, test.bits, test.shots⟩ := by
  obtain ⟨fed, mode, text, bits, cycles, rfl, parsed, kind, small, positive, rfl⟩ :=
    Parameters.test_some asked
  have fits := counted.resolve_left (by simp) |>.2
  have stated : text ≠ "" ∧ text ≠ "PATTERN" := by
    constructor <;> rintro rfl <;> cases parsed
  refine ⟨?_, small, ?_, ?_⟩
  · dsimp only
    split <;> omega
  · rcases kind with rfl | rfl <;> simp [Parameters.missing, stated.1]
  · simp only [configured, Option.bind_eq_bind, Option.bind_some, parsed, if_neg stated.2]
    rw [config_counted positive (by simpa using fits)]
    rfl

lemma Parameters.Counted.failing {parameters} (counted : parameters.Counted)
    (asked : parameters.test = none) :
    parameters.missing = true ∧ configured parameters = none := by
  obtain ⟨fedId, mode, pattern, cycles⟩ := parameters
  have lacks := counted.resolve_right fun both => by simp [asked] at both
  rcases lacks with lacks | lacks | lacks | lacks <;> dsimp only at lacks <;> subst lacks
  · exact ⟨rfl, rfl⟩
  · cases fedId <;> exact ⟨rfl, rfl⟩
  · cases fedId <;> cases mode <;> simp [Parameters.missing, configured]
  · cases fedId <;> cases mode <;> cases pattern <;> simp [Parameters.missing, configured]

lemma next_bits {bits} (small : 0 ≤ bits ∧ bits ≤ 15) :
    (int (bits + 1)).tmod 16 = (bits + 1) % 16 := by
  rw [int_eq (by omega) (by omega), Int.tmod_eq_emod_of_nonneg (by omega)]

lemma run_over {handler : Handler} (spent : handler.ttsSetter.repeat_ = 0) :
    handler.run = handler := by
  unfold Handler.run
  exact if_neg (by omega)

lemma Follows.run {handler} (follows : Follows handler) : Follows handler.run := by
  cases follows with
  | @counting past parameters test k asked more =>
    have next : (int ((test.bits + k) % 16 + 1)).tmod 16 = (test.bits + (k + 1 : Nat)) % 16 := by
      rw [next_bits (by omega)]
      omega
    have shot : (List.range k).map test.shot ++ [test.shot k] =
        (List.range (k + 1)).map test.shot := by
      rw [List.range_succ, List.map_append, List.map_singleton]
    unfold Handler.run
    dsimp only
    rw [if_pos (by omega), next, List.append_assoc, List.cons_append]
    by_cases last : k + 1 = test.shots
    · rw [if_pos (by omega)]
      have all := last ▸ shot
      refine all ▸ .counted asked ?_ (by simp) (by simp)
      dsimp only
      omega
    · rw [if_neg (by omega)]
      have left : ((test.shots - k : Nat) : Int) - 1 = (test.shots - (k + 1) : Nat) := by omega
      rw [left]
      exact shot ▸ .counting asked (by omega)
  | resting spent begun spare =>
    rw [run_over (by exact spent)]
    exact .resting spent begun spare
  | begun spent counted =>
    rw [run_over (by exact spent)]
    exact .begun spent counted
  | counted asked spent begun spare =>
    rw [run_over (by exact spent)]
    exact .counted asked spent begun spare
  | failing spent asked =>
    rw [run_over (by exact spent)]
    exact .failing spent asked
  | failed spent =>
    rw [run_over (by exact spent)]
    exact .failed spent

lemma Follows.testTTS {handler} (follows : Follows handler) {parameters}
    (counted : parameters.Counted) (waiting : handler.fired = []) :
    Follows (handler.testTTS parameters) := by
  unfold Handler.testTTS
  split
  · rename_i free
    cases follows with
    | resting spent begun spare =>
      dsimp only at waiting
      subst waiting
      exact .begun spent counted
    | begun | counting | counted | failing | failed => cases free.2
  · exact follows

lemma Follows.testingTTSAction {handler} (follows : Follows handler) :
    Follows handler.testingTTSAction := by
  unfold Handler.testingTTSAction
  cases follows with
  | @begun past setter parameters spent counted =>
    cases asked : parameters.test with
    | some test =>
      obtain ⟨some_, small, given, config⟩ := counted.config asked
      have first : (test.bits + (0 : Nat)) % 16 = test.bits := by omega
      have counting := @Follows.counting past _ _ _ asked some_
      dsimp only
      rw [given, config]
      rw [first] at counting
      exact counting
    | none =>
      obtain ⟨missing, left⟩ := counted.failing asked
      dsimp only
      rw [missing, left]
      exact .failing spent asked
  | @resting past action setter fired spent begun spare =>
    split
    · exact absurd ‹_› (begun _)
    · exact .resting spent begun spare
  | @counted past parameters test action setter fired asked spent begun spare =>
    split
    · exact absurd ‹_› (begun _)
    · exact .counted asked spent begun spare
  | counting asked more => exact .counting asked more
  | failing spent asked => exact .failing spent asked
  | failed spent => exact .failed spent

lemma Follows.leaveIntermediateState {handler} (follows : Follows handler)
    (spent : handler.ttsSetter.repeat_ ≤ 0) : Follows handler.leaveIntermediateState := by
  unfold Handler.leaveIntermediateState
  split
  · rename_i ending
    cases follows with
    | resting over_ begun spare =>
      exact .resting over_ (by simp) (by simpa [or_imp, forall_and] using spare)
    | counted asked over_ begun spare =>
      exact .counted asked over_ (by simp) (by simpa [or_imp, forall_and] using spare)
    | counting asked more =>
      dsimp only at spent
      omega
    | begun | failing | failed => cases ending
  · exact follows

lemma Follows.handle {handler} (follows : Follows handler) : Follows handler.handle := by
  cases follows with
  | @resting past action setter fired spent begun spare =>
    cases fired with
    | nil => exact .resting spent begun spare
    | cons input rest =>
      obtain ⟨rfl, others⟩ := List.forall_mem_cons.1 spare
      exact .resting spent begun others
  | @counted past parameters test action setter fired asked spent begun spare =>
    have returned : whole past ++ .accepted parameters :: (List.range test.shots).map test.shot ++
        [.returned] = whole (past ++ [parameters]) := by
      rw [whole_snoc, ideal, Parameters.outcome, asked]
      simp
    have next := @Follows.resting (past ++ [parameters]) action setter fired spent begun spare
    rw [← returned] at next
    exact next
  | @failing past parameters setter spent asked =>
    have failed : whole past ++ [.accepted parameters] ++ [.failed] =
        whole (past ++ [parameters]) := by
      rw [whole_snoc, ideal, outcome_failed asked]
      simp
    have next := @Follows.failed (past ++ [parameters]) setter spent
    rw [← failed] at next
    exact next
  | begun spent counted => exact .begun spent counted
  | counting asked more => exact .counting asked more
  | failed spent => exact .failed spent

lemma Follows.step {handler} (follows : Follows handler) {turn} (fits : Fits handler turn) :
    Follows (handler.step turn) := by
  cases turn with
  | testTTS => exact follows.testTTS fits.1 fits.2
  | testingTTSAction => exact follows.testingTTSAction
  | leaveIntermediateState => exact follows.leaveIntermediateState fits
  | run => exact follows.run
  | handle => exact follows.handle

def cycle : Parameters := ⟨some 841, some "CYCLE", some "3", some 1⟩

def shots : List Turn := List.replicate 16 .run

end EmuLib.LevelOne.TtsTests
