import EmuLib.Lib.Operations
import EmuLib.Lib.TakeGive

/-!
What the STEP manager does to its semaphore `bsem_`. A path through a function is given by how the
calls on it end; the state of an operation is what has been done to the semaphore.
-/

namespace EmuLib.Step

open Operations TakeGive

/-- What a call throws: an exception of xcept, another one of the standard library, or anything. -/
inductive Thrown
  | xcept
  | std
  | unknown
deriving DecidableEq

inductive FsmState
  | halted
  | configured
  | enabled
  | failed
deriving DecidableEq

abbrev Section (Value : Type) := Operation (List Op) Thrown Value

abbrev Outcome := Option Thrown

def take : Section Unit := modify (· ++ [.take])

def give : Section Unit := modify (· ++ [.give])

def undefined : Section Unit := modify (· ++ [.undefined])

def call : Outcome → Section Unit
  | none => pure ()
  | some thrown => throw thrown

def Section.ops {Value : Type} (body : Section Value) : List Op := after body []

structure FailPath where
  state : FsmState
  testerHalt : Outcome
  daqHalt : Outcome

def caught (outcome : Outcome) : Section Unit :=
  tryCatch (call outcome) fun
    | .xcept => pure ()
    | other => throw other

def failAction (path : FailPath) : Section Unit := do
  caught path.testerHalt
  caught path.daqHalt

def fireFail (path : FailPath) : Section Unit :=
  if path.state = .failed then throw .xcept else failAction path

def moveToFailedState (path : FailPath) : Section Unit := do
  take
  tryCatch (fireFail path) fun
    | .xcept => pure ()
    | other => throw other
  give

structure PagePath where
  configured : Bool
  createConfiguration : Outcome
  createXMLWebPage : Outcome

def createIfNone (configured : Bool) (createConfiguration : Outcome) : Section Unit :=
  if configured then pure () else call createConfiguration

def defaultWebPage (path : PagePath) : Section Unit := do
  take
  tryCatch
    (do
      createIfNone path.configured path.createConfiguration
      call path.createXMLWebPage)
    fun _ => do
      give
      throw .xcept
  give

/-- The entries of the form, in their order; `fires` is how the state machine ends when it is given
the event that is asked for, `errorPage` how the page ends that is made after a failure. -/
structure ControlPath where
  form : List (String × String)
  state : FsmState
  configured : Bool
  createConfiguration : Outcome
  modificationTime : String
  setSelection : Outcome
  fires : Outcome
  fail : FailPath
  errorPage : Outcome

namespace ControlPath

variable (path : ControlPath)

def selected (name : String) : List String :=
  (path.form.filter fun entry => entry.1 = name).map Prod.snd

def receivedModTime : String := (path.selected "modificationTime").headD ""

def action : List String :=
  if path.configured = false ∧ path.createConfiguration ≠ none then [] else path.selected "fsm"

def configure : Section Unit :=
  if path.state = .halted then
    if path.modificationTime = path.receivedModTime then do
      call path.setSelection
      call path.fires
    else throw .xcept
  else pure ()

def fireIn (states : List FsmState) : Section Unit :=
  if path.state ∈ states then call path.fires else pure ()

def drive : Section Unit :=
  match path.action with
  | [command] =>
    if command = "Configure" then path.configure
    else if command = "Enable" then path.fireIn [.configured]
    else if command = "Halt" then path.fireIn [.configured, .enabled]
    else if command = "Stop" then path.fireIn [.enabled]
    else if command = "Reset" then path.fireIn [.failed]
    else pure ()
  | _ => pure ()

/-- The name of the command is read from the first of the commands, whether there is one or not. -/
def readCommand : Section Unit := if path.action = [] then undefined else pure ()

end ControlPath

def controlWebPage (path : ControlPath) : Section Unit := do
  take
  tryCatch
    (do
      createIfNone path.configured path.createConfiguration
      path.drive)
    fun
      | .xcept => do
        path.readCommand
        give
        moveToFailedState path.fail
        call path.errorPage
      | other => throw other
  give

structure CompletenessPath where
  firstTester : Except Thrown Nat
  testers : List (Except Thrown Nat)
  runSummary : Except Thrown (List (Nat × Nat))
  ruisToReadData : List Nat
  testId : String

def reply {Value : Type} : Except Thrown Value → Section Value
  | .ok value => pure value
  | .error thrown => throw thrown

def getNEvents : List (Except Thrown Nat) → List Nat → Section (List Nat)
  | [], testsNEvents => pure testsNEvents
  | tester :: rest, testsNEvents => do
    let nEvents ← reply tester
    getNEvents rest (if nEvents ∈ testsNEvents then testsNEvents else testsNEvents ++ [nEvents])

def ruiText (nEvents : Nat) (ruisToReadData : List Nat) (rui : Nat × Nat) : String :=
  if ruisToReadData = [] ∨ rui.1 ∈ ruisToReadData then
    if nEvents ≠ 0 ∧ nEvents ≠ rui.2 then
      "RUI " ++ toString rui.1 ++ " read " ++ toString rui.2 ++ " of " ++ toString nEvents ++
        " events. \n"
    else ""
  else ""

def checkCounts (path : CompletenessPath) (first : Nat) (testsNEvents : List Nat) :
    Section String :=
  if 1 < testsNEvents.length then
    pure ("Groups have different total number events to take for test " ++ path.testId ++
      ". Cannot indicate whether DAQ has read the required number of events.")
  else do
    let ruis ← reply path.runSummary
    pure (String.join (ruis.map (ruiText first path.ruisToReadData)))

def checkDataCompleteness (path : CompletenessPath) : Section String :=
  tryCatch
    (do
      let first ← reply path.firstTester
      let testsNEvents ← getNEvents path.testers [first]
      checkCounts path first testsNEvents)
    fun _ => do
      give
      pure ""

/-- How each of the three attempts to get the data file names ends, how many chamber maps each of
the testers replies with, and how the shell command ends. -/
structure AnalysisPath where
  attempts : Outcome × Outcome × Outcome
  chamberMaps : List (Except Thrown Nat)
  execShellCommand : Outcome

def attempt (outcome : Outcome) (next : Section Unit) : Section Unit :=
  tryCatch (call outcome) fun _ => next

def updateDataFileNames (path : AnalysisPath) : Section Unit :=
  attempt path.attempts.1 (attempt path.attempts.2.1 (attempt path.attempts.2.2 (throw .xcept)))

def getChamberMaps : List (Except Thrown Nat) → Section Unit
  | [] => pure ()
  | tester :: rest => do
    let maps ← reply tester
    if maps = 0 then pure () else getChamberMaps rest

def updateChamberMaps (path : AnalysisPath) : Section Unit :=
  tryCatch (getChamberMaps path.chamberMaps) fun _ => throw .xcept

def giveAndRethrow : Thrown → Section Unit
  | .xcept => do
    give
    throw .xcept
  | other => throw other

def runAnalysis (path : AnalysisPath) : Section Unit := do
  tryCatch
    (do
      take
      updateDataFileNames path
      updateChamberMaps path
      give)
    giveAndRethrow
  call path.execShellCommand

def testDuration : Section Unit := do
  take
  give

inductive Activity
  | defaultWebPage (path : PagePath)
  | controlWebPage (path : ControlPath)
  | checkDataCompleteness (path : CompletenessPath)
  | runAnalysis (path : AnalysisPath)
  | moveToFailedState (path : FailPath)
  | testDuration

def Activity.ops : Activity → List Op
  | .defaultWebPage path => (Step.defaultWebPage path).ops
  | .controlWebPage path => (Step.controlWebPage path).ops
  | .checkDataCompleteness path => (Step.checkDataCompleteness path).ops
  | .runAnalysis path => (Step.runAnalysis path).ops
  | .moveToFailedState path => (Step.moveToFailedState path).ops
  | .testDuration => Step.testDuration.ops

end EmuLib.Step
