import Mathlib.Data.List.Basic

/-!
The function manager of level one: its state machine, and the actions that the states of the
supervisors' applications and its own states set off.
-/

namespace EmuLib.LevelOne

inductive State where
  | initial | initializing | halted | halting | configuring | configured | starting | running
  | stopping | pausing | paused | resuming | recovering | resetting | error
  | preparingTTSTestMode | ttsTestMode | testingTTS
  deriving DecidableEq

inductive Input where
  | initializeAll | configure | start | stop | pause | resume | halt | recover | reset
  | ttsTestMode | testTTS
  | setConfigure | setStart | setPause | setResume | setHalt | setInitial | setTTSTestMode
  | setError
  deriving DecidableEq

def State.name : State → String
  | .initial => "Initial"
  | .initializing => "Initializing"
  | .halted => "Halted"
  | .halting => "Halting"
  | .configuring => "Configuring"
  | .configured => "Configured"
  | .starting => "Starting"
  | .running => "Running"
  | .stopping => "Stopping"
  | .pausing => "Pausing"
  | .paused => "Paused"
  | .resuming => "Resuming"
  | .recovering => "Recovering"
  | .resetting => "Resetting"
  | .error => "Error"
  | .preparingTTSTestMode => "PreparingTTSTestMode"
  | .ttsTestMode => "TTSTestMode"
  | .testingTTS => "TestingTTS"

def Input.isCommand : Input → Bool
  | .initializeAll | .configure | .start | .stop | .pause | .resume | .halt | .recover | .reset => true
  | .ttsTestMode | .testTTS => true
  | _ => false

def transition : Input → State → Option State
  | .initializeAll, .initial => some .initializing
  | .ttsTestMode, .halted => some .preparingTTSTestMode
  | .setTTSTestMode, .preparingTTSTestMode => some .ttsTestMode
  | .setTTSTestMode, .testingTTS => some .ttsTestMode
  | .testTTS, .ttsTestMode => some .testingTTS
  | .configure, .halted => some .configuring
  | .start, .configured => some .starting
  | .pause, .running => some .pausing
  | .resume, .paused => some .resuming
  | .stop, .running => some .stopping
  | .stop, .paused => some .stopping
  | .halt, .running => some .halting
  | .halt, .configured => some .halting
  | .halt, .paused => some .halting
  | .halt, .ttsTestMode => some .halting
  | .recover, .error => some .recovering
  | .reset, .halted => some .resetting
  | .reset, .configured => some .resetting
  | .reset, .running => some .resetting
  | .reset, .paused => some .resetting
  | .reset, .ttsTestMode => some .resetting
  | .reset, .error => some .resetting
  | .setError, _ => some .error
  | .setInitial, .recovering => some .initial
  | .setHalt, .initializing => some .halted
  | .setHalt, .halting => some .halted
  | .setHalt, .recovering => some .halted
  | .setHalt, .resetting => some .halted
  | .setConfigure, .initializing => some .configured
  | .setConfigure, .recovering => some .configured
  | .setConfigure, .configuring => some .configured
  | .setConfigure, .stopping => some .configured
  | .setStart, .initializing => some .running
  | .setStart, .recovering => some .running
  | .setStart, .starting => some .running
  | .setPause, .pausing => some .paused
  | .setPause, .recovering => some .paused
  | .setResume, .resuming => some .running
  | _, _ => none

inductive Effect where
  | fire (input : Input)
  | execute (command : Input)
  | send (parameter : String)
  deriving DecidableEq

/-- How an action fares. It is `prepared` unless an exception leaves it before its commands. The
parameters that are given are those of the input that came last. -/
structure Attempt where
  parametersGiven : Bool
  defaultAdded : Bool
  prepared : Bool
  parameterSent : Bool
  executed : Bool
  deriving DecidableEq

def orError (fine : Bool) : List Effect := if fine then [] else [.fire .setError]

def sendOrError (parameter : String) (sent : Bool) : List Effect :=
  if sent then [.send parameter] else [.fire .setError]

def executeOrError (command : Input) (executed : Bool) : List Effect :=
  .execute command :: orError executed

def initAction (attempt : Attempt) : List Effect :=
  orError attempt.executed ++ if attempt.prepared then [.fire .setHalt] else []

def resetAction (attempt : Attempt) : List Effect :=
  if attempt.prepared then [.fire .setHalt] else []

def recoverAction : List Effect := [.fire .setInitial]

def configureAction (applications : Nat) (attempt : Attempt) : List Effect :=
  if applications = 0 then [.fire .setConfigure]
  else
    orError (attempt.parametersGiven || attempt.defaultAdded) ++
      if attempt.prepared then
        sendOrError "RunType" attempt.parameterSent ++ executeOrError .configure attempt.executed
      else []

def startAction (applications : Nat) (attempt : Attempt) : List Effect :=
  if applications = 0 then [.fire .setStart]
  else if attempt.prepared then
    orError attempt.parametersGiven ++ sendOrError "RunNumber" attempt.parameterSent ++
      executeOrError .start attempt.executed
  else []

def pauseAction : List Effect := [.fire .setPause]

def stopAction (applications : Nat) (attempt : Attempt) : List Effect :=
  if applications = 0 then [.fire .setConfigure]
  else if attempt.prepared then executeOrError .stop attempt.executed
  else []

def resumeAction : List Effect := [.fire .setResume]

def haltAction (applications : Nat) (attempt : Attempt) : List Effect :=
  if applications = 0 then [.fire .setHalt] else executeOrError .halt attempt.executed

def preparingTTSTestModeAction (applications : Nat) (attempt : Attempt) : List Effect :=
  if applications = 0 then [.fire .setTTSTestMode]
  else sendOrError "RunType" attempt.parameterSent ++ executeOrError .configure attempt.executed

def testingTTSAction (attempt : Attempt) : List Effect :=
  orError attempt.parametersGiven ++ if attempt.prepared then [.fire .setTTSTestMode] else []

def entered (state : State) (applications : Nat) (attempt : Attempt) : List Effect :=
  match state with
  | .initializing => initAction attempt
  | .configuring => configureAction applications attempt
  | .halting => haltAction applications attempt
  | .preparingTTSTestMode => preparingTTSTestModeAction applications attempt
  | .testingTTS => testingTTSAction attempt
  | .pausing => pauseAction
  | .recovering => recoverAction
  | .resetting => resetAction attempt
  | .resuming => resumeAction
  | .starting => startAction applications attempt
  | .stopping => stopAction applications attempt
  | _ => []

def leave (target : State) (completing : Input) : List String → List Effect
  | [] => [.fire completing]
  | cached :: rest =>
    if cached = State.error.name then .fire .setError :: leave target completing rest
    else if cached ≠ target.name then []
    else leave target completing rest

def preparingTTSNotification (toState : String) (attempt : Attempt) : List Effect :=
  if toState = State.configured.name then executeOrError .start attempt.executed
  else if toState = State.running.name then [.fire .setTTSTestMode]
  else [.fire .setError]

def notified (state : State) (applications : List String) (toState : String) (attempt : Attempt) :
    List Effect :=
  match state with
  | .configuring => leave .configured .setConfigure applications
  | .starting => leave .running .setStart applications
  | .stopping => leave .configured .setConfigure applications
  | .halting => leave .halted .setHalt applications
  | .preparingTTSTestMode => preparingTTSNotification toState attempt
  | _ => []

structure Activation where
  state : State
  report : Option String
  applications : List String
  attempt : Attempt
  effects : List Effect
  deriving DecidableEq

inductive Entry where
  | moved (input : Input) (source target : State)
  | handled (activation : Activation)
  deriving DecidableEq

structure Manager where
  state : State
  applications : List String
  pending : List Input
  log : List Entry
  deriving DecidableEq

/-- `cached` is a change of the state of an application in the cache alone, and `event` the turn of
an event that has been fired. -/
inductive Step where
  | command (input : Input) (attempt : Attempt)
  | cached (application : Nat) (state : String)
  | notification (application : Nat) (toState : String) (attempt : Attempt)
  | event (attempt : Attempt)

namespace Manager

def created (applications : List String) : Manager := ⟨.initial, applications, [], []⟩

def firedBy (effects : List Effect) : List Input :=
  effects.filterMap fun effect => match effect with
    | .fire input => some input
    | _ => none

def handle (manager : Manager) (report : Option String) (attempt : Attempt)
    (effects : List Effect) : Manager :=
  { manager with
    pending := manager.pending ++ firedBy effects
    log := manager.log ++
      [.handled ⟨manager.state, report, manager.applications, attempt, effects⟩] }

def accept (manager : Manager) (input : Input) (attempt : Attempt) : Manager :=
  match transition input manager.state with
  | none => manager
  | some target =>
    let inside := { manager with
      state := target
      log := manager.log ++ [Entry.moved input manager.state target] }
    inside.handle none attempt (entered target manager.applications.length attempt)

def step (manager : Manager) : Step → Manager
  | .command input attempt => if input.isCommand then manager.accept input attempt else manager
  | .cached application state =>
    { manager with applications := manager.applications.set application state }
  | .notification application toState attempt =>
    let told := { manager with applications := manager.applications.set application toState }
    told.handle (some toState) attempt (notified told.state told.applications toState attempt)
  | .event attempt =>
    match manager.pending with
    | [] => manager
    | input :: rest => { manager with pending := rest }.accept input attempt

def run (applications : List String) (steps : List Step) : Manager :=
  steps.foldl step (created applications)

end Manager

end EmuLib.LevelOne
