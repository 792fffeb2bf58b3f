import Mathlib.Data.List.Basic

/-!
The manager of the DAQ with its watchdog: the transitions of the manager, the calls of the
watchdog's timer, and the applications, with crashes and restarts, between any two exchanges.
-/

namespace EmuLib.DaqManager

open Function

inductive Command where
  | setParameters | generateRunStopTime | configure | enable | halt
  deriving DecidableEq

inductive AppState where
  | halted | ready | enabled | suspended | failed
  deriving DecidableEq

def AppState.name : AppState → String
  | .halted => "Halted"
  | .ready => "Ready"
  | .enabled => "Enabled"
  | .suspended => "Suspended"
  | .failed => "Failed"

def AppState.obey : Command → AppState → Option AppState
  | .setParameters, state => some state
  | .generateRunStopTime, state => some state
  | .configure, .halted => some .ready
  | .configure, .ready => some .ready
  | .enable, .ready => some .enabled
  | .enable, .enabled => some .enabled
  | .halt, .halted => some .halted
  | .halt, .ready => some .halted
  | .halt, .enabled => some .halted
  | .halt, .suspended => some .halted
  | _, _ => none

inductive ManagerState where
  | halted | configured | enabled | failed
  deriving DecidableEq

inductive Transition where
  | configure | enable | halt
  deriving DecidableEq

def Transition.from? : Transition → ManagerState → Option ManagerState
  | .configure, .halted => some .configured
  | .enable, .configured => some .enabled
  | .halt, .configured => some .halted
  | .halt, .enabled => some .halted
  | _, _ => none

structure Daq where
  ta : List Nat
  ruis : List Nat
  apps : List Nat
  some_ta : ta ≠ []
  known : ∀ app ∈ ta ++ ruis, app ∈ apps
  distinct : apps.Nodup

/-- An exchange; where one that is `tolerant` fails, those behind it up to the first that is not are
still made. -/
structure Exchange where
  app : Nat
  command : Command
  tolerant : Bool
  deriving DecidableEq

namespace Daq

def configureTA (daq : Daq) : List (Nat × Command) :=
  daq.ta.head?.toList.flatMap fun ta => [(ta, .setParameters), (ta, .configure)]

def configureRUI (rui : Nat) : List (Nat × Command) := [(rui, .setParameters), (rui, .configure)]

def enableTA (daq : Daq) : List (Nat × Command) :=
  daq.ta.head?.toList.map fun ta => (ta, .enable)

def strict (exchanges : List (Nat × Command)) : List Exchange :=
  exchanges.map fun (app, command) => ⟨app, command, false⟩

def configureDAQ (daq : Daq) : List Exchange :=
  strict (daq.configureTA ++ daq.ruis.flatMap configureRUI)

def startDAQ (daq : Daq) : List Exchange :=
  strict (daq.ta.head?.toList.map (fun ta => (ta, .setParameters)) ++ daq.enableTA ++
    daq.ruis.map fun rui => (rui, .enable))

def stopFedBuilder (daq : Daq) : List Exchange := daq.ruis.map fun rui => ⟨rui, .halt, true⟩

def stopDAQ (daq : Daq) : List Exchange :=
  strict (daq.ta.head?.toList.map fun ta => (ta, .generateRunStopTime)) ++ daq.stopFedBuilder ++
    strict (daq.ta.head?.toList.map fun ta => (ta, .halt))

def exchanges (daq : Daq) : Transition → List Exchange
  | .configure => daq.configureDAQ
  | .enable => daq.startDAQ
  | .halt => daq.stopDAQ

end Daq

/-- A transition raises the flag, makes its exchanges, lowers the flag, and changes the state. -/
inductive Action where
  | begun (transition : Transition)
  | under (transition : Transition) (left : List Exchange) (failed : Bool)
  | ended (transition : Transition) (failed : Bool)
  deriving DecidableEq

/-- A call of the timer, with the state of the manager that it has read; `second` is the second
patrol. -/
inductive TimerCall where
  | idle
  | started
  | patrolling (read : ManagerState) (second : Bool) (left : List Nat)
  | sending (read : ManagerState) (second : Bool) (left : List (Nat × Command))
  deriving DecidableEq

inductive Entry where
  | reported (app : Nat) (state : String)
  | sent (app : Nat) (command : Command) (manager : ManagerState) (transition : Bool)
  deriving DecidableEq

/-- An application that is down has no state; `reached` are those that carried out the Halt of the
last transition. -/
structure State where
  manager : ManagerState
  inFSMTransition : Bool
  action : Option Action
  apps : Nat → Option AppState
  current : Nat → String
  previous : Nat → String
  call : TimerCall
  reached : List Nat
  log : List Entry

inductive Answer where
  | done | lost | none
  deriving DecidableEq

inductive Input where
  | fire (transition : Transition)
  | manage (answer : Answer)
  | timer (answer : Answer)
  | crash (app : Nat)
  | restart (app : Nat)
  deriving DecidableEq

namespace State

variable (daq : Daq)

def created (manager : ManagerState) (apps : Nat → Option AppState) : State where
  manager := manager
  inFSMTransition := false
  action := none
  apps := apps
  current := fun _ => ""
  previous := fun _ => ""
  call := .idle
  reached := []
  log := []

def carried (state : State) (app : Nat) (command : Command) (answer : Answer) : Option AppState :=
  if answer = .none then none else (state.apps app).bind (AppState.obey command)

def exchange (state : State) (app : Nat) (command : Command) (answer : Answer) : State :=
  match state.carried app command answer with
  | none => state
  | some next => { state with apps := update state.apps app (some next) }

def answered (state : State) (app : Nat) (command : Command) (answer : Answer) : Bool :=
  answer = .done && (state.carried app command answer).isSome

def isEmpty (states : Nat → String) : Bool := daq.apps.isEmpty || daq.apps.any (states · == "")

def getAppsInStates (state : State) (names : List String) : List Nat :=
  if isEmpty daq state.current || isEmpty daq state.previous then []
  else daq.apps.filter fun app => names.contains (state.previous app) && names.contains (state.current app)

def herd (state : State) (second : Bool) : List (Nat × Command) :=
  if second then
    let configured := state.getAppsInStates daq ["Configured", "Ready"]
    (daq.enableTA.filter fun (app, _) => configured.contains app) ++
      (daq.ruis.filter configured.contains).map fun rui => (rui, .enable)
  else
    let halted := state.getAppsInStates daq ["Halted"]
    (daq.configureTA.filter fun (app, _) => halted.contains app) ++
      (daq.ruis.filter halted.contains).flatMap Daq.configureRUI

def patrol (state : State) (read : ManagerState) (second : Bool) : State :=
  { state with
    previous := if isEmpty daq state.current then state.previous else state.current
    call := .patrolling read second daq.apps }

def next (state : State) (read : ManagerState) (second : Bool) : State :=
  if read = .enabled ∧ second = false then state.patrol daq read true
  else { state with call := .idle }

def timer (state : State) (answer : Answer) : State :=
  match state.call with
  | .idle => if state.inFSMTransition then state else { state with call := .started }
  | .started =>
    if state.manager = .configured ∨ state.manager = .enabled then
      state.patrol daq state.manager false
    else { state with call := .idle }
  | .patrolling read second (app :: left) =>
    let told := if answer = .done then ((state.apps app).map AppState.name).getD "UNKNOWN"
      else "UNKNOWN"
    { state with
      current := update state.current app told
      call := .patrolling read second left
      log := state.log ++ [.reported app told] }
  | .patrolling read second [] =>
    if state.herd daq second ≠ [] ∧ state.inFSMTransition = false then
      { state with call := .sending read second (state.herd daq second) }
    else state.next daq read second
  | .sending read second ((app, command) :: left) =>
    let sent := { state.exchange app command answer with
      log := state.log ++ [Entry.sent app command state.manager state.action.isSome] }
    if state.answered app command answer then { sent with call := .sending read second left }
    else { sent with call := .idle }
  | .sending read second [] => state.next daq read second

def manage (state : State) (answer : Answer) : State :=
  match state.action with
  | none => state
  | some (.begun transition) =>
    { state with
      inFSMTransition := true
      action := some (.under transition (daq.exchanges transition) false) }
  | some (.under transition (first :: left) failed) =>
    if failed = true ∧ first.tolerant = false then
      { state with inFSMTransition := false, action := some (.ended transition true) }
    else
      let made := { state.exchange first.app first.command answer with
        reached :=
          if first.command = Command.halt ∧ (state.carried first.app first.command answer).isSome then
            first.app :: state.reached
          else state.reached }
      if state.answered first.app first.command answer then
        { made with action := some (.under transition left failed) }
      else if first.tolerant then { made with action := some (.under transition left true) }
      else { made with inFSMTransition := false, action := some (.ended transition true) }
  | some (.under transition [] failed) =>
    { state with inFSMTransition := false, action := some (.ended transition failed) }
  | some (.ended transition failed) =>
    { state with
      manager := if failed then .failed else (transition.from? state.manager).getD state.manager
      action := none }

def step (state : State) : Input → State
  | .fire transition =>
    if state.action = none ∧ (transition.from? state.manager).isSome then
      { state with action := some (.begun transition), reached := [] }
    else state
  | .manage answer => state.manage daq answer
  | .timer answer => state.timer daq answer
  | .crash app => { state with apps := update state.apps app none }
  | .restart app => { state with apps := update state.apps app (some .halted) }

end State

end EmuLib.DaqManager
