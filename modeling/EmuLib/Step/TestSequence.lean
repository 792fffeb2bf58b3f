import EmuLib.Lib.GuardedRun

/-!
The test sequence of the STEP manager in its work loop, step by step with the actions of the
manager's state machine.
-/

namespace EmuLib.Step.TestSequence

open GuardedRun

inductive Target
  | tester (id : Nat)
  | daq
  | fed (id : Nat)
deriving DecidableEq

inductive Command
  | configure
  | enable
  | halt
deriving DecidableEq

inductive DaqState
  | halted
  | ready
  | enabled
  | failed
  | other
deriving DecidableEq

inductive FsmState
  | halted
  | configured
  | enabled
  | failed
deriving DecidableEq

inductive Action
  | halt
  | stop
  | fail
deriving DecidableEq

structure Setup where
  testers : List Nat
  group : Nat → String
  feds : List Nat

def lastOfGroups (group : Nat → String) : List Nat → List Nat
  | [] => []
  | tester :: rest =>
    if group tester ∈ rest.map group then lastOfGroups group rest
    else tester :: lastOfGroups group rest

def Setup.testerDescriptors (setup : Setup) : List Nat := lastOfGroups setup.group setup.testers

lemma Setup.testerDescriptors_eq {setup : Setup}
    (distinct : (setup.testers.map setup.group).Nodup) :
    setup.testerDescriptors = setup.testers := by
  have all : ∀ testers : List Nat, (testers.map setup.group).Nodup →
      lastOfGroups setup.group testers = testers := by
    intro testers
    induction testers with
    | nil => intro _; rfl
    | cons tester rest ih =>
      intro distinct
      obtain ⟨fresh, later⟩ := List.nodup_cons.1 distinct
      rw [lastOfGroups, if_neg fresh, ih later]
  exact all setup.testers distinct

inductive FedStep
  | exchange (fed : Nat)
  | files
  | send (fed : Nat) (command : Command)
deriving DecidableEq

inductive Instr
  | exchange (target : Target)
  | send (target : Target) (command : Command)
  | check
  | waitDaq (command : Command) (left : Nat)
  | askDaq (command : Command) (left : Nat)
  | waitConfigured
  | askConfigured (testers : List Nat) (allConfigured : Bool)
  | waitFinished (isTestDurationUndefined : Bool)
  | askFinished (isTestDurationUndefined : Bool) (asked : List Target) (allFinished : Bool)
  | startFed (attempt : Nat) (left : List FedStep)
  | dataFileNames (left : Nat)
  | completeness (left : Nat)
  | chamberMaps (testers : List Nat)
  | fail
  | failHalt (left : List Target)
  | toFailed
deriving DecidableEq

/-- How an exchange ends: with an exception, or with what is asked for. `confirms` stands for a
tester that is configured, is done or has failed, and for a STEP run that is done. -/
structure Reply where
  threw : Bool
  daqState : DaqState
  confirms : Bool

/-- `sent` is a command of the sequence itself; `acted` tells that an action of the manager has
sent all of its commands. -/
inductive Event
  | sent (test : Nat) (target : Target) (command : Command)
  | reported (test : Nat) (tester : Nat)
  | daqEnabled (test : Nat)
  | acted (action : Action)
deriving DecidableEq

section

variable (setup : Setup)

/-- The settings file of each crate is asked for and written; all crates are halted, set to the
mode, configured and enabled. -/
def fedSteps : List FedStep :=
  setup.feds.map .exchange ++ [.files] ++ setup.feds.map (.send · .halt) ++
    setup.feds.map .exchange ++ setup.feds.map (.send · .configure) ++
    setup.feds.map (.send · .enable)

def startFED : List Instr := if setup.feds = [] then [] else [.startFed 1 (fedSteps setup)]

def toTesters (command : Command) : List Instr :=
  setup.testers.map fun tester => .send (.tester tester) command

def inTesters : List Instr := setup.testers.map fun tester => .exchange (.tester tester)

def daqTimeOutInSeconds : Nat := 15

def testScript (isTestDurationUndefined : Bool) : List Instr :=
  startFED setup ++ inTesters setup ++
    [.check, .send .daq .halt, .waitDaq .halt daqTimeOutInSeconds, .exchange .daq,
      .send .daq .configure] ++
    toTesters setup .configure ++
    [.waitDaq .configure daqTimeOutInSeconds, .check, .waitConfigured] ++
    startFED setup ++
    [.send .daq .enable, .waitDaq .enable daqTimeOutInSeconds, .exchange .daq] ++
    inTesters setup ++ toTesters setup .enable ++
    [.waitFinished isTestDurationUndefined, .check] ++
    toTesters setup .halt ++
    [.send .daq .halt, .waitDaq .halt daqTimeOutInSeconds,
      .completeness (setup.testerDescriptors.length + 1), .check, .dataFileNames 3,
      .chamberMaps setup.testerDescriptors]

def script (tests : List Bool) : List (Nat × Instr) :=
  (setup.testerDescriptors.map fun tester => (0, .exchange (.tester tester))) ++ [(0, .check)] ++
    tests.zipIdx.flatMap fun test => (testScript setup test.1).map fun instr => (test.2, instr)

end

/-- How a part of the sequence ends: it goes on, perhaps with more to do first, it returns from the
whole sequence, it raises an exception, or it has moved the manager to the failed state. -/
inductive Outcome
  | goOn (more : List Instr)
  | return_
  | raise
  | failed

def Outcome.rest (test : Nat) (later : List (Nat × Instr)) : Outcome → List (Nat × Instr)
  | .goOn more => more.map (test, ·) ++ later
  | .return_ | .failed => []
  | .raise => [(test, .fail)]

def Outcome.state (state : FsmState) : Outcome → FsmState
  | .failed => .failed
  | .goOn _ | .return_ | .raise => state

def Gone (state : FsmState) : Prop := state = .halted ∨ state = .failed

instance (state : FsmState) : Decidable (Gone state) := inferInstanceAs (Decidable (_ ∨ _))

def expectedState : Command → DaqState
  | .configure => .ready
  | .enable => .enabled
  | .halt => .halted

section

variable (setup : Setup) (state : FsmState) (reply : Reply) (test : Nat)

def Reply.orRaise (more : List Instr) : Outcome := if reply.threw then .raise else .goOn more

def afterAskDaq (command : Command) (left : Nat) : List Event × Outcome :=
  if reply.threw then ([], .raise)
  else if reply.daqState = .failed then ([], .raise)
  else if reply.daqState = expectedState command then
    (if command = .enable then [.daqEnabled test] else [], .goOn [])
  else match left with
    | 0 => ([], .raise)
    | left + 1 => ([], .goOn [.waitDaq command left])

/-- A part of `startFED`; an exception starts the next attempt, the third one is passed on. -/
def nextFed (attempt : Nat) : List FedStep → List Event × Outcome
  | [] => ([], .goOn [])
  | step :: left =>
    (match step with
      | .send fed command => [.sent test (.fed fed) command]
      | .exchange _ | .files => [],
     if reply.threw then
        if attempt < 3 then .goOn [.startFed (attempt + 1) (fedSteps setup)] else .raise
      else .goOn [.startFed attempt left])

def next : Instr → List Event × Outcome
  | .exchange _ => ([], reply.orRaise [])
  | .send target command => ([.sent test target command], reply.orRaise [])
  | .check => ([], if Gone state then .return_ else .goOn [])
  | .waitDaq command left => ([], .goOn (if Gone state then [] else [.askDaq command left]))
  | .askDaq command left => afterAskDaq reply test command left
  | .waitConfigured =>
    ([], .goOn (if Gone state then [] else [.askConfigured setup.testerDescriptors true]))
  | .askConfigured [] allConfigured => ([], .goOn (if allConfigured then [] else [.waitConfigured]))
  | .askConfigured (tester :: later) allConfigured =>
    (if reply.threw = false ∧ reply.confirms = true then [.reported test tester] else [],
      reply.orRaise [.askConfigured later (allConfigured && reply.confirms)])
  | .waitFinished undefined =>
    ([], .goOn (if Gone state then [] else
      [.dataFileNames 3, .askFinished undefined
        (if undefined then [.daq] else setup.testerDescriptors.map .tester) true]))
  | .askFinished undefined [] allFinished =>
    ([], .goOn (if allFinished then [] else [.waitFinished undefined]))
  | .askFinished undefined (_ :: later) allFinished =>
    ([], reply.orRaise [.askFinished undefined later (allFinished && reply.confirms)])
  | .startFed attempt left => nextFed setup reply test attempt left
  | .dataFileNames left =>
    ([], if reply.threw then if left ≤ 1 then .raise else .goOn [.dataFileNames (left - 1)]
      else .goOn [])
  | .completeness 0 => ([], .goOn [])
  | .completeness (left + 1) =>
    -- The exceptions are caught here, and the testers may not agree on their numbers of events.
    ([], .goOn (if reply.threw = true ∨ reply.confirms = false then [] else [.completeness left]))
  | .chamberMaps [] => ([], .goOn [])
  | .chamberMaps (_ :: later) =>
    ([], reply.orRaise (if reply.confirms then [.chamberMaps later] else []))
  | .fail =>
    -- No transition is defined for a second failure.
    ([], if state = .failed then .return_ else
      .goOn [.failHalt (setup.testers.map .tester ++ [.daq])])
  | .failHalt [] => ([], .goOn [.toFailed])
  | .failHalt (_ :: later) =>
    ([], .goOn [.failHalt (if reply.threw then later.filter (· = .daq) else later)])
  | .toFailed => ([.acted .fail], .failed)

end

/-- The sequence in the work loop and the manager's state machine. `acting` is an action that has
still to send to the applications, `arriving` the state that comes after one that has sent all. -/
structure System where
  state : FsmState
  rest : List (Nat × Instr)
  acting : Option (Action × List Target)
  arriving : Option FsmState
  events : List Event

inductive Input
  | sequence (reply : Reply)
  | begin_ (action : Action)
  | act (threw : Bool)
  | arrive
  | enabled

def exchangesOf (setup : Setup) : Action → List Target
  | .halt | .stop =>
    setup.testers.map .tester ++ [.daq] ++ setup.feds.map .fed ++ setup.feds.map .fed
  | .fail => setup.testers.map .tester ++ [.daq]

def Allowed : Action → FsmState → Prop
  | .halt, state => state = .configured ∨ state = .enabled
  | .stop, state => state = .enabled
  | .fail, state => state ≠ .failed

instance : ∀ (action : Action) (state : FsmState), Decidable (Allowed action state)
  | .halt, _ => inferInstanceAs (Decidable (_ ∨ _))
  | .stop, _ => inferInstanceAs (Decidable (_ = _))
  | .fail, _ => inferInstanceAs (Decidable (_ ≠ _))

def stateAfter : Action → FsmState
  | .halt => .halted
  | .stop => .configured
  | .fail => .failed

/-- What is left of an action after an exchange. The failure of a Halt or a Stop is followed by the
action for the failed state, which goes on to the DAQ if a tester fails. -/
def afterExchange (setup : Setup) (threw : Bool) : Action → List Target → Action × List Target
  | .fail, later => (.fail, if threw then later.filter (· = .daq) else later)
  | action, later => if threw then (.fail, exchangesOf setup .fail) else (action, later)

def afterAct (setup : Setup) (system : System) (threw : Bool) : Option (Action × List Target) :=
  system.acting.map fun acting => afterExchange setup threw acting.1 acting.2.tail

def step (setup : Setup) (system : System) : Input → System
  | .sequence reply =>
    match system.rest with
    | [] => system
    | (test, instr) :: later =>
      let made := next setup system.state reply test instr
      { system with
        events := system.events ++ made.1
        rest := made.2.rest test later
        state := made.2.state system.state }
  | .begin_ action =>
    if system.acting = none ∧ system.arriving = none ∧ Allowed action system.state then
      { system with acting := some (action, exchangesOf setup action) }
    else system
  | .act threw =>
    match afterAct setup system threw with
    | none => system
    | some (action, []) =>
      { system with
        acting := none
        arriving := some (stateAfter action)
        events := system.events ++ [.acted action] }
    | some left => { system with acting := some left }
  | .arrive =>
    match system.arriving with
    | none => system
    | some state => { system with state := state, arriving := none }
  | .enabled =>
    if system.state = .configured ∧ system.acting = none ∧ system.arriving = none then
      { system with state := .enabled }
    else system

def initial (setup : Setup) (tests : List Bool) : System :=
  ⟨.configured, script setup tests, none, none, []⟩

def run (setup : Setup) (tests : List Bool) (inputs : List Input) : System :=
  runFrom (step setup) (initial setup tests) inputs

def commandOf : Event → Option (Nat × Target × Command)
  | .sent _ (.fed _) _ => none
  | .sent test target command => some (test, target, command)
  | .reported .. | .daqEnabled _ | .acted _ => none

def testCommands (setup : Setup) (test : Nat) : List (Nat × Target × Command) :=
  [(test, .daq, .halt), (test, .daq, .configure)] ++
    (setup.testers.map fun tester => (test, .tester tester, .configure)) ++
    [(test, .daq, .enable)] ++
    (setup.testers.map fun tester => (test, .tester tester, .enable)) ++
    (setup.testers.map fun tester => (test, .tester tester, .halt)) ++ [(test, .daq, .halt)]

section

variable (setup : Setup) (tests : List Bool) (events : List Event)

def InOrder : Prop :=
  events.filterMap commandOf <+: tests.zipIdx.flatMap fun test => testCommands setup test.2

def EnabledAfterReports : Prop :=
  ∀ before test tester after,
    events = before ++ .sent test (.tester tester) .enable :: after →
      (∀ other ∈ setup.testers, .reported test other ∈ before) ∧ .daqEnabled test ∈ before

def Calm : Prop := ∀ test target command, .sent test target command ∈ events → command = .halt

def CalmAfterActions : Prop :=
  ∀ before action after, events = before ++ .acted action :: after → Calm after

def HasActed : Prop := ∃ action, .acted action ∈ events

end

def Commands : Instr → Prop
  | .send _ command => command ≠ .halt
  | .startFed _ left => left ≠ []
  | _ => False

instance : ∀ instr : Instr, Decidable (Commands instr) := by
  intro instr
  cases instr <;> unfold Commands <;> infer_instance

def Free (rest : List (Nat × Instr)) : Prop := ∀ instr ∈ rest, ¬ Commands instr.2

instance (rest : List (Nat × Instr)) : Decidable (Free rest) :=
  inferInstanceAs (Decidable (∀ _ ∈ rest, _))

def Safe : List (Nat × Instr) → Prop
  | [] => True
  | (_, instr) :: later => instr = .check ∨ ¬ Commands instr ∧ Safe later

instance : ∀ rest : List (Nat × Instr), Decidable (Safe rest)
  | [] => inferInstanceAs (Decidable True)
  | (_, _) :: later =>
    have : Decidable (Safe later) := instDecidableSafe later
    inferInstanceAs (Decidable (_ ∨ _ ∧ Safe later))

/-- A Stop has sent its commands when the sequence has none left, a Halt or a failure when it looks
at the state before its next one; and it does not look before that state has changed. -/
def Careful (setup : Setup) (system : System) : Input → Prop
  | .sequence _ =>
    match system.arriving with
    | some state => Gone state → system.rest.head?.map (·.2) ≠ some .check
    | none => True
  | .act threw =>
    match afterAct setup system threw with
    | some (.stop, []) => Free system.rest
    | some (_, []) => Safe system.rest
    | _ => True
  | .begin_ _ | .arrive | .enabled => True

instance (setup : Setup) (system : System) : ∀ input, Decidable (Careful setup system input)
  | .sequence _ => by unfold Careful; dsimp only; split <;> infer_instance
  | .act _ => by unfold Careful; dsimp only; split <;> infer_instance
  | .begin_ _ | .arrive | .enabled => inferInstanceAs (Decidable True)

end EmuLib.Step.TestSequence
