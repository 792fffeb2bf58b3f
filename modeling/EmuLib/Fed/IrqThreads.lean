import Mathlib.Algebra.Ring.Nat
import EmuLib.Lib.GuardedRun

/-!
The interrupt threads of the FED crates as the operations that can block them or end them, and the
manager that starts them, cancels them and joins them.
-/

namespace EmuLib.Fed.IrqThreads

open GuardedRun

inductive Mutex
  | crateQueue
  | resetCount
  | errorCount
  | application
  | lastErr
deriving DecidableEq

/-- `cancelPoint` is a test for cancellation and whatever else can be one: a log, an alarm, a fact
that is sent, a sleep. `access` is an access to a board, in the `try` block or not. `meet` is a
crate's arrival at the barrier and `leave` its departure. -/
inductive Op
  | lock (mutex : Mutex)
  | unlock (mutex : Mutex)
  | setCancel (enabled : Bool)
  | cancelPoint
  | access (caught : Bool)
  | meet
  | broadcast
  | wait
  | leave
  | exit
deriving DecidableEq

/-! The parts of `IRQThread`. -/

def logs (count : Nat) : List Op := List.replicate count .cancelPoint

def accesses (count : Nat) : List Op := List.replicate count (.access true)

def section_ (mutex : Mutex) : List Op := [.lock mutex, .unlock mutex]

def storeAndSendFacts : List Op := [.lock .application, .cancelPoint, .unlock .application]

def setDDUerr : List Op := [.access true, .cancelPoint, .cancelPoint, .access true]

def outerLoop (isTrackFinder : Bool) (alarms : Nat) : List Op :=
  [.cancelPoint, .setCancel true, .cancelPoint] ++ section_ .errorCount ++
    (if isTrackFinder then [] else [.access false]) ++ logs alarms ++
    [.lock .resetCount, .meet, .leave, .unlock .resetCount]

inductive Release
  | none_
  | enableFMM
  | setDDUerr

structure Handling where
  badFibers : Nat
  springsTrap : Bool
  alarms : Nat
  release : Release
  repeated : Bool
  waitsAfterFMM : Bool
  reset : Bool

def Release.ops : Release → List Op
  | .none_ => [.cancelPoint]
  | .enableFMM => [.cancelPoint, .access true]
  | .setDDUerr => [.cancelPoint] ++ IrqThreads.setDDUerr ++ [.cancelPoint]

def Release.released : Release → Bool
  | .none_ => false
  | .enableFMM | .setDDUerr => true

def Handling.ops (handling : Handling) : List Op :=
  section_ .lastErr ++ logs 2 ++
    (if handling.springsTrap then accesses 3 ++ logs 3 else logs 1) ++
    accesses 1 ++ logs handling.alarms ++ section_ .errorCount ++ logs 1 ++ handling.release.ops ++
    storeAndSendFacts ++
    (if handling.release.released then section_ .lastErr ++ logs 1 ++
      (if handling.repeated then storeAndSendFacts else []) else []) ++
    [.cancelPoint, .setCancel true, .cancelPoint] ++
    (if handling.release.released && handling.waitsAfterFMM then [.cancelPoint] else [])

inductive ResetCheck
  | notNeeded
  | noDdu
  | same
  | unconfirmed
  | confirmed

def ResetCheck.ops : ResetCheck → List Op
  | .notNeeded => []
  | .noDdu => logs 2
  | .same => accesses 1
  | .unconfirmed =>
    accesses 1 ++ [.cancelPoint, .setCancel true, .cancelPoint, .cancelPoint, .setCancel false] ++
      accesses 1 ++ [.cancelPoint]
  | .confirmed =>
    accesses 1 ++ [.cancelPoint, .setCancel true, .cancelPoint, .cancelPoint, .setCancel false] ++
      accesses 1 ++ [.cancelPoint] ++ storeAndSendFacts

def ResetCheck.breaks : ResetCheck → Bool
  | .notNeeded | .same | .unconfirmed => false
  | .noDdu | .confirmed => true

structure StatusChecks where
  dduAccesses : Nat
  warns : Bool
  sendsFact : Bool
  setsError : Bool
  dccs : Nat

def checkDcc : List Op :=
  [.access true, .cancelPoint, .cancelPoint, .access true, .cancelPoint, .cancelPoint,
    .access true, .cancelPoint, .cancelPoint]

def StatusChecks.ops (checks : StatusChecks) : List Op :=
  accesses checks.dduAccesses ++ (if checks.warns then [.cancelPoint] else []) ++
    (if checks.sendsFact then storeAndSendFacts else []) ++
    (if checks.setsError then setDDUerr ++ [.cancelPoint] ++ storeAndSendFacts else []) ++
    (List.replicate checks.dccs checkDcc).flatten

inductive Pass
  | resetSeen
  | unknownSlot
  | noNewErrors (logged : Nat) (reset : Bool)
  | newErrors (logged : Nat) (handling : Handling)
  | allClear (check : ResetCheck) (checks : Option StatusChecks)

def readIRQ : List Op :=
  [.setCancel true, .cancelPoint, .access true, .cancelPoint, .setCancel false, .access true,
    .cancelPoint]

def decode (logged : Nat) : List Op := accesses 2 ++ logs logged ++ accesses 1 ++ logs 1

def Pass.ops : Pass → List Op
  | .resetSeen => [.setCancel true, .cancelPoint]
  | .unknownSlot => readIRQ ++ [.cancelPoint]
  | .noNewErrors logged _ => readIRQ ++ decode logged ++ logs 2
  | .newErrors logged handling => readIRQ ++ decode logged ++ handling.ops
  | .allClear check checks =>
    [.setCancel true, .cancelPoint, .access true, .cancelPoint, .setCancel false] ++ check.ops ++
      (if check.breaks then [] else
        (match checks with
          | none => []
          | some checks => checks.ops) ++ [.setCancel true, .cancelPoint])

def Pass.breaks : Pass → Bool
  | .resetSeen => true
  | .unknownSlot => false
  | .noNewErrors _ reset => reset
  | .newErrors _ handling => handling.reset
  | .allClear check _ => check.breaks

def exceptionExit : List Op := [.cancelPoint, .cancelPoint, .cancelPoint, .exit]

inductive Activity
  | takeCrate
  | outer (isTrackFinder : Bool) (alarms : Nat)
  | inner (pass : Pass)

inductive Place
  | start
  | outer
  | inner
deriving DecidableEq

def Activity.place : Activity → Place
  | .takeCrate => .start
  | .outer .. => .outer
  | .inner _ => .inner

def Activity.next : Activity → Place
  | .takeCrate => .outer
  | .outer .. => .inner
  | .inner pass => if pass.breaks then .outer else .inner

def Activity.ops : Activity → List Op
  | .takeCrate => section_ .crateQueue
  | .outer isTrackFinder alarms => outerLoop isTrackFinder alarms
  | .inner pass => pass.ops

/-! The threads and their manager. -/

/-- `waiting` for the condition, `waking` when it has to take the mutex again, `unwinding` when it
has to take it again to be cancelled. -/
inductive Stage
  | running
  | waiting
  | waking
  | unwinding
  | ended
deriving DecidableEq

structure Thread where
  stage : Stage
  place : Place
  rest : List Op
  cancelEnabled : Bool
  cancelRequested : Bool

inductive Caller
  | stopped
  | started
  | cancelling (thread : Nat)
  | joining (thread : Nat)
deriving DecidableEq

structure System where
  caller : Caller
  thread : Nat → Thread
  holder : Mutex → Option Nat
  resetCount : Nat
  aborted : Bool

def Thread.fresh : Thread := ⟨.running, .start, [], true, false⟩

def Thread.none_ : Thread := ⟨.ended, .start, [], true, false⟩

namespace System

def initial : System := ⟨.stopped, fun _ => .none_, fun _ => none, 0, false⟩

variable (nCrates : Nat) (system : System) (thread : Nat)

def setThread (made : Thread) : System :=
  { system with thread := Function.update system.thread thread made }

def setHolder (mutex : Mutex) (holder : Option Nat) : System :=
  { system with holder := Function.update system.holder mutex holder }

def goOn (later : List Op) : System :=
  system.setThread thread { system.thread thread with rest := later }

def setStage (stage : Stage) : System :=
  system.setThread thread { system.thread thread with stage := stage }

def atBarrier (count : Nat) : List Op :=
  if 1 < nCrates then
    if nCrates ≤ count then [.cancelPoint, .broadcast] else [.cancelPoint, .wait]
  else []

def broadcast : System :=
  { system with
    thread := fun other =>
      if (system.thread other).stage = .waiting then { system.thread other with stage := .waking }
      else system.thread other }

def operate : Op → List Op → System
  | .lock mutex, later =>
    if system.holder mutex = none then (system.setHolder mutex (some thread)).goOn thread later
    else system
  | .unlock mutex, later => (system.setHolder mutex none).goOn thread later
  | .setCancel enabled, later =>
    system.setThread thread { system.thread thread with rest := later, cancelEnabled := enabled }
  | .cancelPoint, later | .access _, later => system.goOn thread later
  | .meet, later =>
    { system.goOn thread (atBarrier nCrates (system.resetCount + 1) ++ later) with
      resetCount := system.resetCount + 1 }
  | .broadcast, later => (system.goOn thread later).broadcast
  | .wait, later =>
    (system.setHolder .resetCount none).setThread thread
      { system.thread thread with rest := later, stage := .waiting }
  | .leave, later => { system.goOn thread later with resetCount := 0 }
  | .exit, _ => system.setThread thread { system.thread thread with stage := .ended, rest := [] }

def run : System :=
  match (system.thread thread).stage with
  | .running =>
    match (system.thread thread).rest with
    | [] => system
    | op :: later => system.operate nCrates thread op later
  | .waking =>
    if system.holder .resetCount = none then
      (system.setHolder .resetCount (some thread)).setStage thread .running
    else system
  | .unwinding =>
    if system.holder .resetCount = none then
      (system.setHolder .resetCount (some thread)).setStage thread .ended
    else system
  | .waiting | .ended => system

/-- A cancellation that was requested takes effect; a thread that waits for the condition takes the
mutex before it ends. -/
def cancel : System :=
  if (system.thread thread).cancelRequested = true ∧ (system.thread thread).cancelEnabled = true then
    match (system.thread thread).stage, (system.thread thread).rest with
    | .running, .cancelPoint :: _ | .running, .access _ :: _ => system.setStage thread .ended
    | .waiting, _ => system.setStage thread .unwinding
    | _, _ => system
  else system

/-- An access to a board throws an exception; nothing catches it outside of the `try` block. -/
def throw_ : System :=
  match (system.thread thread).stage, (system.thread thread).rest with
  | .running, .access true :: _ => system.goOn thread exceptionExit
  | .running, .access false :: _ => { system with aborted := true }
  | _, _ => system

def begin_ (activity : Activity) : System :=
  if (system.thread thread).stage = .running ∧ (system.thread thread).rest = [] ∧
      (system.thread thread).place = activity.place then
    system.setThread thread
      { system.thread thread with place := activity.next, rest := activity.ops }
  else system

def endThreads : System :=
  match system.caller with
  | .started => if nCrates = 0 then system else { system with caller := .cancelling 0 }
  | .cancelling thread =>
    { system.setThread thread { system.thread thread with cancelRequested := true } with
      caller := .joining thread }
  | .joining thread =>
    if (system.thread thread).stage = .ended then
      { system with
        caller := if thread + 1 < nCrates then .cancelling (thread + 1) else .stopped }
    else system
  | .stopped => system

def startThreads : System :=
  match system.caller with
  | .stopped =>
    { system with
      caller := .started
      thread := fun thread => if thread < nCrates then .fresh else .none_ }
  | _ => system

end System

inductive Input
  | startThreads
  | endThreads
  | begin_ (thread : Nat) (activity : Activity)
  | run (thread : Nat)
  | wake (thread : Nat)
  | cancel (thread : Nat)
  | throw_ (thread : Nat)

def System.wake (system : System) (thread : Nat) : System :=
  match (system.thread thread).stage with
  | .waiting => system.setStage thread .waking
  | _ => system

def step (nCrates : Nat) (system : System) (input : Input) : System :=
  if system.aborted then system
  else match input with
    | .startThreads => system.startThreads nCrates
    | .endThreads => system.endThreads nCrates
    | .begin_ thread activity => system.begin_ thread activity
    | .run thread => system.run nCrates thread
    | .wake thread => system.wake thread
    | .cancel thread => system.cancel thread
    | .throw_ thread => system.throw_ thread

def run (nCrates : Nat) (inputs : List Input) : System :=
  runFrom (step nCrates) .initial inputs

def InBarrier (system : System) (thread : Nat) : Prop :=
  system.holder .resetCount = some thread ∨ (system.thread thread).stage = .waiting

instance (system : System) (thread : Nat) : Decidable (InBarrier system thread) :=
  inferInstanceAs (Decidable (_ ∨ _))

def Careful (system : System) : Input → Prop
  | .cancel thread => (system.thread thread).cancelRequested = true →
      (system.thread thread).cancelEnabled = true → ¬ InBarrier system thread
  | _ => True

instance (system : System) : ∀ input, Decidable (Careful system input)
  | .cancel _ => inferInstanceAs (Decidable (_ → _ → ¬ _))
  | .startThreads | .endThreads | .begin_ .. | .run _ | .wake _ | .throw_ _ =>
    inferInstanceAs (Decidable True)

end EmuLib.Fed.IrqThreads
