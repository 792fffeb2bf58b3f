import EmuLib.Lib.BinarySemaphore

/-!
The state machine of the readout unit interface and of the filter unit, as far as their
semaphores are concerned, and the sections that the two applications have in common. A path is
given by how the calls on it end. The log and the sentinel are taken to accept every report;
exceptions other than those of xcept end the process.
-/

namespace EmuLib.Semaphore

open BinarySemaphore

inductive FsmState
  | halted
  | ready
  | enabled
  | failed
  deriving DecidableEq, Repr

/-- What `failAction` is called with: the event `Fail`, or the event by which the state machine
tells of an action that threw. -/
inductive FailEvent
  | fail
  | failedEvent
  deriving DecidableEq

structure Fired where
  failActions : List FailEvent
  arrives : FsmState
  threw : Bool

structure Call where
  fails : Bool
  fired : Fired

section

variable (failAction : FailEvent → List (Op FsmState))

def fireEvent (fired : Fired) : Piece FsmState :=
  ⟨fired.failActions.flatMap failAction ++ [.change fun _ => fired.arrives], fired.threw⟩

def moveToFailedState (fired : Fired) : Piece FsmState := (fireEvent failAction fired).thenGive

def Call.orFail (call : Call) : Piece FsmState :=
  if call.fails then moveToFailedState failAction call.fired else .done

def processFsmCommand (fired : Fired) : List (Op FsmState) :=
  (fireEvent failAction fired).thenGive.ops

def serverLoopAction (sends : Bool) (state : FsmState) : List (Op FsmState) :=
  (if state = .enabled ∧ sends = false then Piece.throws else Piece.done).thenGive.ops

def onSOAPClientCreditMsg (replies : Bool) : List (Op FsmState) :=
  if replies then [.give] else []

def onI2OClientCreditMsg : List (Op FsmState) := [.give]

end

variable {failAction : FailEvent → List (Op FsmState)}

lemma gives_flatMap_eq_zero {events : List FailEvent} :
    gives (events.flatMap failAction) = 0 ↔ ∀ event ∈ events, gives (failAction event) = 0 := by
  induction events with
  | nil => simp
  | cons event rest ih =>
    simp only [List.flatMap_cons, gives_append, Nat.add_eq_zero_iff, ih, List.forall_mem_cons]

lemma gives_fireEvent (fired) : gives (fireEvent failAction fired).ops =
    gives (fired.failActions.flatMap failAction) := by
  simp only [fireEvent, gives_append]
  rfl

lemma moveToFailedState_gives (fired) : 0 < gives (moveToFailedState failAction fired).ops := by
  simp [moveToFailedState]

@[simp] lemma moveToFailedState_threw (fired) :
    (moveToFailedState failAction fired).threw = false := threw_thenGive

@[simp] lemma orFail_threw (call : Call) : (call.orFail failAction).threw = false := by
  unfold Call.orFail
  split
  · exact moveToFailedState_threw call.fired
  · rfl

@[simp] lemma gives_orFail (call : Call) :
    gives (call.orFail failAction).ops = 0 ↔ call.fails = false := by
  unfold Call.orFail
  cases fails : call.fails with
  | false => simp
  | true =>
    have given := @moveToFailedState_gives failAction call.fired
    simp only [if_true, reduceCtorEq, iff_false]
    omega

lemma processFsmCommand_givesLast (fired) :
    GivesLast (processFsmCommand failAction fired) ↔
      ∀ event ∈ fired.failActions, gives (failAction event) = 0 := by
  unfold processFsmCommand
  rw [thenGive_ops, givesLast_snoc, gives_fireEvent, gives_flatMap_eq_zero]

lemma serverLoopAction_givesLast (sends state) : GivesLast (serverLoopAction sends state) := by
  unfold serverLoopAction
  rw [thenGive_ops, givesLast_snoc]
  split <;> rfl

lemma onSOAPClientCreditMsg_givesLast (replies) : GivesLast (onSOAPClientCreditMsg replies) := by
  cases replies with
  | false => trivial
  | true => exact (@givesLast_snoc FsmState []).2 rfl

lemma onI2OClientCreditMsg_givesLast : GivesLast onI2OClientCreditMsg :=
  onSOAPClientCreditMsg_givesLast true

end EmuLib.Semaphore
