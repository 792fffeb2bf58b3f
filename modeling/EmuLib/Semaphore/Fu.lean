import EmuLib.Fu.Application
import EmuLib.Semaphore.StateMachine

/-!
How often the callback of the filter unit for the blocks of the builder unit gives `bSem_`.
-/

namespace EmuLib.Semaphore.Fu

open BinarySemaphore
open EmuLib.Fu (DataBlock)

structure BlockPath where
  block : DataBlock
  startNewRun : Call
  startNewEvent : Call
  header : Call
  payload : Call
  releasesSuperFragment : Bool
  trailer : Call
  discardsEvent : Bool
  allocates : Bool

structure TakePath where
  faultDetected : Bool
  fileWriter : Bool
  nbEventsProcessed : Nat
  chain : List BlockPath

def failAction : FailEvent → List (Op FsmState)
  | .fail => []
  | .failedEvent => []

def callWriter (fileWriter : Bool) (call : Call) : Piece FsmState :=
  if fileWriter then call.orFail failAction else .done

def startBlock (fileWriter : Bool) (nbEventsProcessed : Nat) (path : BlockPath) :
    Piece FsmState :=
  if path.block.blockIsFirstOfEvent then
    ((if nbEventsProcessed = 0 then callWriter fileWriter path.startNewRun else .done).andThen
      (callWriter fileWriter path.startNewEvent)).andThen (callWriter fileWriter path.header)
  else .done

def writePayload (fileWriter : Bool) (path : BlockPath) : Piece FsmState :=
  if path.block.superFragmentIsFirstOfEvent then .done else callWriter fileWriter path.payload

def releaseSuperFragment (path : BlockPath) : Piece FsmState :=
  if path.block.blockIsLastOfSuperFragment && !path.releasesSuperFragment then .throws else .done

def endEvent (fileWriter : Bool) (path : BlockPath) : Piece FsmState :=
  if path.block.blockIsLastOfEvent then
    (callWriter fileWriter path.trailer).andThen
      (if path.discardsEvent && path.allocates then .done else .throws)
  else .done

def processDataBlock (fileWriter : Bool) (nbEventsProcessed : Nat) (path : BlockPath) :
    Piece FsmState :=
  (startBlock fileWriter nbEventsProcessed path).andThen
    ((writePayload fileWriter path).andThen
      ((releaseSuperFragment path).andThen (endEvent fileWriter path)))

def eventsAfter (nbEventsProcessed : Nat) (path : BlockPath) : Nat :=
  if path.block.blockIsLastOfEvent && path.releasesSuperFragment then nbEventsProcessed + 1
  else nbEventsProcessed

def processChain (fileWriter : Bool) : Nat → List BlockPath → Piece FsmState
  | _, [] => .done
  | nbEventsProcessed, path :: rest =>
    ((processDataBlock fileWriter nbEventsProcessed path).catching .done).andThen
      (processChain fileWriter (eventsAfter nbEventsProcessed path) rest)

def processMessage (path : TakePath) : FsmState → List (Op FsmState)
  | .halted => []
  | .failed => []
  | .ready => []
  | .enabled =>
    if path.faultDetected then []
    else (processChain path.fileWriter path.nbEventsProcessed path.chain).ops

def I2O_FU_TAKE_Callback (path : TakePath) (state : FsmState) : List (Op FsmState) :=
  processMessage path state ++ [.give]

def BlockPath.Sound (nbEventsProcessed : Nat) (path : BlockPath) : Prop :=
  (path.block.blockIsFirstOfEvent = true →
      (nbEventsProcessed = 0 → path.startNewRun.fails = false) ∧
        path.startNewEvent.fails = false ∧ path.header.fails = false) ∧
    (path.block.superFragmentIsFirstOfEvent = false → path.payload.fails = false) ∧
    (path.block.blockIsLastOfEvent = true → path.releasesSuperFragment = true →
      path.trailer.fails = false)

def ChainSound : Nat → List BlockPath → Prop
  | _, [] => True
  | nbEventsProcessed, path :: rest =>
    path.Sound nbEventsProcessed ∧ ChainSound (eventsAfter nbEventsProcessed path) rest

def TakePath.Clean (path : TakePath) : Prop :=
  path.faultDetected = false → path.fileWriter = true →
    ChainSound path.nbEventsProcessed path.chain

variable {fileWriter : Bool}

@[simp] lemma callWriter_threw (call) : (callWriter fileWriter call).threw = false := by
  unfold callWriter
  split
  · exact orFail_threw call
  · rfl

@[simp] lemma gives_callWriter (call) : gives (callWriter fileWriter call).ops = 0 ↔
    (fileWriter = true → call.fails = false) := by
  cases fileWriter <;> simp [callWriter]

@[simp] lemma startBlock_threw (nbEventsProcessed path) :
    (startBlock fileWriter nbEventsProcessed path).threw = false := by
  unfold startBlock
  split
  · split <;> simp
  · rfl

lemma gives_startBlock (nbEventsProcessed path) :
    gives (startBlock fileWriter nbEventsProcessed path).ops = 0 ↔
      (fileWriter = true → path.block.blockIsFirstOfEvent = true →
        (nbEventsProcessed = 0 → path.startNewRun.fails = false) ∧
          path.startNewEvent.fails = false ∧ path.header.fails = false) := by
  unfold startBlock
  cases path.block.blockIsFirstOfEvent with
  | false => simp
  | true =>
    by_cases fresh : nbEventsProcessed = 0
    · cases fileWriter <;> simp [fresh, and_assoc]
    · cases fileWriter <;> simp [fresh]

@[simp] lemma writePayload_threw (path) : (writePayload fileWriter path).threw = false := by
  unfold writePayload
  split
  · rfl
  · exact callWriter_threw path.payload

lemma gives_writePayload (path) : gives (writePayload fileWriter path).ops = 0 ↔
    (fileWriter = true → path.block.superFragmentIsFirstOfEvent = false →
      path.payload.fails = false) := by
  unfold writePayload
  cases path.block.superFragmentIsFirstOfEvent <;> simp

@[simp] lemma gives_releaseSuperFragment (path) : gives (releaseSuperFragment path).ops = 0 := by
  unfold releaseSuperFragment
  split <;> rfl

lemma releaseSuperFragment_threw (path) : (releaseSuperFragment path).threw =
    (path.block.blockIsLastOfSuperFragment && !path.releasesSuperFragment) := by
  unfold releaseSuperFragment
  cases path.block.blockIsLastOfSuperFragment && !path.releasesSuperFragment <;> rfl

lemma gives_endEvent (path) : gives (endEvent fileWriter path).ops = 0 ↔
    (fileWriter = true → path.block.blockIsLastOfEvent = true → path.trailer.fails = false) := by
  unfold endEvent
  cases path.block.blockIsLastOfEvent with
  | false => simp
  | true => cases path.discardsEvent <;> cases path.allocates <;> simp

lemma gives_processDataBlock (nbEventsProcessed path) :
    gives (processDataBlock fileWriter nbEventsProcessed path).ops = 0 ↔
      (fileWriter = true → path.Sound nbEventsProcessed) := by
  have last : path.block.blockIsLastOfEvent = true →
      path.block.blockIsLastOfSuperFragment = true := by
    intro lastOfEvent
    simp only [DataBlock.blockIsLastOfEvent, Bool.and_eq_true] at lastOfEvent
    exact lastOfEvent.2
  -- the trailer is out of reach if the last super-fragment cannot be released
  have ending : (if (releaseSuperFragment path).threw = true then 0
      else gives (endEvent fileWriter path).ops) = 0 ↔
      (fileWriter = true → path.block.blockIsLastOfEvent = true →
        path.releasesSuperFragment = true → path.trailer.fails = false) := by
    rw [releaseSuperFragment_threw]
    cases released : path.releasesSuperFragment with
    | true => simp [gives_endEvent]
    | false =>
      cases lastOfSuper : path.block.blockIsLastOfSuperFragment with
      | true => simp
      | false =>
        have inside : path.block.blockIsLastOfEvent = false := by
          cases lastOfEvent : path.block.blockIsLastOfEvent with
          | false => rfl
          | true => exact absurd (lastOfSuper.symm.trans (last lastOfEvent)) (by decide)
        simp [gives_endEvent, inside]
  simp only [processDataBlock, gives_andThen, startBlock_threw, writePayload_threw,
    gives_releaseSuperFragment, Nat.zero_add, Bool.false_eq_true, if_false,
    Nat.add_eq_zero_iff, gives_startBlock, gives_writePayload, ending, BlockPath.Sound]
  constructor
  · rintro ⟨start, payload, trailer⟩ writer
    exact ⟨start writer, payload writer, trailer writer⟩
  · intro all
    refine ⟨?_, ?_, ?_⟩
    · intro writer
      exact (all writer).1
    · intro writer
      exact (all writer).2.1
    · intro writer
      exact (all writer).2.2

lemma gives_processChain (nbEventsProcessed chain) :
    gives (processChain fileWriter nbEventsProcessed chain).ops = 0 ↔
      (fileWriter = true → ChainSound nbEventsProcessed chain) := by
  induction chain generalizing nbEventsProcessed with
  | nil => simp [processChain, ChainSound]
  | cons path rest ih =>
    simp only [processChain, ChainSound, gives_andThen, gives_catching, threw_catching,
      threw_done, gives_done, ite_self, Nat.add_zero, Bool.and_false, Bool.false_eq_true,
      if_false, Nat.add_eq_zero_iff, gives_processDataBlock, ih]
    constructor
    · rintro ⟨first, others⟩ writer
      exact ⟨first writer, others writer⟩
    · intro both
      exact ⟨fun writer => (both writer).1, fun writer => (both writer).2⟩

lemma gives_processMessage (path state) :
    gives (processMessage path state) = 0 ↔ (state = .enabled → path.Clean) := by
  cases state with
  | halted => simp [processMessage]
  | failed => simp [processMessage]
  | ready => simp [processMessage]
  | enabled =>
    simp only [processMessage, TakePath.Clean, forall_const]
    cases path.faultDetected with
    | true => simp
    | false => simp [gives_processChain]

/-- The callback gives the semaphore once if and only if the writer takes all of its calls. -/
lemma I2O_FU_TAKE_Callback_once (path state) :
    gives (I2O_FU_TAKE_Callback path state) = 1 ↔ (state = .enabled → path.Clean) := by
  have last : gives [(.give : Op FsmState)] = 1 := rfl
  rw [← gives_processMessage, I2O_FU_TAKE_Callback, gives_append]
  omega

lemma I2O_FU_TAKE_Callback_givesLast (path state) :
    GivesLast (I2O_FU_TAKE_Callback path state) ↔
      gives (I2O_FU_TAKE_Callback path state) = 1 :=
  givesLast_iff_once rfl

end EmuLib.Semaphore.Fu
