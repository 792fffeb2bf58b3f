import EmuLib.Semaphore.StateMachine

/-!
How often the threads of the readout unit interface give `applicationBSem_`.
-/

namespace EmuLib.Semaphore.Rui

open BinarySemaphore

structure Settings where
  writesFile : Bool
  isMonitorOrDebug : Bool
  writeBadEventsOnly : Bool
  isSTEPRun : Bool

/-- A pass through one of the two functions that read: `stopped` if all events have been read or
there is no reader, `startsRun` if the data are the first of the run, `needed` if they belong to
an event that a STEP run needs, `throws` if a call after the writing throws. Of bad events only,
`context` is what is written for this block. -/
structure ReadingPath where
  stopped : Bool
  resetAndEnable : Call
  nBytesRead : Nat
  startsRun : Bool
  startNewRun : Call
  fileWriter : Bool
  data : Bool
  needed : Bool
  write : Call
  context : List Call
  throws : Bool

/-- `reported` if the handler in `processAndCommunicate` gets to its end. -/
inductive PassPath
  | pending (sends reported : Bool)
  | reading (path : ReadingPath) (reported : Bool)

structure IterationPath where
  pass : PassPath
  fired : Fired

def failAction : FailEvent → List (Op FsmState)
  | .fail => []
  | .failedEvent => [.give]

def createFileWriter (settings : Settings) (startNewRun : Call) : Piece FsmState :=
  if settings.writesFile then startNewRun.orFail failAction
  else if settings.isMonitorOrDebug then .done
  else moveToFailedState failAction startNewRun.fired

def writeDataToFile (settings : Settings) (fileWriter : Bool) (write : Call) : Piece FsmState :=
  if fileWriter && !settings.writeBadEventsOnly then write.orFail failAction else .done

def writeDataWithContextToFile (settings : Settings) (fileWriter : Bool) (path : ReadingPath) :
    Piece FsmState :=
  if settings.writeBadEventsOnly then
    path.context.foldl
      (fun piece write => piece.andThen (writeDataToFile settings fileWriter write)) .done
  else writeDataToFile settings fileWriter path.write

def ReadingPath.hasWriter (settings : Settings) (path : ReadingPath) : Bool :=
  if path.startsRun then settings.writesFile else path.fileWriter

def continueReading (settings : Settings) (path : ReadingPath) (writing : Piece FsmState) :
    Piece FsmState :=
  if path.stopped then .done
  else (path.resetAndEnable.orFail failAction).andThen
    (if path.nBytesRead = 0 then .done
    else (if path.startsRun then createFileWriter settings path.startNewRun else .done).andThen
      ((if path.data then writing else .done).andThen
        (if path.throws then .throws else .done)))

def continueConstructionOfSuperFrag (settings : Settings) (path : ReadingPath) :
    Piece FsmState :=
  continueReading settings path
    (writeDataWithContextToFile settings (path.hasWriter settings) path)

def continueSTEPRun (settings : Settings) (path : ReadingPath) : Piece FsmState :=
  continueReading settings path
    (if path.needed then writeDataToFile settings (path.hasWriter settings) path.write
    else .done)

def handler (reported : Bool) : Piece FsmState := if reported then .done else .throws

def processAndCommunicate (settings : Settings) : PassPath → Piece FsmState
  | .pending sends reported =>
    (if sends then Piece.done else Piece.throws).catching (handler reported)
  | .reading path reported =>
    (if settings.isSTEPRun then continueSTEPRun settings path
    else continueConstructionOfSuperFrag settings path).catching (handler reported)

def readOut (settings : Settings) (path : IterationPath) : FsmState → List (Op FsmState)
  | .halted => []
  | .failed => []
  | .ready => []
  | .enabled =>
    let processed := processAndCommunicate settings path.pass
    -- the handler fires `Fail` and gives by itself
    if processed.threw then processed.ops ++ (fireEvent failAction path.fired).thenGive.ops
    else processed.ops

/-- The servers of the clients, which follow the reading, throw nothing that is not caught. -/
def workLoopAction (settings : Settings) (path : IterationPath) (state : FsmState) :
    List (Op FsmState) :=
  readOut settings path state ++ [.give]

def ReadingPath.reads (path : ReadingPath) : Bool := !path.stopped && path.nBytesRead != 0

def ReadingPath.writes (settings : Settings) (path : ReadingPath) : Bool :=
  path.data && path.hasWriter settings && !settings.writeBadEventsOnly &&
    (path.needed || !settings.isSTEPRun)

def ReadingPath.Sound (settings : Settings) (path : ReadingPath) : Prop :=
  (path.stopped = false → path.resetAndEnable.fails = false) ∧
    (path.reads = true → path.startsRun = true →
      if settings.writesFile then path.startNewRun.fails = false
      else settings.isMonitorOrDebug = true) ∧
    (path.reads = true → path.writes settings = true → path.write.fails = false)

def PassPath.Clean (settings : Settings) : PassPath → Prop
  | .pending sends reported => sends = true ∨ reported = true
  | .reading path reported =>
    path.Sound settings ∧ (path.reads = true → path.throws = true → reported = true)

variable {settings : Settings}

@[simp] lemma createFileWriter_threw (startNewRun) :
    (createFileWriter settings startNewRun).threw = false := by
  unfold createFileWriter
  split
  · exact orFail_threw startNewRun
  · split
    · rfl
    · exact moveToFailedState_threw startNewRun.fired

lemma gives_createFileWriter (startNewRun) :
    gives (createFileWriter settings startNewRun).ops = 0 ↔
      if settings.writesFile then startNewRun.fails = false
      else settings.isMonitorOrDebug = true := by
  unfold createFileWriter
  split
  · exact gives_orFail startNewRun
  · have given := @moveToFailedState_gives failAction startNewRun.fired
    cases settings.isMonitorOrDebug with
    | true => simp
    | false =>
      simp only [Bool.false_eq_true, if_false, iff_false]
      omega

@[simp] lemma writeDataToFile_threw (fileWriter write) :
    (writeDataToFile settings fileWriter write).threw = false := by
  unfold writeDataToFile
  split
  · exact orFail_threw write
  · rfl

lemma gives_writeDataToFile (fileWriter write) :
    gives (writeDataToFile settings fileWriter write).ops = 0 ↔
      ((fileWriter && !settings.writeBadEventsOnly) = true → write.fails = false) := by
  unfold writeDataToFile
  cases fatal : fileWriter && !settings.writeBadEventsOnly with
  | true => simp
  | false => simp

lemma writeBadEvents_done (badEvents : settings.writeBadEventsOnly = true) (fileWriter path) :
    writeDataWithContextToFile settings fileWriter path = .done := by
  have each : ∀ write, writeDataToFile settings fileWriter write = .done := by
    simp [writeDataToFile, badEvents]
  simp only [writeDataWithContextToFile, badEvents, if_true, each]
  induction path.context with
  | nil => rfl
  | cons write rest ih => exact ih

@[simp] lemma writeDataWithContextToFile_threw (fileWriter path) :
    (writeDataWithContextToFile settings fileWriter path).threw = false := by
  cases badEvents : settings.writeBadEventsOnly with
  | true =>
    rw [writeBadEvents_done badEvents]
    rfl
  | false => simp [writeDataWithContextToFile, badEvents]

lemma gives_writeDataWithContextToFile (fileWriter path) :
    gives (writeDataWithContextToFile settings fileWriter path).ops = 0 ↔
      ((fileWriter && !settings.writeBadEventsOnly) = true → path.write.fails = false) := by
  cases badEvents : settings.writeBadEventsOnly with
  | true =>
    rw [writeBadEvents_done badEvents]
    simp
  | false =>
    simp only [writeDataWithContextToFile, badEvents, Bool.false_eq_true, if_false]
    rw [gives_writeDataToFile, badEvents]

variable {path : ReadingPath} {writing : Piece FsmState}

lemma continueReading_threw (caught : writing.threw = false) :
    (continueReading settings path writing).threw = (path.reads && path.throws) := by
  unfold continueReading ReadingPath.reads
  cases path.stopped with
  | true => rfl
  | false =>
    by_cases empty : path.nBytesRead = 0
    · simp [empty]
    · cases path.startsRun <;> cases path.data <;> cases path.throws <;> simp [empty, caught]

lemma gives_continueReading (caught : writing.threw = false) :
    gives (continueReading settings path writing).ops = 0 ↔
      (path.stopped = false → path.resetAndEnable.fails = false) ∧
        (path.reads = true → path.startsRun = true →
          gives (createFileWriter settings path.startNewRun).ops = 0) ∧
        (path.reads = true → path.data = true → gives writing.ops = 0) := by
  unfold continueReading ReadingPath.reads
  cases path.stopped with
  | true => simp
  | false =>
    by_cases empty : path.nBytesRead = 0
    · simp [empty]
    · cases path.startsRun <;> cases path.data <;> cases path.throws <;>
        simp [empty, caught]

lemma reading_threw (path) :
    (if settings.isSTEPRun then continueSTEPRun settings path
      else continueConstructionOfSuperFrag settings path).threw = (path.reads && path.throws) := by
  split
  · apply continueReading_threw
    split
    · exact writeDataToFile_threw _ _
    · rfl
  · apply continueReading_threw
    exact writeDataWithContextToFile_threw _ _

lemma gives_reading (path) :
    gives (if settings.isSTEPRun then continueSTEPRun settings path
      else continueConstructionOfSuperFrag settings path).ops = 0 ↔ path.Sound settings := by
  unfold ReadingPath.Sound ReadingPath.writes
  cases step : settings.isSTEPRun with
  | true =>
    have caught : (if path.needed then
        writeDataToFile settings (path.hasWriter settings) path.write else .done).threw =
          false := by
      split
      · exact writeDataToFile_threw _ _
      · rfl
    simp only [if_true, continueSTEPRun]
    rw [gives_continueReading caught, gives_createFileWriter]
    cases needed : path.needed with
    | true => simp [gives_writeDataToFile]
    | false => simp
  | false =>
    simp only [Bool.false_eq_true, if_false, continueConstructionOfSuperFrag]
    rw [gives_continueReading (writeDataWithContextToFile_threw _ _), gives_createFileWriter,
      gives_writeDataWithContextToFile]
    simp

lemma handler_threw (reported) : (handler reported).threw = !reported := by
  cases reported <;> rfl

@[simp] lemma gives_handler (reported) : gives (handler reported).ops = 0 := by
  cases reported <;> rfl

lemma processAndCommunicate_clean (pass) :
    (gives (processAndCommunicate settings pass).ops = 0 ∧
      (processAndCommunicate settings pass).threw = false) ↔ pass.Clean settings := by
  cases pass with
  | pending sends reported =>
    cases sends <;> cases reported <;> simp [processAndCommunicate, PassPath.Clean, handler]
  | reading path reported =>
    simp only [processAndCommunicate, PassPath.Clean, gives_catching, threw_catching,
      reading_threw, gives_handler, ite_self, Nat.add_zero, gives_reading, handler_threw]
    cases path.reads <;> cases path.throws <;> cases reported <;> simp

lemma gives_readOut (path state) :
    gives (readOut settings path state) = 0 ↔
      (state = .enabled → path.pass.Clean settings) := by
  cases state with
  | halted => simp [readOut]
  | failed => simp [readOut]
  | ready => simp [readOut]
  | enabled =>
    rw [← processAndCommunicate_clean]
    simp only [readOut, forall_const]
    cases (processAndCommunicate settings path.pass).threw with
    | true => simp
    | false => simp

lemma workLoopAction_once (path state) :
    gives (workLoopAction settings path state) = 1 ↔
      (state = .enabled → path.pass.Clean settings) := by
  have last : gives [(.give : Op FsmState)] = 1 := rfl
  rw [← gives_readOut, workLoopAction, gives_append]
  omega

lemma workLoopAction_givesLast (path state) :
    GivesLast (workLoopAction settings path state) ↔
      gives (workLoopAction settings path state) = 1 :=
  givesLast_iff_once rfl

end EmuLib.Semaphore.Rui
