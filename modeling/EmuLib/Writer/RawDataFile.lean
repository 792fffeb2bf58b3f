import Mathlib.Data.List.Basic

/-!
The writer of raw data files: a run is written to one file after the other, a new one being
opened between two events once the last one has grown too large.
-/

namespace EmuLib.Writer

/-- The stream is open exactly when there is a current file; `failbit` is the state of the
stream that makes every write fail. -/
structure RawDataFile where
  maxFileSize : Nat
  closedFiles : List (List UInt8)
  currentFile : Option (List UInt8)
  failbit : Bool
  bytesInFileCounter : Nat
  eventsInFileCounter : Nat
  filesInRunCounter : Nat
  bytesInRunCounter : Nat
  eventsInRunCounter : Nat

def RawDataFile.constructed (maxFileSize : Nat) : RawDataFile :=
  ⟨maxFileSize, [], none, false, 0, 0, 0, 0, 0⟩

namespace RawDataFile

def closeFile (writer : RawDataFile) : RawDataFile :=
  { writer with
    closedFiles := writer.closedFiles ++ writer.currentFile.toList
    currentFile := none }

def openFile (opens : Bool) (writer : RawDataFile) : RawDataFile × Bool :=
  let opened := { writer with
    bytesInFileCounter := 0
    eventsInFileCounter := 0
    filesInRunCounter := writer.filesInRunCounter + 1 }
  match writer.currentFile with
  -- a stream that is open already fails, and is still open
  | some _ => ({ opened with failbit := true }, true)
  | none =>
    if opens then ({ opened with currentFile := some [], failbit := false }, true)
    else ({ writer with failbit := true }, false)

def startNewRun (opens : Bool) (writer : RawDataFile) : RawDataFile × Bool :=
  openFile opens { writer with bytesInRunCounter := 0, eventsInRunCounter := 0 }

def startNewEvent (opens : Bool) (writer : RawDataFile) : RawDataFile × Bool :=
  let counted := { writer with
    eventsInFileCounter := writer.eventsInFileCounter + 1
    eventsInRunCounter := writer.eventsInRunCounter + 1 }
  if writer.bytesInFileCounter > writer.maxFileSize then openFile opens counted.closeFile
  else (counted, true)

def writeData (accepts : Bool) (buf : List UInt8) (writer : RawDataFile) : RawDataFile × Bool :=
  match writer.currentFile with
  | none => ({ writer with failbit := true }, false)
  | some content =>
    if accepts && !writer.failbit then
      ({ writer with
          currentFile := some (content ++ buf)
          bytesInFileCounter := writer.bytesInFileCounter + buf.length
          bytesInRunCounter := writer.bytesInRunCounter + buf.length }, true)
    else ({ writer with failbit := true }, false)

def written (writer : RawDataFile) : List UInt8 :=
  writer.closedFiles.flatten ++ writer.currentFile.getD []

def Usable (writer : RawDataFile) : Prop :=
  writer.currentFile.isSome = true ∧ writer.failbit = false

structure Writes (data : List UInt8) (writer : RawDataFile) (result : RawDataFile × Bool) :
    Prop where
  succeeded : result.2 = true
  usable : result.1.Usable
  appended : result.1.written = writer.written ++ data

variable {writer : RawDataFile} {data : List UInt8}

lemma openFile_writes (closed : writer.currentFile = none) :
    Writes [] writer (openFile true writer) := by
  simp only [openFile, closed, if_true]
  constructor
  · rfl
  · exact ⟨rfl, rfl⟩
  · simp [written, closed]

lemma startNewRun_writes (closed : writer.currentFile = none) :
    Writes [] writer (startNewRun true writer) := by
  have opened := @openFile_writes
    { writer with bytesInRunCounter := 0, eventsInRunCounter := 0 } closed
  exact ⟨opened.succeeded, opened.usable, opened.appended⟩

lemma closeFile_written : writer.closeFile.written = writer.written := by
  cases current : writer.currentFile <;> simp [written, closeFile, current]

lemma startNewEvent_writes (usable : writer.Usable) :
    Writes [] writer (startNewEvent true writer) := by
  unfold startNewEvent
  split
  · have opened := @openFile_writes ({ writer with
      eventsInFileCounter := writer.eventsInFileCounter + 1
      eventsInRunCounter := writer.eventsInRunCounter + 1 } : RawDataFile).closeFile rfl
    refine ⟨opened.succeeded, opened.usable, opened.appended.trans ?_⟩
    rw [closeFile_written]
    rfl
  · exact ⟨rfl, usable, (List.append_nil _).symm⟩

lemma writeData_writes (usable : writer.Usable) :
    Writes data writer (writeData true data writer) := by
  obtain ⟨isOpen, sound⟩ := usable
  cases current : writer.currentFile with
  | none => simp [current] at isOpen
  | some content =>
    simp only [writeData, current, sound, Bool.not_false, Bool.and_self, if_true]
    constructor
    · rfl
    · exact ⟨rfl, rfl⟩
    · simp [written, current]

end RawDataFile

end EmuLib.Writer
