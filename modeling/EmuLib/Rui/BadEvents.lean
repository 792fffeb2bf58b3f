import EmuLib.Lib.GuardedRun
import EmuLib.Rui.EventBufferRing
import EmuLib.Rui.Passes

/-!
Writing the data to file: all of them, or the bad events only with the events before and after
them.
-/

namespace EmuLib.Rui

open GuardedRun RingList

variable {Byte : Type*}

def word64 : Nat := 0x10000000000000000

structure FileSettings where
  writeBadEventsOnly : Bool
  nToWriteBeforeBadEvent : Nat
  nToWriteAfterBadEvent : Nat

structure Writing where
  eventStarted : Bool
  accepted : Bool
  written : Bool

/-- `fileWriter` is what has been written by the file writer, if there is one. -/
structure Output (Byte : Type*) where
  fileWriter : Option (List Byte)
  rateLimiter : Bool
  fileWritingVetoed : Bool
  ableToWriteToDisk : Bool
  failed : Bool

namespace Output

def caught (settings : FileSettings) (output : Output Byte) : Output Byte :=
  if settings.writeBadEventsOnly then { output with ableToWriteToDisk := false }
  else { output with failed := true }

def writeDataToFile (settings : FileSettings) (output : Output Byte) (data : List Byte)
    (newEvent : Bool) (writing : Writing) : Output Byte :=
  match output.fileWriter with
  | none => output
  | some written =>
    if newEvent && !writing.eventStarted then output.caught settings
    else
      let vetoed := { output with
        fileWritingVetoed :=
          if newEvent && output.rateLimiter then !writing.accepted
          else output.fileWritingVetoed }
      if vetoed.fileWritingVetoed then vetoed
      else if writing.written then
        { vetoed with fileWriter := some (written ++ data), ableToWriteToDisk := true }
      else vetoed.caught settings

def writeEvents (settings : FileSettings) :
    List (List Byte) → (Nat → Writing) → Output Byte → Output Byte
  | [], _, output => output
  | event :: rest, writing, output =>
    writeEvents settings rest (fun turn => writing (turn + 1))
      (output.writeDataToFile settings event true (writing 0))

end Output

def passesPrescaling (count : Nat) : Bool :=
  if 10000000 ≤ count then count % 10000000 == 0
  else if 1000000 ≤ count then count % 1000000 == 0
  else if 100000 ≤ count then count % 100000 == 0
  else if 10000 ≤ count then count % 10000 == 0
  else if 1000 ≤ count then count % 1000 == 0
  else if 100 ≤ count then count % 100 == 0
  else if 10 ≤ count then count % 10 == 0
  else true

structure Recording (Byte : Type*) where
  output : Output Byte
  eventBufferRing : EventBufferRing Byte
  countSinceBadEvent : Nat
  badEventCount : Nat

namespace Recording

/-- The part of `configureAction` that manages bad events and their context. -/
def configure (settings : FileSettings) (recording : Recording Byte) : Recording Byte :=
  if settings.writeBadEventsOnly then
    { recording with
      eventBufferRing := EventBufferRing.emptyEventBuffers
        (EventBufferRing.setSize recording.eventBufferRing settings.nToWriteBeforeBadEvent)
      countSinceBadEvent := (settings.nToWriteAfterBadEvent + 1) % word64
      badEventCount := 0 }
  else { recording with badEventCount := 0 }

def isInTrailingContext (settings : FileSettings) (recording : Recording Byte) : Bool :=
  decide (recording.countSinceBadEvent ≤ settings.nToWriteAfterBadEvent)

def writeTrailingContext (settings : FileSettings) (recording : Recording Byte) (data : List Byte)
    (newEvent : Bool) (writing : Writing) : Recording Byte :=
  { recording with
    output := recording.output.writeDataToFile settings data newEvent writing
    countSinceBadEvent :=
      if newEvent then (recording.countSinceBadEvent + 1) % word64
      else recording.countSinceBadEvent }

def buffer (recording : Recording Byte) (data : List Byte) (newEvent : Bool) : Recording Byte :=
  { recording with
    eventBufferRing := EventBufferRing.addData recording.eventBufferRing data newEvent }

def handleBadEvent (settings : FileSettings) (recording : Recording Byte)
    (writing : Nat → Writing) : Recording Byte :=
  let emptied := { recording with
    eventBufferRing := EventBufferRing.emptyEventBuffers recording.eventBufferRing
    badEventCount := (recording.badEventCount + 1) % word64 }
  if passesPrescaling emptied.badEventCount then
    { emptied with
      output := recording.output.writeEvents settings
        (EventBufferRing.getEventBuffers recording.eventBufferRing) writing
      countSinceBadEvent := 0 }
  else emptied

def writeDataWithContextToFile (settings : FileSettings) (recording : Recording Byte)
    (data : List Byte) (newEvent isBadEvent : Bool) (writing : Nat → Writing) : Recording Byte :=
  if settings.writeBadEventsOnly then
    if recording.isInTrailingContext settings then
      recording.writeTrailingContext settings data newEvent (writing 0)
    else
      let buffered := recording.buffer data newEvent
      if isBadEvent then buffered.handleBadEvent settings writing else buffered
  else
    { recording with
      output := recording.output.writeDataToFile settings data newEvent (writing 0) }

end Recording

structure BlockRead (Byte : Type*) where
  data : List Byte
  header : Bool
  trailer : Bool
  isBadEvent : Bool
  nonempty : data ≠ []
  bad_trailer : isBadEvent = true → trailer = true

def isNewEvent (insideEvent header trailer : Bool) : Bool :=
  if insideEvent then header else header || trailer

def addToLast {Item : Type*} : List (List Item) → Item → List (List Item)
  | [], item => [[item]]
  | [last], item => [last ++ [item]]
  | first :: next :: rest, item => first :: addToLast (next :: rest) item

/-- A block, whether the pass that reads it is completed (and not cut short for want of a frame
for the block), and how the calls for writing it turn out. -/
structure ReadingOfBlock (Byte : Type*) where
  block : BlockRead Byte
  completed : Bool
  writing : Nat → Writing

/-- The application reading blocks. `events` are those that it has read, and `unfinished` says
whether the last one has not had its trailer. -/
structure Tape (Byte : Type*) where
  recording : Recording Byte
  insideEvent : Bool
  events : List (List (List Byte))
  unfinished : Bool

namespace Tape

def configured (settings : FileSettings) (recording : Recording Byte) : Tape Byte :=
  ⟨recording.configure settings, false, [], false⟩

def startsEvent (tape : Tape Byte) (block : BlockRead Byte) : Bool :=
  block.header || !tape.unfinished

def read (settings : FileSettings) (tape : Tape Byte) (reading : ReadingOfBlock Byte) :
    Tape Byte where
  recording := tape.recording.writeDataWithContextToFile settings reading.block.data
    (isNewEvent tape.insideEvent reading.block.header reading.block.trailer)
    reading.block.isBadEvent reading.writing
  insideEvent := if reading.completed then !reading.block.trailer else tape.insideEvent
  events :=
    if tape.startsEvent reading.block then tape.events ++ [[reading.block.data]]
    else addToLast tape.events reading.block.data
  unfinished := !reading.block.trailer

end Tape

end EmuLib.Rui
