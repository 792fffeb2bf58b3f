import EmuLib.Fu.EmuEventHeaderTrailer
import EmuLib.Writer.RawDataFile

/-!
The filter unit: it takes the blocks of an event from the builder unit, writes the event to
file, and asks for another one.
-/

namespace EmuLib.Fu

open Writer (RawDataFile)

def word32 : Nat := 0x100000000

inductive FsmState
  | halted
  | ready
  | enabled
  | failed
  deriving DecidableEq, Repr

/-- A block of an `I2O_FU_TAKE` message, with the payload behind its frame. -/
structure DataBlock where
  eventNumber : UInt32
  buResourceId : UInt32
  superFragmentNb : Nat
  nbSuperFragmentsInEvent : Nat
  blockNb : Nat
  nbBlocksInSuperFragment : Nat
  payload : List UInt8
  deriving DecidableEq

inductive BuMessage
  | discard (buResourceId : UInt32)
  | allocate (nbEvents : Nat)
  deriving DecidableEq

structure PositionInEvent where
  startsEvent : Bool
  endsEvent : Bool
  deriving DecidableEq

structure ClientData where
  runNumber : Nat
  runStartUTC : Nat
  nEventsRead : Nat
  position : PositionInEvent
  data : List UInt8
  deriving DecidableEq

/-- How the file writer and the network take the calls that are made for one block. -/
structure Response where
  startNewRun : Bool
  startNewEvent : Bool
  header : Bool
  payload : Bool
  trailer : Bool
  discard : Bool
  allocate : Bool
  deriving DecidableEq

def Response.fine : Response := ⟨true, true, true, true, true, true, true⟩

/-- `superFragment` is the chain from `superFragmentHead_` to `superFragmentTail_`. The last
three fields collect what the application has done to the outside: the chains it released, in
one call each, and what it sent to the builder unit and to the servers. -/
structure Application where
  currentState : FsmState
  faultDetected : Bool
  runNumber : Nat
  runStartUTC : Nat
  CSCConfigId : UInt32
  TFConfigId : UInt32
  fileWriter : Option RawDataFile
  emuEventHeaderTrailer : EmuEventHeaderTrailer
  nbEventsProcessed : Nat
  superFragment : List DataBlock
  released : List (List DataBlock)
  toBU : List BuMessage
  forClients : List ClientData

def Application.constructed (CSCConfigId TFConfigId : UInt32) : Application where
  currentState := .halted
  faultDetected := false
  runNumber := 1
  runStartUTC := 0
  CSCConfigId := CSCConfigId
  TFConfigId := TFConfigId
  fileWriter := none
  emuEventHeaderTrailer := .constructed false false false
  nbEventsProcessed := 0
  superFragment := []
  released := []
  toBU := []
  forClients := []

namespace DataBlock

def superFragmentIsLastOfEvent (block : DataBlock) : Bool :=
  block.superFragmentNb == (block.nbSuperFragmentsInEvent + (word32 - 1)) % word32

def blockIsLastOfSuperFragment (block : DataBlock) : Bool :=
  block.blockNb == (block.nbBlocksInSuperFragment + (word32 - 1)) % word32

def blockIsLastOfEvent (block : DataBlock) : Bool :=
  block.superFragmentIsLastOfEvent && block.blockIsLastOfSuperFragment

def superFragmentIsFirstOfEvent (block : DataBlock) : Bool := block.superFragmentNb == 0

def blockIsFirstOfSuperFragment (block : DataBlock) : Bool := block.blockNb == 0

def blockIsFirstOfEvent (block : DataBlock) : Bool :=
  block.superFragmentIsFirstOfEvent && block.blockIsFirstOfSuperFragment

def positionInEvent (block : DataBlock) : PositionInEvent :=
  ⟨block.blockIsFirstOfEvent, block.blockIsLastOfEvent⟩

end DataBlock

def moveToFailedState (fu : Application) : Application := { fu with currentState := .failed }

/-- A call of the file writer, if there is one; a string that it throws moves the application
to the failed state, and the block is processed all the same. -/
def callWriter (call : RawDataFile → RawDataFile × Bool) (fu : Application) : Application :=
  match fu.fileWriter with
  | none => fu
  | some writer =>
    let called := { fu with fileWriter := some (call writer).1 }
    if (call writer).2 then called else moveToFailedState called

def startEvent (response : Response) (fu : Application) : Application :=
  let inRun :=
    if fu.nbEventsProcessed = 0 then callWriter (RawDataFile.startNewRun response.startNewRun) fu
    else fu
  callWriter (RawDataFile.startNewEvent response.startNewEvent) inRun

def writeHeader (response : Response) (block : DataBlock) (fu : Application) : Application :=
  if fu.fileWriter.isSome then
    -- one super-fragment (the first) is the trigger, which must be subtracted
    let wrapping := fu.emuEventHeaderTrailer.stamp block.eventNumber
      (UInt16.ofNat ((block.nbSuperFragmentsInEvent + (word32 - 1)) % word32))
      fu.CSCConfigId fu.TFConfigId
    callWriter (RawDataFile.writeData response.header wrapping.header.bytes)
      { fu with emuEventHeaderTrailer := wrapping }
  else fu

def addDataForClients (block : DataBlock) (fu : Application) : Application :=
  { fu with forClients := fu.forClients ++
      [⟨fu.runNumber, fu.runStartUTC, fu.nbEventsProcessed, block.positionInEvent,
        block.payload⟩] }

def writePayload (response : Response) (block : DataBlock) (fu : Application) : Application :=
  addDataForClients block
    (callWriter (RawDataFile.writeData response.payload block.payload) fu)

def appendBlockToSuperFragment (block : DataBlock) (fu : Application) : Application :=
  { fu with superFragment := fu.superFragment ++ [block] }

def releaseSuperFragment (fu : Application) : Application :=
  if fu.superFragment = [] then fu
  else { fu with superFragment := [], released := fu.released ++ [fu.superFragment] }

def discardAndAllocate (response : Response) (block : DataBlock) (fu : Application) :
    Application :=
  if response.discard then
    { fu with toBU := fu.toBU ++ [.discard block.buResourceId] ++
        if response.allocate then [.allocate 1] else [] }
  else fu

def endEvent (response : Response) (block : DataBlock) (fu : Application) : Application :=
  let wrapped := callWriter
    (RawDataFile.writeData response.trailer fu.emuEventHeaderTrailer.trailer.bytes) fu
  discardAndAllocate response block
    { wrapped with nbEventsProcessed := wrapped.nbEventsProcessed + 1 }

def startBlock (response : Response) (block : DataBlock) (fu : Application) : Application :=
  if block.blockIsFirstOfEvent then writeHeader response block (startEvent response fu) else fu

def continueBlock (response : Response) (block : DataBlock) (fu : Application) : Application :=
  -- the block is written unless it is of the first super-fragment (the trigger)
  let written :=
    if block.superFragmentIsFirstOfEvent then fu else writePayload response block fu
  let appended := appendBlockToSuperFragment block written
  let freed :=
    if block.blockIsLastOfSuperFragment then releaseSuperFragment appended else appended
  if block.blockIsLastOfEvent then endEvent response block freed else freed

def processDataBlock (response : Response) (block : DataBlock) (fu : Application) :
    Application :=
  continueBlock response block (startBlock response block fu)

/-- The message may be a chain; in the enabled state its blocks are processed one by one, and
otherwise it is released as a whole. -/
def I2O_FU_TAKE_Callback (chain : List (DataBlock × Response)) (fu : Application) :
    Application :=
  match fu.currentState with
  | .enabled =>
    if fu.faultDetected then { fu with released := fu.released ++ [chain.map Prod.fst] }
    else chain.foldl (fun current entry => processDataBlock entry.2 entry.1 current) fu
  | .halted => { fu with released := fu.released ++ [chain.map Prod.fst] }
  | .failed => { fu with released := fu.released ++ [chain.map Prod.fst] }
  | .ready => { fu with released := fu.released ++ [chain.map Prod.fst] }

/-- `path` says whether a path and a size for the file are set, `ruiZero` whether there is the
readout unit of the Track Finder. -/
structure Settings where
  path : Bool
  fileSizeInMegaBytes : Nat
  isCalibrationRun : Bool
  ruiZeroExists : Bool

def Settings.writesFile (settings : Settings) : Bool :=
  settings.path && decide (0 < settings.fileSizeInMegaBytes)

def Settings.wrapping (settings : Settings) : EmuEventHeaderTrailer :=
  .constructed settings.isCalibrationRun (!settings.isCalibrationRun) settings.ruiZeroExists

def configureAction (settings : Settings) (fu : Application) : Application :=
  let cleaned := releaseSuperFragment fu
  { cleaned with
    faultDetected := false
    nbEventsProcessed := 0
    fileWriter :=
      if settings.writesFile then
        some (.constructed (1000000 * settings.fileSizeInMegaBytes % word32))
      else none
    emuEventHeaderTrailer := settings.wrapping
    runStartUTC := 0 }

/-- Once enabled, the application asks for as many events as it wants to be outstanding. -/
def enable (nbOutstandingRqsts : Nat) (fu : Application) : Application :=
  { fu with
    currentState := .enabled
    toBU := fu.toBU ++ [.allocate nbOutstandingRqsts] }

end EmuLib.Fu
