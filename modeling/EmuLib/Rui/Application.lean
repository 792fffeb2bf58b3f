import Mathlib.Data.List.Basic

/-!
The readout unit interface: it reads data blocks from its device reader, builds
super-fragments of the blocks of each event for the readout unit of the event
builder, writes the data to file and hands them to the servers of its clients.
-/

namespace EmuLib.Rui

inductive Format where
  | ddu
  | dcc
  | dmb
  deriving DecidableEq

def maxL1A : Nat := 0xffffff

/-- A block of data as the device reader hands it over: `byte` is the memory around it. -/
structure DataBlock where
  length : Nat
  byte : Int → UInt8

def DataBlock.bytes (block : DataBlock) : List UInt8 :=
  (List.range block.length).map fun offset : Nat => block.byte offset

def DataBlock.halfWord (block : DataBlock) (offset : Int) : Nat :=
  (block.byte offset).toNat + 256 * (block.byte (offset + 1)).toNat

def DataBlock.shortData (block : DataBlock) (index : Nat) : Nat :=
  block.halfWord (2 * index : Nat)

def hasHeader (inputDataFormat : Format) (block : DataBlock) : Bool :=
  let short := block.shortData
  match inputDataFormat with
  | .ddu =>
    24 ≤ block.length && (short 3 &&& 0xf000) == 0x5000 && short 5 == 0x8000 &&
      short 6 == 0x0001 && short 7 == 0x8000
  | .dcc =>
    16 ≤ block.length && (short 0 &&& 0x00ff) == 0x005f && (short 3 &&& 0xf000) == 0x5000 &&
      (short 7 &&& 0xff00) == 0xd900
  | .dmb =>
    16 ≤ block.length && (short 0 &&& 0xf000) == 0x9000 && (short 1 &&& 0xf000) == 0x9000 &&
      (short 2 &&& 0xf000) == 0x9000 && (short 3 &&& 0xf000) == 0x9000 &&
      (short 4 &&& 0xf000) == 0xa000 && (short 5 &&& 0xf000) == 0xa000 &&
      (short 6 &&& 0xf000) == 0xa000 && (short 7 &&& 0xf000) == 0xa000

def hasTrailer (inputDataFormat : Format) (block : DataBlock) : Bool :=
  match inputDataFormat with
  | .ddu =>
    if 24 ≤ block.length then
      let short := fun index => block.shortData ((block.length - 24) / 2 + index)
      short 0 == 0x8000 && short 1 == 0x8000 && short 2 == 0xffff && short 3 == 0x8000 &&
        (short 11 &&& 0xf000) == 0xa000
    else if block.length = 16 ∨ block.length = 8 then
      (block.shortData ((block.length - 8) / 2 + 3) &&& 0xf000) == 0xa000
    else false
  | .dcc =>
    let short := fun index => block.shortData ((block.length - 16) / 2 + index)
    16 ≤ block.length && (short 3 &&& 0xff00) == 0xef00 && (short 4 &&& 0x000f) == 0x0003 &&
      (short 7 &&& 0xff00) == 0xaf00
  | .dmb =>
    let short := fun index => block.shortData ((block.length - 16) / 2 + index)
    16 ≤ block.length && (short 0 &&& 0xf000) == 0xf000 && (short 1 &&& 0xf000) == 0xf000 &&
      (short 2 &&& 0xf000) == 0xf000 && (short 3 &&& 0xf000) == 0xf000 &&
      (short 4 &&& 0xf000) == 0xe000 && (short 5 &&& 0xf000) == 0xe000 &&
      (short 6 &&& 0xf000) == 0xe000 && (short 7 &&& 0xf000) == 0xe000

def interestingDDUErrorBitPattern (block : DataBlock) : Bool :=
  let trailerShortWord := fun index : Nat => block.halfWord (block.length - 24 + 2 * index)
  (trailerShortWord 6 &&& 0x4000) != 0 || (trailerShortWord 8 &&& 0x0010) != 0 ||
    (trailerShortWord 6 &&& 0x2000) != 0

structure Block where
  eventNumber : Nat
  blockNb : Nat
  nbBlocksInSuperFragment : Nat
  data : List UInt8
  deriving DecidableEq

structure Config where
  passDataOnToRUBuilder : Bool
  inputDataFormat : Format
  maxEvents : Int
  deriving DecidableEq

structure Application where
  superFragBlocks : List Block
  blocksArePendingTransmission : Bool
  eventNumber : Nat
  previousEventNumber : Nat
  nEventsRead : Nat
  nReadingPassesInEvent : Nat
  insideEvent : Bool
  errorFlag : Nat
  deviceIsResetAndEnabled : Bool
  deriving DecidableEq

def Application.constructed : Application := ⟨[], false, 1, 0, 0, 0, false, 0, false⟩

structure Position where
  startsEvent : Bool
  endsEvent : Bool
  deriving DecidableEq

/-- What a call of the device reader yields, and whether the device could be reset and
enabled if that was tried before. -/
structure Reading where
  enables : Bool
  nBytesRead : Nat
  errorFlag : Nat
  data : Option DataBlock
  eventNumber : Fin 0x1000000

/-- The state of the memory pool during one pass: how many frames it yields for empty
events before it fails, and whether it yields one for the data. -/
structure Pool where
  isHighThresholdExceeded : Bool
  emptyFrames : Nat
  dataFrame : Bool

/-- What a pass does outside the state of the super-fragments, in the order it does it. -/
inductive Call where
  | resetAndEnable (succeeds : Bool)
  | createFileWriter
  | sendEventNumberToTA (eventNumber : Nat)
  | writeDataWithContextToFile (data : List UInt8) (newEvent isBadEvent : Bool)
  | makeClientsLastBlockEndEvent
  | addDataForClients (nEventsRead : Nat) (position : Position) (errorFlag : Nat)
      (data : List UInt8)
  deriving DecidableEq

inductive Outcome where
  | notToBeRescheduled
  | extraPauseForOtherThreads
  | noExtraPauseForOtherThreads
  | threw
  deriving DecidableEq

structure Pass where
  rui : Application
  calls : List Call
  outcome : Outcome
  deriving DecidableEq

def fillBlock (data : List UInt8) (eventNumber : Nat) : Block :=
  if data = [] then ⟨eventNumber, 0, 1, []⟩ else ⟨eventNumber, 0, 0, data⟩

def appendNewBlockToSuperFrag (rui : Application) (data : List UInt8) (eventNumber : Nat) : Application :=
  { rui with superFragBlocks := rui.superFragBlocks ++ [fillBlock data eventNumber] }

/-- The first loop of `finalizeSuperFragment` counts and numbers the blocks of the event. -/
def numberBlocks (eventNumber : Nat) : Nat → List Block → List Block × Nat
  | blockCount, [] => ([], blockCount)
  | blockCount, block :: rest =>
    if block.eventNumber = eventNumber then
      let numbered := numberBlocks eventNumber (blockCount + 1) rest
      ({ block with blockNb := blockCount } :: numbered.1, numbered.2)
    else
      let numbered := numberBlocks eventNumber blockCount rest
      (block :: numbered.1, numbered.2)

def finalizeSuperFragment (rui : Application) : Application :=
  let numbered := numberBlocks rui.eventNumber 0 rui.superFragBlocks
  { rui with
    superFragBlocks := numbered.1.map fun block =>
      if block.eventNumber = rui.eventNumber then
        { block with nbBlocksInSuperFragment := numbered.2 }
      else block }

/-- The loop of `insertEmptySuperFragments` over so many event numbers, with the frames that
it leaves in the pool, or none if the pool failed. -/
def insertEmptySuperFragments : Nat → Nat → Nat → Application → Application × Option Nat
  | 0, _, frames, rui => (rui, some frames)
  | _ + 1, _, 0, rui => (rui, none)
  | count + 1, eventNumber, frames + 1, rui =>
    let appended := appendNewBlockToSuperFrag rui [] eventNumber
    insertEmptySuperFragments count (eventNumber + 1) frames
      { appended with
        nEventsRead := rui.nEventsRead + 1
        previousEventNumber := eventNumber }

def ensureContiguousEventNumber (frames : Nat) (rui : Application) : Application :=
  if rui.previousEventNumber = 0 then rui
  else if rui.previousEventNumber < rui.eventNumber then
    (insertEmptySuperFragments (rui.eventNumber - (rui.previousEventNumber + 1))
      (rui.previousEventNumber + 1) frames rui).1
  else if rui.previousEventNumber > rui.eventNumber then
    -- the second half is reached only if the pool had frames for the first
    let wrapped := insertEmptySuperFragments (maxL1A - rui.previousEventNumber)
      (rui.previousEventNumber + 1) frames rui
    match wrapped.2 with
    | none => wrapped.1
    | some left => (insertEmptySuperFragments rui.eventNumber 0 left wrapped.1).1
  else rui

def finalizeIfPassedOn (config : Config) (rui : Application) : Application :=
  if config.passDataOnToRUBuilder then finalizeSuperFragment rui else rui

def startEvent (config : Config) (reading : Reading) (pool : Pool) (rui : Application) : Application :=
  let renumbered := { rui with eventNumber := reading.eventNumber }
  let ensured :=
    if config.passDataOnToRUBuilder then ensureContiguousEventNumber pool.emptyFrames renumbered
    else renumbered
  { ensured with nReadingPassesInEvent := 1 }

def endEvent (config : Config) (rui : Application) : Application :=
  { finalizeIfPassedOn config rui with
    insideEvent := false
    previousEventNumber := rui.eventNumber
    nEventsRead := rui.nEventsRead + 1
    blocksArePendingTransmission := config.passDataOnToRUBuilder }

/-- The block read is appended if it is passed on and the pool has room for it; without a
frame for it the pass ends there. -/
def appendBlockRead (config : Config) (pool : Pool) (data : List UInt8) (rui : Application) :
    Option Application :=
  if config.passDataOnToRUBuilder && !pool.isHighThresholdExceeded then
    if pool.dataFrame then some (appendNewBlockToSuperFrag rui data rui.eventNumber) else none
  else some rui

def abandonEvent (config : Config) (rui : Application) : Application :=
  { finalizeIfPassedOn config rui with
    previousEventNumber := rui.eventNumber
    nEventsRead := rui.nEventsRead + 1 }

def beforeAppending (config : Config) (reading : Reading) (pool : Pool) (header : Bool)
    (rui : Application) : Application :=
  if header then
    startEvent config reading pool (if rui.insideEvent then abandonEvent config rui else rui)
  else rui

def afterAppending (config : Config) (trailer : Bool) (rui : Application) : Application :=
  let inside := { rui with insideEvent := true }
  if trailer then endEvent config inside else inside

/-- The part of `continueConstructionOfSuperFrag` that handles a block of data. -/
def takeBlock (config : Config) (reading : Reading) (pool : Pool) (block : DataBlock)
    (rui : Application) : Pass :=
  let header := hasHeader config.inputDataFormat block
  let trailer := hasTrailer config.inputDataFormat block
  let isBadEvent := trailer && config.inputDataFormat == .ddu && interestingDDUErrorBitPattern block
  let errorFlag := rui.errorFlag ||| (if header then 0 else 0x0040) ||| (if trailer then 0 else 0x0080)
  let flagged := { rui with errorFlag := errorFlag }
  let newEvent := if rui.insideEvent then header else header || trailer
  let calls := .writeDataWithContextToFile block.bytes newEvent isBadEvent ::
    if rui.insideEvent && header then [.makeClientsLastBlockEndEvent] else []
  let started := beforeAppending config reading pool header flagged
  match appendBlockRead config pool block.bytes started with
  | none => ⟨started, calls, .threw⟩
  | some appended =>
    let ended := afterAppending config trailer appended
    ⟨ended, calls ++ [.addDataForClients ended.nEventsRead ⟨header, trailer⟩ errorFlag block.bytes],
      .noExtraPauseForOtherThreads⟩

def prepareReading (reading : Reading) (rui : Application) : Application × List Call :=
  if rui.nEventsRead = 0 ∧ rui.deviceIsResetAndEnabled = false then
    ({ rui with deviceIsResetAndEnabled := reading.enables }, [.resetAndEnable reading.enables])
  else (rui, [])

def startPass (reading : Reading) (rui : Application) : Application × List Call :=
  let passed := { rui with
    errorFlag := reading.errorFlag
    nReadingPassesInEvent := rui.nReadingPassesInEvent + 1 }
  if passed.nEventsRead = 0 ∧ passed.nReadingPassesInEvent = 1 then
    ({ passed with insideEvent := false },
      [.createFileWriter, .sendEventNumberToTA reading.eventNumber])
  else (passed, [])

def continueConstructionOfSuperFrag (config : Config) (reading : Reading) (pool : Pool)
    (rui : Application) : Pass :=
  if 0 ≤ config.maxEvents ∧ config.maxEvents ≤ rui.nEventsRead then
    ⟨rui, [], .notToBeRescheduled⟩
  else
    let prepared := prepareReading reading rui
    if reading.nBytesRead = 0 then ⟨prepared.1, prepared.2, .extraPauseForOtherThreads⟩
    else
      let started := startPass reading prepared.1
      let calls := prepared.2 ++ started.2
      match reading.data with
      | none => ⟨started.1, calls, .noExtraPauseForOtherThreads⟩
      | some block =>
        if block.length = 0 then ⟨started.1, calls, .noExtraPauseForOtherThreads⟩
        else
          let taken := takeBlock config reading pool block started.1
          { taken with calls := calls ++ taken.calls }

/-- Sending the front block takes it off the queue, unless the frame cannot be posted.  The
front of an empty queue is nothing that the source defines. -/
def sendNextPendingBlock (posted : Bool) (rui : Application) : Option Application :=
  match rui.superFragBlocks with
  | [] => none
  | _ :: rest =>
    if posted then
      some { rui with
        superFragBlocks := rest
        blocksArePendingTransmission := !rest.isEmpty }
    else some rui

structure PassInput where
  reading : Reading
  pool : Pool
  posted : Bool

def processAndCommunicate (config : Config) (rui : Application) (input : PassInput) : Application :=
  if rui.blocksArePendingTransmission then (sendNextPendingBlock input.posted rui).getD rui
  else (continueConstructionOfSuperFrag config input.reading input.pool rui).rui

def configureAction (rui : Application) : Application :=
  { rui with
    nReadingPassesInEvent := 0
    insideEvent := false
    errorFlag := 0
    nEventsRead := 0
    deviceIsResetAndEnabled := false }

def haltAction (rui : Application) : Application :=
  { rui with
    superFragBlocks := []
    blocksArePendingTransmission := false
    eventNumber := 1
    previousEventNumber := 0 }

end EmuLib.Rui
