import EmuLib.Lib.WordFlash
import EmuLib.Vme.McsFile

/-!
Firmware that is programmed from MCS files into the EPROMs of the DCFEBs and the ODMB, and read
back.
-/

namespace EmuLib.Daqmb

open WordFlash Vme

def xpromReadN : Nat := 0x04
def xpromBlockErase : Nat := 0x0a
def xpromBufferProgram : Nat := 0x0c
def xpromBlockLock : Nat := 0x13
def xpromBlockUnLock : Nat := 0x14
def xpromLoadAddress : Nat := 0x17
def xpromTimerStart : Nat := 0x19
def xpromTimerStop : Nat := 0x1A
def xpromTimerReset : Nat := 0x1B
def xpromClearStatus : Nat := 0x1C

inductive Expecting
  | command
  | address (upper : Nat)
  | data (further : Nat)
deriving DecidableEq

structure Bpi where
  flash : Flash
  expecting : Expecting
  unlocked : Option Nat
  readBack : List Nat

def eraseBlockSize : Nat := 0x10000

def Bpi.command (bpi : Bpi) (opcode count : Nat) : Bpi :=
  let block := bpi.flash.pointer / eraseBlockSize
  if opcode = xpromLoadAddress then { bpi with expecting := .address count }
  else if opcode = xpromBufferProgram then { bpi with expecting := .data count }
  else if opcode = xpromBlockUnLock then { bpi with unlocked := some block }
  else if opcode = xpromBlockLock then { bpi with unlocked := none }
  else if opcode = xpromBlockErase then
    if bpi.unlocked = some block then { bpi with flash := bpi.flash.erase eraseBlockSize 0xFFFF }
    else bpi
  else if opcode = xpromReadN then
    { bpi with
      readBack := bpi.readBack ++ bpi.flash.words (count + 1)
      flash := bpi.flash.skip (count + 1) }
  else bpi

def Bpi.write (bpi : Bpi) (word : Nat) : Bpi :=
  match bpi.expecting with
  | .command => bpi.command (word % 0x20) (word / 0x20)
  | .address upper =>
    { bpi with flash := bpi.flash.load (upper * 0x10000 + word), expecting := .command }
  | .data further =>
    { bpi with
      flash := bpi.flash.program word
      expecting := if further = 0 then .command else .data (further - 1) }

def Bpi.writeAll (bpi : Bpi) (words : List Nat) : Bpi := words.foldl Bpi.write bpi

def withCount (value opcode : Nat) : Nat := (value <<< 5 &&& 0xffe0) ||| opcode

section

/-- Accesses to the hardware, with the number of status readings so far. Where it did not succeed
nothing more is done. -/
structure Sequence (α : Type) where
  accesses : List α
  polled : Nat
  completed : Bool

variable {α : Type}

def Sequence.done (accesses : List α) (polled : Nat) : Sequence α := ⟨accesses, polled, true⟩

def Sequence.andThen (first : Sequence α) (second : Nat → Sequence α) : Sequence α :=
  if first.completed then
    let further := second first.polled
    ⟨first.accesses ++ further.accesses, further.polled, further.completed⟩
  else first

def firmwareSize : Nat := 5464972 / 2

def writeSize : Nat := 0x400

def eraseBlocks : Nat :=
  if 0 < firmwareSize % eraseBlockSize then firmwareSize / eraseBlockSize + 1
  else firmwareSize / eraseBlockSize

def eraseLoop (eraseBlock : Nat → Nat → Sequence α) : Nat → Nat → Nat → Sequence α
  | 0, _, polled => .done [] polled
  | left + 1, i, polled =>
    (eraseBlock i polled).andThen fun polled => eraseLoop eraseBlock left (i + 1) polled

def writeBlockCount : Nat :=
  if 0 < firmwareSize % writeSize then firmwareSize / writeSize + 1 else firmwareSize / writeSize

def lastBlock : Nat :=
  if 0 < firmwareSize % writeSize then firmwareSize % writeSize else writeSize

def bufw (bufin : Nat → UInt8) (index : Nat) : Nat :=
  (bufin (2 * index)).toNat + 0x100 * (bufin (2 * index + 1)).toNat

def wordsFrom (bufin : Nat → UInt8) (start nwords : Nat) : List Nat :=
  (List.range nwords).map fun offset => bufw bufin (start + offset)

def writeLoop (bufin : Nat → UInt8) (writeBlock : Nat → List Nat → Nat → Sequence α) :
    Nat → Nat → Nat → Nat → Sequence α
  | 0, _, _, polled => .done [] polled
  | left + 1, i, fulladdr, polled =>
    let nwords := if i + 1 = writeBlockCount then lastBlock else writeSize
    (writeBlock fulladdr (wordsFrom bufin (i * writeSize) nwords) polled).andThen fun polled =>
      writeLoop bufin writeBlock left (i + 1) (fulladdr + writeSize) polled

/-- The file is not programmed where memory or the file is missing, where it has too few bytes, or
where it is not read to its end. -/
def readFirmware (unset : Unset) (malloc : Option (Nat → UInt8)) (fopen : Option (List Char)) :
    Option (Nat → UInt8) :=
  match malloc, fopen with
  | some bufin, some fin =>
    match readMcs unset bufin fin with
    | .returned mcssize reader => if mcssize < firmwareSize then none else some reader.binbuf
    | .aborted _ => none
    | .hangs _ => none
  | _, _ => none

def nothing : Sequence α := ⟨[], 0, false⟩

end

section

def epromBpiWrite : Nat := 21
def epromBpiReset : Nat := 25
def epromBpiDisable : Nat := 26
def epromBpiEnable : Nat := 27

def vtx6Usr1 : Nat := 0x3C2
def vtx6Usr2 : Nat := 0x3C3
def vtx6Bypass : Nat := 0x3FF

inductive DcfebAccess
  | selector (mask : Nat)
  | cfebDo (comd nbit data : Nat)

open DcfebAccess

def dcfebCore (jfunc nbit data : Nat) : List DcfebAccess :=
  cfebDo vtx6Usr1 8 (jfunc % 0x100) ::
    (if 0 < nbit then [cfebDo vtx6Usr2 nbit data] else []) ++ [cfebDo vtx6Bypass 0 0]

def dcfebXpromDo (command : Nat) : List DcfebAccess := dcfebCore epromBpiWrite 16 command

def dcfebBpiReset : List DcfebAccess := dcfebCore epromBpiReset 0 0
def dcfebBpiDisable : List DcfebAccess := dcfebCore epromBpiDisable 0 0
def dcfebBpiEnable : List DcfebAccess := dcfebCore epromBpiEnable 0 0

def dcfebpromLock : List DcfebAccess := dcfebXpromDo xpromBlockLock
def dcfebpromTimerstart : List DcfebAccess := dcfebXpromDo xpromTimerStart
def dcfebpromTimerstop : List DcfebAccess := dcfebXpromDo xpromTimerStop
def dcfebpromTimerreset : List DcfebAccess := dcfebXpromDo xpromTimerReset
def dcfebpromClearstatus : List DcfebAccess := dcfebXpromDo xpromClearStatus

def dcfebpromMulti (manbuf : List Nat) : List DcfebAccess :=
  cfebDo vtx6Usr1 8 epromBpiWrite :: manbuf.map (cfebDo vtx6Usr2 16) ++ [cfebDo vtx6Bypass 0 0]

def dcfebpromUnlockerase : List DcfebAccess := dcfebpromMulti [xpromBlockUnLock, xpromBlockErase]

def dcfebpromLoadaddress (uaddr laddr : Nat) : List DcfebAccess :=
  dcfebpromMulti [withCount uaddr xpromLoadAddress, laddr]

def dcfebpromBufferprogram (prmDat : List Nat) : List DcfebAccess :=
  cfebDo vtx6Usr1 8 epromBpiWrite ::
    cfebDo vtx6Usr2 16 (withCount (prmDat.length - 1) xpromBufferProgram) ::
      prmDat.map (cfebDo vtx6Usr2 16) ++ [cfebDo vtx6Bypass 0 0]

def dcfebEraseBlock (i polled : Nat) : Sequence DcfebAccess :=
  .done (dcfebpromLoadaddress i 0 ++ dcfebpromUnlockerase) polled

def dcfebWriteBlock (fulladdr : Nat) (words : List Nat) (polled : Nat) : Sequence DcfebAccess :=
  .done (dcfebBpiDisable ++ dcfebBpiReset ++ dcfebBpiEnable ++ dcfebpromTimerstop ++
    dcfebpromTimerreset ++ dcfebpromTimerstart ++ dcfebpromClearstatus ++
    dcfebpromLoadaddress (fulladdr >>> 16) (fulladdr &&& 0xffff) ++ dcfebpromBufferprogram words)
    polled

/-- `(tag & 0x00F0FFFF)==0x00B0FEDC` for the four bytes at 0x600000. -/
def firmwareTag (bufin : Nat → UInt8) : Bool :=
  let tag := (bufin 0x600000).toNat + 0x100 * (bufin 0x600001).toNat +
    0x10000 * (bufin 0x600002).toNat + 0x1000000 * (bufin 0x600003).toNat
  tag &&& 0x00F0FFFF == 0x00B0FEDC

/-- `selectorBit` is that of the CFEB. -/
def dcfebProgramEprom (unset : Unset) (malloc : Option (Nat → UInt8)) (fopen : Option (List Char))
    (selectorBit : Nat) (broadcast : Bool) : Sequence DcfebAccess :=
  match readFirmware unset malloc fopen with
  | none => nothing
  | some bufin =>
    if firmwareTag bufin then
      (Sequence.done (selector (if broadcast then 0x7F else selectorBit % 0x100) ::
        dcfebBpiReset ++ dcfebBpiEnable ++ dcfebpromTimerstop ++ dcfebpromTimerreset ++
        dcfebpromTimerstart) 0).andThen fun polled =>
      (eraseLoop dcfebEraseBlock eraseBlocks 0 polled).andThen fun polled =>
      (writeLoop bufin dcfebWriteBlock writeBlockCount 0 0 polled).andThen fun polled =>
      let fulladdr := writeBlockCount * writeSize
      .done (dcfebpromLoadaddress (fulladdr >>> 16) (fulladdr &&& 0xffff) ++ dcfebpromLock ++
        dcfebBpiDisable) polled
    else nothing

structure Dcfeb where
  jfunc : Nat
  bpi : Bpi

def Dcfeb.access (dcfeb : Dcfeb) : DcfebAccess → Dcfeb
  | selector _ => dcfeb
  | cfebDo comd nbit data =>
    if comd = vtx6Usr1 ∧ nbit = 8 then { dcfeb with jfunc := data }
    else if comd = vtx6Usr2 ∧ nbit = 16 ∧ dcfeb.jfunc = epromBpiWrite then
      { dcfeb with bpi := dcfeb.bpi.write data }
    else dcfeb

def Dcfeb.run (dcfeb : Dcfeb) (accesses : List DcfebAccess) : Dcfeb :=
  accesses.foldl Dcfeb.access dcfeb

end

section

def bpiReset : Nat := 0x6020
def bpiDisable : Nat := 0x6024
def bpiEnable : Nat := 0x6028
def bpiWrite : Nat := 0x602C
def bpiRead : Nat := 0x6030
def bpiReadN : Nat := 0x6034
def bpiStatus : Nat := 0x6038

inductive OdmbAccess
  | writeRegister (address value : Nat)
  | readRegister (address : Nat)

open OdmbAccess

def odmbXpromDo (command : Nat) : List OdmbAccess := [writeRegister bpiWrite command]

def odmbBpiReset : List OdmbAccess := [writeRegister bpiReset 0]
def odmbBpiDisable : List OdmbAccess := [writeRegister bpiDisable 0]
def odmbBpiEnable : List OdmbAccess := [writeRegister bpiEnable 0]

def odmbBpiStatus : List OdmbAccess := [readRegister bpiStatus]

def odmbepromLock : List OdmbAccess := odmbXpromDo xpromBlockLock
def odmbepromTimerstart : List OdmbAccess := odmbXpromDo xpromTimerStart
def odmbepromTimerstop : List OdmbAccess := odmbXpromDo xpromTimerStop
def odmbepromTimerreset : List OdmbAccess := odmbXpromDo xpromTimerReset
def odmbepromClearstatus : List OdmbAccess := odmbXpromDo xpromClearStatus

def odmbepromMulti (manbuf : List Nat) : List OdmbAccess := manbuf.map (writeRegister bpiWrite)

def odmbepromUnlockerase : List OdmbAccess := odmbepromMulti [xpromBlockUnLock, xpromBlockErase]

def odmbepromLoadaddress (uaddr laddr : Nat) : List OdmbAccess :=
  odmbepromMulti [withCount uaddr xpromLoadAddress, laddr]

def odmbepromBufferprogram (prmDat : List Nat) : List OdmbAccess :=
  odmbXpromDo (withCount (prmDat.length - 1) xpromBufferProgram) ++ odmbepromMulti prmDat

def odmbEraseBlock (i polled : Nat) : Sequence OdmbAccess :=
  .done (odmbepromLoadaddress i 0 ++ odmbepromUnlockerase) polled

def odmbWriteBlock (fulladdr : Nat) (words : List Nat) (polled : Nat) : Sequence OdmbAccess :=
  .done (odmbepromLoadaddress (fulladdr >>> 16) (fulladdr &&& 0xffff) ++
    odmbepromBufferprogram words) polled

def odmbProgramEprom (unset : Unset) (malloc : Option (Nat → UInt8)) (fopen : Option (List Char)) :
    Sequence OdmbAccess :=
  match readFirmware unset malloc fopen with
  | none => nothing
  | some bufin =>
    (Sequence.done (odmbBpiReset ++ odmbBpiEnable ++ odmbepromTimerstop ++ odmbepromTimerreset ++
      odmbepromTimerstart) 0).andThen fun polled =>
    (eraseLoop odmbEraseBlock eraseBlocks 0 polled).andThen fun polled =>
    (writeLoop bufin odmbWriteBlock writeBlockCount 0 0 polled).andThen fun polled =>
    let fulladdr := writeBlockCount * writeSize
    .done (odmbepromLoadaddress (fulladdr >>> 16) (fulladdr &&& 0xffff) ++ odmbepromLock ++
      odmbBpiDisable) polled

section

-- the values of the status register, one reading after the other
variable (status : Nat → Nat)

/-- `while ((odmb_bpi_status() & mask) != 0x8880)`, with the counts that are left. -/
def pollStatus (mask : Nat) : Nat → Nat → Sequence OdmbAccess
  | 0, polled => ⟨[], polled, false⟩
  | left + 1, polled =>
    if status polled &&& mask = 0x8880 then .done odmbBpiStatus (polled + 1)
    else
      let further := pollStatus mask left (polled + 1)
      ⟨odmbBpiStatus ++ further.accesses, further.polled, further.completed⟩

def orGiveUp (poll : Sequence OdmbAccess) : Sequence OdmbAccess :=
  if poll.completed then poll
  else ⟨poll.accesses ++ odmbBpiStatus ++ odmbBpiDisable, poll.polled + 1, false⟩

def odmbepromPecReady (pollInterval polled : Nat) : Sequence OdmbAccess :=
  pollStatus status 0xFFF0 (40000000 / pollInterval) polled

def globalWriteDelay : Nat := 2000

def odmbEraseBlockPoll (i polled : Nat) : Sequence OdmbAccess :=
  (Sequence.done (odmbepromClearstatus ++ odmbepromLoadaddress i 0 ++ odmbepromUnlockerase ++
    odmbBpiEnable) polled).andThen fun polled =>
  (orGiveUp (pollStatus status 0xFFFF (4000000 / 500000) polled)).andThen fun polled =>
  .done odmbBpiDisable polled

def odmbWriteBlockPoll (fulladdr : Nat) (words : List Nat) (polled : Nat) : Sequence OdmbAccess :=
  (Sequence.done (odmbepromLoadaddress (fulladdr >>> 16) (fulladdr &&& 0xffff) ++
    odmbepromBufferprogram words ++ odmbBpiEnable) polled).andThen fun polled =>
  (orGiveUp (odmbepromPecReady status globalWriteDelay polled)).andThen fun polled =>
  .done (odmbBpiDisable ++ [readRegister bpiReadN]) polled

def odmbProgramEpromPoll (unset : Unset) (malloc : Option (Nat → UInt8))
    (fopen : Option (List Char)) : Sequence OdmbAccess :=
  match readFirmware unset malloc fopen with
  | none => nothing
  | some bufin =>
    (Sequence.done (odmbBpiReset ++ odmbepromTimerstop ++ odmbepromTimerreset ++
      odmbepromTimerstart ++ odmbBpiEnable ++ odmbBpiDisable) 0).andThen fun polled =>
    (eraseLoop (odmbEraseBlockPoll status) eraseBlocks 0 polled).andThen fun polled =>
    (Sequence.done odmbBpiDisable polled).andThen fun polled =>
    (writeLoop bufin (odmbWriteBlockPoll status) writeBlockCount 0 0 polled).andThen fun polled =>
    let fulladdr := writeBlockCount * writeSize
    (Sequence.done (odmbepromLoadaddress (fulladdr >>> 16) (fulladdr &&& 0xffff) ++
      odmbepromLock ++ odmbBpiEnable) polled).andThen fun polled =>
    (orGiveUp (odmbepromPecReady status globalWriteDelay polled)).andThen fun polled =>
    .done odmbBpiDisable polled

end

def odmbAccess (bpi : Bpi) : OdmbAccess → Bpi
  | writeRegister address value => if address = bpiWrite then bpi.write (value % 0x10000) else bpi
  | readRegister address =>
    if address = bpiRead then { bpi with readBack := bpi.readBack.tail } else bpi

def odmbRun (bpi : Bpi) (accesses : List OdmbAccess) : Bpi := accesses.foldl odmbAccess bpi

end

def readWord (bpi : Bpi) : Nat × Bpi :=
  (bpi.readBack.headD 0 % 0x10000, odmbAccess bpi (.readRegister bpiRead))

def readWords : Nat → Bpi → List Nat × Bpi
  | 0, bpi => ([], bpi)
  | toread + 1, bpi =>
    let first := readWord bpi
    let others := readWords toread first.2
    (first.1 :: others.1, others.2)

def odmbepromRead : Nat → Nat → Bpi → List Nat × Bpi
  | 0, _, bpi => ([], bpi)
  | fuel + 1, leftover, bpi =>
    if leftover = 0 then ([], bpi)
    else
      let toread := if 16 < leftover then 16 else leftover
      let read := readWords toread (odmbRun bpi (odmbXpromDo (withCount (toread - 1) xpromReadN)))
      let further := odmbepromRead fuel (leftover - toread) read.2
      (read.1 ++ further.1, further.2)

def readSize : Nat := 0x800

def totalBlocks : Nat := 1335

def readBlocks : Nat → Nat → Bpi → List Nat × Bpi
  | 0, _, bpi => ([], bpi)
  | left + 1, fulladdr, bpi =>
    let read := odmbepromRead readSize readSize
      (odmbRun bpi (odmbepromLoadaddress (fulladdr >>> 16) (fulladdr &&& 0xffff)))
    let further := readBlocks left (fulladdr + readSize) read.2
    (read.1 ++ further.1, further.2)

/-- The bytes of the words that were read, the low one first; behind them is what `malloc` gave. -/
def bytesOf (words : List Nat) (malloc : Nat → UInt8) (index : Nat) : UInt8 :=
  if index < 2 * words.length then
    UInt8.ofNat (if index % 2 = 0 then words.getD (index / 2) 0 % 0x100
      else words.getD (index / 2) 0 / 0x100 % 0x100)
  else malloc index

def odmbReadfirmwareMcs (malloc : Nat → UInt8) (bpi : Bpi) : List Char :=
  let bpi := odmbRun bpi (odmbBpiReset ++ odmbBpiEnable)
  writeMcs (bytesOf (readBlocks totalBlocks 0 bpi).1 malloc) 5464972

end EmuLib.Daqmb
