import EmuLib.Lib.Operations

/-!
The VME access of the FED boards: cycles and JTAG transfers under the mutex of the crate.
-/

namespace EmuLib.Fed

open Operations

/-- `DEVTYPE`. -/
inductive DevType
  | ALLMUX | ALLSCAM | ALL | NONE | OUTFIFO | VMEPROM | DDUPROM0 | DDUPROM1 | INPROM0 | INPROM1
  | DDUFPGA | INFPGA0 | INFPGA1 | SLINK | VMEPARA | VMESERI | RESET | SADC | MPROM | INPROM
  | INCTRL1 | INCTRL2 | INCTRL3 | INCTRL4 | INCTRL5 | MCTRL | RESET1 | RESET2
  deriving DecidableEq

structure JtagElement where
  dev : DevType
  bypassCommand : UInt16
  cmdBits : UInt32
  bitCode : UInt32

structure JtagChain (dev : DevType) where
  elements : List JtagElement
  addressed : (elements.find? fun element => element.dev = dev).isSome = true

def JtagChain.element {dev : DevType} (chain : JtagChain dev) : JtagElement :=
  (chain.elements.find? fun element => element.dev = dev).get chain.addressed

lemma JtagChain.nonempty {dev} (chain : JtagChain dev) : chain.elements ≠ [] := by
  intro empty
  have addressed := chain.addressed
  rw [empty] at addressed
  cases addressed

def JtagChain.front {dev : DevType} (chain : JtagChain dev) : JtagElement :=
  chain.elements.head chain.nonempty

structure VmeModule where
  vmeAddress : UInt32
  fake : Bool
  jtagMap : (dev : DevType) → Option (JtagChain dev)

/-- What the calls of `readVME` and `writeVME` meet, by the number of the call: whether the CAEN
function succeeds, and what is read. -/
structure Bus where
  succeeds : Nat → Bool
  data : Nat → UInt16
  /-- What is found beyond the end of a vector, or where nothing was stored, and what comes of a
  shift that is undefined. -/
  stray : Nat → UInt16

inductive Cycle
  | read (address : UInt32)
  | write (address : UInt32) (data : UInt16)
  deriving DecidableEq

structure VmeState where
  /-- How often the caller holds the mutex, which is recursive. -/
  held : Nat
  calls : Nat
  cycles : List Cycle

/-- Those that are not of the exception specifications, which `std::unexpected` ends the process
for, are `outOfRange`. -/
inductive VmeException
  | caen
  | devType
  | outOfRange
  deriving DecidableEq

abbrev Vme := Operation VmeState VmeException

def lock : Vme Unit := fun state => (.ok (), { state with held := state.held + 1 })

def unlock : Vme Unit := fun state => (.ok (), { state with held := state.held - 1 })

/-- How control leaves a `try` block without an exception: at its end, or with a `return` inside
of it. -/
inductive Exit
  | ended
  | returned
  deriving DecidableEq

def unlockCaught (exception : VmeException) : Vme Value :=
  match exception with
  | .caen => do
      unlock
      throw .caen
  | other => throw other

def unlockEnded (left : Exit × Value) : Vme Value :=
  match left.1 with
  | .ended => do
      unlock
      pure left.2
  | .returned => pure left.2

/-- `mutex_->lock()`, a `try` block whose handler unlocks and throws again what it caught, and
`mutex_->unlock()`. -/
def locked (block : Vme (Exit × Value)) : Vme Value := do
  lock
  let left ← tryCatch block unlockCaught
  unlockEnded left

def lockedWhole (block : Vme Value) : Vme Value := locked ((fun value => (.ended, value)) <$> block)

variable (board : VmeModule) (bus : Bus)

def works (call : Nat) : Bool := board.fake || bus.succeeds call

def called (cycle : Cycle) (state : VmeState) : VmeState :=
  { state with
    calls := state.calls + 1
    cycles := if board.fake then state.cycles else state.cycles ++ [cycle] }

def readVME (address : UInt32) : Vme UInt16 := fun state =>
  (if works board bus state.calls then .ok (bus.data state.calls) else .error .caen,
    called board (.read (address ||| board.vmeAddress)) state)

def writeVME (address : UInt32) (data : UInt16) : Vme Unit := fun state =>
  (if works board bus state.calls then .ok () else .error .caen,
    called board (.write (address ||| board.vmeAddress) data) state)

def wordsFor (nBits : UInt32) : Nat := if nBits = 0 then 0 else (nBits.toNat - 1) / 16 + 1

def remainderOf (nBits : UInt32) : Nat := nBits.toNat % 16

def lowBits (count : Nat) : UInt16 := UInt16.ofNat ((1 <<< count) - 1)

def bitMask (nBits : UInt32) (iWord : Nat) : UInt16 :=
  if iWord = wordsFor nBits - 1 ∧ remainderOf nBits ≠ 0 then lowBits (remainderOf nBits) else 0xffff

def wordAt (data : List UInt16) (iWord : Nat) : UInt16 := data.getD iWord (bus.stray iWord)

def writeCycle (address : UInt32) (nBits : UInt32) (data : List UInt16) : Vme Unit :=
  lockedWhole ((List.range (wordsFor nBits)).forM fun iWord =>
    writeVME board bus address (wordAt bus data iWord &&& bitMask nBits iWord))

def readCycle (address : UInt32) (nBits : UInt32) : Vme (List UInt16) :=
  lockedWhole ((List.range (wordsFor nBits)).foldlM
    (fun result iWord => do
      let word ← readVME board bus address
      pure (result ++ [word &&& bitMask nBits iWord])) [])

def writePattern (address : UInt32) (pattern : List UInt16) : Vme Unit :=
  pattern.forM fun bogoData => writeCycle board bus address 2 [bogoData]

def bogoBit (value last : Bool) : UInt16 :=
  match value, last with
  | true, true => 3
  | false, true => 1
  | true, false => 2
  | false, false => 0

def chainCommands (dev : DevType) (myCommand : UInt16) :
    List JtagElement → List UInt16 → UInt32 → List UInt16 × UInt32
  | [], commands, nBits => (commands, nBits)
  | element :: rest, commands, nBits =>
    let command := if element.dev = dev then myCommand else element.bypassCommand
    let remainder := remainderOf nBits
    let joined :=
      match commands.getLast? with
      | some previous =>
        if remainder ≠ 0 then
          commands.dropLast ++
            [previous ||| UInt16.ofNat (command.toNat <<< (16 - remainder)),
              UInt16.ofNat (command.toNat >>> remainder)]
        else commands ++ [command]
      | none => [command]
    chainCommands dev myCommand rest joined (nBits + element.cmdBits)

def commandCycle (dev : DevType) (myCommand : UInt16) : Vme Unit :=
  match board.jtagMap dev with
  | none => throw .devType
  | some chain =>
    let myAddress := chain.front.bitCode
    lockedWhole (
      if dev = .RESET then do
        let nBits := chain.front.cmdBits.toNat
        writePattern board bus myAddress [0, 0, 1, 1, 0, 0]
        writePattern board bus myAddress ((List.range nBits).map fun iBit =>
          bogoBit (myCommand.toNat.testBit iBit) (iBit == nBits - 1))
        writePattern board bus myAddress [1, 0]
      else
        let sent := chainCommands dev myCommand chain.elements [] 0
        writeCycle board bus (myAddress ||| ((0x1c : UInt32) ||| ((sent.2 - 1) <<< 8))) sent.2 sent.1)

def transferAddress (myAddress : UInt32) (nWords remainderBits iWord : Nat) : UInt32 :=
  let first : UInt32 := if iWord = 0 then 0x4 else 0
  let last : UInt32 := if iWord = nWords - 1 then 0x8 else 0
  let bits : UInt32 :=
    if iWord = nWords - 1 ∧ remainderBits ≠ 0 then UInt32.ofNat (remainderBits - 1) <<< 8 else 0x0f00
  (myAddress &&& 0xfffff0ff) ||| first ||| last ||| bits

/-- The bits that belong to the other elements of the chain are shifted off. A shift by a negative
count, or by the width of an `int`, is undefined. -/
def pushShifted (result : List UInt16) (tempResult : UInt16) (extraBits : Nat) : List UInt16 :=
  if extraBits = 0 then result ++ [tempResult]
  else
    let carryValue :=
      if extraBits ≤ 16 then UInt16.ofNat (tempResult.toNat <<< (16 - extraBits))
      else bus.stray extraBits
    let carried :=
      match result.getLast? with
      | some previous => result.dropLast ++ [previous ||| carryValue]
      | none => result
    let shifted :=
      if extraBits < 32 then UInt16.ofNat (tempResult.toNat >>> extraBits)
      else bus.stray extraBits
    carried ++ [shifted]

structure Transfer where
  myAddress : UInt32
  nBits : UInt32
  extraBits : Nat

def Transfer.allBits (transfer : Transfer) : UInt32 :=
  transfer.nBits + UInt32.ofNat transfer.extraBits

def Transfer.address (transfer : Transfer) (iWord : Nat) : UInt32 :=
  transferAddress transfer.myAddress (wordsFor transfer.allBits) (remainderOf transfer.allBits) iWord

def Transfer.pushWord (transfer : Transfer) (result : List UInt16) (iWord : Nat) (word : UInt16) :
    List UInt16 :=
  let remainderBits := remainderOf transfer.allBits
  let tempResult :=
    if iWord = wordsFor transfer.allBits - 1 ∧ remainderBits ≠ 0 then
      UInt16.ofNat (word.toNat >>> (16 - remainderBits))
    else word
  pushShifted bus result tempResult transfer.extraBits

def jtagWriteWord (transfer : Transfer) (myData : List UInt16) (noRead : Bool)
    (result : List UInt16) (iWord : Nat) : Vme (List UInt16) := do
  writeVME board bus (transfer.address iWord)
    (wordAt bus myData iWord &&& bitMask transfer.allBits iWord)
  if noRead then pure result
  else do
    let word ← readVME board bus (transfer.myAddress ||| 0x14)
    pure (transfer.pushWord bus result iWord word)

def jtagReadWord (transfer : Transfer) (result : List UInt16) (iWord : Nat) :
    Vme (List UInt16) := do
  writeVME board bus (transfer.address iWord) 0xffff
  let word ← readVME board bus (transfer.myAddress ||| 0x14)
  let remainderBits := remainderOf transfer.allBits
  let highBits :=
    if iWord = wordsFor transfer.allBits - 1 ∧ remainderBits ≠ 0 then
      UInt16.ofNat ((lowBits remainderBits).toNat <<< (16 - remainderBits))
    else 0xffff
  pure (transfer.pushWord bus result iWord (word &&& highBits))

def jtagWrite (dev : DevType) (nBits : UInt32) (data : List UInt16) (noRead : Bool) :
    Vme (List UInt16) :=
  match board.jtagMap dev with
  | none => throw .devType
  | some chain =>
    -- the elements after this one
    let extraBits := (chain.elements.reverse.takeWhile fun element => element.dev ≠ dev).length
    let transfer : Transfer := ⟨chain.front.bitCode, nBits, extraBits⟩
    locked (
      if dev = .RESET then do
        let allBits := transfer.allBits.toNat
        writePattern board bus transfer.myAddress [0, 0, 1, 0, 0]
        writePattern board bus transfer.myAddress ((List.range allBits).map fun iBit =>
          bogoBit ((wordAt bus data (iBit / 16)).toNat.testBit (iBit % 16)) (iBit == allBits - 1))
        writePattern board bus transfer.myAddress [1, 0]
        -- returns nothing, from inside of the block
        pure (.returned, [])
      else do
        let nWords := wordsFor transfer.allBits
        let myData := data ++ List.replicate (nWords - data.length) 0xffff
        let result ← (List.range nWords).foldlM (jtagWriteWord board bus transfer myData noRead) []
        pure (.ended, result))

def jtagRead (dev : DevType) (nBits : UInt32) : Vme (List UInt16) :=
  match board.jtagMap dev with
  | none => throw .devType
  | some chain =>
    -- the elements before this one
    let extraBits := (chain.elements.takeWhile fun element => element.dev ≠ dev).length
    let transfer : Transfer := ⟨chain.front.bitCode, nBits, extraBits⟩
    lockedWhole
      ((List.range (wordsFor transfer.allBits)).foldlM (jtagReadWord board bus transfer) [])

end EmuLib.Fed
