import EmuLib.Jtag.XsvfWriter

/-!
The XSVF image, as it is decoded and run on a chain.
-/

namespace EmuLib.Jtag

def maxXsvfImageNumber : Nat := 13 * 1024 * 1024

def numberOfDifferentXsvfCommands : Int := 23

inductive Operation
  | scan (register : ScanRegister) (tdi : List Bool) (readBack : Bool)
  | compare (tdoExpected tdoMask : List Bool)
  | usleep (time : BitVec 32)
  | restoreIdle

inductive Message
  | outOfRange (command : Int)
  | unknownCommand (command : Int)
  | multipleEofs
  | tdoBytes (numberOfBytes : Nat)
  | tdiBytes (numberOfBytes : Nat)

structure XsvfDecoder where
  imageCounter : Nat
  xdrLength : Int
  xruntestTime : BitVec 32
  xrepeatTimes : Nat
  tdoMaskInBytes : List UInt8
  tdiInBytes : List UInt8
  numberOfCommands : Int → Nat
  verifyError : Nat
  messages : List Message
  operations : List Operation
  dataLengths : List Int

namespace XsvfDecoder

section

variable (image : List UInt8)

/-- Bytes of a buffer, the most significant one first. Nothing is returned beyond the end of the
image, where an exception is thrown. -/
def readInto : Nat → Nat → List UInt8 → Option (Nat × List UInt8)
  | 0, imageCounter, buffer => some (imageCounter, buffer)
  | byte + 1, imageCounter, buffer =>
    (image[imageCounter]?).bind fun value =>
      readInto byte (imageCounter + 1) (buffer.set byte value)

def readWord : Nat → Nat → BitVec 32 → Option (Nat × BitVec 32)
  | 0, imageCounter, value => some (imageCounter, value)
  | i + 1, imageCounter, value =>
    (image[imageCounter]?).bind fun byte =>
      readWord i (imageCounter + 1) (value ||| (BitVec.ofNat 32 byte.toNat <<< (8 * i)))

end

section

-- `answer` is what the chain returns after the operations so far
variable (image : List UInt8) (writeToDevice : Bool) (answer : List Operation → Nat → UInt8)
  (decoder : XsvfDecoder)

def cleared : List UInt8 := List.replicate maxBufferSize 0

def perform (operations : List Operation) : XsvfDecoder :=
  { decoder with
    operations := decoder.operations ++ if writeToDevice then operations else [] }

def parseXCOMPLETE : XsvfDecoder :=
  if 1 < decoder.numberOfCommands xcomplete.toNat then
    { decoder with
      messages := decoder.messages ++ [.multipleEofs]
      imageCounter := maxXsvfImageNumber }
  else decoder

def parseXTDOMASK : Option XsvfDecoder :=
  let bytes := numberOfBytes decoder.xdrLength
  let dataLengths := decoder.dataLengths ++ [decoder.xdrLength]
  if maxBufferSize < bytes then
    some
      { decoder with
        tdoMaskInBytes := cleared
        messages := decoder.messages ++ [.tdoBytes bytes]
        imageCounter := maxXsvfImageNumber
        dataLengths }
  else
    (readInto image bytes decoder.imageCounter cleared).map fun (imageCounter, tdoMaskInBytes) =>
      { decoder with imageCounter, tdoMaskInBytes, dataLengths }

def parseXSIR : Option XsvfDecoder :=
  (image[decoder.imageCounter]?).bind fun numberOfBits =>
    (readInto image (numberOfBytes numberOfBits.toNat) (decoder.imageCounter + 1) cleared).map
      fun (imageCounter, tdiInBytes) =>
        { decoder with imageCounter, tdiInBytes }.perform writeToDevice
          [.scan .instruction (bitsFrom tdiInBytes 0 numberOfBits.toNat) false,
            .usleep decoder.xruntestTime]

def parseXRUNTEST : Option XsvfDecoder :=
  (readWord image 4 decoder.imageCounter 0).map fun (imageCounter, xruntestTime) =>
    { decoder with imageCounter, xruntestTime }

def parseXREPEAT : Option XsvfDecoder :=
  (image[decoder.imageCounter]?).map fun times =>
    { decoder with
      imageCounter := decoder.imageCounter + 1
      xrepeatTimes := times.toNat }

def parseXSDRSIZE : Option XsvfDecoder :=
  (readWord image 4 decoder.imageCounter 0).map fun (imageCounter, size) =>
    { decoder with imageCounter, xdrLength := size.toInt }

def verifyErrors (bytes : Nat) (tdo : Nat → UInt8) (expected mask : List UInt8) : Nat :=
  (List.range bytes).countP fun byte =>
    (tdo byte &&& mask.getD byte 0) != (expected.getD byte 0 &&& mask.getD byte 0)

def parseXSDRTDO : Option XsvfDecoder :=
  let bytes := numberOfBytes decoder.xdrLength
  let dataLengths := decoder.dataLengths ++ [decoder.xdrLength]
  if maxBufferSize < bytes then
    some
      { decoder with
        tdiInBytes := cleared
        messages := decoder.messages ++ [.tdiBytes bytes]
        imageCounter := maxXsvfImageNumber
        dataLengths }
  else
    (readInto image bytes decoder.imageCounter cleared).bind fun (imageCounter, tdiInBytes) =>
      (readInto image bytes imageCounter cleared).map fun (imageCounter, tdoExpectedInBytes) =>
        let length := decoder.xdrLength.toNat
        let readBackTdo := (decoder.tdoMaskInBytes.take bytes).any (· != 0)
        let shifted :=
          { decoder with imageCounter, tdiInBytes, dataLengths }.perform writeToDevice
            [.scan .data (bitsFrom tdiInBytes 0 length) readBackTdo]
        let tdo := if readBackTdo then answer shifted.operations else fun _ => 0
        let errors := verifyErrors bytes tdo tdoExpectedInBytes decoder.tdoMaskInBytes
        let compared :=
          { shifted with
            verifyError := shifted.verifyError + if writeToDevice then errors else 0 }
        compared.perform writeToDevice
          [.compare (bitsFrom tdoExpectedInBytes 0 length)
              (bitsFrom decoder.tdoMaskInBytes 0 length),
            .usleep decoder.xruntestTime]

def parseXSTATE : Option XsvfDecoder :=
  (image[decoder.imageCounter]?).map fun _ =>
    { decoder with imageCounter := decoder.imageCounter + 1 }.perform writeToDevice
      (List.replicate (decoder.xrepeatTimes + 1) .restoreIdle)

def parse (command : UInt8) : Option XsvfDecoder :=
  if command = xcomplete then some decoder.parseXCOMPLETE
  else if command = xtdomask then decoder.parseXTDOMASK image
  else if command = xsir then decoder.parseXSIR image writeToDevice
  else if command = xruntest then decoder.parseXRUNTEST image
  else if command = xrepeat then decoder.parseXREPEAT image
  else if command = xsdrsize then decoder.parseXSDRSIZE image
  else if command = xsdrtdo then decoder.parseXSDRTDO image writeToDevice answer
  else if command = xstate then decoder.parseXSTATE image writeToDevice
  else some { decoder with messages := decoder.messages ++ [.unknownCommand command.toNat] }

/-- One command, and whether there may be another one. It is a `char` with a sign; where it is
negative, or just the number of commands, the count is outside of its array. -/
def decodeCommand : Option (XsvfDecoder × Bool) :=
  (image[decoder.imageCounter]?).bind fun byte =>
    let command := byte.toBitVec.toInt
    let decoder := { decoder with imageCounter := decoder.imageCounter + 1 }
    if numberOfDifferentXsvfCommands < command then
      some ({ decoder with messages := decoder.messages ++ [.outOfRange command] }, false)
    else if command < 0 ∨ command = numberOfDifferentXsvfCommands then none
    else
      let counted :=
        { decoder with
          numberOfCommands :=
            Function.update decoder.numberOfCommands command
              (decoder.numberOfCommands command + 1) }
      (counted.parse image writeToDevice answer byte).map (·, true)

end

variable (image : List UInt8) (numberOfReadBytes : Nat) (writeToDevice : Bool)
  (answer : List Operation → Nat → UInt8)

def decodeLoop : Nat → XsvfDecoder → Option XsvfDecoder
  | 0, _ => none
  | turns + 1, decoder =>
    if decoder.imageCounter < numberOfReadBytes then
      (decoder.decodeCommand image writeToDevice answer).bind fun (decoder, goesOn) =>
        if goesOn then decodeLoop turns decoder else some decoder
    else some decoder

def decodeXsvfImage (turns : Nat) (decoder : XsvfDecoder) : Option XsvfDecoder :=
  decodeLoop image numberOfReadBytes writeToDevice answer turns
    { decoder with numberOfCommands := fun _ => 0, imageCounter := 0 }

end XsvfDecoder

end EmuLib.Jtag
