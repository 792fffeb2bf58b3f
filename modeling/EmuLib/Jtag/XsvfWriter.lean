import EmuLib.Jtag.Chain
import EmuLib.Jtag.UserProm

/-!
The XSVF image that programs a user prom, as it is written.
-/

namespace EmuLib.Jtag

def promIdCode : BitVec 32 := 0xFE
def promUserCode : BitVec 32 := 0xFD
def promUsercodeData : BitVec 32 := 0xE6
def promErase : BitVec 32 := 0xEC
def promAddress : BitVec 32 := 0xEB
def promSErase : BitVec 32 := 0x0A
def promConLd : BitVec 32 := 0xF0
def promIspen : BitVec 32 := 0xE8
def promProgram : BitVec 32 := 0xEA
def promWriteData0 : BitVec 32 := 0xED
def promWriteData3 : BitVec 32 := 0xF3
def promVerifyData3 : BitVec 32 := 0xE2
def promBypass : BitVec 32 := 0xFF

def regSizePromIdCode : Nat := 32
def regSizePromUserCode : Nat := 32
def regSizePromUsercodeData : Nat := 32
def regSizePromAddress : Nat := 16
def regSizePromIspen : Nat := 6
def regSizePromWriteData0 : Nat := 2048
def regSizePromWriteData3 : Nat := 6
def regSizePromVerifyData3 : Nat := 6
def regSizePromBypass : Nat := 1

def numberOfBitsPerBlock : Nat := regSizePromWriteData0
def numberOfAddressesPerBlock : Nat := numberOfBitsPerBlock / 8
def totalNumberOfBlocks : Nat := 256 * 1024 / numberOfBitsPerBlock

def xcomplete : UInt8 := 0x00
def xtdomask : UInt8 := 0x01
def xsir : UInt8 := 0x02
def xruntest : UInt8 := 0x04
def xrepeat : UInt8 := 0x07
def xsdrsize : UInt8 := 0x08
def xsdrtdo : UInt8 := 0x09
def xstate : UInt8 := 0x12

def tlr : Nat := 0
def rti : Nat := 1

def promId256k : BitVec 32 := 0x05022093
def maskToTreat512kLike256k : BitVec 32 := 0x0ffeefff

def numberOfBytes (bits : Int) : Nat := ((bits - 1).tdiv 8 + 1).toNat

def wordBytes (value : BitVec 32) : List UInt8 :=
  [3, 2, 1, 0].map fun byte => UInt8.ofNat (value.toNat >>> (8 * byte))

structure XsvfWriter where
  jtag : EMUjtag
  whichUserProm : Nat
  xdrLength : Int
  xsvfImage : List UInt8
  imageCounter : Nat
  numberOfWriteBytes : Nat
  dataLengths : List Int

inductive Write
  | xrepeat (numberOfTimes : Nat)
  | xstate (state : Nat)
  | xruntest (lengthOfTime : BitVec 32)
  | xsir (opcode : BitVec 32)
  | xsdrsize (bits : Nat)
  | xtdomask (bits : Nat) (mask : List Nat)
  | xsdrtdo (bits : Nat) (tdi tdo : List Nat)
  | xcomplete

namespace XsvfWriter

def setWriteXsvfImage (writer : XsvfWriter) (value : UInt8) : XsvfWriter :=
  { writer with
    xsvfImage := writer.xsvfImage ++ [value]
    imageCounter := writer.imageCounter + 1 }

def setAll (writer : XsvfWriter) (values : List UInt8) : XsvfWriter :=
  values.foldl setWriteXsvfImage writer

def writeTdi : Nat → XsvfWriter → Option XsvfWriter
  | 0, writer => some writer
  | byte + 1, writer =>
    (writer.jtag.tdiInBytes[byte]?).bind fun value =>
      writeTdi byte (writer.setWriteXsvfImage value)

def dataCommand (writer : XsvfWriter) (command : UInt8) : XsvfWriter :=
  { writer.setWriteXsvfImage command with
    dataLengths := writer.dataLengths ++ [writer.xdrLength] }

/-- The data register is set up, and as many bytes written as `xdr_length_` says. -/
def writeData (writer : XsvfWriter) (bits : Nat) (vector : List Nat) : Option XsvfWriter :=
  (writer.jtag.shfDR [] writer.whichUserProm bits vector).bind fun (jtag, _) =>
    writeTdi (numberOfBytes writer.xdrLength) { writer with jtag }

def writeXTDOMASK (writer : XsvfWriter) (bits : Nat) (mask : List Nat) : Option XsvfWriter :=
  (writer.dataCommand Jtag.xtdomask).writeData bits mask

def writeXSDRTDO (writer : XsvfWriter) (bits : Nat) (tdi tdo : List Nat) : Option XsvfWriter :=
  ((writer.dataCommand Jtag.xsdrtdo).writeData bits tdi).bind fun writer =>
    writer.writeData bits tdo

def sumOpcodeBits (writer : XsvfWriter) : Nat := writer.jtag.bitsInOpcode.sum

def writeXSIR (writer : XsvfWriter) (opcode : BitVec 32) : Option XsvfWriter :=
  let numberOfBits := writer.sumOpcodeBits
  let writer := writer.setAll [Jtag.xsir, UInt8.ofNat numberOfBits]
  (writer.jtag.shfIR [] writer.whichUserProm opcode).bind fun (jtag, _) =>
    writeTdi (numberOfBytes numberOfBits) { writer with jtag }

def writeXRUNTEST (writer : XsvfWriter) (lengthOfTime : BitVec 32) : XsvfWriter :=
  writer.setAll (Jtag.xruntest :: wordBytes lengthOfTime)

def writeXSDRSIZE (writer : XsvfWriter) (bits : Nat) : XsvfWriter :=
  let bitsInExcessOfDr : Int := writer.jtag.bitsInOpcode.length - 1
  let xdrLength := bits + bitsInExcessOfDr
  { writer with xdrLength }.setAll (Jtag.xsdrsize :: wordBytes (BitVec.ofInt 32 xdrLength))

def writeXREPEAT (writer : XsvfWriter) (numberOfTimes : Nat) : XsvfWriter :=
  writer.setAll [Jtag.xrepeat, UInt8.ofNat numberOfTimes]

def writeXCOMPLETE (writer : XsvfWriter) : XsvfWriter := writer.setWriteXsvfImage Jtag.xcomplete

def writeXSTATE (writer : XsvfWriter) (state : Nat) : XsvfWriter :=
  writer.setAll [Jtag.xstate, UInt8.ofNat state]

def write (writer : XsvfWriter) : Write → Option XsvfWriter
  | .xrepeat numberOfTimes => some (writer.writeXREPEAT numberOfTimes)
  | .xstate state => some (writer.writeXSTATE state)
  | .xruntest lengthOfTime => some (writer.writeXRUNTEST lengthOfTime)
  | .xsir opcode => writer.writeXSIR opcode
  | .xsdrsize bits => some (writer.writeXSDRSIZE bits)
  | .xtdomask bits mask => writer.writeXTDOMASK bits mask
  | .xsdrtdo bits tdi tdo => writer.writeXSDRTDO bits tdi tdo
  | .xcomplete => some writer.writeXCOMPLETE

def writeAll : XsvfWriter → List Write → Option XsvfWriter
  | writer, [] => some writer
  | writer, first :: rest => (writer.write first).bind fun writer => writeAll writer rest

end XsvfWriter

def allZeros : List Nat := List.replicate maxNumFrames 0

def allOnes : List Nat := List.replicate maxNumFrames 1

/-- `int_to_bits` with the least significant bit first; what stands behind the bits stays. -/
def intToBits (value : BitVec 32) (length : Nat) (bits : List Nat) : List Nat :=
  (List.range length).map (opcodeBit value) ++ bits.drop length

def preamble : List Write :=
  let tdoMask := intToBits maskToTreat512kLike256k regSizePromIdCode allZeros
  let tdoExpected := intToBits promId256k regSizePromIdCode allZeros
  let ispen := intToBits 0x34 regSizePromIspen allZeros
  let address := intToBits 0x1 regSizePromAddress ispen
  let ispenAgain := intToBits 0x34 regSizePromIspen address
  [.xrepeat 0, .xstate tlr, .xstate rti,
    .xruntest 0, .xsir promIdCode, .xsdrsize regSizePromIdCode,
    .xtdomask regSizePromIdCode tdoMask, .xsdrtdo regSizePromIdCode allZeros tdoExpected,
    .xruntest 110000, .xsir promConLd,
    .xruntest 0, .xsir promBypass, .xstate tlr,
    .xsir promIspen, .xsdrsize regSizePromIspen, .xtdomask regSizePromIspen allZeros,
    .xsdrtdo regSizePromIspen ispen allZeros,
    .xsir promAddress, .xruntest 2, .xsdrsize regSizePromAddress,
    .xtdomask regSizePromAddress allZeros, .xsdrtdo regSizePromAddress address allZeros,
    .xruntest 1000001, .xsir promErase,
    .xruntest 110000, .xsir promConLd,
    .xstate tlr,
    .xruntest 0, .xsir promIspen, .xsdrsize regSizePromIspen,
    .xtdomask regSizePromIspen allZeros, .xsdrtdo regSizePromIspen ispenAgain allZeros]

section

variable (image : Nat → Int) (promImageWordCount : Nat)

def getUserPromImage (address : Nat) : Nat :=
  if totalNumberOfAddresses ≤ address then 999 else (image address % 256).toNat

def characterBuffer (addressCounter : Nat) : List UInt8 :=
  (List.range numberOfAddressesPerBlock).map fun addressWithinBlock =>
    UInt8.ofNat (getUserPromImage image (addressCounter + addressWithinBlock))

def blockWrites (data address : List Nat) : List Write :=
  [.xsir promWriteData0, .xruntest 2, .xsdrsize regSizePromWriteData0,
    .xtdomask regSizePromWriteData0 allZeros, .xsdrtdo regSizePromWriteData0 data allZeros,
    .xruntest 0, .xsir promAddress, .xruntest 2, .xsdrsize regSizePromAddress,
    .xtdomask regSizePromAddress allZeros, .xsdrtdo regSizePromAddress address allZeros,
    .xruntest 14001, .xsir promProgram,
    .xruntest 0]

/-- The loop over the blocks. Unpacking the buffer looks at one byte beyond its end, whatever stands
there. -/
def promImageFrom (beyond : UInt8) : Nat → Nat → Nat → List Nat → Option (List Write)
  | 0, _, _, _ => some []
  | remaining + 1, blockCounter, addressCounter, tdiIn =>
    if promImageWordCount < addressCounter then some []
    else
      (unpackCharBuffer (characterBuffer image addressCounter ++ [beyond]) numberOfBitsPerBlock 0
        tdiIn).bind fun data =>
          let address :=
            intToBits (BitVec.ofNat 32 (blockCounter <<< 5)) regSizePromAddress data
          (promImageFrom beyond remaining (blockCounter + 1)
            (addressCounter + numberOfAddressesPerBlock) address).map
              (blockWrites data address ++ ·)

def promImage (beyond : UInt8) : Option (List Write) :=
  promImageFrom image promImageWordCount beyond totalNumberOfBlocks 0 0 allZeros

end

def interimBetweenImageAndVerify : List Write :=
  let address := intToBits 1 regSizePromAddress allZeros
  let ispen := intToBits 0x34 regSizePromIspen address
  let ispenAgain := intToBits 0x34 regSizePromIspen ispen
  [.xsir promAddress, .xruntest 1, .xsdrtdo regSizePromAddress address allZeros,
    .xruntest 37000, .xsir promSErase,
    .xruntest 110000, .xsir promConLd,
    .xruntest 0, .xsir promIspen, .xsdrsize regSizePromIspen,
    .xtdomask regSizePromIspen allZeros, .xsdrtdo regSizePromIspen ispen allZeros,
    .xruntest 110000, .xsir promConLd,
    .xruntest 0, .xsir promIspen, .xsdrtdo regSizePromIspen ispenAgain allZeros]

def dateInHex (timeinfo : TimeInfo) : BitVec 32 :=
  BitVec.ofNat 32
    ((((timeinfo.month / 10) &&& 0xf) <<< 28) ||| (((timeinfo.month % 10) &&& 0xf) <<< 24) |||
      (((timeinfo.day / 10) &&& 0xf) <<< 20) ||| (((timeinfo.day % 10) &&& 0xf) <<< 16) |||
      (((timeinfo.year / 1000) &&& 0xf) <<< 12) |||
      (((timeinfo.year / 100 % 10) &&& 0xf) <<< 8) |||
      (((timeinfo.year / 10 % 10) &&& 0xf) <<< 4) ||| ((timeinfo.year % 10) &&& 0xf))

def postamble (timeinfo : TimeInfo) : List Write :=
  let date := dateInHex timeinfo
  let ispen := intToBits 0x34 regSizePromIspen allZeros
  let address := intToBits 0x4000 regSizePromAddress ispen
  let userCode := intToBits date regSizePromUserCode address
  let userCodeExpected := intToBits date regSizePromUsercodeData allZeros
  let ispenAgain := intToBits 0x34 regSizePromIspen userCode
  let ispenThird := intToBits 0x34 regSizePromIspen ispenAgain
  let addressAgain := intToBits 0x4000 regSizePromAddress ispenThird
  let writeData := intToBits 0x3d regSizePromWriteData3 addressAgain
  let verifyData := intToBits 0x3d regSizePromVerifyData3 writeData
  let verifyExpected := intToBits 0x3d regSizePromVerifyData3 userCodeExpected
  let ispenLast := intToBits 0x34 regSizePromIspen verifyData
  [.xsir promConLd, .xruntest 0,
    .xsir promIspen, .xsdrsize regSizePromIspen, .xtdomask regSizePromIspen allZeros,
    .xsdrtdo regSizePromIspen ispen allZeros,
    .xsir promAddress, .xruntest 2, .xsdrsize regSizePromAddress,
    .xtdomask regSizePromAddress allZeros, .xsdrtdo regSizePromAddress address allZeros,
    .xruntest 0,
    .xsir promUserCode, .xsdrsize regSizePromUserCode, .xtdomask regSizePromUserCode allZeros,
    .xsdrtdo regSizePromUserCode userCode allZeros, .xruntest 14001,
    .xsir promProgram, .xruntest 50,
    .xsir promUsercodeData, .xtdomask regSizePromUsercodeData allOnes,
    .xsdrtdo regSizePromUsercodeData allZeros userCodeExpected, .xruntest 110000,
    .xsir promConLd, .xruntest 0,
    .xsir promIspen, .xsdrsize regSizePromIspen, .xtdomask regSizePromIspen allZeros,
    .xsdrtdo regSizePromIspen ispenAgain allZeros,
    .xsir promIspen, .xsdrtdo regSizePromIspen ispenThird allZeros,
    .xsir promAddress, .xruntest 2, .xsdrsize regSizePromAddress,
    .xtdomask regSizePromAddress allZeros, .xsdrtdo regSizePromAddress addressAgain allZeros,
    .xruntest 0,
    .xsir promWriteData3, .xsdrsize regSizePromWriteData3, .xtdomask regSizePromWriteData3 allZeros,
    .xsdrtdo regSizePromWriteData3 writeData allZeros, .xruntest 14001,
    .xsir promProgram, .xruntest 51,
    .xsir promVerifyData3, .xtdomask regSizePromVerifyData3 allZeros,
    .xsdrtdo regSizePromVerifyData3 verifyData verifyExpected, .xruntest 110000,
    .xsir promConLd, .xruntest 0,
    .xsir promIspen, .xtdomask regSizePromIspen allZeros,
    .xsdrtdo regSizePromIspen ispenLast allZeros, .xruntest 110000,
    .xsir promConLd,
    .xrepeat 0, .xrepeat 32, .xstate tlr, .xstate rti, .xruntest 0,
    .xsir promBypass, .xsdrsize regSizePromBypass, .xtdomask regSizePromBypass allZeros,
    .xsdrtdo regSizePromBypass allZeros allZeros,
    .xcomplete]

namespace XsvfWriter

def writePreambleIntoXsvfImage (writer : XsvfWriter) : Option XsvfWriter :=
  writer.writeAll preamble

def writePromImageIntoXsvfImage (writer : XsvfWriter) (image : Nat → Int)
    (promImageWordCount : Nat) (beyond : UInt8) : Option XsvfWriter :=
  (promImage image promImageWordCount beyond).bind writer.writeAll

def writeInterimBetweenImageAndVerifyIntoXsvfImage (writer : XsvfWriter) : Option XsvfWriter :=
  writer.writeAll interimBetweenImageAndVerify

def writePostambleIntoXsvfImage (writer : XsvfWriter) (timeinfo : TimeInfo) : Option XsvfWriter :=
  writer.writeAll (postamble timeinfo)

/-- `setup_jtag(ChainTmbUser)`, where nothing is written to the device. -/
def setupJtag (jtag : EMUjtag) : EMUjtag :=
  { jtag with jtagChain := 0x8, bitsInOpcode := [8, 8], registerLength := 0 }

def createXsvfImage (writer : XsvfWriter) (image : Nat → Int) (promImageWordCount : Nat)
    (timeinfo : TimeInfo) (beyond : UInt8) : Option (XsvfWriter × Bool) :=
  let cleared := { writer with xsvfImage := [], imageCounter := 0, dataLengths := [] }
  if writer.whichUserProm ≠ 0 ∧ writer.whichUserProm ≠ 1 then some (cleared, false)
  else
    let ready := { cleared with jtag := setupJtag writer.jtag }
    ready.writePreambleIntoXsvfImage.bind fun begun =>
      (begun.writePromImageIntoXsvfImage image promImageWordCount beyond).bind fun filled =>
        filled.writeInterimBetweenImageAndVerifyIntoXsvfImage.bind fun between =>
          (between.writePostambleIntoXsvfImage timeinfo).map fun done =>
            ({ done with numberOfWriteBytes := done.imageCounter }, true)

end XsvfWriter

end EmuLib.Jtag
