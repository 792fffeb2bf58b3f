import EmuLib.Lib.TextStream
import Mathlib.Data.Nat.Bitwise

/-!
The images of the user proms of a TMB, and the files they are kept in.
-/

namespace EmuLib.Jtag

open TextStream

/-- `SIZE_OF_PROM * 1024 / NUMBER_OF_BITS_PER_ADDRESS`. -/
def totalNumberOfAddresses : Nat := 256 * 1024 / 8

inductive ChipLocation
  | tmbUserPromTMB
  | tmbUserPromALCT
  | tmbUserPromTMBClear
  | tmbUserPromALCTClear
  | other
  deriving DecidableEq

/-- The writes that are recorded to be put into a prom, in three vectors of one size. -/
structure WriteVectors where
  vmeAddress : List Nat
  dataLsb : List Nat
  dataMsb : List Nat
  lsbSize : dataLsb.length = vmeAddress.length
  msbSize : dataMsb.length = vmeAddress.length
  lsbBytes : ∀ word ∈ dataLsb, word ≤ 0xff
  msbBytes : ∀ word ∈ dataMsb, word ≤ 0xff

lemma and_byte (value) : value &&& 0xff = value % 256 :=
  Nat.and_two_pow_sub_one_eq_mod value 8

lemma and_nibble (value) : value &&& 0xf = value % 16 :=
  Nat.and_two_pow_sub_one_eq_mod value 4

lemma and_byte_le (value) : value &&& 0xff ≤ 0xff := Nat.and_le_right

lemma bytes_snoc {words} (bytes : ∀ word ∈ words, word ≤ 0xff) (value) :
    ∀ word ∈ words ++ [value &&& 0xff], word ≤ 0xff := by
  intro word member
  rcases List.mem_append.mp member with before | last
  · exact bytes word before
  · rw [List.mem_singleton.mp last]
    exact and_byte_le value

def WriteVectors.cleared : WriteVectors where
  vmeAddress := []
  dataLsb := []
  dataMsb := []
  lsbSize := rfl
  msbSize := rfl
  lsbBytes := fun _ member => absurd member List.not_mem_nil
  msbBytes := fun _ member => absurd member List.not_mem_nil

lemma WriteVectors.size_snoc {addresses words} (size : words.length = addresses.length)
    (vme value : Nat) : (words ++ [value]).length = (addresses ++ [vme]).length := by
  rw [List.length_append, List.length_append, size]
  rfl

def WriteVectors.pushBack (vectors : WriteVectors) (vme data : Nat) : WriteVectors where
  vmeAddress := vectors.vmeAddress ++ [vme]
  dataLsb := vectors.dataLsb ++ [data &&& 0xff]
  dataMsb := vectors.dataMsb ++ [(data >>> 8) &&& 0xff]
  lsbSize := size_snoc vectors.lsbSize vme (data &&& 0xff)
  msbSize := size_snoc vectors.msbSize vme ((data >>> 8) &&& 0xff)
  lsbBytes := bytes_snoc vectors.lsbBytes data
  msbBytes := bytes_snoc vectors.msbBytes (data >>> 8)

/-- `TMB` with the vectors of its own and the ones of the controller for the ALCT. -/
structure Tmb where
  tmbVec : WriteVectors
  alctVec : WriteVectors

def tmbWords : List Nat → List Nat → List Nat → List Nat
  | address :: addresses, lsb :: lsbs, msb :: msbs =>
    [address &&& 0xff, (address >>> 8) &&& 0xff, (address >>> 16) &&& 0xff, lsb, msb] ++
      tmbWords addresses lsbs msbs
  | _, _, _ => []

/-- `data_to_prom`, with as many words as `data_word_count_` is set to. -/
def dataToProm (tmb : Tmb) : ChipLocation → Option (List Nat)
  | .tmbUserPromTMB =>
    some (tmbWords tmb.tmbVec.vmeAddress tmb.tmbVec.dataLsb tmb.tmbVec.dataMsb)
  | .tmbUserPromALCT => some (tmb.alctVec.dataLsb.map (· &&& 0x7f))
  | .tmbUserPromTMBClear =>
    some [0xab, 0x01, 0x02, 0x04, 0x08, 0x10, 0x20, 0x40, 0x80, 0xee]
  | .tmbUserPromALCTClear =>
    some [0xcd, 0x01, 0x02, 0x04, 0x08, 0x10, 0x20, 0x40, 0x80, 0xbb]
  | .other => none

/-- `struct tm`, with the month and the year as they are counted after the call of `localtime`. -/
structure TimeInfo where
  month : Nat
  day : Nat
  year : Nat

def inHex (tens ones : Nat) : Nat := ((tens &&& 0xf) <<< 4) ||| (ones &&& 0xf)

structure UserProm where
  whichUserProm : ChipLocation
  alctTypeForProm : Nat
  fileIo : Bool
  writeAsciiPromImage : Nat → Nat
  readAsciiPromImage : Nat → Int
  dataWordCount : Nat
  promImageWordCount : Nat
  /-- What is on disk under `filename_dat_`. -/
  file : Option (List Char)

def setUserPromImage (image : Nat → Nat) (address value : Nat) : Nat → Nat :=
  if totalNumberOfAddresses ≤ address then image
  else if 0xff < value then image
  else Function.update image address (value &&& 0xff)

structure Filling where
  image : Nat → Nat
  addressCounter : Nat

def Filling.set (filling : Filling) (value : Nat) : Filling :=
  ⟨setUserPromImage filling.image filling.addressCounter value, filling.addressCounter + 1⟩

def Filling.setAll (filling : Filling) (values : List Nat) : Filling := values.foldl Filling.set filling

def Filling.skip (filling : Filling) : Filling := ⟨filling.image, filling.addressCounter + 1⟩

def clearedImage (image : Nat → Nat) : Nat → Nat :=
  (List.range totalNumberOfAddresses).foldl (fun image address => setUserPromImage image address 0xff)
    image

def computeCheckSum (image : Nat → Nat) (beginAddress endAddress : Nat) : Nat :=
  (List.range' beginAddress (endAddress + 1 - beginAddress)).foldl
    (fun checkSum address => (checkSum + image address) &&& 0xff) 0

def tmbDate (timeinfo : TimeInfo) : List Nat :=
  [inHex (timeinfo.month / 10) (timeinfo.month % 10), inHex (timeinfo.day / 10) (timeinfo.day % 10),
    inHex (timeinfo.year / 10 % 10) (timeinfo.year % 10),
    inHex (timeinfo.year / 1000) (timeinfo.year / 100 % 10)]

def tmbVersion : List Nat := [1, 0xaa, 0x55, 0xaa, 0x55, 0xaa, 0x55, 0xaa, 0xEC]

def tmbEndOfData : List Nat := [0xE2, 0x00, 0x00, 0xAA, 0x55, 0xFC]

def alctHeader (alctType : Nat) (timeinfo : TimeInfo) : List Nat :=
  [0xBA, 0x80 ||| (alctType / 100 &&& 0xf), 0x80 ||| (alctType / 10 % 10 &&& 0xf),
    0x80 ||| (alctType % 10 &&& 0xf), 0x80 ||| timeinfo.month / 10, 0x80 ||| timeinfo.month % 10,
    0x80 ||| timeinfo.day / 10, 0x80 ||| timeinfo.day % 10, 0x80 ||| timeinfo.year / 1000,
    0x80 ||| timeinfo.year / 100 % 10, 0x80 ||| timeinfo.year / 10 % 10,
    0x80 ||| timeinfo.year % 10, 0x80 ||| 1, 0x80 ||| 0, 0x80 ||| 0, 0xAA]

def alctEndOfData : List Nat := [0x60, 0x64, 0xFA]

def alctWordCount (wordCount : Nat) : List Nat :=
  [0xC0 ||| ((wordCount >>> 12) &&& 0xf), 0xC0 ||| ((wordCount >>> 8) &&& 0xf),
    0xC0 ||| ((wordCount >>> 4) &&& 0xf), 0xC0 ||| ((wordCount >>> 0) &&& 0xf)]

def alctCheckSum (checkSum : Nat) : List Nat :=
  [0xC0 ||| ((checkSum >>> 4) &&& 0xf), 0xC0 ||| ((checkSum >>> 0) &&& 0xf)]

def header (which : ChipLocation) (alctType : Nat) (timeinfo : TimeInfo) (filling : Filling) :
    Filling :=
  match which with
  | .tmbUserPromTMB =>
    -- the two addresses for the word count are passed over
    ((filling.set 0xBC).skip.skip.setAll (tmbDate timeinfo)).setAll tmbVersion
  | .tmbUserPromALCT => filling.setAll (alctHeader alctType timeinfo)
  | _ => filling

def trailer (which : ChipLocation) (filling : Filling) : Filling :=
  match which with
  | .tmbUserPromTMB => ((filling.setAll tmbEndOfData).skip).set 0xFF
  | .tmbUserPromALCT =>
    let ended := filling.setAll alctEndOfData
    let counted := ended.setAll (alctWordCount ended.addressCounter)
    let checkSum := computeCheckSum counted.image 0 (counted.addressCounter - 1)
    (counted.setAll (alctCheckSum checkSum)).set 0xFF
  | _ => filling

def complete (which : ChipLocation) (image : Nat → Nat) (promImageWordCount : Nat) : Nat → Nat :=
  match which with
  | .tmbUserPromTMB =>
    let low := setUserPromImage image 1 ((promImageWordCount >>> 0) &&& 0xff)
    let high := setUserPromImage low 2 ((promImageWordCount >>> 8) &&& 0xff)
    setUserPromImage high (promImageWordCount - 2)
      (computeCheckSum high 0 (promImageWordCount - 3))
  | _ => image

def promToProgram : ChipLocation → ChipLocation
  | .tmbUserPromTMBClear => .tmbUserPromTMB
  | .tmbUserPromALCTClear => .tmbUserPromALCT
  | which => which

def insertHeaderAndTrailer (prom : UserProm) (timeinfo : TimeInfo) (dataToGoIntoProm : List Nat) :
    UserProm :=
  let start : Filling := ⟨clearedImage prom.writeAsciiPromImage, 0⟩
  let headed := header prom.whichUserProm prom.alctTypeForProm timeinfo start
  let filled := headed.setAll (dataToGoIntoProm.take prom.dataWordCount)
  let trailed := trailer prom.whichUserProm filled
  { prom with
    writeAsciiPromImage := complete prom.whichUserProm trailed.image trailed.addressCounter
    promImageWordCount := trailed.addressCounter
    whichUserProm := promToProgram prom.whichUserProm }

def promLine (index value : Nat) : List Char :=
  setw 1 (hex ((index >>> 12) &&& 0xf)) ++ hex ((index >>> 8) &&& 0xf) ++
    hex ((index >>> 4) &&& 0xf) ++ hex (index &&& 0xf) ++
    setw 2 (hex ((value >>> 4) &&& 0xf)) ++ hex (value &&& 0xf)

def writePromDataToDisk (prom : UserProm) : UserProm :=
  { prom with
    file := some (unlines ((List.range prom.promImageWordCount).map fun index =>
      promLine index (prom.writeAsciiPromImage index))) }

/-- Nothing is returned where the data does not fit `data_to_prom`. -/
def createUserPromFile (prom : UserProm) (tmb : Tmb) (timeinfo : TimeInfo) : Option UserProm :=
  match dataToProm tmb prom.whichUserProm with
  | none => some prom
  | some data =>
    if totalNumberOfAddresses < data.length then none
    else
      let created := insertHeaderAndTrailer { prom with dataWordCount := data.length } timeinfo data
      some (if created.fileIo then writePromDataToDisk created else created)

/-- The variables that are not set: `index_value` when the file is opened, and `image_value` at
each of its lines. -/
structure Unset where
  indexValue : Int
  imageValue : Nat → Int

structure Reading where
  image : Nat → Int
  indexValue : Int

def extractLine (line : List Char) (indexValue imageValue : Int) : Int × Int :=
  match extractHex line with
  | none => (indexValue, imageValue)
  | some (index, rest) =>
    match extractHex rest with
    | none => (index, imageValue)
    | some (value, _) => (index, value)

def readLine (reading : Reading) (line : List Char) (imageValue : Int) : Option Reading :=
  let extracted := extractLine line reading.indexValue imageValue
  if 0 ≤ extracted.1 ∧ extracted.1 < totalNumberOfAddresses then
    some ⟨Function.update reading.image extracted.1.toNat extracted.2, extracted.1⟩
  else none

def readLines (imageValue : Nat → Int) : Nat → List (List Char) → Reading → Option Reading
  | _, [], reading => some reading
  | passed, line :: rest, reading =>
    (readLine reading line (imageValue passed)).bind (readLines imageValue (passed + 1) rest)

def clearedReadImage (image : Nat → Int) : Nat → Int := fun address =>
  if address < totalNumberOfAddresses then 0xff else image address

def readUserPromFile (prom : UserProm) (unset : Unset) : Option (UserProm × Bool) :=
  let cleared := clearedReadImage prom.readAsciiPromImage
  if prom.fileIo then
    match prom.file with
    | none => some ({ prom with readAsciiPromImage := cleared }, false)
    | some text =>
      (readLines unset.imageValue 0 (getlines text) ⟨cleared, unset.indexValue⟩).map
        fun reading =>
          ({ prom with
             readAsciiPromImage := reading.image
             promImageWordCount := (reading.indexValue + 1).toNat }, true)
  else
    some ({ prom with
            readAsciiPromImage := fun address =>
              if address < prom.promImageWordCount then (prom.writeAsciiPromImage address : Int)
              else cleared address }, true)

end EmuLib.Jtag
