import EmuLib.Jtag.XsvfDecoding
import EmuLib.Lib.PartialWalk
import Mathlib.Data.Finite.Prod

/-!
What the decoder does with any file: where its commands stand, and which of them reach the board.
-/

namespace EmuLib.Jtag

open PartialWalk List Function Option

def fileImage (file : List UInt8) : List UInt8 := file ++ [0xff]

def isXsvfScan : Operation → Bool
  | .scan _ _ _ => true
  | _ => false

lemma numberOfBytes_byte {bits : Nat} (byte : bits < 256) : numberOfBytes bits ≤ 32 := by
  rw [numberOfBytes]
  rcases Nat.eq_zero_or_pos bits with rfl | positive
  · decide
  · rw [Int.tdiv_eq_ediv_of_nonneg (by omega)]
    omega

/-- Where the decoding of a file is, with what the commands so far mean for the place of the
next one: the register length, and whether the end of the file has been announced. -/
structure XsvfPlace where
  position : Nat
  length : Int
  ended : Bool
deriving DecidableEq

namespace XsvfPlace

variable (file : List UInt8) (place : XsvfPlace)

def command : UInt8 := (fileImage file).getD place.position 0

def opcodeBits : Nat := ((fileImage file).getD (place.position + 1) 0).toNat

def hasData : Prop := place.command file = xtdomask ∨ place.command file = xsdrtdo

instance : Decidable (place.hasData file) := inferInstanceAs (Decidable (_ ∨ _))

def tooLong : Prop := place.hasData file ∧ maxBufferSize < numberOfBytes place.length

instance : Decidable (place.tooLong file) := inferInstanceAs (Decidable (_ ∧ _))

def secondEof : Prop := place.command file = xcomplete ∧ place.ended = true

instance : Decidable (place.secondEof file) := inferInstanceAs (Decidable (_ ∧ _))

def operands : Nat :=
  if place.command file = xtdomask then numberOfBytes place.length
  else if place.command file = xsir then 1 + numberOfBytes (place.opcodeBits file)
  else if place.command file = xruntest then 4
  else if place.command file = xrepeat then 1
  else if place.command file = xsdrsize then 4
  else if place.command file = xsdrtdo then 2 * numberOfBytes place.length
  else if place.command file = xstate then 1
  else 0

def behind : Nat := place.position + 1 + place.operands file

def bails : Prop := place.tooLong file ∨ place.secondEof file

instance : Decidable (place.bails file) := inferInstanceAs (Decidable (_ ∨ _))

def whole : Prop := place.behind file ≤ (fileImage file).length

instance : Decidable (place.whole file) := inferInstanceAs (Decidable (_ ≤ _))

def sizeRead : Int :=
  ((XsvfDecoder.readWord (fileImage file) 4 (place.position + 1) 0).map fun read =>
    read.2.toInt).getD 0

def next : XsvfPlace where
  position := if place.bails file then maxXsvfImageNumber else place.behind file
  length := if place.command file = xsdrsize then place.sizeRead file else place.length
  ended := place.ended || place.command file == xcomplete

def walk : Option XsvfPlace :=
  if place.position < file.length ∧ (place.command file).toNat < 23 ∧
      (place.bails file ∨ place.whole file) then
    some (place.next file)
  else none

def known : Prop :=
  place.command file ∈ [xcomplete, xtdomask, xsir, xruntest, xrepeat, xsdrsize, xsdrtdo, xstate]

instance : Decidable (place.known file) := inferInstanceAs (Decidable (_ ∈ _))

/-- An undefined command, a second end of the file, a command without all its bytes, or a register
length that is not positive or too long. -/
def Faulty : Prop :=
  ¬ place.known file ∨ place.secondEof file ∨ file.length < place.behind file ∨
    place.tooLong file ∨ (place.hasData file ∧ place.length ≤ 0) ∨
    (place.command file = xsir ∧ place.opcodeBits file = 0)

def Scanning : Prop :=
  (place.command file = xsir ∨ place.command file = xsdrtdo) ∧ ¬ place.tooLong file ∧
    place.whole file

instance : Decidable (place.Scanning file) := inferInstanceAs (Decidable (_ ∧ _ ∧ _))

def filled : Nat :=
  if place.command file = xsir then numberOfBytes (place.opcodeBits file)
  else if place.hasData file ∧ ¬ place.tooLong file then numberOfBytes place.length
  else 0

variable {file place}

lemma bails_data (data : place.hasData file) :
    place.bails file ↔ maxBufferSize < numberOfBytes place.length := by
  constructor
  · rintro (long | second)
    · exact long.2
    · rcases data with masks | shifts
      · exact absurd (second.1.symm.trans masks) (by decide)
      · exact absurd (second.1.symm.trans shifts) (by decide)
  · exact fun long => .inl ⟨data, long⟩

lemma bails_complete (complete : place.command file = xcomplete) :
    place.bails file ↔ place.ended = true := by
  constructor
  · rintro (long | second)
    · rcases long.1 with masks | shifts
      · exact absurd (complete.symm.trans masks) (by decide)
      · exact absurd (complete.symm.trans shifts) (by decide)
    · exact second.2
  · exact fun ended => .inr ⟨complete, ended⟩

lemma not_bails (other : ¬ place.hasData file) (goes : place.command file ≠ xcomplete) :
    ¬ place.bails file := by
  rintro (long | second)
  · exact other long.1
  · exact goes second.1

lemma next_length (other : place.command file ≠ xsdrsize) :
    (place.next file).length = place.length := if_neg other

lemma not_scanning (not_ir : place.command file ≠ xsir) (not_dr : place.command file ≠ xsdrtdo) :
    ¬ place.Scanning file := by
  rintro ⟨ir | dr, -⟩
  · exact not_ir ir
  · exact not_dr dr

variable (file place)

lemma filled_fits : place.filled file ≤ maxBufferSize := by
  rw [filled]
  split
  · have byte : place.opcodeBits file < 256 := ((fileImage file).getD _ 0).toNat_lt
    have few : numberOfBytes (place.opcodeBits file) ≤ 32 := numberOfBytes_byte byte
    exact Nat.le_trans few (by decide)
  · split
    next data => exact Nat.not_lt.1 fun long => data.2 ⟨data.1, long⟩
    next => exact Nat.zero_le _

end XsvfPlace

namespace XsvfDecoder

section

variable (file : List UInt8) (writeToDevice : Bool) (answer : List Operation → Nat → UInt8)
  (decoder : XsvfDecoder)

/-- One turn of the loop of `DecodeXsvfImage_`, where another one may follow. -/
def turn : Option XsvfDecoder :=
  if decoder.imageCounter < file.length then
    (decoder.decodeCommand (fileImage file) writeToDevice answer).bind fun result =>
      if result.2 then some result.1 else none
  else none

def begun : XsvfDecoder := { decoder with numberOfCommands := fun _ => 0, imageCounter := 0 }

def place : XsvfPlace :=
  ⟨decoder.imageCounter, decoder.xdrLength, decide (0 < decoder.numberOfCommands xcomplete.toNat)⟩

def scans : List Operation := decoder.operations.filter isXsvfScan

def Comes (count : Nat) (there : XsvfDecoder) : Prop :=
  after (turn file writeToDevice answer) decoder.begun count = some there ∧
    there.imageCounter < file.length

structure Plays : Prop where
  terminates : Ends (turn file writeToDevice answer) decoder.begun
  inTable : ∀ count there, Comes file writeToDevice answer decoder count there →
    23 < (there.place.command file).toBitVec.toInt ∨
      (0 ≤ (there.place.command file).toBitVec.toInt ∧
        (there.place.command file).toBitVec.toInt < 23)
  inBuffers : ∀ count there, Comes file writeToDevice answer decoder count there →
    there.place.filled file ≤ maxBufferSize
  stops : ∀ count there, Comes file writeToDevice answer decoder count there →
    there.place.Faulty file → ∀ later other, Comes file writeToDevice answer decoder later other →
      count ≤ later → ∀ final goesOn,
        other.decodeCommand (fileImage file) writeToDevice answer = some (final, goesOn) →
        final.scans = there.scans

structure Playable (start : XsvfPlace) : Prop where
  counted : ∀ count place, after (XsvfPlace.walk file) start count = some place →
    place.position < file.length →
    (place.command file).toNat ≠ 23 ∧ (place.command file).toNat < 128
  quiet : writeToDevice = true → ∀ count place,
    after (XsvfPlace.walk file) start count = some place → place.position < file.length →
      place.Faulty file → ∀ later other, after (XsvfPlace.walk file) start later = some other →
        other.position < file.length → count ≤ later → ¬ other.Scanning file
  fresh : Fresh (XsvfPlace.walk file) start

end

variable {final : XsvfDecoder} {position : Nat} {length : Int} {scanning : Prop}

section

variable {image : List UInt8} {writeToDevice : Bool} {answer : List Operation → Nat → UInt8}
  {decoder : XsvfDecoder}

lemma readInto_cases (bytes) : ∀ {imageCounter : Nat} (buffer : List UInt8),
    imageCounter ≤ image.length →
    (imageCounter + bytes ≤ image.length ∧
        ∃ filled, readInto image bytes imageCounter buffer =
          some (imageCounter + bytes, filled)) ∨
      (image.length < imageCounter + bytes ∧
        readInto image bytes imageCounter buffer = none) := by
  induction bytes with
  | zero => exact fun _ inside => .inl ⟨inside, _, rfl⟩
  | succ byte ih =>
    intro imageCounter buffer inside
    rcases Nat.lt_or_ge imageCounter image.length with more | ended
    · have place : imageCounter + 1 + byte = imageCounter + (byte + 1) := by omega
      have found := ih (buffer.set byte image[imageCounter]) (Nat.succ_le_of_lt more)
      rw [place] at found
      rw [readInto, getElem?_eq_getElem more]
      exact found
    · refine .inr ⟨by omega, ?_⟩
      rw [readInto, getElem?_eq_none ended, bind_none]

lemma readWord_cases (count) : ∀ {imageCounter : Nat} (value : BitVec 32),
    imageCounter ≤ image.length →
    (imageCounter + count ≤ image.length ∧
        ∃ read, readWord image count imageCounter value = some (imageCounter + count, read)) ∨
      (image.length < imageCounter + count ∧
        readWord image count imageCounter value = none) := by
  induction count with
  | zero => exact fun _ inside => .inl ⟨inside, _, rfl⟩
  | succ i ih =>
    intro imageCounter value inside
    rcases Nat.lt_or_ge imageCounter image.length with more | ended
    · have place : imageCounter + 1 + i = imageCounter + (i + 1) := by omega
      have found := ih (value ||| (BitVec.ofNat 32 image[imageCounter].toNat <<< (8 * i)))
        (Nat.succ_le_of_lt more)
      rw [place] at found
      rw [readWord, getElem?_eq_getElem more]
      exact found
    · refine .inr ⟨by omega, ?_⟩
      rw [readWord, getElem?_eq_none ended, bind_none]

structure Moved (writeToDevice : Bool) (before final : XsvfDecoder) (position : Nat) (length : Int)
    (scanning : Prop) : Prop where
  position : final.imageCounter = position
  length : final.xdrLength = length
  commands : final.numberOfCommands = before.numberOfCommands
  scans : ∃ more, final.scans = before.scans ++ more ∧
    (more ≠ [] ↔ writeToDevice = true ∧ scanning)

structure Effect (writeToDevice : Bool) (before : XsvfDecoder) (result : Option XsvfDecoder)
    (taken : Prop) (position : Nat) (length : Int) (scanning : Prop) : Prop where
  thrown : ¬ taken → result = none
  moved : taken → ∃ final, result = some final ∧
    Moved writeToDevice before final position length scanning

lemma moved_quiet (counter : final.imageCounter = position) (size : final.xdrLength = length)
    (commands : final.numberOfCommands = decoder.numberOfCommands)
    (operations : final.scans = decoder.scans) (none_ : ¬ scanning) :
    Moved writeToDevice decoder final position length scanning where
  position := counter
  length := size
  commands := commands
  scans := ⟨[], by rw [operations, append_nil], fun some_ => absurd rfl some_,
    fun both => absurd both.2 none_⟩

lemma perform_scans (operations) :
    (decoder.perform writeToDevice operations).scans =
      decoder.scans ++ if writeToDevice then operations.filter isXsvfScan else [] := by
  cases writeToDevice with
  | false =>
    have same : decoder.operations ++ [] = decoder.operations := append_nil _
    change (decoder.operations ++ []).filter isXsvfScan = decoder.scans ++ []
    rw [same, append_nil]
    rfl
  | true => exact filter_append ..

lemma parseXCOMPLETE_effect :
    Moved writeToDevice decoder decoder.parseXCOMPLETE
      (if 1 < decoder.numberOfCommands xcomplete.toNat then maxXsvfImageNumber
        else decoder.imageCounter) decoder.xdrLength False := by
  rw [parseXCOMPLETE]
  split
  · exact moved_quiet rfl rfl rfl rfl id
  · exact moved_quiet rfl rfl rfl rfl id

lemma parseXTDOMASK_effect (inside : decoder.imageCounter ≤ image.length) :
    Effect writeToDevice decoder (decoder.parseXTDOMASK image)
      (maxBufferSize < numberOfBytes decoder.xdrLength ∨
        decoder.imageCounter + numberOfBytes decoder.xdrLength ≤ image.length)
      (if maxBufferSize < numberOfBytes decoder.xdrLength then maxXsvfImageNumber
        else decoder.imageCounter + numberOfBytes decoder.xdrLength) decoder.xdrLength False := by
  rw [parseXTDOMASK]
  by_cases long : maxBufferSize < numberOfBytes decoder.xdrLength
  · simp only [if_pos long]
    exact ⟨fun none_ => absurd (.inl long) none_, fun _ => ⟨_, rfl, moved_quiet rfl rfl rfl rfl id⟩⟩
  · simp only [long, if_false, false_or]
    rcases readInto_cases (numberOfBytes decoder.xdrLength) cleared inside with
      ⟨enough, filled, read⟩ | ⟨few, read⟩
    · rw [read]
      exact ⟨fun none_ => absurd enough none_, fun _ => ⟨_, rfl, moved_quiet rfl rfl rfl rfl id⟩⟩
    · rw [read]
      exact ⟨fun _ => rfl, fun enough => absurd enough (Nat.not_le.2 few)⟩

lemma parseXRUNTEST_effect (inside : decoder.imageCounter ≤ image.length) :
    Effect writeToDevice decoder (decoder.parseXRUNTEST image)
      (decoder.imageCounter + 4 ≤ image.length) (decoder.imageCounter + 4) decoder.xdrLength
      False := by
  rw [parseXRUNTEST]
  rcases readWord_cases 4 0 inside with ⟨enough, word, read⟩ | ⟨few, read⟩
  · rw [read]
    exact ⟨fun none_ => absurd enough none_, fun _ => ⟨_, rfl, moved_quiet rfl rfl rfl rfl id⟩⟩
  · rw [read]
    exact ⟨fun _ => rfl, fun enough => absurd enough (Nat.not_le.2 few)⟩

lemma parseXSDRSIZE_effect (inside : decoder.imageCounter ≤ image.length) :
    Effect writeToDevice decoder (decoder.parseXSDRSIZE image)
      (decoder.imageCounter + 4 ≤ image.length) (decoder.imageCounter + 4)
      (((readWord image 4 decoder.imageCounter 0).map fun read => read.2.toInt).getD 0) False := by
  rw [parseXSDRSIZE]
  rcases readWord_cases 4 0 inside with ⟨enough, word, read⟩ | ⟨few, read⟩
  · rw [read]
    exact ⟨fun none_ => absurd enough none_, fun _ => ⟨_, rfl, moved_quiet rfl rfl rfl rfl id⟩⟩
  · rw [read]
    exact ⟨fun _ => rfl, fun enough => absurd enough (Nat.not_le.2 few)⟩

lemma byte_effect {f}
    (moves : ∀ value, Moved writeToDevice decoder (f value) position length False) :
    Effect writeToDevice decoder ((image[decoder.imageCounter]?).map f)
      (decoder.imageCounter + 1 ≤ image.length) position length False := by
  constructor
  · intro few
    rw [getElem?_eq_none (by omega), map_none]
  · intro enough
    rw [getElem?_eq_getElem enough]
    exact ⟨_, rfl, moves _⟩

lemma parseXREPEAT_effect :
    Effect writeToDevice decoder (decoder.parseXREPEAT image)
      (decoder.imageCounter + 1 ≤ image.length) (decoder.imageCounter + 1) decoder.xdrLength
      False :=
  byte_effect fun _ => moved_quiet rfl rfl rfl rfl id

lemma parseXSTATE_effect :
    Effect writeToDevice decoder (decoder.parseXSTATE image writeToDevice)
      (decoder.imageCounter + 1 ≤ image.length) (decoder.imageCounter + 1) decoder.xdrLength
      False := by
  refine byte_effect fun _ => moved_quiet rfl rfl rfl ?_ id
  have none_ : (replicate (decoder.xrepeatTimes + 1) Operation.restoreIdle).filter isXsvfScan =
      [] := by
    rw [filter_eq_nil_iff]
    intro operation member
    rw [eq_of_mem_replicate member]
    exact Bool.false_ne_true
  rw [perform_scans, none_, ite_self, append_nil]
  rfl

lemma parseXSIR_effect :
    Effect writeToDevice decoder (decoder.parseXSIR image writeToDevice)
      (decoder.imageCounter + 1 +
        numberOfBytes (image.getD decoder.imageCounter 0).toNat ≤ image.length)
      (decoder.imageCounter + 1 + numberOfBytes (image.getD decoder.imageCounter 0).toNat)
      decoder.xdrLength True := by
  rw [parseXSIR]
  rcases Nat.lt_or_ge decoder.imageCounter image.length with more | ended
  · rw [getElem?_eq_getElem more, bind_some, getD_eq_getElem _ _ more]
    rcases readInto_cases (numberOfBytes image[decoder.imageCounter].toNat) cleared
        (Nat.succ_le_of_lt more) with ⟨enough, filled, read⟩ | ⟨few, read⟩
    · rw [read]
      refine ⟨fun none_ => absurd enough none_, fun _ => ⟨_, rfl, rfl, rfl, rfl, ?_⟩⟩
      refine ⟨_, perform_scans _, ?_⟩
      cases writeToDevice <;> simp [isXsvfScan]
    · rw [read]
      exact ⟨fun _ => rfl, fun enough => absurd enough (Nat.not_le.2 few)⟩
  · rw [getElem?_eq_none ended]
    exact ⟨fun _ => rfl, fun enough => absurd enough (by omega)⟩

lemma parseXSDRTDO_effect (inside : decoder.imageCounter ≤ image.length) :
    Effect writeToDevice decoder (decoder.parseXSDRTDO image writeToDevice answer)
      (maxBufferSize < numberOfBytes decoder.xdrLength ∨
        decoder.imageCounter + 2 * numberOfBytes decoder.xdrLength ≤ image.length)
      (if maxBufferSize < numberOfBytes decoder.xdrLength then maxXsvfImageNumber
        else decoder.imageCounter + 2 * numberOfBytes decoder.xdrLength) decoder.xdrLength
      (¬ maxBufferSize < numberOfBytes decoder.xdrLength) := by
  rw [parseXSDRTDO]
  by_cases long : maxBufferSize < numberOfBytes decoder.xdrLength
  · simp only [if_pos long]
    exact ⟨fun none_ => absurd (.inl long) none_, fun _ =>
      ⟨_, rfl, moved_quiet rfl rfl rfl rfl fun short => short long⟩⟩
  · have both : decoder.imageCounter + 2 * numberOfBytes decoder.xdrLength =
        decoder.imageCounter + numberOfBytes decoder.xdrLength + numberOfBytes decoder.xdrLength := by
      omega
    simp only [long, if_false, false_or, both]
    rcases readInto_cases (numberOfBytes decoder.xdrLength) cleared inside with
      ⟨enough, tdi, read⟩ | ⟨few, read⟩
    · rw [read, bind_some]
      rcases readInto_cases (numberOfBytes decoder.xdrLength) cleared enough with
        ⟨again, tdo, expected⟩ | ⟨few, expected⟩
      · rw [expected]
        refine ⟨fun none_ => absurd again none_, fun _ => ⟨_, rfl, rfl, rfl, rfl, ?_⟩⟩
        -- only the first of the three operations is a scan
        cases writeToDevice with
        | false => exact ⟨[], by simp [scans, perform], by simp⟩
        | true =>
          refine ⟨[.scan .data (bitsFrom tdi 0 decoder.xdrLength.toNat)
            ((decoder.tdoMaskInBytes.take (numberOfBytes decoder.xdrLength)).any (· != 0))],
            ?_, by simp⟩
          simp only [scans, perform, if_true, filter_append, append_assoc]
          rfl
      · rw [expected]
        exact ⟨fun _ => rfl, fun enough => absurd enough (Nat.not_le.2 few)⟩
    · rw [read]
      exact ⟨fun _ => rfl, fun enough => absurd enough (by omega)⟩

end

section

variable {file : List UInt8} {writeToDevice : Bool} {answer : List Operation → Nat → UInt8}
  {decoder : XsvfDecoder}

lemma command_found (inside : decoder.imageCounter < file.length) :
    (fileImage file)[decoder.imageCounter]? = some (decoder.place.command file) := by
  have more : decoder.imageCounter < (fileImage file).length := by
    rw [fileImage, length_append]
    exact Nat.lt_add_right _ inside
  rw [getElem?_eq_getElem more]
  exact congrArg some (getD_eq_getElem _ _ more).symm

variable {byte : UInt8}

lemma signed_small (small : byte.toNat < 128) : byte.toBitVec.toInt = byte.toNat := by
  rw [BitVec.toInt_eq_toNat_of_lt]
  · rfl
  · change 2 * byte.toNat < 2 ^ 8
    omega

lemma signed_large (large : 128 ≤ byte.toNat) : byte.toBitVec.toInt < 0 := by
  rw [BitVec.toInt_eq_toNat_cond, if_neg]
  · omega
  · change ¬ 2 * byte.toNat < 2 ^ 8
    omega

lemma decodeCommand_beyond (inside : decoder.imageCounter < file.length)
    (beyond : 23 ≤ (decoder.place.command file).toNat) :
    ∀ final goesOn,
      decoder.decodeCommand (fileImage file) writeToDevice answer = some (final, goesOn) →
      goesOn = false ∧ final.scans = decoder.scans := by
  intro final goesOn decoded
  rw [decodeCommand, command_found inside, bind_some] at decoded
  dsimp only at decoded
  split at decoded
  · obtain ⟨rfl, rfl⟩ := Prod.mk.inj (Option.some.inj decoded)
    exact ⟨rfl, rfl⟩
  · rename_i out
    split at decoded
    · exact absurd decoded.symm (some_ne_none _)
    · rename_i other
      rw [numberOfDifferentXsvfCommands] at out other
      rcases Nat.lt_or_ge (decoder.place.command file).toNat 128 with small | large
      · rw [signed_small small] at out other
        omega
      · have negative := signed_large large
        omega

lemma Effect.congr {before result taken taken' scanning' position' length'}
    (effect : Effect writeToDevice before result taken position length scanning)
    (takes : taken ↔ taken') (places : position = position') (sizes : length = length')
    (scans : taken' → (scanning ↔ scanning')) :
    Effect writeToDevice before result taken' position' length' scanning' := by
  subst places sizes
  refine ⟨fun none_ => effect.thrown fun some_ => none_ (takes.1 some_), fun some_ => ?_⟩
  obtain ⟨final, same, moved⟩ := effect.moved (takes.2 some_)
  obtain ⟨more, appended, reached⟩ := moved.scans
  exact ⟨final, same, moved.position, moved.length, moved.commands, more, appended,
    reached.trans (and_congr_right fun _ => scans some_)⟩

lemma counted_eofs (decoder : XsvfDecoder) (complete : byte = xcomplete) :
    1 < (decoder.counted byte).numberOfCommands xcomplete.toNat ↔ decoder.place.ended = true := by
  subst complete
  have zero : xcomplete.toBitVec.toInt = (xcomplete.toNat : Int) := by decide
  have counts : (decoder.counted xcomplete).numberOfCommands xcomplete.toNat =
      decoder.numberOfCommands xcomplete.toNat + 1 := by
    simp only [counted, zero, update_self]
  rw [place, decide_eq_true_iff]
  omega

lemma Effect.plain {result bytes}
    (effect : Effect writeToDevice (decoder.counted byte) result
      ((decoder.counted byte).imageCounter + bytes ≤ (fileImage file).length)
      ((decoder.counted byte).imageCounter + bytes) length scanning)
    (goes : ¬ decoder.place.bails file) (operands : decoder.place.operands file = bytes)
    (size : length = (decoder.place.next file).length)
    (scans : decoder.place.whole file → (scanning ↔ decoder.place.Scanning file)) :
    Effect writeToDevice (decoder.counted byte) result
      (decoder.place.bails file ∨ decoder.place.whole file)
      (decoder.place.next file).position (decoder.place.next file).length
      (decoder.place.Scanning file) := by
  subst operands
  refine effect.congr ?_ ?_ size fun some_ => scans (some_.resolve_left goes)
  · exact (or_iff_right goes).symm
  · exact (if_neg goes).symm

lemma parse_effect (writeToDevice answer) (inside : decoder.imageCounter < file.length) :
    Effect writeToDevice (decoder.counted (decoder.place.command file))
      ((decoder.counted (decoder.place.command file)).parse (fileImage file) writeToDevice answer
        (decoder.place.command file))
      (decoder.place.bails file ∨ decoder.place.whole file)
      (decoder.place.next file).position (decoder.place.next file).length
      (decoder.place.Scanning file) := by
  have within : (decoder.counted (decoder.place.command file)).imageCounter ≤
      (fileImage file).length := by
    rw [fileImage, length_append]
    change decoder.imageCounter + 1 ≤ file.length + 1
    omega
  by_cases complete : decoder.place.command file = xcomplete
  · have second := counted_eofs decoder complete
    have none_ : decoder.place.operands file = 0 := by
      rw [XsvfPlace.operands, complete]
      rfl
    have whole : decoder.place.whole file := by
      rw [XsvfPlace.whole, XsvfPlace.behind, none_]
      exact within
    have moved : Moved writeToDevice _ _ _ _ _ :=
      @parseXCOMPLETE_effect writeToDevice (decoder.counted (decoder.place.command file))
    rw [parse, if_pos complete]
    refine ⟨fun neither => absurd (.inr whole) neither, fun _ => ⟨_, rfl, ?_, ?_, moved.commands, ?_⟩⟩
    · rw [moved.position, if_congr second rfl rfl, XsvfPlace.next,
        if_congr (XsvfPlace.bails_complete complete) rfl rfl, XsvfPlace.behind, none_]
      rfl
    · rw [moved.length, XsvfPlace.next_length (by rw [complete]; decide)]
      rfl
    · obtain ⟨more, same, some_⟩ := moved.scans
      refine ⟨more, same, some_.trans ?_⟩
      exact and_congr_right fun _ => iff_of_false id
        (XsvfPlace.not_scanning (by rw [complete]; decide) (by rw [complete]; decide))
  rw [parse, if_neg complete]
  by_cases masks : decoder.place.command file = xtdomask
  · have data : decoder.place.hasData file := .inl masks
    have bytes : decoder.place.operands file = numberOfBytes decoder.xdrLength := if_pos masks
    rw [if_pos masks]
    refine (parseXTDOMASK_effect within).congr ?_ ?_ ?_ ?_
    · rw [XsvfPlace.bails_data data, XsvfPlace.whole, XsvfPlace.behind, bytes]
      rfl
    · rw [XsvfPlace.next, if_congr (XsvfPlace.bails_data data) rfl rfl, XsvfPlace.behind, bytes]
      rfl
    · rw [XsvfPlace.next_length (by rw [masks]; decide)]
      rfl
    · exact fun _ => iff_of_false id
        (XsvfPlace.not_scanning (by rw [masks]; decide) (by rw [masks]; decide))
  rw [if_neg masks]
  by_cases shifts : decoder.place.command file = xsdrtdo
  · have data : decoder.place.hasData file := .inr shifts
    have bytes : decoder.place.operands file = 2 * numberOfBytes decoder.xdrLength := by
      rw [XsvfPlace.operands, shifts]
      rfl
    have effect := @parseXSDRTDO_effect _ writeToDevice answer _ within
    rw [shifts] at effect ⊢
    refine effect.congr ?_ ?_ ?_ ?_
    · rw [XsvfPlace.bails_data data, XsvfPlace.whole, XsvfPlace.behind, bytes]
      rfl
    · rw [XsvfPlace.next, if_congr (XsvfPlace.bails_data data) rfl rfl, XsvfPlace.behind, bytes]
      rfl
    · rw [XsvfPlace.next_length (by rw [shifts]; decide)]
      rfl
    · intro taken
      have long := XsvfPlace.bails_data data
      constructor
      · intro short
        have whole : decoder.place.whole file := taken.resolve_left fun bails => short (long.1 bails)
        exact ⟨.inr shifts, fun too => short too.2, whole⟩
      · exact fun scanning too => scanning.2.1 ⟨data, too⟩
  have other : ¬ decoder.place.hasData file := by
    rintro (is | is)
    · exact masks is
    · exact shifts is
  have goes := XsvfPlace.not_bails other complete
  by_cases opcodes : decoder.place.command file = xsir
  · have bytes : decoder.place.operands file =
        1 + numberOfBytes (decoder.place.opcodeBits file) := by
      rw [XsvfPlace.operands, opcodes]
      rfl
    rw [if_pos opcodes]
    have effect := @parseXSIR_effect (fileImage file) writeToDevice
      (decoder.counted (decoder.place.command file))
    rw [Nat.add_assoc] at effect
    refine effect.plain goes bytes ?_ ?_
    · rw [XsvfPlace.next_length (by rw [opcodes]; decide)]
      rfl
    · exact fun whole => iff_of_true trivial ⟨.inl opcodes, fun long => other long.1, whole⟩
  rw [if_neg opcodes]
  have quiet := XsvfPlace.not_scanning opcodes shifts
  by_cases pauses : decoder.place.command file = xruntest
  · rw [if_pos pauses]
    refine (parseXRUNTEST_effect within).plain goes ?_ ?_ fun _ => iff_of_false id quiet
    · rw [XsvfPlace.operands, pauses]
      rfl
    · rw [XsvfPlace.next_length (by rw [pauses]; decide)]
      rfl
  rw [if_neg pauses]
  by_cases repeats : decoder.place.command file = xrepeat
  · rw [if_pos repeats]
    refine parseXREPEAT_effect.plain goes ?_ ?_ fun _ => iff_of_false id quiet
    · rw [XsvfPlace.operands, repeats]
      rfl
    · rw [XsvfPlace.next_length (by rw [repeats]; decide)]
      rfl
  rw [if_neg repeats]
  by_cases sizes : decoder.place.command file = xsdrsize
  · rw [if_pos sizes]
    refine (parseXSDRSIZE_effect within).plain goes ?_ ?_ fun _ => iff_of_false id quiet
    · rw [XsvfPlace.operands, sizes]
      rfl
    · exact (if_pos sizes).symm
  rw [if_neg sizes, if_neg shifts]
  by_cases states : decoder.place.command file = xstate
  · rw [if_pos states]
    refine parseXSTATE_effect.plain goes ?_ ?_ fun _ => iff_of_false id quiet
    · rw [XsvfPlace.operands, states]
      rfl
    · rw [XsvfPlace.next_length sizes]
      rfl
  rw [if_neg states]
  have none_ : decoder.place.operands file = 0 := by
    rw [XsvfPlace.operands, if_neg masks, if_neg opcodes, if_neg pauses, if_neg repeats,
      if_neg sizes, if_neg shifts, if_neg states]
  have whole : decoder.place.whole file := by
    rw [XsvfPlace.whole, XsvfPlace.behind, none_]
    exact within
  refine ⟨fun neither => absurd (.inr whole) neither, fun _ => ⟨_, rfl, ?_⟩⟩
  refine moved_quiet ?_ ?_ rfl rfl quiet
  · rw [XsvfPlace.next, if_neg goes, XsvfPlace.behind, none_]
    rfl
  · rw [XsvfPlace.next_length sizes]
    rfl

lemma decodeCommand_parse (inside : decoder.imageCounter < file.length)
    (small : (decoder.place.command file).toNat < 23) :
    decoder.decodeCommand (fileImage file) writeToDevice answer =
      ((decoder.counted (decoder.place.command file)).parse (fileImage file) writeToDevice answer
        (decoder.place.command file)).map (·, true) := by
  have signed := signed_small (Nat.lt_trans small (by decide))
  exact decodeCommand_eq (command_found inside) (by rw [signed]; omega)

lemma counted_ended (small : (decoder.place.command file).toNat < 23) :
    decide (0 < (decoder.counted (decoder.place.command file)).numberOfCommands xcomplete.toNat) =
      (decoder.place.next file).ended := by
  have signed := signed_small (Nat.lt_trans small (by decide))
  by_cases complete : decoder.place.command file = xcomplete
  · have zero : xcomplete.toBitVec.toInt = (xcomplete.toNat : Int) := by decide
    rw [XsvfPlace.next, complete]
    simp only [counted, zero, update_self, beq_self_eq_true, Bool.or_true, decide_eq_true_eq]
    omega
  · have apart : (xcomplete.toNat : Int) ≠ (decoder.place.command file).toBitVec.toInt := by
      intro same
      rw [signed] at same
      exact complete (UInt8.toNat_inj.1 (Int.ofNat_inj.1 same.symm))
    have kept : (decoder.counted (decoder.place.command file)).numberOfCommands xcomplete.toNat =
        decoder.numberOfCommands xcomplete.toNat := update_of_ne apart ..
    rw [kept, XsvfPlace.next, beq_eq_false_iff_ne.2 complete, Bool.or_false]
    rfl

lemma turn_place (writeToDevice answer) (decoder : XsvfDecoder) :
    (decoder.turn file writeToDevice answer).map place = decoder.place.walk file := by
  rw [turn, XsvfPlace.walk]
  by_cases inside : decoder.imageCounter < file.length
  · rw [if_pos inside]
    by_cases small : (decoder.place.command file).toNat < 23
    · have effect := parse_effect writeToDevice answer inside
      rw [decodeCommand_parse inside small]
      by_cases taken : decoder.place.bails file ∨ decoder.place.whole file
      · obtain ⟨final, parsed, moved⟩ := effect.moved taken
        rw [parsed, if_pos ⟨inside, small, taken⟩]
        have ended := counted_ended small
        rw [← moved.commands] at ended
        refine congrArg some ?_
        rw [place, moved.position, moved.length, ended]
      · rw [effect.thrown taken, if_neg fun all => taken all.2.2]
        rfl
    · rw [if_neg fun all => small all.2.1]
      cases decoded : decoder.decodeCommand (fileImage file) writeToDevice answer with
      | none => rfl
      | some result =>
        obtain ⟨ends, -⟩ := decodeCommand_beyond inside (Nat.not_lt.1 small) _ _ decoded
        rw [bind_some, ends]
        rfl
  · rw [if_neg inside, if_neg fun all => inside all.1]
    rfl

lemma scanning_small (scanning : decoder.place.Scanning file) :
    (decoder.place.command file).toNat < 23 := by
  rcases scanning.1 with is | is
  · rw [is]
    decide
  · rw [is]
    decide

lemma decode_scans (inside : decoder.imageCounter < file.length) {goesOn}
    (decoded : decoder.decodeCommand (fileImage file) writeToDevice answer =
      some (final, goesOn)) :
    ∃ more, final.scans = decoder.scans ++ more ∧
      (more ≠ [] ↔ writeToDevice = true ∧ decoder.place.Scanning file) := by
  by_cases small : (decoder.place.command file).toNat < 23
  · have effect := parse_effect writeToDevice answer inside
    rw [decodeCommand_parse inside small] at decoded
    obtain ⟨parsed, found, same⟩ := map_eq_some_iff.1 decoded
    obtain ⟨rfl, -⟩ := Prod.mk.inj same
    by_cases taken : decoder.place.bails file ∨ decoder.place.whole file
    · obtain ⟨other, again, moved⟩ := effect.moved taken
      rw [found] at again
      obtain rfl := Option.some.inj again
      exact moved.scans
    · rw [effect.thrown taken] at found
      exact absurd found.symm (some_ne_none _)
  · obtain ⟨-, same⟩ := decodeCommand_beyond inside (Nat.not_lt.1 small) _ _ decoded
    exact ⟨[], by rw [same, append_nil], fun some_ => absurd rfl some_,
      fun both => absurd (scanning_small both.2) small⟩

lemma scanning_decoded (writeToDevice answer)
    (inside : decoder.imageCounter < file.length) (scanning : decoder.place.Scanning file) :
    ∃ final, decoder.decodeCommand (fileImage file) writeToDevice answer = some (final, true) := by
  have effect := parse_effect writeToDevice answer inside
  obtain ⟨final, parsed, -⟩ := effect.moved (.inr scanning.2.2)
  exact ⟨final, by rw [decodeCommand_parse inside (scanning_small scanning), parsed]; rfl⟩

end

variable {file : List UInt8} {writeToDevice : Bool} {answer : List Operation → Nat → UInt8}
  {decoder : XsvfDecoder}

def placesOf (file : List UInt8) (length : Int) : Set XsvfPlace :=
  {place | place.position ≤ file.length + 1 + maxXsvfImageNumber ∧
    (place.length = length ∨ ∃ word : BitVec 32, place.length = word.toInt)}

lemma placesOf_finite (file length) : (placesOf file length).Finite := by
  have lengths : (insert length (Set.range fun word : Fin (2 ^ 32) => (BitVec.ofFin word).toInt)).Finite :=
    (Set.finite_range _).insert length
  have flags : (Set.univ : Set Bool).Finite := Set.finite_univ
  have positions : {position | position ≤ file.length + 1 + maxXsvfImageNumber}.Finite :=
    Set.finite_le_nat _
  have all := (positions.prod (lengths.prod flags)).image
    fun place => XsvfPlace.mk place.1 place.2.1 place.2.2
  refine all.subset ?_
  rintro ⟨position, size, ended⟩ ⟨bound, known⟩
  refine ⟨(position, size, ended), ⟨bound, ?_, trivial⟩, rfl⟩
  rcases known with same | ⟨word, same⟩
  · exact .inl same
  · exact .inr ⟨word.toFin, same.symm⟩

lemma walk_inside {place next} (inside : place ∈ placesOf file length)
    (step : place.walk file = some next) : next ∈ placesOf file length := by
  rw [XsvfPlace.walk] at step
  split at step
  · rename_i all
    obtain rfl := Option.some.inj step
    constructor
    · rw [XsvfPlace.next]
      dsimp only
      split
      · omega
      · rename_i goes
        have whole := all.2.2.resolve_left goes
        rw [XsvfPlace.whole, fileImage, length_append] at whole
        change place.behind file ≤ file.length + 1 at whole
        omega
    · rw [XsvfPlace.next]
      dsimp only
      split
      · refine .inr ?_
        rw [XsvfPlace.sizeRead]
        cases readWord (fileImage file) 4 (place.position + 1) 0 with
        | none => exact ⟨0, rfl⟩
        | some read => exact ⟨read.2, rfl⟩
      · exact inside.2
  · exact absurd step.symm (some_ne_none _)

lemma after_inside {start} (begins : start.position = 0) :
    ∀ count place, after (XsvfPlace.walk file) start count = some place →
      place ∈ placesOf file start.length := by
  intro count
  induction count with
  | zero =>
    intro place there
    obtain rfl := Option.some.inj there
    exact ⟨by omega, .inl rfl⟩
  | succ count ih =>
    intro place there
    obtain ⟨before, was, step⟩ := bind_eq_some_iff.1 there
    exact walk_inside (ih before was) step

lemma ends_iff : Ends (turn file writeToDevice answer) decoder.begun ↔
    Fresh (XsvfPlace.walk file) decoder.begun.place := by
  rw [ends_view (turn_place writeToDevice answer)]
  exact ends_iff_fresh (placesOf_finite file _) (after_inside rfl)

variable {count : Nat} {there : XsvfDecoder}

lemma comes_place (comes : Comes file writeToDevice answer decoder count there) :
    after (XsvfPlace.walk file) decoder.begun.place count = some there.place := by
  rw [← after_view (turn_place writeToDevice answer), comes.1]
  rfl

lemma place_comes (writeToDevice answer) {there}
    (after_ : after (XsvfPlace.walk file) decoder.begun.place count = some there)
    (inside : there.position < file.length) :
    ∃ other, Comes file writeToDevice answer decoder count other ∧ other.place = there := by
  rw [← after_view (turn_place writeToDevice answer)] at after_
  obtain ⟨other, comes, rfl⟩ := map_eq_some_iff.1 after_
  exact ⟨other, ⟨comes, inside⟩, rfl⟩

lemma inTable_iff (byte : UInt8) :
    23 < byte.toBitVec.toInt ∨ (0 ≤ byte.toBitVec.toInt ∧ byte.toBitVec.toInt < 23) ↔
      byte.toNat ≠ 23 ∧ byte.toNat < 128 := by
  rcases Nat.lt_or_ge byte.toNat 128 with small | large
  · rw [signed_small small]
    omega
  · have negative := signed_large large
    omega

lemma comes_before (comes : Comes file writeToDevice answer decoder (count + 1) there) :
    ∃ before, Comes file writeToDevice answer decoder count before ∧
      before.decodeCommand (fileImage file) writeToDevice answer = some (there, true) := by
  obtain ⟨before, was, step⟩ := bind_eq_some_iff.1 comes.1
  rw [turn] at step
  split at step
  · rename_i inside
    obtain ⟨result, decoded, goes⟩ := bind_eq_some_iff.1 step
    split at goes
    · rename_i on_
      obtain rfl := Option.some.inj goes
      exact ⟨before, ⟨was, inside⟩, by rw [decoded, ← on_]⟩
    · exact absurd goes.symm (some_ne_none _)
  · exact absurd step.symm (some_ne_none _)

lemma plays_playable (plays : Plays file writeToDevice answer decoder) :
    Playable file writeToDevice decoder.begun.place where
  counted := by
    intro count place there inside
    obtain ⟨other, comes, rfl⟩ := place_comes writeToDevice answer there inside
    exact (inTable_iff _).1 (plays.inTable count other comes)
  quiet := by
    intro writes count place there inside faulty later other thereLater insideLater order scanning
    obtain ⟨first, comes, rfl⟩ := place_comes writeToDevice answer there inside
    obtain ⟨second, comesLater, rfl⟩ := place_comes writeToDevice answer thereLater insideLater
    obtain ⟨final, decoded⟩ := scanning_decoded writeToDevice answer insideLater scanning
    obtain ⟨more, appended, some_⟩ := decode_scans insideLater decoded
    have final_ := plays.stops count first comes faulty later second comesLater order final true
      decoded
    -- nothing has been scanned on the way to the place either
    have same : second.scans = first.scans := by
      rcases Nat.lt_or_ge count later with before | here
      · obtain ⟨last, rfl⟩ : ∃ last, later = last + 1 := ⟨later - 1, by omega⟩
        obtain ⟨earlier, comesEarlier, step⟩ := comes_before comesLater
        exact plays.stops count first comes faulty last earlier comesEarlier (by omega) second true
          step
      · obtain rfl : count = later := by omega
        have both := comesLater.1
        rw [comes.1] at both
        rw [Option.some.inj both]
    rw [final_, same] at appended
    exact some_.2 ⟨writes, scanning⟩ (append_right_eq_self.1 appended.symm)
  fresh := ends_iff.1 plays.terminates

lemma quiet_decode (playable : Playable file writeToDevice decoder.begun.place)
    (comes : Comes file writeToDevice answer decoder count there) (faulty : there.place.Faulty file)
    {later other} (comesLater : Comes file writeToDevice answer decoder later other)
    (order : count ≤ later) {goesOn}
    (decoded : other.decodeCommand (fileImage file) writeToDevice answer = some (final, goesOn)) :
    final.scans = other.scans := by
  obtain ⟨more, appended, some_⟩ := decode_scans comesLater.2 decoded
  have none_ : more = [] := by
    by_contra scanned
    obtain ⟨writes, scanning⟩ := some_.1 scanned
    exact playable.quiet writes count there.place (comes_place comes) comes.2 faulty later
      other.place (comes_place comesLater) comesLater.2 order scanning
  rw [appended, none_, append_nil]

lemma quiet_comes (playable : Playable file writeToDevice decoder.begun.place)
    (comes : Comes file writeToDevice answer decoder count there) (faulty : there.place.Faulty file)
    (turns) :
    ∀ {other : XsvfDecoder}, Comes file writeToDevice answer decoder (count + turns) other →
      other.scans = there.scans := by
  induction turns with
  | zero =>
    intro other comesLater
    have both := comesLater.1
    rw [Nat.add_zero, comes.1] at both
    rw [Option.some.inj both]
  | succ turns ih =>
    intro other comesLater
    obtain ⟨before, comesBefore, decoded⟩ := comes_before comesLater
    rw [quiet_decode playable comes faulty comesBefore (Nat.le_add_right _ _) decoded,
      ih comesBefore]

lemma playable_plays (playable : Playable file writeToDevice decoder.begun.place) :
    Plays file writeToDevice answer decoder where
  terminates := ends_iff.2 playable.fresh
  inTable := fun count there comes =>
    (inTable_iff _).2 (playable.counted count there.place (comes_place comes) comes.2)
  inBuffers := fun _ there _ => there.place.filled_fits file
  stops := by
    intro count there comes faulty later other comesLater order final goesOn decoded
    obtain ⟨turns, rfl⟩ : ∃ turns, later = count + turns := ⟨later - count, by omega⟩
    rw [quiet_decode playable comes faulty comesLater order decoded,
      quiet_comes playable comes faulty turns comesLater]

/-- The player keeps what is promised of it exactly for the files that are playable. -/
theorem plays_iff (file : List UInt8) (writeToDevice : Bool) (answer : List Operation → Nat → UInt8)
    (decoder : XsvfDecoder) :
    Plays file writeToDevice answer decoder ↔
      Playable file writeToDevice ⟨0, decoder.xdrLength, false⟩ :=
  ⟨plays_playable, playable_plays⟩

def undefinedThenScan : List UInt8 := [0x03, 0x02, 0x08, 0xaa]

def idle : XsvfDecoder where
  imageCounter := 0
  xdrLength := 0
  xruntestTime := 0
  xrepeatTimes := 0
  tdoMaskInBytes := []
  tdiInBytes := []
  numberOfCommands := fun _ => 0
  verifyError := 0
  messages := []
  operations := []
  dataLengths := []

theorem undefined_scanned : ¬ Plays undefinedThenScan true (fun _ _ => 0) .idle := by
  intro plays
  have quiet := (plays_playable plays).quiet rfl 0 ⟨0, 0, false⟩ rfl (by decide)
    (.inl (by decide)) 1 ⟨1, 0, false⟩ (by decide) (by decide) (by decide)
  exact quiet (by decide)

end XsvfDecoder

end EmuLib.Jtag
