import EmuLib.Jtag.XsvfWriter
import EmuLib.Lib.BitFields

/-!
How values get into the data word of a register and out of it.
-/

namespace EmuLib.Tmb

open BitFields Jtag List

def numberOfBits : Nat := 16

def bitsToInt (bits : List Nat) (length : Nat) : BitVec 32 :=
  (List.range length).foldl
    (fun value ibit => value ||| BitVec.ofNat 32 (bits.getD ibit 0 &&& 0x1) <<< ibit) 0

def insertValueIntoDataWord (value : BitVec 32) (hibit lobit : Nat) (dataWord : BitVec 32) :
    BitVec 32 :=
  let dataVector := intToBits dataWord numberOfBits (List.replicate numberOfBits 0)
  let sizeOfValue := hibit + 1 - lobit
  let dataVector :=
    dataVector.take lobit ++ intToBits value sizeOfValue (dataVector.drop lobit)
  bitsToInt dataVector numberOfBits

def maskFor : Nat → BitVec 32
  | 0 => 0
  | count + 1 => maskFor count <<< 1 ||| 1

def makemask (bitlo bithi : Nat) : BitVec 32 := maskFor (bithi + 1 - bitlo)

def extractValueFromData (data : BitVec 32) (bitlo bithi : Nat) : BitVec 32 :=
  data.sshiftRight bitlo &&& makemask bitlo bithi

lemma oneBit_getLsbD (word) {ibit} (short : ibit < 32) (bit) :
    (BitVec.ofNat 32 (word &&& 0x1) <<< ibit).getLsbD bit =
      (decide (bit = ibit) && word.testBit 0) := by
  have parity : word &&& 0x1 = (word.testBit 0).toNat := by
    rcases Nat.mod_two_eq_zero_or_one word with even | odd
    · simp [even]
    · simp [odd]
  rw [parity, BitVec.getLsbD_shiftLeft]
  cases word.testBit 0 with
  | false => simp
  | true =>
    change (decide (bit < 32) && !decide (bit < ibit) && (1#32).getLsbD (bit - ibit)) = _
    rw [BitVec.getLsbD_one, Bool.and_true, Bool.eq_iff_iff]
    simp only [Bool.and_eq_true, Bool.not_eq_true', decide_eq_true_eq, decide_eq_false_iff_not]
    omega

lemma bitsToInt_getLsbD (bits) {length} (short : length ≤ 32) (bit) :
    (bitsToInt bits length).getLsbD bit =
      (decide (bit < length) && (bits.getD bit 0).testBit 0) := by
  induction length with
  | zero => simp [bitsToInt]
  | succ length ih =>
    have fewer := ih (Nat.le_of_succ_le short)
    rw [bitsToInt] at fewer ⊢
    rw [range_succ, foldl_append, foldl_cons, foldl_nil,
      BitVec.getLsbD_or, fewer, oneBit_getLsbD _ short]
    by_cases last : bit = length
    · subst last
      simp
    · have bound : bit < length + 1 ↔ bit < length := by omega
      simp [last, bound]

lemma maskFor_getLsbD {count} (short : count ≤ 32) (bit) :
    (maskFor count).getLsbD bit = decide (bit < count) := by
  induction count generalizing bit with
  | zero => simp [maskFor]
  | succ count ih =>
    have fewer := ih (Nat.le_of_succ_le short)
    rw [maskFor, BitVec.getLsbD_or, BitVec.getLsbD_shiftLeft, fewer]
    change (_ || (1#32).getLsbD bit) = _
    rw [BitVec.getLsbD_one, Bool.eq_iff_iff]
    simp only [Bool.or_eq_true, Bool.and_eq_true, Bool.not_eq_true', decide_eq_true_eq,
      decide_eq_false_iff_not]
    omega

lemma intToBits_getD (value length bits ibit) :
    (intToBits value length bits).getD ibit 0 =
      if ibit < length then opcodeBit value ibit else bits.getD ibit 0 := by
  rw [intToBits]
  by_cases inside : ibit < length
  · rw [getD_append _ _ _ _ (by simpa using inside)]
    simp [inside]
  · have behind : length ≤ ibit := Nat.le_of_not_lt inside
    rw [if_neg inside, getD_append_right _ _ _ _ (by simpa using behind)]
    simp [getD_eq_getElem?_getD, Nat.add_sub_cancel' behind]

lemma overwritten_getD (value) {lobit length} {bits : List Nat}
    (room : lobit ≤ bits.length) (bit) :
    (bits.take lobit ++ intToBits value length (bits.drop lobit)).getD bit 0 =
      if lobit ≤ bit ∧ bit < lobit + length then opcodeBit value (bit - lobit)
      else bits.getD bit 0 := by
  have taken : (bits.take lobit).length = lobit := length_take_of_le room
  by_cases below : bit < lobit
  · rw [getD_append _ _ _ _ (by rw [taken]; exact below)]
    simp [getD_eq_getElem?_getD, below]
  · have behind : lobit ≤ bit := Nat.le_of_not_lt below
    rw [getD_append_right _ _ _ _ (by rw [taken]; exact behind), taken, intToBits_getD]
    by_cases inside : bit < lobit + length
    · rw [if_pos (show bit - lobit < length by omega), if_pos ⟨behind, inside⟩]
    · rw [if_neg (show ¬ bit - lobit < length by omega), if_neg (by omega)]
      simp [getD_eq_getElem?_getD, Nat.add_sub_cancel' behind]

lemma opcodeBit_testBit (value) {ibit} (short : ibit < 32) :
    (opcodeBit value ibit).testBit 0 = value.getLsbD ibit := by
  rw [opcodeBit_eq _ short]
  cases value.getLsbD ibit <;> rfl

lemma dataVector_length (dataWord) :
    (intToBits dataWord numberOfBits (replicate numberOfBits 0)).length = numberOfBits := by
  simp [intToBits]

lemma insertValueIntoDataWord_getLsbD (value dataWord) {hibit lobit}
    (inside : hibit < numberOfBits) (ordered : lobit ≤ hibit) (bit) :
    (insertValueIntoDataWord value hibit lobit dataWord).getLsbD bit =
      (decide (bit < numberOfBits) &&
        BitField.put ⟨lobit, hibit⟩ value.getLsbD dataWord.getLsbD bit) := by
  have few : numberOfBits = 16 := rfl
  rw [insertValueIntoDataWord, bitsToInt_getLsbD _ (by decide)]
  by_cases low : bit < numberOfBits
  · rw [decide_eq_true low, Bool.true_and, Bool.true_and,
      overwritten_getD _ (by rw [dataVector_length]; omega), BitField.put]
    by_cases covered : BitField.Covers ⟨lobit, hibit⟩ bit
    · have between : lobit ≤ bit ∧ bit < lobit + (hibit + 1 - lobit) :=
        ⟨covered.1, by have := covered.2; simp only at this; omega⟩
      rw [if_pos covered, if_pos between, opcodeBit_testBit _ (by omega)]
    · have outside : ¬ (lobit ≤ bit ∧ bit < lobit + (hibit + 1 - lobit)) := by
        intro between
        exact covered ⟨between.1, by simp only; omega⟩
      rw [if_neg covered, if_neg outside, intToBits_getD, if_pos low,
        opcodeBit_testBit _ (by omega)]
  · rw [decide_eq_false low, Bool.false_and, Bool.false_and]

variable {field : BitField}

lemma extractValueFromData_getLsbD {data} (positive : data.msb = false)
    (inside : field.hi < numberOfBits) :
    (extractValueFromData data field.lo field.hi).getLsbD = field.get data.getLsbD := by
  have few : numberOfBits = 16 := rfl
  funext bit
  rw [extractValueFromData, BitVec.getLsbD_and, makemask, maskFor_getLsbD (by omega),
    BitVec.getLsbD_sshiftRight, BitField.get, positive]
  by_cases short : field.lo + bit ≤ field.hi
  · have counted : bit < field.hi + 1 - field.lo := by omega
    have narrow : ¬ 32 ≤ bit ∧ field.lo + bit < 32 := by omega
    simp [short, counted, narrow]
  · have beyond : ¬ bit < field.hi + 1 - field.lo := by omega
    simp [short, beyond]

abbrev Insertion := BitVec 32 × BitField

def insertAll (insertions : List Insertion) (dataWord : BitVec 32) : BitVec 32 :=
  insertions.foldl
    (fun dataWord insertion =>
      insertValueIntoDataWord insertion.1 insertion.2.hi insertion.2.lo dataWord) dataWord

def Narrow (word : BitVec 32) : Prop := ∀ bit, numberOfBits ≤ bit → word.getLsbD bit = false

lemma narrow_zero : Narrow 0 := fun _ _ => BitVec.getLsbD_zero

variable {word : BitVec 32}

lemma Narrow.msb (narrow : Narrow word) : word.msb = false :=
  (BitVec.msb_eq_getLsbD_last word).trans (narrow 31 (by decide))

structure LaidOut (fields : List BitField) : Prop where
  apart : fields.Pairwise BitField.Apart
  inside : ∀ field ∈ fields, field.lo ≤ field.hi ∧ field.hi < numberOfBits

instance (fields : List BitField) : Decidable (LaidOut fields) :=
  decidable_of_iff
    (fields.Pairwise BitField.Apart ∧
      ∀ field ∈ fields, field.lo ≤ field.hi ∧ field.hi < numberOfBits)
    ⟨fun ⟨apart, inside⟩ => ⟨apart, inside⟩, fun layout => ⟨layout.apart, layout.inside⟩⟩

def fitsIn (value : BitVec 32) (field : BitField) : Prop :=
  value >>> (field.hi + 1 - field.lo) = 0

instance (value : BitVec 32) (field : BitField) : Decidable (fitsIn value field) :=
  inferInstanceAs (Decidable (_ = _))

variable {value : BitVec 32}

lemma fits_of_fitsIn (fits : fitsIn value field) : field.Fits value.getLsbD := by
  intro bit beyond
  have shifted := congrArg (BitVec.getLsbD · (bit - (field.hi + 1 - field.lo))) fits
  rw [BitVec.getLsbD_ushiftRight, Nat.add_sub_cancel' (by omega)] at shifted
  exact shifted.trans BitVec.getLsbD_zero

lemma insertValueIntoDataWord_bits (value) (narrow : Narrow word)
    (ordered : field.lo ≤ field.hi) (inside : field.hi < numberOfBits) :
    (insertValueIntoDataWord value field.hi field.lo word).getLsbD =
      field.put value.getLsbD word.getLsbD := by
  funext bit
  rw [insertValueIntoDataWord_getLsbD _ _ inside ordered]
  by_cases low : bit < numberOfBits
  · rw [decide_eq_true low, Bool.true_and]
  · have uncovered : ¬ field.Covers bit := fun covered => low (Nat.lt_of_le_of_lt covered.2 inside)
    rw [decide_eq_false low, Bool.false_and, BitField.put, if_neg uncovered,
      narrow bit (Nat.le_of_not_lt low)]

lemma narrow_insert (value word) (ordered : field.lo ≤ field.hi)
    (inside : field.hi < numberOfBits) :
    Narrow (insertValueIntoDataWord value field.hi field.lo word) := by
  intro bit high
  rw [insertValueIntoDataWord_getLsbD _ _ inside ordered,
    decide_eq_false (Nat.not_lt.2 high), Bool.false_and]

variable {insertions : List Insertion}

def entries (insertions : List Insertion) : List (BitField × Bits) :=
  insertions.map fun insertion => (insertion.2, insertion.1.getLsbD)

lemma insertAll_bits
    (inside : ∀ insertion ∈ insertions,
      insertion.2.lo ≤ insertion.2.hi ∧ insertion.2.hi < numberOfBits) (narrow : Narrow word) :
    (insertAll insertions word).getLsbD = putAll (entries insertions) word.getLsbD ∧
      Narrow (insertAll insertions word) := by
  induction insertions generalizing word with
  | nil => exact ⟨rfl, narrow⟩
  | cons first rest ih =>
    obtain ⟨⟨ordered, low⟩, others⟩ := forall_mem_cons.1 inside
    obtain ⟨bits, stays⟩ := ih others (narrow_insert first.1 word ordered low)
    refine ⟨?_, stays⟩
    rw [insertValueIntoDataWord_bits _ narrow ordered low] at bits
    exact bits

lemma insertAll_holds (layout : LaidOut (insertions.map Prod.snd)) :
    Narrow (insertAll insertions 0) ∧ ∀ insertion ∈ insertions,
      insertion.2.Holds insertion.1.getLsbD (insertAll insertions 0).getLsbD := by
  have inside : ∀ insertion ∈ insertions,
      insertion.2.lo ≤ insertion.2.hi ∧ insertion.2.hi < numberOfBits :=
    fun insertion among => layout.inside _ (mem_map_of_mem among)
  obtain ⟨bits, narrow⟩ := insertAll_bits inside narrow_zero
  have apart : SetApart (entries insertions) :=
    pairwise_map.2 (pairwise_map.1 layout.apart)
  refine ⟨narrow, fun insertion among => ?_⟩
  rw [bits]
  exact putAll_holds apart _ _ (mem_map_of_mem among)

lemma extract_insertAll (layout : LaidOut (insertions.map Prod.snd))
    (member : (value, field) ∈ insertions) (fits : fitsIn value field) :
    extractValueFromData (insertAll insertions 0) field.lo field.hi = value := by
  obtain ⟨narrow, holds⟩ := insertAll_holds layout
  have held := extractValueFromData_getLsbD narrow.msb
    (layout.inside _ (mem_map_of_mem member)).2
  rw [(holds _ member).get (fits_of_fitsIn fits)] at held
  exact BitVec.eq_of_getLsbD_eq fun bit _ => congrFun held bit

lemma makemask_getLsbD (inside : field.hi < numberOfBits) (bit) :
    (makemask field.lo field.hi).getLsbD bit = decide (field.lo + bit ≤ field.hi) := by
  have few : numberOfBits = 16 := rfl
  rw [makemask, maskFor_getLsbD (by omega), decide_eq_decide]
  omega

lemma extract_masked (layout : LaidOut (insertions.map Prod.snd))
    (member : (value, field) ∈ insertions) :
    extractValueFromData (insertAll insertions 0) field.lo field.hi =
      value &&& makemask field.lo field.hi := by
  obtain ⟨narrow, holds⟩ := insertAll_holds layout
  have inside : field.hi < numberOfBits := (layout.inside _ (mem_map_of_mem member)).2
  apply BitVec.eq_of_getLsbD_eq
  intro bit _
  rw [extractValueFromData_getLsbD narrow.msb inside, BitVec.getLsbD_and,
    makemask_getLsbD inside, BitField.get, Bool.and_comm]
  by_cases short : field.lo + bit ≤ field.hi
  · rw [holds _ member _ ⟨Nat.le_add_right _ _, short⟩, Nat.add_sub_cancel_left]
  · rw [decide_eq_false short, Bool.and_false, Bool.and_false]

lemma insert_masked (value word) (ordered : field.lo ≤ field.hi)
    (inside : field.hi < numberOfBits) :
    insertValueIntoDataWord (value &&& makemask field.lo field.hi) field.hi field.lo word =
      insertValueIntoDataWord value field.hi field.lo word := by
  apply BitVec.eq_of_getLsbD_eq
  intro bit _
  rw [insertValueIntoDataWord_getLsbD _ _ inside ordered,
    insertValueIntoDataWord_getLsbD _ _ inside ordered, BitField.put, BitField.put]
  by_cases covered : field.Covers bit
  · have room : field.lo + (bit - field.lo) ≤ field.hi := by
      have both : field.lo ≤ bit ∧ bit ≤ field.hi := covered
      omega
    rw [if_pos covered, if_pos covered, BitVec.getLsbD_and, makemask_getLsbD inside,
      decide_eq_true room, Bool.and_true]
  · rw [if_neg covered, if_neg covered]

def Insertion.masked (insertion : Insertion) : Insertion :=
  (insertion.1 &&& makemask insertion.2.lo insertion.2.hi, insertion.2)

lemma insertAll_masked
    (inside : ∀ insertion ∈ insertions,
      insertion.2.lo ≤ insertion.2.hi ∧ insertion.2.hi < numberOfBits) (word) :
    insertAll (insertions.map Insertion.masked) word = insertAll insertions word := by
  induction insertions generalizing word with
  | nil => rfl
  | cons first rest ih =>
    obtain ⟨⟨ordered, low⟩, others⟩ := forall_mem_cons.1 inside
    have masked := insert_masked first.1 word ordered low
    exact (ih others _).trans (congrArg (insertAll rest) masked)

lemma Narrow.small (narrow : Narrow word) : word.toInt < 0x10000 := by
  have bound : word.toNat < 0x10000 := Nat.lt_pow_two_of_testBit (n := 16) _ narrow
  rw [BitVec.toInt_eq_toNat_of_msb narrow.msb]
  omega

lemma narrow_insertAll (layout : LaidOut (insertions.map Prod.snd)) :
    Narrow (insertAll insertions 0) := (insertAll_holds layout).1

end EmuLib.Tmb
