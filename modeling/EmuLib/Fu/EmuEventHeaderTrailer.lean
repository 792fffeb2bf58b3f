import Mathlib.Data.Nat.Bitwise

/-!
The header and the trailer that the filter unit wraps an event in: eight 16-bit words each, with
the fixed bits of the header and trailer of the DCC.
-/

namespace EmuLib.Fu

structure Words where
  w0 : UInt16
  w1 : UInt16
  w2 : UInt16
  w3 : UInt16
  w4 : UInt16
  w5 : UInt16
  w6 : UInt16
  w7 : UInt16
  deriving DecidableEq, Repr

structure EmuEventHeaderTrailer where
  header : Words
  trailer : Words
  deriving DecidableEq, Repr

def version : UInt16 := 1

def EmuEventHeaderTrailer.constructed (calibration normalTrigger TFPresent : Bool) :
    EmuEventHeaderTrailer where
  header :=
    { w0 := 0x005F
      w1 := ((0xFF00 : UInt16) &&& version <<< 8) ||| if TFPresent then 0x0080 else 0
      w2 := 0x0000
      w3 := 0x5000 ||| 0x0400 ||| (if calibration then 0x0200 else 0) |||
        if normalTrigger then 0x0100 else 0
      w4 := 0x0000
      w5 := 0x0000
      w6 := 0x0000
      w7 := 0xD900 }
  trailer :=
    { w0 := 0x0000
      w1 := 0x0000
      w2 := 0x0000
      w3 := 0xEF00
      w4 := 0x0003
      w5 := 0x0000
      w6 := 0x0000
      w7 := 0xAF00 }

namespace EmuEventHeaderTrailer

def setL1ACounter (L1ACounter : UInt32) (wrapping : EmuEventHeaderTrailer) :
    EmuEventHeaderTrailer :=
  { wrapping with header := { wrapping.header with
      w2 := ((0x0000FFFF : UInt32) &&& L1ACounter).toUInt16
      w3 := (wrapping.header.w3 &&& (0xFF00 : UInt16)) ||| ((0x000000FF : UInt32) &&& L1ACounter >>> 16).toUInt16 } }

def setDDUCount (DDUCount : UInt16) (wrapping : EmuEventHeaderTrailer) : EmuEventHeaderTrailer :=
  { wrapping with header := { wrapping.header with
      w1 := (wrapping.header.w1 &&& 0xFF80) ||| (0x007F &&& DDUCount) } }

def setCSCConfigId (CSCConfigId : UInt32) (wrapping : EmuEventHeaderTrailer) :
    EmuEventHeaderTrailer :=
  { wrapping with trailer := { wrapping.trailer with
      w0 := ((0x0000FFFF : UInt32) &&& CSCConfigId).toUInt16
      w1 := ((0x0000FFFF : UInt32) &&& CSCConfigId >>> 16).toUInt16 } }

def setTFConfigId (TFConfigId : UInt32) (wrapping : EmuEventHeaderTrailer) :
    EmuEventHeaderTrailer :=
  { wrapping with trailer := { wrapping.trailer with
      w4 := (wrapping.trailer.w4 &&& (0x000F : UInt16)) ||| ((0x0000FFF0 : UInt32) &&& TFConfigId <<< 4).toUInt16
      w5 := ((0x0000FFFF : UInt32) &&& TFConfigId >>> 12).toUInt16
      w6 := ((0x0000FFFF : UInt32) &&& TFConfigId >>> 28).toUInt16 } }

end EmuEventHeaderTrailer

def Words.bytes (words : Words) : List UInt8 :=
  [words.w0, words.w1, words.w2, words.w3, words.w4, words.w5, words.w6, words.w7].flatMap
    fun word : UInt16 => [word.toUInt8, (word >>> 8).toUInt8]

def Words.l1aNumber (header : Words) : Nat :=
  header.w2.toNat + 0x10000 * (header.w3.toNat % 0x100)

def Words.dduCount (header : Words) : Nat := header.w1.toNat % 0x80

lemma toNat_low (word : UInt16) : (word &&& 0xFF).toNat = word.toNat % 0x100 := by
  exact Nat.and_two_pow_sub_one_eq_mod word.toNat 8

lemma toNat_lowest (word : UInt16) : (word &&& 0x7F).toNat = word.toNat % 0x80 := by
  exact Nat.and_two_pow_sub_one_eq_mod word.toNat 7

lemma masked_outside {field kept} (apart : field &&& kept = 0) (word value : UInt16) :
    ((word &&& kept) ||| (field &&& value)) &&& kept = word &&& kept := by
  apply UInt16.toBitVec_inj.mp
  have apartBits : field.toBitVec &&& kept.toBitVec = 0 := by
    simpa using congrArg UInt16.toBitVec apart
  simp only [UInt16.toBitVec_and, UInt16.toBitVec_or, BitVec.and_or_distrib_right,
    BitVec.and_assoc, BitVec.and_self]
  rw [BitVec.and_comm value.toBitVec, ← BitVec.and_assoc field.toBitVec, apartBits]
  simp

lemma masked_inside {field kept} (apart : field &&& kept = 0) (word value : UInt16) :
    ((word &&& kept) ||| (field &&& value)) &&& field = value &&& field := by
  apply UInt16.toBitVec_inj.mp
  have apartBits : field.toBitVec &&& kept.toBitVec = 0 := by
    simpa using congrArg UInt16.toBitVec apart
  simp only [UInt16.toBitVec_and, UInt16.toBitVec_or, BitVec.and_or_distrib_right, BitVec.and_assoc]
  rw [BitVec.and_comm kept.toBitVec field.toBitVec, apartBits,
    BitVec.and_comm value.toBitVec, ← BitVec.and_assoc]
  simp

def EmuEventHeaderTrailer.stamp (L1ACounter : UInt32) (DDUCount : UInt16)
    (CSCConfigId TFConfigId : UInt32) (wrapping : EmuEventHeaderTrailer) :
    EmuEventHeaderTrailer :=
  (((wrapping.setL1ACounter L1ACounter).setDDUCount DDUCount).setCSCConfigId
    CSCConfigId).setTFConfigId TFConfigId

structure SameFixed (first second : EmuEventHeaderTrailer) : Prop where
  header0 : first.header.w0 = second.header.w0
  header1 : first.header.w1 &&& 0xFF80 = second.header.w1 &&& 0xFF80
  header3 : first.header.w3 &&& 0xFF00 = second.header.w3 &&& 0xFF00
  header4 : first.header.w4 = second.header.w4
  header5 : first.header.w5 = second.header.w5
  header6 : first.header.w6 = second.header.w6
  header7 : first.header.w7 = second.header.w7
  trailer2 : first.trailer.w2 = second.trailer.w2
  trailer3 : first.trailer.w3 = second.trailer.w3
  trailer4 : first.trailer.w4 &&& 0x000F = second.trailer.w4 &&& 0x000F
  trailer7 : first.trailer.w7 = second.trailer.w7

variable {first second third wrapping : EmuEventHeaderTrailer} {L1ACounter : UInt32}
  {DDUCount : UInt16} {CSCConfigId TFConfigId : UInt32}

lemma low_half (number) :
    ((0x0000FFFF : UInt32) &&& number).toUInt16.toNat = number.toNat % 0x10000 := by
  have masked : ((0x0000FFFF : UInt32) &&& number).toNat = number.toNat % 0x10000 := by
    rw [UInt32.toNat_and, Nat.and_comm]
    exact Nat.and_two_pow_sub_one_eq_mod number.toNat 16
  rw [UInt32.toNat_toUInt16]
  omega

lemma stamp_l1aNumber :
    (wrapping.stamp L1ACounter DDUCount CSCConfigId TFConfigId).header.l1aNumber =
      L1ACounter.toNat % 0x1000000 := by
  have low := low_half L1ACounter
  have high : ((wrapping.header.w3 &&& (0xFF00 : UInt16)) |||
      ((0x000000FF : UInt32) &&& L1ACounter >>> 16).toUInt16).toNat % 0x100 =
        L1ACounter.toNat / 0x10000 % 0x100 := by
    have inside := masked_inside (show (0xFF : UInt16) &&& 0xFF00 = 0 by decide)
      wrapping.header.w3 (L1ACounter >>> 16).toUInt16
    have value : (L1ACounter >>> 16).toUInt16.toNat % 0x100 =
        L1ACounter.toNat / 0x10000 % 0x100 := by
      have shifted : (L1ACounter >>> 16).toNat = L1ACounter.toNat / 0x10000 := by
        rw [UInt32.toNat_shiftRight, Nat.shiftRight_eq_div_pow]
        rfl
      rw [UInt32.toNat_toUInt16]
      omega
    rw [← value, ← toNat_low, ← toNat_low, UInt32.toUInt16_and]
    exact congrArg UInt16.toNat inside
  simp only [EmuEventHeaderTrailer.stamp, EmuEventHeaderTrailer.setL1ACounter,
    EmuEventHeaderTrailer.setDDUCount, EmuEventHeaderTrailer.setCSCConfigId,
    EmuEventHeaderTrailer.setTFConfigId, Words.l1aNumber, low, high]
  omega

lemma stamp_dduCount :
    (wrapping.stamp L1ACounter DDUCount CSCConfigId TFConfigId).header.dduCount =
      DDUCount.toNat % 0x80 := by
  have inside := masked_inside (show (0x007F : UInt16) &&& 0xFF80 = 0 by decide)
    wrapping.header.w1 DDUCount
  have field := congrArg UInt16.toNat inside
  rw [toNat_lowest, toNat_lowest] at field
  exact field

lemma SameFixed.refl : SameFixed first first := by
  constructor <;> rfl

lemma SameFixed.trans (left : SameFixed first second) (right : SameFixed second third) :
    SameFixed first third where
  header0 := left.header0.trans right.header0
  header1 := left.header1.trans right.header1
  header3 := left.header3.trans right.header3
  header4 := left.header4.trans right.header4
  header5 := left.header5.trans right.header5
  header6 := left.header6.trans right.header6
  header7 := left.header7.trans right.header7
  trailer2 := left.trailer2.trans right.trailer2
  trailer3 := left.trailer3.trans right.trailer3
  trailer4 := left.trailer4.trans right.trailer4
  trailer7 := left.trailer7.trans right.trailer7

lemma stamp_sameFixed :
    SameFixed (wrapping.stamp L1ACounter DDUCount CSCConfigId TFConfigId) wrapping := by
  constructor
  case header1 =>
    exact masked_outside (show (0x007F : UInt16) &&& 0xFF80 = 0 by decide) _ _
  case header3 =>
    have apart : (0x000000FF : UInt32).toUInt16 &&& 0xFF00 = 0 := by decide
    have outside := masked_outside apart wrapping.header.w3 (L1ACounter >>> 16).toUInt16
    simpa only [EmuEventHeaderTrailer.stamp, EmuEventHeaderTrailer.setL1ACounter,
      EmuEventHeaderTrailer.setDDUCount, EmuEventHeaderTrailer.setCSCConfigId,
      EmuEventHeaderTrailer.setTFConfigId, UInt32.toUInt16_and] using outside
  case trailer4 =>
    have apart : (0x0000FFF0 : UInt32).toUInt16 &&& 0x000F = 0 := by decide
    have outside := masked_outside apart wrapping.trailer.w4 (TFConfigId <<< 4).toUInt16
    simpa only [EmuEventHeaderTrailer.stamp, EmuEventHeaderTrailer.setL1ACounter,
      EmuEventHeaderTrailer.setDDUCount, EmuEventHeaderTrailer.setCSCConfigId,
      EmuEventHeaderTrailer.setTFConfigId, UInt32.toUInt16_and] using outside
  all_goals rfl

lemma stamp_congr (same : SameFixed first second) :
    first.stamp L1ACounter DDUCount CSCConfigId TFConfigId =
      second.stamp L1ACounter DDUCount CSCConfigId TFConfigId := by
  simp only [EmuEventHeaderTrailer.stamp, EmuEventHeaderTrailer.setL1ACounter,
    EmuEventHeaderTrailer.setDDUCount, EmuEventHeaderTrailer.setCSCConfigId,
    EmuEventHeaderTrailer.setTFConfigId, same.header0, same.header1, same.header3, same.header4,
    same.header5, same.header6, same.header7, same.trailer2, same.trailer3, same.trailer4,
    same.trailer7]

end EmuLib.Fu
