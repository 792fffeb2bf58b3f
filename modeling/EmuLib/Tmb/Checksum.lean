import EmuLib.FastDaq.Checksums
import Mathlib.Tactic.IntervalCases

/-!
The check of a readout of the trigger board: a checksum that is taken a word at a time, and stored
in two of the last words.
-/

namespace EmuLib.Tmb

open Checksums FastDaq Polynomial List

def newCRC (d c : Nat → Bool) : List Bool :=
  [d 0 ^^ c 6, d 1 ^^ d 0 ^^ c 6 ^^ c 7, d 2 ^^ d 1 ^^ c 7 ^^ c 8, d 3 ^^ d 2 ^^ c 8 ^^ c 9,
    d 4 ^^ d 3 ^^ c 9 ^^ c 10, d 5 ^^ d 4 ^^ c 10 ^^ c 11, d 6 ^^ d 5 ^^ c 11 ^^ c 12,
    d 7 ^^ d 6 ^^ c 12 ^^ c 13, d 8 ^^ d 7 ^^ c 13 ^^ c 14, d 9 ^^ d 8 ^^ c 14 ^^ c 15,
    d 10 ^^ d 9 ^^ c 15 ^^ c 16, d 11 ^^ d 10 ^^ c 16 ^^ c 17, d 12 ^^ d 11 ^^ c 17 ^^ c 18,
    d 13 ^^ d 12 ^^ c 18 ^^ c 19, d 14 ^^ d 13 ^^ c 19 ^^ c 20, d 15 ^^ d 14 ^^ c 20 ^^ c 21,
    d 15 ^^ c 0 ^^ c 21, c 1, c 2, c 3, c 4, c 5]

def nextCRC22D16 (d : BitVec 16) (c : BitVec 22) : BitVec 22 :=
  (BitVec.ofBoolListLE (newCRC d.getLsbD c.getLsbD)).setWidth 22

/-- Without four words behind the others, the loop does not end within the vector. -/
def calCRC22 (datain : List (BitVec 16)) : Option (BitVec 22) :=
  if 4 ≤ datain.length then
    some ((datain.take (datain.length - 4)).foldl (fun crc d => nextCRC22D16 d crc) 0)
  else none

/-- The end of `ReadTMBRawhits_`, for the words that have been read. -/
def dataOK (tmbData : List (BitVec 16)) : Option Bool := do
  let crcLow ← tmbData[tmbData.length - 4]?
  let crcHigh ← tmbData[tmbData.length - 3]?
  let crcCalc ← calCRC22 tmbData
  some (crcCalc.toNat == ((crcHigh.toNat &&& 0x7ff) <<< 11 ||| (crcLow.toNat &&& 0x7ff)))

lemma crc22_steps (bits : Nat → Bool) (crc) {n} (few : n ≤ 20) {i} (inside : i < 22) :
    let fed (j : Nat) := bits j ^^ crc.testBit (21 - j)
    ((List.range n).foldl (fun crc j => crc22Bit crc (bits j)) crc).testBit i =
      ((if i < n then fed (n - 1 - i) else crc.testBit (i - n)) ^^
        (if 1 ≤ i ∧ i ≤ n then fed (n - i) else false)) := by
  intro fed
  induction n generalizing i with
  | zero =>
    have none : ¬ (1 ≤ i ∧ i ≤ 0) := by omega
    rw [if_neg none]
    simp
  | succ n ih =>
    have low : n ≤ 20 := by omega
    have top : (bits n ^^
        ((List.range n).foldl (fun crc j => crc22Bit crc (bits j)) crc).testBit 21) = fed n := by
      rw [ih low (by decide), if_neg (by omega), if_neg (by omega), Bool.xor_false]
    rw [range_succ, foldl_append, foldl_cons, foldl_nil, crc22Bit_testBit, top]
    rcases i with _ | _ | i
    · simp
    · have first := ih low (show 0 < 22 by decide)
      rw [if_neg (by omega : ¬(1 ≤ 0 ∧ 0 ≤ n)), Bool.xor_false] at first
      rw [if_neg (by decide), if_pos rfl, first, if_pos (by omega : 1 ≤ 0 + 1 ∧ 0 + 1 ≤ n + 1),
        Bool.xor_comm]
      by_cases none : n = 0
      · subst none
        rfl
      · rw [if_pos (by omega), if_pos (by omega)]
        rfl
    · have places : n + 1 - 1 - (i + 1 + 1) = n - 1 - (i + 1) ∧ i + 1 + 1 - (n + 1) = i + 1 - n ∧
          n + 1 - (i + 1 + 1) = n - (i + 1) := by omega
      have before : i + 1 + 1 - 1 = i + 1 := rfl
      rw [if_neg (by omega), if_neg (by omega), decide_eq_true inside, Bool.true_and, before,
        ih low (by omega), places.1, places.2.1, places.2.2]
      simp

lemma nextCRC22D16_eq (d c) :
    (nextCRC22D16 d c).toNat = (List.range 16).reverse.foldl
      (fun crc i => crc22Bit crc ((d.toNat >>> i).testBit 0)) c.toNat := by
  have turned : (List.range 16).reverse = (List.range 16).map (15 - ·) := rfl
  have small : (List.range 16).reverse.foldl
      (fun crc i => crc22Bit crc ((d.toNat >>> i).testBit 0)) c.toNat < 2 ^ 22 :=
    crc22Bit_small _ _
  apply Nat.eq_of_testBit_eq
  intro i
  by_cases inside : i < 22
  · rw [turned, foldl_map, crc22_steps (fun j => (d.toNat >>> (15 - j)).testBit 0) _ (by decide)
      inside, BitVec.testBit_toNat]
    rw [nextCRC22D16, BitVec.getLsbD_setWidth, BitVec.getLsbD_ofBoolListLE]
    simp only [Nat.testBit_shiftRight, Nat.add_zero, BitVec.testBit_toNat]
    interval_cases i <;>
      simp only [newCRC, getD_cons_succ, getD_cons_zero, Nat.reduceLT, Nat.reduceSub,
        Nat.reduceLeDiff, decide_true, Bool.true_and, if_true, if_false, and_true, and_false,
        Bool.false_xor, Bool.xor_assoc, Bool.xor_comm, Bool.xor_left_comm]
  · have above : 2 ^ 22 ≤ 2 ^ i := Nat.pow_le_pow_right (by decide) (by omega)
    rw [Nat.testBit_lt_two_pow (Nat.lt_of_lt_of_le (nextCRC22D16 d c).isLt above),
      Nat.testBit_lt_two_pow (Nat.lt_of_lt_of_le small above)]

lemma calCRC22_eq {datain} (long : 4 ≤ datain.length) :
    (calCRC22 datain).map BitVec.toNat = some (crc22 (datain.take (datain.length - 4))) := by
  have words (d : List (BitVec 16)) (crc : BitVec 22) :
      (d.foldl (fun crc d => nextCRC22D16 d crc) crc).toNat = d.foldl (fun crc w =>
        (List.range 16).reverse.foldl
          (fun crc i => crc22Bit crc ((w.toNat >>> i).testBit 0)) crc) crc.toNat := by
    induction d generalizing crc with
    | nil => rfl
    | cons word rest ih => rw [foldl_cons, foldl_cons, ih, nextCRC22D16_eq]
  rw [calCRC22, if_pos long, Option.map_some, words]
  rfl

/-- The checksum is the one of the fast readout, which takes it bit by bit. -/
theorem tmbCRC_agrees (datain : List (BitVec 16)) :
    (calCRC22 datain).map BitVec.toNat =
      if 4 ≤ datain.length then some (crc22 (datain.take (datain.length - 4))) else none := by
  split
  · exact calCRC22_eq ‹_›
  · rw [calCRC22, if_neg ‹_›]
    rfl

lemma crc22_only {data value} (checksum : IsChecksum 22 16 data value) :
    crc22 data = value := by
  apply poly_injective
  rw [(crc22_checksum data).remainder (by decide), checksum.remainder (by decide)]

/-- A readout passes exactly if its words with the two halves of the checksum have no remainder. -/
theorem readout_passes_iff (data : List (BitVec 16)) (low high other last : BitVec 16) :
    dataOK (data ++ [low, high, other, last]) = some true ↔
      message (messageBits 16 data ++ bitsOf 11 high.toNat ++ bitsOf 11 low.toNat) %ₘ
        generator 22 = 0 := by
  have words : (data ++ [low, high, other, last]).length = data.length + 4 := by simp
  obtain ⟨crc, some_, is⟩ := Option.map_eq_some_iff.1
    (@calCRC22_eq (data ++ [low, high, other, last]) (by omega))
  rw [words, Nat.add_sub_cancel, take_left] at is
  generalize half : (high.toNat % 2 ^ 11) <<< 11 + low.toNat % 2 ^ 11 = value
  have below : low.toNat % 2 ^ 11 < 2 ^ 11 := Nat.mod_lt _ (by decide)
  have small : value < 2 ^ 22 := by
    rw [← half, Nat.shiftLeft_eq]
    omega
  have stored : (high.toNat &&& 0x7ff) <<< 11 ||| (low.toNat &&& 0x7ff) = value := by
    rw [Nat.and_two_pow_sub_one_eq_mod _ 11, Nat.and_two_pow_sub_one_eq_mod _ 11,
      ← Nat.shiftLeft_add_eq_or_of_lt below, half]
  have passes : dataOK (data ++ [low, high, other, last]) = some (crc22 data == value) := by
    have place : data.length + 4 - 4 = data.length ∧ data.length + 4 - 3 = data.length + 1 := by
      omega
    simp only [dataOK, words, place, some_]
    simp [is, stored]
  have sum : message (messageBits 16 data ++ bitsOf 11 high.toNat ++ bitsOf 11 low.toNat) =
      poly value - message (messageBits 16 data) * X ^ 22 := by
    rw [message, foldl_append, foldl_append, foldl_bitsOf, foldl_bitsOf, ← message, ← half,
      poly_shift_add _ below, CharTwo.sub_eq_add]
    ring
  rw [passes, modByMonic_eq_zero_iff_dvd (monic_generator (by decide)), sum]
  constructor
  · intro same
    rw [← beq_iff_eq.1 (Option.some.inj same)]
    exact (crc22_checksum data).divides
  · intro divides
    rw [crc22_only ⟨small, divides⟩, beq_self_eq_true]

end EmuLib.Tmb
