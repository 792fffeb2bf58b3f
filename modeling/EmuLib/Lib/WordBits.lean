import Mathlib.Data.Nat.Bitwise

/-!
The bits of words of 16 bits in a row, the lowest of each word first.
-/

namespace EmuLib.WordBits

open List

def bitOf (words : List UInt16) (place : Nat) : Bool :=
  (words.getD (place / 16) 0).toNat.testBit (place % 16)

def bitsOf (count : Nat) (value : UInt16) : List Bool := (List.range count).map value.toNat.testBit

structure Carries (words : List UInt16) (stream : List Bool) : Prop where
  count : words.length = (stream.length + 15) / 16
  bits : ∀ place, bitOf words place = stream.getD place false

variable {words others : List UInt16} {place : Nat}

@[simp] lemma bitsOf_length (count value) : (bitsOf count value).length = count := by
  simp [bitsOf]

lemma testBit_beyond (value : UInt16) {bit} (beyond : 16 ≤ bit) :
    value.toNat.testBit bit = false := by
  refine Nat.testBit_lt_two_pow (Nat.lt_of_lt_of_le value.toNat_lt ?_)
  exact Nat.pow_le_pow_right (by decide) beyond

lemma ofNat_testBit (value bit : Nat) :
    (UInt16.ofNat value).toNat.testBit bit = (decide (bit < 16) && value.testBit bit) := by
  exact Nat.testBit_mod_two_pow value 16 bit

lemma shiftLeft_testBit (value : UInt16) (shift bit) :
    (UInt16.ofNat (value.toNat <<< shift)).toNat.testBit bit =
      (decide (bit < 16) && (decide (shift ≤ bit) && value.toNat.testBit (bit - shift))) := by
  rw [ofNat_testBit, Nat.testBit_shiftLeft]

lemma shiftRight_testBit (value : UInt16) (shift bit) :
    (UInt16.ofNat (value.toNat >>> shift)).toNat.testBit bit =
      value.toNat.testBit (bit + shift) := by
  rw [ofNat_testBit, Nat.testBit_shiftRight, Nat.add_comm shift bit]
  by_cases inside : bit < 16
  · simp [inside]
  · simp [inside, testBit_beyond value (Nat.le_add_right_of_le (Nat.le_of_not_lt inside))]

lemma bitOf_beyond (beyond : 16 * words.length ≤ place) : bitOf words place = false := by
  have outside : words.length ≤ place / 16 := (Nat.le_div_iff_mul_le (by decide)).mpr (by omega)
  rw [bitOf, getD_eq_default _ _ outside]
  exact Nat.zero_testBit _

lemma bitOf_append_left (inside : place < 16 * words.length) :
    bitOf (words ++ others) place = bitOf words place := by
  have before : place / 16 < words.length := Nat.div_lt_of_lt_mul inside
  rw [bitOf, bitOf, getD_append _ _ _ _ before]

lemma bitOf_append_right (words others place) :
    bitOf (words ++ others) (16 * words.length + place) = bitOf others place := by
  have later : (16 * words.length + place) / 16 = words.length + place / 16 := by omega
  have within : (16 * words.length + place) % 16 = place % 16 := by omega
  rw [bitOf, bitOf, later, within, getD_append_right _ _ _ _ (Nat.le_add_right ..),
    Nat.add_sub_cancel_left]

lemma bitOf_single (word place) : bitOf [word] place = word.toNat.testBit place := by
  rcases Nat.lt_or_ge place 16 with inside | beyond
  · rw [bitOf, Nat.div_eq_of_lt inside, Nat.mod_eq_of_lt inside]
    rfl
  · rw [bitOf_beyond beyond, testBit_beyond word beyond]

lemma bitOf_snoc (words word place) :
    bitOf (words ++ [word]) place =
      (bitOf words place ||
        (decide (16 * words.length ≤ place) &&
          word.toNat.testBit (place - 16 * words.length))) := by
  rcases Nat.lt_or_ge place (16 * words.length) with inside | beyond
  · simp [bitOf_append_left inside, Nat.not_le.mpr inside]
  · obtain ⟨further, rfl⟩ := Nat.exists_eq_add_of_le beyond
    rw [bitOf_append_right, bitOf_single, bitOf_beyond beyond]
    simp

lemma word_ext {word other : UInt16}
    (same : ∀ bit < 16, word.toNat.testBit bit = other.toNat.testBit bit) : word = other := by
  apply UInt16.toNat_inj.mp
  apply Nat.eq_of_testBit_eq
  intro bit
  rcases Nat.lt_or_ge bit 16 with inside | beyond
  · exact same bit inside
  · rw [testBit_beyond word beyond, testBit_beyond other beyond]

lemma flatMap_pieces (sent : Nat → UInt16) (all count) :
    ((List.range count).flatMap fun iWord => bitsOf (min 16 (all - 16 * iWord)) (sent iWord)) =
      (List.range (min (16 * count) all)).map fun place =>
        (sent (place / 16)).toNat.testBit (place % 16) := by
  induction count with
  | zero => simp
  | succ count ih =>
    have total : min (16 * (count + 1)) all =
        min (16 * count) all + min 16 (all - 16 * count) := by omega
    rw [range_succ, flatMap_append, ih, flatMap_singleton, total, range_add, map_append, map_map]
    refine congrArg _ (map_congr_left fun bit inside => ?_)
    rw [mem_range] at inside
    have here : (min (16 * count) all + bit) / 16 = count := by omega
    have within : (min (16 * count) all + bit) % 16 = bit := by omega
    rw [Function.comp_apply, here, within]

lemma bitOf_joined {shift} (few : shift ≤ 16) (earlier) (previous word : UInt16) (place) :
    bitOf ((earlier ++ [previous ||| UInt16.ofNat (word.toNat <<< (16 - shift))]) ++
        [UInt16.ofNat (word.toNat >>> shift)]) place =
      (bitOf (earlier ++ [previous]) place ||
        (decide (16 * (earlier.length + 1) ≤ place + shift) &&
          word.toNat.testBit (place + shift - 16 * (earlier.length + 1)))) := by
  rw [bitOf_snoc, bitOf_snoc, bitOf_snoc, UInt16.toNat_or, Nat.testBit_or, shiftLeft_testBit,
    shiftRight_testBit]
  rcases Nat.lt_or_ge place (16 * earlier.length) with before | inside
  · have far : ¬ 16 * (earlier.length + 1) ≤ place + shift := by omega
    have further : ¬ 16 * (earlier.length + 1) ≤ place := by omega
    simp [Nat.not_le.mpr before, far, further]
  · obtain ⟨bit, rfl⟩ := Nat.exists_eq_add_of_le inside
    rcases Nat.lt_or_ge bit 16 with within | beyond
    · have here : ¬ 16 * (earlier.length + 1) ≤ 16 * earlier.length + bit := by omega
      have same : decide (16 ≤ bit + shift) =
          decide (16 * (earlier.length + 1) ≤ 16 * earlier.length + bit + shift) :=
        decide_eq_decide.mpr (by omega)
      have shifted : 16 * earlier.length + bit + shift - 16 * (earlier.length + 1) =
          bit - (16 - shift) := by omega
      simp [within, here, same, shifted, Bool.or_assoc]
    · have here : 16 * (earlier.length + 1) ≤ 16 * earlier.length + bit := by omega
      have also : 16 * (earlier.length + 1) ≤ 16 * earlier.length + bit + shift := by omega
      have shifted : 16 * earlier.length + bit - 16 * (earlier.length + 1) + shift =
          16 * earlier.length + bit + shift - 16 * (earlier.length + 1) := by omega
      simp [Nat.not_lt.mpr beyond, here, also, shifted]

end EmuLib.WordBits
