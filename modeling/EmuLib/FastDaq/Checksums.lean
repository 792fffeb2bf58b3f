import EmuLib.FastDaq.Unpacker
import EmuLib.Lib.Checksums

/-!
The checksums of the front-end data.
-/

namespace EmuLib.FastDaq

open Checksums Polynomial

def crc22Bit (crc : Nat) (bit : Bool) : Nat :=
  let t := bit ^^ (crc >>> 21).testBit 0
  let ncrc := (crc <<< 1) &&& 0x3ffffc
  let ncrc := ncrc ||| ((t ^^ crc.testBit 0).toNat <<< 1)
  ncrc ||| t.toNat

def crc22 (d : List Short) : Nat :=
  d.foldl (fun crc w =>
    (List.range 16).reverse.foldl (fun crc i => crc22Bit crc ((w.toNat >>> i).testBit 0)) crc) 0

def csc96 (datastream : Words) : List Short := (List.range 96).map datastream

lemma length_csc96 (datastream) : (csc96 datastream).length = 96 := by
  simp [csc96]

section

variable {crc : Nat}

lemma crc22Bit_testBit (crc bit i) :
    (crc22Bit crc bit).testBit i =
      if i = 0 then bit ^^ crc.testBit 21
      else if i = 1 then (bit ^^ crc.testBit 21) ^^ crc.testBit 0
      else decide (i < 22) && crc.testBit (i - 1) := by
  have mask : Nat.testBit 0x3ffffc i = (decide (2 ≤ i) && decide (i - 2 < 20)) := by
    have shifted : (0x3ffffc : Nat) = (2 ^ 20 - 1) <<< 2 := by decide
    rw [shifted, Nat.testBit_shiftLeft, Nat.testBit_two_pow_sub_one]
  simp only [crc22Bit, Nat.testBit_or, Nat.testBit_and, Nat.testBit_shiftLeft, mask,
    Nat.testBit_bool_toNat, Nat.testBit_shiftRight]
  rcases i with _ | _ | i
  · simp
  · simp
  · have inside : i + 1 + 1 < 22 ↔ i < 20 := by omega
    simp [inside, Bool.and_comm]

lemma crc22Bit_small (crc bit) : crc22Bit crc bit < 2 ^ 22 := by
  apply Nat.lt_pow_two_of_testBit
  intro i above
  have beyond : ¬i < 22 := by omega
  simp [crc22Bit_testBit, show i ≠ 0 by omega, show i ≠ 1 by omega, beyond]

lemma crc22Bit_divides (small : crc < 2 ^ 22) (bit) {p}
    (divides : generator 22 ∣ poly crc - p * X ^ 22) :
    generator 22 ∣ poly (crc22Bit crc bit) - append p bit * X ^ 22 := by
  have next : poly (crc22Bit crc bit) = X * poly crc + C (coefficient bit) * X ^ 22 +
      C (coefficient (bit ^^ crc.testBit 21)) * generator 22 := by
    ext i
    rw [generator]
    simp only [coeff_add, coeff_poly, coeff_C_mul, coeff_X_pow, coeff_X, coeff_one,
      crc22Bit_testBit]
    rcases i with _ | _ | i
    · simp
    · simp [coefficient_xor, add_comm, add_left_comm]
    · have top : i + 2 < 22 ∨ i + 2 = 22 ∨ 22 < i + 2 := by omega
      rcases top with below | top | above
      · simp [below, below.ne]
      · obtain rfl : i = 20 := by omega
        cases bit <;> cases last : crc.testBit 21 <;> simp [last, coefficient] <;> decide
      · have clear : crc.testBit (i + 1) = false := Nat.testBit_lt_two_pow
          (Nat.lt_of_lt_of_le small (Nat.pow_le_pow_right (by decide) (by omega)))
        simp [clear, above.ne', coefficient]
  have step : poly (crc22Bit crc bit) - append p bit * X ^ 22 =
      X * (poly crc - p * X ^ 22) + C (coefficient (bit ^^ crc.testBit 21)) * generator 22 := by
    rw [next, append]
    ring
  rw [step]
  exact dvd_add (Dvd.dvd.mul_left divides X) (dvd_mul_left _ _)

lemma crc22_bits (bits : List Bool) (small : crc < 2 ^ 22) {p}
    (divides : generator 22 ∣ poly crc - p * X ^ 22) :
    bits.foldl crc22Bit crc < 2 ^ 22 ∧
      generator 22 ∣ poly (bits.foldl crc22Bit crc) - bits.foldl append p * X ^ 22 := by
  induction bits generalizing crc p with
  | nil => exact ⟨small, divides⟩
  | cons bit rest ih => exact ih (crc22Bit_small crc bit) (crc22Bit_divides small bit divides)

lemma crc22_checksum (d : List Short) : IsChecksum 22 16 d (crc22 d) := by
  have bits : crc22 d = (messageBits 16 d).foldl crc22Bit 0 := by
    simp [crc22, messageBits, bitsOf, List.foldl_flatMap, -List.map_reverse, List.foldl_map]
  have run := @crc22_bits 0 (messageBits 16 d) (by decide) 0 (by simp [poly_zero])
  rw [← bits] at run
  exact ⟨run.1, run.2⟩

end

section

variable {remainder i : Nat}

lemma divide_small (bounded : remainder < 2 ^ (i + 15)) : divide i remainder < 2 ^ 15 := by
  induction i generalizing remainder with
  | zero => simpa [divide] using bounded
  | succ i ih =>
    rw [divide]
    apply ih
    apply Nat.lt_pow_two_of_testBit
    intro j above
    have beyond (higher : i + 15 < j) : remainder.testBit j = false := Nat.testBit_lt_two_pow
      (Nat.lt_of_lt_of_le bounded (Nat.pow_le_pow_right (by decide) (by omega)))
    rcases Nat.eq_or_lt_of_le above with rfl | higher
    · split
      next top =>
        have leading : Nat.testBit 32771 15 = true := by decide
        simp [top, leading]
      next clear => simpa using clear
    · have short : Nat.testBit 32771 (j - i) = false := Nat.testBit_lt_two_pow
        (Nat.lt_of_lt_of_le (show 32771 < 2 ^ 16 by decide)
          (Nat.pow_le_pow_right (by decide) (by omega)))
      split
      next => simp [beyond higher, short]
      next => exact beyond higher

lemma poly_polynomial : poly 32771 = generator 15 := by
  have one : poly 1 = 1 := by
    ext i
    rcases i with _ | i
    · simp [coefficient]
    · simp [coefficient, Nat.testBit_succ, coeff_one]
  have low : poly 3 = X + 1 := by
    have shifted := @poly_shift_add 1 1 1 (by decide)
    rwa [one, mul_one, pow_one] at shifted
  have whole := @poly_shift_add 15 3 1 (by decide)
  rw [one, mul_one, low] at whole
  rw [generator, add_assoc]
  exact whole

lemma divide_divides (i remainder) :
    generator 15 ∣ poly (divide i remainder) - poly remainder := by
  induction i generalizing remainder with
  | zero => simp [divide]
  | succ i ih =>
    rw [divide]
    split
    next =>
      have shifted : poly (remainder ^^^ (32771 <<< i)) - poly remainder =
          X ^ i * generator 15 := by
        rw [poly_xor, poly_shift, poly_polynomial, add_sub_cancel_left]
      have step := dvd_add (ih (remainder ^^^ (32771 <<< i))) (shifted ▸ dvd_mul_left _ _)
      rwa [sub_add_sub_cancel] at step
    next => exact ih remainder

lemma crcdivide_words (words : List Short) {remainder} (small : remainder < 2 ^ 15) {p}
    (divides : generator 15 ∣ poly remainder - p) :
    let next := words.foldl
      (fun remainder word => divide 13 ((remainder <<< 13) + (word.toNat &&& 8191))) remainder
    next < 2 ^ 15 ∧ generator 15 ∣ poly next - (messageBits 13 words).foldl append p := by
  rw [message_words]
  induction words generalizing remainder p with
  | nil => exact ⟨small, divides⟩
  | cons word rest ih =>
    have low : word.toNat &&& 8191 = word.toNat % 2 ^ 13 := Nat.and_two_pow_sub_one_eq_mod _ 13
    have chunk : word.toNat % 2 ^ 13 < 2 ^ 13 := Nat.mod_lt _ (by decide)
    rw [List.foldl_cons, List.foldl_cons, low]
    apply ih
    · apply divide_small
      rw [Nat.shiftLeft_eq]
      omega
    · have step := dvd_add (divide_divides 13 ((remainder <<< 13) + word.toNat % 2 ^ 13))
        (Dvd.dvd.mul_left divides (X ^ 13))
      rw [poly_shift_add remainder chunk] at step
      convert step using 1
      ring

lemma last_division (small : remainder < 2 ^ 15) {p}
    (divides : generator 15 ∣ poly remainder - p) :
    let crc := (BitVec.ofNat 16 (divide 15 (remainder <<< 15) &&& 32767)).toNat
    crc < 2 ^ 15 ∧ generator 15 ∣ poly crc - p * X ^ 15 := by
  have bounded : divide 15 (remainder <<< 15) < 2 ^ 15 := by
    apply divide_small
    rw [Nat.shiftLeft_eq]
    omega
  rw [BitVec.toNat_ofNat, Nat.and_two_pow_sub_one_eq_mod _ 15, Nat.mod_eq_of_lt bounded,
    Nat.mod_eq_of_lt (Nat.lt_trans bounded (by decide))]
  refine ⟨bounded, ?_⟩
  have step := dvd_add (divide_divides 15 (remainder <<< 15))
    (Dvd.dvd.mul_left divides (X ^ 15))
  rw [poly_shift] at step
  convert step using 1
  ring

lemma crcdivide_checksum (datastream) :
    IsChecksum 15 13 (csc96 datastream) (crcdivide datastream).toNat := by
  have run := @crcdivide_words (csc96 datastream) 0 (by decide) 0 (by simp [poly_zero])
  rw [csc96, List.foldl_map, ← csc96] at run
  obtain ⟨small, divides⟩ := last_division run.1 run.2
  rw [crcdivide]
  refine ⟨small, ?_⟩
  rw [message]
  exact divides

end

theorem checksums_right :
    (∀ d : List Short,
      poly (crc22 d) = message (messageBits 16 d) * X ^ 22 %ₘ generator 22) ∧
    (∀ datastream : Words, poly (crcdivide datastream).toNat =
      message (messageBits 13 (csc96 datastream)) * X ^ 15 %ₘ generator 15) ∧
    (∀ d other : List Short, d.length = other.length →
      crc22 (List.zipWith (· ^^^ ·) d other) = crc22 d ^^^ crc22 other) ∧
    (∀ datastream other : Words, crcdivide (fun i => datastream i ^^^ other i) =
      crcdivide datastream ^^^ crcdivide other) ∧
    (∀ d : List Short,
      message (messageBits 16 d ++ bitsOf 22 (crc22 d)) %ₘ generator 22 = 0) ∧
    (∀ datastream : Words, message (messageBits 13 (csc96 datastream) ++
      bitsOf 15 (crcdivide datastream).toNat) %ₘ generator 15 = 0) ∧
    (∀ d other : List Short, d.length = other.length →
      DifferWithin 22 (messageBits 16 d) (messageBits 16 other) → crc22 d ≠ crc22 other) ∧
    (∀ datastream other : Words,
      DifferWithin 15 (messageBits 13 (csc96 datastream)) (messageBits 13 (csc96 other)) →
      crcdivide datastream ≠ crcdivide other) := by
  have many : 2 ≤ 22 := by decide
  have some_ : 2 ≤ 15 := by decide
  have count (datastream other : Words) :
      (csc96 datastream).length = (csc96 other).length := by
    rw [length_csc96, length_csc96]
  refine ⟨fun d => (crc22_checksum d).remainder many,
    fun datastream => (crcdivide_checksum datastream).remainder some_, ?_, ?_,
    fun d => (crc22_checksum d).appended many,
    fun datastream => (crcdivide_checksum datastream).appended some_, ?_, ?_⟩
  · intro d other count
    exact (crc22_checksum d).xor many count (crc22_checksum other) (crc22_checksum _)
  · intro datastream other
    apply BitVec.eq_of_toNat_eq
    rw [BitVec.toNat_xor]
    apply (crcdivide_checksum datastream).xor some_ (count _ _) (crcdivide_checksum other)
    have both := crcdivide_checksum fun i => datastream i ^^^ other i
    simpa [csc96, List.zipWith_map] using both
  · intro d other count differ
    exact (crc22_checksum d).burst many count differ (crc22_checksum other)
  · intro datastream other differ same
    exact (crcdivide_checksum datastream).burst some_ (count _ _) differ
      (crcdivide_checksum other) (congrArg BitVec.toNat same)

end EmuLib.FastDaq
