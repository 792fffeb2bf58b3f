import Mathlib.Algebra.Field.ZMod
import Mathlib.Algebra.Polynomial.Div
import Mathlib.Data.List.GetD
import Mathlib.RingTheory.Coprime.Lemmas

/-!
Cyclic redundancy checks: remainders of polynomials over the field of two elements.
-/

namespace EmuLib.Checksums

open Polynomial List

def coefficient (bit : Bool) : ZMod 2 := if bit then 1 else 0

lemma coefficient_xor (first second) :
    coefficient (first ^^ second) = coefficient first + coefficient second := by
  cases first <;> cases second <;> decide

lemma coefficient_injective {first second}
    (same : coefficient first = coefficient second) : first = second := by
  revert first second
  decide

/-- The bits of a number are the coefficients, the lowest that of the constant. -/
noncomputable def poly (value : Nat) : (ZMod 2)[X] :=
  ∑ i ∈ Finset.range (value + 1), C (coefficient (value.testBit i)) * X ^ i

noncomputable def append (p : (ZMod 2)[X]) (bit : Bool) : (ZMod 2)[X] := X * p + C (coefficient bit)

/-- The polynomial of bits of which the highest is the first. -/
noncomputable def message (bits : List Bool) : (ZMod 2)[X] := bits.foldl append 0

noncomputable def generator (n : Nat) : (ZMod 2)[X] := X ^ n + X + 1

def bitsOf (width value : Nat) : List Bool := (List.range width).reverse.map value.testBit

def messageBits {size : Nat} (width : Nat) (words : List (BitVec size)) : List Bool :=
  words.flatMap fun word => bitsOf width word.toNat

def DifferWithin (n : Nat) (first second : List Bool) : Prop :=
  first ≠ second ∧ ∃ start, ∀ place, first[place]? ≠ second[place]? →
    start ≤ place ∧ place < start + n

section

variable {n value other : Nat}

@[simp] lemma coeff_poly (value i) :
    (poly value).coeff i = coefficient (value.testBit i) := by
  simp only [poly, finsetSum_coeff, coeff_C_mul_X_pow, Finset.sum_ite_eq, Finset.mem_range]
  split
  next => rfl
  next beyond =>
    have small : value < 2 ^ i :=
      Nat.lt_of_lt_of_le Nat.lt_two_pow_self (Nat.pow_le_pow_right (by decide) (by omega))
    rw [Nat.testBit_lt_two_pow small]
    rfl

lemma poly_zero : poly 0 = 0 := by
  ext i
  simp [coefficient]

lemma poly_injective (same : poly value = poly other) : value = other := by
  apply Nat.eq_of_testBit_eq
  intro i
  have coefficients := congrArg (Polynomial.coeff · i) same
  simp only [coeff_poly] at coefficients
  exact coefficient_injective coefficients

lemma poly_xor (first second) : poly (first ^^^ second) = poly first + poly second := by
  ext i
  simp only [coeff_add, coeff_poly, Nat.testBit_xor, coefficient_xor]

lemma poly_shift (value n) : poly (value <<< n) = X ^ n * poly value := by
  ext i
  rw [coeff_X_pow_mul', coeff_poly, coeff_poly, Nat.testBit_shiftLeft]
  by_cases above : n ≤ i
  · simp [above]
  · simp [above, coefficient]

lemma poly_shift_add (value) (small : other < 2 ^ n) :
    poly ((value <<< n) + other) = X ^ n * poly value + poly other := by
  rw [← poly_shift, ← poly_xor]
  congr 1
  apply Nat.eq_of_testBit_eq
  intro i
  rw [Nat.shiftLeft_add_eq_or_of_lt small, Nat.testBit_or, Nat.testBit_xor, Nat.testBit_shiftLeft]
  by_cases above : n ≤ i
  · have clear : other.testBit i = false :=
      Nat.testBit_lt_two_pow (Nat.lt_of_lt_of_le small (Nat.pow_le_pow_right (by decide) above))
    simp [clear]
  · simp [above]

lemma degree_poly (small : value < 2 ^ n) : (poly value).degree < n := by
  rw [degree_lt_iff_coeff_zero]
  intro i above
  have clear : value.testBit i = false :=
    Nat.testBit_lt_two_pow (Nat.lt_of_lt_of_le small (Nat.pow_le_pow_right (by decide) above))
  rw [coeff_poly, clear]
  rfl

lemma message_snoc (bits bit) :
    message (bits ++ [bit]) = append (message bits) bit := by
  simp [message]

lemma foldl_bitsOf (width value p) :
    (bitsOf width value).foldl append p = X ^ width * p + poly (value % 2 ^ width) := by
  induction width generalizing p with
  | zero => simp [bitsOf, Nat.mod_one, poly_zero]
  | succ width ih =>
    have top : poly (value % 2 ^ (width + 1)) =
        C (coefficient (value.testBit width)) * X ^ width + poly (value % 2 ^ width) := by
      ext i
      rw [coeff_add, coeff_C_mul_X_pow, coeff_poly, coeff_poly, Nat.testBit_mod_two_pow,
        Nat.testBit_mod_two_pow]
      rcases Nat.lt_trichotomy i width with below | rfl | above
      · have : i < width + 1 := by omega
        simp [below, this, below.ne]
      · simp [coefficient]
      · have : ¬i < width + 1 := by omega
        simp [above.not_gt, this, above.ne', coefficient]
    have first : bitsOf (width + 1) value = value.testBit width :: bitsOf width value := by
      simp [bitsOf, range_succ]
    rw [first, foldl_cons, ih, top, append]
    ring

end

variable {n : Nat} {value other : Nat} {p q : (ZMod 2)[X]}

lemma degree_generator (many : 2 ≤ n) : (generator n).degree = n := by
  have one : (X + 1 : (ZMod 2)[X]).degree < (n : WithBot ℕ) := by
    rw [← C_1, degree_X_add_C]
    exact_mod_cast many
  rw [generator, add_assoc, degree_add_eq_left_of_degree_lt (by rwa [degree_X_pow]), degree_X_pow]

lemma monic_generator (many : 2 ≤ n) : (generator n).Monic := by
  rw [generator, add_assoc]
  apply monic_X_pow_add
  rw [← C_1, degree_X_add_C]
  exact_mod_cast many

lemma coprime_generator (many : 2 ≤ n) (k) : IsCoprime (X ^ k) (generator n) := by
  apply IsCoprime.pow_left
  refine ⟨-(X ^ (n - 1) + 1), 1, ?_⟩
  have power : (X : (ZMod 2)[X]) ^ n = X ^ (n - 1) * X := by
    rw [← pow_succ, Nat.sub_add_cancel (by omega)]
  rw [generator, power]
  ring

/-- The value is what is left of the message behind which `n` zeros are put. -/
structure IsChecksum (n width : Nat) {size : Nat} (words : List (BitVec size)) (value : Nat) :
    Prop where
  small : value < 2 ^ n
  divides : generator n ∣ poly value - message (messageBits width words) * X ^ n

variable {width size : Nat} {words others : List (BitVec size)}

lemma IsChecksum.remainder (many : 2 ≤ n) (checksum : IsChecksum n width words value) :
    poly value = message (messageBits width words) * X ^ n %ₘ generator n := by
  have monic := monic_generator many
  have below : (poly value).degree < (generator n).degree := by
    rw [degree_generator many]
    exact degree_poly checksum.small
  have self := (modByMonic_eq_self_iff monic).2 below
  exact self.symm.trans (modByMonic_eq_of_dvd_sub monic checksum.divides)

lemma IsChecksum.appended (many : 2 ≤ n) (checksum : IsChecksum n width words value) :
    message (messageBits width words ++ bitsOf n value) %ₘ generator n = 0 := by
  rw [modByMonic_eq_zero_iff_dvd (monic_generator many), message, foldl_append, foldl_bitsOf,
    Nat.mod_eq_of_lt checksum.small]
  have sum := checksum.divides
  rw [CharTwo.sub_eq_add, add_comm, mul_comm] at sum
  exact sum

lemma message_words (words : List (BitVec size)) (p) :
    (messageBits width words).foldl append p = words.foldl
      (fun p word => X ^ width * p + poly (word.toNat % 2 ^ width)) p := by
  simp only [messageBits, foldl_flatMap, foldl_bitsOf]

lemma message_xor (count : words.length = others.length) (p q) :
    (messageBits width (zipWith (· ^^^ ·) words others)).foldl append (p + q) =
      (messageBits width words).foldl append p + (messageBits width others).foldl append q := by
  simp only [message_words]
  induction words generalizing others p q with
  | nil =>
    rw [length_nil, eq_comm, length_eq_zero_iff] at count
    simp [count]
  | cons word rest ih =>
    cases others with
    | nil => cases count
    | cons other further =>
      have both : X ^ width * (p + q) + poly ((word ^^^ other).toNat % 2 ^ width) =
          (X ^ width * p + poly (word.toNat % 2 ^ width)) +
            (X ^ width * q + poly (other.toNat % 2 ^ width)) := by
        rw [BitVec.toNat_xor, Nat.xor_mod_two_pow, poly_xor]
        ring
      rw [zipWith_cons_cons, foldl_cons, foldl_cons, foldl_cons, both]
      exact ih (Nat.succ.inj count) _ _

lemma IsChecksum.xor (many : 2 ≤ n) (count : words.length = others.length) {both}
    (first : IsChecksum n width words value) (second : IsChecksum n width others other)
    (combined : IsChecksum n width (zipWith (· ^^^ ·) words others) both) :
    both = value ^^^ other := by
  apply poly_injective
  have sum := @message_xor width _ _ _ count 0 0
  rw [add_zero] at sum
  rw [poly_xor, first.remainder many, second.remainder many, combined.remainder many,
    ← add_modByMonic, ← add_mul]
  exact congrArg (· * X ^ n %ₘ generator n) sum

lemma coeff_message (bits i) :
    (message bits).coeff i = coefficient (bits.reverse.getD i false) := by
  induction bits using reverseRecOn generalizing i with
  | nil => simp [message, coefficient]
  | append_singleton front bit ih =>
    rw [message_snoc, append, coeff_add, reverse_append, reverse_singleton, singleton_append]
    cases i with
    | zero => simp
    | succ i => simp [ih]

lemma differ_of_coeff {first second} (count : first.length = second.length) {i}
    (differs : (message first - message second).coeff i ≠ 0) :
    i < first.length ∧ first[first.length - 1 - i]? ≠ second[first.length - 1 - i]? := by
  have different : first.reverse.getD i false ≠ second.reverse.getD i false := by
    intro same
    rw [coeff_sub, coeff_message, coeff_message, same, sub_self] at differs
    exact differs rfl
  by_cases inside : i < first.length
  · refine ⟨inside, fun same => different ?_⟩
    rw [getD_eq_getElem?_getD, getD_eq_getElem?_getD, getElem?_reverse inside,
      getElem?_reverse (count ▸ inside), ← count, same]
  · rw [getD_eq_default _ _ (by simpa using inside),
      getD_eq_default _ _ (by simpa [count] using inside)] at different
    exact absurd rfl different

lemma message_injective {first second} (count : first.length = second.length)
    (same : message first = message second) : first = second := by
  rw [← reverse_inj]
  apply ext_getElem
  · simpa using count
  · intro i one two
    have coefficients := congrArg (Polynomial.coeff · i) same
    simp only [coeff_message, getD_eq_getElem _ _ one, getD_eq_getElem _ _ two] at coefficients
    exact coefficient_injective coefficients

lemma length_messageBits (words : List (BitVec size)) :
    (messageBits width words).length = words.length * width := by
  simp [messageBits, bitsOf, length_flatMap]

lemma IsChecksum.burst (many : 2 ≤ n) (count : words.length = others.length)
    (differ : DifferWithin n (messageBits width words) (messageBits width others))
    (first : IsChecksum n width words value) (second : IsChecksum n width others other) :
    value ≠ other := by
  rintro rfl
  obtain ⟨different, start, window⟩ := differ
  have lengths : (messageBits width words).length = (messageBits width others).length := by
    rw [length_messageBits, length_messageBits, count]
  have coprime := coprime_generator many n
  obtain ⟨-, one⟩ := first
  obtain ⟨-, two⟩ := second
  generalize messageBits width words = bits at *
  generalize messageBits width others = changed at *
  have divides : generator n ∣ message bits - message changed := by
    have difference := dvd_sub two one
    rw [show poly value - message changed * X ^ n - (poly value - message bits * X ^ n) =
      X ^ n * (message bits - message changed) by ring] at difference
    exact coprime.symm.dvd_of_dvd_mul_left difference
  -- what is before the window is the same, and what is behind it is a power
  obtain ⟨e, window_e⟩ :
      X ^ (bits.length - (start + n)) ∣ message bits - message changed := by
    rw [X_pow_dvd_iff]
    intro i behind
    by_contra differs
    obtain ⟨-, differs⟩ := differ_of_coeff lengths differs
    have within := window _ differs
    omega
  have few : e.degree < n := by
    rw [degree_lt_iff_coeff_zero]
    intro i above
    by_contra differs
    rw [← coeff_X_pow_mul e (bits.length - (start + n)), ← window_e] at differs
    obtain ⟨inside, differs⟩ := differ_of_coeff lengths differs
    have within := window _ differs
    omega
  have some_ : e ≠ 0 := by
    rintro rfl
    rw [mul_zero] at window_e
    exact different (message_injective lengths (sub_eq_zero.1 window_e))
  rw [window_e] at divides
  have whole := (coprime_generator many _).symm.dvd_of_dvd_mul_left divides
  exact (monic_generator many).not_dvd_of_degree_lt some_ (by rwa [degree_generator many]) whole

end EmuLib.Checksums
