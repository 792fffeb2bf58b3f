import Mathlib.Data.List.Induction
import EmuLib.Fed.PromFile
import EmuLib.Svf.Buffers

/-!
The words that a hexadecimal value of a PROM file is turned into.
-/

namespace EmuLib.Fed.PromWords

open TextStream List

def byteCount (nBits : Nat) : Nat := if nBits = 0 then 0 else (nBits - 1) / 8 + 1

def newDatum (bogoData : List UInt8) (nBytes : Nat) (iDatum : UInt32) : UInt16 :=
  let low := (bogoData.getD (nBytes - iDatum.toNat - 1) 0).toUInt16
  if (iDatum + 1).toNat < nBytes then
    low ||| ((bogoData.getD (nBytes - iDatum.toNat - 2) 0).toUInt16 <<< 8)
  else low

/-- `iDatum` is an `unsigned int`, while `nBytes` is an `unsigned long int`. -/
def collect (bogoData : List UInt8) (nBytes : Nat) :
    Nat → UInt32 → List UInt16 → Option (List UInt16)
  | 0, _, _ => none
  | fuel + 1, iDatum, myData =>
    if iDatum.toNat < nBytes then
      collect bogoData nBytes fuel (iDatum + 2) (myData ++ [newDatum bogoData nBytes iDatum])
    else some myData

def scanWords (bus : Bus) (value : List Char) (nBits fuel : Nat) : Option (List UInt16) :=
  let nBytes := byteCount nBits
  collect ((List.range nBytes).map (scanByte bus value)) nBytes fuel 0 []

def littleEndianWords (nBytes number : Nat) : List UInt16 :=
  (List.range ((nBytes + 1) / 2)).map fun i => UInt16.ofNat (number / 65536 ^ i)

section

variable {bus : Bus} {value : List Char} {digits : List Nat} {nBytes : Nat}

lemma digits_small (hex : value.map digitValue = digits.map some) :
    ∀ digit ∈ digits, digit < 16 := by
  intro digit member
  have image := mem_map_of_mem (f := some) member
  rw [← hex] at image
  obtain ⟨char, -, same⟩ := mem_map.1 image
  exact digitValue_lt same

lemma scanByte_digits (hex : value.map digitValue = digits.map some)
    (count : digits.length = 2 * nBytes) {iByte} (inside : iByte < nBytes) :
    (scanByte bus value iByte).toNat =
      16 * digits.getD (2 * iByte) 0 + digits.getD (2 * iByte + 1) 0 := by
  have first : 2 * iByte < digits.length := by omega
  have second : 2 * iByte + 1 < digits.length := by omega
  have pair : ((value.drop (iByte * 2)).take 2).map digitValue =
      [digits[2 * iByte], digits[2 * iByte + 1]].map some := by
    rw [map_take, map_drop, hex, ← map_drop, ← map_take, Nat.mul_comm,
      drop_eq_getElem_cons first, drop_eq_getElem_cons second]
    rfl
  have high := digits_small hex _ (getElem_mem first)
  have low := digits_small hex _ (getElem_mem second)
  rw [getD_eq_getElem _ _ first, getD_eq_getElem _ _ second]
  have number : ofDigits [digits[2 * iByte], digits[2 * iByte + 1]] =
      16 * digits[2 * iByte] + digits[2 * iByte + 1] := by
    simp [ofDigits]
  rw [scanByte]
  cases listed : (value.drop (iByte * 2)).take 2 with
  | nil =>
    rw [listed] at pair
    cases pair
  | cons char chars =>
    rw [listed] at pair
    rw [extractHex_values pair (by omega), number]
    simp only [UInt8.toNat_ofNat']
    omega

lemma bogoData_byte (hex : value.map digitValue = digits.map some)
    (count : digits.length = 2 * nBytes) {j} (inside : j < nBytes) :
    (((List.range nBytes).map (scanByte bus value)).reverse.getD j 0).toNat =
      ofDigits digits / 256 ^ j % 256 := by
  have place : nBytes - 1 - j < nBytes := by omega
  rw [Svf.ofDigits_byte count (digits_small hex) inside, Nat.sub_right_comm,
    ← @scanByte_digits bus _ _ _ hex count _ place,
    getD_eq_getElem _ _ (by simpa using inside)]
  simp

lemma ofDigits_lt (small : ∀ digit ∈ digits, digit < 16) :
    ofDigits digits < 16 ^ digits.length := by
  induction digits using reverseRecOn with
  | nil => decide
  | append_singleton front digit ih =>
    have before := ih fun other member => small other (mem_append_left [digit] member)
    have last := small digit (mem_append_right front (mem_singleton.2 rfl))
    simp only [ofDigits, foldl_append, foldl_cons, foldl_nil, length_append,
      length_singleton, Nat.pow_succ] at before ⊢
    omega

end

section

variable {bytes : List UInt8} {number : Nat}

def wordFrom (bytes : List UInt8) (i : Nat) : UInt16 :=
  if 2 * i + 1 < bytes.length then
    (bytes.getD (2 * i) 0).toUInt16 ||| ((bytes.getD (2 * i + 1) 0).toUInt16 <<< 8)
  else (bytes.getD (2 * i) 0).toUInt16

lemma joinBytes_words (bytes) :
    joinBytes bytes = (List.range ((bytes.length + 1) / 2)).map (wordFrom bytes) := by
  induction bytes using joinBytes.induct with
  | case1 => rfl
  | case2 low => simp [joinBytes, wordFrom]
  | case3 low high rest ih =>
    have count : ((low :: high :: rest).length + 1) / 2 = (rest.length + 1) / 2 + 1 := by
      simp only [length_cons]
      omega
    rw [joinBytes, ih, count, range_succ_eq_map, map_cons, map_map]
    congr 1
    apply map_congr_left
    intro i _
    have next : 2 * i + 2 + 1 < rest.length + 1 + 1 ↔ 2 * i + 1 < rest.length := by omega
    simp only [Function.comp_apply, Nat.succ_eq_add_one, wordFrom, length_cons, Nat.mul_add,
      Nat.mul_one, next, getD_cons_succ]

lemma joined_toNat (low high : UInt8) :
    (low.toUInt16 ||| (high.toUInt16 <<< 8)).toNat = 256 * high.toNat + low.toNat := by
  have lowBound := low.toNat_lt
  have highBound := high.toNat_lt
  have shifted : (high.toUInt16 <<< 8).toNat = 2 ^ 8 * high.toNat := by
    rw [UInt16.toNat_shiftLeft, UInt8.toNat_toUInt16]
    change high.toNat <<< 8 % 2 ^ 16 = _
    rw [Nat.shiftLeft_eq]
    omega
  rw [UInt16.toNat_or, UInt8.toNat_toUInt16, shifted, Nat.or_comm,
    ← Nat.two_pow_add_eq_or_of_lt lowBound]

lemma wordFrom_number (bounded : number < 256 ^ bytes.length)
    (spelled : ∀ j < bytes.length, (bytes.getD j 0).toNat = number / 256 ^ j % 256) {i}
    (inside : 2 * i < bytes.length) : wordFrom bytes i = UInt16.ofNat (number / 65536 ^ i) := by
  have power : 65536 ^ i = 256 ^ (2 * i) := by
    rw [Nat.pow_mul]
  have low := spelled (2 * i) inside
  have next : number / 256 ^ (2 * i + 1) = number / 256 ^ (2 * i) / 256 := by
    rw [Nat.pow_succ, Nat.div_div_eq_div_mul]
  rw [wordFrom, power]
  apply UInt16.toNat_inj.1
  split
  next whole =>
    have high := spelled (2 * i + 1) whole
    rw [next] at high
    rw [joined_toNat, low, high, UInt16.toNat_ofNat']
    omega
  next single =>
    have top : number / 256 ^ (2 * i) < 256 := by
      have most : bytes.length ≤ 2 * i + 1 := by omega
      have below := Nat.lt_of_lt_of_le bounded (Nat.pow_le_pow_right (by decide) most)
      rw [Nat.pow_succ'] at below
      exact Nat.div_lt_of_lt_mul (by rwa [Nat.mul_comm])
    rw [UInt8.toNat_toUInt16, low, UInt16.toNat_ofNat', Nat.mod_eq_of_lt top,
      Nat.mod_eq_of_lt (Nat.lt_trans top (by decide))]

end

section

variable {bogoData : List UInt8} {nBytes : Nat}

lemma newDatum_reverse (count : bogoData.length = nBytes) (bounded : nBytes < 2 ^ 32 - 1) {i}
    (inside : 2 * i < nBytes) :
    newDatum bogoData nBytes (UInt32.ofNat (2 * i)) = wordFrom bogoData.reverse i := by
  have place : (UInt32.ofNat (2 * i)).toNat = 2 * i := by
    rw [UInt32.toNat_ofNat']
    omega
  have further : (UInt32.ofNat (2 * i) + 1).toNat = 2 * i + 1 := by
    rw [UInt32.toNat_add, place]
    change (2 * i + 1) % 2 ^ 32 = _
    omega
  have mirrored {j : Nat} (before : j < nBytes) :
      bogoData.reverse.getD j 0 = bogoData.getD (nBytes - 1 - j) 0 := by
    rw [getD_eq_getElem _ _ (by rwa [length_reverse, count]), getElem_reverse,
      getD_eq_getElem _ _ (by omega)]
    simp only [count]
  rw [wordFrom, length_reverse, count, mirrored inside, Nat.sub_right_comm]
  simp only [newDatum, place, further]
  split
  next whole =>
    have second : nBytes - 1 - (2 * i + 1) = nBytes - 2 * i - 2 := by omega
    rw [mirrored whole, second]
  next => rfl

lemma collect_data (bounded : nBytes < 2 ^ 32 - 1) (left k)
    (remain : k + left = (nBytes + 1) / 2) (myData) :
    collect bogoData nBytes (left + 1) (UInt32.ofNat (2 * k)) myData =
      some (myData ++
        (List.range left).map fun i => newDatum bogoData nBytes (UInt32.ofNat (2 * (k + i)))) := by
  have place : (UInt32.ofNat (2 * k)).toNat = 2 * k := by
    rw [UInt32.toNat_ofNat']
    omega
  induction left generalizing k myData with
  | zero =>
    rw [collect, place, if_neg (by omega)]
    simp
  | succ left ih =>
    have inside : 2 * k < nBytes := by omega
    have next : UInt32.ofNat (2 * k) + 2 = UInt32.ofNat (2 * (k + 1)) := by
      rw [Nat.mul_add, UInt32.ofNat_add]
      rfl
    have later := ih (k + 1) (by omega)
      (myData ++ [newDatum bogoData nBytes (UInt32.ofNat (2 * k))]) (by
        rw [UInt32.toNat_ofNat']
        omega)
    rw [collect, place, if_pos inside, next, later, append_assoc, range_succ_eq_map]
    simp [Function.comp_def, Nat.add_assoc, Nat.add_comm 1]

lemma collect_endless (long : 2 ^ 32 - 1 ≤ nBytes) (fuel) {iDatum} (even : iDatum.toNat % 2 = 0)
    (myData) : collect bogoData nBytes fuel iDatum myData = none := by
  induction fuel generalizing iDatum myData with
  | zero => rfl
  | succ fuel ih =>
    have bound := iDatum.toNat_lt
    have next : (iDatum + 2).toNat % 2 = 0 := by
      rw [UInt32.toNat_add]
      change (iDatum.toNat + 2) % 2 ^ 32 % 2 = 0
      omega
    rw [collect, if_pos (by omega)]
    exact ih next _

end

lemma scanWords_joinBytes (bus value) {nBits} (bounded : byteCount nBits < 2 ^ 32 - 1) :
    scanWords bus value nBits ((byteCount nBits + 1) / 2 + 1) =
      some (joinBytes ((List.range (byteCount nBits)).map (scanByte bus value)).reverse) := by
  have data := @collect_data ((List.range (byteCount nBits)).map (scanByte bus value)) _ bounded
    _ 0 (Nat.zero_add _) []
  rw [scanWords, show (0 : UInt32) = UInt32.ofNat (2 * 0) from rfl, data, joinBytes_words,
    length_reverse, length_map, length_range, nil_append]
  congr 1
  apply map_congr_left
  intro i member
  have inside := mem_range.1 member
  rw [Nat.zero_add, newDatum_reverse (by simp) bounded (by omega)]

lemma scanWords_endless (bus value) {nBits}
    (long : 2 ^ 32 - 1 ≤ byteCount nBits) (fuel) : scanWords bus value nBits fuel = none :=
  collect_endless long fuel rfl []

theorem words_right_iff (bus : Bus) {value : List Char} {digits : List Nat} {nBits : Nat}
    (hex : value.map digitValue = digits.map some) (count : value.length = 2 * byteCount nBits) :
    (∃ fuel, scanWords bus value nBits fuel =
        some (littleEndianWords (byteCount nBits) (ofDigits digits))) ↔
      byteCount nBits < 2 ^ 32 - 1 := by
  have lengths : digits.length = 2 * byteCount nBits := by
    rw [← count, ← length_map (f := digitValue), hex, length_map]
  constructor
  · rintro ⟨fuel, produced⟩
    by_contra long
    rw [scanWords_endless bus value (by omega) fuel] at produced
    cases produced
  · intro bounded
    have below : ofDigits digits < 256 ^ byteCount nBits := by
      have bound := ofDigits_lt (digits_small hex)
      rw [lengths, Nat.pow_mul] at bound
      exact bound
    refine ⟨(byteCount nBits + 1) / 2 + 1, ?_⟩
    have bytes : ((List.range (byteCount nBits)).map (scanByte bus value)).reverse.length =
        byteCount nBits := by simp
    rw [scanWords_joinBytes bus value bounded, joinBytes_words, bytes, littleEndianWords]
    congr 1
    apply map_congr_left
    intro i member
    have inside := mem_range.1 member
    refine wordFrom_number (by rwa [bytes]) ?_ (by omega)
    intro j before
    rw [bytes] at before
    exact bogoData_byte hex lengths before

theorem words_right_hexadecimal :
    ∃ fuel, scanWords ⟨fun _ => true, fun _ => 0, fun _ => 0⟩ ['1', '2', 'a', 'B', '0', 'f'] 20
      fuel = some (littleEndianWords 3 0x12ab0f) :=
  (@words_right_iff ⟨fun _ => true, fun _ => 0, fun _ => 0⟩ ['1', '2', 'a', 'B', '0', 'f']
    [1, 2, 10, 11, 0, 15] 20 (by decide) (by decide)).2 (by decide)

theorem long_value_endless :
    let value := List.replicate (2 ^ 33) '0'
    let digits := List.replicate (2 ^ 33) 0
    value.map digitValue = digits.map some ∧ value.length = 2 * byteCount (2 ^ 35) ∧
      ¬∃ fuel, scanWords ⟨fun _ => true, fun _ => 0, fun _ => 0⟩ value (2 ^ 35) fuel =
        some (littleEndianWords (byteCount (2 ^ 35)) (ofDigits digits)) := by
  have bytes : byteCount (2 ^ 35) = 2 ^ 32 := by decide
  have zero : digitValue '0' = some 0 := by decide
  refine ⟨?_, ?_, ?_⟩
  · rw [map_replicate, map_replicate, zero]
  · rw [length_replicate, bytes]
    decide
  · rintro ⟨fuel, produced⟩
    rw [scanWords_endless _ _ (by omega) fuel] at produced
    cases produced

end EmuLib.Fed.PromWords
