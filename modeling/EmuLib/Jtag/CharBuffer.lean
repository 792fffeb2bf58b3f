import Mathlib.Data.List.Basic
import Mathlib.Data.Nat.Bitwise

/-!
The conversion of vectors with one bit for each index into buffers of bytes, and back.
-/

namespace EmuLib.Jtag

open List

def packFrom : List Nat → Nat → Nat → List UInt8 → Option (List UInt8)
  | [], _, _, charVector => some charVector
  | bit :: rest, bufferctr, bufferbit, charVector =>
    let place := if bufferbit = 8 then (bufferctr + 1, 0) else (bufferctr, bufferbit)
    match charVector[place.1]? with
    | none => none
    | some char =>
      packFrom rest place.1 (place.2 + 1)
        (charVector.set place.1 (char ||| UInt8.ofNat ((bit &&& 0xff) <<< place.2)))

def packCharBuffer (bitVector : List Nat) (nBits : Nat) (charVector : List UInt8) :
    Option (List UInt8) :=
  if bitVector.length < nBits ∨ charVector.length < nBits / 8 then none
  else
    packFrom (bitVector.take nBits) 0 0
      (List.replicate (nBits / 8) 0 ++ charVector.drop (nBits / 8))

def unpackFrom (buffer : List UInt8) (firstBit : Nat) :
    Nat → Nat → Nat → Nat → UInt8 → Option (List Nat)
  | 0, _, _, _, _ => some []
  | remaining + 1, i, bit, bufferctr, data =>
    let ival := (data &&& 1).toNat
    let kept := if firstBit ≤ i then [ival] else []
    if bit + 1 = 8 then
      match buffer[bufferctr + 1]? with
      | none => none
      | some next =>
        (unpackFrom buffer firstBit remaining (i + 1) 0 (bufferctr + 1) next).map (kept ++ ·)
    else
      (unpackFrom buffer firstBit remaining (i + 1) (bit + 1) bufferctr (data >>> 1)).map
        (kept ++ ·)

def unpackCharBuffer (buffer : List UInt8) (length firstBit : Nat) (bitVector : List Nat) :
    Option (List Nat) :=
  match buffer[0]? with
  | none => none
  | some data =>
    if bitVector.length < length then none
    else
      (unpackFrom buffer firstBit (firstBit + length) 0 0 0 data).map
        (· ++ bitVector.drop length)

def bitAt (buffer : List UInt8) (index : Nat) : Bool :=
  (buffer.getD (index / 8) 0).toNat.testBit (index % 8)

def bitsFrom (buffer : List UInt8) (firstBit length : Nat) : List Bool :=
  (List.range length).map fun k => bitAt buffer (firstBit + k)

section

variable {buffer : List UInt8}

lemma filled_testBit : ∀ bufferbit < 8, ∀ bit : Bool, ∀ offset < 8,
    (UInt8.ofNat ((bit.toNat &&& 0xff) <<< bufferbit)).toNat.testBit offset =
      (bit && offset == bufferbit) := by decide

lemma bitAt_set {place char} (found : buffer[place]? = some char) (bit) {bufferbit}
    (small : bufferbit < 8) (index) :
    bitAt (buffer.set place (char ||| UInt8.ofNat ((bit.toNat &&& 0xff) <<< bufferbit))) index =
      (bitAt buffer index || (bit && index == 8 * place + bufferbit)) := by
  obtain ⟨inside, rfl⟩ := List.getElem?_eq_some_iff.mp found
  have offset : index % 8 < 8 := Nat.mod_lt _ (by decide)
  unfold bitAt
  by_cases here : index / 8 = place
  · have same : (index % 8 == bufferbit) = (index == 8 * place + bufferbit) := by
      rw [Bool.eq_iff_iff, beq_iff_eq, beq_iff_eq]
      omega
    subst here
    rw [getD_eq_getElem?_getD, getElem?_set_self inside, Option.getD_some, UInt8.toNat_or,
      Nat.testBit_or, filled_testBit bufferbit small bit _ offset, same, getD_eq_getElem _ _ inside]
  · have other : (index == 8 * place + bufferbit) = false := by
      rw [beq_eq_false_iff_ne]
      omega
    rw [getD_eq_getElem?_getD, getElem?_set_ne (Ne.symm here), other, Bool.and_false,
      Bool.or_false, getD_eq_getElem?_getD]

lemma bitAt_cleared (count index) :
    bitAt (replicate count 0 ++ buffer.drop count) index =
      (decide (8 * count ≤ index) && bitAt buffer index) := by
  unfold bitAt
  by_cases beyond : 8 * count ≤ index
  · have later : count ≤ index / 8 := by omega
    rw [getD_append_right _ _ _ _ (by rw [length_replicate]; exact later),
      length_replicate, getD_eq_getElem?_getD, getElem?_drop,
      Nat.add_sub_cancel' later, ← getD_eq_getElem?_getD, decide_eq_true beyond, Bool.true_and]
  · have earlier : index / 8 < count := by omega
    rw [getD_append _ _ _ _ (by rw [length_replicate]; exact earlier),
      getD_replicate _ earlier, decide_eq_false beyond]
    exact Nat.zero_testBit _

end

def laidOut (start : Nat) (bits : List Bool) (index : Nat) : Bool :=
  decide (start ≤ index) && bits.getD (index - start) false

lemma laidOut_cons (start bit rest index) :
    laidOut start (bit :: rest) index =
      (bit && index == start || laidOut (start + 1) rest index) := by
  unfold laidOut
  rcases Nat.lt_trichotomy index start with before | rfl | after
  · have notYet : ¬ start ≤ index := by omega
    have norAfter : ¬ start + 1 ≤ index := by omega
    simp [notYet, norAfter, Nat.ne_of_lt before]
  · simp
  · obtain ⟨offset, rfl⟩ : ∃ offset, index = start + 1 + offset := ⟨index - (start + 1), by omega⟩
    have next : start + 1 + offset - start = offset + 1 := by omega
    have further : start + 1 + offset ≠ start := by omega
    have reached : start ≤ start + 1 + offset := by omega
    simp [next, further, reached]

lemma packFrom_some (bits) {bufferctr bufferbit} (small : bufferbit ≤ 8) {charVector}
    (room : bits = [] ∨ 8 * bufferctr + bufferbit + bits.length ≤ 8 * charVector.length) :
    ∃ packed, packFrom (bits.map Bool.toNat) bufferctr bufferbit charVector = some packed ∧
      packed.length = charVector.length ∧
      ∀ index, bitAt packed index =
        (bitAt charVector index || laidOut (8 * bufferctr + bufferbit) bits index) := by
  induction bits generalizing bufferctr bufferbit charVector with
  | nil => exact ⟨charVector, rfl, rfl, by simp [laidOut]⟩
  | cons bit rest ih =>
    obtain ⟨place, placed⟩ : ∃ place : Nat × Nat,
        place = if bufferbit = 8 then (bufferctr + 1, 0) else (bufferctr, bufferbit) := ⟨_, rfl⟩
    have start : 8 * place.1 + place.2 = 8 * bufferctr + bufferbit ∧ place.2 < 8 := by
      by_cases full : bufferbit = 8
      · rw [placed, if_pos full]
        omega
      · rw [placed, if_neg full]
        omega
    have fits : 8 * place.1 + place.2 + (rest.length + 1) ≤ 8 * charVector.length := by
      simp only [reduceCtorEq, length_cons, false_or] at room
      omega
    have inside : place.1 < charVector.length := by omega
    have found := getElem?_eq_getElem inside
    obtain ⟨packed, run, long, contents⟩ := @ih place.1 (place.2 + 1) (by omega)
      (charVector.set place.1
        (charVector[place.1] ||| UInt8.ofNat ((bit.toNat &&& 0xff) <<< place.2)))
      (.inr (by rw [length_set]; omega))
    refine ⟨packed, ?_, long.trans length_set, ?_⟩
    · simp only [map_cons, packFrom, ← placed, found]
      exact run
    · intro index
      rw [contents, bitAt_set found bit start.2, Bool.or_assoc, ← start.1, laidOut_cons]
      rfl

lemma packFrom_none (bits) {bufferctr bufferbit charVector}
    (beyond : 8 * charVector.length < 8 * bufferctr + bufferbit + bits.length)
    (within : 8 * bufferctr + bufferbit ≤ 8 * charVector.length) (small : bufferbit ≤ 8) :
    packFrom bits bufferctr bufferbit charVector = none := by
  induction bits generalizing bufferctr bufferbit charVector with
  | nil => simp only [length_nil] at beyond; omega
  | cons bit rest ih =>
    rw [length_cons] at beyond
    have step : ∀ {ctr place : Nat}, place < 8 → 8 * ctr + place = 8 * bufferctr + bufferbit →
        ∀ {char filled : UInt8}, charVector[ctr]? = some char →
          packFrom rest ctr (place + 1) (charVector.set ctr filled) = none := by
      intro ctr place short same char filled found
      obtain ⟨inside, _⟩ := List.getElem?_eq_some_iff.mp found
      apply ih
      · rw [length_set]
        omega
      · rw [length_set]
        omega
      · omega
    unfold packFrom
    by_cases full : bufferbit = 8
    · simp only [full, if_true]
      split
      · rfl
      · rename_i char found
        exact step (by decide) (by omega) found
    · simp only [full, if_false]
      split
      · rfl
      · rename_i char found
        exact step (by omega) rfl found

lemma packCharBuffer_some (bits : List Bool) {charVector}
    (room : bits.length ≤ 8 * charVector.length) :
    ∃ packed, packCharBuffer (bits.map Bool.toNat) bits.length charVector = some packed ∧
      packed.length = charVector.length ∧
      ∀ index, bitAt packed index =
        (decide (8 * (bits.length / 8) ≤ index) && bitAt charVector index ||
          bits.getD index false) := by
  have cleared : (replicate (bits.length / 8) 0 ++ charVector.drop (bits.length / 8)).length =
      charVector.length := by
    rw [length_append, length_replicate, length_drop]
    omega
  obtain ⟨packed, run, long, contents⟩ := @packFrom_some bits 0 0 (by decide)
    (replicate (bits.length / 8) 0 ++ charVector.drop (bits.length / 8))
    (.inr (by rw [cleared]; omega))
  refine ⟨packed, ?_, long.trans cleared, ?_⟩
  · unfold packCharBuffer
    rw [if_neg (by rw [length_map]; omega), take_of_length_le (by rw [length_map])]
    exact run
  · intro index
    rw [contents, bitAt_cleared]
    simp [laidOut]

lemma packCharBuffer_none (bitVector) {charVector}
    (short : 8 * charVector.length < bitVector.length) :
    packCharBuffer bitVector bitVector.length charVector = none := by
  unfold packCharBuffer
  split
  · rfl
  · apply packFrom_none
    · rw [take_length, length_append, length_replicate, length_drop]
      omega
    · exact Nat.zero_le _
    · exact Nat.zero_le _

lemma packCharBuffer_append (first more charVector) :
    packCharBuffer (first ++ more) first.length charVector =
      packCharBuffer first first.length charVector := by
  have long : ¬ first.length + more.length < first.length := by omega
  unfold packCharBuffer
  simp only [length_append, long, Nat.lt_irrefl, take_left, take_length]

section

variable {buffer : List UInt8}

lemma lowest_bit (data : UInt8) : (data &&& 1).toNat = (data.toNat.testBit 0).toNat := by
  change data.toNat &&& 1 = _
  rw [Nat.and_one_is_mod]
  rcases Nat.mod_two_eq_zero_or_one data.toNat with even | odd
  · simp [even]
  · simp [odd]

lemma bitAt_found {bufferctr bit char} (small : bit < 8)
    (found : buffer[bufferctr]? = some char) :
    bitAt buffer (8 * bufferctr + bit) = char.toNat.testBit bit := by
  have byte : (8 * bufferctr + bit) / 8 = bufferctr := by omega
  have offset : (8 * bufferctr + bit) % 8 = bit := by omega
  rw [bitAt, byte, offset, getD_eq_getElem?_getD, found, Option.getD_some]

lemma unpackFrom_eq (firstBit remaining) {bit bufferctr data char} (small : bit < 8)
    (found : buffer[bufferctr]? = some char) (shifted : data.toNat = char.toNat >>> bit) :
    unpackFrom buffer firstBit remaining (8 * bufferctr + bit) bit bufferctr data =
      if (8 * bufferctr + bit + remaining) / 8 < buffer.length then
        some (((range' (8 * bufferctr + bit) remaining).filter (firstBit ≤ ·)).map
          fun index => (bitAt buffer index).toNat)
      else none := by
  induction remaining generalizing bit bufferctr data char with
  | zero =>
    obtain ⟨inside, _⟩ := List.getElem?_eq_some_iff.mp found
    rw [if_pos (by omega)]
    rfl
  | succ remaining ih =>
    have ival : (data &&& 1).toNat = (bitAt buffer (8 * bufferctr + bit)).toNat := by
      rw [lowest_bit, bitAt_found small found, shifted, Nat.testBit_shiftRight, Nat.add_zero]
    have kept : ((range' (8 * bufferctr + bit) (remaining + 1)).filter (firstBit ≤ ·)).map
        (fun index => (bitAt buffer index).toNat) =
      (if firstBit ≤ 8 * bufferctr + bit then [(data &&& 1).toNat] else []) ++
        ((range' (8 * bufferctr + bit + 1) remaining).filter (firstBit ≤ ·)).map
          (fun index => (bitAt buffer index).toNat) := by
      rw [range'_succ, filter_cons, ival]
      simp only [decide_eq_true_eq]
      split <;> simp
    unfold unpackFrom
    by_cases last : bit + 1 = 8
    · rw [if_pos last]
      have next : 8 * bufferctr + bit + 1 = 8 * (bufferctr + 1) + 0 := by omega
      split
      · rename_i missing
        have outside := List.getElem?_eq_none_iff.mp missing
        rw [if_neg (by omega)]
      · rename_i following present
        rw [kept, next, ih (by decide) present (Nat.shiftRight_zero).symm]
        have same : 8 * (bufferctr + 1) + 0 + remaining = 8 * bufferctr + bit + (remaining + 1) := by
          omega
        rw [same]
        exact apply_ite _ _ _ _
    · rw [if_neg last, kept, Nat.add_assoc, ih (by omega) found]
      · have same : 8 * bufferctr + (bit + 1) + remaining = 8 * bufferctr + bit + (remaining + 1) := by
          omega
        rw [same]
        exact apply_ite _ _ _ _
      · rw [UInt8.toNat_shiftRight, shifted]
        exact (Nat.shiftRight_add char.toNat bit 1).symm

lemma unpackCharBuffer_eq (length firstBit bitVector) :
    unpackCharBuffer buffer length firstBit bitVector =
      if (firstBit + length) / 8 < buffer.length ∧ length ≤ bitVector.length then
        some ((bitsFrom buffer firstBit length).map Bool.toNat ++ bitVector.drop length)
      else none := by
  have kept : (range' 0 (firstBit + length)).filter (firstBit ≤ ·) =
      (List.range length).map (firstBit + ·) := by
    have before : (range' 0 firstBit).filter (firstBit ≤ ·) = [] := by
      rw [filter_eq_nil_iff]
      intro index member
      simp only [mem_range'_1] at member
      simpa using member.2
    have after : (range' (0 + 1 * firstBit) length).filter (firstBit ≤ ·) =
        range' (0 + 1 * firstBit) length := by
      rw [filter_eq_self]
      intro index member
      simp only [mem_range'_1] at member
      simp only [decide_eq_true_eq]
      omega
    rw [← range'_append, filter_append, before, after, nil_append, Nat.one_mul,
      Nat.zero_add, range_eq_range', map_add_range', Nat.add_zero]
  unfold unpackCharBuffer
  split
  · rename_i missing
    have empty := List.getElem?_eq_none_iff.mp missing
    rw [if_neg (by omega)]
  · rename_i data first
    have values := @unpackFrom_eq buffer firstBit (firstBit + length) 0 0 _ _ (by decide) first rfl
    simp only [Nat.mul_zero, Nat.zero_add] at values
    rw [kept, map_map] at values
    rw [values]
    by_cases short : bitVector.length < length
    · rw [if_pos short, if_neg (by omega)]
    · rw [if_neg short]
      by_cases inside : (firstBit + length) / 8 < buffer.length
      · rw [if_pos inside, if_pos ⟨inside, by omega⟩, bitsFrom, map_map]
        rfl
      · rw [if_neg inside, if_neg (by omega)]
        rfl

end

variable {bits : List Bool} {charVector : List UInt8} {bitVector : List Nat}

def RoundTrip (bits : List Bool) (charVector : List UInt8) (bitVector : List Nat) : Prop :=
  ∃ packed unpacked, packCharBuffer (bits.map Bool.toNat) bits.length charVector = some packed ∧
    unpackCharBuffer packed bits.length 0 bitVector = some unpacked ∧
    unpacked.take bits.length = bits.map Bool.toNat

/-- The bits that are left in the last byte, which is not cleared unless it is a whole one, are
there to stay. -/
def LeavesNoBits (bits : List Bool) (charVector : List UInt8) : Prop :=
  ∀ index < bits.length, 8 * (bits.length / 8) ≤ index → bitAt charVector index = true →
    bits.getD index false = true

lemma toNat_injective : Function.Injective Bool.toNat := by
  intro first second same
  cases first <;> cases second <;> simp_all

lemma bitsFrom_packed {packed}
    (contents : ∀ index, bitAt packed index =
      (decide (8 * (bits.length / 8) ≤ index) && bitAt charVector index ||
        bits.getD index false)) :
    bitsFrom packed 0 bits.length = bits ↔ LeavesNoBits bits charVector := by
  have pointwise : bitsFrom packed 0 bits.length = bits ↔
      ∀ index < bits.length, bitAt packed index = bits.getD index false := by
    constructor
    · intro same index inside
      have found := congrArg (·.getD index false) same
      simpa [bitsFrom, inside] using found
    · intro same
      apply ext_getElem
      · simp [bitsFrom]
      · intro index _ inside
        have found := same index inside
        rw [getD_eq_getElem _ _ inside] at found
        simpa [bitsFrom] using found
  rw [pointwise]
  constructor
  · intro same index inside last stale
    rw [← same index inside, contents, decide_eq_true last, stale]
    rfl
  · intro clean index inside
    rw [contents]
    cases kept : (decide (8 * (bits.length / 8) ≤ index) && bitAt charVector index) with
    | false => rfl
    | true =>
      rw [Bool.and_eq_true, decide_eq_true_eq] at kept
      rw [clean index inside kept.1 kept.2]
      rfl

lemma roundTrip_iff : RoundTrip bits charVector bitVector ↔
    bits.length / 8 < charVector.length ∧ bits.length ≤ bitVector.length ∧
      LeavesNoBits bits charVector := by
  have take : ∀ packed : List UInt8, ((bitsFrom packed 0 bits.length).map Bool.toNat ++
      bitVector.drop bits.length).take bits.length =
        (bitsFrom packed 0 bits.length).map Bool.toNat := by
    simp [bitsFrom]
  by_cases fits : bits.length ≤ 8 * charVector.length
  · obtain ⟨packed, pack, long, contents⟩ := packCharBuffer_some bits fits
    unfold RoundTrip
    simp only [pack, unpackCharBuffer_eq, Nat.zero_add]
    constructor
    · rintro ⟨other, unpacked, packedSame, unpack, same⟩
      obtain rfl : packed = other := Option.some.inj packedSame
      rw [Option.ite_none_right_eq_some] at unpack
      obtain ⟨⟨inside, room⟩, found⟩ := unpack
      rw [← Option.some.inj found, take] at same
      exact ⟨long ▸ inside, room,
        (bitsFrom_packed contents).mp (map_injective_iff.mpr toNat_injective same)⟩
    · rintro ⟨inside, room, clean⟩
      refine ⟨packed, _, rfl, if_pos ⟨long.symm ▸ inside, room⟩, ?_⟩
      rw [take, (bitsFrom_packed contents).mpr clean]
  · have none := @packCharBuffer_none (bits.map Bool.toNat) charVector
      (by rw [length_map]; omega)
    rw [length_map] at none
    constructor
    · rintro ⟨packed, unpacked, pack, _⟩
      rw [none] at pack
      cases pack
    · omega

end EmuLib.Jtag
