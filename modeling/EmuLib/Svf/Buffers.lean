import EmuLib.Lib.TextStream
import EmuLib.VmeController.ScanReadBack

/-!
The buffers of the SVF players: filled from hexadecimal values, merged bit by bit, and compared.
-/

namespace EmuLib.Svf

open TextStream VmeController List

/-- Also written as `nbits ? (nbits - 1) / 8 + 1 : 0`. -/
def nbytes (nbits : Nat) : Nat := (nbits + 7) / 8

/-- Signs, blanks and the mark of a base, that `sscanf` would go on behind. -/
def marked (text : List Char) : Bool :=
  text.head?.any (fun first => isSpace first || first = '+' || first = '-') ||
    text[1]?.any (fun second => second = 'x' || second = 'X')

/-- `"%2X"`, where the text has none of those; without a digit nothing is converted. -/
def scanHex : List Char → Option Nat
  | [] => none
  | first :: rest =>
    (digitValue first).map fun high =>
      ((rest.head?.bind digitValue).map (16 * high + ·)).getD high

def storeInt (buffer : Nat → UInt8) (place value : Nat) : Nat → UInt8 := fun byte =>
  if byte = place then UInt8.ofNat value
  else if place < byte ∧ byte < place + 4 then 0
  else buffer byte

def readByte (bytes : Nat) (word : List Char) (buffer : Nat → UInt8) (j : Nat) :
    Option (Nat → UInt8) :=
  let place := 2 * (bytes - j - 1) + 1
  if word.length < place ∨ marked (word.drop place) then none
  else
    match scanHex (word.drop place) with
    | none => some buffer
    | some value => some (storeInt buffer j value)

def readValue (bytes : Nat) (word : List Char) (buffer : Nat → UInt8) : Option (Nat → UInt8) :=
  (List.range bytes).foldlM (readByte bytes word) buffer

def mergeBit (snd : Nat → UInt8) (offset : Nat) (realsnd : Nat → UInt8) (i : Nat) : Nat → UInt8 :=
  Function.update realsnd ((i + offset) / 8) (realsnd ((i + offset) / 8) |||
    (snd (i / 8) >>> UInt8.ofNat (i % 8)) <<< UInt8.ofNat ((i + offset) % 8))

def mergeBits (snd : Nat → UInt8) (offset nbits : Nat) (realsnd : Nat → UInt8) : Nat → UInt8 :=
  (List.range nbits).foldl (mergeBit snd offset) realsnd

structure Framing where
  nbits : Nat
  snd : Nat → UInt8

def realsnd (header : Framing) (nbits : Nat) (snd : Nat → UInt8) (trailer : Framing) :
    Nat → UInt8 :=
  mergeBits trailer.snd (header.nbits + nbits) trailer.nbits
    (mergeBits snd header.nbits nbits fun i => if i < nbytes header.nbits then header.snd i else 0)

def packed (bits : Nat → Bool) : UInt8 :=
  [7, 6, 5, 4, 3, 2, 1, 0].foldl (fun tmp j => tmp <<< 1 ||| if bits j then 1 else 0) 0

/-- The header is removed by way of a buffer with a bit in each byte. What is in the buffer
already is `left`. -/
def removeHeader (hdrbits nbits tbytes : Nat) (left : Nat → Bool) (rcv : Nat → UInt8) :
    Nat → UInt8 := fun i =>
  if i < nbytes nbits then
    packed fun j =>
      if i * 8 + j + hdrbits < 8 * tbytes then dataBit rcv (i * 8 + j + hdrbits)
      else left (i * 8 + j + hdrbits)
  else rcv i

def errors (bytes : Nat) (rcv expect rmask : Nat → UInt8) : Nat :=
  (List.range bytes).countP fun i => (rcv i ^^^ expect i) &&& rmask i ≠ 0

section

def valueBits (nbits value : Nat) : List Bool := (List.range nbits).map value.testBit

def Holds (buffer : Nat → UInt8) (nbits value : Nat) : Prop :=
  ∀ i < 8 * nbytes nbits, dataBit buffer i = value.testBit i

variable {digits : List Nat} {bytes : Nat}

lemma ofDigits_snoc (high low digits) :
    ofDigits (digits ++ [high, low]) = 256 * ofDigits digits + (16 * high + low) := by
  simp only [ofDigits, foldl_append, foldl_cons, foldl_nil]
  omega

lemma ofDigits_byte (count : digits.length = 2 * bytes) (small : ∀ digit ∈ digits, digit < 16) {j}
    (inside : j < bytes) :
    ofDigits digits / 256 ^ j % 256 =
      16 * digits.getD (2 * (bytes - j - 1)) 0 + digits.getD (2 * (bytes - j - 1) + 1) 0 := by
  induction bytes generalizing digits j with
  | zero => omega
  | succ bytes ih =>
    obtain ⟨front, high, low, rfl⟩ : ∃ front high low, digits = front ++ [high, low] := by
      have split := take_append_drop (2 * bytes) digits
      have rest : (digits.drop (2 * bytes)).length = 2 := by
        rw [length_drop]
        omega
      obtain ⟨high, low, two⟩ := length_eq_two.1 rest
      exact ⟨digits.take (2 * bytes), high, low, by rw [← two, split]⟩
    have front_count : front.length = 2 * bytes := by
      simp only [length_append, length_cons, length_nil] at count
      omega
    have first : high < 16 := small high (by simp)
    have second : low < 16 := small low (by simp)
    rw [ofDigits_snoc]
    cases j with
    | zero =>
      have place : 2 * (bytes + 1 - 0 - 1) = front.length := by omega
      rw [place]
      simp
      omega
    | succ j =>
      have before := ih front_count (fun digit member =>
        small digit (mem_append_left _ member)) (Nat.lt_of_succ_lt_succ inside)
      have place : bytes + 1 - (j + 1) - 1 = bytes - j - 1 := by omega
      have divided : (256 * ofDigits front + (16 * high + low)) / 256 ^ (j + 1) =
          ofDigits front / 256 ^ j := by
        rw [Nat.pow_succ', ← Nat.div_div_eq_div_mul]
        congr 1
        omega
      rw [divided, before, place, getD_append _ _ _ _ (by omega),
        getD_append _ _ _ _ (by omega)]

lemma scanHex_digits {first second high low} (rest)
    (one : digitValue first = some high) (two : digitValue second = some low) :
    scanHex (first :: second :: rest) = some (16 * high + low) := by
  simp [scanHex, one, two]

lemma digit_unmarked {first second high low} (rest) (one : digitValue first = some high)
    (two : digitValue second = some low) : marked (first :: second :: rest) = false := by
  have other {mark char : Char} {value : Nat} (known : digitValue char = some value)
      (none_ : digitValue mark = none) : char ≠ mark := by
    rintro rfl
    rw [none_] at known
    cases known
  have space : isSpace first = false := by
    rw [isSpace, decide_eq_false_iff_not]
    intro member
    have marks := digitValue_mark first (mem_append_left ['-', '+', 'x', 'X'] member)
    exact other one marks rfl
  simp [marked, space, other one (show digitValue '+' = none by decide),
    other one (show digitValue '-' = none by decide),
    other two (show digitValue 'x' = none by decide),
    other two (show digitValue 'X' = none by decide)]

end

section

variable {chars : List Char} {digits : List Nat} {bytes : Nat}

def Spelled (chars : List Char) (digits : List Nat) : Prop :=
  chars.map digitValue = digits.map some

lemma Spelled.length (spelled : Spelled chars digits) : chars.length = digits.length := by
  simpa using congrArg List.length spelled

lemma Spelled.small (spelled : Spelled chars digits) : ∀ digit ∈ digits, digit < 16 := by
  intro digit member
  have found : some digit ∈ chars.map digitValue := by
    rw [spelled]
    exact mem_map_of_mem member
  obtain ⟨char, -, value⟩ := mem_map.1 found
  unfold digitValue at value
  have zero : '0'.toNat = 48 := rfl
  have lower : 'a'.toNat = 97 := rfl
  have upper : 'A'.toNat = 65 := rfl
  split at value
  · rename_i range
    have last : char.toNat ≤ 57 := range.2
    have same := Option.some.inj value
    omega
  · split at value
    · rename_i range
      have last : char.toNat ≤ 102 := range.2
      have same := Option.some.inj value
      omega
    · split at value
      · rename_i range
        have last : char.toNat ≤ 70 := range.2
        have same := Option.some.inj value
        omega
      · cases value

lemma Spelled.at (spelled : Spelled chars digits) {i} (inside) :
    digitValue chars[i] = some (digits.getD i 0) := by
  have here := congrArg (·[i]?) spelled
  have within : i < digits.length := spelled.length ▸ inside
  simpa [getElem?_eq_getElem inside, getElem?_eq_getElem within] using here

lemma readByte_digits (spelled : Spelled chars digits) (count : digits.length = 2 * bytes)
    (behind buffer) {j} (inside : j < bytes) :
    readByte bytes ('(' :: (chars ++ ')' :: behind)) buffer j =
      some (storeInt buffer j (16 * digits.getD (2 * (bytes - j - 1)) 0 +
        digits.getD (2 * (bytes - j - 1) + 1) 0)) := by
  obtain ⟨k, place, low_place⟩ : ∃ k, bytes - j - 1 = k ∧ 2 * k + 1 < chars.length := by
    refine ⟨_, rfl, ?_⟩
    rw [spelled.length]
    omega
  have high_place : 2 * k < chars.length := by omega
  have rest : ('(' :: (chars ++ ')' :: behind)).drop (2 * k + 1) =
      chars[2 * k] :: chars[2 * k + 1] :: (chars.drop (2 * k + 2) ++ ')' :: behind) := by
    rw [drop_succ_cons, drop_append_of_le_length (Nat.le_of_lt high_place),
      drop_eq_getElem_cons high_place, drop_eq_getElem_cons low_place]
    rfl
  have long : ¬(('(' :: (chars ++ ')' :: behind)).length < 2 * k + 1 ∨
      marked (('(' :: (chars ++ ')' :: behind)).drop (2 * k + 1)) = true) := by
    rw [rest, digit_unmarked _ (spelled.at high_place) (spelled.at low_place)]
    rintro (short | impossible)
    · simp only [length_cons, length_append] at short
      omega
    · exact Bool.false_ne_true impossible
  rw [readByte, place, if_neg long, rest,
    scanHex_digits _ (spelled.at high_place) (spelled.at low_place)]

lemma storeInt_holds {filled} {content : Nat → UInt8} {j value : Nat}
    (before : ∀ i < j, filled i = content i) (same : UInt8.ofNat value = content j) :
    ∀ i < j + 1, storeInt filled j value i = content i := by
  intro i inside
  rw [storeInt]
  rcases Nat.lt_succ_iff_lt_or_eq.1 inside with earlier | rfl
  · rw [if_neg (Nat.ne_of_lt earlier), if_neg (by omega)]
    exact before i earlier
  · rw [if_pos rfl]
    exact same

lemma readValue_digits (spelled : Spelled chars digits) (count : digits.length = 2 * bytes)
    (behind buffer) :
    ∃ filled, readValue bytes ('(' :: (chars ++ ')' :: behind)) buffer = some filled ∧
      ∀ j < bytes, filled j = UInt8.ofNat (ofDigits digits / 256 ^ j % 256) := by
  have upto (done : Nat) : done ≤ bytes → ∃ filled, (List.range done).foldlM
      (readByte bytes ('(' :: (chars ++ ')' :: behind))) buffer = some filled ∧
        ∀ j < done, filled j = UInt8.ofNat (ofDigits digits / 256 ^ j % 256) := by
    induction done with
    | zero => exact fun _ => ⟨buffer, rfl, fun j none_ => absurd none_ (Nat.not_lt_zero j)⟩
    | succ done ih =>
      intro few
      obtain ⟨filled, read, holds⟩ := ih (Nat.le_of_succ_le few)
      refine ⟨_, ?_, storeInt_holds holds
        (congrArg UInt8.ofNat (ofDigits_byte count spelled.small few).symm)⟩
      rw [range_succ, foldlM_append, read]
      simp only [Option.bind_eq_bind, Option.bind_some, foldlM_cons, foldlM_nil,
        readByte_digits spelled count behind filled few]
      rfl
  exact upto bytes (Nat.le_refl _)

lemma byte_holds {filled nbits value}
    (holds : ∀ j < nbytes nbits, filled j = UInt8.ofNat (value / 256 ^ j % 256)) :
    Holds filled nbits value := by
  intro i inside
  have byte : i / 8 < nbytes nbits := by omega
  have power : 256 ^ (i / 8) = 2 ^ (8 * (i / 8)) := by
    rw [Nat.pow_mul]
  have place : 8 * (i / 8) + i % 8 = i := Nat.div_add_mod i 8
  have within : i % 8 < 8 := Nat.mod_lt _ (by decide)
  rw [dataBit, holds _ byte, UInt8.toNat_ofNat', Nat.mod_mod, power]
  have low := Nat.testBit_mod_two_pow (value / 2 ^ (8 * (i / 8))) 8 (i % 8)
  rw [decide_eq_true within, Nat.testBit_div_two_pow, Nat.add_comm, place] at low
  exact low

end

section

variable {snd buf : Nat → UInt8} {offset nbits : Nat}

lemma shifted_testBit (byte) {down up : Nat} (first : down < 8) (second : up < 8) {place}
    (inside : place < 8) :
    ((byte >>> UInt8.ofNat down) <<< UInt8.ofNat up).toNat.testBit place =
      (decide (up ≤ place) && byte.toNat.testBit (down + (place - up))) := by
  have amount {shift : Nat} (few : shift < 8) : (UInt8.ofNat shift).toNat % 8 = shift := by
    rw [UInt8.toNat_ofNat']
    omega
  rw [UInt8.toNat_shiftLeft, UInt8.toNat_shiftRight, amount first, amount second,
    Nat.testBit_mod_two_pow, decide_eq_true inside, Bool.true_and, Nat.testBit_shiftLeft,
    Nat.testBit_shiftRight]

lemma dataBit_mergeBit (snd buf offset i q) :
    dataBit (mergeBit snd offset buf i) q = (dataBit buf q ||
      (decide (i + offset ≤ q ∧ q / 8 = (i + offset) / 8) &&
        (snd (i / 8)).toNat.testBit (i % 8 + (q - (i + offset))))) := by
  have small (place : Nat) : place % 8 < 8 := Nat.mod_lt _ (by decide)
  by_cases byte : q / 8 = (i + offset) / 8
  · have changed : mergeBit snd offset buf i (q / 8) = buf (q / 8) |||
        (snd (i / 8) >>> UInt8.ofNat (i % 8)) <<< UInt8.ofNat ((i + offset) % 8) := by
      rw [byte]
      exact Function.update_self ..
    have order : i + offset ≤ q ∧ q / 8 = (i + offset) / 8 ↔ (i + offset) % 8 ≤ q % 8 := by omega
    rw [dataBit, changed, UInt8.toNat_or, Nat.testBit_or,
      shifted_testBit (snd (i / 8)) (small i) (small (i + offset)) (small q), dataBit,
      decide_eq_decide.2 order]
    by_cases behind : (i + offset) % 8 ≤ q % 8
    · have distance : q % 8 - (i + offset) % 8 = q - (i + offset) := by omega
      rw [distance]
    · simp [behind]
  · have kept : mergeBit snd offset buf i (q / 8) = buf (q / 8) := Function.update_of_ne byte ..
    simp [dataBit, kept, byte]

def merged (snd buf : Nat → UInt8) (offset nbits q : Nat) : Bool :=
  dataBit buf q || (decide (offset ≤ q ∧ q < offset + nbits) && dataBit snd (q - offset))

structure Merging (snd buf : Nat → UInt8) (offset nbits done : Nat) (now : Nat → UInt8) :
    Prop where
  kept : ∀ q, dataBit buf q = true → dataBit now q = true
  belongs : ∀ q, dataBit now q = true → merged snd buf offset nbits q = true
  there : ∀ q < offset + done, dataBit now q = merged snd buf offset nbits q

lemma merging_start : Merging snd buf offset nbits 0 buf where
  kept := fun q set => set
  belongs := by
    intro q set
    rw [merged, set, Bool.true_or]
  there := by
    intro q before
    have outside : ¬(offset ≤ q ∧ q < offset + nbits) := by omega
    simp [merged, outside]

lemma Merging.step {now done} (merging : Merging snd buf offset nbits done now)
    (more : done < nbits) (clean : ∀ k, nbits ≤ k → k < 8 * nbytes nbits → dataBit snd k = false) :
    Merging snd buf offset nbits (done + 1) (mergeBit snd offset now done) where
  kept := by
    intro q set
    rw [dataBit_mergeBit, merging.kept q set, Bool.true_or]
  belongs := by
    intro q set
    rw [dataBit_mergeBit, Bool.or_eq_true] at set
    rcases set with before | leaked
    · exact merging.belongs q before
    · obtain ⟨place, bit⟩ := (Bool.and_eq_true _ _).mp leaked
      obtain ⟨behind, -⟩ := of_decide_eq_true place
      have within : done % 8 + (q - (done + offset)) < 8 := by
        by_contra beyond
        rw [Nat.testBit_lt_two_pow (Nat.lt_of_lt_of_le (snd (done / 8)).toNat_lt
          (Nat.pow_le_pow_right (by decide) (Nat.le_of_not_lt beyond)))] at bit
        exact Bool.false_ne_true bit
      have same : (q - offset) / 8 = done / 8 := by omega
      have index : (q - offset) % 8 = done % 8 + (q - (done + offset)) := by omega
      have source : dataBit snd (q - offset) = true := by
        rw [dataBit, same, index]
        exact bit
      have inside : q < offset + nbits := by
        by_contra beyond
        have top : q - offset < 8 * nbytes nbits := by
          rw [nbytes]
          omega
        rw [clean (q - offset) (by omega) top] at source
        exact Bool.false_ne_true source
      have covers : offset ≤ q ∧ q < offset + nbits := ⟨by omega, inside⟩
      rw [merged, source, decide_eq_true covers]
      exact Bool.or_true _
  there := by
    intro q inside
    rcases Nat.lt_or_ge q (offset + done) with before | here
    · rw [dataBit_mergeBit, merging.there q before]
      have earlier : ¬(done + offset ≤ q ∧ q / 8 = (done + offset) / 8) := by omega
      simp [earlier]
    · obtain rfl : q = done + offset := by omega
      have covers : offset ≤ done + offset ∧ done + offset < offset + nbits := by omega
      have reached : done + offset ≤ done + offset ∧
        (done + offset) / 8 = (done + offset) / 8 := ⟨Nat.le_refl _, rfl⟩
      have source : (snd (done / 8)).toNat.testBit (done % 8 + (done + offset - (done + offset))) =
          dataBit snd (done + offset - offset) := by
        rw [Nat.sub_self, Nat.add_sub_cancel]
        rfl
      rw [dataBit_mergeBit, source, decide_eq_true reached, Bool.true_and]
      cases bit : dataBit snd (done + offset - offset) with
      | true => rw [merged, bit, decide_eq_true covers, Bool.and_true, Bool.or_true, Bool.or_true]
      | false =>
        have upper := merging.belongs (done + offset)
        have lower := merging.kept (done + offset)
        rw [merged, bit, Bool.and_false, Bool.or_false] at upper ⊢
        rw [Bool.or_false]
        exact Bool.eq_iff_iff.2 ⟨upper, lower⟩

lemma mergeBits_bits (clean : ∀ k, nbits ≤ k → k < 8 * nbytes nbits → dataBit snd k = false)
    (q) : dataBit (mergeBits snd offset nbits buf) q = merged snd buf offset nbits q := by
  have upto (done : Nat) : done ≤ nbits →
      Merging snd buf offset nbits done ((List.range done).foldl (mergeBit snd offset) buf) := by
    induction done with
    | zero => exact fun _ => merging_start
    | succ done ih =>
      intro few
      rw [range_succ, foldl_append]
      exact (ih (Nat.le_of_succ_le few)).step few clean
  have all := upto nbits (Nat.le_refl _)
  rcases Nat.lt_or_ge q (offset + nbits) with inside | beyond
  · exact all.there q inside
  · have outside : ¬(offset ≤ q ∧ q < offset + nbits) := by omega
    have upper := all.belongs q
    have lower := all.kept q
    rw [merged, decide_eq_false outside, Bool.false_and, Bool.or_false] at upper ⊢
    exact Bool.eq_iff_iff.2 ⟨upper, lower⟩

end

section

variable {header trailer : Framing} {nbits value front back : Nat} {snd : Nat → UInt8}

lemma Holds.clean {buffer} (holds : Holds buffer nbits value) (small : value < 2 ^ nbits) :
    ∀ k, nbits ≤ k → k < 8 * nbytes nbits → dataBit buffer k = false := by
  intro k beyond inside
  rw [holds k inside]
  exact Nat.testBit_lt_two_pow (Nat.lt_of_lt_of_le small (Nat.pow_le_pow_right (by decide) beyond))

lemma Holds.bit {buffer} (holds : Holds buffer nbits value) {k}
    (inside : k < nbits) : dataBit buffer k = value.testBit k := by
  refine holds k ?_
  rw [nbytes]
  omega

lemma realsnd_bits (first : Holds header.snd header.nbits front)
    (first_small : front < 2 ^ header.nbits) (holds : Holds snd nbits value)
    (small : value < 2 ^ nbits) (last : Holds trailer.snd trailer.nbits back)
    (last_small : back < 2 ^ trailer.nbits) :
    bitsOf (realsnd header nbits snd trailer) (header.nbits + nbits + trailer.nbits) =
      valueBits header.nbits front ++ valueBits nbits value ++ valueBits trailer.nbits back := by
  have copied (q : Nat) : dataBit (fun i => if i < nbytes header.nbits then header.snd i else 0) q =
      (decide (q < header.nbits) && front.testBit q) := by
    by_cases inside : q / 8 < nbytes header.nbits
    · have kept : dataBit (fun i => if i < nbytes header.nbits then header.snd i else 0) q =
          dataBit header.snd q := by
        rw [dataBit, if_pos inside, dataBit]
      rw [kept]
      rcases Nat.lt_or_ge q header.nbits with within | beyond
      · rw [first.bit within, decide_eq_true within, Bool.true_and]
      · rw [first.clean first_small q beyond (by omega), decide_eq_false (by omega),
          Bool.false_and]
    · have outside : ¬q < header.nbits := by
        rw [nbytes] at inside
        omega
      simp [dataBit, inside, outside]
  have bit (q : Nat) : dataBit (realsnd header nbits snd trailer) q =
      (decide (q < header.nbits) && front.testBit q ||
        (decide (header.nbits ≤ q ∧ q < header.nbits + nbits) &&
          dataBit snd (q - header.nbits)) ||
        (decide (header.nbits + nbits ≤ q ∧ q < header.nbits + nbits + trailer.nbits) &&
          dataBit trailer.snd (q - (header.nbits + nbits)))) := by
    rw [realsnd, mergeBits_bits (last.clean last_small), merged,
      mergeBits_bits (holds.clean small), merged, copied]
  rw [bitsOf, range_add, range_add, map_append, map_append, map_map, map_map]
  refine congrArg₂ _ (congrArg₂ _ ?_ ?_) ?_
  · refine map_congr_left fun q member => ?_
    have inside := mem_range.1 member
    have second : ¬(header.nbits ≤ q ∧ q < header.nbits + nbits) := by omega
    have third : ¬(header.nbits + nbits ≤ q ∧ q < header.nbits + nbits + trailer.nbits) := by omega
    rw [bit, decide_eq_true inside, decide_eq_false second, decide_eq_false third]
    simp
  · refine map_congr_left fun q member => ?_
    have inside := mem_range.1 member
    have one : ¬header.nbits + q < header.nbits := by omega
    have second : header.nbits ≤ header.nbits + q ∧ header.nbits + q < header.nbits + nbits := by
      omega
    have third : ¬(header.nbits + nbits ≤ header.nbits + q ∧
      header.nbits + q < header.nbits + nbits + trailer.nbits) := by omega
    rw [Function.comp_apply, bit, decide_eq_true second,
      decide_eq_false third, Nat.add_sub_cancel_left, holds.bit inside]
    simp
  · refine map_congr_left fun q member => ?_
    have inside := mem_range.1 member
    have one : ¬header.nbits + nbits + q < header.nbits := by omega
    have third : header.nbits + nbits ≤ header.nbits + nbits + q ∧
      header.nbits + nbits + q < header.nbits + nbits + trailer.nbits := by omega
    rw [Function.comp_apply, bit, decide_eq_false one, decide_eq_true third, Nat.add_sub_cancel_left, last.bit inside]
    simp

end

lemma packed_testBit (bits) {place} (inside : place < 8) :
    (packed bits).toNat.testBit place = bits place := by
  have all : ∀ b0 b1 b2 b3 b4 b5 b6 b7 : Bool, ∀ place < 8,
      (packed fun j => [b0, b1, b2, b3, b4, b5, b6, b7].getD j false).toNat.testBit place =
        [b0, b1, b2, b3, b4, b5, b6, b7].getD place false := by
    decide +kernel
  have listed : (List.range 8).map bits = [bits 0, bits 1, bits 2, bits 3, bits 4, bits 5, bits 6,
    bits 7] := rfl
  have same : packed bits = packed fun j => [bits 0, bits 1, bits 2, bits 3, bits 4, bits 5,
      bits 6, bits 7].getD j false := rfl
  rw [same, all _ _ _ _ _ _ _ _ place inside, ← listed]
  simp [List.getD, inside]

variable {rcv expect rmask : Nat → UInt8} {nbits : Nat}

lemma differs_iff (read wanted mask : UInt8) : (read ^^^ wanted) &&& mask = 0 ↔
    ∀ place < 8, mask.toNat.testBit place = true →
      read.toNat.testBit place = wanted.toNat.testBit place := by
  rw [← UInt8.toNat_inj, UInt8.toNat_and, UInt8.toNat_xor]
  constructor
  · intro none_ place _ selected
    have bit := congrArg (·.testBit place) none_
    simp only [Nat.testBit_and, Nat.testBit_xor, selected, Bool.and_true] at bit
    simpa using bit
  · intro agrees
    apply Nat.eq_of_testBit_eq
    intro place
    have zero : (0 : UInt8).toNat.testBit place = false := Nat.zero_testBit place
    rw [zero, Nat.testBit_and, Nat.testBit_xor]
    rcases Nat.lt_or_ge place 8 with inside | beyond
    · cases selected : mask.toNat.testBit place with
      | false => exact Bool.and_false _
      | true => rw [agrees place inside selected, Bool.and_true, Bool.xor_self]
    · rw [Nat.testBit_lt_two_pow (Nat.lt_of_lt_of_le mask.toNat_lt
        (Nat.pow_le_pow_right (by decide) beyond)), Bool.and_false]

lemma errors_zero (bytes) : errors bytes rcv expect rmask = 0 ↔
    ∀ i < 8 * bytes, dataBit rmask i = true → dataBit rcv i = dataBit expect i := by
  rw [errors, countP_eq_zero]
  constructor
  · intro all i inside selected
    have byte : i / 8 < bytes := by omega
    have equal := all (i / 8) (mem_range.2 byte)
    rw [decide_eq_true_eq, not_not, differs_iff] at equal
    exact equal (i % 8) (Nat.mod_lt _ (by decide)) selected
  · intro all i member
    rw [decide_eq_true_eq, not_not, differs_iff]
    intro place few selected
    have inside := mem_range.1 member
    have byte : (8 * i + place) / 8 = i := by omega
    have within : (8 * i + place) % 8 = place := by omega
    have bit := all (8 * i + place) (by omega)
    rw [dataBit, dataBit, dataBit, byte, within] at bit
    exact bit selected

lemma removeHeader_bit {hdrbits tbytes} (left) {i} (inside : i < nbits)
    (read : i + hdrbits < 8 * tbytes) :
    dataBit (removeHeader hdrbits nbits tbytes left rcv) i = dataBit rcv (i + hdrbits) := by
  have byte : i / 8 < nbytes nbits := by
    rw [nbytes]
    omega
  have place : i / 8 * 8 + i % 8 = i := by omega
  rw [dataBit, removeHeader, if_pos byte, packed_testBit _ (Nat.mod_lt _ (by decide)), place,
    if_pos read]

end EmuLib.Svf
