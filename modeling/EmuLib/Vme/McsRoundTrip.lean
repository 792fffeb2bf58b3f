import EmuLib.Vme.McsFile
import Mathlib.Data.List.GetD
import Mathlib.Data.List.TakeWhile

/-!
A buffer that is written to an MCS file is read back, with the last record filled up.
-/

namespace EmuLib.Vme

open TextStream List

def upperDigit (digit : Nat) : Char := digit.digitChar.toUpper

lemma hexPadded_succ (width value) : hexPadded (width + 2) value =
    hexPadded (width + 1) (value / 16) ++ [upperDigit (value % 16)] := by
  by_cases digit : value < 16
  · have written : Nat.toDigits 16 value = [value.digitChar] := Nat.toDigits_of_lt_base digit
    have nothing : value / 16 = 0 := by omega
    have itself : value % 16 = value := by omega
    simp [hexPadded, written, nothing, itself, upperDigit, replicate_succ']
  · have written := @Nat.toDigits_of_base_le 16 value (by decide) (by omega)
    have left : width + 2 - ((Nat.toDigits 16 (value / 16)).length + 1) =
        width + 1 - (Nat.toDigits 16 (value / 16)).length := by omega
    simp [hexPadded, written, upperDigit, left]

lemma hexPadded_digit {value} (small : value < 16) : hexPadded 1 value = [upperDigit value] := by
  have written : Nat.toDigits 16 value = [value.digitChar] := Nat.toDigits_of_lt_base small
  simp [hexPadded, written, upperDigit]

lemma hexPadded_byte {value} (small : value < 0x100) :
    hexPadded 2 value = [value / 16, value % 16].map upperDigit := by
  rw [hexPadded_succ, hexPadded_digit (by omega)]
  rfl

lemma hexPadded_half {value} (small : value < 0x10000) : hexPadded 4 value =
    [value / 4096, value / 256 % 16, value / 16 % 16, value % 16].map upperDigit := by
  have third : value / 16 / 16 = value / 256 := by omega
  have fourth : value / 256 / 16 = value / 4096 := by omega
  rw [hexPadded_succ, hexPadded_succ, third, hexPadded_succ, fourth, hexPadded_digit (by omega)]
  rfl

lemma hexPadded_byte_ne {value} (small : value < 0x100) {mark}
    (marks : digitValue mark = none) : mark ∉ hexPadded 2 value := by
  have upper : value / 16 < 16 := by omega
  have lower : value % 16 < 16 := by omega
  rw [hexPadded_byte small]
  simp only [map_cons, map_nil, mem_cons, not_mem_nil, or_false, not_or]
  exact ⟨(toUpper_spells.ne upper marks).symm, (toUpper_spells.ne lower marks).symm⟩

lemma hexPadded_half_ne {value} (small : value < 0x10000) {mark}
    (marks : digitValue mark = none) : mark ∉ hexPadded 4 value := by
  have upper : value / 4096 < 16 := by omega
  have nibble : ∀ number : Nat, number % 16 < 16 := fun number => Nat.mod_lt number (by decide)
  rw [hexPadded_half small]
  simp only [map_cons, map_nil, mem_cons, not_mem_nil, or_false, not_or]
  exact ⟨(toUpper_spells.ne upper marks).symm, (toUpper_spells.ne (nibble _) marks).symm,
    (toUpper_spells.ne (nibble _) marks).symm, (toUpper_spells.ne (nibble _) marks).symm⟩

lemma sscanfHex_digits {first digits} (small : ∀ digit ∈ first :: digits, digit < 16)
    (fits : ofDigits (first :: digits) ≤ 0x7fffffff) (stored) :
    sscanfHex ((first :: digits).map upperDigit) stored = ofDigits (first :: digits) := by
  have read := @extractHex_digits [] digits upperDigit toUpper_spells first small fits [] (by simp)
    (by simp) rfl
  rw [nil_append, append_nil] at read
  rw [sscanfHex, read]

lemma sscanfHex_byte {value} (small : value < 0x100) (stored) :
    sscanfHex (hexPadded 2 value) stored = value := by
  have digits : ofDigits [value / 16, value % 16] = value := by
    simp only [ofDigits, foldl_cons, foldl_nil]
    omega
  rw [hexPadded_byte small, sscanfHex_digits (by simp; omega) (by omega), digits]

lemma sscanfHex_half {value} (small : value < 0x10000) (stored) :
    sscanfHex (hexPadded 4 value) stored = value := by
  have digits :
      ofDigits [value / 4096, value / 256 % 16, value / 16 % 16, value % 16] = value := by
    simp only [ofDigits, foldl_cons, foldl_nil]
    omega
  rw [hexPadded_half small, sscanfHex_digits (by simp; omega) (by omega), digits]

lemma fgetsLines_line {line} (whole : '\n' ∉ line) (before rest)
    (short : before.length + line.length < 1018) :
    fgetsLines (line ++ '\n' :: rest) before =
      (before ++ line ++ ['\n'], false) :: fgetsLines rest [] := by
  induction line generalizing before with
  | nil => simp [fgetsLines]
  | cons char others ih =>
    have plain : char ≠ '\n' := fun same => whole (by rw [same]; exact mem_cons_self)
    have further := ih (fun member => whole (mem_cons_of_mem char member)) (before ++ [char])
      (by simp only [length_append, length_cons, length_nil] at short ⊢; omega)
    have fits : ¬(char = '\n' ∨ before.length + 1 = 1019) := by
      rintro (same | full)
      · exact plain same
      · omega
    rw [cons_append, fgetsLines, if_neg fits, further]
    simp

lemma fgets_within (buf) {line index}
    (within : index < line.length) : fgets buf line index = line.getD index '\x00' := by
  have something : line ≠ [] := by
    rintro rfl
    exact Nat.not_lt_zero index within
  rw [fgets, if_neg something, if_pos (Nat.le_of_lt within)]

lemma strncpy_fgets (buf before) {field} (after) (whole : '\x00' ∉ field) :
    strncpy (fgets buf (before ++ field ++ after)) before.length field.length = field := by
  have copied : ((List.range field.length).map fun offset =>
      fgets buf (before ++ field ++ after) (before.length + offset)) = field := by
    apply ext_getElem
    · simp
    · intro offset _ within
      have inside : before.length + offset < (before ++ field ++ after).length := by
        simp only [length_append]
        omega
      rw [getElem_map, getElem_range, fgets_within buf inside,
        getD_eq_getElem _ _ inside,
        getElem_append_left (by simp only [length_append]; omega),
        getElem_append_right (by omega)]
      simp only [Nat.add_sub_cancel_left]
  rw [strncpy, copied, takeWhile_eq_self_iff]
  intro char member
  rw [decide_eq_true_eq]
  rintro rfl
  exact whole member

lemma strncpy_field (buf) {line before field after start size}
    (parts : line = before ++ field ++ after) (position : before.length = start)
    (length : field.length = size) (whole : '\x00' ∉ field) :
    strncpy (fgets buf line) start size = field := by
  subst parts position length
  exact strncpy_fgets buf before after whole

lemma fgets_char (buf) {line before after char index} (parts : line = before ++ char :: after)
    (position : before.length = index) : fgets buf line index = char := by
  subst parts position
  rw [fgets_within buf (by simp)]
  simp

section

variable (value : Nat → UInt8)

def bytesFrom (index count : Nat) : List UInt8 :=
  (List.range count).map fun offset => value (index + offset)

lemma bytesFrom_add (index count more) :
    bytesFrom value index (count + more) =
      bytesFrom value index count ++ bytesFrom value (index + count) more := by
  simp only [bytesFrom, range_add, map_append, map_map]
  congr 1
  apply map_congr_left
  intro offset _
  simp only [Function.comp_apply]
  rw [Nat.add_assoc]

lemma bytesFrom_succ (index count) :
    bytesFrom value index (count + 1) = bytesFrom value index count ++ [value (index + count)] := by
  rw [bytesFrom_add]
  rfl

def bytesText (bytes : List UInt8) : List Char :=
  bytes.flatMap fun byte => hexPadded 2 byte.toNat

lemma hexPadded_byte_length {number} (small : number < 0x100) :
    (hexPadded 2 number).length = 2 := by
  rw [hexPadded_byte small]
  rfl

lemma bytesFrom_length (index count) : (bytesFrom value index count).length = count := by
  simp [bytesFrom]

lemma bytesText_length (bytes) : (bytesText bytes).length = 2 * bytes.length := by
  induction bytes with
  | nil => rfl
  | cons byte others ih =>
    have one := hexPadded_byte_length byte.toNat_lt
    simp only [bytesText, flatMap_cons, length_append, length_cons] at ih ⊢
    omega

lemma bytesText_ne (bytes) {mark} (marks : digitValue mark = none) : mark ∉ bytesText bytes := by
  intro member
  obtain ⟨byte, _, written⟩ := mem_flatMap.mp member
  exact hexPadded_byte_ne byte.toNat_lt marks written

lemma bytesText_at (index) {offset count} (within : offset < count) :
    bytesText (bytesFrom value index count) =
      bytesText (bytesFrom value index offset) ++ hexPadded 2 (value (index + offset)).toNat ++
        bytesText (bytesFrom value (index + (offset + 1)) (count - (offset + 1))) := by
  have parts : count = offset + 1 + (count - (offset + 1)) := by omega
  rw [parts, bytesFrom_add, bytesFrom_succ]
  simp [bytesText]

lemma signedChar_sum (bytes : List UInt8) :
    ((bytes.map signedChar).sum - (bytes.map fun byte => (byte.toNat : Int)).sum) % 256 = 0 := by
  induction bytes with
  | nil => rfl
  | cons byte others ih =>
    have one : (signedChar byte - byte.toNat) % 256 = 0 := by
      unfold signedChar
      split <;> omega
    simp only [map_cons, sum_cons]
    omega

lemma readByte_range (buf) {index count}
    (fields : ∀ offset < count,
      strncpy buf (9 + offset * 2) 2 = hexPadded 2 (value (index + offset)).toNat)
    (fits : index + count ≤ 0x100000000) (reader sum) :
    ∃ c, (List.range count).foldl (readByte buf index) (reader, sum) =
      ({ reader with
         c := c
         binbuf := fun address =>
           if index ≤ address ∧ address < index + count then value address
           else reader.binbuf address
         totalRead := reader.totalRead + count },
       sum + ((bytesFrom value index count).map fun byte => (byte.toNat : Int)).sum) := by
  induction count with
  | zero =>
    refine ⟨reader.c, ?_⟩
    have nowhere : ∀ address, ¬(index ≤ address ∧ address < index + 0) := by
      omega
    simp only [nowhere, if_false, bytesFrom]
    simp
  | succ count ih =>
    obtain ⟨_, before⟩ := ih (fun offset within => fields offset (by omega)) (by omega)
    refine ⟨((value (index + count)).toNat : Int), ?_⟩
    have byte := (value (index + count)).toNat_lt
    have field := fields count (Nat.lt_succ_self count)
    have place : (index + count) % 0x100000000 = index + count := by omega
    have low : UInt8.ofNat (lowByte ((value (index + count)).toNat : Int)) =
        value (index + count) := by
      have same : lowByte ((value (index + count)).toNat : Int) =
          (value (index + count)).toNat := by
        unfold lowByte
        omega
      rw [same, UInt8.ofNat_toNat]
    rw [range_succ, foldl_append, before]
    simp only [foldl_cons, foldl_nil, readByte, field, sscanfHex_byte byte, place, low,
      bytesFrom_succ, map_append, sum_append, map_cons, map_nil, sum_cons, sum_nil]
    simp only [Prod.mk.injEq, McsReader.mk.injEq, true_and]
    refine ⟨⟨?_, by omega⟩, by omega⟩
    funext address
    by_cases here : address = index + count
    · subst here
      rw [Function.update_self, if_pos (by omega)]
    · rw [Function.update_of_ne here]
      by_cases inside : index ≤ address ∧ address < index + count
      · rw [if_pos inside, if_pos (by omega)]
      · rw [if_neg inside, if_neg (by omega)]

end

section

variable (value : Nat → UInt8)

def dataText (index : Nat) (bytes : List UInt8) (sum : Nat) : List Char :=
  [':', '1', '0'] ++ hexPadded 4 (index % 0x10000) ++ ['0', '0'] ++ bytesText bytes ++
    hexPadded 2 sum

lemma dataRecord_eq (index bytes) : ∃ sum : Nat,
    dataRecord index bytes = dataText index bytes sum ++ ['\n'] ∧
      (sum : Int) = (-(0x10 + index + (index >>> 8 : Nat) + (bytes.map signedChar).sum)) % 256 := by
  refine ⟨_, rfl, ?_⟩
  unfold lowByte
  omega

lemma hexPadded_half_length {number} (small : number < 0x10000) :
    (hexPadded 4 number).length = 4 := by
  rw [hexPadded_half small]
  rfl

lemma dataText_length (index count) {sum} (small : sum < 0x100) :
    (dataText index (bytesFrom value index count) sum).length = 11 + 2 * count := by
  have half := hexPadded_half_length (Nat.mod_lt index (by decide : 0 < 0x10000))
  have bytes := bytesText_length (bytesFrom value index count)
  rw [bytesFrom_length] at bytes
  simp only [dataText, length_append, length_cons, length_nil, half, bytes,
    hexPadded_byte_length small]
  omega

lemma dataText_whole (index bytes) {sum} (small : sum < 0x100) :
    '\n' ∉ dataText index bytes sum := by
  have newline := digitValue_mark '\n' (by decide)
  have half := hexPadded_half_ne (Nat.mod_lt index (by decide : 0 < 0x10000)) newline
  have text := bytesText_ne bytes newline
  have last := hexPadded_byte_ne small newline
  simp [dataText, half, text, last]

lemma readData_record (buf) {reader} {index sum : Nat}
    (linear : reader.segmented = false)
    (extended : index % 0x10000 + reader.currentExt * 0x10000 = index)
    (fits : index + 16 ≤ 0x100000000)
    (summed : (sum : Int) = (-(0x10 + index + (index >>> 8 : Nat) +
      ((bytesFrom value index 16).map signedChar).sum)) % 256) :
    ∃ read, readData (fgets buf (dataText index (bytesFrom value index 16) sum ++ ['\n'])) reader =
        .next read ∧
      read.binbuf = (fun address =>
        if index ≤ address ∧ address < index + 16 then value address else reader.binbuf address) ∧
      read.totalRead = reader.totalRead + 16 ∧ read.currentExt = reader.currentExt ∧
      read.segmented = false := by
  have small : sum < 0x100 := by omega
  have address := Nat.mod_lt index (by decide : 0 < 0x10000)
  have half := hexPadded_half_length address
  have nul : digitValue '\x00' = none := by decide
  obtain ⟨line, lineEq⟩ :
      ∃ line, line = dataText index (bytesFrom value index 16) sum ++ ['\n'] := ⟨_, rfl⟩
  rw [← lineEq]
  unfold dataText at lineEq
  have sizeField : strncpy (fgets buf line) 1 2 = hexPadded 2 0x10 := by
    refine @strncpy_field buf line [':'] _ (hexPadded 4 (index % 0x10000) ++ ['0', '0'] ++
      bytesText (bytesFrom value index 16) ++ hexPadded 2 sum ++ ['\n']) 1 2 ?_ rfl rfl
      (hexPadded_byte_ne (by decide) nul)
    rw [lineEq]
    simp only [append_assoc]
    rfl
  have addressField : strncpy (fgets buf line) 3 4 = hexPadded 4 (index % 0x10000) := by
    refine @strncpy_field buf line [':', '1', '0'] _ (['0', '0'] ++
      bytesText (bytesFrom value index 16) ++ hexPadded 2 sum ++ ['\n']) 3 4 ?_ rfl half
      (hexPadded_half_ne address nul)
    rw [lineEq]
    simp only [append_assoc]
  have byteFields : ∀ offset < 16, strncpy (fgets buf line) (9 + offset * 2) 2 =
      hexPadded 2 (value (index + offset)).toNat := by
    intro offset within
    have before := bytesText_length (bytesFrom value index offset)
    rw [bytesFrom_length] at before
    refine @strncpy_field buf line ([':', '1', '0'] ++ hexPadded 4 (index % 0x10000) ++
      ['0', '0'] ++ bytesText (bytesFrom value index offset)) _
      (bytesText (bytesFrom value (index + (offset + 1)) (16 - (offset + 1))) ++
        hexPadded 2 sum ++ ['\n']) _ 2 ?_ ?_
      (hexPadded_byte_length (UInt8.toNat_lt _)) (hexPadded_byte_ne (UInt8.toNat_lt _) nul)
    · rw [lineEq, bytesText_at value index within]
      simp only [append_assoc]
    · simp only [length_append, length_cons, length_nil, half, before]
      omega
  have sumField : strncpy (fgets buf line) 41 2 = hexPadded 2 sum := by
    have before := bytesText_length (bytesFrom value index 16)
    rw [bytesFrom_length] at before
    refine @strncpy_field buf line ([':', '1', '0'] ++ hexPadded 4 (index % 0x10000) ++
      ['0', '0'] ++ bytesText (bytesFrom value index 16)) _ ['\n'] _ 2 lineEq ?_
      (hexPadded_byte_length small) (hexPadded_byte_ne small nul)
    simp only [length_append, length_cons, length_nil, half, before]
  have size : unsigned (16 : Int) = 16 := rfl
  have local16 : unsigned ((index % 0x10000 : Nat) : Int) = index % 0x10000 := by
    unfold unsigned
    omega
  have current : (index % 0x10000 + reader.currentExt <<< 16) % 0x100000000 = index := by
    rw [Nat.shiftLeft_eq]
    omega
  obtain ⟨c, bytes⟩ := readByte_range value (fgets buf line) byteFields fits
    { reader with dsize := 16, locAdd := index % 0x10000 }
    ((16 : Int) + (index % 0x10000 : Nat) + ((index % 0x10000) >>> 8 : Nat))
  have signs := signedChar_sum (bytesFrom value index 16)
  have agreed : lowByte (-((16 : Int) + (index % 0x10000 : Nat) + ((index % 0x10000) >>> 8 : Nat) +
      ((bytesFrom value index 16).map fun byte => (byte.toNat : Int)).sum)) =
      lowByte (sum : Int) := by
    unfold lowByte
    rw [Nat.shiftRight_eq_div_pow] at summed ⊢
    omega
  have shift : (if reader.segmented = true then 4 else 16) = 16 := by rw [linear]; rfl
  refine ⟨{ reader with
    dsize := 16
    locAdd := index % 0x10000
    c := c
    crc := sum
    binbuf := fun address =>
      if index ≤ address ∧ address < index + 16 then value address else reader.binbuf address
    totalRead := reader.totalRead + 16 }, ?_, rfl, rfl, rfl, linear⟩
  simp only [readData, sizeField, sscanfHex_byte (show 16 < 0x100 by decide), Nat.cast_ofNat, size,
    addressField, sscanfHex_half address, local16, shift, current, bytes]
  rw [show 16 * 2 + 9 = 41 from rfl, sumField, sscanfHex_byte small]
  exact if_neg (not_not.mpr agreed)

lemma segmentRecord_eq {segment} (small : segment < 0x10000) : ∃ sum : Nat,
    segmentRecord segment = [':', '0', '2', '0', '0', '0', '0', '0', '4'] ++ hexPadded 4 segment ++
        hexPadded 2 sum ++ ['\n'] ∧
      (sum : Int) = (-(6 + segment + (segment >>> 8 : Nat))) % 256 := by
  refine ⟨lowByte (-(2 + 4 + segment + (segment >>> 8 : Nat))), ?_, ?_⟩
  · rw [segmentRecord, Nat.mod_eq_of_lt small]
  · unfold lowByte
    omega

lemma readExtended_record (buf reader) {segment sum : Nat} (segmentSmall : segment < 0x10000)
    (summed : (sum : Int) = (-(6 + segment + (segment >>> 8 : Nat))) % 256) :
    ∃ read, readExtended (fgets buf ([':', '0', '2', '0', '0', '0', '0', '0', '4'] ++
        hexPadded 4 segment ++ hexPadded 2 sum ++ ['\n'])) reader = .next read ∧
      read.binbuf = reader.binbuf ∧ read.totalRead = reader.totalRead ∧
      read.currentExt = segment ∧ read.segmented = false := by
  have small : sum < 0x100 := by omega
  have half := hexPadded_half_length segmentSmall
  have nul : digitValue '\x00' = none := by decide
  obtain ⟨line, lineEq⟩ : ∃ line, line = [':', '0', '2', '0', '0', '0', '0', '0', '4'] ++
    hexPadded 4 segment ++ hexPadded 2 sum ++ ['\n'] := ⟨_, rfl⟩
  rw [← lineEq]
  have first : fgets buf line 1 = '0' :=
    @fgets_char buf line [':'] _ '0' 1 (by rw [lineEq]; rfl) rfl
  have second : fgets buf line 2 = '2' :=
    @fgets_char buf line [':', '0'] _ '2' 2 (by rw [lineEq]; rfl) rfl
  have type : fgets buf line 8 = '4' :=
    @fgets_char buf line [':', '0', '2', '0', '0', '0', '0', '0'] _ '4' 8 (by rw [lineEq]; rfl) rfl
  have typeField : strncpy (fgets buf line) 7 2 = hexPadded 2 4 := by
    rw [lineEq]
    rfl
  have addressField : strncpy (fgets buf line) 9 4 = hexPadded 4 segment := by
    refine @strncpy_field buf line [':', '0', '2', '0', '0', '0', '0', '0', '4'] _
      (hexPadded 2 sum ++ ['\n']) 9 4 ?_ rfl half (hexPadded_half_ne segmentSmall nul)
    rw [lineEq]
    simp only [append_assoc]
  have sumField : strncpy (fgets buf line) 13 2 = hexPadded 2 sum := by
    refine @strncpy_field buf line ([':', '0', '2', '0', '0', '0', '0', '0', '4'] ++
      hexPadded 4 segment) _ ['\n'] 13 2 lineEq ?_ (hexPadded_byte_length small)
      (hexPadded_byte_ne small nul)
    simp only [length_append, length_cons, length_nil, half]
  have address : unsigned (segment : Int) = segment := by
    unfold unsigned
    omega
  have agreed : lowByte (-(((4 : Nat) : Int) + 2 + segment + (segment >>> 8 : Nat))) =
      lowByte (sum : Int) := by
    unfold lowByte
    omega
  have proper : ¬('0' ≠ '0' ∨ '2' ≠ '2') := by decide
  refine ⟨{ reader with
    extAdd := segment
    currentExt := segment
    segmented := false
    crc := sum }, ?_, rfl, rfl, rfl, rfl⟩
  rw [readExtended, first, second]
  simp only [type, typeField, sscanfHex_byte (show 4 < 0x100 by decide), addressField,
    sscanfHex_half segmentSmall, address, sumField, sscanfHex_byte small]
  exact if_neg (not_not.mpr agreed)

end

lemma readLines_dataRecord (value buf) {reader index} (linear : reader.segmented = false)
    (extended : index % 0x10000 + reader.currentExt * 0x10000 = index)
    (fits : index + 16 ≤ 0x100000000) (rest) :
    ∃ line read, readLines buf reader
        (fgetsLines (dataRecord index (bytesFrom value index 16) ++ rest) []) =
          readLines line read (fgetsLines rest []) ∧
      read.binbuf = (fun address =>
        if index ≤ address ∧ address < index + 16 then value address else reader.binbuf address) ∧
      read.totalRead = reader.totalRead + 16 ∧ read.currentExt = reader.currentExt ∧
      read.segmented = false := by
  obtain ⟨sum, written, summed⟩ := dataRecord_eq index (bytesFrom value index 16)
  have small : sum < 0x100 := by omega
  obtain ⟨read, record, facts⟩ := readData_record value buf linear extended fits summed
  have whole := dataText_whole index (bytesFrom value index 16) small
  have short := dataText_length value index 16 small
  have half := hexPadded_half (Nat.mod_lt index (by decide : 0 < 0x10000))
  obtain ⟨line, lineEq⟩ :
      ∃ line, line = dataText index (bytesFrom value index 16) sum ++ ['\n'] := ⟨_, rfl⟩
  have lines : fgetsLines (dataRecord index (bytesFrom value index 16) ++ rest) [] =
      (line, false) :: fgetsLines rest [] := by
    rw [written, lineEq, append_assoc]
    exact fgetsLines_line whole [] rest (by rw [short]; decide)
  refine ⟨fgets buf line, read, ?_, facts⟩
  rw [← lineEq] at record
  unfold dataText at lineEq
  rw [half] at lineEq
  have start : fgets buf line 0 = ':' := @fgets_char buf line [] _ ':' 0 (by rw [lineEq]; rfl) rfl
  have zero : fgets buf line 7 = '0' :=
    @fgets_char buf line (':' :: '1' :: '0' :: [index % 0x10000 / 4096,
      index % 0x10000 / 256 % 16, index % 0x10000 / 16 % 16, index % 0x10000 % 16].map upperDigit)
      _ '0' 7 (by rw [lineEq]; rfl) rfl
  have type : fgets buf line 8 = '0' :=
    @fgets_char buf line ((':' :: '1' :: '0' :: [index % 0x10000 / 4096,
      index % 0x10000 / 256 % 16, index % 0x10000 / 16 % 16,
      index % 0x10000 % 16].map upperDigit) ++ ['0']) _ '0' 8 (by rw [lineEq]; rfl) rfl
  have proper : ¬(fgets buf line 0 ≠ ':' ∨ fgets buf line 7 ≠ '0') := by
    rw [start, zero]
    decide
  have kind : readRecord (fgets buf line) reader = .next read := by
    rw [readRecord, if_pos type, record]
  rw [lines]
  simp only [readLines, Bool.false_eq_true, if_false]
  rw [if_neg proper, kind]

lemma readLines_segmentRecord (buf reader) {segment} (segmentSmall : segment < 0x10000) :
    ∃ line read, (∀ rest, readLines buf reader (fgetsLines (segmentRecord segment ++ rest) []) =
        readLines line read (fgetsLines rest [])) ∧
      read.binbuf = reader.binbuf ∧ read.totalRead = reader.totalRead ∧
      read.currentExt = segment ∧ read.segmented = false := by
  obtain ⟨sum, written, summed⟩ := segmentRecord_eq segmentSmall
  have small : sum < 0x100 := by omega
  obtain ⟨read, record, facts⟩ := readExtended_record buf reader segmentSmall summed
  have newline := digitValue_mark '\n' (by decide)
  have half := hexPadded_half_ne segmentSmall newline
  have last := hexPadded_byte_ne small newline
  have halfLength := hexPadded_half_length segmentSmall
  have lastLength := hexPadded_byte_length small
  obtain ⟨line, lineEq⟩ : ∃ line, line = [':', '0', '2', '0', '0', '0', '0', '0', '4'] ++
    hexPadded 4 segment ++ hexPadded 2 sum ++ ['\n'] := ⟨_, rfl⟩
  have lines : ∀ rest, fgetsLines (segmentRecord segment ++ rest) [] =
      (line, false) :: fgetsLines rest [] := by
    intro rest
    rw [written, lineEq, append_assoc _ ['\n']]
    refine fgetsLines_line ?_ [] rest ?_
    · simp [half, last]
    · simp only [length_append, length_cons, length_nil, halfLength, lastLength]
      decide
  refine ⟨fgets buf line, read, ?_, facts⟩
  rw [← lineEq] at record
  have start : fgets buf line 0 = ':' := @fgets_char buf line [] _ ':' 0 (by rw [lineEq]; rfl) rfl
  have zero : fgets buf line 7 = '0' :=
    @fgets_char buf line [':', '0', '2', '0', '0', '0', '0'] _ '0' 7 (by rw [lineEq]; rfl) rfl
  have type : fgets buf line 8 = '4' :=
    @fgets_char buf line [':', '0', '2', '0', '0', '0', '0', '0'] _ '4' 8 (by rw [lineEq]; rfl) rfl
  have proper : ¬(fgets buf line 0 ≠ ':' ∨ fgets buf line 7 ≠ '0') := by
    rw [start, zero]
    decide
  have kind : readRecord (fgets buf line) reader = .next read := by
    rw [readRecord, type, if_neg (by decide), if_neg (by decide), if_pos (by decide), record]
  intro rest
  rw [lines]
  simp only [readLines, Bool.false_eq_true, if_false]
  rw [if_neg proper, kind]

lemma readLines_endRecord (buf reader) :
    readLines buf reader (fgetsLines endRecord []) = .returned reader.totalRead reader := rfl

variable {buf original : Nat → UInt8} {nbytes : Nat}

def padded (buf : Nat → UInt8) (nbytes : Nat) : Nat → UInt8 := fun address =>
  if address < nbytes then buf address else 0xFF

lemma bytesFrom_cons (value index count) :
    bytesFrom value index (count + 1) = value index :: bytesFrom value (index + 1) count := by
  rw [Nat.add_comm count 1, bytesFrom_add]
  rfl

lemma recordBytes_beyond (left) {index next} (beyond : nbytes ≤ index) (later : index ≤ next) :
    recordBytes buf nbytes left index = (bytesFrom (padded buf nbytes) next left, index) := by
  induction left generalizing next with
  | zero => rfl
  | succ left ih =>
    have fill : padded buf nbytes next = 0xFF := if_neg (by omega)
    rw [recordBytes, if_pos beyond, @ih (next + 1) (by omega), bytesFrom_cons, fill]

lemma recordBytes_eq (left) {index} (within : index ≤ nbytes) :
    recordBytes buf nbytes left index =
      (bytesFrom (padded buf nbytes) index left, min (index + left) nbytes) := by
  induction left generalizing index with
  | zero =>
    rw [Nat.add_zero, Nat.min_eq_left within]
    rfl
  | succ left ih =>
    by_cases more : nbytes ≤ index
    · rw [recordBytes_beyond (left + 1) more (Nat.le_refl index), Nat.min_eq_right (by omega)]
      rw [Nat.le_antisymm within more]
    · have byte : padded buf nbytes index = buf index := if_pos (by omega)
      have further := @ih (index + 1) (by omega)
      rw [recordBytes, if_neg more, further, bytesFrom_cons, byte]
      simp only [Prod.mk.injEq, true_and]
      omega

structure Reached (buf original : Nat → UInt8) (nbytes blocks : Nat) (reader : McsReader) :
    Prop where
  binbuf : reader.binbuf = fun address =>
    if address < 16 * blocks then padded buf nbytes address else original address
  total : reader.totalRead = 16 * blocks
  linear : reader.segmented = false

lemma Reached.next {blocks reader read}
    (reached : Reached buf original nbytes blocks reader)
    (binbuf : read.binbuf = fun address =>
      if 16 * blocks ≤ address ∧ address < 16 * blocks + 16 then padded buf nbytes address
      else reader.binbuf address)
    (total : read.totalRead = reader.totalRead + 16) (linear : read.segmented = false) :
    Reached buf original nbytes (blocks + 1) read := by
  refine ⟨?_, by rw [total, reached.total]; omega, linear⟩
  rw [binbuf, reached.binbuf]
  funext address
  beta_reduce
  by_cases before : address < 16 * blocks
  · rw [if_neg (by omega), if_pos before, if_pos (by omega)]
  · by_cases here : address < 16 * blocks + 16
    · rw [if_pos (by omega), if_pos (by omega)]
    · rw [if_neg (by omega), if_neg before, if_neg (by omega)]

lemma readLines_writeBlocks (left) {block} (line) {reader}
    (reached : Reached buf original nbytes block reader)
    (extended : block % 4096 ≠ 0 → reader.currentExt = block / 4096)
    (more : 16 * block < nbytes) (last : nbytes ≤ 16 * (block + left))
    (tight : 16 * (block + left) < nbytes + 16) (fits : nbytes ≤ 0x1000000) :
    ∃ read, readLines line reader
        (fgetsLines (writeBlocks buf nbytes left (block / 4096) (block % 4096) (16 * block)) []) =
          .returned (16 * (block + left)) read ∧
      Reached buf original nbytes (block + left) read := by
  induction left generalizing block line reader with
  | zero => omega
  | succ left ih =>
    -- the segment record is there for the first block of a segment only
    obtain ⟨line, segmented, head, started, current⟩ : ∃ line' segmented, (∀ rest,
        readLines line reader (fgetsLines ((if block % 4096 = 0 then segmentRecord (block / 4096)
          else []) ++ rest) []) = readLines line' segmented (fgetsLines rest [])) ∧
        Reached buf original nbytes block segmented ∧
        segmented.currentExt = block / 4096 := by
      by_cases first : block % 4096 = 0
      · obtain ⟨line', read, lines, binbuf, total, current, linear⟩ :=
          readLines_segmentRecord line reader (by omega : block / 4096 < 0x10000)
        refine ⟨line', read, ?_, ⟨binbuf.trans reached.binbuf, total.trans reached.total, linear⟩,
          current⟩
        rw [if_pos first]
        exact lines
      · refine ⟨line, reader, ?_, reached, extended first⟩
        intro rest
        rw [if_neg first, nil_append]
    have record := @recordBytes_eq buf nbytes 16 (16 * block) (Nat.le_of_lt more)
    have address : 16 * block % 0x10000 + segmented.currentExt * 0x10000 = 16 * block := by
      omega
    obtain ⟨line', read, lines, binbuf, total, kept, linear⟩ := readLines_dataRecord
      (padded buf nbytes) line started.linear address (by omega)
      (if nbytes ≤ min (16 * block + 16) nbytes then endRecord
        else if block % 4096 + 1 = MAXBLOCK then
          writeBlocks buf nbytes left (block / 4096 + 1) 0 (min (16 * block + 16) nbytes)
        else writeBlocks buf nbytes left (block / 4096) (block % 4096 + 1)
          (min (16 * block + 16) nbytes))
    have next := started.next binbuf total linear
    rw [writeBlocks]
    simp only [record]
    rw [append_assoc, head, lines]
    by_cases done : nbytes ≤ min (16 * block + 16) nbytes
    · have final : left = 0 := by omega
      subst final
      rw [if_pos done, readLines_endRecord, next.total]
      exact ⟨read, rfl, next⟩
    · have index : min (16 * block + 16) nbytes = 16 * (block + 1) := by omega
      have blocks : block + (left + 1) = block + 1 + left := by omega
      rw [if_neg done, index, blocks]
      by_cases full : block % 4096 + 1 = MAXBLOCK
      · have segment : block / 4096 + 1 = (block + 1) / 4096 := by
          unfold MAXBLOCK at full
          omega
        have start : 0 = (block + 1) % 4096 := by
          omega
        rw [if_pos full, segment, start]
        exact ih line' next (fun inside => absurd start.symm inside) (by omega) (by omega)
          (by omega)
      · have segment : block / 4096 = (block + 1) / 4096 := by
          unfold MAXBLOCK at full
          omega
        have follows : block % 4096 + 1 = (block + 1) % 4096 := by
          omega
        rw [if_neg full, segment, follows]
        exact ih line' next (fun _ => by rw [kept, current, segment]) (by omega) (by omega)
          (by omega)

lemma totalBlocks_eq : totalBlocks nbytes = (nbytes + 15) / 16 := by
  unfold totalBlocks
  split <;> omega

lemma readMcs_written (unset original buf) {nbytes}
    (something : 1 ≤ nbytes) (fits : nbytes ≤ 0x1000000) :
    ∃ reader, readMcs unset original (writeMcs buf nbytes) =
        .returned (16 * ((nbytes + 15) / 16)) reader ∧
      Reached buf original nbytes ((nbytes + 15) / 16) reader := by
  have blank : Reached buf original nbytes 0
      { binbuf := original
        currentExt := 0
        segmented := false
        dsize := unset.dsize
        locAdd := unset.locAdd
        extAdd := unset.extAdd
        c := unset.c
        crc := unset.crc
        totalRead := 0 } := by
    refine ⟨?_, rfl, rfl⟩
    funext address
    exact (if_neg (Nat.not_lt_zero address)).symm
  obtain ⟨reader, run, reached⟩ := readLines_writeBlocks (totalBlocks nbytes) unset.buf blank
    (fun inside => absurd rfl inside) (by omega) (by rw [totalBlocks_eq]; omega)
    (by rw [totalBlocks_eq]; omega) fits
  rw [Nat.zero_add, totalBlocks_eq] at run reached
  refine ⟨reader, ?_, reached⟩
  rw [writeMcs, totalBlocks_eq]
  exact run

lemma Reached.written {blocks reader} (reached : Reached buf original nbytes blocks reader)
    {address} (below : address < 16 * blocks) (within : address < nbytes) :
    reader.binbuf address = buf address := by
  rw [reached.binbuf]
  exact (if_pos below).trans (if_pos within)

lemma Reached.filled {blocks reader} (reached : Reached buf original nbytes blocks reader)
    {address} (below : address < 16 * blocks) (beyond : nbytes ≤ address) :
    reader.binbuf address = 0xFF := by
  rw [reached.binbuf]
  exact (if_pos below).trans (if_neg (by omega))

lemma Reached.untouched {blocks reader} (reached : Reached buf original nbytes blocks reader)
    {address} (beyond : 16 * blocks ≤ address) : reader.binbuf address = original address := by
  rw [reached.binbuf]
  exact if_neg (by omega)

/-- What is written is read back, for every buffer of up to 16 MB. -/
theorem readMcs_writeMcs (unset : Unset) (original buf : Nat → UInt8) {nbytes : Nat}
    (something : 1 ≤ nbytes) (fits : nbytes ≤ 0x1000000) :
    ∃ reader, readMcs unset original (writeMcs buf nbytes) =
        .returned (16 * ((nbytes + 15) / 16)) reader ∧
      (∀ address < nbytes, reader.binbuf address = buf address) ∧
      (∀ address, nbytes ≤ address → address < 16 * ((nbytes + 15) / 16) →
        reader.binbuf address = 0xFF) ∧
      ∀ address, 16 * ((nbytes + 15) / 16) ≤ address →
        reader.binbuf address = original address := by
  obtain ⟨reader, run, reached⟩ := readMcs_written unset original buf something fits
  refine ⟨reader, run, ?_, ?_, ?_⟩
  · intro address within
    exact reached.written (by omega) within
  · intro address beyond below
    exact reached.filled below beyond
  · intro address beyond
    exact reached.untouched beyond

theorem readMcs_writeMcs_three :
    ∃ reader, readMcs ⟨fun _ => '\x00', 0, 0, 0, 0, 0⟩ (fun _ => 0) (writeMcs (fun _ => 7) 3) =
        .returned 16 reader ∧
      (∀ address < 3, reader.binbuf address = 7) ∧
      (∀ address, 3 ≤ address → address < 16 → reader.binbuf address = 0xFF) ∧
      ∀ address, 16 ≤ address → reader.binbuf address = 0 :=
  readMcs_writeMcs ⟨fun _ => '\x00', 0, 0, 0, 0, 0⟩ (fun _ => 0) (fun _ => 7) (by decide) (by decide)

end EmuLib.Vme
