import Mathlib.Data.List.Basic

/-!
Text files with numbers in hexadecimal, written and read through formatted streams.
-/

namespace EmuLib.TextStream

def hex (value : Nat) : List Char := Nat.toDigits 16 value

def setw (width : Nat) (text : List Char) : List Char :=
  List.replicate (width - text.length) ' ' ++ text

def unlines (lines : List (List Char)) : List Char := lines.flatMap (· ++ ['\n'])

/-- What `std::getline` returns until the stream is no longer good. The last line is the one that
gets to the end of the file, which is empty where the text ends with a newline. -/
def getlines (text : List Char) : List (List Char) := text.splitOn '\n'

def isSpace (char : Char) : Bool := char ∈ [' ', '\t', '\n', '\x0b', '\x0c', '\r']

def digitValue (char : Char) : Option Nat :=
  if '0' ≤ char ∧ char ≤ '9' then some (char.toNat - '0'.toNat)
  else if 'a' ≤ char ∧ char ≤ 'f' then some (char.toNat - 'a'.toNat + 10)
  else if 'A' ≤ char ∧ char ≤ 'F' then some (char.toNat - 'A'.toNat + 10)
  else none

def accumulate : List Char → Nat → Nat × List Char
  | [], value => (value, [])
  | char :: rest, value =>
    match digitValue char with
    | none => (value, char :: rest)
    | some digit => accumulate rest (16 * value + digit)

def extractSign : List Char → Bool × List Char
  | [] => (false, [])
  | char :: rest =>
    if char = '-' then (true, rest) else if char = '+' then (false, rest) else (false, char :: rest)

def extractBase : List Char → List Char
  | zero :: mark :: rest =>
    if zero = '0' ∧ (mark = 'x' ∨ mark = 'X') then rest else zero :: mark :: rest
  | short => short

/-- `>> std::hex >>` for an `int`, with what is left in the stream. A failure leaves the variable
as it was. -/
def extractHex (text : List Char) : Option (Int × List Char) :=
  let signed := extractSign (text.dropWhile isSpace)
  let digits := extractBase signed.2
  if (digits.head?.bind digitValue).isNone then none
  else
    let accumulated := accumulate digits 0
    let value : Int := if signed.1 then -accumulated.1 else accumulated.1
    if -0x80000000 ≤ value ∧ value ≤ 0x7fffffff then some (value, accumulated.2) else none

def ofDigits (digits : List Nat) : Nat := digits.foldl (fun value digit => 16 * value + digit) 0

lemma getlines_unlines (lines) (whole : ∀ line ∈ lines, '\n' ∉ line) :
    getlines (unlines lines) = lines ++ [[]] := by
  induction lines with
  | nil => rfl
  | cons line rest ih =>
    have one : unlines (line :: rest) = line ++ '\n' :: unlines rest := by
      simp [unlines]
    have others := ih fun other member => whole other (List.mem_cons_of_mem line member)
    rw [one, getlines, List.splitOn_append_cons_self_of_not_mem (whole line List.mem_cons_self)]
    exact congrArg (line :: ·) others

section

variable {rest : List Char} {digits : List Nat} {write : Nat → Char}
variable {digit : Nat}

lemma hex_digit (small : digit < 16) : hex digit = [digit.digitChar] :=
  Nat.toDigits_of_lt_base small

def Spells (write : Nat → Char) : Prop := ∀ digit < 16, digitValue (write digit) = some digit

lemma digitChar_spells : Spells Nat.digitChar := by
  unfold Spells
  decide

lemma toUpper_spells : Spells fun digit => digit.digitChar.toUpper := by
  unfold Spells
  decide

lemma digitValue_mark : ∀ mark ∈ [' ', '\t', '\n', '\x0b', '\x0c', '\r', '-', '+', 'x', 'X'],
    digitValue mark = none := by
  simp only [List.forall_mem_cons, List.not_mem_nil, false_implies, implies_true, and_true]
  decide

lemma Spells.ne (spells : Spells write) (small : digit < 16) {mark}
    (marks : digitValue mark = none) : write digit ≠ mark := by
  rintro rfl
  rw [spells digit small] at marks
  cases marks

lemma Spells.notSpace (spells : Spells write) (small : digit < 16) :
    isSpace (write digit) = false := by
  rw [isSpace, decide_eq_false_iff_not]
  intro member
  have marks := digitValue_mark (write digit) (List.mem_append_left ['-', '+', 'x', 'X'] member)
  exact spells.ne small marks rfl

lemma Spells.notBase (spells : Spells write) (small : digit < 16) :
    write digit ≠ 'x' ∧ write digit ≠ 'X' :=
  ⟨spells.ne small (by decide), spells.ne small (by decide)⟩

lemma accumulate_digits (spells : Spells write) (small : ∀ digit ∈ digits, digit < 16)
    (value) (ended : rest.head?.bind digitValue = none) :
    accumulate (digits.map write ++ rest) value =
      (digits.foldl (fun value digit => 16 * value + digit) value, rest) := by
  induction digits generalizing value with
  | nil =>
    cases rest with
    | nil => rfl
    | cons char further =>
      have stops : digitValue char = none := ended
      simp [accumulate, stops]
  | cons digit others ih =>
    have first := spells digit (small digit List.mem_cons_self)
    have later := ih (fun other member => small other (List.mem_cons_of_mem digit member))
      (16 * value + digit)
    simp only [List.map_cons, List.cons_append, accumulate, first, List.foldl_cons]
    exact later

lemma extractSign_digit (spells : Spells write) (small : digit < 16)
    (rest) : extractSign (write digit :: rest) = (false, write digit :: rest) := by
  have notMinus : write digit ≠ '-' := spells.ne small (by decide)
  have notPlus : write digit ≠ '+' := spells.ne small (by decide)
  rw [extractSign, if_neg notMinus, if_neg notPlus]

lemma extractBase_plain {text}
    (plain : ∀ char ∈ text, char ≠ 'x' ∧ char ≠ 'X') : extractBase text = text := by
  match text with
  | [] => rfl
  | [_] => rfl
  | zero :: mark :: further =>
    have unmarked := plain mark (by simp)
    rw [extractBase, if_neg]
    rintro ⟨_, marked | marked⟩
    · exact unmarked.1 marked
    · exact unmarked.2 marked

lemma extractHex_digits (spells : Spells write) {first}
    (small : ∀ digit ∈ first :: digits, digit < 16) (fits : ofDigits (first :: digits) ≤ 0x7fffffff)
    {spaces} (leading : ∀ char ∈ spaces, isSpace char = true)
    (plain : ∀ char ∈ rest, char ≠ 'x' ∧ char ≠ 'X') (ended : rest.head?.bind digitValue = none) :
    extractHex (spaces ++ (first :: digits).map write ++ rest) =
      some ((ofDigits (first :: digits) : Int), rest) := by
  have firstSmall := small first List.mem_cons_self
  have spaced : (spaces ++ (first :: digits).map write ++ rest).dropWhile isSpace =
      (first :: digits).map write ++ rest := by
    rw [List.append_assoc, List.dropWhile_append_of_pos leading, List.map_cons, List.cons_append,
      List.dropWhile_cons_of_neg (by rw [spells.notSpace firstSmall]; decide)]
  have signed : extractSign ((first :: digits).map write ++ rest) =
      (false, (first :: digits).map write ++ rest) := extractSign_digit spells firstSmall _
  have based : extractBase ((first :: digits).map write ++ rest) =
      (first :: digits).map write ++ rest := by
    apply extractBase_plain
    intro char member
    rcases List.mem_append.mp member with digit | later
    · obtain ⟨value, found, rfl⟩ := List.mem_map.mp digit
      exact spells.notBase (small value found)
    · exact plain char later
  have started : ((((first :: digits).map write ++ rest).head?.bind
      digitValue).isNone) = false := by
    simp [spells first firstSmall]
  have read := accumulate_digits spells small 0 ended
  have bounded : -0x80000000 ≤ (ofDigits (first :: digits) : Int) ∧
      (ofDigits (first :: digits) : Int) ≤ 0x7fffffff := by omega
  simp only [extractHex, spaced, signed, based, started, read]
  exact if_pos bounded

end

variable {char mark : Char} {chars : List Char} {digits : List Nat} {value : Nat}

lemma digitValue_ne (digit : digitValue char = some value) (marks : digitValue mark = none) :
    char ≠ mark := by
  rintro rfl
  rw [marks] at digit
  cases digit

lemma digitValue_lt (digit : digitValue char = some value) : value < 16 := by
  rw [digitValue] at digit
  have zero : '0'.toNat = 48 := rfl
  have lower : 'a'.toNat = 97 := rfl
  have upper : 'A'.toNat = 65 := rfl
  split at digit
  next range =>
    have last : char.toNat ≤ 57 := range.2
    have same := Option.some.inj digit
    omega
  next =>
    split at digit
    next range =>
      have last : char.toNat ≤ 102 := range.2
      have same := Option.some.inj digit
      omega
    next =>
      split at digit
      next range =>
        have last : char.toNat ≤ 70 := range.2
        have same := Option.some.inj digit
        omega
      next => cases digit

lemma accumulate_values (values : chars.map digitValue = digits.map some) (value) :
    accumulate chars value = (digits.foldl (fun value digit => 16 * value + digit) value, []) := by
  induction chars generalizing digits value with
  | nil =>
    rw [List.map_nil, eq_comm, List.map_eq_nil_iff] at values
    rw [values]
    rfl
  | cons char rest ih =>
    cases digits with
    | nil => cases values
    | cons digit others =>
      obtain ⟨first, further⟩ := List.cons.inj values
      simp only [accumulate, first, List.foldl_cons]
      exact ih further _

lemma extractHex_values (values : (char :: chars).map digitValue = digits.map some)
    (fits : ofDigits digits ≤ 0x7fffffff) :
    extractHex (char :: chars) = some ((ofDigits digits : Int), []) := by
  have known : ∀ other ∈ char :: chars, ∃ value, digitValue other = some value := by
    intro other member
    have image := List.mem_map_of_mem (f := digitValue) member
    rw [values] at image
    obtain ⟨digit, -, same⟩ := List.mem_map.1 image
    exact ⟨digit, same.symm⟩
  obtain ⟨first, firstValue⟩ := known char List.mem_cons_self
  have space : isSpace char = false := by
    rw [isSpace, decide_eq_false_iff_not]
    intro member
    have marks := digitValue_mark char (List.mem_append_left ['-', '+', 'x', 'X'] member)
    exact digitValue_ne firstValue marks rfl
  have minus : char ≠ '-' := digitValue_ne firstValue (by decide)
  have plus : char ≠ '+' := digitValue_ne firstValue (by decide)
  have based : extractBase (char :: chars) = char :: chars := by
    apply extractBase_plain
    intro other member
    obtain ⟨digit, is⟩ := known other member
    exact ⟨digitValue_ne is (by decide), digitValue_ne is (by decide)⟩
  have signed : extractSign (char :: chars) = (false, char :: chars) := by
    rw [extractSign, if_neg minus, if_neg plus]
  have bounded : -0x80000000 ≤ (ofDigits digits : Int) ∧ (ofDigits digits : Int) ≤ 0x7fffffff := by
    omega
  rw [extractHex, List.dropWhile_cons_of_neg (by rw [space]; decide), signed]
  simp only [based, List.head?_cons, Option.bind_some, firstValue, Option.isNone_some,
    Bool.false_eq_true, if_false, accumulate_values values]
  exact if_pos bounded

end EmuLib.TextStream
