import EmuLib.Svf.Players
import Mathlib.Data.List.TakeWhile

/-!
SVF statements as they are written: a word for the statement, the number of bits, and values with
two digits for each byte.
-/

namespace EmuLib.Svf

open Lines TextStream TapController VmeController List

structure Value where
  keyGap : List Char
  field : Field
  valueGap : List Char
  chars : List Char

structure Statement where
  lead : List Char
  numberGap : List Char
  number : List Char
  fields : List Value
  closing : List Char

namespace Value

variable (value : Value)

def digits : List Nat := value.chars.filterMap digitValue

def content : Nat := ofDigits value.digits

def word (behind : List Char) : List Char := '(' :: (value.chars ++ ')' :: behind)

def text : List Char := value.keyGap ++ (value.field.keyword ++ (value.valueGap ++ value.word []))

end Value

namespace Statement

variable (statement : Statement)

def nbits : Nat :=
  statement.number.foldl (fun number digit => 10 * number + (digit.toNat - '0'.toNat)) 0

def head (keyword : List Char) : List Char :=
  statement.lead ++ (keyword ++ (statement.numberGap ++ statement.number))

def rest : List Char := statement.fields.flatMap Value.text ++ statement.closing

def text (keyword : List Char) : List Char := statement.head keyword ++ statement.rest

def given (field : Field) : Bool := statement.fields.any fun value => value.field = field

def content (field : Field) : Nat :=
  ((statement.fields.find? fun value => value.field = field).map Value.content).getD 0

end Statement

def Gap (gap : List Char) : Prop := ∀ char ∈ gap, char = ' ' ∨ char = '\t'

-- Named, since the whole library also decides such statements by running through all characters.
instance (gap : List Char) : Decidable (Gap gap) := List.decidableBAll _ gap

structure Value.Valid (nbits : Nat) (value : Value) : Prop where
  keyGap : Gap value.keyGap ∧ value.keyGap ≠ []
  valueGap : Gap value.valueGap ∧ value.valueGap ≠ []
  digits : ∀ char ∈ value.chars, (digitValue char).isSome
  count : nbits ≠ 0 → value.chars.length = 2 * nbytes nbits
  small : value.content < 2 ^ nbits

structure Statement.Valid (statement : Statement) : Prop where
  lead : Gap statement.lead
  numberGap : Gap statement.numberGap ∧ statement.numberGap ≠ []
  number : ∀ char ∈ statement.number, char.isDigit = true
  some_ : statement.number ≠ []
  limit : statement.nbits ≤ maxBufSize
  fields : ∀ value ∈ statement.fields, value.Valid statement.nbits
  once : (statement.fields.map Value.field).Nodup
  tdi : statement.nbits ≠ 0 → statement.given .tdi = true
  closing : ∀ char ∈ statement.closing, char = ' ' ∨ char = '\t' ∨ char = ';'
  closed : ';' ∈ statement.closing

lemma gap_blank {gap} (blanks : Gap gap) : ∀ char ∈ gap, isBlank char = true := by
  intro char member
  rcases blanks char member with rfl | rfl <;> rfl

def Solid (word : List Char) : Prop := word ≠ [] ∧ ∀ char ∈ word, isBlank char = false

lemma solid_keywords : (∀ part : Part, Solid part.keyword) ∧
    (∀ field : Field, Solid field.keyword) ∧
    ∀ register : Register, Solid (scanKeyword register) := by
  refine ⟨fun part => ?_, fun field => ?_, fun register => ?_⟩
  · cases part <;> exact ⟨cons_ne_nil _ _, by simp [Part.keyword, isBlank]⟩
  · cases field <;> exact ⟨cons_ne_nil _ _, by simp [Field.keyword, isBlank]⟩
  · cases register <;> exact ⟨cons_ne_nil _ _, by simp [scanKeyword, isBlank]⟩

lemma digit_solid {char} (digit : char.isDigit = true) : isBlank char = false := by
  rw [isBlank]
  have other {mark : Char} (none_ : mark.isDigit = false) : char ≠ mark := by
    rintro rfl
    rw [none_] at digit
    cases digit
  simp [other (show (' ' : Char).isDigit = false by decide),
    other (show ('\t' : Char).isDigit = false by decide),
    other (show ('\n' : Char).isDigit = false by decide),
    other (show ('"' : Char).isDigit = false by decide)]

lemma hex_solid {char} (digit : (digitValue char).isSome) : isBlank char = false := by
  rw [isBlank]
  have other {mark : Char} (none_ : digitValue mark = none) : char ≠ mark := by
    rintro rfl
    rw [none_] at digit
    cases digit
  simp [other (show digitValue ' ' = none by decide), other (show digitValue '\t' = none by decide),
    other (show digitValue '\n' = none by decide), other (show digitValue '"' = none by decide)]

lemma Value.word_solid {nbits} {value : Value} (valid : value.Valid nbits) :
    Solid (value.word []) := by
  refine ⟨cons_ne_nil _ _, ?_⟩
  intro char member
  rcases mem_cons.1 member with rfl | later
  · rfl
  · rcases mem_append.1 later with digit | last
    · exact hex_solid (valid.digits char digit)
    · rw [mem_singleton.1 last]
      rfl

lemma parse_append {word} (solid : Solid word) (text) :
    parse (word ++ text) = (word ++ text.takeWhile fun char => !isBlank char) ::
      parse (text.dropWhile fun char => !isBlank char) := by
  obtain ⟨some_, all⟩ := solid
  have more : ∀ char ∈ word ++ text.takeWhile (fun char => !isBlank char),
      isBlank char = false := by
    intro char member
    rcases mem_append.1 member with first | later
    · exact all char first
    · simpa using mem_takeWhile_imp later
  have ended : ends isBlank (text.dropWhile fun char => !isBlank char) = true := by
    have stops := head?_dropWhile_not (fun char => !isBlank char) text
    rw [ends]
    cases first : (text.dropWhile fun char => !isBlank char).head? with
    | none => rfl
    | some char =>
      rw [first] at stops
      simpa using stops
  have joined : word ++ text = (word ++ text.takeWhile fun char => !isBlank char) ++
      text.dropWhile fun char => !isBlank char := by
    rw [append_assoc, takeWhile_append_dropWhile]
  have nonempty : word ++ text.takeWhile (fun char => !isBlank char) ≠ [] := fun none_ =>
    some_ (append_eq_nil_iff.1 none_).1
  have found := words_word _ more nonempty ended
  rw [← joined] at found
  exact found

lemma parse_gap {gap} (blanks : Gap gap) (text) :
    parse (gap ++ text) = parse text := words_blanks gap (gap_blank blanks) text

lemma parse_word {word gap} (solid : Solid word) (blanks : Gap gap) (some_ : gap ≠ [])
    (text) : parse (word ++ (gap ++ text)) = word :: parse text := by
  have ended : ends isBlank (gap ++ text) = true := by
    obtain ⟨char, others, rfl⟩ := exists_cons_of_ne_nil some_
    have first := gap_blank blanks char mem_cons_self
    simpa [ends] using first
  have found := words_word word solid.2 solid.1 ended
  rw [parse, found, words_blanks gap (gap_blank blanks)]
  rfl

def Spells : List Value → List (List Char) → Prop
  | [], words => ∀ word ∈ words, fieldOf word = none
  | value :: rest, words =>
    ∃ behind others, words = value.field.keyword :: value.word behind :: others ∧
      Spells rest others

def Closes (text : List Char) : Prop :=
  ∀ char ∈ text, char = ' ' ∨ char = '\t' ∨ char = ';' ∨ char = '\r' ∨ char = '\n'

lemma fieldOf_keyword (field) : fieldOf field.keyword = some field := by
  cases field <;> decide

lemma fieldOf_some {word field} (found : fieldOf word = some field) : word = field.keyword := by
  have test := find?_some found
  exact (of_decide_eq_true test).symm

lemma closes_none {text word} (closes : Closes text) (member : word ∈ parse text) :
    fieldOf word = none := by
  obtain ⟨-, inside⟩ := mem_words member
  cases found : fieldOf word with
  | none => rfl
  | some field =>
    have keyword := fieldOf_some found
    have letter : 'M' ∈ word ∨ 'D' ∈ word := by
      rw [keyword]
      cases field <;> decide
    have outside : ∀ char ∈ word, char ≠ 'M' ∧ char ≠ 'D' := by
      intro char place
      rcases closes char (inside char place).1 with rfl | rfl | rfl | rfl | rfl <;> decide
    rcases letter with there | there
    · exact absurd rfl (outside _ there).1
    · exact absurd rfl (outside _ there).2

lemma parse_fields {nbits ending} (closes : Closes ending) (fields)
    (valid : ∀ value ∈ fields, value.Valid nbits) :
    ∀ word, Solid word → ∃ behind others,
      parse (word ++ (fields.flatMap Value.text ++ ending)) = (word ++ behind) :: others ∧
        Spells fields others ∧ ∀ char ∈ behind, char = ';' ∨ char = '\r' := by
  induction fields with
  | nil =>
    intro word solid
    refine ⟨_, _, parse_append solid _, ?_, ?_⟩
    · intro other member
      refine closes_none (fun char place => closes char ?_) member
      exact (dropWhile_sublist _).subset place
    · intro char member
      have whole : char ∈ ending := (takeWhile_sublist _).subset member
      have solid_ : isBlank char = false := by simpa using mem_takeWhile_imp member
      rcases closes char whole with rfl | rfl | rfl | rfl | rfl
      · cases solid_
      · cases solid_
      · exact .inl rfl
      · exact .inr rfl
      · cases solid_
  | cons value rest ih =>
    intro word solid
    have one := valid value mem_cons_self
    obtain ⟨behind, others, parsed, spells, -⟩ := ih
      (fun other member => valid other (mem_cons_of_mem value member)) (value.word [])
      (value.word_solid one)
    refine ⟨[], value.field.keyword :: value.word behind :: others, ?_,
      ⟨behind, others, rfl, spells⟩, fun char impossible => absurd impossible not_mem_nil⟩
    have glued : value.word [] ++ behind = value.word behind := by simp [Value.word]
    rw [flatMap_cons, Value.text, append_assoc, append_assoc, append_assoc,
      append_assoc, append_nil, parse_word solid one.keyGap.1 one.keyGap.2,
      parse_word (solid_keywords.2.1 value.field) one.valueGap.1 one.valueGap.2, parsed, glued]

lemma head_parse {keyword} (word : Solid keyword) {statement : Statement}
    (valid : statement.Valid) (text) :
    parse (statement.head keyword ++ text) = keyword :: parse (statement.number ++ text) := by
  rw [Statement.head, append_assoc, append_assoc, append_assoc,
    parse_gap valid.lead, parse_word word valid.numberGap.1 valid.numberGap.2]

lemma number_solid {statement : Statement} (valid : statement.Valid) : Solid statement.number :=
  ⟨valid.some_, fun char member => digit_solid (valid.number char member)⟩

lemma parse_statement {keyword} (word : Solid keyword) {statement : Statement}
    (valid : statement.Valid) {ending} (closes : Closes ending) :
    ∃ behind others, parse (statement.text keyword ++ ending) =
        keyword :: (statement.number ++ behind) :: others ∧
      Spells statement.fields others ∧ ∀ char ∈ behind, char = ';' ∨ char = '\r' := by
  have all : Closes (statement.closing ++ ending) := by
    intro char member
    rcases mem_append.1 member with inside | last
    · rcases valid.closing char inside with blank | tab | semicolon
      · exact .inl blank
      · exact .inr (Or.inl tab)
      · exact .inr (Or.inr (Or.inl semicolon))
    · exact closes char last
  obtain ⟨behind, others, parsed, rest⟩ :=
    parse_fields all statement.fields valid.fields statement.number (number_solid valid)
  refine ⟨behind, others, ?_, rest⟩
  rw [Statement.text, Statement.rest, append_assoc, append_assoc, head_parse word valid, parsed]

lemma scanNumber_append {statement : Statement} (valid : statement.Valid) {behind}
    (ended : ∀ char ∈ behind.head?, char.isDigit = false) :
    scanNumber (statement.number ++ behind) = some statement.nbits := by
  have taken : (statement.number ++ behind).takeWhile Char.isDigit = statement.number := by
    rw [takeWhile_append_of_pos valid.number]
    cases behind with
    | nil => exact append_nil _
    | cons char others =>
      have stops := ended char rfl
      rw [takeWhile_cons_of_neg (by rw [stops]; exact Bool.false_ne_true), append_nil]
  have small : ¬(statement.number = [] ∨ 2 ^ 31 ≤ statement.nbits) := by
    rintro (none_ | large)
    · exact valid.some_ none_
    · have limit := valid.limit
      rw [maxBufSize] at limit
      omega
  rw [scanNumber, taken]
  exact if_neg small

section

variable {nbits : Nat}

lemma Value.spelled {value : Value} (digits : ∀ char ∈ value.chars, (digitValue char).isSome) :
    Spelled value.chars value.digits := by
  rw [Value.digits]
  generalize value.chars = chars at digits
  induction chars with
  | nil => rfl
  | cons char others ih =>
    obtain ⟨digit, found⟩ := Option.isSome_iff_exists.1 (digits char mem_cons_self)
    have later := ih fun other member => digits other (mem_cons_of_mem char member)
    rw [Spelled, map_cons, filterMap_cons_some found, map_cons, found, later]

lemma Value.Valid.reads {value : Value} (valid : value.Valid nbits) (behind buffer) :
    ∃ filled, readValue (nbytes nbits) (value.word behind) buffer = some filled ∧
      Holds filled nbits value.content := by
  by_cases empty : nbits = 0
  · subst empty
    exact ⟨buffer, rfl, fun i inside => absurd inside (Nat.not_lt_zero i)⟩
  · have spelled := Value.spelled valid.digits
    obtain ⟨filled, read, bytes⟩ := readValue_digits spelled
      (spelled.length.symm.trans (valid.count empty)) behind buffer
    exact ⟨filled, read, byte_holds bytes⟩

structure ReadFields (nbits : Nat) (fields : List Value) (before given : Given) : Prop where
  holds : ∀ value ∈ fields, Holds (given.buffers value.field) nbits value.content
  kept : ∀ field, field ∉ fields.map Value.field → given.buffers field = before.buffers field
  cmpflag : given.cmpflag = (before.cmpflag || decide (Field.tdo ∈ fields.map Value.field))

lemma readFields_none (bytes) : ∀ (words : List (List Char)) (given : Given),
    (∀ word ∈ words, fieldOf word = none) → readFields bytes words given = some given
  | [], _, _ => rfl
  | [word], given, none_ => by
      rw [readFields, none_ word mem_cons_self]
      rfl
  | word :: value :: rest, given, none_ => by
      have first := none_ word mem_cons_self
      have later := readFields_none bytes rest given fun other member =>
        none_ other (mem_cons_of_mem word (mem_cons_of_mem value member))
      rw [readFields, readField, first]
      exact later

lemma readFields_spelled (fields) (valid : ∀ value ∈ fields, value.Valid nbits)
    (once : (fields.map Value.field).Nodup) :
    ∀ (words : List (List Char)) (before : Given), Spells fields words →
      ∃ given, readFields (nbytes nbits) words before = some given ∧
        ReadFields nbits fields before given := by
  induction fields with
  | nil =>
    intro words before spells
    refine ⟨before, readFields_none _ words before spells, ?_, fun _ _ => rfl, ?_⟩
    · exact fun value impossible => absurd impossible not_mem_nil
    · exact (Bool.or_false _).symm
  | cons value rest ih =>
    rintro words before ⟨behind, others, rfl, spells⟩
    obtain ⟨fresh, others_once⟩ := nodup_cons.1 once
    obtain ⟨filled, read, content⟩ :=
      (valid value mem_cons_self).reads behind (before.buffers value.field)
    obtain ⟨given, later, all⟩ := ih
      (fun other member => valid other (mem_cons_of_mem _ member)) others_once others
      ⟨Function.update before.buffers value.field filled,
        before.cmpflag || decide (value.field = .tdo)⟩ spells
    refine ⟨given, ?_, ?_, ?_, ?_⟩
    · rw [readFields, readField, fieldOf_keyword]
      dsimp only
      rw [read]
      exact later
    · intro other member
      rcases mem_cons.1 member with rfl | inside
      · have here := all.kept other.field fresh
        dsimp only at here
        rw [here, Function.update_self]
        exact content
      · exact all.holds other inside
    · intro field outside
      rw [map_cons, mem_cons, not_or] at outside
      have here := all.kept field outside.2
      dsimp only at here
      rw [here, Function.update_of_ne outside.1]
    · rw [all.cmpflag]
      by_cases first : value.field = .tdo
      · simp [first]
      · simp [first, Ne.symm first]

end

variable {statement : Statement}

lemma Statement.given_iff {field} :
    statement.given field = true ↔ field ∈ statement.fields.map Value.field := by
  rw [Statement.given, any_eq_true, mem_map]
  exact exists_congr fun value => and_congr_right fun _ => decide_eq_true_iff

lemma Statement.given_value {field} (given : statement.given field = true) :
    ∃ value ∈ statement.fields, value.field = field ∧ statement.content field = value.content := by
  obtain ⟨value, found⟩ : ∃ value, (statement.fields.find? fun value => value.field = field) =
      some value := by
    apply Option.isSome_iff_exists.1
    rw [find?_isSome]
    exact any_eq_true.1 given
  have same : value.field = field := by
    have test := find?_some found
    exact of_decide_eq_true test
  exact ⟨value, mem_of_find?_eq_some found, same, by rw [Statement.content, found]; rfl⟩

lemma Statement.Valid.content_small (valid : statement.Valid) (field) :
    statement.content field < 2 ^ statement.nbits := by
  cases given : statement.given field with
  | true =>
    obtain ⟨value, member, -, content⟩ := Statement.given_value given
    rw [content]
    exact (valid.fields value member).small
  | false =>
    have none_ : (statement.fields.find? fun value => value.field = field) = none := by
      rw [find?_eq_none]
      intro value member same
      have found : statement.given field = true := any_eq_true.2 ⟨value, member, same⟩
      rw [given] at found
      cases found
    rw [Statement.content, none_]
    exact Nat.two_pow_pos _

structure Reads (statement : Statement) (given : Given) : Prop where
  holds : ∀ field, statement.given field = true →
    Holds (given.buffers field) statement.nbits (statement.content field)
  sends : Holds (given.buffers .tdi) statement.nbits (statement.content .tdi)
  cmpflag : given.cmpflag = statement.given .tdo

lemma readStatement_spelled (valid : statement.Valid) (keyword) {behind others}
    (spells : Spells statement.fields others)
    (marks : ∀ char ∈ behind, char = ';' ∨ char = '\r') (tdi loading) :
    ∃ given, readStatement (keyword :: (statement.number ++ behind) :: others) tdi loading =
      some (statement.nbits, given) ∧ Reads statement given := by
  have ended : ∀ char ∈ behind.head?, char.isDigit = false := by
    intro char first
    rcases marks char (mem_of_mem_head? first) with rfl | rfl <;> decide
  have number := scanNumber_append valid ended
  have fits : ¬maxBufSize < nbytes statement.nbits + 3 := by
    have limit := valid.limit
    rw [maxBufSize] at limit ⊢
    rw [nbytes]
    omega
  obtain ⟨given, read, all⟩ := readFields_spelled statement.fields valid.fields valid.once others
    (loading.given tdi) spells
  have holds (field : Field) (present : statement.given field = true) :
      Holds (given.buffers field) statement.nbits (statement.content field) := by
    obtain ⟨value, member, same, content⟩ := Statement.given_value present
    rw [content, ← same]
    exact all.holds value member
  refine ⟨given, ?_, holds, ?_, ?_⟩
  · rw [readStatement]
    simp only [getElem?_cons_succ, getElem?_cons_zero, Option.bind_some, number]
    rw [if_neg fits]
    exact congrArg (Option.map _) read
  · by_cases empty : statement.nbits = 0
    · rw [empty]
      exact fun i inside => absurd inside (Nat.not_lt_zero i)
    · exact holds .tdi (valid.tdi empty)
  · rw [all.cmpflag]
    exact Bool.eq_iff_iff.2 ((decide_eq_true_iff).trans Statement.given_iff.symm)

end EmuLib.Svf
