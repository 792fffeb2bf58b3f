import EmuLib.Svf.Layout

/-!
SVF files as lists of lines and statements, and what the players make of their lines.
-/

namespace EmuLib.Svf

open Lines TextStream TapController VmeController List

inductive LineEnd
  | none
  | newline
  | carriage

def LineEnd.chars : LineEnd → List Char
  | none => []
  | newline => ['\n']
  | carriage => ['\r', '\n']

/-- The statements for the two scans may be broken into several lines. -/
inductive Item
  | other (line : List Char)
  | part (kind : Part) (statement : Statement) (lineEnd : LineEnd)
  | scan (register : Register) (statement : Statement) (broken : List (List Char × LineEnd))
      (last : List Char) (lineEnd : LineEnd)

def brokenLine (piece : List Char × LineEnd) : List Char := piece.1 ++ piece.2.chars

def Item.lines : Item → List (List Char)
  | other line => [line]
  | part kind statement lineEnd => [statement.text kind.keyword ++ lineEnd.chars]
  | scan _ _ broken last lineEnd => broken.map brokenLine ++ [last ++ lineEnd.chars]

def commands : List (List Char) :=
  Part.all.map Part.keyword ++ [scanKeyword .data, scanKeyword .instruction,
    ['R', 'E', 'A', 'D'], ['S', 'W', 'R'], ['S', 'B', 'R'], ['S', 'E', 'R'], ['S', 'S', 'T']]

def firstWord (line : List Char) : List Char :=
  (parse (if ';' ∈ line then line else strip line)).headD []

/-- The first line has the number of bits, and only the last one the semicolon; all of them fit
the buffer. -/
structure Broken (bufSize : Nat) (register : Register) (statement : Statement)
    (broken : List (List Char × LineEnd)) (last : List Char) (lineEnd : LineEnd) : Prop where
  valid : statement.Valid
  joined : broken.flatMap Prod.fst ++ last = statement.text (scanKeyword register)
  first : ∀ piece ∈ broken.head?, statement.head (scanKeyword register) <+: piece.1
  goes_on : ∀ piece ∈ broken, ';' ∉ piece.1
  fits : (Item.scan register statement broken last lineEnd).lines.flatten.length < bufSize

def Item.Valid (bufSize : Nat) : Item → Prop
  | other line => isRemark line = true ∨ firstWord line ∉ commands
  | part _ statement _ => statement.Valid
  | scan register statement broken last lineEnd =>
    Broken bufSize register statement broken last lineEnd

def Plain (text : List Char) : Prop := ∀ char ∈ text, char ≠ '\r' ∧ char ≠ '\n'

instance (text : List Char) : Decidable (Plain text) := List.decidableBAll _ text

lemma plain_append {first second} : Plain (first ++ second) ↔ Plain first ∧ Plain second := by
  simp only [Plain, mem_append]
  exact ⟨fun all => ⟨fun char inside => all char (Or.inl inside), fun char inside =>
    all char (Or.inr inside)⟩, fun both char either => either.elim (both.1 char) (both.2 char)⟩

lemma plain_gap {gap} (blanks : Gap gap) : Plain gap := by
  intro char member
  rcases blanks char member with rfl | rfl <;> decide

lemma plain_keywords : (∀ part : Part, Plain part.keyword) ∧
    (∀ field : Field, Plain field.keyword) ∧
    ∀ register : Register, Plain (scanKeyword register) := by
  refine ⟨fun part => ?_, fun field => ?_, fun register => ?_⟩
  · cases part <;> decide
  · cases field <;> decide
  · cases register <;> decide

lemma plain_digits {digits} (all : ∀ char ∈ digits, char.isDigit = true) : Plain digits := by
  intro char member
  have digit := all char member
  constructor <;> rintro rfl <;> cases digit

lemma plain_hex {chars} (all : ∀ char ∈ chars, (digitValue char).isSome) : Plain chars := by
  intro char member
  have digit := all char member
  constructor <;> rintro rfl <;> cases digit

lemma plain_value {nbits} {value : Value} (valid : value.Valid nbits) : Plain value.text := by
  have brackets : Plain (value.word []) := by
    have opening : Plain ['('] := by decide
    have closing : Plain [')'] := by decide
    have all := plain_append.2 ⟨opening, plain_append.2 ⟨plain_hex valid.digits, closing⟩⟩
    exact all
  rw [Value.text, plain_append, plain_append, plain_append]
  exact ⟨plain_gap valid.keyGap.1, plain_keywords.2.1 value.field, plain_gap valid.valueGap.1,
    brackets⟩

variable {statement : Statement}

lemma plain_text (valid : statement.Valid) {keyword}
    (plain : Plain keyword) : Plain (statement.text keyword) := by
  have fields : Plain (statement.fields.flatMap Value.text) := by
    intro char member
    obtain ⟨value, found, inside⟩ := mem_flatMap.1 member
    exact plain_value (valid.fields value found) char inside
  have closing : Plain statement.closing := by
    intro char member
    rcases valid.closing char member with rfl | rfl | rfl <;> decide
  rw [Statement.text, Statement.head, Statement.rest, plain_append, plain_append, plain_append,
    plain_append, plain_append]
  exact ⟨⟨plain_gap valid.lead, plain, plain_gap valid.numberGap.1, plain_digits valid.number⟩,
    fields, closing⟩

variable {text : List Char}

lemma strip_line (plain : Plain text) (lineEnd : LineEnd) :
    strip (text ++ lineEnd.chars) = text := by
  have no_return : '\r' ∉ text := fun member => (plain _ member).1 rfl
  have no_newline : '\n' ∉ text := fun member => (plain _ member).2 rfl
  rw [strip]
  cases lineEnd with
  | none =>
    rw [LineEnd.chars, append_nil, cutLast_none no_return, cutLast_none no_newline]
  | newline =>
    have none_ : '\r' ∉ text ++ ['\n'] := by simp [no_return]
    rw [LineEnd.chars, cutLast_none none_, cutLast_append text not_mem_nil]
  | carriage =>
    rw [LineEnd.chars, cutLast_append text (by decide), cutLast_none no_newline]

lemma strip_plain (plain : Plain text) : strip text = text := by
  have stripped := strip_line plain .none
  rwa [LineEnd.chars, append_nil] at stripped

lemma closes_end (lineEnd : LineEnd) : Closes lineEnd.chars := by
  unfold Closes
  cases lineEnd <;> simp [LineEnd.chars]

lemma semicolon_end (lineEnd : LineEnd) : ';' ∉ lineEnd.chars := by
  cases lineEnd <;> decide

lemma remark_head {char rest} (slash : char ≠ '/') (mark : char ≠ '!') :
    isRemark (char :: rest) = false := by
  simp [isRemark, slash, mark]

lemma statement_remark (valid : statement.Valid) {letter letters} (slash : letter ≠ '/')
    (mark : letter ≠ '!') (text) :
    isRemark (statement.head (letter :: letters) ++ text) = false := by
  have blanks := valid.lead
  rw [Statement.head]
  cases lead : statement.lead with
  | nil => exact remark_head slash mark
  | cons char others =>
    rw [lead] at blanks
    apply remark_head
    · rcases blanks char mem_cons_self with rfl | rfl <;> decide
    · rcases blanks char mem_cons_self with rfl | rfl <;> decide

lemma rest_digit (valid : statement.Valid) :
    ∀ char ∈ statement.rest.head?, char.isDigit = false := by
  intro char first
  rw [Statement.rest] at first
  cases fields : statement.fields with
  | nil =>
    rw [fields] at first
    rcases valid.closing char (mem_of_mem_head? first) with rfl | rfl | rfl <;> decide
  | cons value others =>
    have one := (valid.fields value (fields ▸ mem_cons_self)).keyGap
    rw [fields, flatMap_cons, Value.text] at first
    obtain ⟨blank, more, gap⟩ := exists_cons_of_ne_nil one.2
    rw [gap] at first one
    obtain rfl := Option.some.inj first
    rcases one.1 blank mem_cons_self with rfl | rfl <;> decide

lemma semicolon_text (valid : statement.Valid) (keyword) : ';' ∈ statement.text keyword := by
  exact mem_append_right _ (mem_append_right _ valid.closed)

variable (player : Player) (chain : Chain)

lemma turn_other {line} (valid : isRemark line = true ∨ firstWord line ∉ commands)
    (loading) : turn player chain (none, loading) line = some (none, loading) := by
  rw [turn]
  by_cases remark : isRemark line = true
  · exact if_pos remark
  · have unknown := valid.resolve_left remark
    have nothing (words : List (List Char)) (word : words.headD [] ∉ commands) :
        handleStatement player chain words loading = some loading := by
      have parts : (Part.all.find? fun part => part.keyword = words.headD []) = none := by
        rw [find?_eq_none]
        intro part member same
        refine word (mem_append_left _ (mem_map.2 ⟨part, member, ?_⟩))
        exact of_decide_eq_true same
      have data : words.headD [] ≠ scanKeyword .data := fun same => word (same ▸ by decide)
      have instruction : words.headD [] ≠ scanKeyword .instruction := fun same =>
        word (same ▸ by decide)
      have own : words.headD [] ∉ player.own := by
        intro member
        refine word (mem_append_right _ ?_)
        cases player with
        | svfLoad verify => exact mem_cons_of_mem _ (mem_cons_of_mem _ member)
        | SVFLoad => exact absurd member not_mem_nil
      rw [handleStatement, parts]
      rw [if_neg data, if_neg instruction, if_neg own]
    rw [if_neg remark]
    rw [firstWord] at unknown
    by_cases semicolon : ';' ∈ line
    · rw [if_pos semicolon] at unknown ⊢
      rw [nothing _ unknown]
      rfl
    · rw [if_neg semicolon] at unknown ⊢
      have joined : (parse (strip line)).headD [] ∉ player.joined := by
        intro member
        refine unknown ?_
        cases player with
        | svfLoad verify =>
          have inside : ∀ word ∈ (Player.svfLoad 0).joined, word ∈ commands := by decide
          exact inside _ member
        | SVFLoad =>
          have inside : ∀ word ∈ Player.SVFLoad.joined, word ∈ commands := by decide
          exact inside _ member
      rw [if_neg joined, nothing _ unknown]
      rfl

lemma handleStatement_part (part words loading) :
    handleStatement player chain (part.keyword :: words) loading =
      handlePart part (part.keyword :: words) loading := by
  cases part <;> rfl

lemma handleStatement_scan (register words loading) :
    handleStatement player chain (scanKeyword register :: words) loading =
      handleScan player chain register (scanKeyword register :: words) loading := by
  cases register <;> rfl

lemma turn_part (valid : statement.Valid) (part) (lineEnd : LineEnd) (loading) :
    ∃ given final, Reads statement given ∧
      turn player chain (none, loading) (statement.text part.keyword ++ lineEnd.chars) =
        some (none, final) ∧
      final.parts = Function.update loading.parts part ⟨statement.nbits, given.buffers .tdi⟩ ∧
      final.sent = loading.sent ∧ final.errcntr = loading.errcntr ∧ final.rcv = loading.rcv := by
  obtain ⟨behind, others, parsed, spells, marks⟩ :=
    parse_statement (solid_keywords.1 part) valid (closes_end lineEnd)
  obtain ⟨given, read, reads⟩ := readStatement_spelled valid part.keyword spells marks
    (loading.parts part).snd loading
  have no_remark : isRemark (statement.text part.keyword ++ lineEnd.chars) = false := by
    rw [Statement.text, append_assoc]
    cases part <;> exact statement_remark valid (by decide) (by decide) _
  have semicolon : ';' ∈ statement.text part.keyword ++ lineEnd.chars :=
    mem_append_left _ (semicolon_text valid part.keyword)
  have turned : turn player chain (none, loading) (statement.text part.keyword ++ lineEnd.chars) =
      some (none,
        { loading with
          parts := Function.update loading.parts part ⟨statement.nbits, given.buffers .tdi⟩
          expect := given.buffers .tdo
          rmask := given.buffers .mask }) := by
    rw [turn]
    rw [no_remark, if_pos semicolon, parsed, handleStatement_part, handlePart, read]
    rfl
  exact ⟨given, _, reads, turned, rfl, rfl, rfl, rfl⟩

lemma joins {last} (plain : Plain text) (lineEnd : LineEnd) (loading) (semicolon : ';' ∈ last)
    (broken : List (List Char × LineEnd)) (goes_on : ∀ piece ∈ broken, ';' ∉ piece.1) :
    ∀ (before buf : List Char), strip buf = before → ';' ∉ before →
      before ++ (broken.flatMap Prod.fst ++ last) = text →
      before.length + (broken.map brokenLine ++ [last ++ lineEnd.chars]).flatten.length <
        player.bufSize →
      (broken.map brokenLine ++ [last ++ lineEnd.chars]).foldlM (turn player chain)
          (some buf, loading) =
        (handleStatement player chain (parse (text ++ lineEnd.chars)) loading).map (none, ·) := by
  induction broken with
  | nil =>
    intro before buf stripped _ joined fits
    have whole : before ++ (last ++ lineEnd.chars) = text ++ lineEnd.chars := by
      rw [← joined, flatMap_nil, nil_append, append_assoc]
    have room : ¬player.bufSize ≤ (text ++ lineEnd.chars).length := by
      rw [← whole]
      simpa using fits
    have ended : ';' ∈ text ++ lineEnd.chars := by
      rw [← whole]
      exact mem_append_right _ (mem_append_left _ semicolon)
    rw [map_nil, nil_append, foldlM_cons, turn]
    dsimp only
    rw [stripped, whole, if_neg room, if_pos ended]
    cases handleStatement player chain (parse (text ++ lineEnd.chars)) loading <;> rfl
  | cons piece rest ih =>
    intro before buf stripped clean joined fits
    have first := goes_on piece mem_cons_self
    have parts : before ++ piece.1 ++ (rest.flatMap Prod.fst ++ last) = text := by
      rw [← joined, flatMap_cons, append_assoc, append_assoc]
    have front : Plain (before ++ piece.1) := by
      rw [← parts] at plain
      exact (plain_append.1 plain).1
    have more : before.length + (piece.1.length + piece.2.chars.length) +
        (rest.map brokenLine ++ [last ++ lineEnd.chars]).flatten.length < player.bufSize := by
      rw [map_cons, cons_append, flatten_cons, length_append, brokenLine, length_append] at fits
      omega
    have room : ¬player.bufSize ≤ (before ++ brokenLine piece).length := by
      rw [brokenLine, length_append, length_append]
      omega
    have waits : ';' ∉ before ++ brokenLine piece := by
      rw [brokenLine, mem_append, mem_append, not_or, not_or]
      exact ⟨clean, first, semicolon_end piece.2⟩
    have clean_front : ';' ∉ before ++ piece.1 := by
      rw [mem_append, not_or]
      exact ⟨clean, first⟩
    have later := ih (fun other member => goes_on other (mem_cons_of_mem piece member))
      (before ++ piece.1) (before ++ brokenLine piece)
      (by rw [brokenLine, ← append_assoc, strip_line front]) clean_front parts
      (by rw [length_append]; omega)
    rw [map_cons, cons_append, foldlM_cons, turn]
    dsimp only
    rw [stripped, if_neg room, if_neg waits]
    exact later

lemma head_words (valid : statement.Valid) (register)
    (ended : ∀ char ∈ text.head?, char.isDigit = false) :
    (parse (statement.head (scanKeyword register) ++ text)).headD [] = scanKeyword register ∧
      ((parse (statement.head (scanKeyword register) ++ text))[1]?.bind scanNumber) =
        some statement.nbits := by
  rw [head_parse (solid_keywords.2.2 register) valid, parse_append (number_solid valid)]
  refine ⟨rfl, ?_⟩
  have stops : ∀ char ∈ (text.takeWhile fun char => !isBlank char).head?, char.isDigit = false := by
    cases text with
    | nil => exact ended
    | cons char others =>
      intro found member
      by_cases blank : isBlank char = true
      · rw [takeWhile_cons_of_neg (by rw [blank]; exact Bool.false_ne_true)] at member
        cases member
      · rw [takeWhile_cons_of_pos (by simpa using blank)] at member
        exact ended found member
  exact scanNumber_append valid stops

lemma turn_scan {register broken last lineEnd}
    (layout : Broken player.bufSize register statement broken last lineEnd) (loading) :
    ∃ given, Reads statement given ∧
      (Item.scan register statement broken last lineEnd).lines.foldlM (turn player chain)
          (none, loading) =
        (performScan player chain register statement.nbits given loading).map (none, ·) := by
  have valid := layout.valid
  have plain := plain_text valid (plain_keywords.2.2 register)
  obtain ⟨behind, others, parsed, spells, marks⟩ :=
    parse_statement (solid_keywords.2.2 register) valid (closes_end lineEnd)
  obtain ⟨given, read, reads⟩ := readStatement_spelled valid (scanKeyword register)
    spells marks (fun _ => 0) loading
  refine ⟨given, reads, ?_⟩
  have handled : handleStatement player chain
      (parse (statement.text (scanKeyword register) ++ lineEnd.chars)) loading =
        performScan player chain register statement.nbits given loading := by
    rw [parsed, handleStatement_scan, handleScan, read]
    rfl
  rw [← handled]
  have no_remark (text : List Char) :
      isRemark (statement.head (scanKeyword register) ++ text) = false := by
    cases register <;> exact statement_remark valid (by decide) (by decide) _
  have joined := layout.joined
  have fits := layout.fits
  rw [Item.lines] at fits ⊢
  cases broken with
  | nil =>
    rw [flatMap_nil, nil_append] at joined
    have semicolon : ';' ∈ statement.text (scanKeyword register) ++ lineEnd.chars :=
      mem_append_left _ (semicolon_text valid _)
    have line : isRemark (statement.text (scanKeyword register) ++ lineEnd.chars) = false := by
      rw [Statement.text, append_assoc]
      exact no_remark _
    rw [joined, map_nil, nil_append, foldlM_cons, turn]
    rw [line, if_pos semicolon]
    cases handleStatement player chain
      (parse (statement.text (scanKeyword register) ++ lineEnd.chars)) loading <;> rfl
  | cons piece rest =>
    have first := layout.goes_on piece mem_cons_self
    obtain ⟨text, start⟩ := layout.first piece rfl
    have parts : piece.1 ++ (rest.flatMap Prod.fst ++ last) =
        statement.text (scanKeyword register) := by
      rw [← joined, flatMap_cons, append_assoc]
    have front : Plain piece.1 := by
      rw [← parts] at plain
      exact (plain_append.1 plain).1
    have ended : ∀ char ∈ text.head?, char.isDigit = false := by
      intro char member
      have behind_ : text ++ (rest.flatMap Prod.fst ++ last) = statement.rest := by
        have all := parts
        rw [← start, append_assoc] at all
        exact append_cancel_left all
      refine rest_digit valid char ?_
      obtain ⟨more, rfl⟩ := List.head?_eq_some_iff.1 member
      rw [← behind_]
      rfl
    have words := head_words valid register ended
    rw [start] at words
    have few : ¬maxBufSize < statement.nbits := Nat.not_lt.2 valid.limit
    have waits : ';' ∉ brokenLine piece := by
      rw [brokenLine, mem_append, not_or]
      exact ⟨first, semicolon_end piece.2⟩
    have semicolon : ';' ∈ last := by
      have inside := semicolon_text valid (scanKeyword register)
      rw [← joined, mem_append] at inside
      refine inside.resolve_left fun member => ?_
      obtain ⟨other, found, place⟩ := mem_flatMap.1 member
      exact layout.goes_on other found place
    have begins : (scanKeyword register) ∈ player.joined := by
      cases register <;> cases player <;> simp [Player.joined, scanKeyword]
    have line : isRemark (brokenLine piece) = false := by
      rw [brokenLine, ← start, append_assoc]
      exact no_remark _
    have room : piece.1.length + (rest.map brokenLine ++ [last ++ lineEnd.chars]).flatten.length <
        player.bufSize := by
      rw [map_cons, cons_append, flatten_cons, length_append, brokenLine, length_append] at fits
      omega
    have later := joins player chain plain lineEnd loading semicolon rest
      (fun other member => layout.goes_on other (mem_cons_of_mem piece member)) piece.1
      piece.1 (strip_plain front) first parts room
    rw [map_cons, cons_append, foldlM_cons, turn]
    dsimp only
    rw [line, if_neg waits, brokenLine, strip_line front, words.1,
      if_pos begins, words.2, Option.bind_some, if_neg few]
    exact later

end EmuLib.Svf
