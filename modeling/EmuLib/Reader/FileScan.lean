import Mathlib.Data.List.GetD
import EmuLib.Reader.RawDataFile

/-!
Where `read` stops in any file, and what the event is that it has then copied.
-/

namespace EmuLib.Reader.RawDataFile

open List Option

section

variable (file : RawDataFile)

/-- The word two before a word that is left, the one that `word_0` holds when that one is read. -/
def trailerBefore (index : Nat) : Bool :=
  isTrailer ((file.word1 :: file.word2 :: file.left).getD index 0)

def headerAt (index : Nat) : Bool := isHeader (file.left.getD index 0)

def headerEnds (index : Nat) : Bool :=
  file.headerAt index && (decide (2 ≤ index) || index == 1 && file.headerAt 0)

def stopsAt (index : Nat) : Bool := file.headerEnds index || file.trailerBefore index

def headerStatus (count : Nat) : Nat :=
  if decide (0 < count) && file.headerAt 0 || decide (1 < count) && file.headerAt 1 then headerBit
  else 0

/-- The event of so many words: a word in front of a header that comes first is put there, and a
first word of zero in front of a header may be left out. -/
def Copied (count : Nat) (event : List UInt64) : Prop :=
  if 0 < count ∧ file.headerAt 0 = true then
    event = (if file.word2 = 0 then [] else [file.word2]) ++ file.left.take count
  else
    event = file.left.take count ∨
      1 < count ∧ file.headerAt 1 = true ∧ file.left.getD 0 0 = 0 ∧
        event = (file.left.take count).drop 1

/-- How `read` can end an event: after so many words and with so many counted, with the event
copied and its status. -/
inductive Stopped : Nat → Nat → List UInt64 → Nat → Prop
  | full {event} (going : ∀ index < maxDDUWords, file.stopsAt index = false)
      (enough : maxDDUWords ≤ file.left.length) (copied : file.Copied maxDDUWords event) :
      Stopped maxDDUWords maxDDUWords event (file.headerStatus maxDDUWords)
  | header {count event status} (going : ∀ index < count, file.stopsAt index = false)
      (short : count < maxDDUWords) (inside : count < file.left.length)
      (ends : file.headerEnds count = true) (copied : file.Copied count event)
      (known : status = file.headerStatus count ∨ file.headerStatus count = 0 ∧ status = ffffBit) :
      Stopped count count event status
  | trailer {count event} (going : ∀ index < count, file.stopsAt index = false)
      (short : count < maxDDUWords) (inside : count < file.left.length)
      (goesOn : file.headerEnds count = false) (ends : file.trailerBefore count = true)
      (copied : file.Copied (count + 1) event) :
      Stopped (count + 1) count event (file.headerStatus (count + 1) ||| trailerBit)
  | endOfStream {event} (going : ∀ index < file.left.length, file.stopsAt index = false)
      (short : file.left.length < maxDDUWords) (copied : file.Copied file.left.length event) :
      Stopped file.left.length file.left.length event
        (file.headerStatus file.left.length ||| endOfStreamBit)

end

/-! The scan, as long as it goes on. -/

def Scan.whole (scan : Scan) : List UInt64 :=
  scan.event ++ (if scan.preHeader = 0 then [] else [scan.preHeader]) ++ scan.pending

structure Scanned (file : RawDataFile) (count : Nat) (scan : Scan) : Prop where
  inside : count ≤ file.left.length
  short : count ≤ maxDDUWords
  counted : scan.dduWordCount = count
  word1 : scan.word1 = (file.word1 :: file.word2 :: file.left).getD count 0
  word2 : scan.word2 = (file.word1 :: file.word2 :: file.left).getD (count + 1) 0
  going : ∀ index < count, file.stopsAt index = false
  status : scan.eventStatus = file.headerStatus count
  copied : file.Copied count scan.whole
  apart : count ≤ 1 → file.headerStatus count = 0 →
    scan.preHeader = 0 ∧ (scan.event = [] ∨ scan.pending = [])

variable {file : RawDataFile} {count : Nat} {scan : Scan} {dduWord : UInt64}

lemma Scanned.start (file) : Scanned file 0 ⟨[], 0, [], file.word1, file.word2, 0, 0⟩ := by
  refine ⟨Nat.zero_le _, Nat.zero_le _, rfl, rfl, rfl, nofun, rfl, ?_, fun _ _ => ⟨rfl, .inl rfl⟩⟩
  simp [Copied, Scan.whole]

lemma copy_whole (scan) : (copy scan).whole = scan.whole := by
  simp [copy, Scan.whole]

lemma Scanned.copy (scanned : Scanned file count scan) : Scanned file count (copy scan) :=
  ⟨scanned.inside, scanned.short, scanned.counted, scanned.word1, scanned.word2, scanned.going,
    scanned.status, by rw [copy_whole]; exact scanned.copied, fun _ _ => ⟨rfl, .inr rfl⟩⟩

lemma take_getD_succ (list : List UInt64) (inside : count < list.length) :
    list.take (count + 1) = list.take count ++ [list.getD count 0] := by
  rw [take_succ_eq_append_getElem inside, getD_eq_getElem _ _ inside]

def Next (file : RawDataFile) (count : Nat) (dduWord : UInt64) : Prop :=
  count < file.left.length ∧ file.left.getD count 0 = dduWord

lemma Next.header (next : Next file count dduWord) : file.headerAt count = isHeader dduWord := by
  rw [headerAt, next.2]

section

variable (file : RawDataFile)

@[simp] lemma headerEnds_zero : file.headerEnds 0 = false := by simp [headerEnds]

@[simp] lemma headerEnds_one :
    file.headerEnds 1 = (file.headerAt 1 && file.headerAt 0) := by simp [headerEnds]

lemma headerEnds_many {count} (many : 1 < count) :
    file.headerEnds count = file.headerAt count := by
  rw [headerEnds, decide_eq_true (show 2 ≤ count from many), Bool.true_or, Bool.and_true]

@[simp] lemma headerStatus_zero : file.headerStatus 0 = 0 := by simp [headerStatus]

@[simp] lemma headerStatus_one :
    file.headerStatus 1 = if file.headerAt 0 then headerBit else 0 := by simp [headerStatus]

lemma headerStatus_many {count} (many : 1 < count) :
    file.headerStatus count = if file.headerAt 0 || file.headerAt 1 then headerBit else 0 := by
  rw [headerStatus, decide_eq_true many, decide_eq_true (Nat.lt_trans Nat.zero_lt_one many),
    Bool.true_and, Bool.true_and]

end

lemma few_or_many (count) : count = 0 ∨ count = 1 ∨ 1 < count := by omega

lemma Scanned.headerEnds (scanned : Scanned file count scan) (next : Next file count dduWord) :
    file.headerEnds count =
      (isHeader dduWord && scan.eventStatus &&& headerBit != 0 ||
        isHeader dduWord && decide (1 < scan.dduWordCount)) := by
  rw [scanned.status, scanned.counted, ← next.header]
  rcases few_or_many count with rfl | rfl | many
  · simp
  · simp only [headerEnds_one, headerStatus_one]
    cases file.headerAt 0 <;> cases file.headerAt 1 <;> decide
  · rw [headerEnds_many file many, decide_eq_true many]
    cases file.headerAt count
    · rfl
    · simp

lemma Scanned.trailer (scanned : Scanned file count scan) :
    file.trailerBefore count = isTrailer scan.word1 := by
  rw [trailerBefore, scanned.word1]

lemma headerStatus_succ (goesOn : file.headerEnds count = false) :
    file.headerStatus (count + 1) =
      if file.headerAt count then file.headerStatus count ||| headerBit
      else file.headerStatus count := by
  rcases few_or_many count with rfl | rfl | many
  · simp
  · rw [headerEnds_one] at goesOn
    rw [headerStatus_many file (by omega), headerStatus_one]
    cases first : file.headerAt 0 <;> cases second : file.headerAt 1
    · rfl
    · rfl
    · rfl
    · rw [first, second] at goesOn
      cases goesOn
  · rw [headerEnds_many file many] at goesOn
    rw [headerStatus_many file (by omega), headerStatus_many file many, goesOn]
    rfl

variable {event : List UInt64}

lemma copied_zero (copied : file.Copied 0 event) : event = [] := by
  rcases copied with none | ⟨many, _⟩
  · exact none
  · cases many

lemma copied_one (notFirst : file.headerAt 0 = false)
    (copied : file.Copied 1 event) : event = file.left.take 1 := by
  rw [Copied, if_neg fun both => absurd (notFirst.symm.trans both.2) Bool.false_ne_true] at copied
  rcases copied with whole | ⟨many, _⟩
  · exact whole
  · exact absurd many (Nat.lt_irrefl 1)

lemma Copied.append (copied : file.Copied count event) (next : Next file count dduWord)
    (plain : isHeader dduWord = false) : file.Copied (count + 1) (event ++ [dduWord]) := by
  have words := take_getD_succ file.left next.1
  rw [next.2] at words
  by_cases first : count = 0
  · subst first
    have notFirst : file.headerAt 0 = false := next.header.trans plain
    rw [copied_zero copied, Copied,
      if_neg fun both => absurd (notFirst.symm.trans both.2) Bool.false_ne_true, words]
    exact .inl rfl
  · have positive : 0 < count := by omega
    by_cases header : file.headerAt 0 = true
    · rw [Copied, if_pos ⟨positive, header⟩] at copied
      rw [Copied, if_pos ⟨Nat.succ_pos _, header⟩, words, copied, append_assoc]
    · rw [Copied, if_neg fun both => header both.2] at copied
      rw [Copied, if_neg fun both => header both.2, words]
      rcases copied with whole | ⟨many, second, zero, rest⟩
      · exact .inl (by rw [whole])
      · refine .inr ⟨by omega, second, zero, ?_⟩
        have long : 1 ≤ (file.left.take count).length := by
          rw [length_take]
          have inside := next.1
          omega
        rw [rest, drop_append_of_le_length long]

lemma Scanned.take_copied (scanned : Scanned file count scan) (next : Next file count dduWord)
    (goesOn : file.headerEnds count = false) :
    file.Copied (count + 1) (take scan dduWord).1.whole := by
  have words := take_getD_succ file.left next.1
  rw [next.2] at words
  have fields : (take scan dduWord).1.event = scan.event ∧
      (take scan dduWord).1.preHeader =
        (if isHeader dduWord = true ∧ scan.event = [] then scan.word2 else scan.preHeader) ∧
      (take scan dduWord).1.pending =
        if isHeader dduWord then [dduWord] else scan.pending ++ [dduWord] := by
    unfold take
    by_cases header : isHeader dduWord = true <;> by_cases none : scan.event = [] <;>
      cases isTrailer scan.word1 <;> simp [header, none]
  obtain ⟨event, preHeader, pending⟩ := fields
  cases header : isHeader dduWord with
  | false =>
    have whole : (take scan dduWord).1.whole = scan.whole ++ [dduWord] := by
      simp [Scan.whole, event, preHeader, pending, header]
    rw [whole]
    exact scanned.copied.append next header
  | true =>
    have here : file.headerAt count = true := next.header.trans header
    rcases few_or_many count with rfl | rfl | many
    · have none : scan.event = [] := by
        have whole := copied_zero scanned.copied
        simp only [Scan.whole, append_eq_nil_iff] at whole
        exact whole.1.1
      rw [scanned.word2] at preHeader
      rw [Copied, if_pos ⟨Nat.one_pos, here⟩, words, Scan.whole, event, preHeader, pending, header,
        none]
      rfl
    · rw [headerEnds_one, here, Bool.true_and] at goesOn
      have whole := copied_one goesOn scanned.copied
      have noStatus : file.headerStatus 1 = 0 := by rw [headerStatus_one, goesOn]; rfl
      obtain ⟨noPreHeader, apart⟩ := scanned.apart (Nat.le_refl 1) noStatus
      rw [Scan.whole, noPreHeader, if_pos rfl, append_nil] at whole
      rw [Copied, if_neg fun both => absurd (goesOn.symm.trans both.2) Bool.false_ne_true, words]
      have first : file.left.take 1 = [file.left.getD 0 0] :=
        take_getD_succ file.left (Nat.lt_trans Nat.one_pos next.1)
      rcases apart with none | none
      · have word2 : scan.word2 = file.left.getD 0 0 := scanned.word2
        rw [if_pos ⟨header, none⟩, word2] at preHeader
        rw [Scan.whole, event, preHeader, pending, header, none, first]
        by_cases zero : file.left.getD 0 0 = 0
        · rw [if_pos zero]
          exact .inr ⟨Nat.one_lt_two, here, zero, rfl⟩
        · rw [if_neg zero]
          exact .inl rfl
      · rw [none, append_nil] at whole
        have some_ : scan.event ≠ [] := by
          rw [whole, first]
          exact cons_ne_nil _ _
        rw [if_neg fun both => some_ both.2, noPreHeader] at preHeader
        rw [Scan.whole, event, preHeader, pending, header, whole]
        exact .inl (by simp)
    · rw [headerEnds_many file many, here] at goesOn
      cases goesOn

lemma Scanned.take (scanned : Scanned file count scan) (next : Next file count dduWord)
    (short : count < maxDDUWords) (goesOn : file.headerEnds count = false)
    (noTrailer : file.trailerBefore count = false) :
    (RawDataFile.take scan dduWord).2 = false ∧
      Scanned file (count + 1) (RawDataFile.take scan dduWord).1 := by
  have copied := scanned.take_copied next goesOn
  have status := headerStatus_succ goesOn
  have isTrailer := scanned.trailer.symm.trans noTrailer
  have fields : (RawDataFile.take scan dduWord).2 = false ∧
      (RawDataFile.take scan dduWord).1.dduWordCount = scan.dduWordCount + 1 ∧
      (RawDataFile.take scan dduWord).1.word1 = scan.word2 ∧
      (RawDataFile.take scan dduWord).1.word2 = dduWord ∧
      (RawDataFile.take scan dduWord).1.eventStatus =
        if isHeader dduWord then scan.eventStatus ||| headerBit else scan.eventStatus := by
    unfold RawDataFile.take
    rw [isTrailer]
    cases isHeader dduWord <;> exact ⟨rfl, rfl, rfl, rfl, rfl⟩
  obtain ⟨ends, counted, word1, word2, eventStatus⟩ := fields
  refine ⟨ends, ⟨next.1, short, by rw [counted, scanned.counted], word1.trans scanned.word2,
    word2.trans next.2.symm, ?_, ?_, copied, ?_⟩⟩
  · intro index before
    rcases Nat.lt_succ_iff_lt_or_eq.1 before with earlier | rfl
    · exact scanned.going index earlier
    · rw [stopsAt, goesOn, noTrailer]
      rfl
  · rw [eventStatus, status, ← next.header, scanned.status]
  · intro few none
    have zero : count = 0 := by omega
    subst zero
    have plain : isHeader dduWord = false := by
      rw [headerStatus_one, next.header] at none
      cases known : isHeader dduWord with
      | false => rfl
      | true =>
        rw [known] at none
        exact absurd none (by decide)
    have whole := copied_zero scanned.copied
    obtain ⟨noPreHeader, _⟩ := scanned.apart (Nat.zero_le 1) (headerStatus_zero file)
    simp only [Scan.whole, append_eq_nil_iff] at whole
    have pre : (RawDataFile.take scan dduWord).1.preHeader = scan.preHeader ∧
        (RawDataFile.take scan dduWord).1.event = scan.event := by
      unfold RawDataFile.take
      rw [isTrailer, plain]
      exact ⟨rfl, rfl⟩
    exact ⟨pre.1.trans noPreHeader, .inl (pre.2.trans whole.1.1)⟩

lemma Scanned.take_last (scanned : Scanned file count scan) (next : Next file count dduWord)
    (short : count < maxDDUWords) (goesOn : file.headerEnds count = false)
    (trailer : file.trailerBefore count = true) :
    (RawDataFile.take scan dduWord).2 = true ∧
      Stopped file (count + 1) (RawDataFile.take scan dduWord).1.dduWordCount
        (RawDataFile.take scan dduWord).1.whole (RawDataFile.take scan dduWord).1.eventStatus := by
  have copied := scanned.take_copied next goesOn
  have isTrailer := scanned.trailer.symm.trans trailer
  have fields : (RawDataFile.take scan dduWord).2 = true ∧
      (RawDataFile.take scan dduWord).1.dduWordCount = scan.dduWordCount ∧
      (RawDataFile.take scan dduWord).1.eventStatus =
        (if isHeader dduWord then scan.eventStatus ||| headerBit else scan.eventStatus) |||
          trailerBit := by
    unfold RawDataFile.take
    rw [isTrailer]
    cases isHeader dduWord <;> exact ⟨rfl, rfl, rfl⟩
  refine ⟨fields.1, ?_⟩
  rw [fields.2.1, scanned.counted, fields.2.2, scanned.status, ← next.header, ← headerStatus_succ goesOn]
  exact .trailer scanned.going short next.1 goesOn trailer copied

lemma next_of_drop {words} (left : file.left.drop count = dduWord :: words) :
    Next file count dduWord := by
  have inside : count < file.left.length := by
    by_contra beyond
    rw [drop_eq_nil_of_le (Nat.not_lt.1 beyond)] at left
    cases left
  refine ⟨inside, ?_⟩
  rw [drop_eq_getElem_cons inside] at left
  rw [getD_eq_getElem _ _ inside]
  exact (List.cons.inj left).1

lemma drop_succ_of_drop {words} (left : file.left.drop count = dduWord :: words) :
    file.left.drop (count + 1) = words := by
  rw [← tail_drop, left]
  rfl

lemma Scanned.scanBlock {block later} (scanned : Scanned file count scan)
    (left : file.left.drop count = block ++ later) :
    ((RawDataFile.scanBlock block scan).2 = none ∧
      Scanned file (count + block.length) (RawDataFile.scanBlock block scan).1) ∨
    (RawDataFile.scanBlock block scan).2 ≠ none ∧
      ∃ words, Stopped file words (RawDataFile.scanBlock block scan).1.dduWordCount
        (RawDataFile.scanBlock block scan).1.whole
        (RawDataFile.scanBlock block scan).1.eventStatus := by
  induction block generalizing count scan with
  | nil => exact .inl ⟨rfl, scanned⟩
  | cons dduWord rest ih =>
    have next := next_of_drop left
    by_cases short : count < maxDDUWords
    · have short' : scan.dduWordCount < maxDDUWords := by rw [scanned.counted]; exact short
      have ends := scanned.headerEnds next
      rw [RawDataFile.scanBlock, if_pos short']
      by_cases second : (isHeader dduWord && scan.eventStatus &&& headerBit != 0) = true
      · rw [if_pos second]
        rw [second] at ends
        refine .inr ⟨some_ne_none _, count, ?_⟩
        have stopped := Stopped.header scanned.going short next.1 ends scanned.copied
          (.inl scanned.status)
        exact scanned.counted.symm ▸ stopped
      · rw [if_neg second]
        rw [Bool.eq_false_iff.2 second] at ends
        by_cases extra : (isHeader dduWord && decide (1 < scan.dduWordCount)) = true
        · rw [if_pos extra]
          rw [extra] at ends
          have noStatus : file.headerStatus count = 0 := by
            rw [Bool.and_eq_true] at extra
            rw [extra.1, scanned.status] at second
            unfold headerStatus at second ⊢
            split
            · rename_i header
              rw [if_pos header] at second
              exact absurd rfl second
            · rfl
          refine .inr ⟨some_ne_none _, count, ?_⟩
          have known : (if isFFFF scan.word1 then scan.eventStatus ||| ffffBit
                else scan.eventStatus) = file.headerStatus count ∨
              file.headerStatus count = 0 ∧ (if isFFFF scan.word1 then
                scan.eventStatus ||| ffffBit else scan.eventStatus) = ffffBit := by
            rw [scanned.status, noStatus]
            cases isFFFF scan.word1 with
            | false => exact .inl rfl
            | true => exact .inr ⟨rfl, rfl⟩
          have stopped := Stopped.header scanned.going short next.1 ends scanned.copied known
          exact scanned.counted.symm ▸ stopped
        · rw [if_neg extra]
          rw [Bool.eq_false_iff.2 extra] at ends
          cases trailer : file.trailerBefore count with
          | true =>
            obtain ⟨ends, stopped⟩ := scanned.take_last next short ends trailer
            simp only [ends, if_true]
            exact .inr ⟨some_ne_none _, count + 1, stopped⟩
          | false =>
            obtain ⟨goesOn, scanned⟩ := scanned.take next short ends trailer
            simp only [goesOn, Bool.false_eq_true, if_false]
            have length : count + (dduWord :: rest).length = count + 1 + rest.length := by
              rw [length_cons]
              omega
            rw [length]
            exact ih scanned (drop_succ_of_drop left)
    · have full : count = maxDDUWords := Nat.le_antisymm scanned.short (Nat.not_lt.1 short)
      have full' : ¬ scan.dduWordCount < maxDDUWords := by rw [scanned.counted]; exact short
      rw [RawDataFile.scanBlock, if_neg full']
      subst full
      refine .inr ⟨some_ne_none _, maxDDUWords, ?_⟩
      have counted : scan.dduWordCount = maxDDUWords := scanned.counted
      rw [scanned.status, counted]
      exact .full scanned.going scanned.inside scanned.copied

variable {blocks : List (List UInt64)} {unscanned : List UInt64}

lemma scanBlocks_stopped {words} (found : (scanBlock unscanned scan).2 ≠ none)
    (stopped : Stopped file words (scanBlock unscanned scan).1.dduWordCount
      (scanBlock unscanned scan).1.whole (scanBlock unscanned scan).1.eventStatus) :
    Stopped file words (scanBlocks blocks unscanned scan).1.dduWordCount
      (scanBlocks blocks unscanned scan).1.event
      (scanBlocks blocks unscanned scan).1.eventStatus := by
  cases ended : (scanBlock unscanned scan).2 with
  | none => exact absurd ended found
  | some rest =>
    rw [scanBlocks_found ended]
    exact stopped

lemma Scanned.full (scanned : Scanned file count (RawDataFile.copy scan))
    (full : (RawDataFile.copy scan).dduWordCount = maxDDUWords) :
    Stopped file maxDDUWords (RawDataFile.copy scan).dduWordCount (RawDataFile.copy scan).event
      (RawDataFile.copy scan).eventStatus := by
  have same : count = maxDDUWords := scanned.counted.symm.trans full
  subst same
  have copied := scanned.copied
  rw [copy_whole] at copied
  rw [scanned.status, full]
  exact .full scanned.going scanned.inside copied

lemma Scanned.scanBlocks (scanned : Scanned file count scan)
    (left : file.left.drop count = unscanned ++ blocks.flatten) :
    ∃ words, Stopped file words (RawDataFile.scanBlocks blocks unscanned scan).1.dduWordCount
      (RawDataFile.scanBlocks blocks unscanned scan).1.event
      (RawDataFile.scanBlocks blocks unscanned scan).1.eventStatus := by
  induction blocks generalizing count unscanned scan with
  | nil =>
    rcases scanned.scanBlock left with ⟨none, after⟩ | ⟨found, words, stopped⟩
    · have copied := after.copy
      by_cases full :
          (RawDataFile.copy (RawDataFile.scanBlock unscanned scan).1).dduWordCount = maxDDUWords
      · rw [scanBlocks_full none full]
        exact ⟨maxDDUWords, copied.full full⟩
      · rw [scanBlocks_ended none full]
        rw [flatten_nil, append_nil] at left
        have all : count + unscanned.length = file.left.length := by
          rw [← left, length_drop]
          have inside := scanned.inside
          omega
        rw [all] at copied
        have short : file.left.length < maxDDUWords :=
          Nat.lt_of_le_of_ne copied.short fun same => full (copied.counted.trans same)
        refine ⟨file.left.length, ?_⟩
        have whole := copied.copied
        rw [copy_whole] at whole
        rw [copied.status, copied.counted]
        exact .endOfStream copied.going short whole
    · exact ⟨words, scanBlocks_stopped found stopped⟩
  | cons block blocks ih =>
    rcases scanned.scanBlock left with ⟨none, after⟩ | ⟨found, words, stopped⟩
    · have copied := after.copy
      by_cases full :
          (RawDataFile.copy (RawDataFile.scanBlock unscanned scan).1).dduWordCount = maxDDUWords
      · rw [scanBlocks_full none full]
        exact ⟨maxDDUWords, copied.full full⟩
      · rw [scanBlocks_next none full]
        refine ih copied ?_
        rw [← drop_drop, left, drop_left, flatten_cons]
    · exact ⟨words, scanBlocks_stopped found stopped⟩

def wordsCounted (file : RawDataFile) : Nat :=
  (RawDataFile.scanBlocks file.blocks file.unscanned
    ⟨[], 0, [], file.word1, file.word2, 0, 0⟩).1.dduWordCount

lemma read_stopped (file) :
    ∃ words status, Stopped file words file.wordsCounted (read file).2.buf status ∧
      (read file).1.eventStatus = if isUnknown status then status ||| unknownBit else status := by
  obtain ⟨words, stopped⟩ := (Scanned.start file).scanBlocks rfl
  exact ⟨words, _, stopped, rfl⟩

end EmuLib.Reader.RawDataFile
