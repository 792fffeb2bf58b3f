import Mathlib.Data.List.Basic

/-!
Reading DDU events from a raw data file.  The file is read in blocks of 64-bit words, and
the reader keeps the words of the current block that it has not yet scanned.
-/

namespace EmuLib.Reader

open List

namespace RawDataFile

def headerBit : Nat := 1
def trailerBit : Nat := 2
def dduOversizeBit : Nat := 4
def ffffBit : Nat := 8
def unknownBit : Nat := 16
def endOfStreamBit : Nat := 32

def maxDDUWords : Nat := 50000

def fileBufferWords : Nat := 4000

def isHeader (word : UInt64) : Bool := word &&& 0xffffffffffff0000 == 0x8000000180000000

def isTrailer (word : UInt64) : Bool := word &&& 0xffffffffffff0000 == 0x8000ffff80000000

def isFFFF (word : UInt64) : Bool := word &&& 0xffffffffffff0000 == 0xffffffffffff0000

end RawDataFile

/-- `unscanned` is what the file buffer holds from `end` on, and `blocks` are the words that
each of the following calls of `::read` will deliver. -/
structure RawDataFile where
  blocks : List (List UInt64)
  unscanned : List UInt64
  word1 : UInt64
  word2 : UInt64
  eventStatus : Nat
  selectCriteria : Nat
  rejectCriteria : Nat
  acceptCriteria : Nat

namespace RawDataFile

def opened (blocks : List (List UInt64)) : RawDataFile :=
  ⟨blocks, [], 0, 0, 0, headerBit ||| trailerBit, dduOversizeBit ||| ffffBit ||| unknownBit, 0x3f⟩

/-- The local state of `read`: `event` has been copied to `raw_event`, and `pending` are the
words from `start` on that have been scanned and not yet been copied. -/
structure Scan where
  event : List UInt64
  preHeader : UInt64
  pending : List UInt64
  word1 : UInt64
  word2 : UInt64
  eventStatus : Nat
  dduWordCount : Nat

/-- A word that is neither a second header nor one after extra words is taken into the event;
whether the event ends with it depends on the word before the last one. -/
def take (scan : Scan) (dduWord : UInt64) : Scan × Bool :=
  let taken :=
    if isHeader dduWord then
      { scan with
        preHeader := if scan.event = [] then scan.word2 else scan.preHeader
        pending := [dduWord]
        word1 := scan.word2
        word2 := dduWord
        eventStatus := scan.eventStatus ||| headerBit }
    else
      { scan with pending := scan.pending ++ [dduWord], word1 := scan.word2, word2 := dduWord }
  if isTrailer scan.word1 then
    ({ taken with eventStatus := taken.eventStatus ||| trailerBit }, true)
  else ({ taken with dduWordCount := taken.dduWordCount + 1 }, false)

/-- The header of the next event ends the event before it; the last word is forgotten so that
the word before the header is found again. -/
def fallBack (scan : Scan) : Scan :=
  { scan with word1 := scan.word2, word2 := scan.word2 }

/-- The inner loop of `read`.  It yields the words after `end` if it has found an end. -/
def scanBlock : List UInt64 → Scan → Scan × Option (List UInt64)
  | [], scan => (scan, none)
  | dduWord :: rest, scan =>
    if scan.dduWordCount < maxDDUWords then
      if isHeader dduWord && scan.eventStatus &&& headerBit != 0 then
        (fallBack scan, some (dduWord :: rest))
      else if isHeader dduWord && decide (1 < scan.dduWordCount) then
        (fallBack { scan with
          eventStatus :=
            if isFFFF scan.word1 then scan.eventStatus ||| ffffBit else scan.eventStatus },
          some (dduWord :: rest))
      else
        let taken := take scan dduWord
        if taken.2 then (taken.1, some rest) else scanBlock rest taken.1
    else (scan, some (dduWord :: rest))

def copy (scan : Scan) : Scan :=
  { scan with
    event := scan.event ++ (if scan.preHeader = 0 then [] else [scan.preHeader]) ++ scan.pending
    preHeader := 0
    pending := [] }

/-- The outer loop of `read`, over the rest of the current block and the blocks after it. -/
def scanBlocks : List (List UInt64) → List UInt64 → Scan → Scan × List UInt64 × List (List UInt64)
  | blocks, unscanned, scan =>
    let scanned := scanBlock unscanned scan
    let copied := copy scanned.1
    match scanned.2, blocks with
    | some rest, _ => (copied, rest, blocks)
    | none, blocks =>
      if copied.dduWordCount = maxDDUWords then (copied, [], blocks)
      else
        match blocks with
        | [] => ({ copied with eventStatus := copied.eventStatus ||| endOfStreamBit }, [], [])
        | block :: later => scanBlocks later block copied

structure Result where
  size : Nat
  buf : List UInt64
  deriving DecidableEq

def isUnknown (eventStatus : Nat) : Bool := eventStatus &&& (headerBit ||| trailerBit ||| ffffBit) == 0

def read (file : RawDataFile) : RawDataFile × Result :=
  let scanned := scanBlocks file.blocks file.unscanned ⟨[], 0, [], file.word1, file.word2, 0, 0⟩
  let scan := scanned.1
  let eventStatus := if isUnknown scan.eventStatus then scan.eventStatus ||| unknownBit else scan.eventStatus
  ({ file with
      blocks := scanned.2.2
      unscanned := scanned.2.1
      word1 := scan.word1
      word2 := scan.word2
      eventStatus := eventStatus },
    ⟨(if eventStatus &&& ffffBit != 0 then 4 * scan.event.length - 4 else 4 * scan.event.length) * 2,
      scan.event⟩)

def isRejected (file : RawDataFile) : Bool :=
  file.rejectCriteria &&& file.eventStatus != 0 || file.acceptCriteria &&& file.eventStatus == 0 ||
    (file.selectCriteria != 0 && file.selectCriteria != file.eventStatus)

def left (file : RawDataFile) : List UInt64 := file.unscanned ++ file.blocks.flatten

/-- The loop of `readDDU`.  Each turn takes a word that is left, or reads nothing and is the
last. -/
def readDDUFrom : Nat → RawDataFile → RawDataFile × Result
  | 0, file => (file, ⟨0, []⟩)
  | turns + 1, file =>
    let next := read file
    if next.2.size = 0 || !isRejected next.1 then next else readDDUFrom turns next.1

def readDDU (file : RawDataFile) : RawDataFile × Result := readDDUFrom (file.left.length + 1) file

def readAll : Nat → RawDataFile → List Result
  | 0, _ => []
  | calls + 1, file => (readDDU file).2 :: readAll calls (readDDU file).1

section

variable {unscanned rest : List UInt64} {scan : Scan} {blocks : List (List UInt64)}

lemma scanBlocks_found (found : (scanBlock unscanned scan).2 = some rest) :
    scanBlocks blocks unscanned scan = (copy (scanBlock unscanned scan).1, rest, blocks) := by
  unfold scanBlocks
  simp only [found]

lemma scanBlocks_full (none : (scanBlock unscanned scan).2 = none)
    (full : (copy (scanBlock unscanned scan).1).dduWordCount = maxDDUWords) :
    scanBlocks blocks unscanned scan = (copy (scanBlock unscanned scan).1, [], blocks) := by
  unfold scanBlocks
  simp only [none, full, if_true]

lemma scanBlocks_ended (none : (scanBlock unscanned scan).2 = none)
    (notFull : (copy (scanBlock unscanned scan).1).dduWordCount ≠ maxDDUWords) :
    scanBlocks [] unscanned scan =
      ({ copy (scanBlock unscanned scan).1 with
        eventStatus := (copy (scanBlock unscanned scan).1).eventStatus ||| endOfStreamBit },
        [], []) := by
  unfold scanBlocks
  simp only [none, notFull, if_false]

lemma scanBlocks_next (none : (scanBlock unscanned scan).2 = none)
    (notFull : (copy (scanBlock unscanned scan).1).dduWordCount ≠ maxDDUWords)
    (block) : scanBlocks (block :: blocks) unscanned scan =
      scanBlocks blocks block (copy (scanBlock unscanned scan).1) := by
  conv => lhs; unfold scanBlocks
  simp only [none, notFull, if_false]

end

/-- An event has its header in the second word, after one that is not zero, and its trailer
in the third-last word, and it fits in `raw_event`. -/
structure WellFormed (event : List UInt64) : Prop where
  long : 3 ≤ event.length
  short : event.length < maxDDUWords
  first : event.head? ≠ some 0
  header : ∀ index word, event[index]? = some word → (isHeader word = true ↔ index = 1)
  trailer : ∀ index word, event[index]? = some word →
    (isTrailer word = true ↔ index + 3 = event.length)

section

variable {event history taken later : List UInt64} {dduWord : UInt64} {scan : Scan}

/-- The scan has taken these words of an event that follows the two words of the history. -/
structure Within (history taken : List UInt64) (scan : Scan) : Prop where
  word1 : (history ++ taken)[taken.length]? = some scan.word1
  word2 : (history ++ taken)[taken.length + 1]? = some scan.word2
  whole : scan.event ++ (if scan.preHeader = 0 then [] else [scan.preHeader]) ++ scan.pending = taken
  status : scan.eventStatus = if 2 ≤ taken.length then headerBit else 0
  count : scan.dduWordCount = taken.length
  plain : taken.length ≤ 1 → scan.preHeader = 0 ∧ (scan.event = [] ∨ scan.pending = [])

structure Complete (event : List UInt64) (scan : Scan) : Prop where
  word1 : event[event.length - 2]? = some scan.word1
  word2 : event[event.length - 1]? = some scan.word2
  whole : scan.event ++ (if scan.preHeader = 0 then [] else [scan.preHeader]) ++ scan.pending = event
  status : scan.eventStatus = headerBit ||| trailerBit
  count : scan.dduWordCount < maxDDUWords

structure History (history : List UInt64) : Prop where
  two : history.length = 2
  plain : ∀ word ∈ history, isTrailer word = false

lemma WellFormed.at (wellFormed : WellFormed (taken ++ dduWord :: later)) :
    isHeader dduWord = true ↔ taken.length = 1 := by
  apply wellFormed.header
  simp

lemma WellFormed.ends (wellFormed : WellFormed (taken ++ dduWord :: later))
    (ahead : History history) (within : Within history taken scan) :
    isTrailer scan.word1 = true ↔ later = [] := by
  have before := within.word1
  have long := wellFormed.long
  simp only [length_append, length_cons] at long
  by_cases early : taken.length < 2
  · rw [getElem?_append_left (by rw [ahead.two]; exact early)] at before
    have plain := ahead.plain _ (mem_of_getElem? before)
    rw [plain]
    constructor
    · intro ends
      cases ends
    · intro last
      rw [last, length_nil] at long
      omega
  · rw [getElem?_append_right (by rw [ahead.two]; omega), ahead.two] at before
    have here : (taken ++ dduWord :: later)[taken.length - 2]? = some scan.word1 := by
      rw [getElem?_append_left (by omega)]
      exact before
    rw [wellFormed.trailer _ _ here, length_append, length_cons, ← length_eq_zero_iff]
    omega

lemma WellFormed.first_ne_zero {first} (wellFormed : WellFormed ([first] ++ later)) :
    first ≠ 0 := by
  intro zero
  exact wellFormed.first (by simp [zero])

lemma take_whole (wellFormed : WellFormed (taken ++ dduWord :: later)) (ahead : History history)
    (within : Within history taken scan) :
    (take scan dduWord).1.event ++
        (if (take scan dduWord).1.preHeader = 0 then [] else [(take scan dduWord).1.preHeader]) ++
      (take scan dduWord).1.pending = taken ++ [dduWord] := by
  have whole := within.whole
  have fields : (take scan dduWord).1.event = scan.event ∧
      (take scan dduWord).1.preHeader =
        (if isHeader dduWord = true ∧ scan.event = [] then scan.word2 else scan.preHeader) ∧
      (take scan dduWord).1.pending =
        if isHeader dduWord then [dduWord] else scan.pending ++ [dduWord] := by
    unfold take
    by_cases header : isHeader dduWord = true <;> by_cases none : scan.event = [] <;>
      cases isTrailer scan.word1 <;> simp [header, none]
  obtain ⟨event, preHeader, pending⟩ := fields
  by_cases header : isHeader dduWord = true
  · have one := wellFormed.at.mp header
    obtain ⟨first, rfl⟩ := length_eq_one_iff.mp one
    obtain ⟨noPreHeader, apart⟩ := within.plain (by simp)
    rw [noPreHeader, if_pos rfl, append_nil] at whole
    rw [if_pos header] at pending
    rcases apart with notCopied | copied
    · have word2 : scan.word2 = first := by
        have here := within.word2
        rw [getElem?_append_right (by rw [ahead.two]; simp), ahead.two] at here
        exact (Option.some.inj here).symm
      rw [if_pos ⟨header, notCopied⟩, word2] at preHeader
      rw [event, preHeader, pending, notCopied, if_neg wellFormed.first_ne_zero]
      rfl
    · rw [copied, append_nil] at whole
      have earlier : ¬ (isHeader dduWord = true ∧ scan.event = []) := by simp [whole]
      rw [if_neg earlier, noPreHeader] at preHeader
      rw [event, preHeader, pending, whole]
      rfl
  · have unchanged : ¬ (isHeader dduWord = true ∧ scan.event = []) := fun both => header both.1
    rw [if_neg unchanged] at preHeader
    rw [if_neg header] at pending
    rw [event, preHeader, pending, ← append_assoc, whole]

lemma take_words (ahead : History history) (within : Within history taken scan) :
    (history ++ (taken ++ [dduWord]))[(taken ++ [dduWord]).length]? =
        some (take scan dduWord).1.word1 ∧
      (history ++ (taken ++ [dduWord]))[(taken ++ [dduWord]).length + 1]? =
        some (take scan dduWord).1.word2 := by
  have fields : (take scan dduWord).1.word1 = scan.word2 ∧
      (take scan dduWord).1.word2 = dduWord := by
    unfold take
    cases isHeader dduWord <;> cases isTrailer scan.word1 <;> exact ⟨rfl, rfl⟩
  have inside : taken.length + 1 < (history ++ taken).length := by
    rw [length_append, ahead.two]
    omega
  rw [fields.1, fields.2, ← append_assoc, length_append, length_singleton]
  constructor
  · rw [getElem?_append_left inside]
    exact within.word2
  · rw [getElem?_append_right (by rw [length_append, ahead.two]; omega),
      length_append, ahead.two]
    have first : taken.length + 1 + 1 - (2 + taken.length) = 0 := by omega
    rw [first]
    rfl

lemma take_within (wellFormed : WellFormed (taken ++ dduWord :: later)) (ahead : History history)
    (within : Within history taken scan) (goesOn : later ≠ []) :
    (take scan dduWord).2 = false ∧ Within history (taken ++ [dduWord]) (take scan dduWord).1 := by
  have whole := take_whole wellFormed ahead within
  obtain ⟨word1, word2⟩ := @take_words history taken dduWord scan ahead within
  have noTrailer : isTrailer scan.word1 = false := by
    have ends := wellFormed.ends ahead within
    simpa [goesOn] using ends
  have header := wellFormed.at
  have status := within.status
  have count := within.count
  refine ⟨?_, word1, word2, whole, ?_, ?_, ?_⟩
  · unfold take
    rw [noTrailer]
    rfl
  · unfold take
    rw [noTrailer, length_append, length_singleton]
    by_cases isNew : isHeader dduWord = true
    · rw [header.mp isNew] at status ⊢
      simp [isNew, status, headerBit]
    · have notOne : taken.length ≠ 1 := fun one => isNew (header.mpr one)
      simp only [isNew, Bool.false_eq_true, if_false, status]
      by_cases two : 2 ≤ taken.length
      · rw [if_pos two, if_pos (by omega)]
      · rw [if_neg two, if_neg (by omega)]
  · unfold take
    rw [noTrailer, length_append, ← count]
    cases isHeader dduWord <;> rfl
  · intro early
    rw [length_append, length_singleton] at early
    have none : taken = [] := eq_nil_of_length_eq_zero (by omega)
    have notHeader : isHeader dduWord = false := by
      have zero : ¬ taken.length = 1 := by simp [none]
      simpa [zero] using header
    obtain ⟨noPreHeader, _⟩ := within.plain (by simp [none])
    have nothing := within.whole
    rw [none, noPreHeader] at nothing
    simp only [if_true, append_nil, append_eq_nil_iff] at nothing
    unfold take
    rw [noTrailer, notHeader]
    exact ⟨noPreHeader, .inl nothing.1⟩

lemma take_complete (wellFormed : WellFormed (taken ++ [dduWord])) (ahead : History history)
    (within : Within history taken scan) :
    (take scan dduWord).2 = true ∧ Complete (taken ++ [dduWord]) (take scan dduWord).1 := by
  have whole := take_whole wellFormed ahead within
  obtain ⟨word1, word2⟩ := @take_words history taken dduWord scan ahead within
  have trailer : isTrailer scan.word1 = true := (wellFormed.ends ahead within).mpr rfl
  have long := wellFormed.long
  have short := wellFormed.short
  have status := within.status
  have count := within.count
  rw [length_append, length_singleton] at word1 word2 long short
  rw [getElem?_append_right (by rw [ahead.two]; omega), ahead.two] at word1 word2
  have notHeader : isHeader dduWord = false := by
    have notOne : ¬ taken.length = 1 := by omega
    have header := wellFormed.at
    simpa [notOne] using header
  refine ⟨?_, ?_, ?_, whole, ?_, ?_⟩
  · unfold take
    rw [trailer]
    rfl
  · rw [length_append]
    exact word1
  · rw [length_append]
    exact word2
  · rw [if_pos (by omega)] at status
    unfold take
    rw [trailer, notHeader]
    simp [status]
  · unfold take
    rw [trailer, notHeader]
    simp only [Bool.false_eq_true, if_false, if_true, count]
    omega

lemma scanBlock_take (wellFormed : WellFormed (taken ++ dduWord :: later))
    (within : Within history taken scan) (block) :
    scanBlock (dduWord :: block) scan =
      if (take scan dduWord).2 then ((take scan dduWord).1, some block)
      else scanBlock block (take scan dduWord).1 := by
  have short := wellFormed.short
  have header := wellFormed.at
  have status := within.status
  have count := within.count
  rw [length_append] at short
  have noSecond : (isHeader dduWord && scan.eventStatus &&& headerBit != 0) = false := by
    by_cases isNew : isHeader dduWord = true
    · rw [header.mp isNew] at status
      simp [status]
    · simp [isNew]
  have noExtra : (isHeader dduWord && decide (1 < scan.dduWordCount)) = false := by
    by_cases isNew : isHeader dduWord = true
    · rw [header.mp isNew] at count
      simp [count]
    · simp [isNew]
  rw [scanBlock, if_pos (by omega)]
  simp only [noSecond, noExtra, Bool.false_eq_true, if_false]

lemma scanBlock_within {remaining block tail} (wellFormed : WellFormed (taken ++ remaining))
    (ahead : History history) (within : Within history taken scan) (unread : remaining ≠ [])
    (starts : block <+: remaining ++ tail) :
    (∃ later, remaining = block ++ later ∧ later ≠ [] ∧
        (scanBlock block scan).2 = none ∧
        Within history (taken ++ block) (scanBlock block scan).1) ∨
      ∃ rest, block = remaining ++ rest ∧ (scanBlock block scan).2 = some rest ∧
        Complete (taken ++ remaining) (scanBlock block scan).1 := by
  induction block generalizing taken remaining scan with
  | nil => exact .inl ⟨remaining, rfl, unread, rfl, by simpa [scanBlock] using within⟩
  | cons dduWord block ih =>
    cases remaining with
    | nil => exact absurd rfl unread
    | cons word later =>
      obtain ⟨rfl, startsLater⟩ := cons_prefix_cons.mp starts
      rw [scanBlock_take wellFormed within]
      cases later with
      | nil =>
        obtain ⟨ends, complete⟩ := take_complete wellFormed ahead within
        rw [if_pos ends]
        exact .inr ⟨block, rfl, rfl, complete⟩
      | cons next later =>
        obtain ⟨goesOn, within⟩ := take_within wellFormed ahead within (cons_ne_nil _ _)
        rw [if_neg (by simp [goesOn])]
        have wellFormed : WellFormed ((taken ++ [dduWord]) ++ next :: later) := by
          simpa using wellFormed
        rcases ih wellFormed within (cons_ne_nil _ _) startsLater with
          ⟨others, rest, unread, none, within⟩ | ⟨rest, block, found, complete⟩
        · refine .inl ⟨others, by rw [rest]; rfl, unread, none, by simpa using within⟩
        · refine .inr ⟨rest, by rw [block]; rfl, found, by simpa using complete⟩

lemma copy_within (within : Within history taken scan) : Within history taken (copy scan) := by
  refine ⟨within.word1, within.word2, ?_, within.status, within.count, fun _ => ⟨rfl, .inr rfl⟩⟩
  simp only [copy, if_true, append_nil]
  exact within.whole

lemma copy_complete (complete : Complete event scan) :
    Complete event (copy scan) ∧ (copy scan).event = event := by
  refine ⟨⟨complete.word1, complete.word2, ?_, complete.status, complete.count⟩, complete.whole⟩
  simp only [copy, if_true, append_nil]
  exact complete.whole

lemma scanBlocks_event {blocks unscanned remaining tail}
    (wellFormed : WellFormed (taken ++ remaining)) (ahead : History history)
    (within : Within history taken scan) (unread : remaining ≠ [])
    (stream : unscanned ++ blocks.flatten = remaining ++ tail) :
    (scanBlocks blocks unscanned scan).2.1 ++ (scanBlocks blocks unscanned scan).2.2.flatten = tail ∧
      Complete (taken ++ remaining) (scanBlocks blocks unscanned scan).1 ∧
      (scanBlocks blocks unscanned scan).1.event = taken ++ remaining := by
  induction blocks generalizing taken unscanned remaining scan with
  | nil =>
    rw [flatten_nil, append_nil] at stream
    have starts : unscanned <+: remaining ++ tail := ⟨[], by rw [append_nil, stream]⟩
    rcases scanBlock_within wellFormed ahead within unread starts with
      ⟨later, split, some, none, within⟩ | ⟨rest, split, found, complete⟩
    · rw [stream] at split
      have lengths := congrArg List.length split
      simp only [length_append] at lengths
      exact absurd (eq_nil_of_length_eq_zero (by omega)) some
    · rw [scanBlocks_found found]
      rw [split] at stream
      obtain ⟨copied, event⟩ := copy_complete complete
      refine ⟨?_, copied, event⟩
      rw [flatten_nil, append_nil]
      exact append_cancel_left stream
  | cons block blocks ih =>
    have starts : unscanned <+: remaining ++ tail := ⟨_, stream⟩
    rcases scanBlock_within wellFormed ahead within unread starts with
      ⟨later, split, some, none, within⟩ | ⟨rest, split, found, complete⟩
    · have copied := copy_within within
      have short := wellFormed.short
      rw [split, ← append_assoc] at wellFormed ⊢
      rw [split, length_append, length_append] at short
      have notMax : (copy (scanBlock unscanned scan).1).dduWordCount ≠ maxDDUWords := by
        rw [copied.count, length_append]
        omega
      rw [split, append_assoc] at stream
      have streamLater := append_cancel_left stream
      rw [scanBlocks_next none notMax]
      exact ih wellFormed copied some streamLater
    · rw [scanBlocks_found found]
      rw [split, append_assoc] at stream
      obtain ⟨copied, event⟩ := copy_complete complete
      exact ⟨append_cancel_left stream, copied, event⟩

lemma scanBlocks_end {blocks} (empty : blocks.flatten = []) (same : copy scan = scan)
    (few : scan.dduWordCount = 0) :
    scanBlocks blocks [] scan =
      ({ scan with eventStatus := scan.eventStatus ||| endOfStreamBit }, [], []) := by
  have notFull : (copy (scanBlock [] scan).1).dduWordCount ≠ maxDDUWords := by
    rw [scanBlock, same, few]
    decide
  induction blocks with
  | nil =>
    rw [scanBlocks_ended rfl notFull, scanBlock, same]
  | cons block blocks ih =>
    obtain ⟨rfl, emptyLater⟩ := append_eq_nil_iff.mp (flatten_cons ▸ empty)
    rw [scanBlocks_next rfl notFull, scanBlock, same]
    exact ih emptyLater

end

lemma scanBlock_length {block rest scan}
    (ends : (scanBlock block scan).2 = some rest) : rest.length ≤ block.length := by
  induction block generalizing scan with
  | nil => cases ends
  | cons dduWord block ih =>
    unfold scanBlock at ends
    split at ends
    · split at ends
      · cases ends
        exact Nat.le_refl _
      · split at ends
        · cases ends
          exact Nat.le_refl _
        · dsimp only at ends
          split at ends
          · cases ends
            exact Nat.le_succ _
          · exact Nat.le_succ_of_le (ih ends)
    · cases ends
      exact Nat.le_refl _

lemma scanBlock_progress {dduWord block rest scan} (status : scan.eventStatus = 0)
    (count : scan.dduWordCount = 0) (ends : (scanBlock (dduWord :: block) scan).2 = some rest) :
    rest.length < (dduWord :: block).length := by
  unfold scanBlock at ends
  have room : scan.dduWordCount < maxDDUWords := by
    rw [count]
    decide
  have noExtra : ¬ 1 < scan.dduWordCount := by omega
  have noSecond : scan.eventStatus &&& headerBit = 0 := by
    rw [status]
    rfl
  simp only [room, if_true, noSecond, bne_self_eq_false, Bool.and_false, Bool.false_eq_true,
    if_false, noExtra, decide_false] at ends
  split at ends
  · cases ends
    exact Nat.lt_succ_self _
  · exact Nat.lt_succ_of_le (scanBlock_length ends)

lemma scanBlocks_length (blocks unscanned scan) :
    ((scanBlocks blocks unscanned scan).2.1 ++ (scanBlocks blocks unscanned scan).2.2.flatten).length ≤
      (unscanned ++ blocks.flatten).length := by
  induction blocks generalizing unscanned scan with
  | nil =>
    cases ends : (scanBlock unscanned scan).2 with
    | some rest =>
      rw [scanBlocks_found ends]
      simpa using scanBlock_length ends
    | none =>
      by_cases full : (copy (scanBlock unscanned scan).1).dduWordCount = maxDDUWords
      · rw [scanBlocks_full ends full]
        simp
      · rw [scanBlocks_ended ends full]
        simp
  | cons block blocks ih =>
    cases ends : (scanBlock unscanned scan).2 with
    | some rest =>
      rw [scanBlocks_found ends]
      have shorter := scanBlock_length ends
      simp only [length_append]
      omega
    | none =>
      by_cases full : (copy (scanBlock unscanned scan).1).dduWordCount = maxDDUWords
      · rw [scanBlocks_full ends full]
        simp
      · rw [scanBlocks_next ends full]
        have later := ih block (copy (scanBlock unscanned scan).1)
        rw [flatten_cons, @length_append _ unscanned]
        omega

lemma copy_fresh {scan} (status : scan.eventStatus = 0) (count : scan.dduWordCount = 0) :
    (copy (scanBlock [] scan).1).eventStatus = 0 ∧ (copy (scanBlock [] scan).1).dduWordCount = 0 :=
  ⟨status, count⟩

lemma scanBlocks_progress {blocks unscanned scan} (status : scan.eventStatus = 0)
    (count : scan.dduWordCount = 0) (unread : unscanned ++ blocks.flatten ≠ []) :
    ((scanBlocks blocks unscanned scan).2.1 ++ (scanBlocks blocks unscanned scan).2.2.flatten).length <
      (unscanned ++ blocks.flatten).length := by
  induction blocks generalizing unscanned scan with
  | nil =>
    cases unscanned with
    | nil => exact absurd rfl unread
    | cons dduWord unscanned =>
      cases ends : (scanBlock (dduWord :: unscanned) scan).2 with
      | some rest =>
        rw [scanBlocks_found ends]
        simpa using scanBlock_progress status count ends
      | none =>
        by_cases full : (copy (scanBlock (dduWord :: unscanned) scan).1).dduWordCount = maxDDUWords
        · rw [scanBlocks_full ends full]
          simp
        · rw [scanBlocks_ended ends full]
          simp
  | cons block blocks ih =>
    cases unscanned with
    | nil =>
      obtain ⟨statusLater, countLater⟩ := copy_fresh status count
      have notFull : (copy (scanBlock [] scan).1).dduWordCount ≠ maxDDUWords := by
        rw [countLater]
        decide
      rw [scanBlocks_next rfl notFull]
      exact ih statusLater countLater unread
    | cons dduWord unscanned =>
      cases ends : (scanBlock (dduWord :: unscanned) scan).2 with
      | some rest =>
        rw [scanBlocks_found ends]
        have shorter := scanBlock_progress status count ends
        simp only [length_append]
        omega
      | none =>
        by_cases full : (copy (scanBlock (dduWord :: unscanned) scan).1).dduWordCount = maxDDUWords
        · rw [scanBlocks_full ends full]
          simp only [nil_append, length_append, length_cons]
          omega
        · rw [scanBlocks_next ends full]
          have later := scanBlocks_length blocks block
            (copy (scanBlock (dduWord :: unscanned) scan).1)
          rw [flatten_cons, @length_append _ (dduWord :: unscanned), length_cons]
          omega

lemma read_progress {file} (unread : file.left ≠ []) :
    (read file).1.left.length < file.left.length :=
  scanBlocks_progress rfl rfl unread

lemma read_nothing {file} (empty : file.left = []) : (read file).2.size = 0 := by
  obtain ⟨unscanned, blocks⟩ := append_eq_nil_iff.mp empty
  have ends := @scanBlocks_end ⟨[], 0, [], file.word1, file.word2, 0, 0⟩ file.blocks blocks
    rfl rfl
  unfold read
  rw [unscanned, ends]
  simp

lemma readDDUFrom_enough {turns more file} (enough : file.left.length < turns)
    (enoughToo : file.left.length < more) : readDDUFrom turns file = readDDUFrom more file := by
  induction turns generalizing more file with
  | zero => omega
  | succ turns ih =>
    cases more with
    | zero => omega
    | succ more =>
      unfold readDDUFrom
      dsimp only
      split
      · rfl
      · rename_i goesOn
        have unread : file.left ≠ [] := by
          intro empty
          simp [read_nothing empty] at goesOn
        have shorter := read_progress unread
        exact ih (by omega) (by omega)

/-- The turns that `readDDU` is given are as many as its loop can take. -/
lemma readDDU_enough {turns file} (enough : file.left.length < turns) :
    readDDU file = readDDUFrom turns file :=
  readDDUFrom_enough (Nat.lt_succ_self _) enough

variable {file : RawDataFile} {event tail : List UInt64}

structure Ready (file : RawDataFile) (words : List UInt64) : Prop where
  left : file.left = words
  word1 : isTrailer file.word1 = false
  word2 : isTrailer file.word2 = false
  select : file.selectCriteria = headerBit ||| trailerBit
  reject : file.rejectCriteria = dduOversizeBit ||| ffffBit ||| unknownBit
  accept : file.acceptCriteria = 0x3f

lemma ready_opened (blocks) : Ready (opened blocks) blocks.flatten := by
  have zero : isTrailer 0 = false := by decide
  exact ⟨rfl, zero, zero, rfl, rfl, rfl⟩

lemma Complete.noTrailer {scan} (complete : Complete event scan) (wellFormed : WellFormed event) :
    isTrailer scan.word1 = false ∧ isTrailer scan.word2 = false := by
  have first := wellFormed.trailer _ _ complete.word1
  have second := wellFormed.trailer _ _ complete.word2
  constructor
  · by_contra trailer
    have position := first.mp (by simpa using trailer)
    omega
  · by_contra trailer
    have position := second.mp (by simpa using trailer)
    omega

lemma read_event (ready : Ready file (event ++ tail)) (wellFormed : WellFormed event) :
    Ready (read file).1 tail ∧ (read file).1.eventStatus = headerBit ||| trailerBit ∧
      (read file).2 = ⟨8 * event.length, event⟩ := by
  have ahead : History [file.word1, file.word2] := by
    refine ⟨rfl, ?_⟩
    intro word member
    rcases mem_pair.mp member with rfl | rfl
    · exact ready.word1
    · exact ready.word2
  have within : Within [file.word1, file.word2] [] ⟨[], 0, [], file.word1, file.word2, 0, 0⟩ :=
    ⟨rfl, rfl, rfl, rfl, rfl, fun _ => ⟨rfl, .inl rfl⟩⟩
  have unread : event ≠ [] := by
    intro none
    have long := wellFormed.long
    rw [none] at long
    simp at long
  have wellFormed' : WellFormed ([] ++ event) := wellFormed
  obtain ⟨left, complete, copied⟩ := scanBlocks_event wellFormed' ahead within unread ready.left
  rw [nil_append] at complete copied
  obtain ⟨word1, word2⟩ := complete.noTrailer wellFormed
  have status := complete.status
  have known : isUnknown (headerBit ||| trailerBit) = false := by decide
  unfold read
  simp only [status, known, Bool.false_eq_true, if_false, copied]
  refine ⟨⟨left, word1, word2, ready.select, ready.reject, ready.accept⟩, trivial, ?_⟩
  have noFFFF : ((headerBit ||| trailerBit) &&& ffffBit != 0) = false := by decide
  rw [noFFFF, if_neg Bool.false_ne_true]
  congr 1
  omega

lemma read_end (ready : Ready file []) : Ready (read file).1 [] ∧ (read file).2 = ⟨0, []⟩ := by
  obtain ⟨unscanned, blocks⟩ := append_eq_nil_iff.mp ready.left
  have ends := @scanBlocks_end ⟨[], 0, [], file.word1, file.word2, 0, 0⟩ file.blocks blocks
    rfl rfl
  unfold read
  rw [unscanned, ends]
  refine ⟨⟨rfl, ready.word1, ready.word2, ready.select, ready.reject, ready.accept⟩, ?_⟩
  simp

lemma readDDU_event (ready : Ready file (event ++ tail)) (wellFormed : WellFormed event) :
    Ready (readDDU file).1 tail ∧ (readDDU file).2 = ⟨8 * event.length, event⟩ := by
  obtain ⟨readyLater, status, result⟩ := read_event ready wellFormed
  have accepted : isRejected (read file).1 = false := by
    unfold isRejected
    rw [readyLater.select, readyLater.reject, readyLater.accept, status]
    rfl
  have stops : (decide ((read file).2.size = 0) || !isRejected (read file).1) = true := by
    simp [accepted]
  unfold readDDU readDDUFrom
  rw [if_pos stops]
  exact ⟨readyLater, result⟩

lemma readDDU_end (ready : Ready file []) :
    Ready (readDDU file).1 [] ∧ (readDDU file).2 = ⟨0, []⟩ := by
  obtain ⟨readyLater, result⟩ := read_end ready
  have stops : (decide ((read file).2.size = 0) || !isRejected (read file).1) = true := by
    simp [result]
  unfold readDDU readDDUFrom
  rw [if_pos stops]
  exact ⟨readyLater, result⟩

lemma readAll_end (calls) (ready : Ready file []) :
    readAll calls file = replicate calls ⟨0, []⟩ := by
  induction calls generalizing file with
  | zero => rfl
  | succ calls ih =>
    obtain ⟨readyLater, result⟩ := readDDU_end ready
    rw [readAll, result, ih readyLater]
    rfl

/-- However the words of well-formed events fall into the blocks in which they are read, the
calls of `readDDU` return the events one after the other, and nothing after the last one. -/
theorem readAll_events (events : List (List UInt64)) (blocks : List (List UInt64)) (calls : Nat)
    (wellFormed : ∀ event ∈ events, WellFormed event)
    (delivered : blocks.flatten = events.flatten) :
    readAll (events.length + calls) (opened blocks) =
      events.map (fun event => ⟨8 * event.length, event⟩) ++ List.replicate calls ⟨0, []⟩ := by
  have ready := ready_opened blocks
  rw [delivered] at ready
  generalize opened blocks = file at ready
  clear delivered
  induction events generalizing file with
  | nil =>
    rw [length_nil, Nat.zero_add]
    exact readAll_end calls ready
  | cons event events ih =>
    obtain ⟨readyLater, result⟩ := readDDU_event ready (wellFormed event mem_cons_self)
    have later := ih (fun other member => wellFormed other (mem_cons_of_mem _ member)) _
      readyLater
    rw [length_cons, Nat.add_right_comm, readAll, result, later]
    rfl

/-- The blocks of a file of which `::read` delivers full ones until the last; there are at most
as many as the file has words. -/
def fileBlocks : Nat → List UInt64 → List (List UInt64)
  | 0, _ => []
  | blocks + 1, words =>
    if words = [] then []
    else words.take fileBufferWords :: fileBlocks blocks (words.drop fileBufferWords)

lemma fileBlocks_flatten {blocks words} (enough : words.length ≤ blocks) :
    (fileBlocks blocks words).flatten = words := by
  induction blocks generalizing words with
  | zero => exact (eq_nil_of_length_eq_zero (by omega)).symm
  | succ blocks ih =>
    unfold fileBlocks
    by_cases empty : words = []
    · rw [empty]
      rfl
    · rw [if_neg empty, flatten_cons]
      have shorter : (words.drop fileBufferWords).length ≤ blocks := by
        rw [length_drop, fileBufferWords]
        omega
      rw [ih shorter]
      exact take_append_drop _ _

def emptyEvent (first : UInt64) : List UInt64 :=
  [first, 0x8000000180000000, 0x8000ffff80000000, 0, 0xa000000000000000]

lemma emptyEvent_wellFormed {first} (nonzero : first ≠ 0)
    (plain : isHeader first = false ∧ isTrailer first = false) : WellFormed (emptyEvent first) := by
  refine ⟨by simp [emptyEvent], by simp [emptyEvent, maxDDUWords], ?_, ?_, ?_⟩
  · simpa [emptyEvent] using nonzero
  · intro index word found
    rcases index with _ | _ | _ | _ | _ | index
    · cases found
      simp [plain.1]
    · cases found
      decide
    · cases found
      decide
    · cases found
      decide
    · cases found
      decide
    · cases found
  · intro index word found
    have length : (emptyEvent first).length = 5 := rfl
    rw [length]
    rcases index with _ | _ | _ | _ | _ | index
    · cases found
      simp [plain.2]
    · cases found
      decide
    · cases found
      decide
    · cases found
      decide
    · cases found
      decide
    · cases found

def twoEvents : List (List UInt64) :=
  [emptyEvent 0x5000000000000000, emptyEvent 0x5000000000000001]

/-- Two events are read from full blocks, and also when a block ends after the first word of
the first event and another one within the trailer of the second. -/
theorem readAll_twoEvents :
    readAll (2 + 1) (opened (fileBlocks 10 twoEvents.flatten)) =
        twoEvents.map (fun event => ⟨8 * event.length, event⟩) ++ List.replicate 1 ⟨0, []⟩ ∧
      readAll (2 + 1) (opened [twoEvents.flatten.take 1, (twoEvents.flatten.drop 1).take 7,
          twoEvents.flatten.drop 8]) =
        twoEvents.map (fun event => ⟨8 * event.length, event⟩) ++ List.replicate 1 ⟨0, []⟩ := by
  have wellFormed : ∀ event ∈ twoEvents, WellFormed event := by
    intro event member
    rcases mem_pair.mp member with rfl | rfl
    · exact emptyEvent_wellFormed (by decide) (by decide)
    · exact emptyEvent_wellFormed (by decide) (by decide)
  constructor
  · exact readAll_events twoEvents _ 1 wellFormed (fileBlocks_flatten (by decide))
  · exact readAll_events twoEvents _ 1 wellFormed (by decide)

end RawDataFile

end EmuLib.Reader
