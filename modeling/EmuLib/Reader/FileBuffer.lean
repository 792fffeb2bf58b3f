import EmuLib.Reader.EventFlags

/-!
The memory that `read` uses: its pointers into the file buffer and the event buffer, and each
access through them.
-/

namespace EmuLib.Reader.RawDataFile

open List

def rawEventSize : Nat := 200000

/-- A 64-bit word of `file_buffer` read, while so many have been obtained, or a 16-bit word of
`raw_event` written. -/
inductive Access
  | load (index obtained : Nat)
  | store (index : Nat)

def Access.Within : Access → Prop
  | .load index obtained => index < obtained
  | .store index => index < rawEventSize

/-- `fileBuffer` are the words that the last `::read` has delivered; the pointers are counted from
the start of `file_buffer`. -/
structure FileBuffer where
  fileBuffer : List UInt64
  fileBufferEnd : Nat
  end_ : Nat
  blocks : List (List UInt64)
  word1 : UInt64
  word2 : UInt64

/-- The local variables of `read`; `event` is counted from `raw_event`. -/
structure Locals where
  start : Nat
  dduWord : Nat
  event : Nat
  end_ : Option Nat
  preHeader : UInt64
  word1 : UInt64
  word2 : UInt64
  eventStatus : Nat
  dduWordCount : Nat
  accesses : List Access

def FileBuffer.opened (blocks : List (List UInt64)) : FileBuffer :=
  ⟨[], fileBufferWords, fileBufferWords, blocks, 0, 0⟩

def loads (obtained start count : Nat) : List Access :=
  (List.range count).map fun offset => Access.load (start + offset) obtained

def stores (event count : Nat) : List Access :=
  (List.range count).map fun offset => Access.store (event + offset)

def scanWord (fileBuffer : List UInt64) (locals : Locals) : Locals :=
  let word0 := locals.word1
  let word1 := locals.word2
  let word2 := fileBuffer.getD locals.dduWord 0
  let loaded := { locals with
    accesses := locals.accesses ++ [Access.load locals.dduWord fileBuffer.length] }
  if isHeader word2 && locals.eventStatus &&& headerBit != 0 then
    { loaded with word1 := word1, word2 := word1, end_ := some locals.dduWord }
  else if isHeader word2 && decide (1 < locals.dduWordCount) then
    { loaded with
      eventStatus := if isFFFF word0 then locals.eventStatus ||| ffffBit else locals.eventStatus
      word1 := word1
      word2 := word1
      end_ := some locals.dduWord }
  else
    let marked :=
      if isHeader word2 then
        { loaded with
          eventStatus := locals.eventStatus ||| headerBit
          preHeader := if locals.event = 0 then word1 else locals.preHeader
          start := locals.dduWord
          word1 := word1
          word2 := word2 }
      else { loaded with word1 := word1, word2 := word2 }
    if isTrailer word0 then
      { marked with
        eventStatus := marked.eventStatus ||| trailerBit
        dduWord := locals.dduWord + 1
        end_ := some (locals.dduWord + 1) }
    else
      { marked with dduWord := locals.dduWord + 1, dduWordCount := locals.dduWordCount + 1 }

def scanWhile (fileBuffer : List UInt64) (fileBufferEnd : Nat) : Nat → Locals → Locals
  | 0, locals => locals
  | words + 1, locals =>
    if locals.dduWord < fileBufferEnd ∧ locals.dduWordCount < maxDDUWords then
      let next := scanWord fileBuffer locals
      if next.end_.isSome then next else scanWhile fileBuffer fileBufferEnd words next
    else locals

def copyOut (fileBuffer : List UInt64) (locals : Locals) : Locals :=
  let event := if locals.preHeader = 0 then locals.event else locals.event + 4
  let words := locals.dduWord - locals.start
  { locals with
    event := event + 4 * words
    accesses := locals.accesses ++
      (if locals.preHeader = 0 then [] else stores locals.event 4) ++
      loads fileBuffer.length locals.start words ++ stores event (4 * words) }

/-- The outer loop; it yields the locals, the file buffer and its end, and the blocks that are
left. -/
def readLoop : List (List UInt64) → List UInt64 → Nat → Locals →
    Locals × List UInt64 × Nat × List (List UInt64)
  | blocks, fileBuffer, fileBufferEnd, locals =>
    let scanned := scanWhile fileBuffer fileBufferEnd (fileBufferEnd - locals.start)
      { locals with dduWord := locals.start, preHeader := 0 }
    let copied := copyOut fileBuffer scanned
    if copied.dduWordCount = maxDDUWords then
      ({ copied with end_ := some copied.dduWord }, fileBuffer, fileBufferEnd, blocks)
    else
      match copied.end_, blocks with
      | some _, _ => (copied, fileBuffer, fileBufferEnd, blocks)
      | none, [] =>
        ({ copied with
            eventStatus := copied.eventStatus ||| endOfStreamBit
            end_ := some fileBufferWords },
          [], fileBufferWords, [])
      | none, block :: later => readLoop later block block.length { copied with start := 0 }

def FileBuffer.locals (buffer : FileBuffer) : Locals :=
  ⟨buffer.end_, buffer.end_, 0, none, 0, buffer.word1, buffer.word2, 0, 0, []⟩

/-- `read` with its accesses. -/
def FileBuffer.read (buffer : FileBuffer) : FileBuffer × List Access :=
  let done := readLoop buffer.blocks buffer.fileBuffer buffer.fileBufferEnd buffer.locals
  (⟨done.2.1, done.2.2.1, done.1.end_.getD 0, done.2.2.2, done.1.word1, done.1.word2⟩,
    done.1.accesses)

def FileBuffer.reads : Nat → FileBuffer → FileBuffer
  | 0, buffer => buffer
  | count + 1, buffer => reads count buffer.read.1

/-! The pointers stand for the lists of words. -/

variable {accesses : List Access} {words : Nat}

section

variable {fileBuffer : List UInt64} {locals : Locals} {scan : Scan}

structure Same (fileBuffer : List UInt64) (locals : Locals) (scan : Scan) : Prop where
  event : locals.event = 4 * scan.event.length
  preHeader : locals.preHeader = scan.preHeader
  ordered : locals.start ≤ locals.dduWord
  pending : scan.pending =
    (fileBuffer.drop locals.start).take (locals.dduWord - locals.start)
  word1 : locals.word1 = scan.word1
  word2 : locals.word2 = scan.word2
  eventStatus : locals.eventStatus = scan.eventStatus
  dduWordCount : locals.dduWordCount = scan.dduWordCount

/-- What has been read are words of the block, and what has been written is the event so far. -/
structure Accessed (event : Nat) (accesses : List Access) : Prop where
  loads : ∀ index obtained, Access.load index obtained ∈ accesses → index < obtained
  stores : ∀ index, Access.store index ∈ accesses ↔ index < event

structure Swept (fileBuffer : List UInt64) (locals : Locals)
    (result : Scan × Option (List UInt64)) : Prop where
  same : Same fileBuffer locals result.1
  inside : locals.dduWord ≤ fileBuffer.length
  counted : locals.dduWordCount ≤ maxDDUWords
  accessed : Accessed locals.event locals.accesses
  ran : result.2 = none → locals.end_ = none ∧ locals.dduWord = fileBuffer.length
  found : ∀ rest, result.2 = some rest → rest = fileBuffer.drop locals.dduWord ∧
    (locals.end_ = some locals.dduWord ∨ locals.end_ = none ∧ locals.dduWordCount = maxDDUWords)

variable {event obtained : Nat}

lemma Accessed.load {index} (accessed : Accessed event accesses) (inside : index < obtained) :
    Accessed event (accesses ++ [.load index obtained]) := by
  constructor
  · intro other within member
    rw [mem_append, mem_singleton] at member
    rcases member with before | same
    · exact accessed.loads other within before
    · cases same
      exact inside
  · intro other
    rw [mem_append, mem_singleton]
    constructor
    · rintro (before | same)
      · exact (accessed.stores other).1 before
      · cases same
    · intro lower
      exact .inl ((accessed.stores other).2 lower)

lemma pending_succ {start dduWord} (ordered : start ≤ dduWord)
    (inside : dduWord < fileBuffer.length) :
    (fileBuffer.drop start).take (dduWord + 1 - start) =
      (fileBuffer.drop start).take (dduWord - start) ++ [fileBuffer.getD dduWord 0] := by
  have size : dduWord - start < (fileBuffer.drop start).length := by
    rw [length_drop]
    omega
  have next : dduWord + 1 - start = dduWord - start + 1 := by omega
  have place : start + (dduWord - start) = dduWord := by omega
  rw [next, take_succ_eq_append_getElem size, getElem_drop, getD_eq_getElem _ _ inside]
  simp only [place]

lemma Same.scanWord (same : Same fileBuffer locals scan) (noEnd : locals.end_ = none)
    (inside : locals.dduWord < fileBuffer.length) (short : scan.dduWordCount < maxDDUWords)
    (accessed : Accessed locals.event locals.accesses) :
    Swept fileBuffer (RawDataFile.scanWord fileBuffer locals)
        (scanBlock (fileBuffer.drop locals.dduWord) scan) ∧
          (RawDataFile.scanWord fileBuffer locals).end_.isSome = true ∨
      (RawDataFile.scanWord fileBuffer locals).end_ = none ∧
        (RawDataFile.scanWord fileBuffer locals).dduWord = locals.dduWord + 1 ∧
        (RawDataFile.scanWord fileBuffer locals).dduWordCount = locals.dduWordCount + 1 ∧
        Accessed (RawDataFile.scanWord fileBuffer locals).event
          (RawDataFile.scanWord fileBuffer locals).accesses ∧
        Same fileBuffer (RawDataFile.scanWord fileBuffer locals)
          (take scan (fileBuffer.getD locals.dduWord 0)).1 ∧
        scanBlock (fileBuffer.drop locals.dduWord) scan =
          scanBlock (fileBuffer.drop (locals.dduWord + 1))
            (take scan (fileBuffer.getD locals.dduWord 0)).1 := by
  have words : fileBuffer.drop locals.dduWord =
      fileBuffer.getD locals.dduWord 0 :: fileBuffer.drop (locals.dduWord + 1) := by
    rw [drop_eq_getElem_cons inside, getD_eq_getElem _ _ inside]
  have loaded := accessed.load inside
  rw [words, scanBlock, if_pos short]
  unfold RawDataFile.scanWord
  rw [same.eventStatus, same.dduWordCount]
  generalize word : fileBuffer.getD locals.dduWord 0 = dduWord at *
  by_cases second : (isHeader dduWord && scan.eventStatus &&& headerBit != 0) = true
  · rw [if_pos second, if_pos second]
    refine .inl ⟨⟨⟨same.event, same.preHeader, same.ordered, same.pending, same.word2, same.word2,
      rfl, rfl⟩, Nat.le_of_lt inside, Nat.le_of_lt short, loaded,
        (fun ran => by cases ran), ?_⟩, rfl⟩
    intro rest found
    exact ⟨(Option.some.inj found).symm.trans words.symm, .inl rfl⟩
  · rw [if_neg second, if_neg second]
    by_cases extra : (isHeader dduWord && decide (1 < scan.dduWordCount)) = true
    · rw [if_pos extra, if_pos extra]
      refine .inl ⟨⟨⟨same.event, same.preHeader, same.ordered, same.pending, same.word2, same.word2,
        ?_, rfl⟩, Nat.le_of_lt inside, Nat.le_of_lt short, loaded,
        (fun ran => by cases ran), ?_⟩, rfl⟩
      · dsimp only [fallBack]
        rw [same.word1]
      · intro rest found
        exact ⟨(Option.some.inj found).symm.trans words.symm, .inl rfl⟩
    · rw [if_neg extra, if_neg extra, same.word1]
      have pending := pending_succ same.ordered inside
      rw [← same.pending, word] at pending
      have header : (fileBuffer.drop locals.dduWord).take (locals.dduWord + 1 - locals.dduWord) =
          [dduWord] := by
        rw [pending_succ (Nat.le_refl _) inside, Nat.sub_self, word]
        rfl
      have unread : locals.event = 0 ↔ scan.event = [] := by
        rw [same.event, ← length_eq_zero_iff]
        omega
      have preHeader : (if locals.event = 0 then locals.word2 else locals.preHeader) =
          if scan.event = [] then scan.word2 else scan.preHeader := by
        simp only [unread, same.word2, same.preHeader]
      unfold take
      cases isHeader dduWord <;> cases isTrailer scan.word1
      · refine .inr ⟨noEnd, rfl, rfl, loaded, ⟨same.event, same.preHeader,
          Nat.le_succ_of_le same.ordered, pending.symm, same.word2, rfl, rfl, rfl⟩, rfl⟩
      · refine .inl ⟨⟨⟨same.event, same.preHeader, Nat.le_succ_of_le same.ordered, pending.symm,
          same.word2, rfl, rfl, rfl⟩, inside, Nat.le_of_lt short, loaded,
        (fun ran => by cases ran), ?_⟩, rfl⟩
        intro rest found
        exact ⟨(Option.some.inj found).symm, .inl rfl⟩
      · refine .inr ⟨noEnd, rfl, rfl, loaded, ⟨same.event, ?_, Nat.le_succ _, header.symm,
          same.word2, rfl, rfl, rfl⟩, rfl⟩
        exact preHeader
      · refine .inl ⟨⟨⟨same.event, ?_, Nat.le_succ _, header.symm,
          same.word2, rfl, rfl, rfl⟩, inside, Nat.le_of_lt short, loaded,
        (fun ran => by cases ran), ?_⟩, rfl⟩
        · exact preHeader
        · intro rest found
          exact ⟨(Option.some.inj found).symm, .inl rfl⟩

lemma Same.scanWhile (same : Same fileBuffer locals scan) (noEnd : locals.end_ = none)
    (inside : locals.dduWord ≤ fileBuffer.length)
    (enough : fileBuffer.length - locals.dduWord ≤ words)
    (counted : locals.dduWordCount ≤ maxDDUWords) (accessed : Accessed locals.event locals.accesses) :
    Swept fileBuffer (RawDataFile.scanWhile fileBuffer fileBuffer.length words locals)
      (scanBlock (fileBuffer.drop locals.dduWord) scan) := by
  induction words generalizing locals scan with
  | zero =>
    have all : locals.dduWord = fileBuffer.length := by omega
    rw [all, drop_length]
    exact ⟨same, inside, counted, accessed, fun _ => ⟨noEnd, all⟩,
      fun rest found => by cases found⟩
  | succ words ih =>
    rw [RawDataFile.scanWhile]
    by_cases more : locals.dduWord < fileBuffer.length
    · by_cases short : locals.dduWordCount < maxDDUWords
      · rw [if_pos ⟨more, short⟩]
        dsimp only
        rcases same.scanWord noEnd more (same.dduWordCount ▸ short) accessed with
          ⟨swept, ends⟩ | ⟨goesOn, moved, count, after, next, rest⟩
        · rw [if_pos ends]
          exact swept
        · rw [goesOn, rest, ← moved]
          exact ih next goesOn (by omega) (by omega) (by omega) after
      · have words : fileBuffer.drop locals.dduWord =
            fileBuffer.getD locals.dduWord 0 :: fileBuffer.drop (locals.dduWord + 1) := by
          rw [drop_eq_getElem_cons more, getD_eq_getElem _ _ more]
        rw [if_neg fun both => short both.2, words, scanBlock,
          if_neg fun less => short (same.dduWordCount ▸ less), ← words]
        refine ⟨same, inside, counted, accessed, (fun ran => by cases ran), ?_⟩
        intro rest found
        exact ⟨(Option.some.inj found).symm, .inr ⟨noEnd, by omega⟩⟩
    · have all : locals.dduWord = fileBuffer.length := by omega
      rw [if_neg fun both => more both.1, all, drop_length]
      exact ⟨same, inside, counted, accessed, fun _ => ⟨noEnd, all⟩,
        fun rest found => by cases found⟩

lemma mem_loads {start count access} :
    access ∈ loads obtained start count ↔
      ∃ offset < count, access = .load (start + offset) obtained := by
  simp only [loads, mem_map, mem_range]
  constructor
  · rintro ⟨offset, lower, rfl⟩
    exact ⟨offset, lower, rfl⟩
  · rintro ⟨offset, lower, rfl⟩
    exact ⟨offset, lower, rfl⟩

lemma mem_stores {count access} :
    access ∈ stores event count ↔ ∃ offset < count, access = .store (event + offset) := by
  simp only [stores, mem_map, mem_range]
  constructor
  · rintro ⟨offset, lower, rfl⟩
    exact ⟨offset, lower, rfl⟩
  · rintro ⟨offset, lower, rfl⟩
    exact ⟨offset, lower, rfl⟩

lemma Accessed.reading (accessed : Accessed event accesses) {start count}
    (inside : start + count ≤ obtained) :
    Accessed event (accesses ++ RawDataFile.loads obtained start count) := by
  constructor
  · intro index within member
    rcases mem_append.1 member with before | now
    · exact accessed.loads index within before
    · obtain ⟨offset, lower, same⟩ := mem_loads.1 now
      cases same
      omega
  · intro index
    rw [mem_append, accessed.stores]
    constructor
    · rintro (before | now)
      · exact before
      · obtain ⟨offset, lower, same⟩ := mem_loads.1 now
        cases same
    · exact .inl

lemma Accessed.writing (accessed : Accessed event accesses)
    (count) : Accessed (event + count) (accesses ++ RawDataFile.stores event count) := by
  constructor
  · intro index within member
    rcases mem_append.1 member with before | now
    · exact accessed.loads index within before
    · obtain ⟨offset, lower, same⟩ := mem_stores.1 now
      cases same
  · intro index
    rw [mem_append, accessed.stores]
    constructor
    · rintro (before | now)
      · exact Nat.lt_add_right count before
      · obtain ⟨offset, lower, same⟩ := mem_stores.1 now
        cases same
        exact Nat.add_lt_add_left lower _
    · intro lower
      by_cases before : index < event
      · exact .inl before
      · refine .inr (mem_stores.2 ⟨index - event, by omega, ?_⟩)
        congr 1
        omega

lemma Same.copyOut (same : Same fileBuffer locals scan)
    (inside : locals.dduWord ≤ fileBuffer.length) (accessed : Accessed locals.event locals.accesses) :
    (RawDataFile.copyOut fileBuffer locals).event = 4 * (copy scan).event.length ∧
      Accessed (RawDataFile.copyOut fileBuffer locals).event
        (RawDataFile.copyOut fileBuffer locals).accesses := by
  have ordered := same.ordered
  have event := same.event
  have pending : scan.pending.length = locals.dduWord - locals.start := by
    rw [same.pending, length_take, length_drop]
    omega
  have length : (copy scan).event.length = scan.event.length +
      (if scan.preHeader = 0 then 0 else 1) + (locals.dduWord - locals.start) := by
    simp only [copy, length_append, pending]
    split <;> rfl
  unfold RawDataFile.copyOut
  rw [length, ← same.preHeader]
  by_cases none : locals.preHeader = 0
  · simp only [none, if_true, append_nil]
    have read : locals.start + (locals.dduWord - locals.start) ≤ fileBuffer.length := by omega
    exact ⟨by omega, (accessed.reading read).writing (4 * (locals.dduWord - locals.start))⟩
  · simp only [none, if_false]
    have read : locals.start + (locals.dduWord - locals.start) ≤ fileBuffer.length := by omega
    exact ⟨by omega,
      ((accessed.writing 4).reading read).writing (4 * (locals.dduWord - locals.start))⟩

inductive Placed (fileBuffer : List UInt64) (fileBufferEnd start : Nat) : Prop
  | inside (all : fileBufferEnd = fileBuffer.length) (ordered : start ≤ fileBuffer.length)
  | behind (none : fileBuffer = []) (last : start = fileBufferEnd)

structure AtBlock (fileBuffer : List UInt64) (fileBufferEnd : Nat) (locals : Locals)
    (scan : Scan) : Prop where
  placed : Placed fileBuffer fileBufferEnd locals.start
  event : locals.event = 4 * scan.event.length
  copied : scan.preHeader = 0 ∧ scan.pending = []
  word1 : locals.word1 = scan.word1
  word2 : locals.word2 = scan.word2
  eventStatus : locals.eventStatus = scan.eventStatus
  dduWordCount : locals.dduWordCount = scan.dduWordCount
  noEnd : locals.end_ = none
  counted : locals.dduWordCount ≤ maxDDUWords
  accessed : Accessed locals.event locals.accesses

structure Copies (fileBuffer : List UInt64) (fileBufferEnd : Nat) (locals : Locals)
    (result : Scan × Option (List UInt64)) : Prop where
  event : locals.event = 4 * (copy result.1).event.length
  word1 : locals.word1 = result.1.word1
  word2 : locals.word2 = result.1.word2
  eventStatus : locals.eventStatus = result.1.eventStatus
  dduWordCount : locals.dduWordCount = result.1.dduWordCount
  counted : locals.dduWordCount ≤ maxDDUWords
  accessed : Accessed locals.event locals.accesses
  placed : Placed fileBuffer fileBufferEnd locals.dduWord
  ran : result.2 = none → locals.end_ = none ∧ fileBuffer.drop locals.dduWord = []
  found : ∀ rest, result.2 = some rest → rest = fileBuffer.drop locals.dduWord ∧
    (locals.end_ = some locals.dduWord ∨ locals.end_ = none ∧ locals.dduWordCount = maxDDUWords)

variable {fileBufferEnd : Nat}

lemma AtBlock.copies (here : AtBlock fileBuffer fileBufferEnd locals scan) :
    Copies fileBuffer fileBufferEnd
      (RawDataFile.copyOut fileBuffer (RawDataFile.scanWhile fileBuffer fileBufferEnd
        (fileBufferEnd - locals.start) { locals with dduWord := locals.start, preHeader := 0 }))
      (scanBlock (fileBuffer.drop locals.start) scan) := by
  have same : Same fileBuffer { locals with dduWord := locals.start, preHeader := 0 } scan := by
    refine ⟨here.event, here.copied.1.symm, Nat.le_refl _, ?_, here.word1, here.word2,
      here.eventStatus, here.dduWordCount⟩
    rw [Nat.sub_self]
    exact here.copied.2
  cases here.placed with
  | inside all ordered =>
    subst all
    have swept := same.scanWhile here.noEnd ordered (Nat.le_refl _) here.counted here.accessed
    obtain ⟨event, after⟩ := swept.same.copyOut swept.inside swept.accessed
    refine ⟨event, swept.same.word1, swept.same.word2, swept.same.eventStatus,
      swept.same.dduWordCount, swept.counted, after, .inside rfl swept.inside, ?_, swept.found⟩
    intro none
    obtain ⟨noEnd, all⟩ := swept.ran none
    exact ⟨noEnd, drop_eq_nil_of_le (Nat.le_of_eq all.symm)⟩
  | behind none last =>
    subst none
    have stays : RawDataFile.scanWhile [] fileBufferEnd (fileBufferEnd - locals.start)
        { locals with dduWord := locals.start, preHeader := 0 } =
          { locals with dduWord := locals.start, preHeader := 0 } := by
      rw [last, Nat.sub_self]
      rfl
    rw [stays, drop_nil]
    have nothing : RawDataFile.copyOut [] { locals with dduWord := locals.start, preHeader := 0 } =
        { locals with dduWord := locals.start, preHeader := 0 } := by
      simp [RawDataFile.copyOut, RawDataFile.loads, RawDataFile.stores]
    rw [nothing]
    refine ⟨?_, here.word1, here.word2, here.eventStatus, here.dduWordCount,
      here.counted, here.accessed, .behind rfl last, fun _ => ⟨here.noEnd, drop_nil⟩, nofun⟩
    have whole : (copy scan).event = scan.event := by
      simp [copy, here.copied.1, here.copied.2]
    rw [scanBlock, whole]
    exact here.event

structure Done (done : Locals × List UInt64 × Nat × List (List UInt64))
    (result : Scan × List UInt64 × List (List UInt64)) : Prop where
  event : done.1.event = 4 * result.1.event.length
  word1 : done.1.word1 = result.1.word1
  word2 : done.1.word2 = result.1.word2
  accessed : Accessed done.1.event done.1.accesses
  placed : Placed done.2.1 done.2.2.1 (done.1.end_.getD 0)
  unscanned : result.2.1 = done.2.1.drop (done.1.end_.getD 0)
  blocks : result.2.2 = done.2.2.2

def copiedOut (fileBuffer : List UInt64) (fileBufferEnd : Nat) (locals : Locals) : Locals :=
  RawDataFile.copyOut fileBuffer (RawDataFile.scanWhile fileBuffer fileBufferEnd
    (fileBufferEnd - locals.start) { locals with dduWord := locals.start, preHeader := 0 })

variable {blocks : List (List UInt64)}

lemma readLoop_full
    (full : (copiedOut fileBuffer fileBufferEnd locals).dduWordCount = maxDDUWords) :
    readLoop blocks fileBuffer fileBufferEnd locals =
      ({ copiedOut fileBuffer fileBufferEnd locals with
        end_ := some (copiedOut fileBuffer fileBufferEnd locals).dduWord },
        fileBuffer, fileBufferEnd, blocks) := by
  unfold readLoop
  exact if_pos full

lemma readLoop_found {place}
    (notFull : (copiedOut fileBuffer fileBufferEnd locals).dduWordCount ≠ maxDDUWords)
    (found : (copiedOut fileBuffer fileBufferEnd locals).end_ = some place) :
    readLoop blocks fileBuffer fileBufferEnd locals =
      (copiedOut fileBuffer fileBufferEnd locals, fileBuffer, fileBufferEnd, blocks) := by
  unfold copiedOut at notFull found
  unfold readLoop copiedOut
  rw [if_neg notFull]
  split
  · rfl
  · rename_i none
    rw [found] at none
    cases none
  · rename_i none
    rw [found] at none
    cases none

lemma readLoop_ended
    (notFull : (copiedOut fileBuffer fileBufferEnd locals).dduWordCount ≠ maxDDUWords)
    (none : (copiedOut fileBuffer fileBufferEnd locals).end_ = none) :
    readLoop [] fileBuffer fileBufferEnd locals =
      ({ copiedOut fileBuffer fileBufferEnd locals with
        eventStatus := (copiedOut fileBuffer fileBufferEnd locals).eventStatus ||| endOfStreamBit
        end_ := some fileBufferWords }, [], fileBufferWords, []) := by
  unfold copiedOut at notFull none
  unfold readLoop copiedOut
  rw [if_neg notFull, none]

lemma readLoop_next {block later}
    (notFull : (copiedOut fileBuffer fileBufferEnd locals).dduWordCount ≠ maxDDUWords)
    (none : (copiedOut fileBuffer fileBufferEnd locals).end_ = none) :
    readLoop (block :: later) fileBuffer fileBufferEnd locals =
      readLoop later block block.length
        { copiedOut fileBuffer fileBufferEnd locals with start := 0 } := by
  unfold copiedOut at notFull none
  conv => lhs; unfold readLoop
  unfold copiedOut
  dsimp only
  rw [if_neg notFull, none]

lemma Copies.stops {unscanned}
    (copies : Copies fileBuffer fileBufferEnd (copiedOut fileBuffer fileBufferEnd locals)
      (scanBlock unscanned scan))
    (stops : (copiedOut fileBuffer fileBufferEnd locals).dduWordCount = maxDDUWords ∨
      (scanBlock unscanned scan).2 ≠ none) :
    Done (readLoop blocks fileBuffer fileBufferEnd locals) (scanBlocks blocks unscanned scan) := by
  by_cases full : (copiedOut fileBuffer fileBufferEnd locals).dduWordCount = maxDDUWords
  · rw [readLoop_full full]
    cases ended : (scanBlock unscanned scan).2 with
    | none =>
      rw [scanBlocks_full ended (copies.dduWordCount.symm.trans full)]
      exact ⟨copies.event, copies.word1, copies.word2, copies.accessed, copies.placed,
        (copies.ran ended).2.symm, rfl⟩
    | some rest =>
      rw [scanBlocks_found ended]
      exact ⟨copies.event, copies.word1, copies.word2, copies.accessed, copies.placed,
        (copies.found rest ended).1, rfl⟩
  · cases ended : (scanBlock unscanned scan).2 with
    | none => exact absurd (stops.resolve_left full) (not_not.2 ended)
    | some rest =>
      obtain ⟨unscanned, place | ⟨_, limit⟩⟩ := copies.found rest ended
      · rw [readLoop_found full place, scanBlocks_found ended]
        refine ⟨copies.event, copies.word1, copies.word2, copies.accessed, ?_, ?_, rfl⟩
        · rw [place]
          exact copies.placed
        · rw [place]
          exact unscanned
      · exact absurd limit full

lemma AtBlock.readLoop (here : AtBlock fileBuffer fileBufferEnd locals scan) :
    Done (RawDataFile.readLoop blocks fileBuffer fileBufferEnd locals)
      (scanBlocks blocks (fileBuffer.drop locals.start) scan) := by
  induction blocks generalizing fileBuffer fileBufferEnd locals scan with
  | nil =>
    have copies : Copies _ _ (copiedOut fileBuffer fileBufferEnd locals) _ := here.copies
    by_cases stops : (copiedOut fileBuffer fileBufferEnd locals).dduWordCount = maxDDUWords ∨
        (scanBlock (fileBuffer.drop locals.start) scan).2 ≠ none
    · exact copies.stops stops
    · obtain ⟨notFull, goesOn⟩ := not_or.1 stops
      have none := not_not.1 goesOn
      rw [readLoop_ended notFull (copies.ran none).1,
        scanBlocks_ended none fun full => notFull (copies.dduWordCount.trans full)]
      exact ⟨copies.event, copies.word1, copies.word2, copies.accessed, .behind rfl rfl,
        drop_nil.symm, rfl⟩
  | cons block later ih =>
    have copies : Copies _ _ (copiedOut fileBuffer fileBufferEnd locals) _ := here.copies
    by_cases stops : (copiedOut fileBuffer fileBufferEnd locals).dduWordCount = maxDDUWords ∨
        (scanBlock (fileBuffer.drop locals.start) scan).2 ≠ none
    · exact copies.stops stops
    · obtain ⟨notFull, goesOn⟩ := not_or.1 stops
      have none := not_not.1 goesOn
      rw [readLoop_next notFull (copies.ran none).1,
        scanBlocks_next none fun full => notFull (copies.dduWordCount.trans full)]
      have next : AtBlock block block.length
          { copiedOut fileBuffer fileBufferEnd locals with start := 0 }
          (copy (scanBlock (fileBuffer.drop locals.start) scan).1) :=
        ⟨.inside rfl (Nat.zero_le _), copies.event, ⟨rfl, rfl⟩, copies.word1, copies.word2,
          copies.eventStatus, copies.dduWordCount, (copies.ran none).1, copies.counted,
          copies.accessed⟩
      exact ih next

end

/-! The buffers and the file. -/

structure Represents (buffer : FileBuffer) (file : RawDataFile) : Prop where
  placed : Placed buffer.fileBuffer buffer.fileBufferEnd buffer.end_
  unscanned : file.unscanned = buffer.fileBuffer.drop buffer.end_
  blocks : file.blocks = buffer.blocks
  word1 : buffer.word1 = file.word1
  word2 : buffer.word2 = file.word2

lemma represents_opened (blocks) :
    Represents (FileBuffer.opened blocks) (opened blocks) :=
  ⟨.behind rfl rfl, rfl, rfl, rfl, rfl⟩

variable {file : RawDataFile}

lemma Represents.read {buffer} (represents : Represents buffer file) :
    Represents buffer.read.1 (read file).1 ∧
      Accessed (4 * (RawDataFile.read file).2.buf.length) buffer.read.2 := by
  have start : AtBlock buffer.fileBuffer buffer.fileBufferEnd buffer.locals
      ⟨[], 0, [], file.word1, file.word2, 0, 0⟩ :=
    ⟨represents.placed, rfl, ⟨rfl, rfl⟩, represents.word1, represents.word2, rfl, rfl, rfl,
      Nat.zero_le _, ⟨nofun, fun _ => ⟨nofun, nofun⟩⟩⟩
  have done : Done (RawDataFile.readLoop file.blocks buffer.fileBuffer buffer.fileBufferEnd
      buffer.locals) _ := start.readLoop
  have unscanned : buffer.fileBuffer.drop buffer.locals.start = file.unscanned :=
    represents.unscanned.symm
  rw [unscanned] at done
  have accessed := done.accessed
  rw [done.event] at accessed
  unfold FileBuffer.read
  rw [← represents.blocks]
  exact ⟨⟨done.placed, done.unscanned, done.blocks, done.word1, done.word2⟩, accessed⟩

lemma represents_reads (blocks count) :
    Represents ((FileBuffer.opened blocks).reads count) (reads count (opened blocks)) := by
  have every : ∀ buffer file, Represents buffer file →
      Represents (FileBuffer.reads count buffer) (reads count file) := by
    induction count with
    | zero => exact fun _ _ represents => represents
    | succ count ih => exact fun buffer file represents => ih _ _ represents.read.1
  exact every _ _ (represents_opened blocks)

/-! The size of an event. -/

/-- The header comes first, behind a word that is put in front of it, and there are as many words
as an event may have before the end of it. -/
def Overlong (file : RawDataFile) : Prop :=
  file.headerAt 0 = true ∧ file.word2 ≠ 0 ∧ maxDDUWords ≤ file.left.length ∧
    (∀ index < maxDDUWords - 1, file.stopsAt index = false) ∧
    file.headerEnds (maxDDUWords - 1) = false

lemma Copied.overlong_length {event} (copied : file.Copied words event) (positive : 0 < words)
    (inside : words ≤ file.left.length) (header : file.headerAt 0 = true)
    (some_ : file.word2 ≠ 0) : event.length = words + 1:= by
  rw [Copied, if_pos ⟨positive, header⟩, if_neg some_] at copied
  rw [copied, length_append, length_take, length_singleton]
  omega

lemma Copied.length_plain {event} (copied : file.Copied words event)
    (long : words < event.length) :
    file.headerAt 0 = true ∧ file.word2 ≠ 0 := by
  have bound : (file.left.take words).length ≤ words := length_take_le _ _
  unfold Copied at copied
  split at copied
  · rename_i first
    refine ⟨first.2, ?_⟩
    intro zero
    rw [zero, if_pos rfl, nil_append] at copied
    rw [copied] at long
    omega
  · rcases copied with rfl | ⟨_, _, _, rfl⟩
    · omega
    · rw [length_drop] at long
      omega

lemma overlong_iff (file) :
    (read file).2.buf.length ≤ maxDDUWords ↔ ¬ file.Overlong := by
  obtain ⟨words, status, stopped, _⟩ := read_stopped file
  have positive : 0 < maxDDUWords := by decide
  generalize file.wordsCounted = counted at stopped
  generalize (read file).2.buf = event at stopped ⊢
  constructor
  · rintro fits ⟨header, some_, enough, going, goesOn⟩
    have copied : file.Copied maxDDUWords event := by
      cases trailer : file.trailerBefore (maxDDUWords - 1) with
      | true =>
        have ended := stopped.at_trailer going (by omega) (by omega) goesOn trailer
        exact ended.1
      | false =>
        have limit : file.ReachesLimit := by
          refine ⟨enough, ?_⟩
          intro index below
          by_cases same : index = maxDDUWords - 1
          · rw [same, stopsAt, goesOn, trailer]
            rfl
          · exact going index (by omega)
        have counted := stopped.limit.2 limit
        cases stopped with
        | full _ _ copied => exact copied
        | header _ short => exact absurd counted (Nat.ne_of_lt short)
        | trailer _ short => exact absurd counted (Nat.ne_of_lt short)
        | endOfStream _ short => exact absurd counted (Nat.ne_of_lt short)
    have length := copied.overlong_length positive enough header some_
    omega
  · intro notOverlong
    by_contra tooLong
    refine notOverlong ?_
    cases stopped with
    | full going enough copied =>
      obtain ⟨header, some_⟩ := copied.length_plain (by omega)
      have lastGoes := going (maxDDUWords - 1) (by omega)
      exact ⟨header, some_, enough, fun index below => going index (by omega),
        (Bool.or_eq_false_iff.1 lastGoes).1⟩
    | header _ short _ _ copied =>
      have bound := copied.length_le
      split at bound <;> omega
    | trailer going short inside goesOn _ copied =>
      have bound := copied.length_le
      have place : counted = maxDDUWords - 1 := by
        split at bound <;> omega
      obtain ⟨header, some_⟩ := copied.length_plain (by omega)
      subst place
      exact ⟨header, some_, by omega, going, goesOn⟩
    | endOfStream _ short copied =>
      have bound := copied.length_le
      split at bound <;> omega

lemma Accessed.within_iff (accessed : Accessed (4 * words) accesses) :
    (∀ access ∈ accesses, access.Within) ↔ words ≤ maxDDUWords := by
  have size : rawEventSize = 4 * maxDDUWords := rfl
  constructor
  · intro within
    by_contra long
    have stored : Access.store rawEventSize ∈ accesses := (accessed.stores _).2 (by omega)
    exact absurd (within _ stored) (Nat.lt_irrefl _)
  · intro fits access member
    cases access with
    | load index obtained => exact accessed.loads index obtained member
    | store index =>
      have below := (accessed.stores index).1 member
      change index < rawEventSize
      omega

lemma read_within_iff (blocks count) :
    (∀ access ∈ ((FileBuffer.opened blocks).reads count).read.2, access.Within) ↔
      ¬ (reads count (opened blocks)).Overlong := by
  rw [← overlong_iff]
  exact (represents_reads blocks count).read.2.within_iff

/-- All accesses of the reads are within the words obtained and the event buffer exactly where no
event is overlong. -/
theorem accesses_within_iff (blocks : List (List UInt64)) (calls : Nat) :
    (∀ count < calls, ∀ access ∈ ((FileBuffer.opened blocks).reads count).read.2, access.Within) ↔
      ∀ count < calls, ¬ (reads count (opened blocks)).Overlong := by
  constructor
  · intro within count below
    exact (read_within_iff blocks count).1 (within count below)
  · intro fits count below
    exact (read_within_iff blocks count).2 (fits count below)

def headerWord : UInt64 := 0x8000000180000000

def headerAndZeros : List (List UInt64) :=
  [1, headerWord, headerWord] :: List.replicate 13 (List.replicate fileBufferWords 0)

lemma secondHeader_read (later) :
    (read (opened ([1, headerWord, headerWord] :: later))).1.left = headerWord :: later.flatten ∧
      (read (opened ([1, headerWord, headerWord] :: later))).1.word1 = headerWord ∧
      (read (opened ([1, headerWord, headerWord] :: later))).1.word2 = headerWord := by
  have unread : (scanBlock [] ⟨[], 0, [], 0, 0, 0, 0⟩).2 = none := rfl
  have notFull : (copy (scanBlock [] ⟨[], 0, [], 0, 0, 0, 0⟩).1).dduWordCount ≠ maxDDUWords := by
    decide
  have found : (scanBlock [1, headerWord, headerWord]
      (copy (scanBlock [] ⟨[], 0, [], 0, 0, 0, 0⟩).1)).2 = some [headerWord] := by
    decide +kernel
  have words : (copy (scanBlock [1, headerWord, headerWord]
        (copy (scanBlock [] ⟨[], 0, [], 0, 0, 0, 0⟩).1)).1).word1 = headerWord ∧
      (copy (scanBlock [1, headerWord, headerWord]
        (copy (scanBlock [] ⟨[], 0, [], 0, 0, 0, 0⟩).1)).1).word2 = headerWord := by
    decide +kernel
  have scanned : scanBlocks ([1, headerWord, headerWord] :: later) [] _ = scanBlocks later _ _ :=
    scanBlocks_next unread notFull [1, headerWord, headerWord]
  rw [scanBlocks_found found] at scanned
  unfold read opened left
  rw [scanned]
  exact ⟨rfl, words⟩

lemma headerAndZeros_read :
    (read (opened headerAndZeros)).1.left = headerWord :: replicate 52000 0 ∧
      (read (opened headerAndZeros)).1.word1 = headerWord ∧
      (read (opened headerAndZeros)).1.word2 = headerWord := by
  have zeros : (replicate 13 (replicate fileBufferWords (0 : UInt64))).flatten =
      replicate 52000 0 := flatten_replicate_replicate
  rw [← zeros]
  exact secondHeader_read _

lemma getD_zeros (index count) : (replicate count (0 : UInt64)).getD index 0 = 0 := by
  rw [getD_eq_getElem?_getD, getElem?_replicate]
  split <;> rfl

lemma headerAndZeros_overlong : (reads 1 (opened headerAndZeros)).Overlong := by
  obtain ⟨left, word1, word2⟩ := headerAndZeros_read
  change (read (opened headerAndZeros)).1.Overlong
  have noHeader : ∀ index, 0 < index →
      (read (opened headerAndZeros)).1.headerAt index = false := by
    intro index positive
    obtain ⟨before, rfl⟩ := Nat.exists_eq_succ_of_ne_zero (Nat.ne_of_gt positive)
    rw [headerAt, left, getD_cons_succ, getD_zeros]
    decide
  have noEnd : ∀ index, (read (opened headerAndZeros)).1.headerEnds index = false := by
    intro index
    rcases Nat.eq_zero_or_pos index with rfl | positive
    · exact headerEnds_zero _
    · rw [headerEnds, noHeader index positive, Bool.false_and]
  have noTrailer : ∀ index, (read (opened headerAndZeros)).1.trailerBefore index = false := by
    intro index
    rw [trailerBefore, left, word1, word2]
    by_cases early : index < 3
    · obtain rfl | rfl | rfl : index = 0 ∨ index = 1 ∨ index = 2 := by omega
      · decide
      · decide
      · decide
    · obtain ⟨before, rfl⟩ := Nat.exists_eq_add_of_le' (Nat.not_lt.mp early)
      rw [getD_cons_succ, getD_cons_succ, getD_cons_succ, getD_zeros]
      decide
  refine ⟨?_, ?_, ?_, ?_, noEnd _⟩
  · rw [headerAt, left]
    decide
  · rw [word2]
    decide
  · rw [left, length_cons, length_replicate]
    decide
  · intro index _
    rw [stopsAt, noEnd, noTrailer]
    rfl

theorem written_behind_event : ¬ ∀ blocks calls, ∀ count < calls,
    ∀ access ∈ ((FileBuffer.opened blocks).reads count).read.2, access.Within := by
  intro every
  have within := every headerAndZeros 2 1 (by decide)
  exact (read_within_iff headerAndZeros 1).1 within headerAndZeros_overlong

end EmuLib.Reader.RawDataFile
