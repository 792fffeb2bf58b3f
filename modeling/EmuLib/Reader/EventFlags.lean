import EmuLib.Reader.FileScan

/-!
The status of corrupt events in a raw data file.
-/

namespace EmuLib.Reader.RawDataFile

open List

def reads : Nat → RawDataFile → RawDataFile
  | 0, file => file
  | count + 1, file => reads count (read file).1

/-- The header has its signature in the second word; the first one is missing where the file or
the event before it has not left it. -/
def StartsWithHeader (event : List UInt64) : Prop := ∃ word ∈ event.take 2, isHeader word = true

def EndsWithTrailer (event : List UInt64) : Prop :=
  ∃ front trailer second third,
    event = front ++ [trailer, second, third] ∧ isTrailer trailer = true

def Framed (event : List UInt64) : Prop :=
  ∃ front trailer second third, event = front ++ [trailer, second, third] ∧
    isTrailer trailer = true ∧ StartsWithHeader front

structure Flagged (file : RawDataFile) : Prop where
  oversize : file.wordsCounted = maxDDUWords →
    (read file).1.eventStatus &&& dduOversizeBit ≠ 0
  noTrailer : StartsWithHeader (read file).2.buf → ¬ Framed (read file).2.buf →
    (read file).1.eventStatus &&& (headerBit ||| trailerBit) = headerBit
  noHeader : ¬ StartsWithHeader (read file).2.buf → EndsWithTrailer (read file).2.buf →
    (read file).1.eventStatus &&& (headerBit ||| trailerBit) = trailerBit

/-- The flags of all events, and what `readDDU` makes of them. -/
structure CorruptFlagged (file : RawDataFile) : Prop where
  flagged : ∀ count, Flagged (reads count file)
  framed : ∀ calls, ∀ result ∈ readAll calls file, result.size ≠ 0 → Framed result.buf

section

variable (file : RawDataFile)

def ReachesLimit : Prop :=
  maxDDUWords ≤ file.left.length ∧ ∀ index < maxDDUWords, file.stopsAt index = false

/-- The trailer that is found at the header of the event, or right after it, is one of the two
words in front of the header. -/
def TrailerBeforeHeader : Prop :=
  ∃ index, index ≤ 1 ∧ file.headerAt index = true ∧ file.headerEnds index = false ∧
    (∀ earlier < index, file.stopsAt earlier = false) ∧
    (file.trailerBefore index = true ∨
      index + 1 < file.left.length ∧ file.headerAt (index + 1) = false ∧
        file.trailerBefore (index + 1) = true)

end

/-! The event that has been copied. -/

section

variable {file : RawDataFile} {words counted : Nat} {event : List UInt64} {status : Nat}
variable {index : Nat}

lemma headerAt_inside (header : file.headerAt index = true) : index < file.left.length := by
  by_contra beyond
  rw [headerAt, getD_eq_default _ _ (Nat.not_lt.1 beyond)] at header
  exact absurd header (by decide)

lemma header_not_trailer {word} (header : isHeader word = true) : isTrailer word = false := by
  simp only [isHeader, isTrailer, beq_iff_eq] at header ⊢
  rw [header]
  decide

lemma headerStatus_cases (file : RawDataFile) (count) :
    file.headerStatus count = 0 ∨ file.headerStatus count = headerBit := by
  unfold headerStatus
  split
  · exact .inr rfl
  · exact .inl rfl

lemma startsWithHeader_take (file : RawDataFile) (words) :
    StartsWithHeader (file.left.take words) ↔ file.headerStatus words = headerBit := by
  have zero : (0 : Nat) ≠ headerBit := by decide
  unfold StartsWithHeader
  rcases few_or_many words with rfl | rfl | many
  · simp [zero]
  · rw [headerStatus_one, headerAt]
    cases file.left with
    | nil => simp [zero, show isHeader 0 = false by decide]
    | cons first rest => cases known : isHeader first <;> simp [known, zero]
  · have both : min 2 words = 2 := by omega
    rw [headerStatus_many file many, headerAt, headerAt, take_take, both]
    cases file.left with
    | nil => simp [zero, show isHeader 0 = false by decide]
    | cons first later =>
      cases later with
      | nil =>
        cases known : isHeader first <;> simp [known, zero, show isHeader 0 = false by decide]
      | cons second rest =>
        cases one : isHeader first <;> cases two : isHeader second <;> simp [one, two, zero]

lemma mem_take_two {list : List UInt64} {word} (few : index < 2)
    (there : list[index]? = some word) : word ∈ list.take 2 := by
  apply mem_of_getElem? (i := index)
  rw [getElem?_take_of_lt few, there]

lemma Copied.startsWithHeader (copied : file.Copied words event) :
    StartsWithHeader event ↔ file.headerStatus words = headerBit := by
  unfold Copied at copied
  split at copied
  · rename_i first
    have status : file.headerStatus words = headerBit := by
      rw [headerStatus, decide_eq_true first.1, first.2]
      rfl
    have member : file.left.getD 0 0 ∈ event.take 2 := by
      have inside := headerAt_inside first.2
      rw [copied, getD_eq_getElem _ _ inside]
      have head : (file.left.take words)[0]? = some file.left[0] := by
        rw [getElem?_take_of_lt first.1, getElem?_eq_getElem inside]
      split
      · exact mem_take_two (show 0 < 2 by decide) head
      · exact mem_take_two (show 1 < 2 by decide) head
    exact ⟨fun _ => status, fun _ => ⟨_, member, first.2⟩⟩
  · rcases copied with rfl | ⟨many, second, _, rfl⟩
    · exact startsWithHeader_take file words
    · have inside := headerAt_inside second
      have status : file.headerStatus words = headerBit := by
        rw [headerStatus_many file many, second, Bool.or_true]
        rfl
      have member : file.left.getD 1 0 ∈ ((file.left.take words).drop 1).take 2 := by
        rw [getD_eq_getElem _ _ inside]
        apply mem_take_two (show 0 < 2 by decide)
        rw [getElem?_drop, getElem?_take_of_lt (by omega),
          getElem?_eq_getElem inside]
      exact ⟨fun _ => status, fun _ => ⟨_, member, second⟩⟩

lemma Copied.length_le (copied : file.Copied words event) :
    event.length ≤ words + if file.headerAt 0 then 1 else 0 := by
  have bound : (file.left.take words).length ≤ words := length_take_le _ _
  unfold Copied at copied
  split at copied
  · rename_i first
    rw [copied, if_pos first.2, length_append]
    split
    · rw [length_nil]
      omega
    · rw [length_singleton]
      omega
  · rcases copied with rfl | ⟨_, _, _, rfl⟩
    · omega
    · rw [length_drop]
      omega

lemma Framed.length {event} (framed : Framed event) : 4 ≤ event.length := by
  obtain ⟨front, trailer, second, third, rfl, _, word, member, _⟩ := framed
  cases front with
  | nil => exact absurd member not_mem_nil
  | cons first rest => simp

lemma take_three {list : List UInt64} (inside : index + 3 ≤ list.length) :
    list.take (index + 3) = list.take index ++
      [list.getD index 0, list.getD (index + 1) 0, list.getD (index + 2) 0] := by
  rw [take_getD_succ list (show index + 2 < list.length by omega),
    take_getD_succ list (show index + 1 < list.length by omega),
    take_getD_succ list (show index < list.length by omega)]
  simp

lemma Copied.lastThree {header} (copied : file.Copied (index + 3) event)
    (inside : index + 3 ≤ file.left.length) (few : header ≤ 1) (behind : header < index)
    (here : file.headerAt header = true) :
    ∃ front, file.Copied index front ∧ event = front ++
      [file.left.getD index 0, file.left.getD (index + 1) 0, file.left.getD (index + 2) 0] := by
  have words := take_three inside
  by_cases first : file.headerAt 0 = true
  · rw [Copied, if_pos ⟨by omega, first⟩, words, ← append_assoc] at copied
    refine ⟨_, ?_, copied⟩
    rw [Copied, if_pos ⟨by omega, first⟩]
  · rw [Copied, if_neg fun both => first both.2, words] at copied
    have second : header = 1 := by
      have notZero : header ≠ 0 := by
        rintro rfl
        exact first here
      omega
    subst second
    rcases copied with whole | ⟨_, _, zero, rest⟩
    · refine ⟨file.left.take index, ?_, whole⟩
      rw [Copied, if_neg fun both => first both.2]
      exact .inl rfl
    · refine ⟨(file.left.take index).drop 1, ?_, ?_⟩
      · rw [Copied, if_neg fun both => first both.2]
        exact .inr ⟨behind, here, zero, rfl⟩
      · have long : 1 ≤ (file.left.take index).length := by
          rw [length_take]
          omega
        rw [rest, drop_append_of_le_length long]

lemma Copied.framed {header} (copied : file.Copied (index + 3) event)
    (inside : index + 3 ≤ file.left.length) (few : header ≤ 1) (behind : header < index)
    (here : file.headerAt header = true) (trailer : file.trailerBefore (index + 2) = true) :
    Framed event := by
  obtain ⟨front, before, rfl⟩ := copied.lastThree inside few behind here
  refine ⟨front, _, _, _, rfl, trailer, before.startsWithHeader.2 ?_⟩
  rcases few_or_many index with rfl | rfl | many
  · cases behind
  · have zero : header = 0 := by omega
    subst zero
    rw [headerStatus_one, here]
    rfl
  · rw [headerStatus_many file many]
    have known : (file.headerAt 0 || file.headerAt 1) = true := by
      rcases Nat.le_one_iff_eq_zero_or_eq_one.1 few with rfl | rfl
      · rw [here, Bool.true_or]
      · rw [here, Bool.or_true]
    rw [known]
    rfl

/-! How the event has been ended. -/

lemma Stopped.at_trailer (stopped : file.Stopped words counted event status)
    (going : ∀ earlier < index, file.stopsAt earlier = false) (inside : index < file.left.length)
    (short : index < maxDDUWords) (goesOn : file.headerEnds index = false)
    (ends : file.trailerBefore index = true) :
    file.Copied (index + 1) event ∧ status = file.headerStatus (index + 1) ||| trailerBit := by
  have stops : file.stopsAt index = true := by rw [stopsAt, ends, Bool.or_true]
  cases stopped with
  | full all => exact absurd ((all index short).symm.trans stops) Bool.false_ne_true
  | header all _ _ header =>
    have here : file.stopsAt words = true := by rw [stopsAt, header, Bool.true_or]
    rcases Nat.lt_trichotomy words index with before | rfl | after
    · exact absurd ((going words before).symm.trans here) Bool.false_ne_true
    · exact absurd (goesOn.symm.trans header) Bool.false_ne_true
    · exact absurd ((all index after).symm.trans stops) Bool.false_ne_true
  | trailer all _ _ _ trailer copied =>
    have here : file.stopsAt counted = true := by rw [stopsAt, trailer, Bool.or_true]
    rcases Nat.lt_trichotomy counted index with before | rfl | after
    · exact absurd ((going counted before).symm.trans here) Bool.false_ne_true
    · exact ⟨copied, rfl⟩
    · exact absurd ((all index after).symm.trans stops) Bool.false_ne_true
  | endOfStream all => exact absurd ((all index inside).symm.trans stops) Bool.false_ne_true

lemma Stopped.limit (stopped : file.Stopped words counted event status) :
    counted = maxDDUWords ↔ file.ReachesLimit := by
  constructor
  · intro same
    cases stopped with
    | full going enough => exact ⟨enough, going⟩
    | header _ short => exact absurd same (Nat.ne_of_lt short)
    | trailer _ short => exact absurd same (Nat.ne_of_lt short)
    | endOfStream _ short => exact absurd same (Nat.ne_of_lt short)
  · rintro ⟨enough, all⟩
    cases stopped with
    | full => rfl
    | header _ short _ header =>
      have here : file.stopsAt words = true := by rw [stopsAt, header, Bool.true_or]
      exact absurd ((all words short).symm.trans here) Bool.false_ne_true
    | trailer _ short _ _ trailer =>
      have here : file.stopsAt counted = true := by rw [stopsAt, trailer, Bool.or_true]
      exact absurd ((all counted short).symm.trans here) Bool.false_ne_true
    | endOfStream _ short => exact absurd enough (Nat.not_le.2 short)

/-! The status. -/

lemma eventStatus_and (mask) (other : unknownBit &&& mask = 0) (status) :
    (if isUnknown status then status ||| unknownBit else status) &&& mask = status &&& mask := by
  split
  · rw [Nat.and_or_distrib_right, other, Nat.or_zero]
  · rfl

lemma firstHeader (file : RawDataFile) (known : file.headerStatus words = headerBit) :
    ∃ index, index ≤ 1 ∧ index < words ∧ file.headerAt index = true ∧
      ∀ earlier < index, file.headerAt earlier = false := by
  cases first : file.headerAt 0 with
  | true =>
    have positive : 0 < words := by
      rcases Nat.eq_zero_or_pos words with rfl | positive
      · cases known
      · exact positive
    exact ⟨0, Nat.zero_le 1, positive, first, nofun⟩
  | false =>
    rcases few_or_many words with rfl | rfl | many
    · cases known
    · rw [headerStatus_one, first] at known
      cases known
    · rw [headerStatus_many file many, first] at known
      cases second : file.headerAt 1 with
      | false =>
        rw [second] at known
        cases known
      | true =>
        refine ⟨1, Nat.le_refl 1, many, second, ?_⟩
        intro earlier before
        have zero : earlier = 0 := by omega
        rw [zero]
        exact first

lemma headerEnds_after (few : index ≤ 1) (header : file.headerAt index = true) :
    file.headerEnds (index + 1) = file.headerAt (index + 1) := by
  rcases Nat.le_one_iff_eq_zero_or_eq_one.1 few with rfl | rfl
  · rw [headerEnds_one, header, Bool.and_true]
  · exact headerEnds_many file (by decide)

lemma framed_of_trailer {count} (going : ∀ index < count, file.stopsAt index = false)
    (inside : count < file.left.length) (goesOn : file.headerEnds count = false)
    (ends : file.trailerBefore count = true) (copied : file.Copied (count + 1) event)
    (status : file.headerStatus (count + 1) = headerBit) (plain : ¬ file.TrailerBeforeHeader) :
    Framed event := by
  obtain ⟨header, few, before, here, first⟩ := firstHeader file status
  have earlier : ∀ index < header, file.stopsAt index = false :=
    fun index lower => going index (by omega)
  rcases Nat.lt_trichotomy count (header + 1) with same | next | behind
  · have at_ : count = header := by omega
    subst at_
    exact absurd ⟨count, few, here, goesOn, earlier, .inl ends⟩ plain
  · subst next
    have noEnd : file.headerEnds header = false :=
      (Bool.or_eq_false_iff.1 (going header (Nat.lt_succ_self _))).1
    have noSecond : file.headerAt (header + 1) = false :=
      (headerEnds_after few here).symm.trans goesOn
    exact absurd ⟨header, few, here, noEnd, earlier, .inr ⟨inside, noSecond, ends⟩⟩ plain
  · obtain ⟨index, rfl⟩ : ∃ index, count = index + 2 := ⟨count - 2, by omega⟩
    have different : index ≠ header := by
      rintro rfl
      have both : isTrailer (file.left.getD index 0) = false := header_not_trailer here
      exact absurd (both.symm.trans ends) Bool.false_ne_true
    exact copied.framed inside few (by omega) here ends

lemma Copied.plain (copied : file.Copied words event) (none : file.headerStatus words = 0) :
    event = file.left.take words := by
  unfold headerStatus at none
  split at none
  · cases none
  · rename_i noHeader
    simp only [Bool.or_eq_true, Bool.and_eq_true, decide_eq_true_eq, not_or] at noHeader
    rw [Copied, if_neg noHeader.1] at copied
    rcases copied with whole | ⟨many, second, _⟩
    · exact whole
    · exact absurd ⟨many, second⟩ noHeader.2

lemma Copied.notTrailed (copied : file.Copied words event)
    (going : ∀ index < words, file.stopsAt index = false)
    (none : file.headerStatus words = 0) : ¬ EndsWithTrailer event := by
  rintro ⟨front, trailer, second, third, parts, signature⟩
  have whole := copied.plain none
  have length : front.length + 3 ≤ words := by
    have sizes := congrArg List.length (parts.symm.trans whole)
    rw [length_append, length_take] at sizes
    have three : [trailer, second, third].length = 3 := rfl
    omega
  have there : file.left[front.length]? = some trailer := by
    have same : event[front.length]? = some trailer := by simp [parts]
    rw [whole, getElem?_take_of_lt (by omega)] at same
    exact same
  have before : file.trailerBefore (front.length + 2) = true := by
    have word : file.left.getD front.length 0 = trailer := by
      rw [getD_eq_getElem?_getD, there]
      rfl
    exact (congrArg isTrailer word).trans signature
  have stops := going (front.length + 2) (by omega)
  rw [stopsAt, before, Bool.or_true] at stops
  cases stops

lemma Stopped.flagged (stopped : file.Stopped words counted event status)
    (plain : ¬ file.TrailerBeforeHeader) :
    (StartsWithHeader event → ¬ Framed event → status &&& (headerBit ||| trailerBit) = headerBit) ∧
      (¬ StartsWithHeader event → EndsWithTrailer event →
        status &&& (headerBit ||| trailerBit) = trailerBit) := by
  have noHeader : ∀ count, file.Copied count event → ¬ StartsWithHeader event →
      file.headerStatus count = 0 := by
    intro count copied notFirst
    rcases headerStatus_cases file count with none | header
    · exact none
    · exact absurd (copied.startsWithHeader.2 header) notFirst
  cases stopped with
  | full going enough copied =>
    constructor
    · intro first _
      rw [copied.startsWithHeader.1 first]
      rfl
    · intro notFirst trailer
      exact absurd trailer (copied.notTrailed going (noHeader _ copied notFirst))
  | header going _ _ _ copied known =>
    constructor
    · intro first _
      have header := copied.startsWithHeader.1 first
      rcases known with same | ⟨none, _⟩
      · rw [same, header]
        rfl
      · rw [none] at header
        cases header
    · intro notFirst trailer
      exact absurd trailer (copied.notTrailed going (noHeader _ copied notFirst))
  | trailer going _ inside goesOn ends copied =>
    constructor
    · intro first notFramed
      have header := copied.startsWithHeader.1 first
      exact absurd (framed_of_trailer going inside goesOn ends copied header plain) notFramed
    · intro notFirst _
      rw [noHeader _ copied notFirst]
      rfl
  | endOfStream going _ copied =>
    constructor
    · intro first _
      rw [copied.startsWithHeader.1 first]
      rfl
    · intro notFirst trailer
      exact absurd trailer (copied.notTrailed going (noHeader _ copied notFirst))

lemma headerStatus_of_header (few : index ≤ 1) (before : index < words)
    (here : file.headerAt index = true) : file.headerStatus words = headerBit := by
  unfold headerStatus
  rcases Nat.le_one_iff_eq_zero_or_eq_one.1 few with rfl | rfl
  · rw [here, decide_eq_true before]
    rfl
  · rw [here, decide_eq_true before, Bool.true_and, Bool.or_true]
    rfl

lemma Stopped.misflagged_at {last} (stopped : file.Stopped words counted event status)
    (few : index ≤ 1) (here : file.headerAt index = true) (first : file.headerEnds index = false)
    (near : index ≤ last ∧ last ≤ index + 1)
    (going : ∀ earlier < last, file.stopsAt earlier = false) (inside : last < file.left.length)
    (goesOn : file.headerEnds last = false) (ends : file.trailerBefore last = true) :
    StartsWithHeader event ∧ ¬ Framed event ∧
      status &&& (headerBit ||| trailerBit) = headerBit ||| trailerBit := by
  have short : last < maxDDUWords := by
    unfold maxDDUWords
    omega
  obtain ⟨copied, known⟩ := stopped.at_trailer going inside short goesOn ends
  have header : file.headerStatus (last + 1) = headerBit :=
    headerStatus_of_header few (by omega) here
  refine ⟨copied.startsWithHeader.2 header, ?_, by rw [known, header]; rfl⟩
  intro framed
  have long := framed.length
  have bound := copied.length_le
  rcases Nat.le_one_iff_eq_zero_or_eq_one.1 few with rfl | rfl
  · split at bound <;> omega
  · rw [headerEnds_one, here, Bool.true_and] at first
    rw [first, if_neg Bool.false_ne_true] at bound
    omega

lemma Stopped.misflagged (stopped : file.Stopped words counted event status)
    (remembered : file.TrailerBeforeHeader) :
    StartsWithHeader event ∧ ¬ Framed event ∧
      status &&& (headerBit ||| trailerBit) = headerBit ||| trailerBit := by
  obtain ⟨index, few, here, goesOn, earlier, found⟩ := remembered
  by_cases now : file.trailerBefore index = true
  · exact stopped.misflagged_at few here goesOn ⟨Nat.le_refl _, Nat.le_succ _⟩ earlier
      (headerAt_inside here) goesOn now
  · rcases found with same | ⟨inside, noSecond, next⟩
    · exact absurd same now
    · refine stopped.misflagged_at few here goesOn ⟨Nat.le_succ _, Nat.le_refl _⟩ ?_ inside
        ((headerEnds_after few here).trans noSecond) next
      intro before lower
      rcases Nat.lt_succ_iff_lt_or_eq.1 lower with less | rfl
      · exact earlier before less
      · rw [stopsAt, goesOn, Bool.eq_false_iff.2 now]
        rfl

lemma Stopped.noHeaderBit (stopped : file.Stopped words counted event status)
    (notFirst : ¬ StartsWithHeader event) : status &&& headerBit = 0 := by
  have noHeader : ∀ count, file.Copied count event → file.headerStatus count = 0 := by
    intro count copied
    rcases headerStatus_cases file count with none | header
    · exact none
    · exact absurd (copied.startsWithHeader.2 header) notFirst
  cases stopped with
  | full _ _ copied => rw [noHeader _ copied, Nat.zero_and]
  | header _ _ _ _ copied known =>
    rcases known with same | ⟨_, same⟩
    · rw [same, noHeader _ copied, Nat.zero_and]
    · rw [same]
      rfl
  | trailer _ _ _ _ _ copied =>
    rw [noHeader _ copied]
    rfl
  | endOfStream _ _ copied =>
    rw [noHeader _ copied]
    rfl

lemma Stopped.notOversize (stopped : file.Stopped words counted event status) :
    status &&& dduOversizeBit = 0 := by
  have header : ∀ count, file.headerStatus count &&& dduOversizeBit = 0 ∧
      (file.headerStatus count ||| trailerBit) &&& dduOversizeBit = 0 ∧
      (file.headerStatus count ||| endOfStreamBit) &&& dduOversizeBit = 0 := by
    intro count
    rcases headerStatus_cases file count with same | same <;> rw [same] <;> decide
  cases stopped with
  | full => exact (header _).1
  | header _ _ _ _ _ known =>
    rcases known with same | ⟨_, same⟩
    · rw [same]
      exact (header _).1
    · rw [same]
      rfl
  | trailer => exact (header _).2.1
  | endOfStream => exact (header _).2.2

end

lemma flagged_iff (file) : Flagged file ↔ ¬ file.ReachesLimit ∧ ¬ file.TrailerBeforeHeader := by
  obtain ⟨words, status, stopped, eventStatus⟩ := read_stopped file
  have oversize := eventStatus_and dduOversizeBit rfl status
  have bits := eventStatus_and (headerBit ||| trailerBit) rfl status
  rw [← eventStatus] at oversize bits
  rw [stopped.notOversize] at oversize
  constructor
  · intro flagged
    constructor
    · intro limit
      exact flagged.oversize (stopped.limit.2 limit) oversize
    · intro remembered
      obtain ⟨first, notFramed, both⟩ := stopped.misflagged remembered
      have one := flagged.noTrailer first notFramed
      rw [bits, both] at one
      exact absurd one (by decide)
  · rintro ⟨noLimit, plain⟩
    obtain ⟨noTrailer, noHeader⟩ := stopped.flagged plain
    refine ⟨fun limit => absurd (stopped.limit.1 limit) noLimit, ?_, ?_⟩
    · rw [bits]
      exact noTrailer
    · rw [bits]
      exact noHeader

/-! What `readDDU` returns. -/

structure DefaultCriteria (file : RawDataFile) : Prop where
  select : file.selectCriteria = headerBit ||| trailerBit
  reject : file.rejectCriteria = dduOversizeBit ||| ffffBit ||| unknownBit
  accept : file.acceptCriteria = 0x3f

lemma DefaultCriteria.read {file} (criteria : DefaultCriteria file) :
    DefaultCriteria (read file).1 := ⟨criteria.select, criteria.reject, criteria.accept⟩

lemma DefaultCriteria.accepted {file} (criteria : DefaultCriteria file)
    (accepted : isRejected file = false) : file.eventStatus = headerBit ||| trailerBit := by
  unfold isRejected at accepted
  rw [criteria.select] at accepted
  simp only [Bool.or_eq_false_iff, Bool.and_eq_false_iff] at accepted
  obtain ⟨_, zero | same⟩ := accepted
  · exact absurd zero (by decide)
  · exact (bne_eq_false_iff_eq.1 same).symm

lemma accepted_framed {file} (criteria : DefaultCriteria file)
    (plain : ¬ file.TrailerBeforeHeader) (accepted : isRejected (read file).1 = false) :
    Framed (read file).2.buf := by
  obtain ⟨words, status, stopped, eventStatus⟩ := read_stopped file
  have both := criteria.read.accepted accepted
  have bits := eventStatus_and (headerBit ||| trailerBit) rfl status
  rw [← eventStatus, both] at bits
  have header := eventStatus_and headerBit rfl status
  rw [← eventStatus, both] at header
  by_contra notFramed
  have first : StartsWithHeader (read file).2.buf := by
    by_contra notFirst
    rw [stopped.noHeaderBit notFirst] at header
    exact absurd header (by decide)
  have one := (stopped.flagged plain).1 first notFramed
  rw [← bits] at one
  exact absurd one (by decide)

lemma reads_succ (count file) : reads (count + 1) file = reads count (read file).1 := rfl

lemma reads_add (count more file) :
    reads (count + more) file = reads more (reads count file) := by
  induction count generalizing file with
  | zero => rw [Nat.zero_add]; rfl
  | succ count ih =>
    rw [Nat.succ_add, reads_succ, ih]
    rfl

lemma readDDUFrom_read (turns file) :
    ∃ count, (readDDUFrom turns file).1 = reads count file ∧
      ((readDDUFrom turns file).2.size = 0 ∨
        ∃ before, (readDDUFrom turns file).2 = (read (reads before file)).2 ∧
          isRejected (read (reads before file)).1 = false) := by
  induction turns generalizing file with
  | zero => exact ⟨0, rfl, .inl rfl⟩
  | succ turns ih =>
    unfold readDDUFrom
    by_cases ends : ((read file).2.size = 0 || !isRejected (read file).1) = true
    · rw [if_pos ends]
      refine ⟨1, rfl, ?_⟩
      rw [Bool.or_eq_true, decide_eq_true_eq, Bool.not_eq_true'] at ends
      rcases ends with none | accepted
      · exact .inl none
      · exact .inr ⟨0, rfl, accepted⟩
    · rw [if_neg ends]
      obtain ⟨count, same, found⟩ := ih (read file).1
      refine ⟨count + 1, same, ?_⟩
      rcases found with none | ⟨before, result, accepted⟩
      · exact .inl none
      · exact .inr ⟨before + 1, result, accepted⟩

lemma readAll_framed {file} (criteria : ∀ count, DefaultCriteria (reads count file))
    (plain : ∀ count, ¬ (reads count file).TrailerBeforeHeader) (calls) :
    ∀ result ∈ readAll calls file, result.size ≠ 0 → Framed result.buf := by
  induction calls generalizing file with
  | zero => nofun
  | succ calls ih =>
    obtain ⟨count, after, found⟩ := readDDUFrom_read (file.left.length + 1) file
    have next : (readDDU file).1 = reads count file := after
    have later : ∀ more, reads more (readDDU file).1 = reads (count + more) file := by
      intro more
      rw [next, reads_add]
    intro result member some_
    rcases mem_cons.1 member with rfl | rest
    · rcases found with none | ⟨before, same, accepted⟩
      · exact absurd none some_
      · have framed := accepted_framed (criteria before) (plain before) accepted
        rw [← same] at framed
        exact framed
    · refine ih ?_ ?_ result rest some_
      · intro more
        rw [later]
        exact criteria _
      · intro more
        rw [later]
        exact plain _

lemma DefaultCriteria.reads {file} (criteria : DefaultCriteria file) (count) :
    DefaultCriteria (RawDataFile.reads count file) := by
  induction count generalizing file with
  | zero => exact criteria
  | succ count ih => exact ih criteria.read

/-- Corrupt events are flagged and rejected exactly where no event reaches the limit and none has
a trailer right in front of its header. -/
theorem corrupt_flagged_iff (blocks : List (List UInt64)) :
    CorruptFlagged (opened blocks) ↔
      ∀ count, ¬ (reads count (opened blocks)).ReachesLimit ∧
        ¬ (reads count (opened blocks)).TrailerBeforeHeader := by
  constructor
  · intro corrupt count
    exact (flagged_iff _).1 (corrupt.flagged count)
  · intro plain
    have criteria : DefaultCriteria (opened blocks) := ⟨rfl, rfl, rfl⟩
    exact ⟨fun count => (flagged_iff _).2 (plain count),
      readAll_framed criteria.reads fun count => (plain count).2⟩

theorem trailer_and_header : ¬ ∀ blocks, CorruptFlagged (opened blocks) := by
  intro every
  have framed := (every [[1, 0x8000000180000000, 0x8000ffff80000000, 0x8000000180000000]]).framed 1
    ⟨16, [0x8000ffff80000000, 0x8000000180000000]⟩ (by decide +kernel) (by decide)
  exact absurd framed.length (by decide)

end EmuLib.Reader.RawDataFile
