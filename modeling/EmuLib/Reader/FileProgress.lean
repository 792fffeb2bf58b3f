import EmuLib.Reader.EventFlags

/-!
The progress of the file reader: what each turn of the loop of `readDDU` takes from the file, and
how the loop and a loop of calls come to an end.
-/

namespace EmuLib.Reader.RawDataFile

open List

def LeavesLoop (file : RawDataFile) : Prop :=
  (read file).2.size = 0 ∨ isRejected (read file).1 = false

def afterCalls : Nat → RawDataFile → RawDataFile
  | 0, file => file
  | calls + 1, file => afterCalls calls (readDDU file).1

/-- A call of `read` takes words off the front of those that are left, at least one of them, or it
reports that the end of the file has been reached. -/
structure Progresses (file : RawDataFile) : Prop where
  leaves : (read file).1.left <:+ file.left
  takes : (read file).1.left.length < file.left.length ∨
    file.left = [] ∧ (read file).1.eventStatus &&& endOfStreamBit ≠ 0

/-- The loop of `readDDU` is left after one of its turns, and a call that returns zero has consumed
the whole file. -/
structure Terminates (file : RawDataFile) : Prop where
  leavesLoop : ∃ turns ≤ file.left.length, LeavesLoop (reads turns file) ∧
    (∀ earlier < turns, ¬ LeavesLoop (reads earlier file)) ∧
    readDDU file = read (reads turns file)
  consumed : (readDDU file).2.size = 0 →
    (readDDU file).1.left = [] ∧ (readDDU file).1.eventStatus &&& endOfStreamBit ≠ 0

section

variable {file : RawDataFile} {words counted : Nat} {event : List UInt64} {status : Nat}

lemma Copied.nonempty (copied : file.Copied words event) (positive : 0 < words)
    (inside : words ≤ file.left.length) : 0 < event.length := by
  have taken : (file.left.take words).length = words := by
    rw [length_take]
    omega
  unfold Copied at copied
  split at copied
  · rw [copied, length_append]
    omega
  · rcases copied with rfl | ⟨many, _, _, rfl⟩
    · omega
    · rw [length_drop]
      omega

lemma headerStatus_noFFFF (file : RawDataFile) (count) :
    file.headerStatus count &&& ffffBit = 0 ∧
      (file.headerStatus count ||| trailerBit) &&& ffffBit = 0 ∧
      (file.headerStatus count ||| endOfStreamBit) &&& ffffBit = 0 := by
  rcases headerStatus_cases file count with same | same <;> rw [same] <;> decide

lemma Copied.extraWords (copied : file.Copied words event) (ends : file.headerEnds words = true)
    (inside : words ≤ file.left.length) (none : file.headerStatus words = 0) : 2 ≤ event.length:= by
  have notOne : words ≠ 1 := by
    rintro rfl
    rw [headerEnds_one, Bool.and_eq_true] at ends
    rw [headerStatus_one, ends.2] at none
    cases none
  have notZero : words ≠ 0 := by
    rintro rfl
    rw [headerEnds_zero] at ends
    cases ends
  have plain := copied.plain none
  rw [plain, length_take]
  omega

lemma Stopped.size (stopped : file.Stopped words counted event status) (unread : file.left ≠ []) :
    0 < event.length ∧ (status &&& ffffBit ≠ 0 → 2 ≤ event.length) := by
  have some_left : 0 < file.left.length := length_pos_iff.mpr unread
  cases stopped with
  | full going enough copied =>
    refine ⟨copied.nonempty (by decide) enough, fun flagged => ?_⟩
    exact absurd (headerStatus_noFFFF file _).1 flagged
  | header going short inside ends copied known =>
    have positive : 0 < words := by
      apply Nat.pos_of_ne_zero
      rintro rfl
      rw [headerEnds_zero] at ends
      cases ends
    refine ⟨copied.nonempty positive (Nat.le_of_lt inside), fun flagged => ?_⟩
    rcases known with same | ⟨none, _⟩
    · rw [same] at flagged
      exact absurd (headerStatus_noFFFF file _).1 flagged
    · exact copied.extraWords ends (Nat.le_of_lt inside) none
  | trailer going short inside goesOn ends copied =>
    refine ⟨copied.nonempty (Nat.succ_pos _) inside, fun flagged => ?_⟩
    exact absurd (headerStatus_noFFFF file _).2.1 flagged
  | endOfStream going short copied =>
    refine ⟨copied.nonempty some_left (Nat.le_refl _), fun flagged => ?_⟩
    exact absurd (headerStatus_noFFFF file _).2.2 flagged

lemma read_something (unread : file.left ≠ []) : 0 < (read file).2.size := by
  obtain ⟨words, status, stopped, eventStatus⟩ := read_stopped file
  obtain ⟨some_copied, extra⟩ := stopped.size unread
  have flags := eventStatus_and ffffBit rfl status
  rw [← eventStatus] at flags
  have size : (read file).2.size = (if (read file).1.eventStatus &&& ffffBit != 0 then
      4 * (read file).2.buf.length - 4 else 4 * (read file).2.buf.length) * 2 := rfl
  rw [size, flags]
  split
  next flagged =>
    have many := extra (by simpa using flagged)
    omega
  next => omega

lemma read_reports (empty : file.left = []) :
    (read file).1.left = [] ∧ (read file).1.eventStatus &&& endOfStreamBit ≠ 0 := by
  obtain ⟨unscanned, blocks⟩ := append_eq_nil_iff.mp empty
  have ends := @scanBlocks_end ⟨[], 0, [], file.word1, file.word2, 0, 0⟩ file.blocks blocks
    rfl rfl
  have status : (read file).1.eventStatus = endOfStreamBit ||| unknownBit := by
    have unknown : isUnknown endOfStreamBit = true := by decide
    unfold read
    rw [unscanned, ends]
    simp only [Nat.zero_or, unknown, if_true]
  constructor
  · unfold read
    rw [unscanned, ends]
    rfl
  · rw [status]
    decide

end

lemma scanBlock_suffix {block rest scan}
    (ends : (scanBlock block scan).2 = some rest) : rest <:+ block := by
  induction block generalizing scan with
  | nil => cases ends
  | cons dduWord block ih =>
    unfold scanBlock at ends
    split at ends
    · split at ends
      · cases ends
        exact suffix_refl _
      · split at ends
        · cases ends
          exact suffix_refl _
        · dsimp only at ends
          split at ends
          · cases ends
            exact suffix_cons _ _
          · exact (ih ends).trans (suffix_cons _ _)
    · cases ends
      exact suffix_refl _

lemma scanBlocks_suffix (blocks unscanned scan) :
    (scanBlocks blocks unscanned scan).2.1 ++ (scanBlocks blocks unscanned scan).2.2.flatten <:+
      unscanned ++ blocks.flatten := by
  induction blocks generalizing unscanned scan with
  | nil =>
    cases ends : (scanBlock unscanned scan).2 with
    | some rest =>
      rw [scanBlocks_found ends, flatten_nil, append_nil, append_nil]
      exact scanBlock_suffix ends
    | none =>
      by_cases full : (copy (scanBlock unscanned scan).1).dduWordCount = maxDDUWords
      · rw [scanBlocks_full ends full]
        exact suffix_append _ _
      · rw [scanBlocks_ended ends full]
        exact nil_suffix
  | cons block blocks ih =>
    cases ends : (scanBlock unscanned scan).2 with
    | some rest =>
      rw [scanBlocks_found ends]
      obtain ⟨scanned, same⟩ := scanBlock_suffix ends
      exact ⟨scanned, by rw [← append_assoc, same]⟩
    | none =>
      by_cases full : (copy (scanBlock unscanned scan).1).dduWordCount = maxDDUWords
      · rw [scanBlocks_full ends full]
        exact suffix_append _ _
      · rw [scanBlocks_next ends full]
        exact (ih block _).trans (suffix_append _ _)

variable {file : RawDataFile}

lemma read_progresses (file) : Progresses file where
  leaves := scanBlocks_suffix file.blocks file.unscanned _
  takes := by
    by_cases empty : file.left = []
    · exact .inr ⟨empty, (read_reports empty).2⟩
    · exact .inl (read_progress empty)

lemma goesOn_shorter (goesOn : ¬ LeavesLoop file) :
    (read file).1.left.length < file.left.length := by
  apply read_progress
  intro empty
  exact goesOn (.inl (read_nothing empty))

lemma readDDUFrom_leaves {turns} (leaves : LeavesLoop file) :
    readDDUFrom (turns + 1) file = read file := by
  have test : (decide ((read file).2.size = 0) || !isRejected (read file).1) = true := by
    rcases leaves with none | accepted
    · simp [none]
    · simp [accepted]
  rw [readDDUFrom, if_pos test]

lemma readDDUFrom_goesOn {turns} (goesOn : ¬ LeavesLoop file) :
    readDDUFrom (turns + 1) file = readDDUFrom turns (read file).1 := by
  obtain ⟨some_read, rejected⟩ := not_or.mp goesOn
  have test : ¬ (decide ((read file).2.size = 0) || !isRejected (read file).1) = true := by
    simp [some_read, rejected]
  rw [readDDUFrom, if_neg test]

lemma readDDUFrom_terminates {turns} (enough : file.left.length < turns) :
    ∃ last ≤ file.left.length, LeavesLoop (reads last file) ∧
      (∀ earlier < last, ¬ LeavesLoop (reads earlier file)) ∧
      readDDUFrom turns file = read (reads last file) := by
  induction turns generalizing file with
  | zero => omega
  | succ turns ih =>
    by_cases leaves : LeavesLoop file
    · exact ⟨0, Nat.zero_le _, leaves, fun _ none => absurd none (Nat.not_lt_zero _),
        readDDUFrom_leaves leaves⟩
    · have shorter := goesOn_shorter leaves
      obtain ⟨last, within, left, before, same⟩ := @ih (read file).1 (by omega)
      refine ⟨last + 1, by omega, left, ?_, (readDDUFrom_goesOn leaves).trans same⟩
      intro earlier below
      cases earlier with
      | zero => exact leaves
      | succ earlier => exact before earlier (by omega)

lemma readDDU_terminates (file) : Terminates file := by
  obtain ⟨turns, within, leaves, before, same⟩ :=
    readDDUFrom_terminates (Nat.lt_succ_self file.left.length)
  refine ⟨⟨turns, within, leaves, before, same⟩, fun zero => ?_⟩
  have last : readDDU file = read (reads turns file) := same
  rw [last] at zero ⊢
  have empty : (reads turns file).left = [] := by
    by_contra unread
    exact absurd zero (Nat.ne_of_gt (read_something unread))
  exact read_reports empty

lemma reads_left (count file) : (reads count file).left.length ≤ file.left.length := by
  induction count generalizing file with
  | zero => exact Nat.le_refl _
  | succ count ih => exact Nat.le_trans (ih _) (read_progresses file).leaves.length_le

lemma readDDU_shorter (some_read : (readDDU file).2.size ≠ 0) :
    (readDDU file).1.left.length < file.left.length := by
  obtain ⟨turns, _, _, _, same⟩ := (readDDU_terminates file).leavesLoop
  rw [same] at some_read ⊢
  have unread : (reads turns file).left ≠ [] := fun empty => some_read (read_nothing empty)
  exact Nat.lt_of_lt_of_le (read_progress unread) (reads_left turns file)

lemma afterCalls_ends (file) : ∃ calls ≤ file.left.length,
    (readDDU (afterCalls calls file)).2.size = 0 ∧
      ∀ earlier < calls, (readDDU (afterCalls earlier file)).2.size ≠ 0 := by
  induction words : file.left.length using Nat.strongRecOn generalizing file with
  | ind words ih =>
    by_cases zero : (readDDU file).2.size = 0
    · exact ⟨0, Nat.zero_le _, zero, fun _ none => absurd none (Nat.not_lt_zero _)⟩
    · have shorter := readDDU_shorter zero
      obtain ⟨calls, within, ends, before⟩ := ih _ (words ▸ shorter) (readDDU file).1 rfl
      refine ⟨calls + 1, by omega, ends, ?_⟩
      intro earlier below
      cases earlier with
      | zero => exact zero
      | succ earlier => exact before earlier (by omega)

/-- Whatever the file holds, wherever the reader stands in it and whatever its criteria are: each
read makes progress, each call of `readDDU` terminates, and a loop of calls ends. -/
theorem file_progress (file : RawDataFile) :
    (∀ count, Progresses (reads count file)) ∧
      (∀ calls, Terminates (afterCalls calls file)) ∧
      ∃ calls ≤ file.left.length, (readDDU (afterCalls calls file)).2.size = 0 ∧
        (afterCalls (calls + 1) file).left = [] ∧
        ∀ earlier < calls, (readDDU (afterCalls earlier file)).2.size ≠ 0 := by
  refine ⟨fun count => read_progresses _, fun calls => readDDU_terminates _, ?_⟩
  obtain ⟨calls, within, ends, before⟩ := afterCalls_ends file
  have after : ∀ (calls : Nat) (file : RawDataFile),
      afterCalls (calls + 1) file = (readDDU (afterCalls calls file)).1 := by
    intro calls
    induction calls with
    | zero => exact fun _ => rfl
    | succ calls ih => exact fun file => ih (readDDU file).1
  refine ⟨calls, within, ends, ?_, before⟩
  rw [after]
  exact ((readDDU_terminates _).consumed ends).1

end EmuLib.Reader.RawDataFile
