import Mathlib.Data.List.Dedup

/-!
Whether the data of a test are complete: what the STEP manager asks for, and the status that it
gives the test.
-/

namespace EmuLib.Step.DataCompleteness

open List

/-- The settings of the FED crates. `rui` is the attribute that the path leads to, and `unread` is
what is found in the variable where there is none. -/
structure FedSettings (File Chamber : Type*) where
  settingsFileNames : List File
  chamberLabels : List Chamber
  rui : File → Chamber → Option UInt32
  unread : File → Chamber → UInt32

section

variable {File Chamber : Type*} (fed : FedSettings File Chamber)

def FedSettings.ruisToReadData : List UInt32 :=
  fed.settingsFileNames.flatMap fun file => fed.chamberLabels.map fun label =>
    (fed.rui file label).getD (fed.unread file label)

/-- The RUIs of the tested chambers; without any tested chamber in FED crates they are those of the
summary. -/
def FedSettings.Reads (instances : List UInt32) (rui : UInt32) : Prop :=
  if fed.ruisToReadData = [] then rui ∈ instances
  else ∃ file ∈ fed.settingsFileNames, ∃ label ∈ fed.chamberLabels, fed.rui file label = some rui

end

/-- What comes back from the groups, of which there is one at least, and from the DAQ manager.
Nothing does where the query throws. -/
structure Replies where
  firstTester : Option UInt64
  otherTesters : List (Option UInt64)
  runSummary : Option (List UInt32 × List UInt64)

def Replies.testers (replies : Replies) : List (Option UInt64) :=
  replies.firstTester :: replies.otherTesters

/-- What the vectors do beyond their end, where they may throw, and whether the line was begun by
then. -/
structure Unspecified where
  beyond : Nat → Option UInt32
  begun : Bool

inductive Detail
  | differentTotals
  | ruiRead (rui : UInt32) (count nEvents : UInt64)
  | unfinished
  deriving DecidableEq

inductive TestStatus
  | done
  | incomplete
  deriving DecidableEq

def testsNEvents : List (Option UInt64) → Option (List UInt64)
  | [] => some []
  | none :: _ => none
  | some nEvents :: rest => (testsNEvents rest).map (nEvents :: ·)

section

variable (unspecified : Unspecified) (ruisToReadData instances : List UInt32) (nEvents : UInt64)

def elementAt (i : Nat) : Option UInt32 := (instances[i]?).or (unspecified.beyond i)

/-- With no RUIs to look for, the instance is only asked for where it is shown. -/
def checkCount (i : Nat) (count : UInt64) : List Detail × Bool :=
  match elementAt unspecified instances i with
  | some rui =>
    if (ruisToReadData = [] ∨ rui ∈ ruisToReadData) ∧ nEvents ≠ 0 ∧ nEvents ≠ count then
      ([.ruiRead rui count nEvents], true)
    else ([], true)
  | none =>
    if ruisToReadData ≠ [] then ([], false)
    else if nEvents ≠ 0 ∧ nEvents ≠ count then
      (if unspecified.begun then [.unfinished] else [], false)
    else ([], true)

def checkCounts : Nat → List UInt64 → List Detail
  | _, [] => []
  | i, count :: rest =>
    let checked := checkCount unspecified ruisToReadData instances nEvents i count
    checked.1 ++ if checked.2 then checkCounts (i + 1) rest else []

def checkDataCompleteness (replies : Replies) : List Detail :=
  match testsNEvents replies.testers with
  | none => []
  | some totals =>
    if totals.dedup.length > 1 then [.differentTotals]
    else
      match replies.runSummary with
      | none => []
      | some (instances, counts) =>
        checkCounts unspecified ruisToReadData instances (totals.headD 0) 0 counts

def testStatus (replies : Replies) : TestStatus :=
  if checkDataCompleteness unspecified ruisToReadData replies = [] then .done else .incomplete

def Passes (i : Nat) (count : UInt64) : Prop :=
  elementAt unspecified instances i ≠ none ∨
    ruisToReadData = [] ∧ (nEvents = 0 ∨ nEvents = count)

def Differs (i : Nat) (count : UInt64) : Prop :=
  nEvents ≠ 0 ∧ nEvents ≠ count ∧
    ((∃ rui, elementAt unspecified instances i = some rui ∧
        (ruisToReadData = [] ∨ rui ∈ ruisToReadData)) ∨
      elementAt unspecified instances i = none ∧ ruisToReadData = [] ∧ unspecified.begun)

/-- Another count than the groups' is found in the summary. -/
def Found (counts : List UInt64) : Prop :=
  ∃ i count, counts[i]? = some count ∧
    Differs unspecified ruisToReadData instances nEvents i count ∧
    ∀ j < i, ∀ earlier, counts[j]? = some earlier →
      Passes unspecified ruisToReadData instances nEvents j earlier

variable {unspecified ruisToReadData instances nEvents}

lemma checkCount_spec (i count) :
    ((checkCount unspecified ruisToReadData instances nEvents i count).1 ≠ [] ↔
        Differs unspecified ruisToReadData instances nEvents i count) ∧
      ((checkCount unspecified ruisToReadData instances nEvents i count).2 = true ↔
        Passes unspecified ruisToReadData instances nEvents i count) := by
  unfold checkCount Differs Passes
  cases elementAt unspecified instances i with
  | some rui =>
    dsimp only
    split
    next wrong =>
      have differs := And.intro wrong.2.1 (And.intro wrong.2.2 wrong.1)
      simpa using differs
    next fine =>
      refine ⟨⟨fun never => absurd rfl never, ?_⟩, by simp⟩
      rintro ⟨positive, other, ⟨read, same, selected⟩ | ⟨missing, -⟩⟩
      · cases same
        exact absurd ⟨selected, positive, other⟩ fine
      · cases missing
  | none =>
    dsimp only
    split
    next some_ => simp [some_]
    next all =>
      have all := not_not.1 all
      split
      next wrong => cases begun : unspecified.begun <;> simp [wrong, all]
      next fine =>
        have right : nEvents = 0 ∨ nEvents = count := by
          by_contra wrong
          exact fine (not_or.1 wrong)
        refine ⟨⟨fun never => absurd rfl never, ?_⟩, by simp [all, right]⟩
        rintro ⟨positive, other, -⟩
        exact absurd ⟨positive, other⟩ fine

lemma checkCounts_spec (counts k) :
    checkCounts unspecified ruisToReadData instances nEvents k counts ≠ [] ↔
      ∃ i count, counts[i]? = some count ∧
        Differs unspecified ruisToReadData instances nEvents (k + i) count ∧
        ∀ j < i, ∀ earlier, counts[j]? = some earlier →
          Passes unspecified ruisToReadData instances nEvents (k + j) earlier := by
  induction counts generalizing k with
  | nil => simp [checkCounts]
  | cons count rest ih =>
    obtain ⟨first, further⟩ := @checkCount_spec unspecified ruisToReadData instances nEvents k count
    rw [checkCounts, Ne, append_eq_nil_iff, not_and_or, ← Ne, first]
    constructor
    · rintro (differs | later)
      · exact ⟨0, count, rfl, differs, fun j before => absurd before (Nat.not_lt_zero j)⟩
      · split at later
        next passes =>
          obtain ⟨i, other, found, differs, before⟩ := (ih (k + 1)).1 later
          refine ⟨i + 1, other, found, by rwa [Nat.add_right_comm] at differs, ?_⟩
          intro j below earlier here
          cases j with
          | zero =>
            cases here
            exact further.1 passes
          | succ j =>
            rw [← Nat.add_assoc, Nat.add_right_comm]
            exact before j (Nat.lt_of_succ_lt_succ below) earlier here
        next => exact absurd rfl later
    · rintro ⟨i, other, found, differs, before⟩
      cases i with
      | zero =>
        cases found
        exact .inl differs
      | succ i =>
        have passes := further.2 (before 0 (Nat.succ_pos i) count rfl)
        rw [if_pos passes]
        refine .inr ((ih (k + 1)).2 ⟨i, other, found, by rwa [Nat.add_right_comm], ?_⟩)
        intro j below earlier here
        rw [Nat.add_right_comm]
        exact before (j + 1) (Nat.succ_lt_succ below) earlier here

lemma checkCounts_nil_iff (counts) :
    checkCounts unspecified ruisToReadData instances nEvents 0 counts = [] ↔
      ¬Found unspecified ruisToReadData instances nEvents counts := by
  have spec := @checkCounts_spec unspecified ruisToReadData instances nEvents counts 0
  simp only [Nat.zero_add] at spec
  rw [Found, ← spec, not_not]

end

section

variable {File Chamber : Type*} (unspecified : Unspecified) (fed : FedSettings File Chamber)
  (replies : Replies)

def Complete : Prop :=
  ∃ nEvents, (∀ reply ∈ replies.testers, reply = some nEvents) ∧
    ∃ instances counts, replies.runSummary = some (instances, counts) ∧
      (nEvents = 0 ∨ instances.length = counts.length ∧
        ∀ rui, fed.Reads instances rui → rui ∈ instances ∧
          ∀ entry ∈ instances.zip counts, entry.1 = rui → entry.2 = nEvents)

def Faulty (nEvents : UInt64) (instances : List UInt32) (counts : List UInt64) : Prop :=
  instances.length ≠ counts.length ∨ ∃ rui, fed.Reads instances rui ∧
    (rui ∉ instances ∨ ∃ entry ∈ instances.zip counts, entry.1 = rui ∧ entry.2 ≠ nEvents)

/-- The groups all answer, and where they agree the DAQ manager does; then, for a number of events
that is not zero, a wrong count is found in a summary that has a fault, or none is found, the lists
are of one length and no RUI is missing. -/
def Judged : Prop :=
  (∀ reply ∈ replies.testers, reply ≠ none) ∧
    ∀ nEvents, (∀ reply ∈ replies.testers, reply = some nEvents) →
      ∃ instances counts, replies.runSummary = some (instances, counts) ∧
        (nEvents ≠ 0 →
          Found unspecified fed.ruisToReadData instances nEvents counts ∧
              Faulty fed nEvents instances counts ∨
            ¬Found unspecified fed.ruisToReadData instances nEvents counts ∧
              instances.length = counts.length ∧ ∀ rui, fed.Reads instances rui → rui ∈ instances)

lemma testsNEvents_eq {testers} :
    (testsNEvents testers = none ∧ none ∈ testers) ∨
      ∃ totals, testsNEvents testers = some totals ∧ testers = totals.map some := by
  induction testers with
  | nil => exact .inr ⟨[], rfl, rfl⟩
  | cons reply rest ih =>
    cases reply with
    | none => exact .inl ⟨rfl, mem_cons_self⟩
    | some nEvents =>
      rcases ih with ⟨failed, member⟩ | ⟨totals, read, rfl⟩
      · exact .inl ⟨by rw [testsNEvents, failed]; rfl, mem_cons_of_mem _ member⟩
      · exact .inr ⟨nEvents :: totals, by rw [testsNEvents, read]; rfl, rfl⟩

lemma dedup_short_iff (first : UInt64) (rest) :
    (first :: rest).dedup.length ≤ 1 ↔ ∀ total ∈ first :: rest, total = first := by
  constructor
  · intro short total member
    have one := mem_dedup.2 member
    have other := mem_dedup.2 (mem_cons_self (a := first) (l := rest))
    rcases listed : (first :: rest).dedup with _ | ⟨only, _ | ⟨second, more⟩⟩
    · rw [listed] at one
      cases one
    · rw [listed, mem_singleton] at one other
      rw [one, other]
    · rw [listed] at short
      exact absurd (Nat.le_of_succ_le_succ short) (Nat.not_succ_le_zero _)
  · intro same
    have single : (first :: rest).dedup ⊆ [first] := fun total member =>
      mem_singleton.2 (same total (mem_dedup.1 member))
    exact (nodup_dedup _).length_le_of_subset single

variable {unspecified fed replies} {nEvents : UInt64} {instances : List UInt32}
  {counts : List UInt64}

lemma read_selected {rui} (reads : fed.Reads instances rui) :
    fed.ruisToReadData = [] ∨ rui ∈ fed.ruisToReadData := by
  by_cases all : fed.ruisToReadData = []
  · exact .inl all
  · rw [FedSettings.Reads, if_neg all] at reads
    obtain ⟨file, settings, label, tested, is⟩ := reads
    refine .inr (mem_flatMap.2 ⟨file, settings, mem_map.2 ⟨label, tested, ?_⟩⟩)
    rw [is]
    rfl

lemma counts_right (nonzero : nEvents ≠ 0) (count : instances.length = counts.length)
    (right : ¬Found unspecified fed.ruisToReadData instances nEvents counts) {rui}
    (reads : fed.Reads instances rui) {entry} (member : entry ∈ instances.zip counts)
    (is : entry.1 = rui) : entry.2 = nEvents:= by
  by_contra wrong
  obtain ⟨i, inside, here⟩ := mem_iff_getElem.1 member
  rw [getElem_zip] at here
  subst here
  have bound : i < instances.length ∧ i < counts.length := by
    rwa [length_zip, Nat.lt_min] at inside
  dsimp only at is wrong
  refine right ⟨i, counts[i], getElem?_eq_getElem bound.2,
    ⟨nonzero, fun same => wrong same.symm, .inl ⟨rui, ?_, read_selected reads⟩⟩, ?_⟩
  · rw [elementAt, getElem?_eq_getElem bound.1, is]
    rfl
  · intro j before _ _
    rw [Passes, elementAt, getElem?_eq_getElem (Nat.lt_trans before bound.1)]
    exact .inl (Option.some_ne_none _)

lemma not_faulty_iff : ¬Faulty fed nEvents instances counts ↔ instances.length = counts.length ∧
    ∀ rui, fed.Reads instances rui → rui ∈ instances ∧
      ∀ entry ∈ instances.zip counts, entry.1 = rui → entry.2 = nEvents := by
  simp only [Faulty, not_or, not_not, not_exists, not_and]

lemma summary_right_iff :
    (checkCounts unspecified fed.ruisToReadData instances nEvents 0 counts = [] ↔
        nEvents = 0 ∨ instances.length = counts.length ∧ ∀ rui, fed.Reads instances rui →
          rui ∈ instances ∧ ∀ entry ∈ instances.zip counts, entry.1 = rui → entry.2 = nEvents) ↔
      (nEvents ≠ 0 →
        Found unspecified fed.ruisToReadData instances nEvents counts ∧
            Faulty fed nEvents instances counts ∨
          ¬Found unspecified fed.ruisToReadData instances nEvents counts ∧
            instances.length = counts.length ∧ ∀ rui, fed.Reads instances rui → rui ∈ instances) := by
  rw [checkCounts_nil_iff, ← not_faulty_iff]
  by_cases zero : nEvents = 0
  · have nothing : ¬Found unspecified fed.ruisToReadData instances nEvents counts := by
      rintro ⟨i, count, here, differs, -⟩
      exact differs.1 zero
    simp only [zero] at nothing ⊢
    simp [nothing]
  · by_cases found : Found unspecified fed.ruisToReadData instances nEvents counts
    · simp [zero, found]
    · simp only [zero, found, not_false_eq_true, false_or, true_iff, false_and, true_and, ne_eq,
        forall_const, not_faulty_iff]
      constructor
      · exact fun right => ⟨right.1, fun rui reads => (right.2 rui reads).1⟩
      · exact fun right => ⟨right.1, fun rui reads => ⟨right.2 rui reads,
          fun entry member is => counts_right zero right.1 found reads member is⟩⟩

lemma status_done_iff (details : List Detail) :
    (if details = [] then TestStatus.done else TestStatus.incomplete) = .done ↔ details = [] := by
  split
  next none_ => simp [none_]
  next some_ => simp [some_]

end

section

variable {File Chamber : Type*} (unspecified : Unspecified) (fed : FedSettings File Chamber)
  (replies : Replies)

theorem status_right_iff :
    (testStatus unspecified fed.ruisToReadData replies = .done ↔ Complete fed replies) ↔
      Judged unspecified fed replies := by
  rcases @testsNEvents_eq replies.testers with ⟨failed, silent⟩ | ⟨totals, read, testers⟩
  · have done : testStatus unspecified fed.ruisToReadData replies = .done := by
      rw [testStatus, checkDataCompleteness, failed, if_pos rfl]
    constructor
    · intro right
      obtain ⟨nEvents, all, -⟩ := right.1 done
      cases all none silent
    · intro judged
      exact absurd rfl (judged.1 none silent)
  · have answered : ∀ reply ∈ replies.testers, reply ≠ none := by
      rw [testers]
      intro reply member
      obtain ⟨total, -, rfl⟩ := mem_map.1 member
      exact Option.some_ne_none total
    obtain ⟨first, rest, rfl⟩ : ∃ first rest, totals = first :: rest := by
      cases totals with
      | nil => cases testers
      | cons first rest => exact ⟨first, rest, rfl⟩
    have agree (nEvents : UInt64) : (∀ reply ∈ replies.testers, reply = some nEvents) ↔
        ∀ total ∈ first :: rest, total = nEvents := by
      simp [testers]
    by_cases one : ∀ total ∈ first :: rest, total = first
    · have alone (nEvents : UInt64) :
          (∀ reply ∈ replies.testers, reply = some nEvents) ↔ nEvents = first := by
        rw [agree]
        constructor
        · exact fun all => (all first mem_cons_self).symm
        · rintro rfl
          exact one
      have short : ¬(first :: rest).dedup.length > 1 :=
        Nat.not_lt.2 ((dedup_short_iff first rest).2 one)
      simp only [Complete, Judged, alone, testStatus, checkDataCompleteness, read, if_neg short,
        exists_eq_left, forall_eq, headD_cons]
      cases summary : replies.runSummary with
      | none => simp
      | some lists =>
        obtain ⟨instances, counts⟩ := lists
        have alone_ (P : List UInt32 → List UInt64 → Prop) : (∃ others more,
            some (instances, counts) = some (others, more) ∧ P others more) ↔
              P instances counts := by
          simp [and_assoc]
        rw [and_iff_right answered, alone_, alone_, ← @summary_right_iff _ _ unspecified]
        exact iff_congr (status_done_iff _) Iff.rfl
    · have different : (first :: rest).dedup.length > 1 :=
        Nat.lt_of_not_le fun short => one ((dedup_short_iff first rest).1 short)
      have apart (nEvents : UInt64) : ¬∀ reply ∈ replies.testers, reply = some nEvents := by
        rw [agree]
        intro all
        have same := all first mem_cons_self
        exact one (same ▸ all)
      have incomplete : testStatus unspecified fed.ruisToReadData replies = .incomplete := by
        simp [testStatus, checkDataCompleteness, read, different]
      rw [incomplete]
      refine ⟨fun _ => ⟨answered, fun nEvents all => absurd all (apart nEvents)⟩, fun _ => ?_⟩
      refine ⟨fun never => (by cases never), ?_⟩
      rintro ⟨nEvents, all, -⟩
      exact absurd all (apart nEvents)

end

theorem failed_query_done :
    let fed : FedSettings Nat Nat := ⟨[0], [8], fun _ _ => some 2, fun _ _ => 0⟩
    let replies : Replies := ⟨some 100, [none], some ([2], [50])⟩
    testStatus ⟨fun _ => none, false⟩ fed.ruisToReadData replies = .done ∧
      ¬Complete fed replies := by
  refine ⟨by decide, ?_⟩
  rintro ⟨nEvents, all, -⟩
  cases all none (by simp [Replies.testers])

end EmuLib.Step.DataCompleteness
