import EmuLib.Lib.GuardedRun
import EmuLib.Ta.Application

/-!
The credits of one run, from the `Enable` command on: how many of them have become triggers, and
which steps lose some.
-/

namespace EmuLib.Ta

open GuardedRun CyclicNumbers

/-- The adapter, the credit messages whose callbacks have not got past the wait for votes, and
the history of the run. -/
structure Run where
  ta : Application
  waiting : List U32
  received : Nat
  votes : List (Fin l1aNumbers)
  sent : List Nat

inductive Input
  | creditReceived (nbCredits : U32)
  | creditHandled (position accepts : Nat)
  | firstEventNumber (vote : Fin l1aNumbers)
  | command (command : Command)

def Run.start (ta : Application) (descriptors : UnsignedInteger64) : Run where
  ta := fireEvent .enable (fireEvent (.configure (some descriptors)) ta)
  waiting := []
  received := 0
  votes := []
  sent := []

def Run.step (run : Run) : Input → Run
  | .creditReceived nbCredits =>
    { run with
      waiting := run.waiting ++ [nbCredits]
      received := run.received + nbCredits }
  | .creditHandled position accepts =>
    match run.waiting[position]? with
    | none => run
    | some nbCredits =>
      if run.ta.waitsForVotes then run
      else
        let outcome := taCreditMsg accepts nbCredits run.ta
        { run with
          ta := outcome.ta
          waiting := run.waiting.eraseIdx position
          sent := run.sent ++ outcome.triggers }
  | .firstEventNumber vote =>
    { run with
      ta := (firstEventNumberMsg vote run.ta).ta
      votes := run.votes ++ [vote] }
  | .command command => { run with ta := fireEvent command run.ta }

def total : List U32 → Nat
  | [] => 0
  | nbCredits :: rest => nbCredits + total rest

def largest : List (Fin l1aNumbers) → Nat
  | [] => 0
  | vote :: rest => max vote.val (largest rest)

def atMost (maxNumTriggers : Integer64) (credits : Nat) : Nat :=
  if maxNumTriggers.val < 0 then credits else min credits maxNumTriggers.val.toNat

/-- A message counts as received once its callback need not wait any more. -/
structure NoCreditLost (run : Run) : Prop where
  consecutive : run.sent = counted l1aNumbers (largest run.votes) run.sent.length
  spent : run.ta.currentState = .enabled → run.ta.nEmuRUIs ≤ run.votes.length →
    run.ta.waitsForVotes = false ∧
      run.sent.length = atMost run.ta.maxNumTriggers (run.received - total run.waiting)

def WithinRun : Input → Prop
  | .command .halt => False
  | .command .reset => False
  | _ => True

def LosesNothing (run : Run) : Input → Prop
  | .creditReceived _ => True
  | .creditHandled position accepts =>
    ∀ nbCredits ∈ run.waiting[position]?, run.ta.waitsForVotes = false →
      (run.ta.currentState = .suspended → run.ta.triggersDue nbCredits = 0) ∧
        run.ta.triggersDue nbCredits ≤ accepts
  | .firstEventNumber vote =>
    run.ta.currentState = .enabled ∧
      (run.ta.nVotesForFirstEventNumber < run.ta.nEmuRUIs ∨
        vote.val ≤ run.ta.biggestFirstEventNumber ∧
          run.ta.nVotesForFirstEventNumber + 1 < word64)
  | .command _ => True

instance (input : Input) : Decidable (WithinRun input) :=
  match input with
  | .command .halt => inferInstanceAs (Decidable False)
  | .command .reset => inferInstanceAs (Decidable False)
  | .command (.configure _) => inferInstanceAs (Decidable True)
  | .command .enable => inferInstanceAs (Decidable True)
  | .command .suspend => inferInstanceAs (Decidable True)
  | .command .resume => inferInstanceAs (Decidable True)
  | .creditReceived _ => inferInstanceAs (Decidable True)
  | .creditHandled _ _ => inferInstanceAs (Decidable True)
  | .firstEventNumber _ => inferInstanceAs (Decidable True)

instance (run : Run) (input : Input) : Decidable (LosesNothing run input) :=
  match input with
  | .creditReceived _ => inferInstanceAs (Decidable True)
  | .creditHandled position accepts =>
    let waiting := run.waiting[position]?.toList
    -- by the list: a search through all 32-bit numbers would not end
    @decidable_of_iff _ (∀ nbCredits ∈ waiting, run.ta.waitsForVotes = false →
        (run.ta.currentState = .suspended → run.ta.triggersDue nbCredits = 0) ∧
          run.ta.triggersDue nbCredits ≤ accepts)
      (by simp only [waiting, Option.mem_toList, Option.mem_def, LosesNothing])
      (List.decidableBAll _ _)
  | .firstEventNumber vote =>
    inferInstanceAs (Decidable (run.ta.currentState = .enabled ∧
      (run.ta.nVotesForFirstEventNumber < run.ta.nEmuRUIs ∨
        vote.val ≤ run.ta.biggestFirstEventNumber ∧
          run.ta.nVotesForFirstEventNumber + 1 < word64)))
  | .command _ => inferInstanceAs (Decidable True)

structure Accounted (run : Run) : Prop where
  active : run.ta.Active
  emuRUIs : run.ta.nEmuRUIs < word64
  votes : run.ta.nVotesForFirstEventNumber = run.votes.length
  biggest : run.ta.biggestFirstEventNumber = largest run.votes
  eventNumber : run.votes ≠ [] ∨ run.ta.nEmuRUIs = 0 →
    run.ta.eventNumber = (run.ta.biggestFirstEventNumber + run.sent.length) % word64
  early : run.ta.waitsForVotes = true → run.received = total run.waiting
  received : total run.waiting ≤ run.received
  sent : run.sent = counted l1aNumbers run.ta.biggestFirstEventNumber run.sent.length
  spent : run.sent.length = atMost run.ta.maxNumTriggers (run.received - total run.waiting)

@[simp] lemma total_append (first second) :
    total (first ++ second) = total first + total second := by
  induction first with
  | nil => simp [total]
  | cons nbCredits rest ih =>
    simp only [List.cons_append, total, ih]
    omega

lemma total_eraseIdx {waiting : List U32} {position : Nat} {nbCredits}
    (found : waiting[position]? = some nbCredits) :
    total (waiting.eraseIdx position) + nbCredits = total waiting := by
  induction waiting generalizing position with
  | nil => simp at found
  | cons first rest ih =>
    cases position with
    | zero =>
      simp only [List.getElem?_cons_zero, Option.some.injEq] at found
      simp only [List.eraseIdx_cons_zero, total, found]
      omega
    | succ position =>
      have later := ih (by simpa using found)
      simp only [List.eraseIdx_cons_succ, total]
      omega

lemma largest_snoc (votes vote) : largest (votes ++ [vote]) = max (largest votes) vote.val := by
  induction votes with
  | nil => simp [largest]
  | cons first rest ih =>
    simp only [List.cons_append, largest, ih]
    omega

lemma largest_lt (votes) : largest votes < l1aNumbers := by
  induction votes with
  | nil => decide
  | cons vote rest ih =>
    simp only [largest]
    omega

@[simp] lemma atMost_zero (maxNumTriggers) : atMost maxNumTriggers 0 = 0 := by
  simp [atMost]

section

variable {run : Run}

lemma Accounted.biggest_lt (accounted : Accounted run) :
    run.ta.biggestFirstEventNumber < l1aNumbers := by
  rw [accounted.biggest]
  exact largest_lt run.votes

lemma Accounted.voted (accounted : Accounted run) (released : run.ta.waitsForVotes = false) :
    run.votes ≠ [] ∨ run.ta.nEmuRUIs = 0 := by
  have complete : run.ta.nEmuRUIs ≤ run.votes.length := by
    rw [← accounted.votes]
    simpa [Application.waitsForVotes] using released
  cases empty : run.votes with
  | nil =>
    simpa [empty] using complete
  | cons vote rest =>
    simp

lemma Accounted.due (accounted : Accounted run) (released : run.ta.waitsForVotes = false)
    (credits) :
    run.sent.length + run.ta.triggersDue credits =
      atMost run.ta.maxNumTriggers (run.received - total run.waiting + credits) := by
  have small := accounted.biggest_lt
  have number := accounted.eventNumber (accounted.voted released)
  have spent := accounted.spent
  have l1a : l1aNumbers = 0x1000000 := rfl
  have word : word64 = 0x10000000000000000 := rfl
  have range := run.ta.maxNumTriggers.property
  unfold atMost at spent ⊢
  unfold Application.triggersDue
  by_cases unlimited : run.ta.maxNumTriggers.val < 0
  · simp only [unlimited, if_true] at spent ⊢
    omega
  · simp only [unlimited, if_false] at spent ⊢
    have limit : (run.ta.biggestFirstEventNumber + run.ta.maxNumTriggers.val.toNat) % word64 =
        run.ta.biggestFirstEventNumber + run.ta.maxNumTriggers.val.toNat :=
      Nat.mod_eq_of_lt (by omega)
    have unwrapped : (run.ta.biggestFirstEventNumber + run.sent.length) % word64 =
        run.ta.biggestFirstEventNumber + run.sent.length := Nat.mod_eq_of_lt (by omega)
    omega

lemma start_accounted {ta descriptors} (halted : ta.currentState = .halted)
    (numbered : ta.eventNumber = 0 ∨ 0 < descriptors.val) :
    Accounted (Run.start ta descriptors) := by
  have state : (Run.start ta descriptors).ta =
      (configureAction descriptors ta).moveTo .enabled := by
    simp [Run.start, fireEvent, halted, Application.moveTo, configureAction]
  constructor
  · left
    rw [state]
    rfl
  · rw [state]
    exact descriptors.isLt
  · rw [state]
    rfl
  · rw [state]
    rfl
  · rw [state]
    intro voted
    have none : descriptors.val = 0 := by
      rcases voted with some | none
      · exact absurd rfl some
      · exact none
    rcases numbered with zero | positive
    · exact zero
    · omega
  · intro _
    rfl
  · exact Nat.le_refl 0
  · rfl
  · simp [Run.start, total]

lemma received_accounted (accounted : Accounted run) (nbCredits) :
    Accounted (run.step (.creditReceived nbCredits)) := by
  have handled : run.received + nbCredits.val - total (run.waiting ++ [nbCredits]) =
      run.received - total run.waiting := by
    simp only [total_append, total]
    omega
  constructor
  · exact accounted.active
  · exact accounted.emuRUIs
  · exact accounted.votes
  · exact accounted.biggest
  · exact accounted.eventNumber
  · intro waits
    have early := accounted.early waits
    simp only [Run.step, total_append, total]
    omega
  · have received := accounted.received
    simp only [Run.step, total_append, total]
    omega
  · exact accounted.sent
  · exact accounted.spent.trans (congrArg (atMost _) handled.symm)

lemma command_accounted (accounted : Accounted run) (command)
    (within : WithinRun (.command command)) : Accounted (run.step (.command command)) := by
  have goesOn : command ≠ .halt := by
    rintro rfl
    exact within
  have kept : command ≠ .reset := by
    rintro rfl
    exact within
  obtain ⟨state, active, same⟩ := fireEvent_active accounted.active goesOn kept
  have stepped : run.step (.command command) = { run with ta := run.ta.moveTo state } :=
    congrArg (fun ta => { run with ta := ta }) same
  rw [stepped]
  exact ⟨active, accounted.emuRUIs, accounted.votes, accounted.biggest, accounted.eventNumber,
    accounted.early, accounted.received, accounted.sent, accounted.spent⟩

lemma Accounted.sent_nil (accounted : Accounted run) (waits : run.ta.waitsForVotes = true) :
    run.sent = [] := by
  apply List.eq_nil_of_length_eq_zero
  rw [accounted.spent, accounted.early waits, Nat.sub_self, atMost_zero]

lemma vote_counted_accounted (accounted : Accounted run) (vote)
    (enabled : run.ta.currentState = .enabled) (waits : run.ta.waitsForVotes = true) :
    Accounted (run.step (.firstEventNumber vote)) := by
  have fewer : run.ta.nVotesForFirstEventNumber < run.ta.nEmuRUIs := by
    simpa [Application.waitsForVotes] using waits
  have ta := @firstEventNumberMsg_counted run.ta vote enabled fewer accounted.emuRUIs
  have early := accounted.early waits
  have biggest : max run.ta.biggestFirstEventNumber vote = largest (run.votes ++ [vote]) := by
    rw [accounted.biggest, largest_snoc]
  have bound : max run.ta.biggestFirstEventNumber vote.val < word64 := by
    rw [biggest]
    exact Nat.lt_trans (largest_lt _) (by decide)
  constructor
  all_goals simp only [Run.step, ta, accounted.sent_nil waits]
  · left
    exact enabled
  · exact accounted.emuRUIs
  · simp [accounted.votes]
  · exact biggest
  · intro _
    exact (Nat.mod_eq_of_lt bound).symm
  · intro _
    exact early
  · exact accounted.received
  · rfl
  · simp [early]

lemma vote_beyond_accounted (accounted : Accounted run) (vote)
    (enabled : run.ta.currentState = .enabled) (released : run.ta.waitsForVotes = false)
    (small : vote.val ≤ run.ta.biggestFirstEventNumber)
    (word : run.ta.nVotesForFirstEventNumber + 1 < word64) :
    Accounted (run.step (.firstEventNumber vote)) := by
  have complete : run.ta.nEmuRUIs ≤ run.ta.nVotesForFirstEventNumber := by
    simpa [Application.waitsForVotes] using released
  have ta := @firstEventNumberMsg_beyond run.ta vote enabled complete word
  constructor
  all_goals simp only [Run.step, ta]
  · left
    exact enabled
  · exact accounted.emuRUIs
  · simp [accounted.votes]
  · rw [largest_snoc, ← accounted.biggest]
    exact (Nat.max_eq_left small).symm
  · intro _
    exact accounted.eventNumber (accounted.voted released)
  · intro waits
    simp only [Application.waitsForVotes, decide_eq_true_eq] at waits
    omega
  · exact accounted.received
  · exact accounted.sent
  · exact accounted.spent

lemma handled_accounted (accounted : Accounted run) (position accepts)
    (taken : LosesNothing run (.creditHandled position accepts)) :
    Accounted (run.step (.creditHandled position accepts)) := by
  cases found : run.waiting[position]? with
  | none => simpa only [Run.step, found] using accounted
  | some nbCredits =>
    cases waits : run.ta.waitsForVotes with
    | true => simpa only [Run.step, found, waits, if_true] using accounted
    | false =>
      obtain ⟨unheld, posted⟩ := taken nbCredits found waits
      have handled : run.received - total run.waiting + nbCredits.val =
          run.received - total (run.waiting.eraseIdx position) := by
        have erased := total_eraseIdx found
        have received := accounted.received
        omega
      have due := accounted.due waits nbCredits
      rw [handled] at due
      have number := accounted.eventNumber (accounted.voted waits)
      have bound : run.ta.eventNumber < word64 := by
        rw [number]
        exact Nat.mod_lt _ (by decide)
      obtain ⟨triggers, held, after⟩ := taCreditMsg_active accounted.active bound unheld posted
      have stepped : run.step (.creditHandled position accepts) = { run with
          ta := (taCreditMsg accepts nbCredits run.ta).ta
          waiting := run.waiting.eraseIdx position
          sent := run.sent ++ counted l1aNumbers run.ta.eventNumber
            (run.ta.triggersDue nbCredits) } := by
        simp only [Run.step, found, waits, triggers, Bool.false_eq_true, if_false]
      rw [stepped, after]
      constructor
      all_goals simp only [List.length_append, counted_length]
      · exact accounted.active
      · exact accounted.emuRUIs
      · exact accounted.votes
      · exact accounted.biggest
      · intro _
        rw [number, Nat.mod_add_mod, Nat.add_assoc]
      · intro stillWaits
        exact absurd (waits.symm.trans stillWaits) Bool.false_ne_true
      · have erased := total_eraseIdx found
        have received := accounted.received
        omega
      · rw [counted_append, ← accounted.sent, number, counted_wrapped l1aNumbers_dvd]
      · exact due

end

lemma step_accounted (run input) (accounted : Accounted run)
    (guard : WithinRun input ∧ LosesNothing run input) : Accounted (run.step input) := by
  cases input with
  | creditReceived nbCredits => exact received_accounted accounted nbCredits
  | creditHandled position accepts => exact handled_accounted accounted position accepts guard.2
  | firstEventNumber vote =>
    obtain ⟨enabled, room⟩ := guard.2
    cases waits : run.ta.waitsForVotes with
    | true => exact vote_counted_accounted accounted vote enabled waits
    | false =>
      rcases room with fewer | ⟨small, word⟩
      · simp only [Application.waitsForVotes, decide_eq_false_iff_not] at waits
        exact absurd fewer waits
      · exact vote_beyond_accounted accounted vote enabled waits small word
  | command command => exact command_accounted accounted command guard.1

lemma Accounted.noCreditLost {run} (accounted : Accounted run) : NoCreditLost run where
  consecutive := by
    rw [← accounted.biggest]
    exact accounted.sent
  spent _ complete := by
    refine ⟨?_, accounted.spent⟩
    rw [← accounted.votes] at complete
    simpa [Application.waitsForVotes] using complete

/-- Every run in which no credits are held and no vote is refused sends all its triggers. -/
theorem run_loses_no_credit {ta : Application} {descriptors : UnsignedInteger64}
    (halted : ta.currentState = .halted) (numbered : ta.eventNumber = 0 ∨ 0 < descriptors.val)
    (inputs : List Input)
    (guarded : Guarded Run.step (fun run input => WithinRun input ∧ LosesNothing run input)
      (Run.start ta descriptors) inputs) :
    NoCreditLost (runFrom Run.step (Run.start ta descriptors) inputs) := by
  have accounted : Accounted (runFrom Run.step (Run.start ta descriptors) inputs) :=
    run_invariant step_accounted (start_accounted halted numbered) guarded
  exact accounted.noCreditLost

/-- A run with a maximum of four triggers, in which the first credits come before the vote. -/
def clippedRun : List Input :=
  [.creditReceived ⟨2, by decide⟩, .firstEventNumber ⟨0xFFFFFF, by decide⟩, .creditHandled 0 2,
    .command .suspend, .creditReceived ⟨3, by decide⟩, .command .resume, .creditHandled 0 3]

theorem clipped_run_loses_no_credit :
    NoCreditLost (runFrom Run.step
      (Run.start (.constructed ⟨4, by decide⟩) ⟨1, by decide⟩) clippedRun) := by
  apply run_loses_no_credit
  · rfl
  · left
    rfl
  · decide

/-- The only readout unit votes, and five credits come in while the adapter is suspended. -/
def suspendedRun : List Input :=
  [.firstEventNumber ⟨7, by decide⟩, .command .suspend, .creditReceived ⟨5, by decide⟩,
    .creditHandled 0 5, .command .resume]

theorem suspended_run_loses_credits :
    (∀ input ∈ suspendedRun, WithinRun input) ∧
      ¬ NoCreditLost (runFrom Run.step
        (Run.start (.constructed ⟨-1, by decide⟩) ⟨1, by decide⟩) suspendedRun) := by
  constructor
  · decide
  · intro kept
    have spent := (kept.spent (by decide) (by decide)).2
    exact absurd spent (by decide)

lemma sendNTriggers_length (accepts n ta) :
    (sendNTriggers accepts n ta).triggers.length ≤ n := by
  induction n generalizing accepts ta with
  | zero => exact Nat.le_refl 0
  | succ n ih =>
    rw [sendNTriggers]
    split
    · split
      · exact Nat.zero_le _
      · exact Nat.succ_le_succ (ih ..)
    · exact Nat.zero_le _

lemma taCreditMsg_length (accepts nbCredits ta) :
    (taCreditMsg accepts nbCredits ta).triggers.length ≤ nbCredits := by
  unfold taCreditMsg
  split
  · exact Nat.zero_le _
  · exact Nat.zero_le _
  · exact sendNTriggers_length ..
  · exact Nat.zero_le _
  · exact Nat.zero_le _

/-- In every run, whatever is refused, held or halted in it, the triggers sent and the credits that
are still waiting are together no more than the credits received. -/
theorem triggers_never_exceed_credits (ta : Application) (descriptors : UnsignedInteger64)
    (inputs : List Input) :
    let run := runFrom Run.step (Run.start ta descriptors) inputs
    run.sent.length + total run.waiting ≤ run.received := by
  apply @run_preserved _ _ Run.step (fun run => run.sent.length + total run.waiting ≤ run.received)
  · intro run input within
    cases input with
    | creditReceived nbCredits =>
      simp only [Run.step, total_append, total]
      omega
    | creditHandled position accepts =>
      simp only [Run.step]
      split
      · exact within
      · next nbCredits found =>
        split
        · exact within
        · have erased := total_eraseIdx found
          have few := taCreditMsg_length accepts nbCredits run.ta
          simp only [List.length_append]
          omega
    | firstEventNumber vote => exact within
    | command command => exact within
  · exact Nat.le_refl 0

end EmuLib.Ta
