import Mathlib.Data.List.Count
import Mathlib.Data.List.Induction
import Mathlib.Data.List.TakeWhile
import EmuLib.LevelOne.FunctionManager

/-!
In which runs an application in error brings the function manager to its state of error, and
nothing else.
-/

namespace EmuLib.LevelOne

open List

def goal : State → Option (State × Input)
  | .configuring => some (.configured, .setConfigure)
  | .starting => some (.running, .setStart)
  | .stopping => some (.configured, .setConfigure)
  | .halting => some (.halted, .setHalt)
  | _ => none

def NotificationRight (target : State) (completing : Input) (applications : List String)
    (effects : List Effect) : Prop :=
  effects =
    if State.error.name ∈ applications then [.fire .setError]
    else if ∀ cached ∈ applications, cached = target.name then [.fire completing]
    else []

def EntryRight (effects : List Effect) : Prop :=
  ∀ earlier later, effects = earlier ++ .fire .setError :: later →
    ∀ effect ∈ later, ∃ parameter, effect = .send parameter

def Activation.Right (activation : Activation) : Prop :=
  ∀ target completing, goal activation.state = some (target, completing) →
    match activation.report with
    | some _ => NotificationRight target completing activation.applications activation.effects
    | none => EntryRight activation.effects

def passes (target : State) (cached : String) : Bool :=
  cached == State.error.name || cached == target.name

def NotificationFits (target : State) (applications : List String) : Prop :=
  State.error.name ∉ applications ∨
    (applications.takeWhile (passes target)).count State.error.name = 1 ∧
      applications.all (passes target) = false

def EntryFits (state : State) (applications : Nat) (attempt : Attempt) : Prop :=
  match state with
  | .configuring => applications = 0 ∨ attempt.prepared = false ∨
      (attempt.parametersGiven || attempt.defaultAdded) = true ∧ attempt.parameterSent = true
  | .starting => applications = 0 ∨ attempt.prepared = false ∨
      attempt.parametersGiven = true ∧ attempt.parameterSent = true
  | _ => True

def Activation.Fits (activation : Activation) : Prop :=
  ∀ target completing, goal activation.state = some (target, completing) →
    match activation.report with
    | some _ => NotificationFits target activation.applications
    | none => EntryFits activation.state activation.applications.length activation.attempt

lemma leave_eq (target completing applications) :
    leave target completing applications =
      replicate ((applications.takeWhile (passes target)).count State.error.name)
          (.fire .setError) ++
        if applications.all (passes target) then [.fire completing] else [] := by
  induction applications with
  | nil => rfl
  | cons cached rest ih =>
    unfold leave
    by_cases failed : cached = State.error.name
    · have passed : passes target cached = true := by simp [passes, failed]
      rw [if_pos failed, ih, takeWhile_cons, if_pos passed, all_cons, passed,
        Bool.true_and, failed, count_cons_self, replicate_succ, cons_append]
    · rw [if_neg failed]
      by_cases there : cached = target.name
      · have passed : passes target cached = true := by simp [passes, there]
        rw [if_neg (not_not.mpr there), ih, takeWhile_cons, if_pos passed, all_cons,
          passed, Bool.true_and, count_cons_of_ne failed]
      · have waits : passes target cached = false := by simp [passes, failed, there]
        rw [if_pos there, takeWhile_cons, all_cons, waits]
        rfl

lemma notificationRight_iff (target completing applications) :
    NotificationRight target completing applications (leave target completing applications) ↔
      NotificationFits target applications := by
  unfold NotificationRight NotificationFits
  rw [leave_eq]
  by_cases failed : State.error.name ∈ applications
  · rw [if_pos failed]
    cases all : applications.all (passes target) with
    | true =>
      have whole : applications.takeWhile (passes target) = applications := by
        apply takeWhile_eq_self_iff.mpr
        exact all_eq_true.mp all
      have some : applications.count State.error.name ≠ 0 :=
        Nat.ne_of_gt (count_pos_iff.mpr failed)
      obtain ⟨fewer, counted⟩ := Nat.exists_eq_succ_of_ne_zero some
      rw [whole, counted]
      refine iff_of_false ?_ (by simp [failed])
      intro right
      have lengths := congrArg List.length right
      simp at lengths
    | false =>
      generalize (applications.takeWhile (passes target)).count State.error.name = failures
      constructor
      · intro right
        have one := congrArg List.length right
        simp only [Bool.false_eq_true, if_false, append_nil, length_replicate,
          length_singleton] at one
        exact .inr ⟨one, rfl⟩
      · rintro (none | ⟨rfl, _⟩)
        · exact absurd failed none
        · rfl
  · have none : (applications.takeWhile (passes target)).count State.error.name = 0 := by
      apply count_eq_zero_of_not_mem
      intro inside
      exact failed (takeWhile_subset _ inside)
    have all : applications.all (passes target) = true ↔
        ∀ cached ∈ applications, cached = target.name := by
      rw [all_eq_true]
      refine forall₂_congr fun cached inside => ?_
      have fine : cached ≠ State.error.name := fun same => failed (same ▸ inside)
      simp [passes, fine]
    rw [if_neg failed, none, replicate_zero, nil_append]
    simp only [all, failed, not_false_eq_true, true_or]

lemma entryRight_nil : EntryRight [] := by
  rintro earlier later cut
  exact absurd cut.symm (by simp)

lemma entryRight_cons {effect rest} :
    EntryRight (effect :: rest) ↔
      (effect = .fire .setError → ∀ other ∈ rest, ∃ parameter, other = .send parameter) ∧
        EntryRight rest := by
  constructor
  · intro right
    constructor
    · rintro rfl
      exact right [] rest rfl
    · intro earlier later cut
      exact right (effect :: earlier) later (by rw [cut, cons_append])
  · rintro ⟨first, right⟩ earlier later cut
    cases earlier with
    | nil =>
      obtain ⟨rfl, rfl⟩ := List.cons.inj cut
      exact first rfl
    | cons _ earlier =>
      obtain ⟨_, rfl⟩ := List.cons.inj cut
      exact right earlier later rfl

lemma entryRight_execute (command executed) : EntryRight (executeOrError command executed) := by
  unfold executeOrError orError
  rw [entryRight_cons]
  refine ⟨(fun same => by cases same), ?_⟩
  cases executed with
  | true => exact entryRight_nil
  | false => exact entryRight_cons.mpr ⟨fun _ => by simp, entryRight_nil⟩

/-- An action that sends a parameter and executes a command comes to its end as if nothing had
failed. -/
lemma entryRight_commands (parameter command given sent executed) :
    EntryRight (orError given ++ (sendOrError parameter sent ++ executeOrError command executed)) ↔
      given = true ∧ sent = true := by
  have goesOn : ∀ rest, .execute command ∈ rest → ¬ EntryRight (.fire .setError :: rest) := by
    intro rest inside right
    obtain ⟨_, other⟩ := (entryRight_cons.mp right).1 rfl _ inside
    cases other
  have executes : .execute command ∈ executeOrError command executed := mem_cons_self
  cases given with
  | false =>
    refine iff_of_false (goesOn _ (mem_append_right (sendOrError parameter sent) executes)) ?_
    rintro ⟨given, _⟩
    cases given
  | true =>
    cases sent with
    | false =>
      refine iff_of_false (goesOn _ executes) ?_
      rintro ⟨_, sent⟩
      cases sent
    | true =>
      refine iff_of_true ?_ ⟨rfl, rfl⟩
      refine entryRight_cons.mpr ⟨(fun same => by cases same), ?_⟩
      exact entryRight_execute command executed

lemma entryRight_single (input) : EntryRight [.fire input] := by
  rw [entryRight_cons]
  exact ⟨fun _ => by simp, entryRight_nil⟩

lemma entered_right_iff {state target completing}
    (transitional : goal state = some (target, completing)) (applications attempt) :
    EntryRight (entered state applications attempt) ↔ EntryFits state applications attempt := by
  cases state with
  | configuring =>
    show EntryRight (configureAction applications attempt) ↔ _
    unfold configureAction EntryFits
    by_cases none : applications = 0
    · rw [if_pos none]
      exact iff_of_true (entryRight_single _) (.inl none)
    rw [if_neg none]
    cases prepared : attempt.prepared with
    | true =>
      rw [if_pos rfl, entryRight_commands]
      simp [none]
    | false =>
      refine iff_of_true ?_ (.inr (.inl rfl))
      cases attempt.parametersGiven || attempt.defaultAdded with
      | true => exact entryRight_nil
      | false => exact entryRight_single _
  | starting =>
    show EntryRight (startAction applications attempt) ↔ _
    unfold startAction EntryFits
    by_cases none : applications = 0
    · rw [if_pos none]
      exact iff_of_true (entryRight_single _) (.inl none)
    rw [if_neg none]
    cases prepared : attempt.prepared with
    | true =>
      rw [if_pos rfl, append_assoc, entryRight_commands]
      simp [none]
    | false => exact iff_of_true entryRight_nil (.inr (.inl rfl))
  | stopping =>
    refine iff_of_true ?_ trivial
    show EntryRight (stopAction applications attempt)
    unfold stopAction
    split
    · exact entryRight_single _
    split
    · exact entryRight_execute _ _
    · exact entryRight_nil
  | halting =>
    refine iff_of_true ?_ trivial
    show EntryRight (haltAction applications attempt)
    unfold haltAction
    split
    · exact entryRight_single _
    · exact entryRight_execute _ _
  | _ => cases transitional

section

variable {manager : Manager} {applications : List String}

def Entry.Sound : Entry → Prop
  | .moved input source target => transition input source = some target
  | .handled activation => activation.effects =
      match activation.report with
      | some toState =>
        notified activation.state activation.applications toState activation.attempt
      | none => entered activation.state activation.applications.length activation.attempt

lemma Manager.handle_sound (sound : ∀ entry ∈ manager.log, entry.Sound) {report attempt effects}
    (own : (Entry.handled ⟨manager.state, report, manager.applications, attempt, effects⟩).Sound) :
    ∀ entry ∈ (manager.handle report attempt effects).log, entry.Sound := by
  intro entry inside
  rcases mem_append.mp inside with inside | inside
  · exact sound entry inside
  · rw [mem_singleton.mp inside]
    exact own

lemma Manager.accept_sound (sound : ∀ entry ∈ manager.log, entry.Sound) (input attempt) : ∀ entry
    ∈ (manager.accept input attempt).log, entry.Sound := by
  unfold Manager.accept
  cases moves : transition input manager.state with
  | none => exact sound
  | some target =>
    apply Manager.handle_sound
    · intro entry inside
      rcases mem_append.mp inside with inside | inside
      · exact sound entry inside
      · rw [mem_singleton.mp inside]
        exact moves
    · rfl

lemma Manager.step_sound (sound : ∀ entry ∈ manager.log, entry.Sound) (step) :
    ∀ entry ∈ (manager.step step).log, entry.Sound := by
  cases step with
  | command input attempt =>
    unfold Manager.step
    dsimp only
    split
    · exact Manager.accept_sound sound input attempt
    · exact sound
  | cached application state => exact sound
  | notification application toState attempt =>
    apply Manager.handle_sound
    · exact sound
    · rfl
  | event attempt =>
    unfold Manager.step
    dsimp only
    split
    · exact sound
    · apply Manager.accept_sound
      exact sound

lemma run_sound (applications steps) :
    ∀ entry ∈ (Manager.run applications steps).log, entry.Sound := by
  induction steps using reverseRecOn with
  | nil =>
    intro entry inside
    cases inside
  | append_singleton earlier step ih =>
    unfold Manager.run at ih ⊢
    rw [foldl_append]
    exact Manager.step_sound ih step

lemma activation_right_iff {activation}
    (sound : (Entry.handled activation).Sound) : activation.Right ↔ activation.Fits := by
  obtain ⟨state, report, applications, attempt, effects⟩ := activation
  refine forall_congr' fun target => forall_congr' fun completing =>
    forall_congr' fun transitional => ?_
  have own : effects = _ := sound
  rw [own]
  cases report with
  | some toState =>
    have leaves : notified state applications toState attempt =
        leave target completing applications := by
      cases state <;> cases transitional <;> rfl
    dsimp only
    rw [leaves]
    exact notificationRight_iff target completing applications
  | none => exact entered_right_iff transitional applications.length attempt

lemma error_left {input target} (moves : transition input .error = some target)
    (left : target ≠ .error) : input = .recover ∨ input = .reset := by
  cases input with
  | recover => exact .inl rfl
  | reset => exact .inr rfl
  | setError => exact absurd (Option.some.inj moves).symm left
  | _ => cases moves

end

/-- In a run the errors win exactly where every report finds, among the applications before the
first that is still under way, no error or one, and no action goes on after a failure. -/
theorem errors_win (applications : List String) (steps : List Step) :
    let log := (Manager.run applications steps).log
    ((∀ activation, .handled activation ∈ log → activation.Right) ∧
      ∀ input target, .moved input .error target ∈ log → target ≠ .error →
        input = .recover ∨ input = .reset) ↔
    ∀ activation, .handled activation ∈ log → activation.Fits := by
  have sound := run_sound applications steps
  constructor
  · rintro ⟨right, _⟩ activation inside
    exact (activation_right_iff (sound _ inside)).mp (right activation inside)
  · intro fits
    constructor
    · intro activation inside
      exact (activation_right_iff (sound _ inside)).mpr (fits activation inside)
    · intro input target inside left
      exact error_left (sound _ inside) left

theorem error_completed : ¬ ∀ applications steps activation,
    .handled activation ∈ (Manager.run applications steps).log → activation.Right := by
  intro right
  let fine : Attempt := ⟨true, true, true, true, true⟩
  let steps : List Step := [.command .initializeAll fine, .event fine, .command .configure fine,
    .notification 0 "Error" fine]
  let activation : Activation := ⟨.configuring, some "Error", ["Error"], fine,
    [.fire .setError, .fire .setConfigure]⟩
  have inside : .handled activation ∈ (Manager.run ["Halted"] steps).log := by decide
  have one := right ["Halted"] steps activation inside .configured .setConfigure rfl
  exact absurd (congrArg List.length one) (by decide)

end EmuLib.LevelOne
