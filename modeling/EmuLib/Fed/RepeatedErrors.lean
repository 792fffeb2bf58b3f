import EmuLib.Fed.FmmRelease

/-!
The fibers that are in error at releases of the FMMs in different incidents.
-/

namespace EmuLib.Fed.RepeatedErrors

open GuardedRun FmmRelease

/-- What befalls the history of a DDU. In a list of events the last one stands first. -/
inductive Event
  | recorded (status : BitVec 16)
  | released
  | reset
deriving DecidableEq

def historyOf : List Event → FiberHistory
  | [] => ⟨0, 0, 0⟩
  | .recorded status :: earlier => { historyOf earlier with current := status }
  | .released :: earlier => (historyOf earlier).shift
  | .reset :: earlier => (historyOf earlier).clearCurrent

def inError : List Event → BitVec 16
  | [] => 0
  | .recorded status :: _ => status
  | .released :: earlier => inError earlier
  | .reset :: _ => 0

def pending : List Event → BitVec 16
  | [] => 0
  | .recorded status :: _ => status
  | .released :: _ => 0
  | .reset :: _ => 0

/-- The fiber was in error at a release, and the events after it are of a kind. -/
def FailedBefore (bit : Nat) (kind : List Event → Prop) (events : List Event) : Prop :=
  ∃ recent earlier, events = recent ++ .released :: earlier ∧ kind recent ∧
    (inError earlier).getLsbD bit = true

def Once (bit : Nat) (events : List Event) : Prop := FailedBefore bit (fun _ => True) events

def InThisIncident (bit : Nat) (events : List Event) : Prop := FailedBefore bit (.reset ∉ ·) events

def InAnEarlierIncident (bit : Nat) (events : List Event) : Prop :=
  FailedBefore bit (.reset ∈ ·) events

def Twice (bit : Nat) (events : List Event) : Prop :=
  ∃ later earlier, events = later ++ .released :: earlier ∧
    (inError earlier).getLsbD bit = true ∧ InAnEarlierIncident bit earlier

variable {bit : Nat} {events : List Event}

lemma split_cons {event} {property : List Event → List Event → Prop} :
    (∃ recent earlier, event :: events = recent ++ .released :: earlier ∧ property recent earlier) ↔
      event = .released ∧ property [] events ∨
        ∃ recent earlier, events = recent ++ .released :: earlier ∧
          property (event :: recent) earlier := by
  constructor
  · rintro ⟨recent, earlier, same, holds⟩
    cases recent with
    | nil =>
      obtain ⟨rfl, rfl⟩ := List.cons.inj same
      exact .inl ⟨rfl, holds⟩
    | cons newest recent =>
      obtain ⟨rfl, rfl⟩ := List.cons.inj same
      exact .inr ⟨recent, earlier, rfl, holds⟩
  · rintro (⟨rfl, holds⟩ | ⟨recent, earlier, rfl, holds⟩)
    · exact ⟨[], events, rfl, holds⟩
    · exact ⟨event :: recent, earlier, rfl, holds⟩

lemma failedBefore_cons (event kind) :
    FailedBefore bit kind (event :: events) ↔
      event = .released ∧ kind [] ∧ (inError events).getLsbD bit = true ∨
        FailedBefore bit (fun recent => kind (event :: recent)) events :=
  split_cons

lemma twice_cons (event) :
    Twice bit (event :: events) ↔
      event = .released ∧ (inError events).getLsbD bit = true ∧ InAnEarlierIncident bit events ∨
        Twice bit events :=
  split_cons

lemma not_failedBefore_nil (kind) : ¬ FailedBefore bit kind [] := by
  rintro ⟨recent, earlier, same, -⟩
  simp at same

lemma not_twice_nil : ¬ Twice bit [] := by
  rintro ⟨later, earlier, same, -⟩
  simp at same

lemma once_iff :
    Once bit events ↔ InThisIncident bit events ∨ InAnEarlierIncident bit events := by
  constructor
  · rintro ⟨recent, earlier, split, -, failed⟩
    by_cases among : Event.reset ∈ recent
    · exact .inr ⟨recent, earlier, split, among, failed⟩
    · exact .inl ⟨recent, earlier, split, among, failed⟩
  · rintro (⟨recent, earlier, split, -, failed⟩ | ⟨recent, earlier, split, -, failed⟩)
    · exact ⟨recent, earlier, split, trivial, failed⟩
    · exact ⟨recent, earlier, split, trivial, failed⟩

lemma twice_of_both (now : InThisIncident bit events) (before : InAnEarlierIncident bit events) :
    Twice bit events := by
  obtain ⟨recent, middle, rfl, here, failed⟩ := now
  refine ⟨recent, middle, rfl, failed, ?_⟩
  induction recent with
  | nil =>
    obtain ⟨_, never, _⟩ | before := (failedBefore_cons _ _).1 before
    · exact absurd never (List.not_mem_nil)
    · obtain ⟨between, earlier, split, among, first⟩ := before
      exact ⟨between, earlier, split, by simpa using among, first⟩
  | cons event recent ih =>
    obtain ⟨_, never, _⟩ | before := (failedBefore_cons _ _).1 before
    · exact absurd never (List.not_mem_nil)
    · obtain ⟨other, _⟩ := not_or.1 (List.mem_cons.not.1 here)
      obtain ⟨between, earlier, split, among, first⟩ := before
      have further : Event.reset ∈ between := (List.mem_cons.1 among).resolve_left other
      exact ih ⟨between, earlier, split, further, first⟩
        fun among => here (List.mem_cons_of_mem _ among)

lemma historyOf_current : (historyOf events).current = pending events := by
  cases events with
  | nil => rfl
  | cons event earlier => cases event <;> rfl

lemma inError_of_pending (waiting : (pending events).getLsbD bit = true) :
    (inError events).getLsbD bit = true := by
  cases events with
  | nil => exact waiting
  | cons event earlier =>
    cases event with
    | recorded status => exact waiting
    | released => simp [pending] at waiting
    | reset => exact waiting

lemma pending_or_released (failing : (inError events).getLsbD bit = true) :
    (pending events).getLsbD bit = true ∨ InThisIncident bit events := by
  cases events with
  | nil => exact .inl failing
  | cons event earlier =>
    cases event with
    | recorded status => exact .inl failing
    | released => exact .inr ⟨[], earlier, rfl, List.not_mem_nil, failing⟩
    | reset => exact .inl failing

lemma historyOf_first : (historyOf events).first.getLsbD bit = true ↔ Once bit events := by
  induction events with
  | nil => simp [historyOf, Once, not_failedBefore_nil]
  | cons event earlier ih =>
    rw [Once, failedBefore_cons]
    cases event with
    | recorded status => simpa [historyOf, Once] using ih
    | reset => simpa [historyOf, FiberHistory.clearCurrent, Once] using ih
    | released =>
      have first : (historyOf (.released :: earlier)).first.getLsbD bit = true ↔
          Once bit earlier ∨ (pending earlier).getLsbD bit = true := by
        rw [← ih, ← historyOf_current, historyOf, FiberHistory.shift, BitVec.getLsbD_or,
          Bool.or_eq_true]
      rw [first]
      constructor
      · rintro (once | waiting)
        · exact .inr once
        · exact .inl ⟨rfl, trivial, inError_of_pending waiting⟩
      · rintro (⟨_, _, failing⟩ | once)
        · exact (pending_or_released failing).symm.imp_left fun now => once_iff.2 (.inl now)
        · exact .inl once

/-- No fiber goes into a release that was in error at an earlier one of the same incident, unless
it was in error in two incidents. -/
def CountsOnce (events : List Event) : Prop :=
  ∀ bit, (pending events).getLsbD bit = true → InThisIncident bit events → Twice bit events

lemma second_released_iff
    (right : ∀ bit, (historyOf events).second.getLsbD bit = true ↔ Twice bit events) :
    (∀ bit, (historyOf (.released :: events)).second.getLsbD bit = true ↔
      Twice bit (.released :: events)) ↔ CountsOnce events := by
  refine forall_congr' fun bit => ?_
  have second : (historyOf (.released :: events)).second.getLsbD bit = true ↔
      Twice bit events ∨ (pending events).getLsbD bit = true ∧ Once bit events := by
    rw [← right, ← historyOf_first, ← historyOf_current, historyOf, FiberHistory.shift,
      BitVec.getLsbD_or, Bool.or_eq_true, BitVec.getLsbD_and, Bool.and_eq_true]
  rw [second, twice_cons]
  constructor
  · intro same waiting now
    obtain ⟨_, _, before⟩ | twice := same.1 (.inr ⟨waiting, once_iff.2 (.inl now)⟩)
    · exact twice_of_both now before
    · exact twice
  · intro counts
    constructor
    · rintro (twice | ⟨waiting, once⟩)
      · exact .inr twice
      · rcases once_iff.1 once with now | before
        · exact .inr (counts waiting now)
        · exact .inl ⟨rfl, inError_of_pending waiting, before⟩
    · rintro (⟨_, failing, before⟩ | twice)
      · rcases pending_or_released failing with waiting | now
        · exact .inr ⟨waiting, once_iff.2 (.inr before)⟩
        · exact .inl (twice_of_both now before)
      · exact .inl twice

def eventOf (system : System) (crate slot : Nat) : Input → Option Event
  | .go other =>
    match (system.thread other).phase with
    | .resetting => if other = crate then some .reset else none
    | .recording handled =>
      if other = crate ∧ handled.slot = slot then some (.recorded (handled.combinedStatus &&& 0x7fff))
      else none
    | .released _ release => if release = .none_ then none else some .released
    | _ => none
  | _ => none

lemma step_history (setup system crate slot input) {events}
    (agrees : system.errorHistory crate slot = historyOf events) :
    (step setup system input).errorHistory crate slot =
      historyOf ((eventOf system crate slot input).toList ++ events) := by
  cases input with
  | interrupt other irq =>
    have kept : (system.interrupt setup other irq).errorHistory = system.errorHistory := by
      rw [System.interrupt]
      split <;> rfl
    rw [step]
    split
    · rw [kept]
      exact agrees
    · exact agrees
  | poll other =>
    rw [step]
    split <;> exact agrees
  | fail other => exact agrees
  | go other =>
    rw [step, eventOf]
    cases (system.thread other).phase with
    | resetting =>
      by_cases same : other = crate
      · subst same
        simp [System.restart, agrees, historyOf]
      · simp [System.restart, same, Ne.symm same, agrees]
    | recording handled =>
      dsimp only
      by_cases same : other = crate ∧ handled.slot = slot
      · obtain ⟨rfl, rfl⟩ := same
        simp [System.record, agrees, historyOf]
      · rw [if_neg same]
        by_cases crates : other = crate
        · subst crates
          simp [System.record, Ne.symm (fun slots => same ⟨rfl, slots⟩), agrees]
        · simp [System.record, Ne.symm crates, agrees, System.setPhase, System.setThread]
    | released handled release =>
      by_cases none : release = .none_
      · simp [System.finish, none, agrees, System.setPhase, System.setThread]
      · simp [System.finish, none, agrees, historyOf]
    | barrier => exact agrees
    | counting handled => exact agrees
    | waiting => exact agrees
    | ended => exact agrees

structure Watched where
  system : System
  events : Nat → Nat → List Event
  agrees : ∀ crate slot, system.errorHistory crate slot = historyOf (events crate slot)

namespace Watched

def initial : Watched := ⟨.initial, fun _ _ => [], fun _ _ => rfl⟩

def step (setup : Setup) (watched : Watched) (input : Input) : Watched where
  system := FmmRelease.step setup watched.system input
  events crate slot :=
    (eventOf watched.system crate slot input).toList ++ watched.events crate slot
  agrees crate slot := step_history setup watched.system crate slot input (watched.agrees crate slot)

/-- The ignore lists hold the fibers that were in error in two incidents. -/
def Right (watched : Watched) : Prop :=
  ∀ crate slot bit, (watched.system.errorHistory crate slot).second.getLsbD bit = true ↔
    Twice bit (watched.events crate slot)

def ReleasesOnce (watched : Watched) (input : Input) : Prop :=
  ∀ crate slot, eventOf watched.system crate slot input = some .released →
    CountsOnce (watched.events crate slot)

lemma step_right_iff (setup) (watched : Watched) (input) (right : watched.Right) :
    (watched.step setup input).Right ↔ watched.ReleasesOnce input := by
  refine forall_congr' fun crate => forall_congr' fun slot => ?_
  have before : ∀ bit, (historyOf (watched.events crate slot)).second.getLsbD bit = true ↔
      Twice bit (watched.events crate slot) := fun bit => by
    rw [← watched.agrees]
    exact right crate slot bit
  rw [(watched.step setup input).agrees]
  change (∀ bit, (historyOf ((eventOf watched.system crate slot input).toList ++
    watched.events crate slot)).second.getLsbD bit = true ↔ Twice bit (_ ++ _)) ↔ _
  cases eventOf watched.system crate slot input with
  | none => simpa using before
  | some event =>
    cases event with
    | released => simpa using second_released_iff before
    | recorded status => simpa [historyOf, twice_cons] using before
    | reset => simpa [historyOf, twice_cons, FiberHistory.clearCurrent] using before

end Watched

def watch (setup : Setup) (inputs : List Input) : Watched :=
  runFrom (Watched.step setup) .initial inputs

lemma watch_system (setup inputs) : (watch setup inputs).system = run setup inputs := by
  have from_ : ∀ watched : Watched,
      (runFrom (Watched.step setup) watched inputs).system =
        runFrom (step setup) watched.system inputs := by
    induction inputs with
    | nil => exact fun _ => rfl
    | cons input rest ih => exact fun watched => ih (watched.step setup input)
  exact from_ .initial

theorem ignored_iff_twice (setup : Setup) (inputs : List Input) :
    (∀ crate slot bit, ((run setup inputs).errorHistory crate slot).first.getLsbD bit = true ↔
      Once bit ((watch setup inputs).events crate slot)) ∧
    ((∀ earlier, earlier <+: inputs → ∀ crate slot bit,
        ((run setup earlier).errorHistory crate slot).second.getLsbD bit = true ↔
          Twice bit ((watch setup earlier).events crate slot)) ↔
      Guarded (Watched.step setup) Watched.ReleasesOnce .initial inputs) := by
  constructor
  · intro crate slot bit
    rw [← watch_system, (watch setup inputs).agrees]
    exact historyOf_first
  · have start : Watched.initial.Right := fun _ _ bit => by
      simp [Watched.initial, System.initial, not_twice_nil]
    rw [← always_iff_guarded (Watched.step_right_iff setup) inputs start]
    refine forall_congr' fun earlier => forall_congr' fun _ => ?_
    rw [← watch_system]
    rfl

def oneDdu : Setup where
  crates := [1]
  slots := fun _ => [4]
  crates_nodup := by simp
  slots_nodup := by simp
  ignoreErr := fun _ _ _ => false
  isTrackFinder := fun _ => false
  fmmErrorThreshold := 1

/-- Fiber 0 fails, and fiber 1 before the reset comes: fiber 0 is on the ignore list after one
incident. -/
theorem ignored_after_one_incident :
    let handling : List Input := [.go 1, .go 1, .go 1]
    let inputs : List Input := [.go 1, .go 1, .interrupt 1 ⟨0x0400, 1, 0, 0⟩] ++ handling ++
      [.interrupt 1 ⟨0x0400, 3, 0, 0⟩] ++ handling
    ((run oneDdu inputs).errorHistory 1 4).second.getLsbD 0 = true ∧
      ¬ Twice 0 ((watch oneDdu inputs).events 1 4) := by
  intro handling inputs
  have events : (watch oneDdu inputs).events 1 4 =
      [.released, .recorded 3, .released, .recorded 1, .reset] := by decide +kernel
  refine ⟨by decide +kernel, ?_⟩
  simp [events, twice_cons, not_twice_nil, InAnEarlierIncident, failedBefore_cons,
    not_failedBefore_nil]

end EmuLib.Fed.RepeatedErrors
