import EmuLib.DaqManager.Watchdog

/-!
When the watchdog brings applications back: in which runs only where the manager is at rest.
-/

namespace EmuLib.DaqManager

open List Function

section

variable {daq : Daq} {state : State}

@[simp] lemma exchange_manager (app command answer) :
    (state.exchange app command answer).manager = state.manager := by
  unfold State.exchange
  split <;> rfl

@[simp] lemma exchange_action (app command answer) :
    (state.exchange app command answer).action = state.action := by
  unfold State.exchange
  split <;> rfl

@[simp] lemma exchange_reached (app command answer) :
    (state.exchange app command answer).reached = state.reached := by
  unfold State.exchange
  split <;> rfl

def Calm (command : Command) : Prop := command ≠ .configure ∧ command ≠ .enable

variable {command : Command}

lemma obey_calm (calm : Calm command) {own next : AppState}
    (obeys : own.obey command = some next) : next = .halted ∨ next = own := by
  cases command with
  | setParameters => exact .inr (Option.some.inj obeys).symm
  | generateRunStopTime => exact .inr (Option.some.inj obeys).symm
  | configure => exact absurd rfl calm.1
  | enable => exact absurd rfl calm.2
  | halt => cases own <;> cases obeys <;> exact .inl rfl

lemma exchange_atRest {app other answer} (calm : Calm command)
    (rest : AtRest (state.apps other)) :
    AtRest ((state.exchange app command answer).apps other) := by
  unfold State.exchange
  cases carried : state.carried app command answer with
  | none => exact rest
  | some next =>
    dsimp only
    by_cases apart : other = app
    · subst apart
      unfold State.carried at carried
      split at carried
      · cases carried
      · obtain ⟨own, up, obeys⟩ := Option.bind_eq_some_iff.mp carried
        rw [update_self]
        rcases obey_calm calm obeys with rfl | rfl
        · exact .inr rfl
        · exact up ▸ rest
    · rw [update_of_ne apart]
      exact rest

lemma exchange_halted {app answer} (halts : command = .halt)
    (carried : (state.carried app command answer).isSome = true) :
    AtRest ((state.exchange app command answer).apps app) := by
  subst halts
  obtain ⟨next, same⟩ := Option.isSome_iff_exists.mp carried
  unfold State.exchange
  rw [same]
  dsimp only
  unfold State.carried at same
  split at same
  · cases same
  · obtain ⟨own, up, obeys⟩ := Option.bind_eq_some_iff.mp same
    rw [update_self]
    cases own <;> cases obeys <;> exact .inr rfl

lemma stopDAQ_calm (daq : Daq) : ∀ exchange ∈ daq.stopDAQ, Calm exchange.command := by
  intro exchange inside
  simp only [Daq.stopDAQ, Daq.strict, Daq.stopFedBuilder, mem_append, mem_map] at inside
  rcases inside with (⟨_, ⟨_, _, rfl⟩, rfl⟩ | ⟨_, _, rfl⟩) | ⟨_, ⟨_, _, rfl⟩, rfl⟩
  all_goals exact ⟨Command.noConfusion, Command.noConfusion⟩

def Halting (state : State) : Prop :=
  match state.action with
  | none => state.manager = .halted → ∀ app ∈ state.reached, AtRest (state.apps app)
  | some (.begun _) => state.reached = []
  | some (.under transition left _) => transition = .halt →
      (∀ app ∈ state.reached, AtRest (state.apps app)) ∧ ∀ exchange ∈ left, Calm exchange.command
  | some (.ended transition _) => transition = .halt →
      ∀ app ∈ state.reached, AtRest (state.apps app)

def Action.transition : Action → Transition
  | .begun transition => transition
  | .under transition _ _ => transition
  | .ended transition _ => transition

structure Resting (state : State) : Prop where
  sending : ∀ read second first left, state.call = .sending read second (first :: left) →
    state.action = none ∧ Allowed second state.manager
  moving : ∀ action, state.action = some action →
    (action.transition.from? state.manager).isSome = true
  halting : Halting state

lemma halted_target {transition : Transition} {manager}
    (moves : transition.from? manager = some .halted) : transition = .halt := by
  cases transition <;> cases manager <;> first | rfl | cases moves

lemma Resting.of_busy {other} (resting : Resting state) {action}
    (busy : state.action = some action) (call : other.call = state.call)
    (moving : ∀ next, other.action = some next →
      (next.transition.from? other.manager).isSome = true)
    (halting : Halting other) : Resting other where
  sending := by
    intro read second first left sends
    rw [call] at sends
    have rest := (resting.sending read second first left sends).1
    rw [busy] at rest
    cases rest
  moving := moving
  halting := halting

lemma Resting.manage (resting : Resting state) (answer) : Resting (state.manage daq answer) := by
  have halting := resting.halting
  unfold State.manage
  unfold Halting at halting
  cases action : state.action with
  | none => exact resting
  | some act =>
    have moving := resting.moving act action
    simp only [action] at halting
    cases act with
    | begun transition =>
      refine resting.of_busy action rfl ?_ ?_
      · rintro _ ⟨⟩
        exact moving
      · rintro rfl
        refine ⟨fun app inside => ?_, stopDAQ_calm daq⟩
        rw [halting] at inside
        cases inside
    | ended transition failed =>
      refine resting.of_busy action rfl (fun _ none_left => by cases none_left) ?_
      intro halted
      dsimp only at halted
      cases failed with
      | true => cases halted
      | false =>
        obtain ⟨target, moves⟩ := Option.isSome_iff_exists.mp moving
        dsimp only [Action.transition] at moves
        simp only [Bool.false_eq_true, if_false, moves, Option.getD_some] at halted
        exact halting (halted_target (halted ▸ moves))
    | under transition left failed =>
      cases left with
      | nil =>
        refine resting.of_busy action rfl ?_ ?_
        · rintro _ ⟨⟩
          exact moving
        · exact fun halt => (halting halt).1
      | cons first left =>
        dsimp only
        split
        · refine resting.of_busy action rfl ?_ ?_
          · rintro _ ⟨⟩
            exact moving
          · exact fun halt => (halting halt).1
        · have made (halt : transition = .halt) (app : Nat)
              (inside : app ∈ if first.command = Command.halt ∧
                (state.carried first.app first.command answer).isSome then
                  first.app :: state.reached else state.reached) :
              AtRest ((state.exchange first.app first.command answer).apps app) := by
            obtain ⟨rest, calm⟩ := halting halt
            have first_calm := calm first mem_cons_self
            split at inside
            next halts =>
              rcases mem_cons.mp inside with rfl | before
              · exact exchange_halted halts.1 halts.2
              · exact exchange_atRest first_calm (rest app before)
            next => exact exchange_atRest first_calm (rest app inside)
          have others (halt : transition = .halt) :
              ∀ exchange ∈ left, Calm exchange.command :=
            fun exchange inside => (halting halt).2 exchange (mem_cons_of_mem _ inside)
          split
          · refine resting.of_busy action (by simp) ?_ fun halt => ⟨made halt, others halt⟩
            rintro _ ⟨⟩
            simpa [Action.transition] using moving
          · split
            · refine resting.of_busy action (by simp) ?_ fun halt => ⟨made halt, others halt⟩
              simpa [Action.transition] using moving
            · refine resting.of_busy action (by simp) ?_ made
              simpa [Action.transition] using moving

lemma Resting.of_same {other} (resting : Resting state) (manager : other.manager = state.manager)
    (action : other.action = state.action)
    (apps : ∀ app, AtRest (state.apps app) → AtRest (other.apps app))
    (reached : other.reached = state.reached)
    (sending : ∀ read second first left, other.call = .sending read second (first :: left) →
      state.action = none ∧ Allowed second state.manager) : Resting other where
  sending := by
    rw [manager, action]
    exact sending
  moving := by
    rw [manager, action]
    exact resting.moving
  halting := by
    have halting := resting.halting
    unfold Halting at halting ⊢
    rw [action, manager, reached]
    cases busy : state.action with
    | none =>
      simp only [busy] at halting
      exact fun halted app inside => apps app (halting halted app inside)
    | some act =>
      simp only [busy] at halting
      cases act with
      | begun transition => exact halting
      | under transition left failed =>
        exact fun halt => ⟨fun app inside => apps app ((halting halt).1 app inside),
          (halting halt).2⟩
      | ended transition failed => exact fun halt app inside => apps app (halting halt app inside)

lemma Resting.next (resting : Resting state) (read second) :
    Resting (state.next daq read second) := by
  unfold State.next
  split
  · exact resting.of_same rfl rfl (fun _ rest => rest) rfl (fun _ _ _ _ sends => by cases sends)
  · exact resting.of_same rfl rfl (fun _ rest => rest) rfl (fun _ _ _ _ sends => by cases sends)

lemma Resting.timer (resting : Resting state) (answer)
    (fits : Fits daq state (.timer answer)) : Resting (state.timer daq answer) := by
  unfold State.timer
  cases call : state.call with
  | idle =>
    dsimp only
    split
    · exact resting
    · exact resting.of_same rfl rfl (fun _ rest => rest) rfl (fun _ _ _ _ sends => by cases sends)
  | started =>
    dsimp only
    split
    · exact resting.of_same rfl rfl (fun _ rest => rest) rfl (fun _ _ _ _ sends => by cases sends)
    · exact resting.of_same rfl rfl (fun _ rest => rest) rfl (fun _ _ _ _ sends => by cases sends)
  | patrolling read second left =>
    cases left with
    | cons app left =>
      exact resting.of_same rfl rfl (fun _ rest => rest) rfl (fun _ _ _ _ sends => by cases sends)
    | nil =>
      dsimp only
      split
      next passes =>
        have begins : BeginsAtRest daq state state.call := fits
        rw [call] at begins
        refine resting.of_same rfl rfl (fun _ rest => rest) rfl fun _ _ _ _ sends => ?_
        obtain ⟨rfl, rfl, _⟩ := TimerCall.sending.inj sends
        exact begins passes.1 passes.2
      next => exact resting.next read second
  | sending read second left =>
    cases left with
    | nil => exact resting.next read second
    | cons first left =>
      obtain ⟨idle, allowed⟩ := resting.sending read second first left call
      have active : state.manager ≠ .halted := by
        intro halted
        rw [halted] at allowed
        cases second with
        | false => rcases allowed with other | other <;> cases other
        | true => cases allowed
      dsimp only
      split
      · refine ⟨?_, ?_, ?_⟩
        · rintro _ _ _ _ ⟨⟩
          simpa using ⟨idle, allowed⟩
        · intro action busy
          simp [idle] at busy
        · simp [Halting, idle, active]
      · refine ⟨?_, ?_, ?_⟩
        · rintro _ _ _ _ ⟨⟩
        · intro action busy
          simp [idle] at busy
        · simp [Halting, idle, active]

lemma update_atRest {app after} (rest : AtRest after) (other)
    (before : AtRest (state.apps other)) : AtRest (update state.apps app after other) := by
  by_cases apart : other = app
  · rw [apart, update_self]
    exact rest
  · rw [update_of_ne apart]
    exact before

lemma Resting.step (resting : Resting state) (input) (fits : Fits daq state input) :
    Resting (state.step daq input) := by
  cases input with
  | fire transition =>
    unfold State.step
    dsimp only
    split
    next begins =>
      refine ⟨fun read second first left sends => ?_, ?_, rfl⟩
      · have unsent : state.call.Unsent := fits begins.1 begins.2
        rw [show state.call = _ from sends] at unsent
        cases unsent
      · rintro _ ⟨⟩
        exact begins.2
    next => exact resting
  | manage answer => exact resting.manage answer
  | timer answer => exact resting.timer answer fits
  | crash app =>
    exact resting.of_same rfl rfl (update_atRest (.inl rfl)) rfl resting.sending
  | restart app =>
    exact resting.of_same rfl rfl (update_atRest (.inr rfl)) rfl resting.sending

lemma log_step (daq) (state : State) (input) :
    (state.step daq input).log = state.log ∨
      (∃ app told, (state.step daq input).log = state.log ++ [.reported app told]) ∨
      ∃ read second app command left,
        state.call = .sending read second ((app, command) :: left) ∧
        (state.step daq input).log =
          state.log ++ [.sent app command state.manager state.action.isSome] := by
  cases input with
  | fire transition =>
    left
    unfold State.step
    dsimp only
    split <;> rfl
  | manage answer =>
    left
    show (state.manage daq answer).log = state.log
    unfold State.manage
    split
    · rfl
    · rfl
    · split
      · rfl
      · dsimp only
        split
        · simp
        · split <;> simp
    · rfl
    · rfl
  | timer answer =>
    have next_log (read : ManagerState) (second : Bool) :
        (state.next daq read second).log = state.log := by
      unfold State.next
      split <;> rfl
    simp only [State.step]
    unfold State.timer
    cases call : state.call with
    | idle =>
      left
      dsimp only
      split <;> rfl
    | started =>
      left
      dsimp only
      split <;> rfl
    | patrolling read second waiting =>
      cases waiting with
      | nil =>
        left
        dsimp only
        split
        · rfl
        · exact next_log read second
      | cons app waiting => exact .inr (.inl ⟨app, _, rfl⟩)
    | sending read second waiting =>
      cases waiting with
      | nil => exact .inl (next_log read second)
      | cons first waiting =>
        refine .inr (.inr ⟨read, second, first.1, first.2, waiting, rfl, ?_⟩)
        dsimp only
        split <;> rfl
  | crash app => exact .inl rfl
  | restart app => exact .inl rfl

lemma created_resting (manager apps) :
    Resting (State.created manager apps) where
  sending := by
    rintro _ _ _ _ ⟨⟩
  moving := by
    rintro _ ⟨⟩
  halting := fun _ _ inside => by cases inside

lemma twice_step (twice : AlwaysTwice state.log) (watching : Watching daq state) (input) :
    AlwaysTwice (state.step daq input).log := by
  have order := watching.order
  rcases log_step daq state input with same | ⟨app, told, same⟩ |
    ⟨read, second, app, command, left, call, same⟩
  · rw [same]
    exact twice
  · rw [same]
    exact alwaysTwice_snoc twice trivial
  · rw [same]
    simp only [call] at order
    have herded := order app command mem_cons_self
    exact alwaysTwice_snoc twice ⟨fun configures => (herded.1 configures).2,
      fun enables => (herded.2 enables).2⟩

lemma inTime_step (inTime : ∀ entry ∈ state.log, SentInTime entry) (watching : Watching daq state)
    (resting : Resting state) (input) : ∀ entry ∈ (state.step daq input).log, SentInTime entry := by
  have order := watching.order
  rcases log_step daq state input with same | ⟨app, told, same⟩ |
    ⟨read, second, app, command, left, call, same⟩
  · rw [same]
    exact inTime
  · rw [same, forall_mem_append, forall_mem_singleton]
    exact ⟨inTime, trivial⟩
  · rw [same, forall_mem_append, forall_mem_singleton]
    simp only [call] at order
    have herded := order app command mem_cons_self
    obtain ⟨idle, allowed⟩ := resting.sending read second (app, command) left call
    refine ⟨inTime, fun configures => ?_, fun enables => ?_⟩
    · have first := (herded.1 configures).1
      subst first
      exact ⟨allowed, by rw [idle]; rfl⟩
    · have later := (herded.2 enables).1
      subst later
      exact ⟨allowed, by rw [idle]; rfl⟩

end

section

open GuardedRun (runFrom Guarded)

variable (daq : Daq) (manager : ManagerState) (apps : Nat → Option AppState)

structure Told (daq : Daq) (state : State) : Prop where
  watching : Watching daq state
  twice : AlwaysTwice state.log

structure Kept (daq : Daq) (state : State) : Prop where
  watching : Watching daq state
  resting : Resting state
  inTime : ∀ entry ∈ state.log, SentInTime entry

lemma always_twice (inputs) :
    AlwaysTwice (runFrom (State.step daq) (State.created manager apps) inputs).log := by
  have told (state : State) (input : Input) (told : Told daq state) :
      Told daq (state.step daq input) :=
    ⟨told.watching.step input, twice_step told.twice told.watching input⟩
  exact (GuardedRun.run_preserved told inputs
    ⟨watching_created manager apps, alwaysTwice_nil⟩).twice

/-- In a run whose inputs all fit, the watchdog brings back what was restarted, and nothing that a
Halt has stopped. -/
theorem watchdog_right (inputs : List Input)
    (fits : Guarded (State.step daq) (Fits daq) (State.created manager apps) inputs) :
    ∀ earlier, earlier <+: inputs →
      Right (runFrom (State.step daq) (State.created manager apps) earlier) := by
  rintro earlier ⟨later, rfl⟩
  have kept (state : State) (input : Input) (kept : Kept daq state) (met : Fits daq state input) :
      Kept daq (state.step daq input) :=
    ⟨kept.watching.step input, kept.resting.step input met,
      inTime_step kept.inTime kept.watching kept.resting input⟩
  have created : Kept daq (State.created manager apps) :=
    ⟨watching_created manager apps, created_resting manager apps, fun _ inside => by cases inside⟩
  have run := GuardedRun.run_invariant kept created ((GuardedRun.guarded_append _ _ _).mp fits).1
  refine ⟨always_twice daq manager apps earlier, run.inTime, fun halted idle => ?_⟩
  have halting := run.resting.halting
  unfold Halting at halting
  rw [idle] at halting
  exact halting halted

end

open GuardedRun (runFrom Guarded)

def pair : Daq := ⟨[0], [1], [0, 1], by decide, by decide, by decide⟩

def allHalted : Nat → Option AppState := fun _ => some .halted

def managed (count : Nat) : List Input := List.replicate count (.manage .done)

def timed (count : Nat) : List Input := List.replicate count (.timer .done)

def restarted : List Input :=
  .fire .configure :: managed 7 ++ timed 5 ++ [.crash 1, .restart 1] ++ timed 5 ++ timed 5

theorem watchdog_right_restarted : Right
    (runFrom (State.step pair) (State.created .halted allHalted) (restarted ++ timed 2)) := by
  have fits : Guarded (State.step pair) (Fits pair) (State.created .halted allHalted)
      (restarted ++ timed 2) := by decide +kernel
  exact watchdog_right pair .halted allHalted _ fits _ (prefix_refl _)

theorem watchdog_unhalts : ¬ ∀ daq manager apps inputs,
    Right (runFrom (State.step daq) (State.created manager apps) inputs) := by
  intro right
  have broken := (right pair .halted allHalted
    (restarted ++ .fire .halt :: managed 6 ++ timed 2)).halted (by decide +kernel)
    (by decide +kernel) 1 (by decide +kernel)
  rcases broken with down | halted
  · exact absurd down (by decide +kernel)
  · exact absurd halted (by decide +kernel)

end EmuLib.DaqManager
