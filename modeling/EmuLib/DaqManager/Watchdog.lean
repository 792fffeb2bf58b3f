import EmuLib.Lib.GuardedRun
import EmuLib.DaqManager.Manager

/-!
What the watchdog is for, and what it remembers of the reports of the applications.
-/

namespace EmuLib.DaqManager

open List

def reports (app : Nat) (log : List Entry) : List String :=
  log.filterMap fun entry => match entry with
    | .reported other state => if other = app then some state else none
    | .sent .. => none

def TwiceIn (names : List String) (app : Nat) (log : List Entry) : Prop :=
  ∃ earlier first second, reports app log = earlier ++ [first, second] ∧
    first ∈ names ∧ second ∈ names

def SentTwice (log : List Entry) : Entry → Prop
  | .reported .. => True
  | .sent app command _ _ =>
    (command = .configure → TwiceIn ["Halted"] app log) ∧
    (command = .enable → TwiceIn ["Configured", "Ready"] app log)

def SentInTime : Entry → Prop
  | .reported .. => True
  | .sent _ command manager transition =>
    (command = .configure →
      (manager = .configured ∨ manager = .enabled) ∧ transition = false) ∧
    (command = .enable → manager = .enabled ∧ transition = false)

def AlwaysTwice (log : List Entry) : Prop :=
  ∀ before entry after, log = before ++ entry :: after → SentTwice before entry

def AtRest (app : Option AppState) : Prop := app = none ∨ app = some .halted

/-- What the watchdog is for: it sends commands only to applications that were twice in the same
state, and only at the right time; and what a Halt reached stays halted. -/
structure Right (state : State) : Prop where
  twice : AlwaysTwice state.log
  inTime : ∀ entry ∈ state.log, SentInTime entry
  halted : state.manager = .halted → state.action = none →
    ∀ app ∈ state.reached, AtRest (state.apps app)

/-- The states of the manager in which the watchdog may configure, and in which it may enable. -/
def Allowed (second : Bool) (manager : ManagerState) : Prop :=
  if second then manager = .enabled else manager = .configured ∨ manager = .enabled

instance (second : Bool) (manager : ManagerState) : Decidable (Allowed second manager) :=
  inferInstanceAs (Decidable
    (if second then manager = .enabled else manager = .configured ∨ manager = .enabled))

def TimerCall.Unsent : TimerCall → Prop
  | .sending _ _ left => left = []
  | _ => True

instance : DecidablePred TimerCall.Unsent
  | .idle => inferInstanceAs (Decidable True)
  | .started => inferInstanceAs (Decidable True)
  | .patrolling _ _ _ => inferInstanceAs (Decidable True)
  | .sending _ _ left => inferInstanceAs (Decidable (left = []))

def BeginsAtRest (daq : Daq) (state : State) : TimerCall → Prop
  | .patrolling _ second [] => state.herd daq second ≠ [] → state.inFSMTransition = false →
      state.action = none ∧ Allowed second state.manager
  | _ => True

instance (daq : Daq) (state : State) : DecidablePred (BeginsAtRest daq state)
  | .idle => inferInstanceAs (Decidable True)
  | .started => inferInstanceAs (Decidable True)
  | .patrolling _ _ (_ :: _) => inferInstanceAs (Decidable True)
  | .patrolling _ second [] => inferInstanceAs (Decidable (state.herd daq second ≠ [] →
      state.inFSMTransition = false → state.action = none ∧ Allowed second state.manager))
  | .sending _ _ _ => inferInstanceAs (Decidable True)

/-- The watchdog begins to send only where the manager is at rest in a right state, and then no
transition begins before its last command. -/
def Fits (daq : Daq) (state : State) : Input → Prop
  | .fire transition => state.action = none → (transition.from? state.manager).isSome = true →
      state.call.Unsent
  | .timer _ => BeginsAtRest daq state state.call
  | _ => True

instance (daq : Daq) (state : State) : ∀ input, Decidable (Fits daq state input)
  | .fire transition => inferInstanceAs (Decidable (state.action = none →
      (transition.from? state.manager).isSome = true → state.call.Unsent))
  | .timer _ => inferInstanceAs (Decidable (BeginsAtRest daq state state.call))
  | .manage _ => inferInstanceAs (Decidable True)
  | .crash _ => inferInstanceAs (Decidable True)
  | .restart _ => inferInstanceAs (Decidable True)

section

variable {log : List Entry} {app : Nat}

lemma reports_reported (other told) :
    reports app (log ++ [.reported other told]) =
      if other = app then reports app log ++ [told] else reports app log := by
  unfold reports
  split
  next same => simp [same]
  next apart => simp [apart]

lemma reports_sent (other command manager busy) :
    reports app (log ++ [.sent other command manager busy]) = reports app log := by
  simp [reports]

lemma alwaysTwice_nil : AlwaysTwice [] := by
  intro before entry after same
  simp at same

lemma alwaysTwice_snoc {entry} (twice : AlwaysTwice log) (last : SentTwice log entry) :
    AlwaysTwice (log ++ [entry]) := by
  intro before other after same
  rcases eq_nil_or_concat after with rfl | ⟨more, final, rfl⟩
  · obtain ⟨begins, ends⟩ := append_inj' same rfl
    rw [← begins, ← (List.cons.inj ends).1]
    exact last
  · rw [concat_eq_append, ← cons_append, ← append_assoc] at same
    exact twice before other more (append_inj' same rfl).1

end

variable {daq : Daq} {state : State}

def Remembered (state : State) (app : Nat) : Prop :=
  state.previous app = "" ∨
    ∃ earlier, reports app state.log = earlier ++ [state.previous app, state.current app]

def Unasked (state : State) (app : Nat) : Prop :=
  state.previous app = "" ∨ state.previous app = state.current app

def Herded (log : List Entry) (second : Bool) (left : List (Nat × Command)) : Prop :=
  ∀ app command, (app, command) ∈ left →
    (command = .configure → second = false ∧ TwiceIn ["Halted"] app log) ∧
      (command = .enable → second = true ∧ TwiceIn ["Configured", "Ready"] app log)

structure Watching (daq : Daq) (state : State) : Prop where
  current : ∀ app ∈ daq.apps, state.current app = (reports app state.log).getLast?.getD ""
  told : ∀ app, "" ∉ reports app state.log
  known : (∀ app, state.previous app = "") ∨ ∀ app ∈ daq.apps, state.current app ≠ ""
  memory : ∀ app ∈ daq.apps, match state.call with
    | .patrolling _ _ left => if app ∈ left then Unasked state app else Remembered state app
    | _ => Remembered state app
  order : match state.call with
    | .patrolling _ _ left => left <:+ daq.apps
    | .sending _ second left => Herded state.log second left
    | _ => True

lemma watching_created (manager apps) :
    Watching daq (State.created manager apps) where
  current := fun _ _ => rfl
  told := fun _ => not_mem_nil
  known := .inl fun _ => rfl
  memory := fun _ _ => .inl rfl
  order := trivial

section

variable {answer : Answer}

lemma Watching.patrol (watching : Watching daq state) (read second) :
    Watching daq (state.patrol daq read second) := by
  obtain ⟨current, told, known, _, _⟩ := watching
  cases empty : State.isEmpty daq state.current with
  | true =>
    have same : state.patrol daq read second =
        { state with call := .patrolling read second daq.apps } := by
      simp [State.patrol, empty]
    rw [same]
    refine ⟨current, told, known, fun app inside => ?_, suffix_refl _⟩
    have blank : ∃ other ∈ daq.apps, state.current other = "" := by
      rw [State.isEmpty, Bool.or_eq_true, List.isEmpty_iff, any_eq_true] at empty
      rcases empty with none_known | ⟨other, member, blank⟩
      · rw [none_known] at inside
        cases inside
      · exact ⟨other, member, by simpa using blank⟩
    obtain ⟨other, member, blank⟩ := blank
    dsimp only
    rw [if_pos inside]
    rcases known with nothing | all
    · exact .inl (nothing app)
    · exact absurd blank (all other member)
  | false =>
    have same : state.patrol daq read second =
        { state with previous := state.current, call := .patrolling read second daq.apps } := by
      simp [State.patrol, empty]
    rw [same]
    refine ⟨current, told, .inr fun app inside blank => ?_, fun app inside => ?_, suffix_refl _⟩
    · rw [State.isEmpty, Bool.or_eq_false_iff, any_eq_false] at empty
      exact empty.2 app inside (by simpa using blank)
    · dsimp only
      rw [if_pos inside]
      exact .inr rfl

lemma Watching.next (watching : Watching daq state)
    (rest : ∀ app ∈ daq.apps, Remembered state app) (read second) :
    Watching daq (state.next daq read second) := by
  unfold State.next
  split
  · exact watching.patrol read true
  · exact ⟨watching.current, watching.told, watching.known, rest, trivial⟩

lemma Watching.ask {read second app left} (watching : Watching daq state)
    (call : state.call = .patrolling read second (app :: left)) {told} (some_told : told ≠ "") :
    Watching daq { state with
      current := Function.update state.current app told
      call := .patrolling read second left
      log := state.log ++ [.reported app told] } := by
  obtain ⟨current, texts, known, memory, order⟩ := watching
  simp only [call] at memory order
  have once : app ∉ left := (nodup_cons.mp (daq.distinct.sublist order.sublist)).1
  have reported (other : Nat) (apart : other ≠ app) :
      reports other (state.log ++ [.reported app told]) = reports other state.log := by
    rw [reports_reported, if_neg (Ne.symm apart)]
  have now : reports app (state.log ++ [.reported app told]) = reports app state.log ++ [told] := by
    rw [reports_reported, if_pos rfl]
  refine ⟨fun other member => ?_, fun other => ?_, known.imp_right fun all other member => ?_,
    fun other member => ?_, (suffix_cons app left).trans order⟩
  · by_cases apart : other = app
    · subst apart
      simp [now]
    · simpa [apart, reported other apart] using current other member
  · by_cases apart : other = app
    · subst apart
      simp [now, texts, Ne.symm some_told]
    · simpa [reported other apart] using texts other
  · by_cases apart : other = app
    · simpa [apart] using some_told
    · simpa [apart] using all other member
  · have before := memory other member
    by_cases apart : other = app
    · subst apart
      rw [if_pos mem_cons_self] at before
      dsimp only
      rw [if_neg once]
      rcases before with blank | same
      · exact .inl blank
      · by_cases blank : state.previous other = ""
        · exact .inl blank
        right
        have last := current other member
        rw [← same] at last
        cases final : (reports other state.log).getLast? with
        | none => exact absurd (by simpa [final] using last) blank
        | some text =>
          obtain ⟨earlier, spelled⟩ := getLast?_eq_some_iff.mp final
          have text_eq : state.previous other = text := by simpa [final] using last
          simp [now, spelled, text_eq]
    · simp only [mem_cons, apart, false_or] at before
      dsimp only
      split
      next waiting =>
        rw [if_pos waiting] at before
        simpa [Unasked, apart] using before
      next asked =>
        rw [if_neg asked] at before
        simpa [Remembered, apart, reported other apart] using before

lemma getAppsInStates_twice {names app} (named : "" ∉ names)
    (rest : ∀ app ∈ daq.apps, Remembered state app)
    (found : app ∈ state.getAppsInStates daq names) : TwiceIn names app state.log := by
  unfold State.getAppsInStates at found
  split at found
  · cases found
  · rw [mem_filter, Bool.and_eq_true, contains_iff_mem, contains_iff_mem] at found
    obtain ⟨inside, previous, current⟩ := found
    rcases rest app inside with blank | ⟨earlier, last⟩
    · exact absurd (blank ▸ previous) named
    · exact ⟨earlier, _, _, last, previous, current⟩

lemma herd_herded (second) (rest : ∀ app ∈ daq.apps, Remembered state app) :
    Herded state.log second (state.herd daq second) := by
  intro app command inside
  cases second with
  | false =>
    have halted (other : Nat) (found : other ∈ state.getAppsInStates daq ["Halted"]) :
        TwiceIn ["Halted"] other state.log :=
      getAppsInStates_twice (by decide) rest found
    simp only [State.herd, Bool.false_eq_true, if_false, mem_append, mem_filter,
      contains_iff_mem, mem_flatMap] at inside
    rcases inside with ⟨listed, found⟩ | ⟨rui, ⟨_, found⟩, listed⟩
    · refine ⟨fun _ => ⟨rfl, halted app found⟩, ?_⟩
      rintro rfl
      simp [Daq.configureTA] at listed
    · simp only [Daq.configureRUI, mem_cons, Prod.mk.injEq, not_mem_nil, or_false] at listed
      obtain rfl : app = rui := by tauto
      refine ⟨fun _ => ⟨rfl, halted app found⟩, ?_⟩
      rintro rfl
      simp at listed
  | true =>
    have configured (other : Nat)
        (found : other ∈ state.getAppsInStates daq ["Configured", "Ready"]) :
        TwiceIn ["Configured", "Ready"] other state.log :=
      getAppsInStates_twice (by decide) rest found
    simp only [State.herd, if_true, mem_append, mem_filter, contains_iff_mem, mem_map] at inside
    rcases inside with ⟨listed, found⟩ | ⟨rui, ⟨_, found⟩, listed⟩
    · refine ⟨?_, fun _ => ⟨rfl, configured app found⟩⟩
      rintro rfl
      simp [Daq.enableTA] at listed
    · cases listed
      refine ⟨?_, fun _ => ⟨rfl, configured app found⟩⟩
      intro other
      cases other

lemma Herded.sent {log second first left} (herded : Herded log second (first :: left))
    (app command manager busy) : Herded (log ++ [.sent app command manager busy]) second left := by
  intro other next inside
  simp only [TwiceIn, reports_sent]
  exact herded other next (mem_cons_of_mem _ inside)

end

lemma Watching.of_same {other} (watching : Watching daq state)
    (current : other.current = state.current) (previous : other.previous = state.previous)
    (call : other.call = state.call) (log : other.log = state.log) : Watching daq other := by
  obtain ⟨now, told, known, memory, order⟩ := watching
  refine ⟨?_, ?_, ?_, ?_, ?_⟩
  all_goals simp only [current, previous, call, log, Remembered, Unasked] at *
  · exact now
  · exact told
  · exact known
  · exact memory
  · exact order

@[simp] lemma exchange_current (app command answer) :
    (state.exchange app command answer).current = state.current := by
  unfold State.exchange
  split <;> rfl

@[simp] lemma exchange_previous (app command answer) :
    (state.exchange app command answer).previous = state.previous := by
  unfold State.exchange
  split <;> rfl

@[simp] lemma exchange_log (app command answer) :
    (state.exchange app command answer).log = state.log := by
  unfold State.exchange
  split <;> rfl

@[simp] lemma exchange_call (app command answer) :
    (state.exchange app command answer).call = state.call := by
  unfold State.exchange
  split <;> rfl

lemma Watching.timer (watching : Watching daq state) (answer) :
    Watching daq (state.timer daq answer) := by
  have memory := watching.memory
  have order := watching.order
  unfold State.timer
  cases call : state.call with
  | idle =>
    simp only [call] at memory order ⊢
    split
    · exact watching
    · exact ⟨watching.current, watching.told, watching.known, memory, trivial⟩
  | started =>
    simp only [call] at memory order ⊢
    split
    · exact watching.patrol _ _
    · exact ⟨watching.current, watching.told, watching.known, memory, trivial⟩
  | patrolling read second left =>
    simp only [call] at memory order ⊢
    cases left with
    | nil =>
      have rest (app : Nat) (inside : app ∈ daq.apps) : Remembered state app := by
        simpa using memory app inside
      dsimp only
      split
      · exact ⟨watching.current, watching.told, watching.known, rest, herd_herded second rest⟩
      · exact watching.next rest read second
    | cons app left =>
      apply watching.ask call
      split
      · cases state.apps app with
        | none => decide
        | some own => cases own <;> decide
      · decide
  | sending read second left =>
    simp only [call] at memory order ⊢
    cases left with
    | nil => exact watching.next memory read second
    | cons first left =>
      have herded := order.sent first.1 first.2 state.manager state.action.isSome
      dsimp only
      split
      · refine ⟨?_, ?_, ?_, ?_, ?_⟩
        all_goals simp only [exchange_current, exchange_previous, reports_sent, Remembered]
        · exact watching.current
        · exact watching.told
        · exact watching.known
        · exact memory
        · exact herded
      · refine ⟨?_, ?_, ?_, ?_, trivial⟩
        all_goals simp only [exchange_current, exchange_previous, reports_sent, Remembered]
        · exact watching.current
        · exact watching.told
        · exact watching.known
        · exact memory

lemma Watching.manage (watching : Watching daq state) (answer) :
    Watching daq (state.manage daq answer) := by
  unfold State.manage
  split
  · exact watching
  · exact watching.of_same rfl rfl rfl rfl
  · split
    · exact watching.of_same rfl rfl rfl rfl
    · dsimp only
      split
      · apply watching.of_same <;> simp
      · split
        · apply watching.of_same <;> simp
        · apply watching.of_same <;> simp
  · exact watching.of_same rfl rfl rfl rfl
  · exact watching.of_same rfl rfl rfl rfl

lemma Watching.step (watching : Watching daq state) (input) :
    Watching daq (state.step daq input) := by
  cases input with
  | fire transition =>
    unfold State.step
    dsimp only
    split
    · exact watching.of_same rfl rfl rfl rfl
    · exact watching
  | manage answer => exact watching.manage answer
  | timer answer => exact watching.timer answer
  | crash app => exact watching.of_same rfl rfl rfl rfl
  | restart app => exact watching.of_same rfl rfl rfl rfl

end EmuLib.DaqManager
