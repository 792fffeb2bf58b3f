import Mathlib.Data.List.Basic

/-!
Operations that make calls which may fail: they return or throw, and what they changed before
stays changed.
-/

namespace EmuLib.Operations

abbrev Operation (State Thrown : Type) := ExceptT Thrown (StateM State)

variable {State Thrown Value Result Measure Item : Type}

def outcome (operation : Operation State Thrown Value) (state : State) : Except Thrown Value :=
  (operation.run.run state).1

def after (operation : Operation State Thrown Value) (state : State) : State :=
  (operation.run.run state).2

variable {step : Item → Operation State Thrown PUnit}

section

variable {operation : Operation State Thrown Value} {state : State} {value : Value}
  {thrown : Thrown}

@[simp] lemma after_pure (value state) :
    after (pure value : Operation State Thrown Value) state = state := rfl

lemma run_returned (returned : outcome operation state = .ok value) :
    operation.run.run state = (.ok value, after operation state) :=
  Prod.ext returned rfl

lemma run_thrown (failed : outcome operation state = .error thrown) :
    operation.run.run state = (.error thrown, after operation state) :=
  Prod.ext failed rfl

lemma bind_returned (next : Value → Operation State Thrown Result)
    (returned : outcome operation state = .ok value) :
    outcome (operation >>= next) state = outcome (next value) (after operation state) ∧
      after (operation >>= next) state = after (next value) (after operation state) := by
  have run : (operation >>= next).run.run state =
      (next value).run.run (after operation state) := by
    simp only [ExceptT.run_bind, StateT.run_bind, run_returned returned]
    rfl
  exact Prod.ext_iff.mp run

lemma bind_thrown (next : Value → Operation State Thrown Result)
    (failed : outcome operation state = .error thrown) :
    outcome (operation >>= next) state = .error thrown ∧
      after (operation >>= next) state = after operation state := by
  have run : (operation >>= next).run.run state = (.error thrown, after operation state) := by
    simp only [ExceptT.run_bind, StateT.run_bind, run_thrown failed]
    rfl
  exact Prod.ext_iff.mp run

lemma bind_result {next : Value → Operation State Thrown Result} {result}
    (returned : outcome (operation >>= next) state = .ok result) :
    ∃ value later, outcome (next value) later = .ok result := by
  cases first : outcome operation state with
  | ok value =>
    rw [(bind_returned next first).1] at returned
    exact ⟨value, _, returned⟩
  | error thrown =>
    rw [(bind_thrown next first).1] at returned
    cases returned

lemma catch_returned (handler) (returned : outcome operation state = .ok value) :
    outcome (tryCatch operation handler) state = .ok value ∧
      after (tryCatch operation handler) state = after operation state := by
  have run : (tryCatch operation handler).run.run state = (.ok value, after operation state) := by
    have found : StateT.run operation state = (.ok value, after operation state) :=
      run_returned returned
    show (ExceptT.tryCatch operation handler).run.run state = _
    simp only [ExceptT.tryCatch, ExceptT.run_mk, StateT.run_bind, found]
    rfl
  exact Prod.ext_iff.mp run

lemma catch_thrown (handler) (failed : outcome operation state = .error thrown) :
    outcome (tryCatch operation handler) state =
        outcome (handler thrown) (after operation state) ∧
      after (tryCatch operation handler) state =
        after (handler thrown) (after operation state) := by
  have run : (tryCatch operation handler).run.run state =
      (handler thrown).run.run (after operation state) := by
    have found : StateT.run operation state = (.error thrown, after operation state) :=
      run_thrown failed
    show (ExceptT.tryCatch operation handler).run.run state = _
    simp only [ExceptT.tryCatch, ExceptT.run_mk, StateT.run_bind, found]
    rfl
  exact Prod.ext_iff.mp run

lemma forM_cons (item rest) (step : Item → Operation State Thrown PUnit) :
    (item :: rest).forM step = (step item >>= fun _ => rest.forM step) := rfl

lemma forM_append (items further : List Item) (step : Item → Operation State Thrown PUnit) :
    (items ++ further).forM step = (items.forM step >>= fun _ => further.forM step) :=
  List.forM_append

lemma forM_keeps {measure : State → Measure}
    (each : ∀ item state, measure (after (step item) state) = measure state) (items : List Item)
    (state) : measure (after (items.forM step) state) = measure state := by
  induction items generalizing state with
  | nil => rfl
  | cons item rest ih =>
    rw [forM_cons]
    cases ended : outcome (step item) state with
    | ok => rw [(bind_returned _ ended).2, ih, each]
    | error thrown => rw [(bind_thrown _ ended).2, each]

lemma forM_throws {allowed : Thrown → Prop}
    (each : ∀ item state thrown, outcome (step item) state = .error thrown → allowed thrown)
    (items : List Item) (state thrown)
    (failed : outcome (items.forM step) state = .error thrown) : allowed thrown := by
  induction items generalizing state with
  | nil => cases failed
  | cons item rest ih =>
    rw [forM_cons] at failed
    cases ended : outcome (step item) state with
    | ok =>
      rw [(bind_returned _ ended).1] at failed
      exact ih _ failed
    | error first =>
      rw [(bind_thrown _ ended).1] at failed
      cases failed
      exact each item state thrown ended

end

def allWork (works : Nat → Bool) (first count : Nat) : Bool :=
  (List.range count).all fun offset => works (first + offset)

variable {works : Nat → Bool}

@[simp] lemma allWork_zero (first) : allWork works first 0 = true := rfl

lemma allWork_one (first) : allWork works first 1 = works first := by
  simp [allWork]

lemma allWork_add (first count further) :
    allWork works first (count + further) =
      (allWork works first count && allWork works (first + count) further) := by
  rw [Bool.eq_iff_iff, Bool.and_eq_true]
  simp only [allWork, List.all_eq_true, List.mem_range]
  constructor
  · intro all
    refine ⟨fun offset inside => all offset (by omega), fun offset inside => ?_⟩
    have later := all (count + offset) (by omega)
    rwa [← Nat.add_assoc] at later
  · rintro ⟨before, later⟩ offset inside
    rcases Nat.lt_or_ge offset count with first | after
    · exact before offset first
    · obtain ⟨beyond, rfl⟩ := Nat.exists_eq_add_of_le after
      rw [← Nat.add_assoc]
      exact later beyond (by omega)

/-- So many calls are made unless one of them fails, which is thrown then; what is measured stays
the same. -/
structure Makes (calls : State → Nat) (measure : State → Measure) (works : Nat → Bool)
    (failure : Thrown) (count : Nat) (operation : Operation State Thrown Value) : Prop where
  keeps : ∀ state, measure (after operation state) = measure state
  returns : ∀ state, allWork works (calls state) count = true →
    (∃ value, outcome operation state = .ok value) ∧
      calls (after operation state) = calls state + count
  throws : ∀ state, allWork works (calls state) count = false →
    outcome operation state = .error failure

variable {calls : State → Nat} {measure : State → Measure} {failure : Thrown}
  {count further : Nat} {operation : Operation State Thrown Value}
  {next : Value → Operation State Thrown Result}

lemma Makes.thrown (makes : Makes calls measure works failure count operation) {state exception} (failed : outcome operation state = .error exception) :
    exception = failure := by
  cases all : allWork works (calls state) count with
  | true =>
    obtain ⟨⟨value, returned⟩, _⟩ := makes.returns state all
    cases returned.symm.trans failed
  | false =>
    cases (makes.throws state all).symm.trans failed
    rfl

lemma makes_pure (value) :
    Makes calls measure works failure 0 (pure value : Operation State Thrown Value) where
  keeps := fun _ => rfl
  returns := fun _ _ => ⟨⟨value, rfl⟩, rfl⟩
  throws := fun _ failed => by cases failed

lemma makes_bind (first : Makes calls measure works failure count operation)
    (second : ∀ value, Makes calls measure works failure further (next value)) :
    Makes calls measure works failure (count + further) (operation >>= next) := by
  constructor
  · intro state
    cases ended : outcome operation state with
    | ok value => rw [(bind_returned next ended).2, (second value).keeps, first.keeps]
    | error thrown => rw [(bind_thrown next ended).2, first.keeps]
  · intro state all
    rw [allWork_add, Bool.and_eq_true] at all
    obtain ⟨⟨value, ended⟩, counted⟩ := first.returns state all.1
    obtain ⟨⟨result, finished⟩, total⟩ := (second value).returns (after operation state)
      (by rw [counted]; exact all.2)
    refine ⟨⟨result, (bind_returned next ended).1.trans finished⟩, ?_⟩
    rw [(bind_returned next ended).2, total, counted, Nat.add_assoc]
  · intro state failed
    rw [allWork_add] at failed
    cases before : allWork works (calls state) count with
    | false => exact (bind_thrown next (first.throws state before)).1
    | true =>
      rw [before] at failed
      obtain ⟨⟨value, ended⟩, counted⟩ := first.returns state before
      rw [(bind_returned next ended).1]
      exact (second value).throws _ (by rw [counted]; exact failed)

lemma makes_map (first : Makes calls measure works failure count operation)
    (change : Value → Result) : Makes calls measure works failure count (change <$> operation) := by
  have bound := makes_bind first fun value => makes_pure (change value)
  exact bound

lemma makes_foldlM {step}
    (each : ∀ value item, Makes calls measure works failure count (step value item))
    (items : List Item) (start : Value) :
    Makes calls measure works failure (items.length * count) (items.foldlM step start) := by
  induction items generalizing start with
  | nil =>
    rw [List.length_nil, Nat.zero_mul]
    exact makes_pure start
  | cons item rest ih =>
    rw [List.length_cons, Nat.succ_mul, Nat.add_comm]
    exact makes_bind (each start item) ih

lemma makes_forM (each : ∀ item, Makes calls measure works failure count (step item))
    (items : List Item) :
    Makes calls measure works failure (items.length * count) (items.forM step) := by
  induction items with
  | nil =>
    rw [List.length_nil, Nat.zero_mul]
    exact makes_pure PUnit.unit
  | cons item rest ih =>
    rw [List.length_cons, Nat.succ_mul, Nat.add_comm]
    exact makes_bind (each item) fun _ => ih

end EmuLib.Operations
