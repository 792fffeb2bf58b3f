import Mathlib.Data.List.Basic
import Mathlib.Logic.Function.Iterate

/-!
Runs of a deterministic machine over a list of inputs, and the rule that carries
an invariant along a run whose inputs all meet a guard in the state they are
taken in.
-/

namespace EmuLib.GuardedRun

variable {State Input : Type*}

def runFrom (step : State → Input → State) (state : State) (inputs : List Input) : State :=
  inputs.foldl step state

def Guarded (step : State → Input → State) (guard : State → Input → Prop) :
    State → List Input → Prop
  | _, [] => True
  | state, input :: rest => guard state input ∧ Guarded step guard (step state input) rest

instance {step : State → Input → State} {guard : State → Input → Prop}
    [∀ state input, Decidable (guard state input)] :
    ∀ state inputs, Decidable (Guarded step guard state inputs)
  | _, [] => inferInstanceAs (Decidable True)
  | state, input :: rest =>
    have : Decidable (Guarded step guard (step state input) rest) :=
      instDecidableGuarded (step state input) rest
    inferInstanceAs (Decidable (guard state input ∧ Guarded step guard (step state input) rest))

def outputs {Output : Type*} (step : State → Input → State) (emit : State → Input → List Output) :
    State → List Input → List Output
  | _, [] => []
  | state, input :: rest => emit state input ++ outputs step emit (step state input) rest

lemma outputs_append {Output} (step) (emit : State → Input → List Output) (state first second) :
    outputs step emit state (first ++ second) =
      outputs step emit state first ++ outputs step emit (runFrom step state first) second := by
  induction first generalizing state with
  | nil => rfl
  | cons input rest ih =>
    rw [List.cons_append, outputs, ih, outputs, List.append_assoc]
    rfl

variable {step : State → Input → State} {guard weaker : State → Input → Prop}

@[simp] lemma runFrom_nil (state) : runFrom step state [] = state := rfl

@[simp] lemma runFrom_cons (state input rest) :
    runFrom step state (input :: rest) = runFrom step (step state input) rest := rfl

@[simp] lemma runFrom_append (state first second) :
    runFrom step state (first ++ second) = runFrom step (runFrom step state first) second := by
  simp [runFrom]

@[simp] lemma guarded_nil (state) : Guarded step guard state [] := trivial

@[simp] lemma guarded_cons (state input rest) :
    Guarded step guard state (input :: rest) ↔
      guard state input ∧ Guarded step guard (step state input) rest := Iff.rfl

@[simp] lemma guarded_append (state first second) :
    Guarded step guard state (first ++ second) ↔
      Guarded step guard state first ∧ Guarded step guard (runFrom step state first) second := by
  induction first generalizing state with
  | nil => simp
  | cons input rest ih => simp [ih, and_assoc]

lemma Guarded.mono (implied : ∀ state input, guard state input → weaker state input)
    {state inputs} (guarded : Guarded step guard state inputs) :
    Guarded step weaker state inputs := by
  induction inputs generalizing state with
  | nil => trivial
  | cons input rest ih => exact ⟨implied state input guarded.1, ih guarded.2⟩

lemma guarded_of_forall {admits : Input → Prop} {inputs} (all : ∀ input ∈ inputs, admits input)
    (state) : Guarded step (fun _ input => admits input) state inputs := by
  induction inputs generalizing state with
  | nil => trivial
  | cons input rest ih =>
    rw [List.forall_mem_cons] at all
    exact ⟨all.1, ih all.2 (step state input)⟩

lemma guarded_and {other state inputs} :
    Guarded step (fun current input => guard current input ∧ other current input) state inputs ↔
      Guarded step guard state inputs ∧ Guarded step other state inputs := by
  induction inputs generalizing state with
  | nil => simp
  | cons input rest ih =>
    simp only [guarded_cons, ih]
    constructor
    · rintro ⟨⟨first, second⟩, firstRest, secondRest⟩
      exact ⟨⟨first, firstRest⟩, second, secondRest⟩
    · rintro ⟨⟨first, firstRest⟩, second, secondRest⟩
      exact ⟨⟨first, second⟩, firstRest, secondRest⟩

/-- The invariant rule: what every guarded step preserves holds at the end of
every guarded run. -/
lemma run_invariant {invariant : State → Prop}
    (preserved : ∀ state input, invariant state → guard state input →
      invariant (step state input))
    {state inputs} (start : invariant state)
    (guarded : Guarded step guard state inputs) : invariant (runFrom step state inputs) := by
  induction inputs generalizing state with
  | nil => exact start
  | cons input rest ih => exact ih (preserved state input start guarded.1) guarded.2

lemma run_preserved {invariant : State → Prop}
    (preserved : ∀ state input, invariant state → invariant (step state input)) {state} (inputs)
    (start : invariant state) : invariant (runFrom step state inputs) := by
  induction inputs generalizing state with
  | nil => exact start
  | cons input rest ih => exact ih (preserved state input start)

/-- Where every step keeps the invariant exactly if it meets the guard, the invariant holds all
along a run exactly if the run is guarded. -/
lemma always_iff_guarded {invariant : State → Prop}
    (exact_ : ∀ state input, invariant state →
      (invariant (step state input) ↔ guard state input))
    {state} (inputs) (start : invariant state) :
    (∀ earlier, earlier <+: inputs → invariant (runFrom step state earlier)) ↔
      Guarded step guard state inputs := by
  induction inputs generalizing state with
  | nil =>
    simp only [guarded_nil, iff_true]
    intro earlier initial
    rw [List.prefix_nil.1 initial]
    exact start
  | cons input rest ih =>
    constructor
    · intro always
      have kept : invariant (step state input) :=
        always [input] (List.prefix_append [input] rest)
      refine ⟨(exact_ state input start).1 kept, (ih kept).1 ?_⟩
      intro earlier initial
      exact always (input :: earlier) (List.cons_prefix_cons.2 ⟨rfl, initial⟩)
    · rintro ⟨met, guarded⟩ earlier initial
      cases earlier with
      | nil => exact start
      | cons first later =>
        obtain ⟨rfl, following⟩ := List.cons_prefix_cons.1 initial
        exact (ih ((exact_ state first start).2 met)).2 guarded later following

end EmuLib.GuardedRun
