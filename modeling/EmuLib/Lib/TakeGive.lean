import EmuLib.Lib.GuardedRun

/-!
Threads that take a binary semaphore and give it.

The semaphore can be given by a thread that has not taken it.  Where every
activity of a thread takes it and gives it in turn, at most one thread has it,
and the one that has it gives it next.
-/

namespace EmuLib.TakeGive

open GuardedRun Function

/-- What an activity does to the semaphore; nothing can be said of what comes after an operation
that has no defined meaning. -/
inductive Op
  | take
  | give
  | undefined
deriving DecidableEq

def follow : Bool → List Op → Option Bool
  | held, [] => some held
  | false, .take :: rest => follow true rest
  | true, .give :: rest => follow false rest
  | _, _ :: _ => none

def Balanced (ops : List Op) : Prop := follow false ops = some false

instance (ops : List Op) : Decidable (Balanced ops) := inferInstanceAs (Decidable (_ = _))

lemma follow_counts {held left ops} (follows : follow held ops = some left) :
    held.toNat + ops.count .take = left.toNat + ops.count .give := by
  induction ops generalizing held with
  | nil =>
    cases follows
    rfl
  | cons op rest ih =>
    cases held with
    | false =>
      cases op with
      | take =>
        have counted := ih follows
        simp only [List.count_cons_self, Bool.toNat_true, Bool.toNat_false] at counted ⊢
        rw [List.count_cons_of_ne (by decide)]
        omega
      | give => cases follows
      | undefined => cases follows
    | true =>
      cases op with
      | take => cases follows
      | give =>
        have counted := ih follows
        simp only [List.count_cons_self, Bool.toNat_true, Bool.toNat_false] at counted ⊢
        rw [List.count_cons_of_ne (by decide)]
        omega
      | undefined => cases follows

lemma Balanced.counts {ops} (balanced : Balanced ops) : ops.count .take = ops.count .give := by
  have counted := follow_counts balanced
  omega

variable {Thread Activity : Type*}

/-- `holding` tells which threads are between a take and its give, `rest` what they still do. -/
structure System (Thread : Type*) where
  full : Bool
  holding : Thread → Bool
  rest : Thread → List Op

inductive Input (Thread Activity : Type*)
  | start (thread : Thread) (activity : Activity)
  | run (thread : Thread)

namespace System

def initial (Thread : Type*) : System Thread := ⟨true, fun _ => false, fun _ => []⟩

variable (system : System Thread)

def AtMostOneHolds : Prop :=
  ∀ first second, system.holding first = true → system.holding second = true → first = second

def Waits (thread : Thread) : Prop :=
  system.full = false ∧ ∃ later, system.rest thread = .take :: later

def Served (thread : Thread) : Prop :=
  ∃ other, other ≠ thread ∧ system.holding other = true ∧
    ∃ later, system.rest other = .give :: later

end System

/-- A thread takes up an activity when it has none, and goes on with it; a take waits until the
semaphore is full. -/
def step [DecidableEq Thread] (ops : Activity → List Op) (system : System Thread) :
    Input Thread Activity → System Thread
  | .start thread activity =>
    match system.rest thread with
    | [] => { system with rest := update system.rest thread (ops activity) }
    | _ :: _ => system
  | .run thread =>
    match system.rest thread with
    | [] => system
    | .take :: later =>
      if system.full then
        ⟨false, update system.holding thread true,
          update system.rest thread later⟩
      else system
    | .give :: later =>
      ⟨true, update system.holding thread false,
        update system.rest thread later⟩
    | .undefined :: later => { system with rest := update system.rest thread later }

def InTurn (ops : Activity → List Op) (_ : System Thread) : Input Thread Activity → Prop
  | .start _ activity => Balanced (ops activity)
  | .run _ => True

structure Orderly (system : System Thread) : Prop where
  follows : ∀ thread, follow (system.holding thread) (system.rest thread) = some false
  empty : ∀ thread, system.holding thread = true → system.full = false
  alone : system.AtMostOneHolds
  somebody : system.full = false → ∃ thread, system.holding thread = true

lemma initial_orderly : Orderly (System.initial Thread) := by
  refine ⟨fun _ => rfl, ?_, ?_, ?_⟩
  · intro thread holds
    cases holds
  · intro first second holds
    cases holds
  · intro empty
    cases empty

variable {thread : Thread}

lemma Orderly.served {system} (orderly : Orderly system)
    (waits : system.Waits thread) : system.Served thread := by
  obtain ⟨empty, later, next⟩ := waits
  obtain ⟨other, holds⟩ := orderly.somebody empty
  have gives : ∃ later, system.rest other = .give :: later := by
    have follows := orderly.follows other
    rw [holds] at follows
    cases rest : system.rest other with
    | nil =>
      rw [rest] at follows
      cases follows
    | cons op later =>
      rw [rest] at follows
      cases op with
      | give => exact ⟨later, rfl⟩
      | take => cases follows
      | undefined => cases follows
  refine ⟨other, ?_, holds, gives⟩
  rintro rfl
  obtain ⟨_, gives⟩ := gives
  rw [next] at gives
  cases gives

variable [DecidableEq Thread] {ops : Activity → List Op} {system : System Thread}

lemma start_orderly (orderly : Orderly system) (thread) {activity}
    (balanced : Balanced (ops activity)) : Orderly (step ops system (.start thread activity)) := by
  rw [step]
  split
  · rename_i idle
    refine ⟨fun other => ?_, orderly.empty, orderly.alone, orderly.somebody⟩
    by_cases same : other = thread
    · have outside : system.holding thread = false := by
        have follows := orderly.follows thread
        rw [idle] at follows
        exact Option.some.inj follows
      subst same
      dsimp only
      rw [update_self, outside]
      exact balanced
    · dsimp only
      rw [update_of_ne same]
      exact orderly.follows other
  · exact orderly

lemma take_orderly (orderly : Orderly system) {later} (next : system.rest thread = .take :: later)
    (full : system.full = true) :
    Orderly ⟨false, update system.holding thread true,
      update system.rest thread later⟩ := by
  have nobody : ∀ other, ¬ system.holding other = true := by
    intro other holds
    have empty := orderly.empty other holds
    rw [full] at empty
    cases empty
  have only : ∀ other, update system.holding thread true other = true →
      other = thread := by
    intro other holds
    by_contra apart
    rw [update_of_ne apart] at holds
    exact nobody other holds
  refine ⟨fun other => ?_, fun _ _ => rfl, fun first second one another => ?_,
    fun _ => ⟨thread, update_self ..⟩⟩
  · by_cases same : other = thread
    · subst same
      have follows := orderly.follows other
      rw [next, Bool.eq_false_iff.2 (nobody other)] at follows
      dsimp only
      rw [update_self, update_self]
      exact follows
    · dsimp only
      rw [update_of_ne same, update_of_ne same]
      exact orderly.follows other
  · rw [only first one, only second another]

lemma give_orderly (orderly : Orderly system) {later}
    (next : system.rest thread = .give :: later) :
    Orderly ⟨true, update system.holding thread false,
      update system.rest thread later⟩ := by
  have follows := orderly.follows thread
  rw [next] at follows
  have holds : system.holding thread = true := by
    cases held : system.holding thread with
    | true => rfl
    | false =>
      rw [held] at follows
      cases follows
  have nobody : ∀ other, ¬ update system.holding thread false other = true := by
    intro other held
    by_cases same : other = thread
    · rw [same, update_self] at held
      cases held
    · rw [update_of_ne same] at held
      exact same (orderly.alone other thread held holds)
  refine ⟨fun other => ?_, fun other held => absurd held (nobody other),
    fun first _ held => absurd held (nobody first), fun empty => ?_⟩
  · by_cases same : other = thread
    · subst same
      rw [holds] at follows
      dsimp only
      rw [update_self, update_self]
      exact follows
    · dsimp only
      rw [update_of_ne same, update_of_ne same]
      exact orderly.follows other
  · cases empty

lemma step_orderly (system : System Thread) (input)
    (orderly : Orderly system) (inTurn : InTurn ops system input) :
    Orderly (step ops system input) := by
  cases input with
  | start thread activity => exact start_orderly orderly thread inTurn
  | run thread =>
    rw [step]
    split
    · exact orderly
    · rename_i later next
      split
      · rename_i full
        exact take_orderly orderly next full
      · exact orderly
    · rename_i later next
      exact give_orderly orderly next
    · rename_i later next
      have follows := orderly.follows thread
      rw [next] at follows
      cases held : system.holding thread <;> rw [held] at follows <;> cases follows

/-- In every run of such activities at most one thread has the semaphore, and whoever waits for it
is served. -/
lemma run_orderly {inputs}
    (inTurn : Guarded (step ops) (InTurn ops) (System.initial Thread) inputs) :
    Orderly (runFrom (step ops) (System.initial Thread) inputs) :=
  run_invariant step_orderly initial_orderly inTurn

end EmuLib.TakeGive
