import EmuLib.Lib.GuardedRun

/-!
Sections guarded by a binary semaphore that any thread can give, whether it took it or not: how
often a section gives the semaphore on its way through exceptions and handlers, and when at most
one thread is inside.
-/

namespace EmuLib.BinarySemaphore

open GuardedRun Function

inductive Op (Shared : Type*)
  | change (effect : Shared → Shared)
  | give

structure Piece (Shared : Type*) where
  ops : List (Op Shared)
  threw : Bool

variable {Shared Thread Activity : Type*}

def Op.isGive : Op Shared → Bool
  | .change _ => false
  | .give => true

def gives (ops : List (Op Shared)) : Nat := ops.countP Op.isGive

def GivesLast : List (Op Shared) → Prop
  | [] => True
  | op :: rest => (op.isGive = true → rest = []) ∧ GivesLast rest

namespace Piece

def done : Piece Shared := ⟨[], false⟩

def throws : Piece Shared := ⟨[], true⟩

def give : Piece Shared := ⟨[.give], false⟩

def andThen (first second : Piece Shared) : Piece Shared :=
  if first.threw then first else ⟨first.ops ++ second.ops, second.threw⟩

def catching (body handler : Piece Shared) : Piece Shared :=
  if body.threw then ⟨body.ops ++ handler.ops, handler.threw⟩ else body

def thenGive (piece : Piece Shared) : Piece Shared := (piece.andThen give).catching give

end Piece

section

variable {first second body handler : Piece Shared} {ops : List (Op Shared)}

@[simp] lemma gives_nil : gives ([] : List (Op Shared)) = 0 := rfl

@[simp] lemma gives_append (more) :
    gives (ops ++ more) = gives ops + gives more :=
  List.countP_append

@[simp] lemma gives_done : gives (Piece.done : Piece Shared).ops = 0 := rfl

@[simp] lemma gives_throws : gives (Piece.throws : Piece Shared).ops = 0 := rfl

@[simp] lemma gives_give : gives (Piece.give : Piece Shared).ops = 1 := rfl

@[simp] lemma threw_done : (Piece.done : Piece Shared).threw = false := rfl

@[simp] lemma threw_throws : (Piece.throws : Piece Shared).threw = true := rfl

@[simp] lemma threw_give : (Piece.give : Piece Shared).threw = false := rfl

@[simp] lemma gives_andThen : gives (first.andThen second).ops =
    gives first.ops + if first.threw then 0 else gives second.ops := by
  cases threw : first.threw <;> simp [Piece.andThen, threw]

@[simp] lemma threw_andThen : (first.andThen second).threw = (first.threw || second.threw) := by
  cases threw : first.threw <;> simp [Piece.andThen, threw]

@[simp] lemma gives_catching : gives (body.catching handler).ops =
    gives body.ops + if body.threw then gives handler.ops else 0 := by
  cases threw : body.threw <;> simp [Piece.catching, threw]

@[simp] lemma threw_catching : (body.catching handler).threw = (body.threw && handler.threw) := by
  cases threw : body.threw <;> simp [Piece.catching, threw]

@[simp] lemma gives_thenGive : gives first.thenGive.ops = gives first.ops + 1 := by
  cases threw : first.threw <;> simp [Piece.thenGive, threw]

@[simp] lemma threw_thenGive : first.thenGive.threw = false := by
  cases threw : first.threw <;> simp [Piece.thenGive, threw]

lemma thenGive_ops : first.thenGive.ops = first.ops ++ [.give] := by
  cases threw : first.threw <;>
    simp [Piece.thenGive, Piece.andThen, Piece.catching, Piece.give, threw]

lemma givesLast_snoc : GivesLast (ops ++ [.give]) ↔ gives ops = 0 := by
  induction ops with
  | nil => simp [GivesLast, gives, Op.isGive]
  | cons op rest ih =>
    cases op with
    | change effect =>
      simp only [List.cons_append, GivesLast, ih]
      simp [gives, Op.isGive]
    | give => simp [GivesLast, gives, Op.isGive]

/-- A section that ends with a give gives it last exactly if it gives it once. -/
lemma givesLast_iff_once {whole} (ends : whole = ops ++ [.give]) :
    GivesLast whole ↔ gives whole = 1 := by
  rw [ends, givesLast_snoc, gives_append]
  have last : gives [(.give : Op Shared)] = 1 := rfl
  omega

end

/-- `rest` is what a thread inside its section still has to do. -/
structure System (Thread Shared : Type*) where
  full : Bool
  shared : Shared
  rest : Thread → Option (List (Op Shared))

inductive Input (Thread Activity Shared : Type*)
  | take (thread : Thread) (activity : Activity)
  | run (thread : Thread)
  | interfere (op : Op Shared)

def Op.perform (op : Op Shared) (system : System Thread Shared) : System Thread Shared :=
  match op with
  | .change effect => { system with shared := effect system.shared }
  | .give => { system with full := true }

def remaining : List (Op Shared) → Option (List (Op Shared))
  | [] => none
  | op :: rest => some (op :: rest)

def step [DecidableEq Thread] (body : Activity → Shared → List (Op Shared))
    (system : System Thread Shared) : Input Thread Activity Shared → System Thread Shared
  | .take thread activity =>
    if system.full && (system.rest thread).isNone then
      { system with
        full := false
        rest := update system.rest thread (some (body activity system.shared)) }
    else system
  | .run thread =>
    match system.rest thread with
    | none => system
    | some [] => { system with rest := update system.rest thread none }
    | some (op :: later) =>
      { op.perform system with
        rest := update system.rest thread (remaining later) }
  | .interfere op => op.perform system

def System.start (Thread : Type*) (shared : Shared) : System Thread Shared :=
  ⟨true, shared, fun _ => none⟩

def AtMostOneInside (system : System Thread Shared) : Prop :=
  ∀ first second, (system.rest first).isSome = true → (system.rest second).isSome = true →
    first = second

/-- Every section that is entered gives the semaphore at its end or not at all, and nobody else
gives it. -/
def Disciplined (body : Activity → Shared → List (Op Shared)) (system : System Thread Shared) :
    Input Thread Activity Shared → Prop
  | .take _ activity => GivesLast (body activity system.shared)
  | .run _ => True
  | .interfere op => op.isGive = false

structure Exclusive (system : System Thread Shared) : Prop where
  givesLast : ∀ thread ops, system.rest thread = some ops → GivesLast ops
  empty : ∀ thread, (system.rest thread).isSome = true → system.full = false
  alone : AtMostOneInside system

lemma start_exclusive (shared : Shared) : Exclusive (System.start Thread shared) := by
  constructor
  · intro thread ops inside
    cases inside
  · intro thread inside
    cases inside
  · intro first second inside
    cases inside

variable [DecidableEq Thread] {body : Activity → Shared → List (Op Shared)}
  {system : System Thread Shared}

lemma take_exclusive (exclusive : Exclusive system) (thread activity)
    (disciplined : GivesLast (body activity system.shared)) :
    Exclusive (step body system (.take thread activity)) := by
  unfold step
  cases full : system.full with
  | false => simpa using exclusive
  | true =>
    have outside : ∀ other, (system.rest other).isSome = false := by
      intro other
      cases inside : (system.rest other).isSome with
      | false => rfl
      | true => exact absurd (full.symm.trans (exclusive.empty other inside)) (by decide)
    have none : (system.rest thread).isNone = true := by
      simpa using outside thread
    simp only [none, Bool.and_self, if_true]
    have only : ∀ other,
        (update system.rest thread (some (body activity system.shared)) other).isSome =
          true → other = thread := by
      intro other inside
      by_cases same : other = thread
      · exact same
      · rw [update_of_ne same] at inside
        exact absurd ((outside other).symm.trans inside) Bool.false_ne_true
    constructor
    · intro other ops inside
      have same := only other (by
        dsimp only at inside
        rw [inside]
        rfl)
      dsimp only at inside
      rw [same, update_self] at inside
      rw [← Option.some.inj inside]
      exact disciplined
    · intro other inside
      rfl
    · intro first second firstInside secondInside
      rw [only first firstInside, only second secondInside]

lemma leave_exclusive (exclusive : Exclusive system) (thread)
    (inside : (system.rest thread).isSome = true) (full shared) :
    Exclusive { full, shared, rest := update system.rest thread none } := by
  have outside : ∀ other, (update system.rest thread none other).isSome = false := by
    intro other
    by_cases same : other = thread
    · rw [same, update_self]
      rfl
    · rw [update_of_ne same]
      cases alsoInside : (system.rest other).isSome with
      | false => rfl
      | true => exact absurd (exclusive.alone other thread alsoInside inside) same
  constructor
  · intro other ops found
    have none := outside other
    dsimp only at found
    rw [found] at none
    cases none
  · intro other found
    exact absurd ((outside other).symm.trans found) Bool.false_ne_true
  · intro first second found
    exact absurd ((outside first).symm.trans found) Bool.false_ne_true

lemma stay_exclusive (exclusive : Exclusive system) (thread)
    (inside : (system.rest thread).isSome = true) (ops)
    (givesLast : GivesLast ops) (shared) :
    Exclusive { system with shared, rest := update system.rest thread (some ops) } := by
  have only : ∀ other,
      (update system.rest thread (some ops) other).isSome = true → other = thread := by
    intro other found
    by_cases same : other = thread
    · exact same
    · rw [update_of_ne same] at found
      exact exclusive.alone other thread found inside
  constructor
  · intro other otherOps found
    dsimp only at found
    have same := only other (by
      rw [found]
      rfl)
    rw [same, update_self] at found
    rw [← Option.some.inj found]
    exact givesLast
  · intro other found
    exact exclusive.empty thread inside
  · intro first second firstInside secondInside
    rw [only first firstInside, only second secondInside]

lemma run_exclusive (exclusive : Exclusive system) (thread) :
    Exclusive (step body system (.run thread)) := by
  cases found : system.rest thread with
  | none =>
    simp only [step, found]
    exact exclusive
  | some ops =>
    have inside : (system.rest thread).isSome = true := by
      rw [found]
      rfl
    have givesLast := exclusive.givesLast thread ops found
    cases ops with
    | nil =>
      simp only [step, found]
      exact leave_exclusive exclusive thread inside system.full system.shared
    | cons op later =>
      cases later with
      | nil =>
        cases op with
        | change effect =>
          simp only [step, found, Op.perform, remaining]
          exact leave_exclusive exclusive thread inside system.full _
        | give =>
          simp only [step, found, Op.perform, remaining]
          exact leave_exclusive exclusive thread inside true system.shared
      | cons next others =>
        cases op with
        | change effect =>
          simp only [step, found, Op.perform, remaining]
          exact stay_exclusive exclusive thread inside _ givesLast.2 _
        | give => exact absurd (givesLast.1 rfl) (List.cons_ne_nil _ _)

lemma step_exclusive (system : System Thread Shared) (input)
    (exclusive : Exclusive system) (disciplined : Disciplined body system input) :
    Exclusive (step body system input) := by
  cases input with
  | take thread activity => exact take_exclusive exclusive thread activity disciplined
  | run thread => exact run_exclusive exclusive thread
  | interfere op =>
    cases op with
    | change effect => exact ⟨exclusive.givesLast, exclusive.empty, exclusive.alone⟩
    | give => cases disciplined

/-- Mutual exclusion: in every run of disciplined sections at most one thread is inside. -/
lemma run_atMostOneInside (shared) (inputs : List (Input Thread Activity Shared))
    (disciplined : Guarded (step body) (Disciplined body) (System.start Thread shared) inputs) :
    AtMostOneInside (runFrom (step body) (System.start Thread shared) inputs) := by
  have exclusive : Exclusive (runFrom (step body) (System.start Thread shared) inputs) :=
    run_invariant step_exclusive (start_exclusive shared) disciplined
  exact exclusive.alone

end EmuLib.BinarySemaphore
