import Mathlib.Data.Fintype.Card
import EmuLib.Lib.GuardedRun

/-!
The barrier at which the interrupt threads of the FED crates wait for each other when they reset.
-/

namespace EmuLib.Fed.ResetBarrier

open GuardedRun Function

/-- Where a thread is: in the outer loop before the barrier, waiting on the condition, told to go
on but without the mutex yet, or in the inner loop. -/
inductive Stage
  | resetting
  | waiting
  | signaled
  | running
deriving DecidableEq

/-- The count is shared; how often each thread has come to the barrier and has left it is what the
barrier is about, and no thread looks at it. -/
structure Threads (nCrates : Nat) where
  resetCount : Nat
  stage : Fin nCrates → Stage
  arrived : Fin nCrates → Nat
  passed : Fin nCrates → Nat

inductive Action
  | arrive
  | leave
  | poll
  | reset
deriving DecidableEq

variable {nCrates : Nat}

namespace Threads

def started : Threads nCrates := ⟨0, fun _ => .resetting, fun _ => 0, fun _ => 0⟩

variable (threads : Threads nCrates) (thread : Fin nCrates)

def move (stage : Stage) : Threads nCrates :=
  { threads with stage := update threads.stage thread stage }

/-- `pthread_cond_broadcast`. -/
def broadcast : Threads nCrates :=
  { threads with
    stage := fun other =>
      if threads.stage other = .waiting then .signaled else threads.stage other }

def leave : Threads nCrates :=
  { threads.move thread .running with
    resetCount := 0
    passed := update threads.passed thread (threads.passed thread + 1) }

def arrive : Threads nCrates :=
  let counted : Threads nCrates :=
    { threads with
      resetCount := threads.resetCount + 1
      arrived := update threads.arrived thread (threads.arrived thread + 1) }
  if nCrates > 1 then
    if counted.resetCount ≥ nCrates then counted.broadcast.leave thread
    else counted.move thread .waiting
  else counted.leave thread

def poll : Threads nCrates :=
  if threads.resetCount ≠ 0 then threads.move thread .resetting else threads

def step (input : Fin nCrates × Action) : Threads nCrates :=
  match input.2, threads.stage input.1 with
  | .arrive, .resetting => threads.arrive input.1
  | .leave, .signaled => threads.leave input.1
  | .poll, .running => threads.poll input.1
  | .reset, .running => threads.move input.1 .resetting
  | _, _ => threads

def waiters : Finset (Fin nCrates) :=
  Finset.univ.filter fun thread => threads.stage thread = .waiting

def Ordered : Prop := ∀ thread other, threads.passed thread ≤ threads.arrived other

def Counted : Prop := threads.resetCount = threads.waiters.card

instance : Decidable threads.Counted := inferInstanceAs (Decidable (_ = _))

end Threads

section

variable {threads : Threads nCrates} {thread : Fin nCrates}

@[simp] lemma mem_waiters {other} : other ∈ threads.waiters ↔ threads.stage other = .waiting := by
  simp [Threads.waiters]

lemma waiters_move_waiting (absent : threads.stage thread ≠ .waiting) :
    (threads.move thread .waiting).waiters = insert thread threads.waiters := by
  ext other
  rw [Threads.move]
  by_cases same : other = thread
  · subst same
    simp
  · simp [same]

lemma waiters_move_other {stage} (absent : threads.stage thread ≠ .waiting)
    (elsewhere : stage ≠ .waiting) : (threads.move thread stage).waiters = threads.waiters := by
  ext other
  rw [Threads.move]
  by_cases same : other = thread
  · subst same
    simp [absent, elsewhere]
  · simp [same]

lemma waiters_broadcast : threads.broadcast.waiters = ∅ := by
  ext other
  rw [Threads.broadcast]
  by_cases waits : threads.stage other = .waiting
  · simp [waits]
  · simp [waits]

end

structure InRound (round : Nat) (stage : Stage) (arrived passed : Nat) : Prop where
  away : stage = .resetting ∨ stage = .running → arrived = round ∧ passed = round
  waiting : stage = .waiting → arrived = round + 1 ∧ passed = round
  signaled : stage = .signaled → arrived = round ∧ passed + 1 = round

structure Threads.Barrier (threads : Threads nCrates) : Prop where
  rounds : ∃ round, ∀ thread,
    InRound round (threads.stage thread) (threads.arrived thread) (threads.passed thread)
  few : threads.resetCount ≤ threads.waiters.card

section

variable {threads : Threads nCrates} {thread : Fin nCrates} {round : Nat}

lemma started_barrier : (Threads.started : Threads nCrates).Barrier where
  rounds := ⟨0, fun _ => ⟨fun _ => ⟨rfl, rfl⟩, nofun, nofun⟩⟩
  few := Nat.zero_le _

lemma Threads.Barrier.ordered (barrier : threads.Barrier) : threads.Ordered := by
  obtain ⟨round, rounds⟩ := barrier.rounds
  intro thread other
  have passed : threads.passed thread ≤ round := by
    obtain ⟨away, waiting, signaled⟩ := rounds thread
    cases here : threads.stage thread with
    | resetting => exact (away (.inl here)).2.le
    | waiting => exact (waiting here).2.le
    | signaled => have := (signaled here).2; omega
    | running => exact (away (.inr here)).2.le
  have arrived : round ≤ threads.arrived other := by
    obtain ⟨away, waiting, signaled⟩ := rounds other
    cases there : threads.stage other with
    | resetting => exact (away (.inl there)).1.ge
    | waiting => have := (waiting there).1; omega
    | signaled => exact (signaled there).1.ge
    | running => exact (away (.inr there)).1.ge
  exact passed.trans arrived

lemma leave_barrier
    (others : ∀ other ≠ thread,
      InRound round (threads.stage other) (threads.arrived other) (threads.passed other))
    (came : threads.arrived thread = round) (left : threads.passed thread + 1 = round) :
    (threads.leave thread).Barrier := by
  refine ⟨⟨round, fun other => ?_⟩, Nat.zero_le _⟩
  by_cases same : other = thread
  · subst same
    have gone : (threads.leave other).passed other = round :=
      (update_self ..).trans left
    have inside : (threads.leave other).stage other = .running := update_self ..
    rw [inside, gone]
    exact ⟨fun _ => ⟨came, rfl⟩, nofun, nofun⟩
  · have stays : (threads.leave thread).stage other = threads.stage other :=
      update_of_ne same ..
    have before : (threads.leave thread).passed other = threads.passed other :=
      update_of_ne same ..
    rw [stays, before]
    exact others other same

lemma Threads.Barrier.everyone (barrier : threads.Barrier)
    (here : threads.stage thread = .resetting) (full : nCrates ≤ threads.resetCount + 1)
    (other) (another : other ≠ thread) : threads.stage other = .waiting := by
  by_contra away
  have missing : threads.waiters ⊆ (Finset.univ.erase thread).erase other := by
    intro waiter inside
    rw [mem_waiters] at inside
    rw [Finset.mem_erase, Finset.mem_erase]
    refine ⟨?_, ?_, Finset.mem_univ _⟩
    · rintro rfl
      exact away inside
    · rintro rfl
      rw [here] at inside
      cases inside
  have fewer := Finset.card_le_card missing
  rw [Finset.card_erase_of_mem (Finset.mem_erase.2 ⟨another, Finset.mem_univ _⟩),
    Finset.card_erase_of_mem (Finset.mem_univ _), Finset.card_univ, Fintype.card_fin] at fewer
  have few := barrier.few
  omega

lemma wait_barrier (barrier : threads.Barrier) (here : threads.stage thread = .resetting)
    {counted : Threads nCrates} (stage : counted.stage = threads.stage)
    (passed : counted.passed = threads.passed)
    (arrived : counted.arrived =
      update threads.arrived thread (threads.arrived thread + 1))
    (resetCount : counted.resetCount = threads.resetCount + 1) :
    (counted.move thread .waiting).Barrier := by
  obtain ⟨round, rounds⟩ := barrier.rounds
  obtain ⟨came, left⟩ := (rounds thread).away (.inl here)
  have absent : counted.stage thread ≠ .waiting := by
    rw [stage, here]
    nofun
  refine ⟨⟨round, fun other => ?_⟩, ?_⟩
  · change InRound round (update counted.stage thread .waiting other)
      (counted.arrived other) (counted.passed other)
    rw [stage, passed, arrived]
    by_cases same : other = thread
    · subst same
      rw [update_self, update_self, came]
      refine ⟨fun away => ?_, fun _ => ⟨rfl, left⟩, nofun⟩
      rcases away with away | away <;> cases away
    · rw [update_of_ne same, update_of_ne same]
      exact rounds other
  · have few := barrier.few
    have unchanged : counted.waiters = threads.waiters := by rw [Threads.waiters, stage]; rfl
    have outside : thread ∉ threads.waiters := by
      rw [mem_waiters, here]
      nofun
    rw [waiters_move_waiting absent, unchanged, Finset.card_insert_of_notMem outside]
    change counted.resetCount ≤ _
    omega

lemma Threads.Barrier.arrive (barrier : threads.Barrier)
    (here : threads.stage thread = .resetting) : (threads.arrive thread).Barrier := by
  obtain ⟨round, rounds⟩ := barrier.rounds
  obtain ⟨arrived, passed⟩ := (rounds thread).away (.inl here)
  have came : update threads.arrived thread (threads.arrived thread + 1) thread =
      round + 1 := by rw [update_self, arrived]
  rw [Threads.arrive]
  split
  · split
    · rename_i full
      refine leave_barrier (fun other another => ?_) came (congrArg (· + 1) passed)
      have waits := barrier.everyone here full other another
      obtain ⟨there, before⟩ := (rounds other).waiting waits
      have told : (if threads.stage other = .waiting then Stage.signaled
          else threads.stage other) = .signaled := if_pos waits
      have kept : update threads.arrived thread (threads.arrived thread + 1) other =
          threads.arrived other := update_of_ne another ..
      refine ⟨fun away => ?_, fun wait => ?_, fun _ => ⟨kept.trans there, ?_⟩⟩
      · rcases away with away | away <;> cases told.symm.trans away
      · cases told.symm.trans wait
      · exact congrArg (· + 1) before
    · exact wait_barrier barrier here rfl rfl rfl rfl
  · refine leave_barrier (fun other another => absurd (Fin.ext ?_) another) came
      (congrArg (· + 1) passed)
    have first := thread.isLt
    omega

lemma Threads.Barrier.leave (barrier : threads.Barrier)
    (here : threads.stage thread = .signaled) : (threads.leave thread).Barrier := by
  obtain ⟨round, rounds⟩ := barrier.rounds
  obtain ⟨arrived, passed⟩ := (rounds thread).signaled here
  exact leave_barrier (fun other _ => rounds other) arrived passed

lemma Threads.Barrier.reset (barrier : threads.Barrier)
    (here : threads.stage thread = .running) : (threads.move thread .resetting).Barrier := by
  obtain ⟨round, rounds⟩ := barrier.rounds
  obtain ⟨arrived, passed⟩ := (rounds thread).away (.inr here)
  refine ⟨⟨round, fun other => ?_⟩, ?_⟩
  · change InRound round (update threads.stage thread .resetting other)
      (threads.arrived other) (threads.passed other)
    by_cases same : other = thread
    · subst same
      rw [update_self, arrived, passed]
      exact ⟨fun _ => ⟨rfl, rfl⟩, nofun, nofun⟩
    · rw [update_of_ne same]
      exact rounds other
  · have absent : threads.stage thread ≠ .waiting := by rw [here]; nofun
    rw [waiters_move_other absent (by nofun)]
    exact barrier.few

end

section

variable {threads : Threads nCrates} {input : Fin nCrates × Action}

def Prompt (threads : Threads nCrates) (input : Fin nCrates × Action) : Prop :=
  input.2 = .leave → threads.stage input.1 = .signaled → threads.waiters = ∅

lemma step_cases (threads : Threads nCrates) (input) :
    (input.2 = .arrive ∧ threads.stage input.1 = .resetting ∧
      threads.step input = threads.arrive input.1) ∨
    (input.2 = .leave ∧ threads.stage input.1 = .signaled ∧
      threads.step input = threads.leave input.1) ∨
    (input.2 ≠ .leave ∧ threads.stage input.1 = .running ∧
      threads.step input = threads.move input.1 .resetting) ∨
    (threads.step input = threads ∧ ¬ (input.2 = .leave ∧ threads.stage input.1 = .signaled)) := by
  obtain ⟨thread, action⟩ := input
  by_cases zero : threads.resetCount = 0 <;> cases action <;>
    cases here : threads.stage thread <;> simp [Threads.step, here, Threads.poll, zero]

lemma step_barrier (input) (barrier : threads.Barrier) : (threads.step input).Barrier := by
  obtain ⟨_, here, next⟩ | ⟨_, here, next⟩ | ⟨_, here, next⟩ | ⟨next, _⟩ := step_cases threads input
  · rw [next]
    exact barrier.arrive here
  · rw [next]
    exact barrier.leave here
  · rw [next]
    exact barrier.reset here
  · rw [next]
    exact barrier

lemma leave_counted_iff {thread} (absent : threads.stage thread ≠ .waiting) :
    (threads.leave thread).Counted ↔ threads.waiters = ∅ := by
  have same : (threads.leave thread).waiters = threads.waiters :=
    waiters_move_other absent nofun
  rw [Threads.Counted, same, ← Finset.card_eq_zero]
  exact eq_comm

lemma arrive_counted {thread} (here : threads.stage thread = .resetting)
    (counted : threads.Counted) : (threads.arrive thread).Counted := by
  have absent : threads.stage thread ≠ .waiting := by rw [here]; nofun
  rw [Threads.arrive]
  split
  · split
    · refine (leave_counted_iff ?_).2 waiters_broadcast
      change (if threads.stage thread = .waiting then Stage.signaled else threads.stage thread) ≠ _
      rw [here]
      nofun
    · have outside : thread ∉ threads.waiters := by rwa [mem_waiters]
      refine (congrArg (· + 1) counted).trans ?_
      rw [← Finset.card_insert_of_notMem outside]
      exact congrArg Finset.card (waiters_move_waiting absent).symm
  · refine (leave_counted_iff absent).2 (Finset.eq_empty_of_forall_notMem fun other inside => ?_)
    have only : other = thread := by
      exact Fin.ext (by omega)
    have waits : threads.stage other = .waiting := mem_waiters.1 inside
    rw [only] at waits
    exact absent waits

lemma step_counted_iff (input) (counted : threads.Counted) :
    (threads.step input).Counted ↔ Prompt threads input := by
  obtain ⟨arrives, here, next⟩ | ⟨leaves, here, next⟩ | ⟨stays, here, next⟩ | ⟨next, away⟩ :=
    step_cases threads input
  · rw [next]
    refine iff_of_true (arrive_counted here counted) fun leaves => ?_
    rw [arrives] at leaves
    cases leaves
  · have absent : threads.stage input.1 ≠ .waiting := by rw [here]; nofun
    rw [next, leave_counted_iff absent]
    exact ⟨fun none _ _ => none, fun prompt => prompt leaves here⟩
  · have absent : threads.stage input.1 ≠ .waiting := by rw [here]; nofun
    have same : (threads.move input.1 .resetting).waiters = threads.waiters :=
      waiters_move_other absent nofun
    rw [next]
    exact iff_of_true (counted.trans (congrArg Finset.card same.symm))
      fun leaves => absurd leaves stays
  · rw [next]
    exact iff_of_true counted fun leaves here => absurd ⟨leaves, here⟩ away

end

abbrev run (inputs : List (Fin nCrates × Action)) : Threads nCrates :=
  runFrom Threads.step .started inputs

lemma run_barrier (inputs : List (Fin nCrates × Action)) : (run inputs).Barrier :=
  run_preserved (fun _ input barrier => step_barrier input barrier) inputs started_barrier

lemma started_counted : (Threads.started : Threads nCrates).Counted := by
  have none : (Threads.started : Threads nCrates).waiters = ∅ :=
    Finset.filter_eq_empty_iff.2 fun _ _ => nofun
  rw [Threads.Counted, none]
  rfl

lemma Threads.Counted.seen {threads : Threads nCrates} (counted : threads.Counted) {thread}
    (waits : threads.stage thread = .waiting) : threads.resetCount ≠ 0:= by
  rw [counted]
  exact Finset.card_ne_zero_of_mem (mem_waiters.2 waits)

/-- What the barrier is there for: no thread passes it before all have come, and its count is that
of the threads at it, so that none of them is overlooked. -/
def Threads.Synchronized (threads : Threads nCrates) : Prop :=
  threads.Ordered ∧ threads.Counted ∧
    ∀ thread, threads.stage thread = .waiting → threads.resetCount ≠ 0

lemma Threads.Barrier.synchronized_iff {threads : Threads nCrates} (barrier : threads.Barrier) :
    threads.Synchronized ↔ threads.Counted :=
  ⟨fun synchronized => synchronized.2.1,
    fun counted => ⟨barrier.ordered, counted, fun _ => counted.seen⟩⟩

/-- No thread ever passes the barrier too early; and the threads stay synchronized in a run
exactly if every released thread has got the mutex before another one comes to the barrier again. -/
theorem reset_barrier (nCrates : Nat) (inputs : List (Fin nCrates × Action)) :
    (run inputs).Ordered ∧
    ((∀ earlier, earlier <+: inputs → (run earlier).Synchronized) ↔
      Guarded Threads.step Prompt .started inputs) := by
  refine ⟨(run_barrier inputs).ordered, ?_⟩
  rw [← always_iff_guarded (fun _ input => step_counted_iff input) inputs started_counted]
  exact forall_congr' fun earlier => forall_congr' fun _ => (run_barrier earlier).synchronized_iff

/-- The thread that releases the other one comes to the barrier again before that one has gone on,
and is overlooked from then on. -/
def overlooked : List (Fin 2 × Action) :=
  [(0, .arrive), (1, .arrive), (1, .reset), (1, .arrive), (0, .leave)]

theorem overlooked_thread : (run overlooked).resetCount = 0 ∧
    (run overlooked).stage 1 = .waiting ∧ (run overlooked).stage 0 = .running ∧
    ¬ (run overlooked).Synchronized := by
  have forgotten : (run overlooked).resetCount = 0 ∧ (run overlooked).stage 1 = .waiting ∧
      (run overlooked).stage 0 = .running := by decide
  exact ⟨forgotten.1, forgotten.2.1, forgotten.2.2, fun synchronized =>
    synchronized.2.2 1 forgotten.2.1 forgotten.1⟩

end EmuLib.Fed.ResetBarrier
