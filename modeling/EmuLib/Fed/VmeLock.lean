import EmuLib.Lib.GuardedRun

/-!
The lock of a crate: a recursive mutex for the threads, a file lock for the processes, and a counter
that makes the file lock recursive.
-/

namespace EmuLib.Fed.VmeLock

open GuardedRun Function

variable {Thread : Type*} [DecidableEq Thread]

abbrev Mutex (Thread : Type*) := Option (Thread × Nat)

inductive Locking (Thread : Type*)
  | locked (mutex : Mutex Thread)
  | failed
  | waits

def pthreadMutexLock (thread : Thread) : Mutex Thread → Locking Thread
  | none => .locked (some (thread, 1))
  | some (owner, count) =>
    if owner = thread then
      if count + 1 < 4294967296 then .locked (some (owner, count + 1)) else .failed
    else .waits

def pthreadMutexUnlock (thread : Thread) : Mutex Thread → Option (Mutex Thread)
  | none => none
  | some (owner, count) =>
    if owner = thread then some (if count = 1 then none else some (owner, count - 1)) else none

structure VMELock (Thread : Type*) where
  mutex : Mutex Thread
  fileLocked : Bool
  nFileLock : UInt32
deriving DecidableEq

inductive Exit
  | returned
  | threw
  | waits
deriving DecidableEq

namespace VMELock

variable (vmeLock : VMELock Thread) (thread : Thread) (flockWorks : Bool)

def lock : VMELock Thread × Exit :=
  match pthreadMutexLock thread vmeLock.mutex with
  | .waits => (vmeLock, .waits)
  | .failed => (vmeLock, .threw)
  | .locked mutex =>
    if flockWorks then
      ({ mutex, fileLocked := true, nFileLock := vmeLock.nFileLock + 1 }, .returned)
    else ({ vmeLock with mutex }, .threw)

def unlockFile : Option (VMELock Thread) :=
  if vmeLock.nFileLock = 1 then
    if flockWorks then some { vmeLock with fileLocked := false, nFileLock := 0 } else none
  else if 0 < vmeLock.nFileLock then some { vmeLock with nFileLock := vmeLock.nFileLock - 1 }
  else some vmeLock

def unlock : VMELock Thread × Exit :=
  match vmeLock.unlockFile flockWorks with
  | none => (vmeLock, .threw)
  | some vmeLock =>
    match pthreadMutexUnlock thread vmeLock.mutex with
    | none => (vmeLock, .threw)
    | some mutex => ({ vmeLock with mutex }, .returned)

def depth : Nat :=
  match vmeLock.mutex with
  | none => 0
  | some (owner, count) => if owner = thread then count else 0

end VMELock

inductive Call
  | lock
  | unlock
deriving DecidableEq

structure Input (Thread : Type*) where
  thread : Thread
  call : Call
  flockWorks : Bool

/-- `held` are the calls of `lock` that returned less those of `unlock`; `kept` tells whether what
threw an exception has changed nothing. -/
structure System (Thread : Type*) where
  vmeLock : VMELock Thread
  held : Thread → Int
  kept : Bool

def System.start : System Thread := ⟨⟨none, false, 0⟩, fun _ => 0, true⟩

def VMELock.perform (vmeLock : VMELock Thread) (input : Input Thread) : VMELock Thread × Exit :=
  match input.call with
  | .lock => vmeLock.lock input.thread input.flockWorks
  | .unlock => vmeLock.unlock input.thread input.flockWorks

def counts : Call → Int
  | .lock => 1
  | .unlock => -1

def step (system : System Thread) (input : Input Thread) : System Thread :=
  let (vmeLock, exit) := system.vmeLock.perform input
  { vmeLock
    held :=
      if exit = .returned then
        update system.held input.thread (system.held input.thread + counts input.call)
      else system.held
    kept := system.kept && (exit != .threw || vmeLock = system.vmeLock) }

def InTurn (system : System Thread) (input : Input Thread) : Prop :=
  input.call = .unlock → 0 < system.held input.thread

/-- The file lock does not fail for a thread that has just locked the mutex. -/
def FileLocks (system : System Thread) (input : Input Thread) : Prop :=
  input.call = .lock → input.flockWorks = true ∨
    ∀ mutex, pthreadMutexLock input.thread system.vmeLock.mutex ≠ .locked mutex

structure Right (system : System Thread) : Prop where
  held : ∀ thread, (system.vmeLock.depth thread : Int) = system.held thread
  file : system.vmeLock.fileLocked = true ↔ ∃ thread, 0 < system.vmeLock.depth thread
  kept : system.kept = true

structure Sound (system : System Thread) : Prop extends Right system where
  counted : system.vmeLock.nFileLock.toNat = (system.vmeLock.mutex.elim 0 Prod.snd)
  positive : ∀ owner count, system.vmeLock.mutex = some (owner, count) → 0 < count

variable {system : System Thread} {input : Input Thread} {thread : Thread}

lemma step_same {exit} (same : system.vmeLock.perform input = (system.vmeLock, exit))
    (left : exit ≠ .returned) : step system input = system := by
  simp [step, same, left]

lemma step_returned {vmeLock} (returns : system.vmeLock.perform input = (vmeLock, .returned)) :
    step system input = ⟨vmeLock, update system.held input.thread
      (system.held input.thread + counts input.call), system.kept⟩ := by
  simp [step, returns]

lemma Sound.unlocked (sound : Sound system) (free : system.vmeLock.mutex = none) :
    system.vmeLock.nFileLock = 0 := by
  have counted := sound.counted
  rw [free] at counted
  exact UInt32.toNat_inj.1 counted

lemma Sound.owned (sound : Sound system) {count : Nat} {nFileLock}
    (others : ∀ other, other ≠ input.thread → system.vmeLock.depth other = 0)
    (moved : (count : Int) = system.vmeLock.depth input.thread + counts input.call)
    (positive : 0 < count) (counted : nFileLock.toNat = count) :
    Sound ⟨⟨some (input.thread, count), true, nFileLock⟩, update system.held input.thread
      (system.held input.thread + counts input.call), system.kept⟩ := by
  refine ⟨⟨fun thread => ?_, ?_, sound.kept⟩, counted, ?_⟩
  · dsimp only [VMELock.depth]
    by_cases same : thread = input.thread
    · rw [same, if_pos rfl, update_self, ← sound.held, moved]
    · rw [if_neg (Ne.symm same), update_of_ne same, ← sound.held, others thread same]
  · exact iff_of_true rfl ⟨input.thread, Nat.lt_of_lt_of_eq positive (if_pos rfl).symm⟩
  · rintro _ _ ⟨⟩
    exact positive

lemma Sound.freed (sound : Sound system)
    (others : ∀ other, other ≠ input.thread → system.vmeLock.depth other = 0)
    (last : (system.vmeLock.depth input.thread : Int) + counts input.call = 0) :
    Sound ⟨⟨none, false, 0⟩, update system.held input.thread
      (system.held input.thread + counts input.call), system.kept⟩ := by
  refine ⟨⟨fun thread => ?_, ?_, sound.kept⟩, rfl, fun _ _ none_ => by cases none_⟩
  · dsimp only [VMELock.depth]
    by_cases same : thread = input.thread
    · rw [same, update_self, ← sound.held, last]
      rfl
    · rw [update_of_ne same, ← sound.held, others thread same]
  · refine iff_of_false Bool.false_ne_true ?_
    rintro ⟨_, some_⟩
    exact Nat.lt_irrefl 0 some_

lemma depth_of {vmeLock : VMELock Thread} {owner count}
    (has : vmeLock.mutex = some (owner, count)) (thread) :
    vmeLock.depth thread = if owner = thread then count else 0 := by
  rw [VMELock.depth, has]

lemma lock_sound (sound : Sound system) (locks : input.call = .lock)
    (files : FileLocks system input) : Sound (step system input) := by
  have performs : system.vmeLock.perform input =
      system.vmeLock.lock input.thread input.flockWorks := by
    rw [VMELock.perform, locks]
  rw [VMELock.lock] at performs
  cases goes : pthreadMutexLock input.thread system.vmeLock.mutex with
  | waits =>
    rw [goes] at performs
    rwa [step_same performs (by decide)]
  | failed =>
    rw [goes] at performs
    rwa [step_same performs (by decide)]
  | locked mutex =>
    have works := (files locks).resolve_right fun never => never mutex goes
    simp only [goes, works, if_true] at performs
    rw [step_returned performs]
    cases has : system.vmeLock.mutex with
    | none =>
      rw [has] at goes
      cases goes
      refine sound.owned (fun other _ => ?_) ?_ Nat.one_pos ?_
      · rw [VMELock.depth, has]
      · rw [VMELock.depth, has, locks]
        rfl
      · rw [sound.unlocked has]
        rfl
    | some owned =>
      obtain ⟨owner, count⟩ := owned
      rw [has, pthreadMutexLock] at goes
      split at goes
      · next same =>
          split at goes
          · next small =>
              cases goes
              subst same
              refine sound.owned (fun other apart => ?_) ?_ (Nat.succ_pos count) ?_
              · rw [depth_of has, if_neg (Ne.symm apart)]
              · rw [depth_of has, if_pos rfl, locks]
                rfl
              · have counted := sound.counted
                rw [has] at counted
                rw [UInt32.toNat_add, counted]
                exact Nat.mod_eq_of_lt small
          · cases goes
      · cases goes

lemma unlock_sound (sound : Sound system) (unlocks : input.call = .unlock)
    (turn : InTurn system input) : Sound (step system input) := by
  have holds := turn unlocks
  rw [← sound.held] at holds
  have performs : system.vmeLock.perform input =
      system.vmeLock.unlock input.thread input.flockWorks := by
    rw [VMELock.perform, unlocks]
  cases has : system.vmeLock.mutex with
  | none =>
    rw [VMELock.depth, has] at holds
    exact absurd holds (Int.lt_irrefl 0)
  | some owned =>
    obtain ⟨owner, count⟩ := owned
    have own := depth_of has input.thread
    by_cases same : owner = input.thread
    · subst same
      rw [if_pos rfl] at own
      have others : ∀ other, other ≠ input.thread → system.vmeLock.depth other = 0 :=
        fun other apart => by rw [depth_of has, if_neg (Ne.symm apart)]
      have counted : system.vmeLock.nFileLock.toNat = count := by
        rw [sound.counted, has]
        rfl
      have positive := sound.positive _ _ has
      have file : system.vmeLock.fileLocked = true := sound.file.2 ⟨input.thread, by omega⟩
      rw [VMELock.unlock, VMELock.unlockFile] at performs
      by_cases last : count = 1
      · subst last
        have one : system.vmeLock.nFileLock = 1 := UInt32.toNat_inj.1 counted
        cases works : input.flockWorks with
        | true =>
          simp only [one, works, if_true, has, pthreadMutexUnlock] at performs
          rw [step_returned performs]
          refine sound.freed others ?_
          rw [own, unlocks]
          rfl
        | false =>
          simp only [one, works, if_true, Bool.false_eq_true, if_false] at performs
          rwa [step_same performs (by decide)]
      · have more : system.vmeLock.nFileLock ≠ 1 := fun one =>
          last (by rw [← counted, one]; rfl)
        have some_ : 0 < system.vmeLock.nFileLock := by
          rw [UInt32.lt_iff_toNat_lt, counted]
          exact positive
        simp only [more, some_, last, if_true, if_false, has, pthreadMutexUnlock, file] at performs
        rw [step_returned performs]
        refine sound.owned others ?_ (by omega) ?_
        · rw [unlocks]
          simp only [counts]
          omega
        · rw [UInt32.toNat_sub_of_le _ _ (by rw [UInt32.le_iff_toNat_le, counted]; exact positive),
            counted]
          rfl
    · rw [own, if_neg same] at holds
      exact absurd holds (by decide)

lemma step_sound (system : System Thread) (input) (sound : Sound system)
    (guard : InTurn system input ∧ FileLocks system input) : Sound (step system input) := by
  cases call : input.call with
  | lock => exact lock_sound sound call guard.2
  | unlock => exact unlock_sound sound call guard.1

lemma start_sound : Sound (System.start : System Thread) := by
  refine ⟨⟨fun _ => rfl, iff_of_false Bool.false_ne_true ?_, rfl⟩, rfl,
    fun _ _ none_ => by cases none_⟩
  rintro ⟨_, some_⟩
  exact Nat.lt_irrefl 0 some_

/-- Where no file lock fails for a thread that locks, mutex, file lock and counter agree. -/
theorem calls_keep_locks {inputs : List (Input Thread)}
    (guarded : Guarded step (fun system input => InTurn system input ∧ FileLocks system input)
      System.start inputs) : Right (runFrom step System.start inputs) :=
  (run_invariant step_sound start_sound guarded).toRight

theorem nested_right : Right (runFrom step System.start
    [⟨0, .lock, true⟩, ⟨0, .lock, true⟩, ⟨1, .lock, false⟩, ⟨0, .unlock, true⟩,
      ⟨0, .unlock, false⟩] : System Nat) := by
  have locks : ∀ system : System Nat, InTurn system ⟨0, .lock, true⟩ ∧
      FileLocks system ⟨0, .lock, true⟩ :=
    fun _ => ⟨fun never => (by cases never), fun _ => .inl rfl⟩
  refine calls_keep_locks ⟨locks _, locks _, ⟨fun never => (by cases never), fun _ => .inr ?_⟩,
    ⟨fun _ => by decide, fun never => (by cases never)⟩,
    ⟨fun _ => by decide, fun never => (by cases never)⟩, trivial⟩
  intro mutex same
  cases same

/-- The call of `lock` throws, and leaves the mutex locked. -/
theorem failed_keeps_mutex :
    let system := step (System.start : System Nat) ⟨0, .lock, false⟩
    system.vmeLock.depth 0 = 1 ∧ system.held 0 = 0 ∧ system.vmeLock.fileLocked = false ∧
      ¬ Right system :=
  ⟨rfl, rfl, rfl, fun right => Nat.one_ne_zero (Int.ofNat.inj (right.held 0))⟩

end EmuLib.Fed.VmeLock
