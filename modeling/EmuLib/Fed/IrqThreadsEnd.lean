import Mathlib.Algebra.Ring.Int.Defs
import EmuLib.Fed.IrqThreads

/-!
If no cancellation takes effect in the barrier, the interrupt threads end without a mutex and leave
a reset count of zero.
-/

namespace EmuLib.Fed.IrqThreads

open GuardedRun Option Function

/-! What a thread holds, by the operations that are left to it. -/

inductive Held
  | free
  | inside (mutex : Mutex)
  | arriving
  | met
  | left
deriving DecidableEq

def Held.mutex : Held → Option Mutex
  | .free => none
  | .inside mutex => some mutex
  | .arriving | .met | .left => some .resetCount

/-- An operation outside or inside of a section, with the cancellation enabled or not. A section has
no point at which its thread can end, but the one of the barrier. -/
def after (held : Held) (enabled : Bool) : Op → Option (Held × Bool)
  | .lock mutex =>
    match held with
    | .free => some (if mutex = .resetCount then .arriving else .inside mutex, enabled)
    | _ => none
  | .unlock mutex =>
    match held with
    | .inside own => if mutex = own then some (.free, enabled) else none
    | .left => if mutex = .resetCount then some (.free, enabled) else none
    | _ => none
  | .setCancel made =>
    match held with
    | .free => some (.free, made)
    | _ => none
  | .cancelPoint =>
    match held with
    | .inside _ => if enabled then none else some (held, enabled)
    | _ => some (held, enabled)
  | .access _ | .exit =>
    match held with
    | .free => some (.free, enabled)
    | _ => none
  | .meet =>
    match held with
    | .arriving => some (.met, enabled)
    | _ => none
  | .broadcast | .wait =>
    match held with
    | .met => some (.met, enabled)
    | _ => none
  | .leave =>
    match held with
    | .met => some (.left, enabled)
    | _ => none

def follow : Held → Bool → List Op → Option (Held × Bool)
  | held, enabled, [] => some (held, enabled)
  | held, enabled, op :: later => (after held enabled op).bind fun made => follow made.1 made.2 later

def Orderly (held : Held) (enabled : Bool) (ops : List Op) : Prop :=
  ∃ last, follow held enabled ops = some (.free, last)

lemma follow_append (held enabled first second) :
    follow held enabled (first ++ second) =
      (follow held enabled first).bind fun made => follow made.1 made.2 second := by
  induction first generalizing held enabled with
  | nil => rfl
  | cons op later ih =>
    simp only [List.cons_append, follow, bind_assoc]
    cases after held enabled op with
    | none => rfl
    | some made => exact ih made.1 made.2

variable {enabled : Bool} {op : Op} {later : List Op}

lemma orderly_cons {held} (orderly : Orderly held enabled (op :: later)) :
    ∃ made, after held enabled op = some made ∧ Orderly made.1 made.2 later := by
  obtain ⟨last, follows⟩ := orderly
  obtain ⟨made, first, rest⟩ := bind_eq_some_iff.1 follows
  exact ⟨made, first, last, rest⟩

def place : Op → Option Held
  | .lock _ | .setCancel _ | .access _ | .exit => some .free
  | .meet => some .arriving
  | .broadcast | .wait | .leave => some .met
  | .unlock _ | .cancelPoint => none

lemma after_place {held it made} (placed : place op = some it)
    (goes : after held enabled op = some made) : held = it:= by
  cases op with
  | unlock mutex => cases placed
  | cancelPoint => cases placed
  | _ =>
    cases placed
    cases held with
    | _ => first | rfl | cases goes

lemma after_unlock {held mutex made} (goes : after held enabled (.unlock mutex) = some made) :
    held.mutex = some mutex ∧ made = (.free, enabled) ∧ held ≠ .met := by
  cases held with
  | inside own =>
    simp only [after] at goes
    split at goes
    · next same =>
        cases goes
        exact ⟨congrArg some same.symm, rfl, nofun⟩
    · cases goes
  | left =>
    simp only [after] at goes
    split at goes
    · next same =>
        cases goes
        exact ⟨congrArg some same.symm, rfl, nofun⟩
    · cases goes
  | _ => cases goes

/-- The operations go from outside of all sections to outside again, whatever the cancellation is
set to, and leave it as it is. -/
def Quiet (ops : List Op) : Prop := ∀ enabled, follow .free enabled ops = some (.free, enabled)

def Sets (enabled made : Bool) (ops : List Op) : Prop :=
  follow .free enabled ops = some (.free, made)

lemma Quiet.append {first second} (quiet : Quiet first) (later : Quiet second) :
    Quiet (first ++ second) := by
  intro enabled
  rw [follow_append, quiet, bind_some, later]

lemma Sets.append {middle made first second} (sets : Sets enabled middle first)
    (later : Sets middle made second) : Sets enabled made (first ++ second) := by
  unfold Sets at *
  rw [follow_append, sets, bind_some, later]

lemma Sets.orderly {made ops} (sets : Sets enabled made ops) :
    Orderly .free enabled ops := ⟨made, sets⟩

lemma Quiet.sets {ops} (quiet : Quiet ops) (enabled) : Sets enabled enabled ops := quiet enabled

lemma quiet_nil : Quiet [] := fun _ => rfl

lemma quiet_replicate (quiet : Quiet [op]) (count) : Quiet (List.replicate count op) := by
  induction count with
  | zero => exact quiet_nil
  | succ count ih => exact Quiet.append quiet ih

lemma quiet_flatten {ops} (quiet : Quiet ops) (count) :
    Quiet (List.replicate count ops).flatten := by
  induction count with
  | zero => exact quiet_nil
  | succ count ih => exact Quiet.append quiet ih

lemma quiet_logs (count) : Quiet (logs count) := quiet_replicate (fun _ => rfl) count

lemma quiet_accesses (count) : Quiet (accesses count) :=
  quiet_replicate (fun _ => rfl) count

lemma sets_if {condition} [Decidable condition] {made first second}
    (yes : Sets enabled made first) (no : Sets enabled made second) :
    Sets enabled made (if condition then first else second) := by
  split
  · exact yes
  · exact no

lemma sets_storeAndSendFacts : Sets false false storeAndSendFacts := rfl

lemma sets_section (mutex) (other : mutex ≠ .resetCount) (enabled) :
    Sets enabled enabled (section_ mutex) := by
  cases mutex with
  | resetCount => exact absurd rfl other
  | _ => rfl

lemma sets_outerLoop (isTrackFinder alarms enabled) :
    Sets enabled true (outerLoop isTrackFinder alarms) := by
  have start : Sets enabled true [.cancelPoint, .setCancel true, .cancelPoint] := rfl
  have board : Sets true true (if isTrackFinder then [] else [.access false]) := sets_if rfl rfl
  have barrier : Sets true true [.lock .resetCount, .meet, .leave, .unlock .resetCount] := rfl
  exact (((start.append (sets_section .errorCount (by decide) true)).append board).append
    ((quiet_logs alarms).sets true)).append barrier

lemma sets_handling (handling : Handling) : Sets false true handling.ops := by
  have lastErr := sets_section .lastErr (by decide) false
  have errorCount := sets_section .errorCount (by decide) false
  have logged := fun count => (quiet_logs count).sets false
  have trap : Sets false false
      (if handling.springsTrap then accesses 3 ++ logs 3 else logs 1) := sets_if rfl rfl
  have release : Sets false false handling.release.ops := by
    cases handling.release <;> rfl
  have repeated : Sets false false (if handling.repeated then storeAndSendFacts else []) :=
    sets_if rfl rfl
  have history : Sets false false (if handling.release.released then section_ .lastErr ++ logs 1 ++
      (if handling.repeated then storeAndSendFacts else []) else []) :=
    sets_if ((lastErr.append (logged 1)).append repeated) rfl
  have cancel : Sets false true [.cancelPoint, .setCancel true, .cancelPoint] := rfl
  have sleep : Sets true true
      (if handling.release.released && handling.waitsAfterFMM then [.cancelPoint] else []) :=
    sets_if rfl rfl
  have errors := (lastErr.append (logged 2)).append trap
  have counts := ((errors.append ((quiet_accesses 1).sets false)).append
    (logged handling.alarms)).append errorCount
  have decided := ((counts.append (logged 1)).append release).append sets_storeAndSendFacts
  exact ((decided.append history).append cancel).append sleep

lemma sets_decode (logged) : Sets false false (decode logged) :=
  (((quiet_accesses 2).append (quiet_logs logged)).append (quiet_accesses 1)).append
    (quiet_logs 1) |>.sets false

lemma sets_readIRQ (enabled) : Sets enabled false readIRQ := rfl

lemma sets_statusChecks (checks : StatusChecks) : Sets false false checks.ops := by
  have warning : Sets false false (if checks.warns then [.cancelPoint] else []) := sets_if rfl rfl
  have fact : Sets false false (if checks.sendsFact then storeAndSendFacts else []) :=
    sets_if rfl rfl
  have error : Sets false false
      (if checks.setsError then setDDUerr ++ [.cancelPoint] ++ storeAndSendFacts else []) :=
    sets_if rfl rfl
  have dcc : Quiet checkDcc := fun _ => rfl
  have ddus := (quiet_accesses checks.dduAccesses).sets false
  exact (((ddus.append warning).append fact).append error).append
    ((quiet_flatten dcc checks.dccs).sets false)

lemma sets_resetCheck (check : ResetCheck) : Sets false false check.ops := by
  cases check <;> rfl

lemma pass_orderly (pass : Pass) (enabled) : Orderly .free enabled pass.ops := by
  have logged := fun count => (quiet_logs count).sets false
  cases pass with
  | resetSeen => exact ⟨true, rfl⟩
  | unknownSlot => exact ((sets_readIRQ enabled).append (logged 1)).orderly
  | noNewErrors count reset =>
    exact (((sets_readIRQ enabled).append (sets_decode count)).append (logged 2)).orderly
  | newErrors count handling =>
    exact (((sets_readIRQ enabled).append (sets_decode count)).append
      (sets_handling handling)).orderly
  | allClear check checks =>
    have start : Sets enabled false
        [.setCancel true, .cancelPoint, .access true, .cancelPoint, .setCancel false] := rfl
    have begun := start.append (sets_resetCheck check)
    have cancel : Sets false true [.setCancel true, .cancelPoint] := rfl
    unfold Pass.ops
    dsimp only
    split
    · rw [List.append_nil]
      exact begun.orderly
    · cases checks with
      | none => exact (begun.append cancel).orderly
      | some checks =>
        have checked : Sets false false checks.ops := sets_statusChecks checks
        exact (begun.append (checked.append cancel)).orderly

lemma activity_orderly (activity : Activity) (enabled) : Orderly .free enabled activity.ops := by
  cases activity with
  | takeCrate => exact (sets_section .crateQueue (by decide) enabled).orderly
  | outer isTrackFinder alarms => exact (sets_outerLoop isTrackFinder alarms enabled).orderly
  | inner pass => exact pass_orderly pass enabled

/-! What holds in every run. -/

/-- A thread holds what its operations tell; one that waits comes back from inside the barrier. -/
def ThreadKept (holds : Mutex → Prop) (held : Held) (thread : Thread) : Prop :=
  match thread.stage with
  | .running =>
    (∀ mutex, holds mutex ↔ held.mutex = some mutex) ∧
      Orderly held thread.cancelEnabled thread.rest
  | .waiting | .waking =>
    (∀ mutex, ¬ holds mutex) ∧ held = .met ∧ Orderly .met thread.cancelEnabled thread.rest
  | .ended => (∀ mutex, ¬ holds mutex) ∧ held = .free
  | .unwinding => False

lemma threadKept_running {holds held thread} (here : thread.stage = .running)
    (own : ∀ mutex, holds mutex ↔ held.mutex = some mutex)
    (orderly : Orderly held thread.cancelEnabled thread.rest) : ThreadKept holds held thread := by
  unfold ThreadKept
  rw [here]
  exact ⟨own, orderly⟩

def CallerKept (nCrates : Nat) (ended : Nat → Prop) : Caller → Prop
  | .stopped => ∀ thread, ended thread
  | .started => True
  | .cancelling thread | .joining thread => thread < nCrates ∧ ∀ other, other < thread → ended other

structure Kept (nCrates : Nat) (held : Nat → Held) (system : System) : Prop where
  threads : ∀ thread,
    ThreadKept (system.holder · = some thread) (held thread) (system.thread thread)
  count : system.resetCount = 0 ∨ ∃ thread, held thread = .met
  few : ∀ thread, nCrates ≤ thread → (system.thread thread).stage = .ended
  caller : CallerKept nCrates (fun thread => (system.thread thread).stage = .ended) system.caller

lemma CallerKept.mono {nCrates ended still caller} (kept : CallerKept nCrates ended caller)
    (implied : ∀ thread, ended thread → still thread) : CallerKept nCrates still caller := by
  cases caller with
  | stopped => exact fun thread => implied thread (kept thread)
  | started => trivial
  | cancelling thread => exact ⟨kept.1, fun other below => implied other (kept.2 other below)⟩
  | joining thread => exact ⟨kept.1, fun other below => implied other (kept.2 other below)⟩

section

variable {nCrates : Nat} {held : Nat → Held} {system : System} {thread : Nat}

lemma initial_kept (nCrates) : Kept nCrates (fun _ => .free) .initial := by
  refine ⟨fun _ => ⟨fun _ same => ?_, rfl⟩, .inl rfl, fun _ _ => rfl, fun _ => rfl⟩
  cases same

variable {made : Thread} {heldNow : Held}

lemma Kept.update {system_} (kept : Kept nCrates held system)
    (threads : system_.thread = Function.update system.thread thread made)
    (others : ∀ other mutex, other ≠ thread →
      (system_.holder mutex = some other ↔ system.holder mutex = some other))
    (own : ThreadKept (system_.holder · = some thread) heldNow made)
    (count : system_.resetCount = 0 ∨ heldNow = .met ∨
      system_.resetCount = system.resetCount ∧ held thread ≠ .met)
    (ended : (system.thread thread).stage = .ended → made.stage = .ended)
    (caller : system_.caller = system.caller) :
    Kept nCrates (Function.update held thread heldNow) system_ := by
  have still : ∀ other, (system.thread other).stage = .ended →
      (system_.thread other).stage = .ended := by
    intro other finished
    rw [threads, update_apply]
    split
    · next same => exact ended (same ▸ finished)
    · exact finished
  refine ⟨fun other => ?_, ?_, fun other above => still other (kept.few other above), ?_⟩
  · by_cases same : other = thread
    · subst same
      rw [threads, update_self, update_self]
      exact own
    · rw [threads, update_of_ne same, update_of_ne same]
      simp only [others other _ same]
      exact kept.threads other
  · obtain zero | now | ⟨unchanged, different⟩ := count
    · exact .inl zero
    · exact .inr ⟨thread, by rw [update_self, now]⟩
    · rw [unchanged]
      refine kept.count.imp_right fun ⟨other, met⟩ => ⟨other, ?_⟩
      rw [update_of_ne]
      · exact met
      · rintro rfl
        exact different met
  · rw [caller]
    exact kept.caller.mono still

lemma orderly_atBarrier {count} (orderly : Orderly .met enabled later) :
    Orderly .met enabled (System.atBarrier nCrates count ++ later) := by
  obtain ⟨last, follows⟩ := orderly
  refine ⟨last, ?_⟩
  rw [follow_append]
  have stays : follow .met enabled (System.atBarrier nCrates count) = some (.met, enabled) := by
    unfold System.atBarrier
    split
    · split <;> rfl
    · rfl
  rw [stays]
  exact follows

variable (kept : Kept nCrates held system)

include kept

lemma Kept.running (here : (system.thread thread).stage = .running) :
    (∀ mutex, system.holder mutex = some thread ↔ (held thread).mutex = some mutex) ∧
      Orderly (held thread) (system.thread thread).cancelEnabled (system.thread thread).rest := by
  have own := kept.threads thread
  unfold ThreadKept at own
  rw [here] at own
  exact own

lemma Kept.head (here : (system.thread thread).stage = .running)
    (rest : (system.thread thread).rest = op :: later) :
    ∃ made, after (held thread) (system.thread thread).cancelEnabled op = some made ∧
      Orderly made.1 made.2 later := by
  have orderly := (kept.running here).2
  rw [rest] at orderly
  exact orderly_cons orderly

lemma Kept.paused
    (here : (system.thread thread).stage = .waiting ∨ (system.thread thread).stage = .waking) :
    (∀ mutex, system.holder mutex ≠ some thread) ∧ held thread = .met ∧
      Orderly .met (system.thread thread).cancelEnabled (system.thread thread).rest := by
  have own := kept.threads thread
  unfold ThreadKept at own
  obtain here | here := here
  · rw [here] at own
    exact own
  · rw [here] at own
    exact own

lemma Kept.finished (here : (system.thread thread).stage = .ended) :
    (∀ mutex, system.holder mutex ≠ some thread) ∧ held thread = .free := by
  have own := kept.threads thread
  unfold ThreadKept at own
  rw [here] at own
  exact own

lemma Kept.not_unwinding :
    (system.thread thread).stage ≠ .unwinding := by
  intro here
  have own := kept.threads thread
  unfold ThreadKept at own
  rw [here] at own
  exact own

lemma Kept.goOn_same
    (here : (system.thread thread).stage = .running) (stage : made.stage = .running)
    (orderly : Orderly (held thread) made.cancelEnabled made.rest) :
    Kept nCrates held (system.setThread thread made) := by
  have updated : Kept nCrates (Function.update held thread (held thread))
      (system.setThread thread made) := by
    refine kept.update rfl (fun _ _ _ => Iff.rfl) ?_ ?_ ?_ rfl
    · exact threadKept_running stage (kept.running here).1 orderly
    · by_cases met : held thread = .met
      · exact .inr (Or.inl met)
      · exact .inr (Or.inr ⟨rfl, met⟩)
    · rw [here]
      exact fun finished => (nomatch finished)
  rwa [update_eq_self] at updated

lemma Kept.take {mutex} (free : system.holder mutex = none)
    (before : ∀ other, system.holder other ≠ some thread) (now : heldNow.mutex = some mutex)
    (stage : made.stage = .running) (running : (system.thread thread).stage ≠ .ended)
    (orderly : Orderly heldNow made.cancelEnabled made.rest)
    (count : heldNow = .met ∨ held thread ≠ .met) :
    Kept nCrates (Function.update held thread heldNow)
      ((system.setHolder mutex (some thread)).setThread thread made) := by
  refine kept.update rfl (fun other it different => ?_) ?_ ?_ (fun finished => absurd finished running) rfl
  · simp only [System.setThread, System.setHolder, update_apply]
    split
    · next same =>
        subst same
        simp [free, Ne.symm different]
    · exact Iff.rfl
  · refine threadKept_running stage (fun it => ?_) orderly
    simp only [System.setThread, System.setHolder, update_apply, now, Option.some.injEq]
    split
    · next same => simp [same]
    · next different => simp [before it, Ne.symm different]
  · exact count.elim (fun met => .inr (Or.inl met)) fun known => .inr (Or.inr ⟨rfl, known⟩)

lemma Kept.lock (here : (system.thread thread).stage = .running)
    {mutex} (rest : (system.thread thread).rest = .lock mutex :: later)
    (free : system.holder mutex = none) :
    ∃ now, Kept nCrates now ((system.setHolder mutex (some thread)).goOn thread later) := by
  have holds := (kept.running here).1
  obtain ⟨made, goes, orderly⟩ := kept.head here rest
  have known : held thread = .free := after_place rfl goes
  rw [known] at goes holds
  cases goes
  refine ⟨_, kept.take free (fun other same => ?_) ?_ here (by rw [here]; decide) orderly
    (Or.inr (by rw [known]; decide))⟩
  · cases (holds other).1 same
  · by_cases barrier : mutex = .resetCount
    · rw [barrier]
      rfl
    · rw [if_neg barrier]
      rfl

lemma Kept.give {mutex}
    (own : system.holder mutex = some thread)
    (only : ∀ other, system.holder other = some thread → other = mutex)
    (now : ThreadKept (fun _ => False) heldNow made)
    (ended : (system.thread thread).stage = .ended → made.stage = .ended)
    (count : heldNow = .met ∨ held thread ≠ .met) :
    Kept nCrates (Function.update held thread heldNow)
      ((system.setHolder mutex none).setThread thread made) := by
  have none_ : ∀ it, ((system.setHolder mutex none).setThread thread made).holder it ≠
      some thread := by
    intro it
    simp only [System.setThread, System.setHolder, update_apply]
    split
    · exact nofun
    · next different => exact fun same => different (only it same)
  refine kept.update rfl (fun other it different => ?_) ?_ ?_ ended rfl
  · simp only [System.setThread, System.setHolder, update_apply]
    split
    · next same =>
        subst same
        simp [own, Ne.symm different]
    · exact Iff.rfl
  · simp only [none_]
    exact now
  · exact count.elim (fun met => .inr (Or.inl met)) fun known => .inr (Or.inr ⟨rfl, known⟩)

lemma Kept.unlock (here : (system.thread thread).stage = .running) {mutex}
    (rest : (system.thread thread).rest = .unlock mutex :: later) :
    ∃ now, Kept nCrates now ((system.setHolder mutex none).goOn thread later) := by
  have holds := (kept.running here).1
  obtain ⟨made, goes, orderly⟩ := kept.head here rest
  obtain ⟨own, outside, different⟩ := after_unlock goes
  rw [outside] at orderly
  refine ⟨Function.update held thread .free,
    kept.give ((holds mutex).2 own) (fun other same => ?_) ?_ id (Or.inr different)⟩
  · have both := (holds other).1 same
    rw [own] at both
    exact (Option.some.inj both).symm
  · exact threadKept_running here (fun it => ⟨False.elim, fun same => (nomatch same)⟩) orderly

lemma Kept.meet (here : (system.thread thread).stage = .running)
    (rest : (system.thread thread).rest = .meet :: later) :
    ∃ now, Kept nCrates now (system.operate nCrates thread .meet later) := by
  have holds := (kept.running here).1
  obtain ⟨made, goes, orderly⟩ := kept.head here rest
  have known : held thread = .arriving := after_place rfl goes
  rw [known] at goes holds
  cases goes
  refine ⟨Function.update held thread .met, kept.update rfl (fun _ _ _ => Iff.rfl) ?_
    (Or.inr (Or.inl rfl)) id rfl⟩
  exact threadKept_running here holds (orderly_atBarrier orderly)

lemma Kept.leave (here : (system.thread thread).stage = .running)
    (rest : (system.thread thread).rest = .leave :: later) :
    ∃ now, Kept nCrates now (system.operate nCrates thread .leave later) := by
  have holds := (kept.running here).1
  obtain ⟨made, goes, orderly⟩ := kept.head here rest
  have known : held thread = .met := after_place rfl goes
  rw [known] at goes holds
  cases goes
  refine ⟨Function.update held thread .left, kept.update rfl (fun _ _ _ => Iff.rfl) ?_
    (Or.inl rfl) id rfl⟩
  exact threadKept_running here holds orderly

lemma Kept.wait (here : (system.thread thread).stage = .running)
    (rest : (system.thread thread).rest = .wait :: later) :
    ∃ now, Kept nCrates now (system.operate nCrates thread .wait later) := by
  have holds := (kept.running here).1
  obtain ⟨made, goes, orderly⟩ := kept.head here rest
  have known : held thread = .met := after_place rfl goes
  rw [known] at goes holds
  cases goes
  refine ⟨Function.update held thread .met, kept.give ((holds .resetCount).2 rfl)
    (fun other same => ?_) ⟨fun _ => id, rfl, orderly⟩ ?_ (Or.inl rfl)⟩
  · exact (Option.some.inj ((holds other).1 same)).symm
  · rw [here]
    exact nofun

lemma Kept.broadcast : Kept nCrates held system.broadcast := by
  have stage : ∀ other, ((system.broadcast).thread other).stage = .ended ↔
      (system.thread other).stage = .ended := by
    intro other
    simp only [System.broadcast]
    split
    · next waiting => simp [waiting]
    · exact Iff.rfl
  refine ⟨fun other => ?_, kept.count, fun other above => (stage other).2 (kept.few other above),
    kept.caller.mono fun other => (stage other).2⟩
  simp only [System.broadcast]
  split
  · next waiting => exact kept.paused (Or.inl waiting)
  · exact kept.threads other

lemma Kept.exit (here : (system.thread thread).stage = .running)
    (rest : (system.thread thread).rest = .exit :: later) :
    ∃ now, Kept nCrates now (system.operate nCrates thread .exit later) := by
  have holds := (kept.running here).1
  obtain ⟨made, goes, orderly⟩ := kept.head here rest
  have known : held thread = .free := after_place rfl goes
  rw [known] at holds
  refine ⟨Function.update held thread .free, kept.update rfl (fun _ _ _ => Iff.rfl)
    ⟨fun it same => ?_, rfl⟩ (Or.inr (Or.inr ⟨rfl, ?_⟩)) (fun _ => rfl) rfl⟩
  · cases (holds it).1 same
  · rw [known]
    exact nofun

lemma Kept.operate (here : (system.thread thread).stage = .running)
    (rest : (system.thread thread).rest = op :: later) :
    ∃ now, Kept nCrates now (system.operate nCrates thread op later) := by
  obtain ⟨made, goes, orderly⟩ := kept.head here rest
  cases op with
  | lock mutex =>
    simp only [System.operate]
    split
    · next free => exact kept.lock here rest free
    · exact ⟨held, kept⟩
  | unlock mutex => exact kept.unlock here rest
  | meet => exact kept.meet here rest
  | leave => exact kept.leave here rest
  | wait => exact kept.wait here rest
  | exit => exact kept.exit here rest
  | setCancel enabled =>
    refine ⟨held, kept.goOn_same here here ?_⟩
    have known : held thread = .free := after_place rfl goes
    rw [known] at goes ⊢
    cases goes
    exact orderly
  | cancelPoint =>
    refine ⟨held, kept.goOn_same here here ?_⟩
    cases known : held thread with
    | inside own =>
      rw [known] at goes
      simp only [after] at goes
      split at goes
      · cases goes
      · cases goes
        exact orderly
    | _ =>
      rw [known] at goes
      cases goes
      exact orderly
  | access caught =>
    refine ⟨held, kept.goOn_same here here ?_⟩
    have known : held thread = .free := after_place rfl goes
    rw [known] at goes ⊢
    cases goes
    exact orderly
  | broadcast =>
    have same : Kept nCrates held (system.goOn thread later) := by
      refine kept.goOn_same here here ?_
      have known : held thread = .met := after_place rfl goes
      rw [known] at goes ⊢
      cases goes
      exact orderly
    exact ⟨held, same.broadcast⟩

lemma Kept.run :
    ∃ now, Kept nCrates now (system.run nCrates thread) := by
  unfold System.run
  split
  · next here =>
      split
      · exact ⟨held, kept⟩
      · next op later rest => exact kept.operate here rest
  · next here =>
      split
      · next free =>
          obtain ⟨holds, met, orderly⟩ := kept.paused (Or.inr here)
          have awake : (system.thread thread).stage ≠ .ended := by
            rw [here]
            exact nofun
          exact ⟨Function.update held thread .met,
            kept.take free holds rfl rfl awake orderly (Or.inl rfl)⟩
      · exact ⟨held, kept⟩
  · next here => exact absurd here kept.not_unwinding
  · exact ⟨held, kept⟩
  · exact ⟨held, kept⟩

lemma Kept.wake :
    ∃ now, Kept nCrates now (system.wake thread) := by
  unfold System.wake
  split
  · next here =>
      obtain ⟨holds, met, orderly⟩ := kept.paused (Or.inl here)
      refine ⟨Function.update held thread .met, kept.update rfl (fun _ _ _ => Iff.rfl)
        ⟨holds, rfl, orderly⟩ (Or.inr (Or.inl rfl)) (fun finished => ?_) rfl⟩
      rw [here] at finished
      cases finished
  · exact ⟨held, kept⟩

lemma Kept.ends (here : (system.thread thread).stage = .running)
    (free : held thread = .free) :
    Kept nCrates (Function.update held thread .free) (system.setStage thread .ended) := by
  refine kept.update rfl (fun _ _ _ => Iff.rfl) ⟨fun it same => ?_, rfl⟩
    (Or.inr (Or.inr ⟨rfl, ?_⟩)) (fun _ => rfl) rfl
  · have own := ((kept.running here).1 it).1 same
    rw [free] at own
    cases own
  · rw [free]
    exact nofun

lemma Kept.cancel (careful : Careful system (.cancel thread)) :
    ∃ now, Kept nCrates now (system.cancel thread) := by
  unfold System.cancel
  split
  · next active =>
      have outside := careful active.1 active.2
      split
      · next later here rest =>
          have holds := (kept.running here).1
          obtain ⟨made, goes, -⟩ := kept.head here rest
          refine ⟨_, kept.ends here ?_⟩
          -- A mutex is held here only in the barrier.
          cases known : held thread with
          | free => rfl
          | inside own =>
            rw [known, active.2] at goes
            cases goes
          | _ =>
            rw [known] at holds
            exact absurd (Or.inl ((holds .resetCount).2 rfl)) outside
      · next caught later here rest =>
          obtain ⟨made, goes, -⟩ := kept.head here rest
          exact ⟨_, kept.ends here (after_place rfl goes)⟩
      · next here => exact absurd (Or.inr here) outside
      · exact ⟨held, kept⟩
  · exact ⟨held, kept⟩

lemma Kept.throw_ :
    ∃ now, Kept nCrates now (system.throw_ thread) := by
  unfold System.throw_
  split
  · next later here rest =>
      obtain ⟨made, goes, -⟩ := kept.head here rest
      refine ⟨held, kept.goOn_same here here ?_⟩
      rw [show held thread = .free from after_place rfl goes]
      exact ⟨_, rfl⟩
  · exact ⟨held, kept.threads, kept.count, kept.few, kept.caller⟩
  · exact ⟨held, kept⟩

lemma Kept.begin_ (activity) :
    ∃ now, Kept nCrates now (system.begin_ thread activity) := by
  unfold System.begin_
  split
  · next allowed =>
      obtain ⟨here, done, -⟩ := allowed
      have orderly := (kept.running here).2
      rw [done] at orderly
      obtain ⟨last, ends⟩ := orderly
      have free : held thread = .free := (Prod.mk.inj (Option.some.inj ends)).1
      refine ⟨held, kept.goOn_same here here ?_⟩
      rw [free]
      exact activity_orderly activity _
  · exact ⟨held, kept⟩

lemma Kept.request :
    Kept nCrates held (system.setThread thread
      { system.thread thread with cancelRequested := true }) := by
  have updated : Kept nCrates (Function.update held thread (held thread)) (system.setThread thread
      { system.thread thread with cancelRequested := true }) := by
    refine kept.update rfl (fun _ _ _ => Iff.rfl) (kept.threads thread) ?_ id rfl
    by_cases met : held thread = .met
    · exact .inr (Or.inl met)
    · exact .inr (Or.inr ⟨rfl, met⟩)
  rwa [update_eq_self] at updated

lemma Kept.endThreads :
    Kept nCrates held (system.endThreads nCrates) := by
  have caller := kept.caller
  unfold System.endThreads
  split
  · split
    · exact kept
    · next some_ =>
        refine ⟨kept.threads, kept.count, kept.few, by omega, fun other below => ?_⟩
        omega
  · next thread here =>
      rw [here] at caller
      have requested : Kept nCrates held (system.setThread thread
          { system.thread thread with cancelRequested := true }) := kept.request
      refine ⟨requested.threads, requested.count, requested.few, caller.1, fun other below => ?_⟩
      have still := requested.caller
      rw [show ((system.setThread thread _).caller) = _ from here] at still
      exact still.2 other below
  · next thread here =>
      rw [here] at caller
      split
      · next finished =>
          refine ⟨kept.threads, kept.count, kept.few, ?_⟩
          have all : ∀ other, other < thread + 1 → (system.thread other).stage = .ended := by
            intro other below
            by_cases same : other = thread
            · rw [same]
              exact finished
            · exact caller.2 other (by omega)
          split
          · next more => exact ⟨more, all⟩
          · intro other
            by_cases below : other < thread + 1
            · exact all other below
            · exact kept.few other (by omega)
      · exact kept
  · exact kept

lemma Kept.startThreads :
    ∃ now, Kept nCrates now (system.startThreads nCrates) := by
  unfold System.startThreads
  split
  · next here =>
      have ended := kept.caller
      rw [here] at ended
      refine ⟨held, fun other => ?_, kept.count, fun other above => ?_, trivial⟩
      · obtain ⟨holds, free⟩ := kept.finished (ended other)
        rw [free]
        dsimp only
        split
        · refine threadKept_running rfl (fun it => ⟨fun same => absurd same (holds it), nofun⟩) ?_
          exact ⟨true, rfl⟩
        · exact ⟨holds, rfl⟩
      · dsimp only
        rw [if_neg (by omega)]
        rfl
  · exact ⟨held, kept⟩

end

/-! A mutex that is held is given back. -/

def weight (ops : List Op) : Nat := (ops.map fun op => if op = .meet then 3 else 1).sum

lemma weight_cons (op later) :
    weight (op :: later) = (if op = .meet then 3 else 1) + weight later := rfl

lemma weight_atBarrier (nCrates count later) :
    weight (System.atBarrier nCrates count ++ later) ≤ 2 + weight later := by
  unfold System.atBarrier
  split
  · split
    · exact Nat.le_of_eq (Nat.add_assoc 1 1 _).symm
    · exact Nat.le_of_eq (Nat.add_assoc 1 1 _).symm
  · exact Nat.le_add_left ..

section

variable {nCrates : Nat} {held : Nat → Held} {system : System} {thread : Nat} {mutex : Mutex}

lemma Kept.holder_runs (kept : Kept nCrates held system)
    (own : system.holder mutex = some thread) : (system.thread thread).stage = .running := by
  cases here : (system.thread thread).stage with
  | running => rfl
  | waiting => exact absurd own ((kept.paused (Or.inl here)).1 mutex)
  | waking => exact absurd own ((kept.paused (Or.inr here)).1 mutex)
  | unwinding => exact absurd here kept.not_unwinding
  | ended => exact absurd own ((kept.finished here).1 mutex)

lemma Kept.nearer (kept : Kept nCrates held system) (own : system.holder mutex = some thread) :
    (system.run nCrates thread).holder mutex = none ∨
      (system.run nCrates thread).holder mutex = some thread ∧
        (system.run nCrates thread).aborted = system.aborted ∧
        weight ((system.run nCrates thread).thread thread).rest <
          weight (system.thread thread).rest := by
  have here := kept.holder_runs own
  obtain ⟨holds, orderly⟩ := kept.running here
  have inside : (held thread).mutex = some mutex := (holds mutex).1 own
  cases rest : (system.thread thread).rest with
  | nil =>
    rw [rest] at orderly
    obtain ⟨last, ends⟩ := orderly
    have free : held thread = .free := (Prod.mk.inj (Option.some.inj ends)).1
    rw [free] at inside
    cases inside
  | cons op later =>
    rw [rest] at orderly
    obtain ⟨made, goes, -⟩ := orderly_cons orderly
    simp only [System.run, here, rest]
    cases op with
    | unlock other =>
      have same : other = mutex := Option.some.inj ((after_unlock goes).1.symm.trans inside)
      rw [same]
      exact .inl (update_self ..)
    | wait =>
      have same : mutex = .resetCount := by
        have known : held thread = .met := after_place rfl goes
        rw [known] at inside
        exact (Option.some.inj inside).symm
      simp [System.operate, System.setThread, System.setHolder, same]
    | cancelPoint =>
      refine .inr ⟨own, rfl, ?_⟩
      simp [System.operate, System.goOn, System.setThread, weight_cons]
    | leave =>
      refine .inr ⟨own, rfl, ?_⟩
      simp [System.operate, System.goOn, System.setThread, weight_cons]
    | broadcast =>
      refine .inr ⟨own, rfl, ?_⟩
      simp [System.operate, System.goOn, System.setThread, System.broadcast, here, weight_cons]
    | meet =>
      refine .inr ⟨own, rfl, ?_⟩
      have bound := weight_atBarrier nCrates (system.resetCount + 1) later
      simp only [System.operate, System.goOn, System.setThread, update_self,
        weight_cons, ↓reduceIte]
      omega
    | _ =>
      -- What is left begins or goes on outside of all sections.
      have free : held thread = .free := by
        cases known : held thread with
        | free => rfl
        | _ =>
          rw [known] at goes
          cases goes
      rw [free] at inside
      cases inside

lemma Kept.releases (kept : Kept nCrates held system) (whole : system.aborted = false)
    (own : system.holder mutex = some thread) :
    ∃ count, (runFrom (step nCrates) system (List.replicate count (.run thread))).holder mutex =
      none := by
  generalize bound : weight (system.thread thread).rest = total
  induction total using Nat.strongRecOn generalizing system held with
  | ind total ih =>
    have stepped : step nCrates system (.run thread) = system.run nCrates thread := by
      simp [step, whole]
    obtain free | ⟨still, same, less⟩ := kept.nearer own
    · exact ⟨1, by simpa [stepped] using free⟩
    · obtain ⟨now, later⟩ : ∃ now, Kept nCrates now (system.run nCrates thread) := kept.run
      obtain ⟨count, free⟩ := ih _ (bound ▸ less) later (same.trans whole) still rfl
      refine ⟨count + 1, ?_⟩
      rw [List.replicate_succ, runFrom_cons, stepped]
      exact free

end

lemma kept_step (nCrates system input) (kept : ∃ held, Kept nCrates held system)
    (careful : Careful system input) : ∃ held, Kept nCrates held (step nCrates system input) := by
  obtain ⟨held, kept⟩ := kept
  unfold step
  split
  · exact ⟨held, kept⟩
  · cases input with
    | startThreads => exact kept.startThreads
    | endThreads => exact ⟨held, kept.endThreads⟩
    | begin_ thread activity => exact kept.begin_ activity
    | run thread => exact kept.run
    | wake thread => exact kept.wake
    | cancel thread => exact kept.cancel careful
    | throw_ thread => exact kept.throw_

lemma run_kept (nCrates) {inputs} (careful : Guarded (step nCrates) Careful .initial inputs) :
    ∃ held, Kept nCrates held (run nCrates inputs) :=
  run_invariant (kept_step nCrates) ⟨_, initial_kept nCrates⟩ careful

/-- If no cancellation takes effect in the barrier, a thread that ends holds no mutex, a mutex that
is held is given back by its holder, and the threads are all stopped with every mutex free and a
reset count of zero. -/
theorem threads_end (nCrates : Nat) (inputs : List Input)
    (careful : Guarded (step nCrates) Careful .initial inputs) :
    (∀ thread mutex, ((run nCrates inputs).thread thread).stage = .ended →
        (run nCrates inputs).holder mutex ≠ some thread) ∧
      ((run nCrates inputs).aborted = false → ∀ thread mutex,
        (run nCrates inputs).holder mutex = some thread → ∃ count,
          (runFrom (step nCrates) (run nCrates inputs)
            (List.replicate count (.run thread))).holder mutex = none) ∧
      ((run nCrates inputs).caller = .stopped →
        (∀ mutex, (run nCrates inputs).holder mutex = none) ∧
          (run nCrates inputs).resetCount = 0) := by
  obtain ⟨held, kept⟩ := run_kept nCrates careful
  refine ⟨fun thread mutex finished => (kept.finished finished).1 mutex,
    fun whole thread mutex own => kept.releases whole own, fun stopped => ?_⟩
  have ended := kept.caller
  rw [stopped] at ended
  refine ⟨fun mutex => ?_, ?_⟩
  · cases own : (run nCrates inputs).holder mutex with
    | none => rfl
    | some thread => exact absurd own ((kept.finished (ended thread)).1 mutex)
  · refine kept.count.elim id fun ⟨thread, met⟩ => ?_
    rw [(kept.finished (ended thread)).2] at met
    cases met

def toBarrier (thread : Nat) : List Input :=
  [.begin_ thread .takeCrate, .run thread, .run thread, .begin_ thread (.outer true 0)] ++
    List.replicate 9 (.run thread)

/-- Two crates come to the barrier and leave it, and are stopped where they poll for interrupts. -/
def stopAfterBarrier : List Input :=
  [.startThreads] ++ toBarrier 0 ++ toBarrier 1 ++
    [.run 1, .run 1, .run 1, .run 0, .run 0, .run 0,
      .begin_ 0 (.inner .resetSeen), .run 0, .begin_ 1 (.inner .resetSeen), .run 1,
      .endThreads, .endThreads, .cancel 0, .endThreads, .endThreads, .cancel 1, .endThreads]

theorem threads_end_stopAfterBarrier :
    (run 2 stopAfterBarrier).caller = .stopped ∧
      (∀ mutex, (run 2 stopAfterBarrier).holder mutex = none) ∧
      (run 2 stopAfterBarrier).resetCount = 0 := by
  have stopped : (run 2 stopAfterBarrier).caller = .stopped := by decide +kernel
  exact ⟨stopped, (threads_end 2 stopAfterBarrier (by decide +kernel)).2.2 stopped⟩

/-- The first of two crates waits in the barrier when it is cancelled, the second has not come
there. -/
def stopInBarrier : List Input :=
  [.startThreads] ++ toBarrier 0 ++ [.endThreads, .endThreads, .cancel 0, .run 0, .endThreads,
    .endThreads, .begin_ 1 .takeCrate, .run 1, .run 1, .begin_ 1 (.outer true 0), .cancel 1,
    .endThreads]

/-- The thread that was cancelled in the wait has the mutex for ever, and the count stays. -/
theorem ended_with_mutex :
    (run 2 stopInBarrier).caller = .stopped ∧
      ((run 2 stopInBarrier).thread 0).stage = .ended ∧
      (run 2 stopInBarrier).holder .resetCount = some 0 ∧
      (run 2 stopInBarrier).resetCount = 1 := by
  decide +kernel

end EmuLib.Fed.IrqThreads
