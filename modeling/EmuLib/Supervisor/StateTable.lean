import EmuLib.Lib.TakeGive

/-!
The table of the states of the supervised applications, and the semaphore of the threads that change
it.
-/

namespace EmuLib.Supervisor.StateTable

open GuardedRun List Function

def stateUnknown : String := "unknown"

/-- How the query of a state ends; there is a handler for exceptions of xcept and one for others. -/
inductive Reply
  | state (name : String)
  | xcept
  | other

def Reply.entry : Reply → String
  | .state name => name
  | .xcept | .other => stateUnknown

inductive Op (App : Type*)
  | take
  | give
  | set (index : Nat) (state : String)
  | stamp (time : Int)
  | add (app : App)

/-- A class may not be found; otherwise its applications are given. -/
inductive Call (App : Type*)
  | addApplication (apps : Option (List App))
  | refresh (forceRefresh : Bool) (timeNow : Int) (replies : Nat → Reply)

variable {Thread App : Type*}

def query (timeNow : Int) (index : Nat) : Reply → List (Op App)
  | .state name => [.take, .set index name, .stamp timeNow, .give]
  | .xcept => [.set index stateUnknown, .give]
  | .other => [.set index stateUnknown, .give]

def ops (size : Nat) (lastRefreshTime : Int) : Call App → List (Op App)
  | .addApplication none => [.give]
  | .addApplication (some apps) => .take :: (apps.map .add ++ [.give])
  | .refresh forceRefresh timeNow replies =>
    if timeNow < lastRefreshTime + 2 && !forceRefresh then []
    else (List.range size).flatMap fun index => query timeNow index (replies index)

/-- `inside` tells whether all gives and changes have been made by a thread that had taken the
semaphore. -/
structure System (Thread App : Type*) where
  full : Bool
  holding : Thread → Bool
  rest : Thread → List (Op App)
  table : List (App × String)
  lastRefreshTime : Int
  inside : Bool

inductive Input (Thread App : Type*)
  | start (thread : Thread) (call : Call App)
  | run (thread : Thread)

def System.start : System Thread App := ⟨true, fun _ => false, fun _ => [], [], 0, true⟩

def System.change (system : System Thread App) : Op App → System Thread App
  | .take | .give => system
  | .set index state =>
    { system with table := system.table.modify index fun entry => (entry.1, state) }
  | .stamp time => { system with lastRefreshTime := time }
  | .add app => { system with table := system.table ++ [(app, "NULL")] }

variable [DecidableEq Thread]

def step (system : System Thread App) : Input Thread App → System Thread App
  | .start thread call =>
    match system.rest thread with
    | [] => { system with
        rest := update system.rest thread
          (ops system.table.length system.lastRefreshTime call) }
    | _ :: _ => system
  | .run thread =>
    match system.rest thread with
    | [] => system
    | .take :: later =>
      if system.full then
        { system with
          full := false
          holding := update system.holding thread true
          rest := update system.rest thread later }
      else system
    | .give :: later =>
      { system with
        full := true
        holding := update system.holding thread false
        rest := update system.rest thread later
        inside := system.inside && system.holding thread }
    | op :: later =>
      { system.change op with
        rest := update system.rest thread later
        inside := system.inside && system.holding thread }

section

def Succeeds (_ : System Thread App) : Input Thread App → Prop
  | .start _ (.addApplication apps) => apps ≠ none
  | .start _ (.refresh _ _ replies) => ∀ index, ∃ name, replies index = .state name
  | .run _ => True

def Op.semaphore : Op App → Option TakeGive.Op
  | .take => some .take
  | .give => some .give
  | _ => none

def System.erase (system : System Thread App) : TakeGive.System Thread :=
  ⟨system.full, system.holding, fun thread => (system.rest thread).filterMap Op.semaphore⟩

def Inside : Bool → List (Op App) → Prop
  | _, [] => True
  | _, .take :: later => Inside true later
  | held, .give :: later => held = true ∧ Inside false later
  | held, _ :: later => held = true ∧ Inside held later

structure Sound (system : System Thread App) : Prop where
  orderly : TakeGive.Orderly system.erase
  later : ∀ thread, Inside (system.holding thread) (system.rest thread)
  inside : system.inside = true

variable {system : System Thread App} {thread : Thread} {later : List (Op App)}

lemma erase_rest (system : System Thread App) (thread later) :
    (fun other => (update system.rest thread later other).filterMap Op.semaphore) =
      update system.erase.rest thread (later.filterMap Op.semaphore) :=
  Function.comp_update (filterMap Op.semaphore) system.rest thread later

lemma queries_balanced (timeNow) {replies : Nat → Reply}
    (succeed : ∀ index, ∃ name, replies index = .state name) (indices : List Nat) :
    let made : List (Op App) := indices.flatMap fun index => query timeNow index (replies index)
    TakeGive.Balanced (made.filterMap Op.semaphore) ∧ Inside false made := by
  induction indices with
  | nil => exact ⟨rfl, trivial⟩
  | cons index indices ih =>
    obtain ⟨name, is⟩ := succeed index
    rw [flatMap_cons, is]
    exact ⟨ih.1, rfl, rfl, rfl, ih.2⟩

lemma additions_balanced (apps : List App) :
    let made : List (Op App) := apps.map .add ++ [.give]
    TakeGive.follow true (made.filterMap Op.semaphore) = some false ∧ Inside true made := by
  induction apps with
  | nil => exact ⟨rfl, rfl, trivial⟩
  | cons app apps ih => exact ⟨ih.1, rfl, ih.2⟩

omit [DecidableEq Thread] in
lemma ops_balanced {call : Call App} (succeeds : Succeeds system (.start thread call))
    (size : Nat) (lastRefreshTime : Int) :
    TakeGive.Balanced ((ops size lastRefreshTime call).filterMap Op.semaphore) ∧
      Inside false (ops size lastRefreshTime call) := by
  cases call with
  | addApplication apps =>
    cases apps with
    | none => exact absurd rfl succeeds
    | some apps => exact additions_balanced apps
  | refresh forceRefresh timeNow replies =>
    rw [ops]
    split
    · exact ⟨rfl, trivial⟩
    · exact queries_balanced timeNow succeeds (List.range size)

lemma Sound.start (sound : Sound system) {call}
    (succeeds : Succeeds system (.start thread call)) :
    Sound (step system (.start thread call)) := by
  rw [step]
  split
  · next idle =>
      obtain ⟨balanced, inside⟩ := ops_balanced succeeds system.table.length system.lastRefreshTime
      have begun := @TakeGive.start_orderly Thread (List TakeGive.Op) _ (fun made => made) _
        sound.orderly thread _ balanced
      have erased : system.erase.rest thread = [] := congrArg (filterMap Op.semaphore) idle
      rw [TakeGive.step, erased] at begun
      have outside : system.holding thread = false := by
        have follows := sound.orderly.follows thread
        rw [erased] at follows
        exact Option.some.inj follows
      refine ⟨?_, fun other => ?_, sound.inside⟩
      · rw [System.erase, erase_rest]
        exact begun
      · dsimp only
        by_cases same : other = thread
        · rw [same, update_self, outside]
          exact inside
        · rw [update_of_ne same]
          exact sound.later other
  · exact sound

lemma Inside.update (later_ : ∀ thread, Inside (system.holding thread) (system.rest thread))
    {held} (next : Inside held later) (other) :
    Inside (update system.holding thread held other)
      (update system.rest thread later other) := by
  by_cases same : other = thread
  · rw [same, update_self, update_self]
    exact next
  · rw [update_of_ne same, update_of_ne same]
    exact later_ other

lemma Sound.take (sound : Sound system) (next : system.rest thread = .take :: later)
    (full : system.full = true) : Sound { system with
      full := false
      holding := update system.holding thread true
      rest := update system.rest thread later } := by
  have inside := sound.later thread
  rw [next] at inside
  refine ⟨?_, Inside.update sound.later inside, sound.inside⟩
  rw [System.erase, erase_rest]
  exact TakeGive.take_orderly sound.orderly (congrArg (filterMap Op.semaphore) next) full

lemma Sound.give (sound : Sound system) (next : system.rest thread = .give :: later) :
    Sound { system with
      full := true
      holding := update system.holding thread false
      rest := update system.rest thread later
      inside := system.inside && system.holding thread } := by
  have inside := sound.later thread
  rw [next] at inside
  refine ⟨?_, Inside.update sound.later inside.2, Bool.and_eq_true_iff.2 ⟨sound.inside, inside.1⟩⟩
  rw [System.erase, erase_rest]
  exact TakeGive.give_orderly sound.orderly (congrArg (filterMap Op.semaphore) next)

lemma Sound.change (sound : Sound system) {op} (next : system.rest thread = op :: later)
    (other : op.semaphore = none) : Sound { system.change op with
      rest := update system.rest thread later
      inside := system.inside && system.holding thread } := by
  have inside : system.holding thread = true ∧ Inside (system.holding thread) later := by
    have inside := sound.later thread
    rw [next] at inside
    cases op with
    | take => cases other
    | give => cases other
    | set _ _ => exact inside
    | stamp _ => exact inside
    | add _ => exact inside
  have kept : (system.change op).full = system.full ∧ (system.change op).holding = system.holding := by
    cases op <;> exact ⟨rfl, rfl⟩
  have same : system.erase.rest thread = later.filterMap Op.semaphore :=
    (congrArg (filterMap Op.semaphore) next).trans (filterMap_cons_none other)
  refine ⟨?_, fun another => ?_, Bool.and_eq_true_iff.2 ⟨sound.inside, inside.1⟩⟩
  · rw [System.erase, erase_rest, kept.1, kept.2, ← same, update_eq_self]
    exact sound.orderly
  · have updated := @Inside.update _ _ _ system thread later sound.later _ inside.2 another
    rw [update_eq_self] at updated
    rw [kept.2]
    exact updated

lemma step_sound (system : System Thread App) (input) (sound : Sound system)
    (succeeds : Succeeds system input) : Sound (step system input) := by
  cases input with
  | start thread call => exact sound.start succeeds
  | run thread =>
    cases next : system.rest thread with
    | nil =>
      rw [step, next]
      exact sound
    | cons op later =>
      cases op with
      | take =>
        simp only [step, next]
        split
        · next full => exact sound.take next full
        · exact sound
      | give =>
        simp only [step, next]
        exact sound.give next
      | set _ _ =>
        simp only [step, next]
        exact sound.change next rfl
      | stamp _ =>
        simp only [step, next]
        exact sound.change next rfl
      | add _ =>
        simp only [step, next]
        exact sound.change next rfl

omit [DecidableEq Thread] in
lemma start_sound : Sound (System.start : System Thread App) :=
  ⟨TakeGive.initial_orderly, fun _ => trivial, rfl⟩

end

section

def alone (thread : Thread) (count : Nat) (system : System Thread App) : System Thread App :=
  runFrom step system (List.replicate count (.run thread))

variable {system : System Thread App} {thread : Thread} {later : List (Op App)}

lemma alone_query (timeNow index reply)
    (next : system.rest thread = query timeNow index reply ++ later) (full : system.full = true) :
    let after := alone thread (query timeNow index reply : List (Op App)).length system
    after.rest thread = later ∧ after.full = true ∧
      after.table = system.table.modify index fun entry => (entry.1, reply.entry) := by
  cases reply with
  | state name =>
    simp [alone, query, replicate, step, next, full, System.change, Reply.entry]
  | xcept =>
    simp [alone, query, replicate, step, next, System.change, Reply.entry]
  | other =>
    simp [alone, query, replicate, step, next, System.change, Reply.entry]

lemma alone_queries (timeNow) (replies : Nat → Reply) (indices : List Nat)
    (next : system.rest thread = indices.flatMap fun index => query timeNow index (replies index))
    (full : system.full = true) : ∃ count,
      (alone thread count system).rest thread = [] ∧ (alone thread count system).full = true ∧
        (alone thread count system).table = indices.foldl (fun table index =>
          table.modify index fun entry => (entry.1, (replies index).entry)) system.table := by
  induction indices generalizing system with
  | nil => exact ⟨0, next, full, rfl⟩
  | cons index indices ih =>
    obtain ⟨rest, filled, table⟩ := alone_query timeNow index (replies index) next full
    obtain ⟨count, ended, fullAgain, changed⟩ := ih rest filled
    refine ⟨(query timeNow index (replies index) : List (Op App)).length + count, ?_⟩
    rw [alone, replicate_add, runFrom_append]
    refine ⟨ended, fullAgain, changed.trans ?_⟩
    rw [table, foldl_cons]

lemma foldl_modify {Entry} (change : Nat → Entry → Entry) (table : List Entry)
    (count place) :
    ((List.range count).foldl (fun table index => table.modify index (change index)) table)[place]? =
      if place < count then table[place]?.map (change place) else table[place]? := by
  induction count with
  | zero => rfl
  | succ count ih =>
    rw [range_succ, foldl_append, foldl_cons, foldl_nil, getElem?_modify, ih]
    by_cases last : count = place
    · subst last
      simp
    · have less : place < count + 1 ↔ place < count := by omega
      simp [last, less]

/-- After a forced refresh by a thread alone every entry is what has been reported, or unknown. -/
def Refreshes (system : System Thread App) : Prop :=
  ∀ (thread : Thread) (timeNow : Int) (replies : Nat → Reply), ∃ count,
    let after := alone thread count (step system (.start thread (.refresh true timeNow replies)))
    after.rest thread = [] ∧ after.full = true ∧
      ∀ index, after.table[index]? =
        system.table[index]?.map fun entry => (entry.1, (replies index).entry)

lemma refreshes_of_idle (idle : ∀ thread, system.rest thread = []) (full : system.full = true) :
    Refreshes system := by
  intro thread timeNow replies
  obtain ⟨queued, begun⟩ :
      ∃ queued, step system (.start thread (.refresh true timeNow replies)) = queued := ⟨_, rfl⟩
  have is : queued = { system with
      rest := update system.rest thread ((List.range system.table.length).flatMap
        fun index => query timeNow index (replies index)) } := by
    rw [← begun, step, idle thread]
    simp [ops]
  have next : queued.rest thread = (List.range system.table.length).flatMap
      fun index => query timeNow index (replies index) := by
    rw [is]
    exact update_self _ _ _
  obtain ⟨count, ended, filled, table⟩ := alone_queries timeNow replies _ next (by rw [is]; exact full)
  rw [begun]
  refine ⟨count, ended, filled, fun index => ?_⟩
  rw [table, is, foldl_modify (fun index entry => (entry.1, (replies index).entry))]
  split
  · rfl
  · next beyond => rw [getElem?_eq_none (Nat.le_of_not_lt beyond), Option.map_none]

end

/-- The semaphore is given by whoever has taken it, once, and the table is changed in between; a
refresh by a thread alone brings the table up to date. -/
structure Right (system : System Thread App) : Prop where
  inside : system.inside = true
  alone : system.erase.AtMostOneHolds
  given : ∀ thread, system.rest thread = [] → system.holding thread = false
  refreshes : (∀ thread, system.rest thread = []) → Refreshes system

lemma Sound.right {system : System Thread App} (sound : Sound system) : Right system := by
  have given : ∀ thread, system.rest thread = [] → system.holding thread = false := by
    intro thread idle
    have follows := sound.orderly.follows thread
    rw [show system.erase.rest thread = [] from congrArg (filterMap Op.semaphore) idle]
      at follows
    exact Option.some.inj follows
  refine ⟨sound.inside, sound.orderly.alone, given, fun idle => refreshes_of_idle idle ?_⟩
  by_contra empty
  obtain ⟨thread, holds⟩ := sound.orderly.somebody (Bool.eq_false_iff.2 empty)
  exact absurd ((given thread (idle thread)).symm.trans holds) Bool.false_ne_true

theorem calls_keep_table {inputs : List (Input Thread App)}
    (succeed : Guarded step Succeeds System.start inputs) :
    Right (runFrom step (System.start : System Thread App) inputs) :=
  (run_invariant step_sound start_sound succeed).right

theorem added_right : Right (runFrom step (System.start : System Nat Nat)
    [.start 0 (.addApplication (some [7])), .run 0, .run 0, .run 0]) :=
  calls_keep_table ⟨fun never => (by cases never), trivial, trivial, trivial, trivial⟩

/-- One thread is inside; the query of another one fails, which changes the entry and gives the
semaphore; then a third one gets inside as well. -/
theorem failed_query_gives :
    let system := runFrom step (System.start : System Nat Nat)
      [.start 0 (.addApplication (some [7])), .run 0, .run 0, .run 0,
        .start 0 (.refresh true 0 fun _ => .state "Halted"), .run 0,
        .start 1 (.refresh true 0 fun _ => .xcept), .run 1, .run 1,
        .start 2 (.addApplication (some [])), .run 2]
    system.holding 0 = true ∧ system.holding 2 = true ∧ system.inside = false ∧ ¬ Right system := by
  refine ⟨by decide, by decide, by decide, fun right => ?_⟩
  exact absurd right.inside (by decide)

end EmuLib.Supervisor.StateTable
