import EmuLib.Lib.GuardedRun
import Mathlib.Data.List.Perm.Basic

/-!
The queue of facts that are to be sent to the expert system: facts that have been found, facts that
have been requested, and the work loop that posts them.
-/

namespace EmuLib.Base.FactFinder

open GuardedRun List

variable {Id Fact : Type*}

structure FactCollection (Id Fact : Type*) where
  requestId : Option Id
  facts : List Fact
  number : Nat

inductive Posting
  | success
  | fault
  | timeout
deriving DecidableEq

structure Attempt (Id Fact : Type*) where
  collection : FactCollection Id Fact
  waiting : List (FactCollection Id Fact)
  time : Nat
  posting : Posting
  ended : Nat

/-- The queues with the stopwatch; and what has been queued, dropped (with what was waiting behind
it), posted and requested so far. -/
structure State (Id Fact : Type*) where
  factsToSend : List (FactCollection Id Fact)
  factRequestCollections : List Id
  time : Nat
  stopwatch : Nat
  queued : List (FactCollection Id Fact)
  dropped : List (FactCollection Id Fact × List (FactCollection Id Fact))
  attempts : List (Attempt Id Fact)
  requested : List Id

def State.start (time : Nat) : State Id Fact := ⟨[], [], time, 0, [], [], [], []⟩

inductive Url
  | notYetKnown
  | malformed
  | known
deriving DecidableEq

/-- A fact that is not found has no type; `found` are the facts for the request that is handled. -/
inductive Input (Id Fact : Type*)
  | sendFacts (facts : List Fact)
  | sendFact (fact : Option Fact)
  | onFactRequest (id : Id)
  | sendFactsInWorkLoop (url : Url) (found : List Fact) (posting : Posting) (lasted : Nat)
  | wait (seconds : Nat)

namespace State

variable (maxQueueLength moratoriumAfterTimeout : Nat) (state : State Id Fact)

/-- `while ( factsToSend_.size() > maxQueueLength_ ) factsToSend_.pop_front()`. -/
def dropOldest : Nat → State Id Fact → State Id Fact
  | 0, state => state
  | tooMany + 1, state =>
    match state.factsToSend with
    | [] => state
    | first :: rest =>
      dropOldest tooMany
        { state with factsToSend := rest, dropped := state.dropped ++ [(first, rest)] }

def queue (facts : List Fact) : State Id Fact :=
  let collection := ⟨none, facts, state.queued.length⟩
  let state := { state with
    factsToSend := state.factsToSend ++ [collection], queued := state.queued ++ [collection] }
  state.dropOldest (state.factsToSend.length - maxQueueLength)

def handleRequest (found : List Fact) : State Id Fact :=
  match state.factRequestCollections with
  | [] => state
  | id :: later =>
    let state := { state with factRequestCollections := later }
    if found.isEmpty then state
    else
      let collection := ⟨some id, found, state.queued.length⟩
      { state with
        factsToSend := collection :: state.factsToSend, queued := state.queued ++ [collection] }

def maySend : Bool := state.stopwatch + moratoriumAfterTimeout < state.time

def post (posting : Posting) (lasted : Nat) : State Id Fact :=
  match state.factsToSend with
  | [] => state
  | first :: rest =>
    if state.maySend moratoriumAfterTimeout then
      { state with
        factsToSend := if posting = .success then rest else first :: rest
        time := state.time + lasted
        stopwatch := if posting = .timeout then state.time + lasted else state.stopwatch
        attempts := state.attempts ++ [⟨first, rest, state.time, posting, state.time + lasted⟩] }
    else state

def step (state : State Id Fact) : Input Id Fact → State Id Fact
  | .sendFacts facts => state.queue maxQueueLength facts
  | .sendFact none => state
  | .sendFact (some fact) => state.queue maxQueueLength [fact]
  | .onFactRequest id =>
    let requests := state.factRequestCollections ++ [id]
    { state with
      factRequestCollections := requests.drop (requests.length - maxQueueLength)
      requested := state.requested ++ [id] }
  | .sendFactsInWorkLoop url found posting lasted =>
    if url = .known then (state.handleRequest found).post moratoriumAfterTimeout posting lasted
    else state
  | .wait seconds => { state with time := state.time + seconds }

def posted : List (FactCollection Id Fact) :=
  (state.attempts.filter (·.posting = .success)).map (·.collection)

end State

variable [DecidableEq Id] {maxQueueLength moratoriumAfterTimeout : Nat} {state : State Id Fact}

structure Right (maxQueueLength moratoriumAfterTimeout : Nat) (state : State Id Fact) : Prop where
  short : state.factsToSend.length ≤ maxQueueLength
  numbered : state.queued.map (·.number) = List.range state.queued.length
  once : state.queued.Perm (state.posted ++ state.dropped.map Prod.fst ++ state.factsToSend)
  oldest : ∀ dropped ∈ state.dropped, ∀ other ∈ dropped.2, dropped.1.number < other.number
  inOrder : ((state.posted ++ state.factsToSend).filter (·.requestId.isNone)).Pairwise
    fun early late => early.number < late.number
  requestedFirst : ∀ attempt ∈ state.attempts, attempt.collection.requestId = none →
    ∀ other ∈ attempt.waiting, other.requestId = none
  answeredOnce : ∀ id, (state.queued.filter (·.requestId = some id)).length ≤
    state.requested.count id
  moratorium : state.attempts.Pairwise fun early late =>
    early.posting = .timeout → early.ended + moratoriumAfterTimeout < late.time

/-- In a full queue the first collection has been there longest when facts are queued; and an answer
to a request is posted at once when the queue is full. -/
def Orderly (maxQueueLength moratoriumAfterTimeout : Nat) (state : State Id Fact) :
    Input Id Fact → Prop
  | .sendFacts _ | .sendFact (some _) => maxQueueLength ≤ state.factsToSend.length →
    ∀ first rest, state.factsToSend = first :: rest → ∀ other ∈ rest, first.number < other.number
  | .sendFactsInWorkLoop url found posting _ => url = .known → found ≠ [] →
    state.factRequestCollections ≠ [] → maxQueueLength ≤ state.factsToSend.length →
    state.maySend moratoriumAfterTimeout = true ∧ posting = .success
  | _ => True

structure Sound (moratoriumAfterTimeout : Nat) (state : State Id Fact) : Prop where
  numbered : state.queued.map (·.number) = List.range state.queued.length
  once : state.queued.Perm (state.posted ++ state.dropped.map Prod.fst ++ state.factsToSend)
  oldest : ∀ dropped ∈ state.dropped, ∀ other ∈ dropped.2, dropped.1.number < other.number
  inOrder : ((state.posted ++ state.factsToSend).filter (·.requestId.isNone)).Pairwise
    fun early late => early.number < late.number
  requestedFirst : ∀ attempt ∈ state.attempts, attempt.collection.requestId = none →
    ∀ other ∈ attempt.waiting, other.requestId = none
  front : state.factsToSend.Pairwise fun early late =>
    early.requestId = none → late.requestId = none
  answered : ∀ id, (state.queued.filter (·.requestId = some id)).length +
    state.factRequestCollections.count id ≤ state.requested.count id
  moratorium : state.attempts.Pairwise fun early late =>
    early.posting = .timeout → early.ended + moratoriumAfterTimeout < late.time
  ended : ∀ attempt ∈ state.attempts, attempt.posting = .timeout → attempt.ended ≤ state.stopwatch
  clock : state.stopwatch ≤ state.time

lemma start_sound (time) : Sound moratoriumAfterTimeout (State.start time : State Id Fact) :=
  ⟨rfl, .nil, fun _ none_ => absurd none_ not_mem_nil, .nil,
    fun _ none_ => absurd none_ not_mem_nil, .nil, fun _ => Nat.le_refl 0, .nil,
    fun _ none_ => absurd none_ not_mem_nil, Nat.zero_le time⟩

omit [DecidableEq Id] in
lemma posted_snoc (attempts : List (Attempt Id Fact)) (attempt : Attempt Id Fact) :
    ((attempts ++ [attempt]).filter (·.posting = .success)).map (·.collection) =
      (attempts.filter (·.posting = .success)).map (·.collection) ++
        if attempt.posting = .success then [attempt.collection] else [] := by
  rw [filter_append, map_append]
  by_cases success : attempt.posting = .success
  · simp [success]
  · simp [success]

omit [DecidableEq Id] in
lemma post_length (posting : Posting) (lasted : Nat) :
    (state.post moratoriumAfterTimeout posting lasted).factsToSend.length ≤
      state.factsToSend.length ∧
    (state.maySend moratoriumAfterTimeout = true → posting = .success →
      (state.post moratoriumAfterTimeout posting lasted).factsToSend.length =
        state.factsToSend.length - 1) := by
  rw [State.post]
  split
  · next empty => simp [empty]
  · next first rest waits =>
    rw [waits]
    split
    · next may =>
      constructor
      · dsimp only
        split
        · exact Nat.le_succ _
        · exact Nat.le_refl _
      · intro _ success
        simp [success]
    · next may => exact ⟨Nat.le_of_eq (congrArg List.length waits), fun yes => absurd yes may⟩

section

variable (sound : Sound moratoriumAfterTimeout state)

include sound

lemma Sound.right (short : state.factsToSend.length ≤ maxQueueLength) :
    Right maxQueueLength moratoriumAfterTimeout state :=
  ⟨short, sound.numbered, sound.once, sound.oldest, sound.inOrder, sound.requestedFirst,
    fun id => Nat.le_of_add_right_le (sound.answered id), sound.moratorium⟩

variable {collection : FactCollection Id Fact}

lemma Sound.earlier (there : collection ∈ state.posted ++ state.factsToSend) :
    collection.number < state.queued.length := by
  have queued : collection ∈ state.queued := by
    refine sound.once.mem_iff.2 ?_
    rcases mem_append.1 there with posted | waits
    · exact mem_append_left _ (mem_append_left _ posted)
    · exact mem_append_right _ waits
  have numbered : collection.number ∈ state.queued.map (·.number) := mem_map_of_mem queued
  rw [sound.numbered] at numbered
  exact mem_range.1 numbered

lemma Sound.numbered_snoc (next : collection.number = state.queued.length) :
    (state.queued ++ [collection]).map (·.number) =
      List.range (state.queued ++ [collection]).length := by
  rw [map_append, sound.numbered, length_append, length_singleton, range_succ, ← next]
  rfl

lemma Sound.append
    (unrequested : collection.requestId = none) (next : collection.number = state.queued.length) :
    Sound moratoriumAfterTimeout { state with
      factsToSend := state.factsToSend ++ [collection]
      queued := state.queued ++ [collection] } := by
  refine { sound with
    numbered := sound.numbered_snoc next
    once := ?_, inOrder := ?_, front := ?_, answered := fun id => ?_ }
  · rw [← append_assoc]
    exact sound.once.append_right [collection]
  · rw [← append_assoc, filter_append, pairwise_append]
    refine ⟨sound.inOrder, List.Pairwise.filter _ (pairwise_singleton _ _), ?_⟩
    intro early first late last
    rw [mem_singleton.1 (mem_filter.1 last).1, next]
    exact sound.earlier (mem_filter.1 first).1
  · rw [pairwise_append]
    refine ⟨sound.front, pairwise_singleton _ _, fun _ _ late last _ => ?_⟩
    rw [mem_singleton.1 last]
    exact unrequested
  · have other : ([collection].filter (·.requestId = some id)) = [] := by
      simp [unrequested]
    rw [filter_append, other, append_nil]
    exact sound.answered id

lemma Sound.drop {first}
    {rest : List (FactCollection Id Fact)} (waits : state.factsToSend = first :: rest)
    (longest : ∀ other ∈ rest, first.number < other.number) :
    Sound moratoriumAfterTimeout { state with
      factsToSend := rest
      dropped := state.dropped ++ [(first, rest)] } := by
  have order := sound.inOrder
  have front := sound.front
  have once := sound.once
  rw [waits] at order front once
  refine { sound with
    once := ?_, oldest := ?_
    inOrder := order.sublist (((sublist_cons_self first rest).append_left _).filter _)
    front := front.of_cons }
  · have same : (state.dropped ++ [(first, rest)]).map Prod.fst ++ rest =
        state.dropped.map Prod.fst ++ first :: rest := by simp
    rw [append_assoc, same, ← append_assoc]
    exact once
  · intro dropped among
    rcases mem_append.1 among with early | last
    · exact sound.oldest dropped early
    · rw [mem_singleton.1 last]
      exact longest

lemma Sound.requests {id later}
    (pending : state.factRequestCollections = id :: later) :
    Sound moratoriumAfterTimeout { state with factRequestCollections := later } := by
  refine { sound with answered := fun other => ?_ }
  refine Nat.le_trans (Nat.add_le_add_left ?_ _) (sound.answered other)
  rw [pending]
  exact (sublist_cons_self id later).count_le other

lemma Sound.push {id later}
    (pending : state.factRequestCollections = id :: later)
    (answers : collection.requestId = some id) (next : collection.number = state.queued.length) :
    Sound moratoriumAfterTimeout { state with
      factRequestCollections := later
      factsToSend := collection :: state.factsToSend
      queued := state.queued ++ [collection] } := by
  refine { sound with
    numbered := sound.numbered_snoc next
    once := ?_, inOrder := ?_, front := ?_, answered := fun other => ?_ }
  · exact ((sound.once.append_right [collection]).trans (perm_append_singleton _ _)).trans
      perm_middle.symm
  · have unlisted : ∀ posted : List (FactCollection Id Fact),
        (posted ++ collection :: state.factsToSend).filter (·.requestId.isNone) =
          (posted ++ state.factsToSend).filter (·.requestId.isNone) := by
      simp [answers]
    have order := sound.inOrder
    rw [← unlisted] at order
    exact order
  · refine pairwise_cons.2 ⟨fun _ _ none_ => ?_, sound.front⟩
    rw [answers] at none_
    cases none_
  · have before := sound.answered other
    rw [pending] at before
    rw [filter_append, length_append]
    by_cases same : id = other
    · subst same
      simp only [count_cons_self, answers, filter_singleton, decide_true] at before ⊢
      simp only [cond_true, length_singleton]
      omega
    · rw [count_cons_of_ne same] at before
      simp [answers, same]
      omega

lemma Sound.post (posting lasted) :
    Sound moratoriumAfterTimeout (state.post moratoriumAfterTimeout posting lasted) := by
  rw [State.post]
  split
  · exact sound
  next first rest waits =>
  split
  · next may =>
    have late : state.stopwatch + moratoriumAfterTimeout < state.time := of_decide_eq_true may
    have order := sound.inOrder
    have front := sound.front
    have once := sound.once
    rw [waits] at order front once
    refine { sound with
      once := ?_, inOrder := ?_, requestedFirst := ?_, front := ?_, moratorium := ?_, ended := ?_
      clock := ?_ }
    · dsimp only [State.posted] at once ⊢
      rw [posted_snoc]
      split
      · have moved : ∀ posted dropped : List (FactCollection Id Fact),
            (posted ++ dropped ++ first :: rest).Perm (posted ++ [first] ++ dropped ++ rest) := by
          intro posted dropped
          rw [append_assoc, append_assoc, append_assoc]
          exact perm_middle.append_left posted
        exact once.trans (moved _ _)
      · rw [append_nil]
        exact once
    · dsimp only [State.posted] at order ⊢
      rw [posted_snoc]
      split
      · rw [append_assoc]
        exact order
      · rw [append_nil]
        exact order
    · intro attempt among
      rcases mem_append.1 among with early | last
      · exact sound.requestedFirst attempt early
      · rw [mem_singleton.1 last]
        exact fun none_ other behind => (pairwise_cons.1 front).1 other behind none_
    · split
      · exact front.of_cons
      · exact front
    · rw [pairwise_append]
      refine ⟨sound.moratorium, pairwise_singleton _ _, fun attempt early another last out => ?_⟩
      rw [mem_singleton.1 last]
      have ended := sound.ended attempt early out
      dsimp only
      omega
    · intro attempt among out
      rcases mem_append.1 among with early | last
      · have ended := sound.ended attempt early out
        dsimp only
        split <;> omega
      · rw [mem_singleton.1 last] at out ⊢
        exact Nat.le_of_eq (if_pos out).symm
    · dsimp only
      split <;> omega
  · exact sound

lemma Sound.queue (short : state.factsToSend.length ≤ maxQueueLength) (facts)
    (longest : maxQueueLength ≤ state.factsToSend.length →
      ∀ first rest, state.factsToSend = first :: rest → ∀ other ∈ rest,
        first.number < other.number) :
    Sound moratoriumAfterTimeout (state.queue maxQueueLength facts) ∧
      (state.queue maxQueueLength facts).factsToSend.length ≤ maxQueueLength := by
  rw [State.queue]
  obtain ⟨collection, is⟩ : ∃ collection : FactCollection Id Fact,
      collection = ⟨none, facts, state.queued.length⟩ := ⟨_, rfl⟩
  have added := sound.append (show collection.requestId = none by rw [is])
    (show collection.number = state.queued.length by rw [is])
  rw [← is]
  rw [length_append, length_singleton]
  by_cases full : maxQueueLength ≤ state.factsToSend.length
  · have one : state.factsToSend.length + 1 - maxQueueLength = 1 := by omega
    rw [one, State.dropOldest]
    split
    · next empty => exact absurd empty (append_ne_nil_of_right_ne_nil _ (cons_ne_nil _ _))
    · next first rest waits =>
      have length := congrArg List.length waits
      rw [length_append, length_singleton, length_cons] at length
      refine ⟨added.drop waits ?_, by dsimp only [State.dropOldest]; omega⟩
      cases queued : state.factsToSend with
      | nil =>
        rw [queued] at waits
        cases waits
        exact fun _ none_ => absurd none_ not_mem_nil
      | cons oldest others =>
        rw [queued] at waits
        cases waits
        intro other among
        rcases mem_append.1 among with earlier | last
        · exact longest full _ _ queued other earlier
        · rw [mem_singleton.1 last, is]
          refine sound.earlier (mem_append_right _ ?_)
          rw [queued]
          exact mem_cons_self
  · have none_ : state.factsToSend.length + 1 - maxQueueLength = 0 := by omega
    rw [none_, State.dropOldest]
    refine ⟨added, ?_⟩
    rw [length_append, length_singleton]
    omega

lemma Sound.workLoop (short : state.factsToSend.length ≤ maxQueueLength) (found posting lasted)
    (room : found ≠ [] → state.factRequestCollections ≠ [] →
      maxQueueLength ≤ state.factsToSend.length →
      state.maySend moratoriumAfterTimeout = true ∧ posting = .success) :
    let after := (state.handleRequest found).post moratoriumAfterTimeout posting lasted
    Sound moratoriumAfterTimeout after ∧ after.factsToSend.length ≤ maxQueueLength := by
  intro after
  cases pending : state.factRequestCollections with
  | nil =>
    have same : state.handleRequest found = state := by rw [State.handleRequest, pending]
    have is : after = state.post moratoriumAfterTimeout posting lasted :=
      congrArg (fun state => State.post moratoriumAfterTimeout state posting lasted) same
    rw [is]
    exact ⟨sound.post posting lasted, Nat.le_trans (post_length posting lasted).1 short⟩
  | cons id later =>
    by_cases none_ : found = []
    · have same : state.handleRequest found = { state with factRequestCollections := later } := by
        rw [State.handleRequest, pending, none_]
        rfl
      have answered := (sound.requests pending).post posting lasted
      have length := (@post_length _ _ moratoriumAfterTimeout
        { state with factRequestCollections := later } posting lasted).1
      rw [← same] at answered length
      exact ⟨answered, Nat.le_trans length (by rw [same]; exact short)⟩
    · obtain ⟨collection, is⟩ : ∃ collection : FactCollection Id Fact,
          collection = ⟨some id, found, state.queued.length⟩ := ⟨_, rfl⟩
      have same : state.handleRequest found = { state with
          factRequestCollections := later
          factsToSend := collection :: state.factsToSend
          queued := state.queued ++ [collection] } := by
        rw [State.handleRequest, pending, is]
        simp [none_]
      have answered := (sound.push pending (show collection.requestId = some id by rw [is])
        (show collection.number = state.queued.length by rw [is])).post posting lasted
      have length := @post_length _ _ moratoriumAfterTimeout (state.handleRequest found) posting
        lasted
      have long : (state.handleRequest found).factsToSend.length =
          state.factsToSend.length + 1 := by rw [same]; rfl
      have may : (state.handleRequest found).maySend moratoriumAfterTimeout =
          state.maySend moratoriumAfterTimeout := by rw [same]; rfl
      rw [← same] at answered
      refine ⟨answered, ?_⟩
      by_cases full : maxQueueLength ≤ state.factsToSend.length
      · obtain ⟨sends, success⟩ := room none_ (by rw [pending]; exact cons_ne_nil _ _) full
        have shorter := length.2 (may.trans sends) success
        rw [long] at shorter
        exact Nat.le_trans (Nat.le_of_eq shorter) short
      · exact Nat.le_trans length.1 (by omega)

end

lemma step_right (state : State Id Fact) (input)
    (right : Sound moratoriumAfterTimeout state ∧ state.factsToSend.length ≤ maxQueueLength)
    (orderly : Orderly maxQueueLength moratoriumAfterTimeout state input) :
    Sound moratoriumAfterTimeout (state.step maxQueueLength moratoriumAfterTimeout input) ∧
      (state.step maxQueueLength moratoriumAfterTimeout input).factsToSend.length ≤
        maxQueueLength := by
  obtain ⟨sound, short⟩ := right
  cases input with
  | sendFacts facts => exact sound.queue short facts orderly
  | sendFact fact =>
    cases fact with
    | none => exact ⟨sound, short⟩
    | some fact => exact sound.queue short [fact] orderly
  | onFactRequest id =>
    refine ⟨{ sound with answered := fun other => ?_ }, short⟩
    have dropped := (drop_sublist
      ((state.factRequestCollections ++ [id]).length - maxQueueLength)
      (state.factRequestCollections ++ [id])).count_le other
    have before := sound.answered other
    rw [count_append] at dropped
    dsimp only [State.step]
    rw [count_append]
    omega
  | sendFactsInWorkLoop url found posting lasted =>
    rw [State.step]
    split
    · next known => exact sound.workLoop short found posting lasted (orderly known)
    · exact ⟨sound, short⟩
  | wait seconds => exact ⟨{ sound with clock := Nat.le_add_right_of_le sound.clock }, short⟩

/-- In every run in which no answer is put into a full queue, and no requested collection is at its
front when more is queued. -/
theorem calls_keep_queue {maxQueueLength moratoriumAfterTimeout time : Nat}
    {inputs : List (Input Id Fact)}
    (orderly : Guarded (State.step maxQueueLength moratoriumAfterTimeout)
      (Orderly maxQueueLength moratoriumAfterTimeout) (State.start time) inputs) :
    Right maxQueueLength moratoriumAfterTimeout
      (runFrom (State.step maxQueueLength moratoriumAfterTimeout) (State.start time) inputs) := by
  have sound := run_invariant step_right
    ⟨@start_sound Id Fact _ moratoriumAfterTimeout time, Nat.zero_le maxQueueLength⟩ orderly
  exact sound.1.right sound.2

/-- A queue of one collection: what is found is sent, and then the answer to a request. -/
theorem answered_right : Right 1 60 (runFrom (State.step 1 60) (State.start 100 : State Nat Nat)
    [.sendFacts [1], .sendFactsInWorkLoop .known [] .success 2, .onFactRequest 7,
      .sendFactsInWorkLoop .known [2] .timeout 5]) :=
  calls_keep_queue ⟨fun full => absurd full (by decide), fun _ none_ => absurd rfl none_, trivial,
    fun _ _ _ full => absurd full (by decide), trivial⟩

/-- The answer to a request is put into a full queue, and is the one that is dropped. -/
theorem answer_overfills :
    let full := runFrom (State.step 1 60) (State.start 100 : State Nat Nat)
      [.sendFacts [1], .onFactRequest 7, .sendFactsInWorkLoop .known [2] .timeout 5]
    full.factsToSend.length = 2 ∧ ¬ Right 1 60 full ∧
      ((full.step 1 60 (.sendFacts [3])).dropped.head?.map fun dropped =>
        (dropped.1.number, dropped.2.map (·.number))) = some (1, [0, 2]) ∧
      ¬ Right 1 60 (full.step 1 60 (.sendFacts [3])) := by
  refine ⟨rfl, fun right => absurd right.short (by decide), rfl, fun right => ?_⟩
  have oldest := right.oldest (⟨some 7, [2], 1⟩, [⟨none, [1], 0⟩, ⟨none, [3], 2⟩])
    mem_cons_self ⟨none, [1], 0⟩ mem_cons_self
  exact absurd oldest (by decide)

end EmuLib.Base.FactFinder
