import EmuLib.Lib.CyclicNumbers

/-!
The trigger adapter. It waits until every readout unit has voted for the first event number, and
then turns the credits that the event manager grants it into triggers.
-/

namespace EmuLib.Ta

open CyclicNumbers

/-- The event number of a trigger wraps around at `2^24`, as that of the data does. -/
def l1aNumbers : Nat := 0x1000000

def word64 : Nat := 0x10000000000000000

abbrev U32 := Fin 0x100000000

abbrev UnsignedInteger64 := Fin word64

abbrev Integer64 :=
  { value : Int // -0x8000000000000000 ≤ value ∧ value < 0x8000000000000000 }

inductive FsmState
  | halted
  | ready
  | enabled
  | suspended
  | failed
  deriving DecidableEq, Repr

/-- `configure` comes with the number of readout units that the zone knows, or with nothing
where the action throws. -/
inductive Command
  | configure (descriptors : Option UnsignedInteger64)
  | enable
  | suspend
  | resume
  | halt
  | reset

inductive Notification
  | failedToSendTrigger (eventNumber : Nat)
  | tooManyVotes (votes emuRUIs : Nat)
  deriving DecidableEq, Repr

structure Application where
  currentState : FsmState
  maxNumTriggers : Integer64
  nbCreditsHeld : Nat
  eventNumber : Nat
  nEmuRUIs : Nat
  nVotesForFirstEventNumber : Nat
  biggestFirstEventNumber : Nat
  smallestFirstEventNumber : Nat

structure Outcome where
  ta : Application
  triggers : List Nat
  notified : List Notification

def Application.constructed (maxNumTriggers : Integer64) : Application where
  currentState := .halted
  maxNumTriggers := maxNumTriggers
  nbCreditsHeld := 0
  eventNumber := 0
  nEmuRUIs := 0
  nVotesForFirstEventNumber := 0
  biggestFirstEventNumber := 0
  smallestFirstEventNumber := 0

def configureAction (descriptors : UnsignedInteger64) (ta : Application) : Application :=
  { ta with
    nEmuRUIs := descriptors
    nVotesForFirstEventNumber := 0
    biggestFirstEventNumber := 0
    smallestFirstEventNumber := l1aNumbers }

def haltAction (ta : Application) : Application :=
  { ta with eventNumber := 0, nbCreditsHeld := 0 }

def Application.moveTo (ta : Application) (state : FsmState) : Application :=
  { ta with currentState := state }

/-- `suspendAction` and `resumeAction` do nothing; a command without a transition is refused. -/
def fireEvent (command : Command) (ta : Application) : Application :=
  match command, ta.currentState with
  | .configure (some descriptors), .halted => (configureAction descriptors ta).moveTo .ready
  | .configure none, .halted => ta.moveTo .failed
  | .enable, .ready => ta.moveTo .enabled
  | .suspend, .enabled => ta.moveTo .suspended
  | .resume, .suspended => ta.moveTo .enabled
  | .halt, .ready => (haltAction ta).moveTo .halted
  | .halt, .enabled => (haltAction ta).moveTo .halted
  | .halt, .suspended => (haltAction ta).moveTo .halted
  | .reset, _ => ta.moveTo .halted
  | _, _ => ta

def Application.mayTrigger (ta : Application) : Bool :=
  decide (ta.maxNumTriggers.val < 0) ||
    decide (ta.eventNumber <
      (ta.biggestFirstEventNumber + ta.maxNumTriggers.val.toNat) % word64)

/-- `accepts` is how many more trigger frames the pool and the network take before one of
them throws. -/
def sendNTriggers : Nat → Nat → Application → Outcome
  | _, 0, ta => ⟨ta, [], []⟩
  | accepts, n + 1, ta =>
    if ta.mayTrigger then
      if accepts = 0 then ⟨ta, [], [.failedToSendTrigger ta.eventNumber]⟩
      else
        let rest := sendNTriggers (accepts - 1) n
          { ta with eventNumber := (ta.eventNumber + 1) % word64 }
        { rest with triggers := ta.eventNumber % l1aNumbers :: rest.triggers }
    else ⟨ta, [], []⟩

def Application.waitsForVotes (ta : Application) : Bool :=
  decide (ta.nVotesForFirstEventNumber < ta.nEmuRUIs)

def taCreditMsg (accepts : Nat) (nbCredits : U32) (ta : Application) : Outcome :=
  match ta.currentState with
  | .halted => ⟨ta, [], []⟩
  | .failed => ⟨ta, [], []⟩
  | .enabled => sendNTriggers accepts nbCredits ta
  | .ready => ⟨{ ta with nbCreditsHeld := (ta.nbCreditsHeld + nbCredits) % word64 }, [], []⟩
  | .suspended => ⟨{ ta with nbCreditsHeld := (ta.nbCreditsHeld + nbCredits) % word64 }, [], []⟩

def firstEventNumberMsg (firstEventNumber : Fin l1aNumbers) (ta : Application) : Outcome :=
  match ta.currentState with
  | .enabled =>
    let votes := (ta.nVotesForFirstEventNumber + 1) % word64
    if votes ≤ ta.nEmuRUIs then
      let biggest :=
        if firstEventNumber.val > ta.biggestFirstEventNumber then firstEventNumber.val
        else ta.biggestFirstEventNumber
      let smallest :=
        if firstEventNumber.val < ta.smallestFirstEventNumber then firstEventNumber.val
        else ta.smallestFirstEventNumber
      ⟨{ ta with
          nVotesForFirstEventNumber := votes
          biggestFirstEventNumber := biggest
          smallestFirstEventNumber := smallest
          eventNumber := biggest }, [], []⟩
    else
      ⟨{ ta with nVotesForFirstEventNumber := votes }, [], [.tooManyVotes votes ta.nEmuRUIs]⟩
  | .halted => ⟨ta, [], []⟩
  | .failed => ⟨ta, [], []⟩
  | .ready => ⟨ta, [], []⟩
  | .suspended => ⟨ta, [], []⟩

def Application.triggersDue (ta : Application) (credits : Nat) : Nat :=
  if ta.maxNumTriggers.val < 0 then credits
  else min credits
    ((ta.biggestFirstEventNumber + ta.maxNumTriggers.val.toNat) % word64 - ta.eventNumber)

def Application.counting (ta : Application) (eventNumber : Nat) : Application :=
  { ta with eventNumber := eventNumber }

def Application.Active (ta : Application) : Prop :=
  ta.currentState = .enabled ∨ ta.currentState = .suspended

section

variable {ta : Application} {accepts n : Nat}

@[simp] lemma triggersDue_zero : ta.triggersDue 0 = 0 := by
  simp [Application.triggersDue]

lemma triggersDue_stopped (stopped : ta.mayTrigger = false) : ta.triggersDue n = 0 := by
  unfold Application.mayTrigger at stopped
  unfold Application.triggersDue
  simp only [Bool.or_eq_false_iff, decide_eq_false_iff_not] at stopped
  rw [if_neg stopped.1]
  omega

lemma triggersDue_succ (goesOn : ta.mayTrigger = true) :
    ta.triggersDue (n + 1) =
      (ta.counting ((ta.eventNumber + 1) % word64)).triggersDue n + 1 := by
  unfold Application.mayTrigger at goesOn
  unfold Application.triggersDue Application.counting
  by_cases unlimited : ta.maxNumTriggers.val < 0
  · simp [unlimited]
  · simp only [unlimited, decide_false, Bool.false_or, decide_eq_true_eq, if_false] at goesOn ⊢
    have bound : (ta.biggestFirstEventNumber + ta.maxNumTriggers.val.toNat) % word64 < word64 :=
      Nat.mod_lt _ (by decide)
    have unwrapped : (ta.eventNumber + 1) % word64 = ta.eventNumber + 1 :=
      Nat.mod_eq_of_lt (by omega)
    omega

lemma l1aNumbers_dvd : l1aNumbers ∣ word64 := by decide

lemma sendNTriggers_posts (bound : ta.eventNumber < word64) :
    (sendNTriggers accepts n ta).triggers =
        counted l1aNumbers ta.eventNumber (min (ta.triggersDue n) accepts) ∧
      (sendNTriggers accepts n ta).ta =
        ta.counting ((ta.eventNumber + min (ta.triggersDue n) accepts) % word64) := by
  have unchanged : ta = ta.counting ((ta.eventNumber + 0) % word64) := by
    simp [Application.counting, Nat.mod_eq_of_lt bound]
  induction n generalizing ta accepts with
  | zero => simpa [sendNTriggers] using unchanged
  | succ n ih =>
    rw [sendNTriggers]
    cases goesOn : ta.mayTrigger with
    | false =>
      rw [triggersDue_stopped goesOn]
      exact ⟨rfl, unchanged⟩
    | true =>
      cases accepts with
      | zero =>
        rw [Nat.min_zero]
        exact ⟨rfl, unchanged⟩
      | succ accepts =>
        have wrapped : (ta.eventNumber + 1) % word64 < word64 := Nat.mod_lt _ (by decide)
        obtain ⟨triggers, after⟩ :=
          @ih (ta.counting ((ta.eventNumber + 1) % word64)) accepts wrapped
            (by simp [Application.counting])
        rw [triggersDue_succ goesOn, Nat.succ_min_succ, counted_succ]
        constructor
        · rw [← counted_wrapped l1aNumbers_dvd]
          exact congrArg (ta.eventNumber % l1aNumbers :: ·) triggers
        · refine after.trans ?_
          simp only [Application.counting, Nat.mod_add_mod]
          rw [Nat.add_assoc, Nat.add_comm 1]

lemma taCreditMsg_suspended {nbCredits} (suspended : ta.currentState = .suspended) :
    (taCreditMsg accepts nbCredits ta).triggers = [] ∧
      (taCreditMsg accepts nbCredits ta).ta =
        { ta with nbCreditsHeld := (ta.nbCreditsHeld + nbCredits) % word64 } := by
  simp only [taCreditMsg, suspended, and_self]

lemma taCreditMsg_active {nbCredits : U32} (active : ta.Active) (bound : ta.eventNumber < word64)
    (unheld : ta.currentState = .suspended → ta.triggersDue nbCredits = 0)
    (posted : ta.triggersDue nbCredits ≤ accepts) :
    (taCreditMsg accepts nbCredits ta).triggers =
        counted l1aNumbers ta.eventNumber (ta.triggersDue nbCredits) ∧
      ∃ held, (taCreditMsg accepts nbCredits ta).ta = { ta with
        eventNumber := (ta.eventNumber + ta.triggersDue nbCredits) % word64
        nbCreditsHeld := held } := by
  rcases active with enabled | suspended
  · have sending : taCreditMsg accepts nbCredits ta = sendNTriggers accepts nbCredits ta := by
      simp only [taCreditMsg, enabled]
    obtain ⟨triggers, after⟩ := @sendNTriggers_posts ta accepts nbCredits bound
    rw [Nat.min_eq_left posted] at triggers after
    rw [sending]
    exact ⟨triggers, ta.nbCreditsHeld, after⟩
  · obtain ⟨triggers, after⟩ := @taCreditMsg_suspended ta accepts nbCredits suspended
    rw [unheld suspended, Nat.add_zero, Nat.mod_eq_of_lt bound]
    exact ⟨triggers, _, after⟩

end

section

variable {ta : Application} {vote : Fin l1aNumbers}

lemma firstEventNumberMsg_counted (enabled : ta.currentState = .enabled)
    (early : ta.nVotesForFirstEventNumber < ta.nEmuRUIs) (word : ta.nEmuRUIs < word64) :
    (firstEventNumberMsg vote ta).ta = { ta with
      nVotesForFirstEventNumber := ta.nVotesForFirstEventNumber + 1
      biggestFirstEventNumber := max ta.biggestFirstEventNumber vote
      smallestFirstEventNumber := min ta.smallestFirstEventNumber vote
      eventNumber := max ta.biggestFirstEventNumber vote } := by
  have unwrapped : (ta.nVotesForFirstEventNumber + 1) % word64 =
      ta.nVotesForFirstEventNumber + 1 := Nat.mod_eq_of_lt (by omega)
  have biggest : (if vote.val > ta.biggestFirstEventNumber then vote.val
      else ta.biggestFirstEventNumber) = max ta.biggestFirstEventNumber vote := by
    split <;> omega
  have smallest : (if vote.val < ta.smallestFirstEventNumber then vote.val
      else ta.smallestFirstEventNumber) = min ta.smallestFirstEventNumber vote := by
    split <;> omega
  simp only [firstEventNumberMsg, enabled, unwrapped, biggest, smallest]
  rw [if_pos (Nat.succ_le_of_lt early)]

lemma firstEventNumberMsg_beyond (enabled : ta.currentState = .enabled)
    (complete : ta.nEmuRUIs ≤ ta.nVotesForFirstEventNumber)
    (word : ta.nVotesForFirstEventNumber + 1 < word64) :
    (firstEventNumberMsg vote ta).ta =
      { ta with nVotesForFirstEventNumber := ta.nVotesForFirstEventNumber + 1 } := by
  simp only [firstEventNumberMsg, enabled, Nat.mod_eq_of_lt word]
  rw [if_neg (by omega)]

end

variable {ta : Application}

lemma moveTo_currentState : ta.moveTo ta.currentState = ta := rfl

lemma fireEvent_active {command} (active : ta.Active) (goesOn : command ≠ .halt)
    (kept : command ≠ .reset) :
    ∃ state, (ta.moveTo state).Active ∧ fireEvent command ta = ta.moveTo state := by
  have stays : fireEvent command ta = ta →
      ∃ state, (ta.moveTo state).Active ∧ fireEvent command ta = ta.moveTo state :=
    fun same => ⟨ta.currentState, active, same.trans moveTo_currentState.symm⟩
  cases command with
  | halt => exact absurd rfl goesOn
  | reset => exact absurd rfl kept
  | configure descriptors =>
    apply stays
    cases descriptors <;> rcases active with state | state <;> simp [fireEvent, state]
  | enable =>
    apply stays
    rcases active with state | state <;> simp [fireEvent, state]
  | suspend =>
    rcases active with state | state
    · exact ⟨.suspended, .inr rfl, by simp [fireEvent, state]⟩
    · apply stays
      simp [fireEvent, state]
  | resume =>
    rcases active with state | state
    · apply stays
      simp [fireEvent, state]
    · exact ⟨.enabled, .inl rfl, by simp [fireEvent, state]⟩

end EmuLib.Ta
