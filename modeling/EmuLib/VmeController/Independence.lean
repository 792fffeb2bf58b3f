import EmuLib.Lib.GuardedRun
import EmuLib.VmeController.Agreement

/-!
The controllers of one process have the static variables of `VME_controller` in common.
-/

namespace EmuLib.VmeController

open GuardedRun

section

structure Observation where
  sent : List Packet
  returned : Int
  rcv : Option (Nat → UInt8)

def Outcome.observed (outcome : Outcome) : Observation :=
  ⟨outcome.sent, outcome.returned, outcome.rcv⟩

structure Turn where
  call : Call
  arriving : Packet → List Arrival

variable {Crates : Type*} [DecidableEq Crates]

structure Process (Crates : Type*) where
  statics : Statics
  controllers : Crates → VMEController
  /-- The controller of the last call that did something. -/
  last : Option Crates
  observed : List (Crates × Observation)

namespace Process

def start (controllers : Crates → VMEController) : Process Crates :=
  ⟨.initial, controllers, none, []⟩

variable (process : Process Crates) (crate : Crates)

def state : State := ⟨process.statics, process.controllers crate⟩

def idles (call : Call) : Bool := call.refused.isSome && process.statics.istrt

def step (turn : Crates × Turn) : Process Crates :=
  let outcome := (process.state turn.1).vmeController turn.2.call turn.2.arriving
  { statics := outcome.state.statics
    controllers := fun other =>
      if other = turn.1 then outcome.state.controller else process.controllers other
    last := if process.idles turn.2.call then process.last else some turn.1
    observed := process.observed ++ [(turn.1, outcome.observed)] }

def observedBy : List Observation :=
  (process.observed.filter fun observation => observation.1 = crate).map Prod.snd

end Process

def State.Idle (state : State) : Prop :=
  state.statics.lrgReadPnt = 0 ∧ state.statics.nread = 0 ∧
    (state.statics.istrt = true → state.statics.nvme = 0 ∧ state.controller.nwbuf = 4)

instance (state : State) : Decidable state.Idle := by
  unfold State.Idle
  infer_instance

def Process.Switches (process : Process Crates) (turn : Crates × Turn) : Prop :=
  process.last = some turn.1 ∨ (process.state turn.1).Idle ∨ process.idles turn.2.call = true

instance (process : Process Crates) (turn : Crates × Turn) : Decidable (process.Switches turn) := by
  unfold Process.Switches
  infer_instance

end

namespace State

variable {state other : State}

lemma idle_initial (controller) : (State.initial controller).Idle :=
  ⟨rfl, rfl, fun istrt => absurd istrt Bool.false_ne_true⟩

lemma Idle.started (idle : state.Idle) : state.start.statics.lrgReadPnt = 0 ∧
    state.start.statics.nread = 0 ∧ state.start.statics.nvme = 0 ∧
      state.start.controller.nwbuf = 4 := by
  obtain ⟨lrgReadPnt, nread, started⟩ := idle
  refine ⟨(start_lrgReadPnt state).trans lrgReadPnt, (start_nread state).trans nread, ?_⟩
  by_cases istrt : state.statics.istrt = true
  · rw [start_of_istrt istrt]
    exact started istrt
  · unfold State.start
    rw [if_neg istrt]
    exact ⟨rfl, rfl⟩

lemma Idle.start (idle : state.Idle) : state.start.Idle := by
  obtain ⟨lrgReadPnt, nread, nvme, nwbuf⟩ := idle.started
  exact ⟨lrgReadPnt, nread, fun _ => ⟨nvme, nwbuf⟩⟩

lemma Idle.same (idle : state.Idle) (also : other.Idle)
    (receives : state.controller.Receives other.controller) : state.Same other := by
  obtain ⟨lrgReadPnt, nread, nvme, nwbuf⟩ := idle.started
  obtain ⟨lrgReadPnt', nread', nvme', nwbuf'⟩ := also.started
  have first := start_receives state
  have second := start_receives other
  constructor
  · rw [lrgReadPnt, lrgReadPnt']
  · rw [nvme, nvme']
  · rw [nread, nread']
  · rw [nwbuf, nwbuf']
  · omega
  · rw [lrgReadPnt]
    rfl
  · exact ⟨first.rbuf.trans (receives.rbuf.trans second.rbuf.symm),
      first.hwDestAddr.trans (receives.hwDestAddr.trans second.hwDestAddr.symm)⟩

def Fills (state : State) : Prop :=
  state.statics.istrt = true → state.statics.nvme = 0 → state.controller.nwbuf = 4

lemma Fills.start (fills : state.Fills) : state.start.Fills := by
  by_cases istrt : state.statics.istrt = true
  · rw [start_of_istrt istrt]
    exact fills
  · unfold State.start
    rw [if_neg istrt]
    exact fun _ _ => rfl

lemma Fills.vmeController (fills : state.Fills) (call arriving) :
    (state.vmeController call arriving).state.Fills := by
  have sent (forced : Bool) : ((state.start.fill call).send forced call.rcv arriving).state.Fills :=
    fun istrt => absurd istrt (by rw [send_istrt]; exact Bool.false_ne_true)
  simp only [State.vmeController]
  cases call.refused with
  | some value => exact fills.start
  | none =>
    split_ifs
    · exact sent false
    · exact sent true
    · exact fun _ nvme => absurd nvme (Nat.succ_ne_zero _)

end State

variable {Crates : Type*} [DecidableEq Crates]

structure Follows (crate : Crates) (process alone : Process Crates) : Prop where
  observed : process.observedBy crate = alone.observedBy crate
  receives : (process.controllers crate).Receives (alone.controllers crate)
  fills : (alone.state crate).Fills
  mine : process.last = some crate → (process.state crate).Same (alone.state crate)
  others : process.last ≠ some crate → (alone.state crate).Idle

variable {crate : Crates} {process alone : Process Crates} {turn : Crates × Turn}

lemma step_state (process : Process Crates) (turn) :
    (process.step turn).state turn.1 =
      ((process.state turn.1).vmeController turn.2.call turn.2.arriving).state := by
  simp [Process.step, Process.state]

lemma step_controllers (process : Process Crates) (different : turn.1 ≠ crate) :
    (process.step turn).controllers crate = process.controllers crate :=
  if_neg different.symm

lemma step_observedBy (process : Process Crates) (turn) :
    (process.step turn).observedBy turn.1 = process.observedBy turn.1 ++
      [((process.state turn.1).vmeController turn.2.call turn.2.arriving).observed] := by
  simp [Process.step, Process.observedBy]

lemma step_observedBy_other (process : Process Crates) (different : turn.1 ≠ crate) :
    (process.step turn).observedBy crate = process.observedBy crate := by
  simp [Process.step, Process.observedBy, different]

lemma refused_outcome (state : State) {call value} (refused : call.refused = some value)
    (arriving) : state.vmeController call arriving = ⟨state.start, [], value, call.rcv⟩ := by
  simp only [State.vmeController, refused]

lemma step_idles (idles : process.idles turn.2.call = true) :
    (process.step turn).last = process.last ∧
      ∀ crate, (process.step turn).state crate = process.state crate := by
  refine ⟨if_pos idles, ?_⟩
  obtain ⟨refused, istrt⟩ := Bool.and_eq_true_iff.1 idles
  obtain ⟨value, none_⟩ := Option.isSome_iff_exists.1 refused
  have started : (process.state turn.1).start = process.state turn.1 := State.start_of_istrt istrt
  have outcome : ((process.state turn.1).vmeController turn.2.call turn.2.arriving).state =
      process.state turn.1 := by
    rw [refused_outcome _ none_, started]
  intro crate
  change State.mk ((process.state turn.1).vmeController turn.2.call turn.2.arriving).state.statics
    (if crate = turn.1 then
      ((process.state turn.1).vmeController turn.2.call turn.2.arriving).state.controller
    else process.controllers crate) = process.state crate
  rw [outcome]
  refine congrArg (State.mk process.statics) ?_
  by_cases own : crate = turn.1
  · rw [if_pos own, own]
    rfl
  · rw [if_neg own]

lemma Follows.own_idles (follows : Follows turn.1 process alone)
    (idles : process.idles turn.2.call = true) :
    Follows turn.1 (process.step turn) (alone.step turn) := by
  obtain ⟨last, unchanged⟩ := step_idles idles
  obtain ⟨refused, istrt⟩ := Bool.and_eq_true_iff.1 idles
  obtain ⟨value, none_⟩ := Option.isSome_iff_exists.1 refused
  have outcome := refused_outcome (process.state turn.1) none_ turn.2.arriving
  have also := refused_outcome (alone.state turn.1) none_ turn.2.arriving
  have started : (alone.step turn).state turn.1 = (alone.state turn.1).start := by
    rw [step_state, also]
  constructor
  · rw [step_observedBy, step_observedBy, follows.observed, outcome, also]
    rfl
  · have kept : (process.step turn).controllers turn.1 = process.controllers turn.1 :=
      congrArg State.controller (unchanged turn.1)
    have same : (alone.step turn).controllers turn.1 = (alone.state turn.1).start.controller :=
      congrArg State.controller started
    have receives := (alone.state turn.1).start_receives
    rw [kept, same]
    exact ⟨follows.receives.rbuf.trans receives.rbuf.symm,
      follows.receives.hwDestAddr.trans receives.hwDestAddr.symm⟩
  · rw [started]
    exact follows.fills.start
  · intro mine
    rw [unchanged, started]
    exact (follows.mine (last ▸ mine)).trans (State.start_same _).symm
  · intro others
    rw [started]
    exact (follows.others (last ▸ others)).start

lemma Follows.own (follows : Follows turn.1 process alone) (switches : process.Switches turn) :
    Follows turn.1 (process.step turn) (alone.step turn) := by
  by_cases idles : process.idles turn.2.call = true
  · exact follows.own_idles idles
  have same : (process.state turn.1).Same (alone.state turn.1) := by
    by_cases last : process.last = some turn.1
    · exact follows.mine last
    · rcases switches with mine | idle | idling
      · exact absurd mine last
      · exact idle.same (follows.others last) follows.receives
      · exact absurd idling idles
  have alike := same.vmeController turn.2.call turn.2.arriving
  have mine : (process.step turn).last = some turn.1 := if_neg idles
  constructor
  · rw [step_observedBy, step_observedBy, follows.observed, Outcome.observed, Outcome.observed,
      alike.sent, alike.returned, alike.rcv]
  · have first : (process.step turn).controllers turn.1 = _ :=
      congrArg State.controller (step_state process turn)
    have second : (alone.step turn).controllers turn.1 = _ :=
      congrArg State.controller (step_state alone turn)
    rw [first, second]
    exact alike.state.receives
  · rw [step_state]
    exact follows.fills.vmeController _ _
  · intro _
    rw [step_state, step_state]
    exact alike.state
  · intro others
    exact absurd mine others

lemma idle_of_same {state other alone : State} (shared : state.statics = other.statics)
    (idle : other.Idle) (same : state.Same alone) (fills : alone.Fills) : alone.Idle := by
  obtain ⟨lrgReadPnt, nread, started⟩ := idle
  have lrg : state.statics.lrgReadPnt = alone.statics.lrgReadPnt := by
    simpa using State.Agrees.lrgReadPnt same
  have read : state.statics.nread = alone.statics.nread := by
    simpa using State.Agrees.nread same
  have nvme : state.start.statics.nvme = 0 := by
    unfold State.start
    split
    · rename_i istrt
      rw [shared] at istrt ⊢
      exact (started istrt).1
    · rfl
  refine ⟨?_, ?_, ?_⟩
  · rw [← lrg, shared, lrgReadPnt]
  · rw [← read, shared, nread]
  · intro istrt
    have count : state.start.statics.nvme = alone.start.statics.nvme := State.Agrees.nvme same
    rw [State.start_of_istrt istrt, nvme] at count
    exact ⟨count.symm, fills istrt count.symm⟩

lemma Follows.other (follows : Follows crate process alone) (different : turn.1 ≠ crate)
    (switches : process.Switches turn) : Follows crate (process.step turn) alone := by
  have observed := step_observedBy_other process different
  have controllers := step_controllers process different
  have shared : (process.state crate).statics = (process.state turn.1).statics := rfl
  by_cases idles : process.idles turn.2.call = true
  · obtain ⟨last, unchanged⟩ := step_idles idles
    constructor
    · rw [observed, follows.observed]
    · rw [controllers]
      exact follows.receives
    · exact follows.fills
    · intro mine
      rw [unchanged]
      exact follows.mine (last ▸ mine)
    · intro others
      exact follows.others (last ▸ others)
  · have last : (process.step turn).last = some turn.1 := if_neg idles
    constructor
    · rw [observed, follows.observed]
    · rw [controllers]
      exact follows.receives
    · exact follows.fills
    · intro mine
      rw [last] at mine
      exact absurd (Option.some.inj mine) different
    · intro _
      by_cases mine : process.last = some crate
      · rcases switches with also | idle | idling
        · rw [mine] at also
          exact absurd (Option.some.inj also).symm different
        · exact idle_of_same shared idle (follows.mine mine) follows.fills
        · exact absurd idling idles
      · exact follows.others mine

lemma Follows.run (turns) :
    ∀ {process alone : Process Crates}, Follows crate process alone →
      Guarded Process.step Process.Switches process turns →
      Follows crate (runFrom Process.step process turns)
        (runFrom Process.step alone (turns.filter fun turn => turn.1 = crate)) := by
  induction turns with
  | nil => intro process alone follows guarded; exact follows
  | cons turn rest ih =>
    intro process alone follows guarded
    by_cases own : turn.1 = crate
    · subst own
      rw [List.filter_cons_of_pos (by simp)]
      exact ih (follows.own guarded.1) guarded.2
    · rw [List.filter_cons_of_neg (by simpa using own)]
      exact ih (follows.other own guarded.1) guarded.2

lemma follows_start (controllers : Crates → VMEController) (crate) :
    Follows crate (.start controllers) (.start controllers) where
  observed := rfl
  receives := ⟨rfl, rfl⟩
  fills := fun istrt => absurd istrt Bool.false_ne_true
  mine := fun _ => State.Same.refl _
  others := fun _ => State.idle_initial _

/-- Where a controller is left, no command waits and no data are kept: the calls on the other
controllers make no difference. -/
theorem independence (controllers : Crates → VMEController) (turns : List (Crates × Turn))
    (switches : Guarded Process.step Process.Switches (.start controllers) turns) (crate : Crates) :
    (runFrom Process.step (.start controllers) turns).observedBy crate =
      (runFrom Process.step (.start controllers)
        (turns.filter fun turn => turn.1 = crate)).observedBy crate :=
  ((follows_start controllers crate).run turns switches).observed

def twoControllers (crate : Bool) : VMEController :=
  if crate then .zeroed [2, 0, 0, 0, 0, 1] else .zeroed [2, 0, 0, 0, 0, 2]

def writeTurn (irdwr : Irdwr) : Turn := ⟨⟨irdwr, 0x80000, 0x1234, 0, none⟩, fun _ => []⟩

theorem independence_two :
    (runFrom Process.step (.start twoControllers)
      [(true, writeTurn .bufwriteSnd), (false, writeTurn .bufwriteSnd)]).observedBy false =
    (runFrom Process.step (.start twoControllers)
      (([(true, writeTurn .bufwriteSnd), (false, writeTurn .bufwriteSnd)] :
        List (Bool × Turn)).filter fun turn => turn.1 = false)).observedBy false :=
  independence twoControllers [(true, writeTurn .bufwriteSnd), (false, writeTurn .bufwriteSnd)]
    (by decide) false

theorem command_of_other_crate :
    ((runFrom Process.step (.start twoControllers)
      [(true, writeTurn .bufwrite), (false, writeTurn .bufwriteSnd)]).observedBy false).map
        Observation.sent ≠
    ((runFrom Process.step (.start twoControllers)
      (([(true, writeTurn .bufwrite), (false, writeTurn .bufwriteSnd)] :
        List (Bool × Turn)).filter fun turn => turn.1 = false)).observedBy false).map
        Observation.sent := by
  decide

end EmuLib.VmeController
