import EmuLib.Lib.GuardedRun
import EmuLib.Rui.Passes

/-!
The hand-over of finished super-fragments to the readout unit: while blocks are pending
there has to be one to send.
-/

namespace EmuLib.Rui

open GuardedRun

inductive FsmState where
  | halted
  | ready
  | enabled
  | failed
  deriving DecidableEq

structure Machine where
  fsm : FsmState
  config : Config
  isSTEPRun : Bool
  rui : Application

/-- The commands and the passes of the work loop.  Of a pass in a STEP run it is only said
that it builds no super-fragments; whatever else it leaves is `after`. -/
inductive Input where
  | configure (config : Config) (isSTEPRun : Bool)
  | enable (maxEvents : Int)
  | halt
  | fail
  | reset
  | work (pass : PassInput)
  | workInSTEPRun (posted : Bool) (after : Application)

def Machine.initial (config : Config) : Machine :=
  ⟨.halted, config, false, Application.constructed⟩

def passInSTEPRun (rui : Application) (posted : Bool) (after : Application) : Application :=
  if rui.blocksArePendingTransmission then (sendNextPendingBlock posted rui).getD rui
  else { after with
    superFragBlocks := rui.superFragBlocks
    blocksArePendingTransmission := rui.blocksArePendingTransmission }

def Machine.step (machine : Machine) : Input → Machine
  | .configure config isSTEPRun =>
    match machine.fsm with
    | .halted => ⟨.ready, config, isSTEPRun, configureAction machine.rui⟩
    | _ => machine
  | .enable maxEvents =>
    match machine.fsm with
    | .ready => { machine with fsm := .enabled, config.maxEvents := maxEvents }
    | _ => machine
  | .halt =>
    match machine.fsm with
    | .ready | .enabled => { machine with fsm := .halted, rui := haltAction machine.rui }
    | _ => machine
  | .fail => { machine with fsm := .failed }
  -- the state machine is reset without the action that Halt takes
  | .reset => { machine with fsm := .halted }
  | .work pass =>
    if machine.fsm = .enabled ∧ machine.isSTEPRun = false then
      { machine with rui := processAndCommunicate machine.config machine.rui pass }
    else machine
  | .workInSTEPRun posted after =>
    if machine.fsm = .enabled ∧ machine.isSTEPRun = true then
      { machine with rui := passInSTEPRun machine.rui posted after }
    else machine

def Application.Safe (rui : Application) : Prop :=
  rui.blocksArePendingTransmission = true → rui.superFragBlocks ≠ []

def Machine.Counted (machine : Machine) : Prop :=
  machine.isSTEPRun = false → Rui.Counted machine.rui

/-- The pass reads the end of an event of which nothing is in the queue, and puts nothing
there because the pool is too full. -/
def Strands (config : Config) (rui : Application) (pass : PassInput) : Prop :=
  ∃ block, TakesBlock config rui pass block ∧
    hasTrailer config.inputDataFormat block = true ∧
    config.passDataOnToRUBuilder = true ∧
    pass.pool.isHighThresholdExceeded = true ∧
    rui.superFragBlocks = [] ∧
    insertedBefore config pass.reading pass.pool block rui = []

def Machine.Strands (machine : Machine) : Input → Prop
  | .work pass => machine.fsm = .enabled ∧ machine.isSTEPRun = false ∧
      Rui.Strands machine.config machine.rui pass
  | _ => False

section

variable {config : Config} {rui : Application}

lemma safe_send (posted) (safe : rui.Safe) :
    ((sendNextPendingBlock posted rui).getD rui).Safe := by
  unfold sendNextPendingBlock
  split
  · exact safe
  · cases posted with
    | false => exact safe
    | true =>
      intro pending empty
      simp only [if_true, Option.getD_some] at pending empty
      simp [empty] at pending

lemma appendedBlocks_eq_nil (pool data eventNumber)
    (passedOn : config.passDataOnToRUBuilder = true) :
    appendedBlocks config pool data eventNumber = [] ↔ pool.isHighThresholdExceeded = true := by
  have room : Accepts config pool ↔ pool.isHighThresholdExceeded = false := by
    simp [Accepts, passedOn]
  unfold appendedBlocks
  by_cases accepts : Accepts config pool
  · simp [accepts, room.mp accepts]
  · simpa [accepts] using fun exceeded => accepts (room.mpr exceeded)

lemma safe_take {pass block} (counted : Rui.Counted rui)
    (takes : TakesBlock config rui pass block) :
    (takeBlock config pass.reading pass.pool block (begun rui pass)).rui.Safe ↔
      ¬ Strands config rui pass := by
  have same := (begun_same pass counted).trans (flaggedBy_same config block)
  have notPending := same.pending.trans takes.notPending
  by_cases framed : Accepts config pass.pool → pass.pool.dataFrame = true
  · have taken := taken_contents config pass counted block framed
    rw [takeBlock_rui _ _ _ _ _ framed] at taken ⊢
    have pending : (afterAppending config (hasTrailer config.inputDataFormat block)
        (appendedTo config pass.pool block (startedBy config pass.reading pass.pool block
          (flaggedBy config block (begun rui pass))))).blocksArePendingTransmission =
        (hasTrailer config.inputDataFormat block && config.passDataOnToRUBuilder) := by
      simp only [appendedTo, startedBy_pending, notPending]
      cases hasTrailer config.inputDataFormat block <;> rfl
    rw [Application.Safe, pending, Bool.and_eq_true, ne_eq, ← contents_eq_nil, taken]
    simp only [List.append_eq_nil_iff, contents_eq_nil, List.map_eq_nil_iff]
    constructor
    · rintro safe ⟨other, takesOther, trailer, passedOn, exceeded, empty, noneInserted⟩
      cases takes.unique config pass takesOther
      exact safe ⟨trailer, passedOn⟩ ⟨⟨empty, noneInserted⟩,
        (appendedBlocks_eq_nil _ _ _ passedOn).mpr exceeded⟩
    · rintro kept ⟨trailer, passedOn⟩ ⟨⟨empty, noneInserted⟩, noneAppended⟩
      exact kept ⟨block, takes, trailer, passedOn,
        (appendedBlocks_eq_nil _ _ _ passedOn).mp noneAppended, empty, noneInserted⟩
  · simp only [not_forall, Bool.not_eq_true] at framed
    obtain ⟨accepts, unframed⟩ := framed
    rw [takeBlock_threw _ _ _ _ _ accepts unframed]
    constructor
    · rintro - ⟨_, _, _, _, exceeded, _, _⟩
      simp [Accepts, exceeded] at accepts
    · intro _ pending
      rw [startedBy_pending, notPending] at pending
      exact absurd pending Bool.false_ne_true

lemma safe_process (counted : Rui.Counted rui) (safe : rui.Safe) (pass) :
    (processAndCommunicate config rui pass).Safe ↔ ¬ Strands config rui pass := by
  rcases process_cases config pass counted with ⟨pending, sends⟩ | ⟨block, takes, taken⟩ |
    ⟨notPending, idle, same⟩
  · rw [sends]
    constructor
    · rintro - ⟨block, takes, _⟩
      rw [takes.notPending] at pending
      exact absurd pending Bool.false_ne_true
    · intro _
      exact safe_send pass.posted safe
  · rw [taken]
    exact safe_take counted takes
  · constructor
    · rintro - ⟨block, takes, _⟩
      exact idle block takes
    · intro _ pending
      rw [same.pending, notPending] at pending
      exact absurd pending Bool.false_ne_true

variable {machine : Machine}

lemma counted_step (counted : machine.Counted) (input) : (machine.step input).Counted := by
  cases input with
  | configure config isSTEPRun =>
    simp only [Machine.step]
    split
    · intro _ inside
      exact absurd inside Bool.false_ne_true
    · exact counted
  | enable maxEvents =>
    simp only [Machine.step]
    split <;> exact counted
  | halt =>
    simp only [Machine.step]
    split <;> exact counted
  | fail => exact counted
  | reset => exact counted
  | work pass =>
    simp only [Machine.step]
    split
    · intro normal
      exact counted_process _ pass (counted normal)
    · exact counted
  | workInSTEPRun posted after =>
    simp only [Machine.step]
    split
    · rename_i enabled
      intro normal
      simp [enabled.2] at normal
    · exact counted

lemma safe_step (counted : machine.Counted) (safe : machine.rui.Safe)
    (input) : (machine.step input).rui.Safe ↔ ¬ machine.Strands input := by
  cases input with
  | work pass =>
    simp only [Machine.step, Machine.Strands]
    by_cases enabled : machine.fsm = .enabled ∧ machine.isSTEPRun = false
    · simp only [enabled, true_and]
      exact safe_process (counted enabled.2) safe pass
    · rw [if_neg enabled]
      exact ⟨fun _ strands => enabled ⟨strands.1, strands.2.1⟩, fun _ => safe⟩
  | workInSTEPRun posted after =>
    refine ⟨fun _ => id, fun _ => ?_⟩
    simp only [Machine.step]
    split
    · unfold passInSTEPRun
      split
      · exact safe_send posted safe
      · exact safe
    · exact safe
  | configure config isSTEPRun =>
    refine ⟨fun _ => id, fun _ => ?_⟩
    simp only [Machine.step]
    split <;> exact safe
  | enable maxEvents =>
    refine ⟨fun _ => id, fun _ => ?_⟩
    simp only [Machine.step]
    split <;> exact safe
  | halt =>
    refine ⟨fun _ => id, fun _ => ?_⟩
    simp only [Machine.step]
    split
    · exact fun pending => absurd pending Bool.false_ne_true
    · exact fun pending => absurd pending Bool.false_ne_true
    · exact safe
  | fail => exact ⟨fun _ => id, fun _ => safe⟩
  | reset => exact ⟨fun _ => id, fun _ => safe⟩

lemma safe_run (counted : machine.Counted) (safe : machine.rui.Safe) (inputs) :
    (∀ before, before <+: inputs → (runFrom Machine.step machine before).rui.Safe) ↔
      Guarded Machine.step (fun current input => ¬ current.Strands input) machine inputs := by
  induction inputs generalizing machine with
  | nil =>
    constructor
    · intro _
      trivial
    · intro _ before isPrefix
      rw [List.prefix_nil.mp isPrefix]
      exact safe
  | cons input rest ih =>
    rw [guarded_cons, ← safe_step counted safe input]
    constructor
    · intro always
      have next := always [input] ⟨rest, rfl⟩
      refine ⟨next, (ih (counted_step counted input) next).mp fun before isPrefix => ?_⟩
      exact always (input :: before) ((List.prefix_cons_inj input).mpr isPrefix)
    · rintro ⟨next, guarded⟩ before isPrefix
      cases before with
      | nil => exact safe
      | cons first later =>
        obtain ⟨rfl, laterPrefix⟩ := List.cons_prefix_cons.mp isPrefix
        exact (ih (counted_step counted first) next).mpr guarded later laterPrefix

/-- In a run there is always a block to send while blocks are pending, exactly if no pass of
the run reads the end of an event of which nothing is or gets into the queue. -/
theorem pending_nonempty_iff (config : Config) (inputs : List Input) :
    (∀ before, before <+: inputs →
        (runFrom Machine.step (Machine.initial config) before).rui.Safe) ↔
      Guarded Machine.step (fun machine input => ¬ machine.Strands input)
        (Machine.initial config) inputs := by
  apply safe_run
  · intro _ inside
    exact absurd inside Bool.false_ne_true
  · intro pending
    exact absurd pending Bool.false_ne_true

end

/-- An event that the pool has no room for leaves blocks pending where there are none. -/
theorem fullPool_strands :
    ¬ (runFrom Machine.step (Machine.initial passingOn)
      [.configure passingOn false, .enable (-1),
        .work ⟨readOf emptyDDUEvent 1, fullPool, true⟩]).rui.Safe := by
  intro safe
  exact safe (by decide) (by decide)

end EmuLib.Rui
