import EmuLib.Fu.Application
import EmuLib.Lib.GuardedRun
import EmuLib.Lib.ObjectLifetime

/-!
When the filter unit allocates, uses and deletes its event header and trailer.
-/

namespace EmuLib.Fu

open GuardedRun ObjectLifetime List

/-- The application with the pointer `emuEventHeaderTrailer_`; `allocated` counts the objects
that have been allocated, `accesses` is what has been done to them. -/
structure Running where
  fu : Application
  emuEventHeaderTrailer : Option Nat
  allocated : Nat
  accesses : List Access

def Running.constructed (CSCConfigId TFConfigId : UInt32) : Running :=
  ⟨.constructed CSCConfigId TFConfigId, none, 0, []⟩

inductive Ending
  | throwsBefore
  | throwsAfter
  | completes
  deriving DecidableEq

/-- An event for the state machine, or a message with blocks. `ending` is relative to the
allocation or to the deletion in the action. -/
inductive Input
  | configure (settings : Settings) (ending : Ending)
  | enable (nbOutstandingRqsts : Nat) (completes : Bool)
  | halt (ending : Ending)
  | fail
  | take (chain : List (DataBlock × Response))

namespace Running

def newHeader (running : Running) : Running :=
  { running with
    emuEventHeaderTrailer := some running.allocated
    allocated := running.allocated + 1
    accesses := running.accesses ++ [.new running.allocated] }

def deleteHeader (running : Running) : Running :=
  { running with accesses := running.accesses ++ [.delete running.emuEventHeaderTrailer] }

def goTo (state : FsmState) (running : Running) : Running :=
  { running with fu := { running.fu with currentState := state } }

def configure (settings : Settings) (ending : Ending) (running : Running) : Running :=
  let configured := { running with fu := configureAction settings running.fu }
  match ending with
  | .throwsBefore => running.goTo .failed
  | .throwsAfter => configured.newHeader.goTo .failed
  | .completes => configured.newHeader.goTo .ready

def enable (nbOutstandingRqsts : Nat) (completes : Bool) (running : Running) : Running :=
  if completes then { running with fu := Fu.enable nbOutstandingRqsts running.fu }
  else running.goTo .failed

def haltAction (fu : Application) : Application := { fu with fileWriter := none }

def halt (ending : Ending) (running : Running) : Running :=
  let halted := { running with fu := haltAction running.fu }
  match ending with
  | .throwsBefore => running.goTo .failed
  | .throwsAfter => halted.deleteHeader.goTo .failed
  | .completes => halted.deleteHeader.goTo .halted

/-- The header is filled in and written with the first block of an event, the trailer is
written with the last one. -/
def usesFor (pointer : Option Nat) (block : DataBlock) : List Access :=
  (if block.blockIsFirstOfEvent then [.use pointer] else []) ++
    (if block.blockIsLastOfEvent then [.use pointer] else [])

def uses (running : Running) (chain : List (DataBlock × Response)) : List Access :=
  match running.fu.currentState with
  | .enabled =>
    if !running.fu.faultDetected && running.fu.fileWriter.isSome then
      chain.flatMap fun entry => usesFor running.emuEventHeaderTrailer entry.1
    else []
  | .halted => []
  | .failed => []
  | .ready => []

def take (chain : List (DataBlock × Response)) (running : Running) : Running :=
  { running with
    fu := I2O_FU_TAKE_Callback chain running.fu
    accesses := running.accesses ++ running.uses chain }

def step (running : Running) (input : Input) : Running :=
  match input, running.fu.currentState with
  | .configure settings ending, .halted => running.configure settings ending
  | .enable nbOutstandingRqsts completes, .ready => running.enable nbOutstandingRqsts completes
  | .halt ending, .halted => running.halt ending
  | .halt ending, .ready => running.halt ending
  | .halt ending, .enabled => running.halt ending
  | .fail, .halted => running.goTo .failed
  | .fail, .ready => running.goTo .failed
  | .fail, .enabled => running.goTo .failed
  | .take chain, _ => running.take chain
  | _, _ => running

end Running

def HaltsOnce (running : Running) : Input → Prop
  | .halt ending => ending ≠ .throwsBefore → running.fu.currentState ≠ .halted
  | .configure _ _ => True
  | .enable _ _ => True
  | .fail => True
  | .take _ => True

def KeepsHeader (running : Running) (alive : List Nat) : Prop :=
  match running.fu.currentState with
  | .halted => alive = []
  | .ready => running.emuEventHeaderTrailer.toList = alive ∧ alive ≠ []
  | .enabled => running.emuEventHeaderTrailer.toList = alive ∧ alive ≠ []
  | .failed => True

section

def Processing (fu : Application) : Prop := fu.currentState = .enabled ∨ fu.currentState = .failed

variable {fu : Application}

lemma processing_callWriter (call)
    (processing : Processing fu) : Processing (callWriter call fu) := by
  unfold callWriter
  split
  · exact processing
  · split
    · exact processing
    · exact .inr rfl

lemma processing_startBlock (response block)
    (processing : Processing fu) : Processing (startBlock response block fu) := by
  have inRun : Processing (if fu.nbEventsProcessed = 0 then
      callWriter (Writer.RawDataFile.startNewRun response.startNewRun) fu else fu) := by
    split
    · exact processing_callWriter _ processing
    · exact processing
  unfold startBlock
  split
  · unfold writeHeader
    split
    · apply processing_callWriter
      exact processing_callWriter _ inRun
    · exact processing_callWriter _ inRun
  · exact processing

lemma processing_discardAndAllocate (response block)
    (processing : Processing fu) : Processing (discardAndAllocate response block fu) := by
  unfold discardAndAllocate
  split <;> exact processing

lemma processing_continueBlock (response block)
    (processing : Processing fu) : Processing (continueBlock response block fu) := by
  have written : Processing (if block.superFragmentIsFirstOfEvent then fu
      else writePayload response block fu) := by
    split
    · exact processing
    · exact processing_callWriter _ processing
  have released : ∀ current : Application, Processing current →
      Processing (if block.blockIsLastOfSuperFragment then releaseSuperFragment current
        else current) := by
    intro current still
    split
    · unfold releaseSuperFragment
      split <;> exact still
    · exact still
  have freed := released (appendBlockToSuperFragment block _) written
  unfold continueBlock
  dsimp only
  split
  · apply processing_discardAndAllocate
    exact processing_callWriter _ freed
  · exact freed

lemma processing_chain (chain : List (DataBlock × Response)) (processing : Processing fu) :
    Processing
      (chain.foldl (fun current entry => processDataBlock entry.2 entry.1 current) fu) := by
  induction chain generalizing fu with
  | nil => exact processing
  | cons entry rest ih =>
    apply ih
    exact processing_continueBlock _ _ (processing_startBlock _ _ processing)

lemma take_currentState (chain) :
    (I2O_FU_TAKE_Callback chain fu).currentState = fu.currentState ∨
      (I2O_FU_TAKE_Callback chain fu).currentState = .failed := by
  unfold I2O_FU_TAKE_Callback
  cases state : fu.currentState with
  | halted => exact .inl rfl
  | failed => exact .inl rfl
  | ready => exact .inl rfl
  | enabled =>
    dsimp only
    split
    · exact .inl rfl
    · exact processing_chain chain (Or.inl state)

end

structure Sound (running : Running) : Prop where
  legal : LegalFrom [] running.accesses
  keeps : KeepsHeader running (aliveAfter [] running.accesses)

section

variable {running : Running}

lemma newHeader_legal (sound : Sound running) (halted : running.fu.currentState = .halted) :
    LegalFrom [] running.newHeader.accesses ∧
      aliveAfter [] running.newHeader.accesses = [running.allocated] := by
  have keeps := sound.keeps
  simp only [KeepsHeader, halted] at keeps
  constructor
  · apply (legalFrom_append _ _ _).2
    exact ⟨sound.legal, trivial, trivial⟩
  · simp only [Running.newHeader, aliveAfter_append, keeps]
    rfl

lemma deleteHeader_legal (legal : LegalFrom [] running.accesses)
    (points : running.emuEventHeaderTrailer.toList = aliveAfter [] running.accesses)
    (some : aliveAfter [] running.accesses ≠ []) :
    LegalFrom [] running.deleteHeader.accesses ∧
      aliveAfter [] running.deleteHeader.accesses = [] := by
  rw [← points] at some
  obtain ⟨object, found⟩ : ∃ object, running.emuEventHeaderTrailer = Option.some object := by
    cases pointer : running.emuEventHeaderTrailer with
    | none => exact absurd (congrArg Option.toList pointer) some
    | some object => exact ⟨object, rfl⟩
  rw [found] at points
  constructor
  · apply (legalFrom_append _ _ _).2
    rw [← points]
    refine ⟨legal, ?_, trivial⟩
    exact ⟨object, found, mem_singleton.2 rfl⟩
  · simp only [Running.deleteHeader, aliveAfter_append, ← points, found]
    simp [aliveAfter, Access.perform]

lemma deleteHeader_illegal (sound : Sound running) (halted : running.fu.currentState = .halted) :
    ¬ LegalFrom [] running.deleteHeader.accesses := by
  intro legal
  obtain ⟨_, ⟨object, _, member⟩, _⟩ := (legalFrom_append _ _ _).1 legal
  have keeps := sound.keeps
  simp only [KeepsHeader, halted] at keeps
  rw [keeps] at member
  cases member

lemma configure_sound (sound : Sound running) (halted : running.fu.currentState = .halted)
    (settings ending) : Sound (running.configure settings ending) := by
  obtain ⟨legal, alive⟩ := newHeader_legal sound halted
  cases ending with
  | throwsBefore => exact ⟨sound.legal, trivial⟩
  | throwsAfter => exact ⟨legal, trivial⟩
  | completes =>
    refine ⟨legal, ?_⟩
    rw [show (running.configure settings .completes).accesses = running.newHeader.accesses
      from rfl, alive]
    exact ⟨rfl, cons_ne_nil _ _⟩

lemma halt_sound (legal : LegalFrom [] running.accesses)
    (points : running.emuEventHeaderTrailer.toList = aliveAfter [] running.accesses)
    (some : aliveAfter [] running.accesses ≠ []) (ending) : Sound (running.halt ending) := by
  obtain ⟨deleted, nothing⟩ := deleteHeader_legal legal points some
  cases ending with
  | throwsBefore => exact ⟨legal, trivial⟩
  | throwsAfter => exact ⟨deleted, trivial⟩
  | completes => exact ⟨deleted, nothing⟩

lemma enable_sound (sound : Sound running) (ready : running.fu.currentState = .ready)
    (nbOutstandingRqsts completes) : Sound (running.enable nbOutstandingRqsts completes) := by
  have keeps := sound.keeps
  simp only [KeepsHeader, ready] at keeps
  cases completes with
  | false => exact ⟨sound.legal, trivial⟩
  | true => exact ⟨sound.legal, keeps⟩

lemma uses_all (chain) : ∀ access ∈ running.uses chain,
    access = .use running.emuEventHeaderTrailer := by
  intro access member
  unfold Running.uses at member
  split at member
  · split at member
    · obtain ⟨entry, _, used⟩ := mem_flatMap.1 member
      simp only [Running.usesFor, mem_append] at used
      rcases used with used | used
      · split at used
        · exact mem_singleton.1 used
        · cases used
      · split at used
        · exact mem_singleton.1 used
        · cases used
    · cases member
  all_goals cases member

lemma uses_enabled {chain} (other : running.fu.currentState ≠ .enabled) : running.uses chain = []:= by
  unfold Running.uses
  split
  · rename_i enabled
    exact absurd enabled other
  all_goals rfl

lemma take_sound (sound : Sound running) (chain) : Sound (running.take chain) := by
  have keeps := sound.keeps
  by_cases enabled : running.fu.currentState = .enabled
  · simp only [KeepsHeader, enabled] at keeps
    obtain ⟨object, found⟩ : ∃ object, object ∈ running.emuEventHeaderTrailer := by
      cases pointer : running.emuEventHeaderTrailer with
      | none =>
        rw [pointer] at keeps
        exact absurd keeps.1.symm keeps.2
      | some object => exact ⟨object, rfl⟩
    have pointsTo : PointsTo (aliveAfter [] running.accesses) running.emuEventHeaderTrailer := by
      refine ⟨object, found, ?_⟩
      rw [← keeps.1]
      exact Option.mem_toList.2 found
    obtain ⟨legal, unchanged⟩ := uses_legal pointsTo (uses_all chain)
    constructor
    · exact (legalFrom_append _ _ _).2 ⟨sound.legal, legal⟩
    · rw [show (running.take chain).accesses = running.accesses ++ running.uses chain from rfl,
        aliveAfter_append, unchanged]
      rcases @take_currentState running.fu chain with same | failed
      · rw [enabled] at same
        simp only [KeepsHeader, Running.take, same]
        exact keeps
      · simp only [KeepsHeader, Running.take, failed]
  · have unused : (running.take chain).accesses = running.accesses := by
      simp only [Running.take, uses_enabled enabled, append_nil]
    constructor
    · rw [unused]
      exact sound.legal
    · rw [unused]
      rcases @take_currentState running.fu chain with same | failed
      · simp only [KeepsHeader, Running.take, same]
        exact keeps
      · simp only [KeepsHeader, Running.take, failed]

lemma step_sound (running input) (sound : Sound running)
    (careful : HaltsOnce running input) : Sound (running.step input) := by
  have keeps := sound.keeps
  have fails : Sound (running.goTo .failed) := ⟨sound.legal, trivial⟩
  cases input with
  | configure settings ending =>
    cases state : running.fu.currentState with
    | halted => simpa only [Running.step, state] using configure_sound sound state settings ending
    | ready => simpa only [Running.step, state] using sound
    | enabled => simpa only [Running.step, state] using sound
    | failed => simpa only [Running.step, state] using sound
  | enable nbOutstandingRqsts completes =>
    cases state : running.fu.currentState with
    | ready =>
      simpa only [Running.step, state] using
        enable_sound sound state nbOutstandingRqsts completes
    | halted => simpa only [Running.step, state] using sound
    | enabled => simpa only [Running.step, state] using sound
    | failed => simpa only [Running.step, state] using sound
  | halt ending =>
    cases state : running.fu.currentState with
    | halted =>
      -- only a Halt that throws before the deletion is left here
      cases ending with
      | throwsBefore =>
        simp only [Running.step, state]
        exact fails
      | throwsAfter => exact absurd state (careful (by decide))
      | completes => exact absurd state (careful (by decide))
    | ready =>
      simp only [KeepsHeader, state] at keeps
      simpa only [Running.step, state] using halt_sound sound.legal keeps.1 keeps.2 ending
    | enabled =>
      simp only [KeepsHeader, state] at keeps
      simpa only [Running.step, state] using halt_sound sound.legal keeps.1 keeps.2 ending
    | failed => simpa only [Running.step, state] using sound
  | fail =>
    cases state : running.fu.currentState with
    | halted => simpa only [Running.step, state] using fails
    | ready => simpa only [Running.step, state] using fails
    | enabled => simpa only [Running.step, state] using fails
    | failed => simpa only [Running.step, state] using sound
  | take chain =>
    cases state : running.fu.currentState <;>
      simpa only [Running.step] using take_sound sound chain

lemma careless_illegal {input} (sound : Sound running)
    (careless : ¬ HaltsOnce running input) : ¬ LegalFrom [] (running.step input).accesses := by
  cases input with
  | halt ending =>
    simp only [HaltsOnce, ne_eq, Classical.not_imp, not_not] at careless
    obtain ⟨deletes, halted⟩ := careless
    have illegal := deleteHeader_illegal sound halted
    cases ending with
    | throwsBefore => exact absurd rfl deletes
    | throwsAfter =>
      simp only [Running.step, halted]
      exact illegal
    | completes =>
      simp only [Running.step, halted]
      exact illegal
  | configure settings ending => exact absurd trivial careless
  | enable nbOutstandingRqsts completes => exact absurd trivial careless
  | fail => exact absurd trivial careless
  | take chain => exact absurd trivial careless

lemma step_accesses (running : Running) (input) :
    running.accesses <+: (running.step input).accesses := by
  have adds : ∀ {more : List Access}, running.accesses <+: running.accesses ++ more :=
    prefix_append _ _
  have same : running.accesses <+: running.accesses := prefix_rfl
  unfold Running.step
  split
  · rename_i settings ending _
    cases ending with
    | throwsBefore => exact same
    | throwsAfter => exact adds
    | completes => exact adds
  · unfold Running.enable
    split <;> exact same
  iterate 3
    · rename_i ending _
      cases ending with
      | throwsBefore => exact same
      | throwsAfter => exact adds
      | completes => exact adds
  iterate 3 exact same
  · exact adds
  · exact same

lemma run_accesses (running inputs) :
    running.accesses <+: (runFrom Running.step running inputs).accesses := by
  induction inputs generalizing running with
  | nil => exact prefix_rfl
  | cons input rest ih => exact (step_accesses running input).trans (ih _)

end

lemma legal_iff_haltsOnce {running} (sound : Sound running) (inputs) :
    LegalFrom [] (runFrom Running.step running inputs).accesses ↔
      Guarded Running.step HaltsOnce running inputs := by
  induction inputs generalizing running with
  | nil => simp [sound.legal]
  | cons input rest ih =>
    rw [runFrom_cons]
    constructor
    · intro legal
      by_cases careful : HaltsOnce running input
      · exact ⟨careful, (ih (step_sound running input sound careful)).1 legal⟩
      · obtain ⟨later, grown⟩ := run_accesses (running.step input) rest
        rw [← grown] at legal
        exact absurd ((legalFrom_append _ _ _).1 legal).1 (careless_illegal sound careful)
    · rintro ⟨careful, others⟩
      exact (ih (step_sound running input sound careful)).2 others

/-- The event header is deleted and used only while it is alive, in every run of the filter unit
in which no Halt gets to the deletion in the Halted state, and in no other. -/
theorem header_lifetime (CSCConfigId TFConfigId : UInt32) (inputs : List Input) :
    LegalFrom [] (runFrom Running.step (.constructed CSCConfigId TFConfigId) inputs).accesses ↔
      Guarded Running.step HaltsOnce (.constructed CSCConfigId TFConfigId) inputs :=
  @legal_iff_haltsOnce (.constructed CSCConfigId TFConfigId) ⟨trivial, rfl⟩ inputs

theorem halted_twice_illegal :
    ¬ LegalFrom [] (runFrom Running.step (.constructed 0 0)
      [.configure ⟨true, 1, false, true⟩ .completes, .halt .completes, .halt .completes]).accesses ∧
    ¬ LegalFrom [] (runFrom Running.step (.constructed 0 0) [.halt .completes]).accesses := by
  constructor <;> decide

end EmuLib.Fu
