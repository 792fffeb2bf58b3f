import EmuLib.Rui.PendingBlocks
import EmuLib.Rui.StepRun

/-!
The file of a run: when its writer is created and what it is given to write, over any sequence of
commands and passes of the work loop.
-/

namespace EmuLib.Rui

open GuardedRun RingList List

variable {Byte : Type*}

structure Parameters where
  passDataOnToRUBuilder : Bool
  inputDataFormat : Format
  settings : FileSettings
  pathToDataOutFile : String
  fileSizeInMegaBytes : Nat
  runType : String

def Parameters.config (parameters : Parameters) (maxEvents : Int) : Config :=
  ⟨parameters.passDataOnToRUBuilder, parameters.inputDataFormat, maxEvents⟩

def isSTEPRunType (runType : String) : Bool :=
  runType.toList.tails.any fun rest => "STEP".toList.isPrefixOf rest

/-- Only in runs of these types may the data go without a file, and are they written at a limited
rate. -/
def isMonitorOrDebug (runType : String) : Bool := runType == "Monitor" || runType == "Debug"

namespace Output

def destroyFileWriter (output : Output Byte) : Output Byte :=
  { output with fileWriter := none, rateLimiter := false }

def createFileWriter (parameters : Parameters) (startsNewRun : Bool) (output : Output Byte) :
    Output Byte :=
  let destroyed := output.destroyFileWriter
  let limited := isMonitorOrDebug parameters.runType
  let created :=
    if parameters.pathToDataOutFile ≠ "" ∧ 0 < parameters.fileSizeInMegaBytes then
      { destroyed with
        fileWriter := some []
        rateLimiter := limited
        fileWritingVetoed := if limited then false else output.fileWritingVetoed }
    else { destroyed with failed := output.failed || !limited }
  if created.fileWriter.isSome && !startsNewRun then { created with failed := true } else created

def writtenSince (before after : Output Byte) : List Byte :=
  (after.fileWriter.getD []).drop (before.fileWriter.getD []).length

end Output

abbrev RunByte := Nat × UInt8

inductive Entry where
  | runStarted (runNumber : Nat)
  | fileWriterCreated (runNumber : Nat)
  | written (data : List RunByte)
  deriving DecidableEq

abbrev Log := List Entry

def Entry.startsRun : Entry → Bool
  | .runStarted _ => true
  | _ => false

namespace Log

def runs (log : Log) : Nat := log.countP Entry.startsRun

def runNumber? : Log → Option Nat
  | [] => none
  | .runStarted runNumber :: _ => some runNumber
  | _ :: earlier => runNumber? earlier

def fileRun? : Log → Option Nat
  | [] => none
  | .fileWriterCreated _ :: earlier => some (runs earlier)
  | _ :: earlier => fileRun? earlier

end Log

def Entry.InOrder (earlier : Log) : Entry → Prop
  | .runStarted _ => True
  | .fileWriterCreated runNumber =>
    earlier.runNumber? = some runNumber ∧ earlier.fileRun? ≠ some earlier.runs
  | .written data =>
    earlier.fileRun? = some earlier.runs ∧ ∀ byte ∈ data, byte.1 ≤ earlier.runs

def Log.Orderly : Log → Prop
  | [] => True
  | entry :: earlier => entry.InOrder earlier ∧ Log.Orderly earlier

structure Work where
  parameters : Parameters
  reading : Reading
  pool : Pool
  posted : Bool
  startsNewRun : Bool
  writing : Nat → Writing

structure Enabling where
  runInfo : Option (Nat × Int)
  succeeds : Bool

inductive Command where
  | configure (parameters : Parameters) (prepared : Bool)
  | enable (enabling : Enabling)
  | halt
  | fail
  | reset
  | maskDDUInput (index : Nat) (masked : Bool)
  | work (work : Work)

structure RunControl where
  fsm : FsmState
  rui : Application
  isSTEPRun : Bool
  counter : STEPEventCounter
  runNumber : Nat
  maxEvents : Int
  recording : Recording RunByte
  log : Log

def wrapped (rui : Application) : Application :=
  { rui with
    nEventsRead := rui.nEventsRead % word64
    nReadingPassesInEvent := rui.nReadingPassesInEvent % word64 }

def STEPEventCounter.maskInput (counter : STEPEventCounter) (index : Nat) (masked : Bool) :
    STEPEventCounter :=
  { counter with
    inputs := counter.inputs.modify index fun input => { input with isMaskedInput := masked } }

namespace RunControl

def initial : RunControl where
  fsm := .halted
  rui := Application.constructed
  isSTEPRun := false
  counter := .constructed
  runNumber := 0
  maxEvents := -1
  recording := ⟨⟨none, false, false, true, false⟩, EventBufferRing.constructed, 0, 0⟩
  log := []

def logging (control : RunControl) (entry : Entry) : RunControl :=
  { control with log := entry :: control.log }

def destroyFileWriter (control : RunControl) : RunControl :=
  { control with recording.output := control.recording.output.destroyFileWriter }

/-- Whatever is `prepared` after the file writer is destroyed may fail. -/
def configure (control : RunControl) (parameters : Parameters) (prepared : Bool) : RunControl :=
  let destroyed := control.destroyFileWriter
  if prepared then
    let isSTEPRun := isSTEPRunType parameters.runType
    let cleared := { destroyed with
      rui := configureAction control.rui
      isSTEPRun := isSTEPRun }
    if isSTEPRun && parameters.inputDataFormat == .dcc then { cleared with fsm := .failed }
    else
      { cleared with
        fsm := .ready
        counter := if isSTEPRun then control.counter.reset else control.counter
        recording := cleared.recording.configure parameters.settings }
  else { destroyed with fsm := .failed }

def enable (control : RunControl) (enabling : Enabling) : RunControl :=
  let informed := { control with
    runNumber := (enabling.runInfo.getD (0, 0)).1
    maxEvents := (enabling.runInfo.getD (0, 0)).2 }
  if enabling.succeeds then
    { informed.logging (.runStarted informed.runNumber) with fsm := .enabled }
  else { informed with fsm := .failed }

def halt (control : RunControl) : RunControl :=
  { control with
    fsm := .halted
    rui := haltAction control.rui
    recording.output.rateLimiter := false }

def ofThisRun (control : RunControl) (data : List UInt8) : List RunByte :=
  data.map fun byte => (control.log.runs, byte)

def record (control : RunControl) (recording : Recording RunByte) : RunControl :=
  let recorded := { control with recording := recording }
  match control.recording.output.writtenSince recording.output with
  | [] => recorded
  | byte :: rest => recorded.logging (.written (byte :: rest))

def createFileWriter (control : RunControl) (work : Work) : RunControl :=
  let created := { control with
    recording.output :=
      control.recording.output.createFileWriter work.parameters work.startsNewRun }
  if created.recording.output.fileWriter.isSome then
    created.logging (.fileWriterCreated control.runNumber)
  else created

/-- The calls to the reader, the clients and emuTA do not concern the run file, unless the reader
cannot be reset and enabled. -/
def perform (work : Work) (control : RunControl) : STEPCall → RunControl
  | .call .createFileWriter => control.createFileWriter work
  | .call (.writeDataWithContextToFile data newEvent isBadEvent) =>
    control.record (control.recording.writeDataWithContextToFile work.parameters.settings
      (control.ofThisRun data) newEvent isBadEvent work.writing)
  | .writeDataToFile data newEvent =>
    control.record { control.recording with
      output := control.recording.output.writeDataToFile work.parameters.settings
        (control.ofThisRun data) newEvent (work.writing 0) }
  | .call (.resetAndEnable false) => { control with recording.output.failed := true }
  | .call _ => control

def pass (control : RunControl) (work : Work) : STEPPass :=
  let config := work.parameters.config control.maxEvents
  if control.isSTEPRun then continueSTEPRun config work.reading control.rui control.counter
  else
    let pass := continueConstructionOfSuperFrag config work.reading work.pool control.rui
    ⟨pass.rui, control.counter, pass.calls.map .call, pass.outcome⟩

def processAndCommunicate (control : RunControl) (work : Work) : RunControl :=
  if control.rui.blocksArePendingTransmission then
    { control with rui := (sendNextPendingBlock work.posted control.rui).getD control.rui }
  else
    let pass := control.pass work
    let performed := runFrom (perform work) control pass.calls
    { performed with
      rui := wrapped pass.rui
      counter := pass.counter
      -- the pass is gone through to its end even if it has failed
      fsm := if performed.recording.output.failed then .failed else performed.fsm }

def step (control : RunControl) : Command → RunControl
  | .configure parameters prepared =>
    match control.fsm with
    | .halted => control.configure parameters prepared
    | _ => control
  | .enable enabling =>
    match control.fsm with
    | .ready => control.enable enabling
    | _ => control
  | .halt =>
    match control.fsm with
    | .ready | .enabled => control.halt
    | _ => control
  | .fail => { control with fsm := .failed }
  | .reset => { control with fsm := .halted, recording.output.failed := false }
  | .maskDDUInput index masked => { control with counter := control.counter.maskInput index masked }
  | .work work =>
    match control.fsm with
    | .enabled => control.processAndCommunicate work
    | _ => control

end RunControl

section

variable {allowed : Byte → Prop} {settings : FileSettings} {output : Output Byte}
  {data : List Byte}

def Output.Adds (allowed : Byte → Prop) (before after : Output Byte) : Prop :=
  ∃ added, after.fileWriter = before.fileWriter.map (· ++ added) ∧ ∀ byte ∈ added, allowed byte

lemma adds_nothing {after} (same : after.fileWriter = output.fileWriter) :
    output.Adds allowed after :=
  ⟨[], by simp [same], forall_mem_nil _⟩

lemma Output.Adds.trans {before between after : Output Byte} (early : before.Adds allowed between)
    (late : between.Adds allowed after) : before.Adds allowed after := by
  obtain ⟨first, firstWritten, firstAllowed⟩ := early
  obtain ⟨second, secondWritten, secondAllowed⟩ := late
  refine ⟨first ++ second, ?_, forall_mem_append.mpr ⟨firstAllowed, secondAllowed⟩⟩
  rw [secondWritten, firstWritten, Option.map_map]
  congr 1
  funext written
  exact append_assoc written first second

lemma caught_fileWriter : (output.caught settings).fileWriter = output.fileWriter := by
  unfold Output.caught
  split <;> rfl

lemma adds_writeDataToFile (newEvent writing) (every : ∀ byte ∈ data, allowed byte) :
    output.Adds allowed (output.writeDataToFile settings data newEvent writing) := by
  unfold Output.writeDataToFile
  cases writer : output.fileWriter with
  | none => exact adds_nothing rfl
  | some written =>
    dsimp only
    split
    · exact adds_nothing caught_fileWriter
    generalize (if newEvent && output.rateLimiter then !writing.accepted
      else output.fileWritingVetoed) = vetoed
    split
    · exact adds_nothing writer.symm
    split
    · exact ⟨data, by simp [writer], every⟩
    · exact adds_nothing (caught_fileWriter.trans writer.symm)

lemma adds_writeEvents (events writing) (every : ∀ event ∈ events, ∀ byte ∈ event, allowed byte) :
    output.Adds allowed (output.writeEvents settings events writing) := by
  induction events generalizing output writing with
  | nil => exact adds_nothing rfl
  | cons event rest ih =>
    obtain ⟨first, others⟩ := forall_mem_cons.mp every
    exact (adds_writeDataToFile true (writing 0) first).trans (ih _ others)

lemma writtenSince_eq {before after : Output Byte} {added}
    (written : after.fileWriter = before.fileWriter.map (· ++ added)) :
    before.writtenSince after = if before.fileWriter.isSome then added else [] := by
  unfold Output.writtenSince
  rw [written]
  cases before.fileWriter with
  | none => rfl
  | some earlier => simp

end

section

variable {allowed : Byte → Prop} {ring : EventBufferRing Byte}

def EventBufferRing.Allows (allowed : Byte → Prop) (ring : EventBufferRing Byte) : Prop :=
  ring.All fun buffer => ∀ byte ∈ buffer.event, allowed byte

lemma allows_constructed : EventBufferRing.constructed.Allows allowed :=
  ⟨forall_mem_nil _, forall_mem_nil _, forall_mem_nil _⟩

lemma allows_emptied (ring : EventBufferRing Byte) : ring.emptyEventBuffers.Allows allowed :=
  Circular.all_map fun _ => forall_mem_nil _

lemma appendData_allowed {buffer : EventBuffer Byte} {data}
    (kept : ∀ byte ∈ buffer.event, allowed byte) (every : ∀ byte ∈ data, allowed byte) :
    ∀ byte ∈ (buffer.appendData data).1.event, allowed byte := by
  simp only [EventBuffer.appendData, EventBuffer.prepare_event]
  rw [forall_mem_append]
  refine ⟨kept, ?_⟩
  intro byte taken
  exact every byte (mem_of_mem_take taken)

lemma allows_addData {data} (startsEvent) (kept : ring.Allows allowed)
    (every : ∀ byte ∈ data, allowed byte) : (ring.addData data startsEvent).Allows allowed := by
  have started : EventBufferRing.Allows allowed
      (if startsEvent then ring.advance.modifyCurrent EventBuffer.empty else ring) := by
    split
    · apply Circular.all_modifyCurrent _ (Circular.all_advance kept)
      intro _
      exact forall_mem_nil _
    · exact kept
  apply Circular.all_modifyCurrent _ started
  intro current
  exact appendData_allowed current every

lemma allows_getEventBuffers (kept : ring.Allows allowed) :
    ∀ event ∈ ring.getEventBuffers, ∀ byte ∈ event, allowed byte := by
  intro event found
  obtain ⟨buffer, member, rfl⟩ := mem_map.mp (mem_of_mem_filter found)
  exact Circular.all_iff.mp kept buffer member

end

section

variable {allowed : Byte → Prop} {recording : Recording Byte} {settings : FileSettings}

lemma configure_allows (kept : recording.eventBufferRing.Allows allowed) :
    (recording.configure settings).eventBufferRing.Allows allowed := by
  unfold Recording.configure
  split
  · exact allows_emptied _
  · exact kept

lemma configure_output : (recording.configure settings).output = recording.output := by
  unfold Recording.configure
  split <;> rfl

lemma writeDataWithContext_adds {data} (newEvent isBadEvent writing)
    (kept : recording.eventBufferRing.Allows allowed) (every : ∀ byte ∈ data, allowed byte) :
    let after := recording.writeDataWithContextToFile settings data newEvent isBadEvent writing
    recording.output.Adds allowed after.output ∧ after.eventBufferRing.Allows allowed := by
  have added := allows_addData newEvent kept every
  unfold Recording.writeDataWithContextToFile
  split
  · split
    · exact ⟨adds_writeDataToFile newEvent (writing 0) every, kept⟩
    split
    · unfold Recording.handleBadEvent
      dsimp only
      split
      · exact ⟨adds_writeEvents _ writing (allows_getEventBuffers added), allows_emptied _⟩
      · exact ⟨adds_nothing rfl, allows_emptied _⟩
    · exact ⟨adds_nothing rfl, added⟩
  · exact ⟨adds_writeDataToFile newEvent (writing 0) every, kept⟩

end

section

variable {log : Log}

@[simp] lemma runs_runStarted (runNumber) :
    Log.runs (.runStarted runNumber :: log) = log.runs + 1 := countP_cons_of_pos rfl

lemma fileRun_le {run} (created : log.fileRun? = some run) : run ≤ log.runs := by
  induction log with
  | nil => cases created
  | cons entry earlier ih =>
    cases entry with
    | runStarted runNumber =>
      rw [runs_runStarted]
      exact Nat.le_succ_of_le (ih created)
    | fileWriterCreated runNumber =>
      exact Nat.le_of_eq (Option.some.inj created).symm
    | written data =>
      exact ih created

lemma fileRun_started (runNumber) :
    Log.fileRun? (.runStarted runNumber :: log) ≠ some (Log.runs (.runStarted runNumber :: log)) := by
  rw [runs_runStarted]
  intro created
  have earlier : log.runs + 1 ≤ log.runs := fileRun_le created
  omega

end

namespace RunControl

structure Kept (control : RunControl) : Prop where
  orderly : control.log.Orderly
  ring : control.recording.eventBufferRing.Allows fun byte => byte.1 ≤ control.log.runs

structure Unopened (control : RunControl) : Prop extends Kept control where
  number : control.log.runNumber? = some control.runNumber
  noWriter : control.recording.output.fileWriter = none
  noFile : control.log.fileRun? ≠ some control.log.runs

structure Opened (control : RunControl) : Prop extends Kept control where
  number : control.log.runNumber? = some control.runNumber
  thisFile : control.recording.output.fileWriter.isSome = true →
    control.log.fileRun? = some control.log.runs

variable {calls : List STEPCall}

section

variable {control : RunControl} {work : Work}

lemma kept_record {recording} (opened : control.Opened)
    (adds : control.recording.output.Adds (fun byte => byte.1 ≤ control.log.runs) recording.output)
    (ring : recording.eventBufferRing.Allows fun byte => byte.1 ≤ control.log.runs) :
    (control.record recording).Opened := by
  obtain ⟨added, written, every⟩ := adds
  have same : recording.output.fileWriter.isSome = control.recording.output.fileWriter.isSome := by
    rw [written, Option.isSome_map]
  unfold record
  rw [writtenSince_eq written]
  split
  · refine ⟨⟨opened.orderly, ring⟩, opened.number, ?_⟩
    intro writer
    exact opened.thisFile (same ▸ writer)
  · rename_i byte rest found
    split at found
    · rename_i writer
      subst found
      have file := opened.thisFile writer
      refine ⟨⟨⟨⟨file, every⟩, opened.orderly⟩, ?_⟩, opened.number, ?_⟩
      · exact ring
      · intro _
        exact file
    · cases found

lemma ofThisRun_le (data) : ∀ byte ∈ control.ofThisRun data, byte.1 ≤ control.log.runs := by
  intro byte found
  obtain ⟨_, _, rfl⟩ := mem_map.mp found
  exact le_rfl

lemma opened_createFileWriter (unopened : control.Unopened) :
    (control.createFileWriter work).Opened := by
  unfold createFileWriter
  dsimp only
  split
  · refine ⟨⟨⟨⟨unopened.number, unopened.noFile⟩, unopened.orderly⟩, ?_⟩, unopened.number, ?_⟩
    · exact unopened.ring
    · intro _
      rfl
  · rename_i noWriter
    exact ⟨⟨unopened.orderly, unopened.ring⟩, unopened.number, fun writer => absurd writer noWriter⟩

variable {call : STEPCall}

lemma perform_unused (unused : call.fileUse = .none) :
    ∃ failed, control.perform work call =
      { control with recording.output.failed := failed } := by
  cases call with
  | writeDataToFile data newEvent => cases unused
  | call call =>
    cases call with
    | createFileWriter => cases unused
    | writeDataWithContextToFile data newEvent isBadEvent => cases unused
    | resetAndEnable succeeds =>
      cases succeeds with
      | false => exact ⟨true, rfl⟩
      | true => exact ⟨control.recording.output.failed, rfl⟩
    | sendEventNumberToTA eventNumber => exact ⟨control.recording.output.failed, rfl⟩
    | makeClientsLastBlockEndEvent => exact ⟨control.recording.output.failed, rfl⟩
    | addDataForClients nEventsRead position errorFlag data =>
      exact ⟨control.recording.output.failed, rfl⟩

lemma unopened_perform (unused : call.fileUse = .none)
    (unopened : control.Unopened) : (control.perform work call).Unopened := by
  obtain ⟨failed, same⟩ := @perform_unused control work call unused
  rw [same]
  exact ⟨⟨unopened.orderly, unopened.ring⟩, unopened.number, unopened.noWriter, unopened.noFile⟩

lemma opened_perform (created : call.fileUse ≠ .creates)
    (opened : control.Opened) : (control.perform work call).Opened := by
  cases use : call.fileUse with
  | none =>
    obtain ⟨failed, same⟩ := @perform_unused control work call use
    rw [same]
    exact ⟨⟨opened.orderly, opened.ring⟩, opened.number, opened.thisFile⟩
  | creates => exact absurd use created
  | writes =>
    have ofThisRun := @ofThisRun_le control
    cases call with
    | writeDataToFile data newEvent =>
      exact kept_record opened (adds_writeDataToFile newEvent (work.writing 0) (ofThisRun data))
        opened.ring
    | call call =>
      cases call with
      | writeDataWithContextToFile data newEvent isBadEvent =>
        obtain ⟨adds, ring⟩ := @writeDataWithContext_adds _ _ _ work.parameters.settings
          (control.ofThisRun data) newEvent isBadEvent work.writing opened.ring
          (ofThisRun data)
        exact kept_record opened adds ring
      | _ => cases use

lemma unopened_calls (unused : ∀ call ∈ calls, call.fileUse = .none)
    (unopened : control.Unopened) : (runFrom (perform work) control calls).Unopened := by
  induction calls generalizing control with
  | nil => exact unopened
  | cons call rest ih =>
    obtain ⟨first, others⟩ := forall_mem_cons.mp unused
    exact ih others (unopened_perform first unopened)

lemma opened_calls (created : ∀ call ∈ calls, call.fileUse ≠ .creates)
    (opened : control.Opened) : (runFrom (perform work) control calls).Opened := by
  induction calls generalizing control with
  | nil => exact opened
  | cons call rest ih =>
    obtain ⟨first, others⟩ := forall_mem_cons.mp created
    exact ih others (opened_perform first opened)

@[simp] lemma record_fsm (recording) : (control.record recording).fsm = control.fsm := by
  unfold record
  split <;> rfl

@[simp] lemma createFileWriter_fsm : (control.createFileWriter work).fsm = control.fsm := by
  unfold createFileWriter
  dsimp only
  split <;> rfl

lemma perform_fsm (call) : (control.perform work call).fsm = control.fsm := by
  cases use : call.fileUse with
  | none =>
    obtain ⟨failed, same⟩ := @perform_unused control work call use
    rw [same]
  | _ => unfold perform; split <;> simp

lemma calls_fsm (calls) : (runFrom (perform work) control calls).fsm = control.fsm := by
  induction calls generalizing control with
  | nil => rfl
  | cons call rest ih => exact ih.trans (perform_fsm call)

end

section

variable {control : RunControl}

structure Invariant (control : RunControl) : Prop extends Kept control where
  ready : control.fsm = .ready →
    control.recording.output.fileWriter = none ∧ control.rui.Unread
  unread : control.fsm = .enabled → control.rui.Unread → control.Unopened
  read : control.fsm = .enabled → ¬ control.rui.Unread → control.Opened

/-- Neither of the counters that tell the first read of a run from the others runs over its 64
bits. -/
def CountersFit (control : RunControl) : Command → Prop
  | .work work =>
    control.fsm = .enabled → control.rui.blocksArePendingTransmission = false →
      (control.pass work).rui.nEventsRead < word64 ∧
        (control.pass work).rui.nReadingPassesInEvent < word64
  | _ => True

instance (control : RunControl) : ∀ command, Decidable (control.CountersFit command)
  | .work _ => inferInstanceAs (Decidable (_ = _ → _ = _ → _ ∧ _))
  | .configure _ _ => isTrue trivial
  | .enable _ => isTrue trivial
  | .halt => isTrue trivial
  | .fail => isTrue trivial
  | .reset => isTrue trivial
  | .maskDDUInput _ _ => isTrue trivial

lemma pass_opensFile (work) :
    OpensFile control.rui (control.pass work).rui (control.pass work).calls := by
  unfold pass
  split
  · exact continueSTEPRun_opensFile control.counter
  · exact continueConstruction_opensFile work.pool

lemma wrapped_unread {rui} (events : rui.nEventsRead < word64)
    (passes : rui.nReadingPassesInEvent < word64) : wrapped rui = rui := by
  unfold wrapped
  rw [Nat.mod_eq_of_lt events, Nat.mod_eq_of_lt passes]

lemma sendNextPendingBlock_unread (posted rui) :
    ((sendNextPendingBlock posted rui).getD rui).Unread ↔ rui.Unread := by
  unfold sendNextPendingBlock
  split
  · rfl
  · split <;> rfl

lemma Unopened.opened (unopened : control.Unopened) : control.Opened where
  toKept := unopened.toKept
  number := unopened.number
  thisFile := by simp [unopened.noWriter]

lemma invariant_calls {after work} (opens : OpensFile control.rui after calls)
    (unread : control.rui.Unread → control.Unopened)
    (read : ¬ control.rui.Unread → control.Opened) :
    let performed := runFrom (perform work) control calls
    (after.Unread → performed.Unopened) ∧ (¬ after.Unread → performed.Opened) := by
  cases opens with
  | idle same unused =>
    constructor
    · intro still
      exact unopened_calls unused (unread (same.mp still))
    · intro some
      have opened := read fun fresh => some (same.mpr fresh)
      apply opened_calls _ opened
      intro call member
      rw [unused call member]
      decide
  | first fresh some unused created =>
    refine ⟨fun still => absurd still some, fun _ => ?_⟩
    rw [runFrom_append, runFrom_cons]
    exact opened_calls created (opened_createFileWriter (unopened_calls unused (unread fresh)))
  | further fresh some created =>
    refine ⟨fun still => absurd still some, fun _ => ?_⟩
    exact opened_calls created (read fresh)

lemma invariant_work (invariant : control.Invariant) (enabled : control.fsm = .enabled) (work)
    (fit : control.CountersFit (.work work)) : (control.processAndCommunicate work).Invariant := by
  unfold processAndCommunicate
  split
  · have same := sendNextPendingBlock_unread work.posted control.rui
    refine ⟨⟨invariant.orderly, invariant.ring⟩, ?_, ?_, ?_⟩
    · intro ready
      exact absurd (enabled.symm.trans ready) (by decide)
    · intro _ unread
      have unopened := invariant.unread enabled (same.mp unread)
      exact ⟨⟨unopened.orderly, unopened.ring⟩, unopened.number, unopened.noWriter, unopened.noFile⟩
    · intro _ read
      have opened := invariant.read enabled fun unread => read (same.mpr unread)
      exact ⟨⟨opened.orderly, opened.ring⟩, opened.number, opened.thisFile⟩
  · rename_i notPending
    obtain ⟨events, passes⟩ := fit enabled (by simpa using notPending)
    obtain ⟨unread, read⟩ := @invariant_calls _ _ _ work (pass_opensFile work)
      (invariant.unread enabled) (invariant.read enabled)
    have kept : (runFrom (perform work) control (control.pass work).calls).Opened := by
      by_cases fresh : (control.pass work).rui.Unread
      · exact (unread fresh).opened
      · exact read fresh
    simp only [wrapped_unread events passes]
    refine ⟨⟨kept.orderly, kept.ring⟩, ?_, ?_, ?_⟩
    · intro ready
      rw [calls_fsm, enabled] at ready
      split at ready <;> cases ready
    · intro _ fresh
      have unopened := unread fresh
      exact ⟨⟨unopened.orderly, unopened.ring⟩, unopened.number, unopened.noWriter, unopened.noFile⟩
    · intro _ some
      have opened := read some
      exact ⟨⟨opened.orderly, opened.ring⟩, opened.number, opened.thisFile⟩

lemma Kept.idle (kept : control.Kept) (idle : control.fsm = .halted ∨ control.fsm = .failed) :
    control.Invariant := by
  refine ⟨kept, ?_, ?_, ?_⟩
  all_goals
    intro other
    rw [other] at idle
    simp at idle

lemma invariant_configure (invariant : control.Invariant) (parameters prepared) :
    (control.configure parameters prepared).Invariant := by
  unfold configure
  dsimp only
  split
  · split
    · exact Kept.idle ⟨invariant.orderly, invariant.ring⟩ (.inr rfl)
    · refine ⟨⟨invariant.orderly, configure_allows invariant.ring⟩, ?_, nofun, nofun⟩
      intro _
      refine ⟨?_, rfl, rfl⟩
      rw [configure_output]
      rfl
  · exact Kept.idle ⟨invariant.orderly, invariant.ring⟩ (.inr rfl)

lemma invariant_enable (invariant : control.Invariant) (ready : control.fsm = .ready)
    (enabling) : (control.enable enabling).Invariant := by
  obtain ⟨noWriter, unread⟩ := invariant.ready ready
  unfold enable
  split
  · have more : (control.recording.eventBufferRing).Allows
        fun byte => byte.1 ≤ Log.runs (.runStarted (enabling.runInfo.getD (0, 0)).1 :: control.log) := by
      rw [runs_runStarted]
      apply Circular.all_iff.mpr
      intro buffer member byte found
      exact Nat.le_succ_of_le (Circular.all_iff.mp invariant.ring buffer member byte found)
    have kept : Log.Orderly (.runStarted (enabling.runInfo.getD (0, 0)).1 :: control.log) :=
      ⟨trivial, invariant.orderly⟩
    refine ⟨⟨kept, more⟩, nofun, ?_, ?_⟩
    · intro _ _
      exact ⟨⟨kept, more⟩, rfl, noWriter, fileRun_started _⟩
    · intro _ read
      exact absurd unread read
  · exact Kept.idle ⟨invariant.orderly, invariant.ring⟩ (.inr rfl)

lemma invariant_mask (invariant : control.Invariant) (index masked) :
    Invariant { control with counter := control.counter.maskInput index masked } := by
  refine ⟨⟨invariant.orderly, invariant.ring⟩, invariant.ready, ?_, ?_⟩
  · intro enabled unread
    have unopened := invariant.unread enabled unread
    exact ⟨⟨unopened.orderly, unopened.ring⟩, unopened.number, unopened.noWriter, unopened.noFile⟩
  · intro enabled read
    have opened := invariant.read enabled read
    exact ⟨⟨opened.orderly, opened.ring⟩, opened.number, opened.thisFile⟩

lemma invariant_step (control : RunControl) (command) (invariant : control.Invariant)
    (fit : control.CountersFit command) : (control.step command).Invariant := by
  cases command with
  | configure parameters prepared =>
    unfold step
    dsimp only
    split
    · exact invariant_configure invariant parameters prepared
    · exact invariant
  | enable enabling =>
    unfold step
    dsimp only
    split
    · rename_i ready
      exact invariant_enable invariant ready enabling
    · exact invariant
  | halt =>
    unfold step
    dsimp only
    split
    · exact Kept.idle ⟨invariant.orderly, invariant.ring⟩ (.inl rfl)
    · exact Kept.idle ⟨invariant.orderly, invariant.ring⟩ (.inl rfl)
    · exact invariant
  | fail => exact Kept.idle ⟨invariant.orderly, invariant.ring⟩ (.inr rfl)
  | reset => exact Kept.idle ⟨invariant.orderly, invariant.ring⟩ (.inl rfl)
  | maskDDUInput index masked => exact invariant_mask invariant index masked
  | work work =>
    unfold step
    dsimp only
    split
    · rename_i enabled
      exact invariant_work invariant enabled work fit
    · exact invariant

lemma invariant_initial : initial.Invariant :=
  Kept.idle ⟨trivial, allows_constructed⟩ (.inl rfl)

/-- In every run the file writer is created at most once, before anything is written, and with the
number of the run, and nothing read in a run gets into the file of an earlier one. -/
theorem run_file_opened (commands : List Command)
    (fit : Guarded step CountersFit initial commands) :
    (runFrom step initial commands).log.Orderly :=
  (run_invariant invariant_step invariant_initial fit).orderly

end

def stepParameters : Parameters := ⟨false, .ddu, ⟨false, 0, 0⟩, "/data", 100, "STEP"⟩

lemma stepParameters_isSTEP : isSTEPRunType stepParameters.runType = true := by
  decide

def headerless : DataBlock := ⟨8, fun _ => 0⟩

lemma noL1A_lt : 0 < 0x1000000 := by decide

def workOn (block : DataBlock) : Work where
  parameters := stepParameters
  reading := readOf block ⟨0, noL1A_lt⟩
  pool := roomyPool
  posted := true
  startsNewRun := true
  writing := fun _ => ⟨true, true, true⟩

def searching (passes : Nat) : RunControl where
  fsm := .enabled
  rui := ⟨[], false, 1, 0, 0, passes, false, 0, true⟩
  isSTEPRun := true
  counter := .constructed
  runNumber := 5
  maxEvents := -1
  recording := ⟨⟨some [], false, false, true, false⟩, EventBufferRing.constructed, 0, 0⟩
  log := [.fileWriterCreated 5, .runStarted 5]

def opening : List Command :=
  [.configure stepParameters true, .enable ⟨some (5, -1), true⟩, .work (workOn headerless)]

lemma opening_searches : runFrom step initial opening = searching 1 := by
  have configured : step initial (.configure stepParameters true) =
      { initial with
        fsm := .ready
        rui := configureAction Application.constructed
        isSTEPRun := true
        counter := .constructed } := by
    rfl
  simp only [opening, runFrom_cons, runFrom_nil, configured]
  rfl

lemma searching_pass (passes) : (searching (passes + 1)).pass (workOn headerless) =
    ⟨(searching (passes + 2)).rui, .constructed, [], .noExtraPauseForOtherThreads⟩ := by
  have noHeader : hasHeader .ddu headerless = false := by decide
  have noTrailer : hasTrailer .ddu headerless = false := by decide
  have long : headerless.length ≠ 0 := by decide
  simp [pass, searching, workOn, stepParameters, Parameters.config, readOf, continueSTEPRun,
    prepareReading, startSTEPPass, startPass, takeSTEPBlock, noHeader, noTrailer, long]

lemma searching_step (passes) :
    (searching (passes + 1)).step (.work (workOn headerless)) =
      searching ((passes + 2) % word64) := by
  change (searching (passes + 1)).processAndCommunicate (workOn headerless) = _
  unfold processAndCommunicate
  rw [searching_pass]
  rfl

lemma searching_run {more} (fits : more < word64) :
    runFrom step (searching 1) (replicate more (.work (workOn headerless))) =
      searching ((more + 1) % word64) := by
  induction more with
  | zero => rfl
  | succ more ih =>
    rw [replicate_succ', runFrom_append, ih (by omega), Nat.mod_eq_of_lt fits, runFrom_cons,
      runFrom_nil, searching_step]

def neededDDUEvent : DataBlock where
  length := 48
  byte := fun offset => if offset = 18 ∨ offset = 22 then 1 else emptyDDUEvent.byte offset

def twoRuns : List Command :=
  opening ++ [.work (workOn headerless), .halt] ++
    [.configure stepParameters true, .enable ⟨some (6, -1), true⟩, .work (workOn headerless),
      .work (workOn neededDDUEvent), .work (workOn neededDDUEvent)]

theorem run_file_opened_twoRuns : (runFrom step initial twoRuns).log =
      [.written (neededDDUEvent.bytes.map fun byte => (2, byte)),
        .written (neededDDUEvent.bytes.map fun byte => (2, byte)),
        .fileWriterCreated 6, .runStarted 6, .fileWriterCreated 5, .runStarted 5] ∧
    (runFrom step initial twoRuns).log.Orderly :=
  ⟨by decide +kernel, run_file_opened twoRuns (by decide +kernel)⟩

/-- After as many reads without a header as the counter of passes can count, the file writer is
created again in the same run. -/
theorem run_file_reopened : ¬ ∀ commands : List Command,
    (runFrom step initial commands).log.Orderly := by
  intro always
  obtain ⟨last, full⟩ : ∃ last, last + 1 = word64 := ⟨word64 - 1, rfl⟩
  have orderly := always (opening ++ List.replicate last (.work (workOn headerless)) ++
    [.work (workOn headerless)])
  have counted : (last + 1) % word64 = 0 := by rw [full, Nat.mod_self]
  rw [runFrom_append, runFrom_append, opening_searches, searching_run (by omega), counted] at orderly
  exact orderly.1.2 rfl

end RunControl

end EmuLib.Rui
