import EmuLib.Rui.BadEvents

/-!
The passes of a STEP run, in which only those events are written and handed on that contain data
from an input of the DDU that has not yet produced as many as requested.
-/

namespace EmuLib.Rui

open List

structure DDUInput where
  isLiveInput : Bool
  isMaskedInput : Bool
  count : Nat

structure STEPEventCounter where
  requestedEvents : Nat
  neededEvents : Nat
  inputs : List DDUInput
  isInitialized : Bool

namespace STEPEventCounter

def maxDDUInputs : Nat := 15

def maxInt64 : Nat := 0x7fffffffffffffff

def constructed : STEPEventCounter where
  requestedEvents := 0
  neededEvents := 0
  inputs := List.replicate maxDDUInputs ⟨false, false, 0⟩
  isInitialized := false

def reset (counter : STEPEventCounter) : STEPEventCounter where
  requestedEvents := 0
  neededEvents := 0
  inputs := counter.inputs.map fun input => { input with isLiveInput := false, count := 0 }
  isInitialized := false

def initializeCounter (counter : STEPEventCounter) (requestedEvents : Nat) (dduHeader : DataBlock) :
    STEPEventCounter where
  requestedEvents := requestedEvents
  neededEvents := 0
  inputs := counter.inputs.mapIdx fun index input =>
    { input with isLiveInput := (dduHeader.halfWord 22).testBit index, count := 0 }
  isInitialized := true

def isNeededEvent (counter : STEPEventCounter) (dduHeader : DataBlock) :
    STEPEventCounter × Bool :=
  let nonEmpty := fun index => (dduHeader.halfWord 18).testBit index
  let isNeeded := counter.inputs.zipIdx.any fun (input, index) =>
    nonEmpty index && !input.isMaskedInput && decide (input.count < counter.requestedEvents)
  if isNeeded then
    ({ counter with
      neededEvents := (counter.neededEvents + 1) % word64
      inputs := counter.inputs.mapIdx fun index input =>
        if nonEmpty index && !input.isMaskedInput then
          { input with count := (input.count + 1) % word64 }
        else input }, true)
  else (counter, false)

def getLowestCount (counter : STEPEventCounter) : Nat :=
  if counter.isInitialized then
    counter.inputs.foldl (fun lowest input =>
      if input.isLiveInput && !input.isMaskedInput && decide (input.count < lowest) then
        input.count
      else lowest) maxInt64
  else 0

end STEPEventCounter

inductive STEPCall where
  | call (call : Call)
  | writeDataToFile (data : List UInt8) (newEvent : Bool)

structure STEPPass where
  rui : Application
  counter : STEPEventCounter
  calls : List STEPCall
  outcome : Outcome

def requestedEvents (config : Config) : Nat :=
  if config.maxEvents < 0 then word64 - 1 else config.maxEvents.toNat

/-- The part of `continueSTEPRun` that handles a block of data. There `insideEvent` means that
the application is inside a needed event. -/
def takeSTEPBlock (config : Config) (reading : Reading) (block : DataBlock) (rui : Application)
    (counter : STEPEventCounter) : STEPPass :=
  let header := hasHeader config.inputDataFormat block
  let trailer := hasTrailer config.inputDataFormat block
  let counted := if header then { rui with nEventsRead := rui.nEventsRead + 1 } else rui
  let initialized :=
    if header && !counter.isInitialized then
      counter.initializeCounter (requestedEvents config) block
    else counter
  let add : STEPCall := .call
    (.addDataForClients counted.nEventsRead ⟨header, trailer⟩ rui.errorFlag block.bytes)
  let cleared := { counted with errorFlag := if trailer then 0 else rui.errorFlag }
  if header then
    let lost : List STEPCall :=
      if rui.insideEvent then [.call .makeClientsLastBlockEndEvent] else []
    let needed := initialized.isNeededEvent block
    if needed.2 then
      ⟨{ cleared with
          eventNumber := reading.eventNumber
          nReadingPassesInEvent := if trailer then 0 else 1
          insideEvent := !trailer },
        needed.1, lost ++ [.writeDataToFile block.bytes true, add], .noExtraPauseForOtherThreads⟩
    else
      ⟨{ cleared with insideEvent := false }, needed.1, lost, .noExtraPauseForOtherThreads⟩
  else if rui.insideEvent then
    ⟨{ cleared with insideEvent := !trailer }, initialized,
      [.writeDataToFile block.bytes false, add], .noExtraPauseForOtherThreads⟩
  else ⟨cleared, initialized, [], .noExtraPauseForOtherThreads⟩

def startSTEPPass (reading : Reading) (rui : Application) : Application × List Call :=
  let started := startPass reading rui
  ({ started.1 with errorFlag := rui.errorFlag ||| reading.errorFlag }, started.2)

def continueSTEPRun (config : Config) (reading : Reading) (rui : Application)
    (counter : STEPEventCounter) : STEPPass :=
  if 0 ≤ config.maxEvents ∧ config.maxEvents ≤ counter.getLowestCount then
    ⟨rui, counter, [], .notToBeRescheduled⟩
  else
    let prepared := prepareReading reading rui
    if reading.nBytesRead = 0 then
      ⟨prepared.1, counter, prepared.2.map .call, .extraPauseForOtherThreads⟩
    else
      let started := startSTEPPass reading prepared.1
      let calls := (prepared.2 ++ started.2).map STEPCall.call
      match reading.data with
      | none => ⟨started.1, counter, calls, .noExtraPauseForOtherThreads⟩
      | some block =>
        if block.length = 0 then ⟨started.1, counter, calls, .noExtraPauseForOtherThreads⟩
        else
          let taken := takeSTEPBlock config reading block started.1 counter
          { taken with calls := calls ++ taken.calls }

def Application.Unread (rui : Application) : Prop :=
  rui.nEventsRead = 0 ∧ rui.nReadingPassesInEvent = 0

instance (rui : Application) : Decidable rui.Unread := inferInstanceAs (Decidable (_ ∧ _))

inductive FileUse where
  | none
  | creates
  | writes
  deriving DecidableEq

def STEPCall.fileUse : STEPCall → FileUse
  | .call .createFileWriter => .creates
  | .call (.writeDataWithContextToFile _ _ _) => .writes
  | .writeDataToFile _ _ => .writes
  | .call _ => .none

/-- What a pass does about the run file: nothing as long as nothing is read, and the first time
that something is, it creates the file writer before it writes. -/
inductive OpensFile (before after : Application) : List STEPCall → Prop where
  | idle {calls : List STEPCall} (same : after.Unread ↔ before.Unread)
      (unused : ∀ call ∈ calls, call.fileUse = .none) : OpensFile before after calls
  | first {earlier later : List STEPCall} (unread : before.Unread) (read : ¬ after.Unread)
      (unused : ∀ call ∈ earlier, call.fileUse = .none)
      (created : ∀ call ∈ later, call.fileUse ≠ .creates) :
      OpensFile before after (earlier ++ .call .createFileWriter :: later)
  | further {calls : List STEPCall} (unread : ¬ before.Unread) (read : ¬ after.Unread)
      (created : ∀ call ∈ calls, call.fileUse ≠ .creates) : OpensFile before after calls

variable {config : Config} {reading : Reading} {rui : Application}

lemma prepareReading_unread : (prepareReading reading rui).1.Unread ↔ rui.Unread := by
  unfold prepareReading
  split <;> rfl

lemma prepareReading_unused :
    ∀ call ∈ (prepareReading reading rui).2.map STEPCall.call, call.fileUse = .none := by
  unfold prepareReading
  split
  · simp [STEPCall.fileUse]
  · simp

lemma startPass_read : 0 < (startPass reading rui).1.nReadingPassesInEvent := by
  unfold startPass
  dsimp only
  split <;> exact Nat.succ_pos _

lemma startPass_created : (startPass reading rui).2 =
    if rui.Unread then [.createFileWriter, .sendEventNumberToTA reading.eventNumber] else [] := by
  have first : rui.nEventsRead = 0 ∧ rui.nReadingPassesInEvent + 1 = 1 ↔ rui.Unread := by
    unfold Application.Unread
    omega
  unfold startPass
  simp only [first]
  split <;> rfl

lemma opensFile_started {after taken} (read : ¬ after.Unread)
    (created : ∀ call ∈ taken, call.fileUse ≠ .creates) :
    OpensFile rui after (((prepareReading reading rui).2 ++
      (startPass reading (prepareReading reading rui).1).2).map STEPCall.call ++ taken) := by
  rw [startPass_created, map_append, append_assoc]
  by_cases unread : rui.Unread
  · rw [if_pos (prepareReading_unread.mpr unread)]
    apply OpensFile.first unread read prepareReading_unused
    intro call member
    rcases mem_cons.mp member with rfl | member
    · simp [STEPCall.fileUse]
    · exact created call member
  · rw [if_neg fun fresh => unread (prepareReading_unread.mp fresh)]
    apply OpensFile.further unread read
    intro call member
    rcases mem_append.mp member with member | member
    · rw [prepareReading_unused call member]
      decide
    · exact created call member

lemma takeBlock_read (pool block) (passed : 0 < rui.nReadingPassesInEvent) :
    ¬ (takeBlock config reading pool block rui).rui.Unread := by
  have started : 0 < (startedBy config reading pool block
      (flaggedBy config block rui)).nReadingPassesInEvent := by
    unfold startedBy beforeAppending
    split
    · exact Nat.one_pos
    · exact passed
  rintro ⟨_, none⟩
  by_cases framed : Accepts config pool → pool.dataFrame = true
  · rw [takeBlock_rui _ _ _ _ _ framed, afterAppending_passes] at none
    exact absurd none (Nat.ne_of_gt started)
  · obtain ⟨accepts, unframed⟩ := Classical.not_imp.mp framed
    rw [takeBlock_threw _ _ _ _ _ accepts (by simpa using unframed)] at none
    exact absurd none (Nat.ne_of_gt started)

lemma takeBlock_created (pool block) :
    ∀ call ∈ (takeBlock config reading pool block rui).calls.map STEPCall.call,
      call.fileUse ≠ .creates := by
  rw [takeBlock_calls]
  unfold addCall writeCall
  intro call member
  simp only [map_append, map_cons, cons_append, mem_cons, mem_append] at member
  rcases member with rfl | member | member
  · simp [STEPCall.fileUse]
  · split at member <;> simp_all [STEPCall.fileUse]
  · split at member <;> simp_all [STEPCall.fileUse]

lemma continueConstruction_opensFile (pool) :
    let pass := continueConstructionOfSuperFrag config reading pool rui
    OpensFile rui pass.rui (pass.calls.map STEPCall.call) := by
  have started := @startPass_read reading (prepareReading reading rui).1
  have read : ¬ (startPass reading (prepareReading reading rui).1).1.Unread := by
    rintro ⟨_, none⟩
    omega
  have opened := @opensFile_started reading rui _ [] read (by simp)
  rw [append_nil] at opened
  unfold continueConstructionOfSuperFrag
  split
  · exact .idle Iff.rfl (by simp)
  dsimp only
  split
  · exact .idle prepareReading_unread prepareReading_unused
  split
  · exact opened
  · split
    · exact opened
    · rw [map_append]
      exact opensFile_started (takeBlock_read pool _ started) (takeBlock_created pool _)

lemma takeSTEPBlock_nEventsRead (block counter) :
    (takeSTEPBlock config reading block rui counter).rui.nEventsRead =
      if hasHeader config.inputDataFormat block then rui.nEventsRead + 1 else rui.nEventsRead := by
  unfold takeSTEPBlock
  dsimp only
  generalize (if hasHeader config.inputDataFormat block && !counter.isInitialized then
    counter.initializeCounter (requestedEvents config) block else counter) = initialized
  cases hasHeader config.inputDataFormat block with
  | true =>
    cases (initialized.isNeededEvent block).2 <;> rfl
  | false =>
    cases rui.insideEvent <;> rfl

lemma takeSTEPBlock_read (block counter) (passed : 0 < rui.nReadingPassesInEvent) :
    ¬ (takeSTEPBlock config reading block rui counter).rui.Unread := by
  rintro ⟨unread, none⟩
  rw [takeSTEPBlock_nEventsRead] at unread
  cases header : hasHeader config.inputDataFormat block with
  | true =>
    rw [header] at unread
    exact Nat.succ_ne_zero _ unread
  | false =>
    have kept : (takeSTEPBlock config reading block rui counter).rui.nReadingPassesInEvent =
        rui.nReadingPassesInEvent := by
      unfold takeSTEPBlock
      simp only [header, Bool.false_eq_true, if_false]
      cases rui.insideEvent <;> rfl
    omega

lemma takeSTEPBlock_created (block counter) :
    ∀ call ∈ (takeSTEPBlock config reading block rui counter).calls, call.fileUse ≠ .creates := by
  unfold takeSTEPBlock
  dsimp only
  generalize (if hasHeader config.inputDataFormat block && !counter.isInitialized then
    counter.initializeCounter (requestedEvents config) block else counter) = initialized
  cases hasHeader config.inputDataFormat block with
  | true =>
    cases (initialized.isNeededEvent block).2 <;> cases rui.insideEvent <;>
      simp [STEPCall.fileUse]
  | false =>
    cases rui.insideEvent <;> simp [STEPCall.fileUse]

lemma continueSTEPRun_opensFile (counter) :
    let pass := continueSTEPRun config reading rui counter
    OpensFile rui pass.rui pass.calls := by
  have started := @startPass_read reading (prepareReading reading rui).1
  have read : ¬ (startSTEPPass reading (prepareReading reading rui).1).1.Unread := by
    rintro ⟨_, none⟩
    exact absurd none (Nat.ne_of_gt started)
  have opened := @opensFile_started reading rui _ [] read (by simp)
  rw [append_nil] at opened
  unfold continueSTEPRun
  split
  · exact .idle Iff.rfl (by simp)
  split
  · exact .idle prepareReading_unread prepareReading_unused
  split
  · exact opened
  · split
    · exact opened
    · exact opensFile_started (takeSTEPBlock_read _ counter started)
        (takeSTEPBlock_created _ counter)

end EmuLib.Rui
