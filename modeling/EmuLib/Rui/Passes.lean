import EmuLib.Lib.CyclicNumbers
import EmuLib.Rui.Application

/-!
What the parts of a pass do to the queue of blocks and to the event numbers.
-/

namespace EmuLib.Rui

open CyclicNumbers List

def l1aNumbers : Nat := 0x1000000

abbrev Content := Nat × List UInt8

def contents (blocks : List Block) : List Content :=
  blocks.map fun block => (block.eventNumber, block.data)

@[simp] lemma contents_nil : contents [] = [] := rfl

@[simp] lemma contents_append (first second) :
    contents (first ++ second) = contents first ++ contents second := by
  simp [contents]

@[simp] lemma contents_length (blocks) : (contents blocks).length = blocks.length := by
  simp [contents]

@[simp] lemma contents_eq_nil {blocks} : contents blocks = [] ↔ blocks = [] := by
  simp [contents]

@[simp] lemma contents_fillBlock (data eventNumber) :
    contents [fillBlock data eventNumber] = [(eventNumber, data)] := by
  by_cases empty : data = [] <;> simp [contents, fillBlock, empty]

lemma contents_numberBlocks (eventNumber blockCount blocks) :
    contents (numberBlocks eventNumber blockCount blocks).1 = contents blocks := by
  induction blocks generalizing blockCount with
  | nil => rfl
  | cons block rest ih =>
    by_cases same : block.eventNumber = eventNumber
    · simp only [numberBlocks, same, if_true]
      simpa [contents, same] using ih (blockCount + 1)
    · simp only [numberBlocks, same, if_false]
      simpa [contents] using ih blockCount

lemma contents_finalize (rui) :
    contents (finalizeSuperFragment rui).superFragBlocks = contents rui.superFragBlocks := by
  rw [← contents_numberBlocks rui.eventNumber 0 rui.superFragBlocks]
  simp only [finalizeSuperFragment, contents, map_map]
  apply map_congr_left
  intro block _
  simp only [Function.comp_apply]
  split <;> rfl

lemma contents_finalizeIfPassedOn (config rui) :
    contents (finalizeIfPassedOn config rui).superFragBlocks = contents rui.superFragBlocks := by
  unfold finalizeIfPassedOn
  split
  · exact contents_finalize rui
  · rfl

def emptyBlocks (numbers : List Nat) : List Block := numbers.map (fillBlock [])

@[simp] lemma contents_emptyBlocks (numbers) :
    contents (emptyBlocks numbers) = numbers.map fun number => (number, []) := by
  simp [contents, emptyBlocks, fillBlock, Function.comp_def]

def withEmptyEvents (rui : Application) (numbers : List Nat) : Application :=
  { rui with
    superFragBlocks := rui.superFragBlocks ++ emptyBlocks numbers
    nEventsRead := rui.nEventsRead + numbers.length
    previousEventNumber := numbers.getLast?.getD rui.previousEventNumber }

@[simp] lemma withEmptyEvents_nil (rui) : withEmptyEvents rui [] = rui := by
  simp [withEmptyEvents, emptyBlocks]

lemma withEmptyEvents_append (rui first second) :
    withEmptyEvents rui (first ++ second) =
      withEmptyEvents (withEmptyEvents rui first) second := by
  simp only [withEmptyEvents, emptyBlocks, map_append, append_assoc, length_append,
    Nat.add_assoc, getLast?_append, Application.mk.injEq, true_and, and_true]
  cases second.getLast? <;> simp

lemma insertEmptySuperFragments_eq (count eventNumber frames rui) :
    insertEmptySuperFragments count eventNumber frames rui =
      (withEmptyEvents rui ((range' eventNumber count).take frames),
        if count ≤ frames then some (frames - count) else none) := by
  induction count generalizing eventNumber frames rui with
  | zero => simp [insertEmptySuperFragments]
  | succ count ih =>
    cases frames with
    | zero => simp [insertEmptySuperFragments]
    | succ frames =>
      simp only [insertEmptySuperFragments, ih, range'_succ, take_succ_cons,
        Nat.add_le_add_iff_right, Nat.add_sub_add_right]
      rw [← singleton_append, withEmptyEvents_append]
      rfl

def insertedNumbers (frames previousEventNumber eventNumber : Nat) : List Nat :=
  if previousEventNumber = 0 then []
  else (missing l1aNumbers previousEventNumber eventNumber).take frames

lemma ensureContiguousEventNumber_eq (frames rui) :
    ensureContiguousEventNumber frames rui =
      withEmptyEvents rui (insertedNumbers frames rui.previousEventNumber rui.eventNumber) := by
  unfold ensureContiguousEventNumber insertedNumbers
  by_cases first : rui.previousEventNumber = 0
  · simp [first]
  rw [if_neg first, if_neg first]
  unfold missing
  by_cases ahead : rui.previousEventNumber < rui.eventNumber
  · rw [if_pos ahead, if_pos ahead, insertEmptySuperFragments_eq]
  rw [if_neg ahead, if_neg ahead]
  by_cases wrapped : rui.eventNumber < rui.previousEventNumber
  · have upTo : maxL1A - rui.previousEventNumber =
        l1aNumbers - (rui.previousEventNumber + 1) := by
      unfold maxL1A l1aNumbers
      omega
    rw [if_pos wrapped, if_pos wrapped, upTo]
    simp only [insertEmptySuperFragments_eq]
    rw [take_append, length_range', withEmptyEvents_append]
    by_cases enough : l1aNumbers - (rui.previousEventNumber + 1) ≤ frames
    · simp only [enough, if_true]
    · have none : frames - (l1aNumbers - (rui.previousEventNumber + 1)) = 0 := by omega
      simp only [enough, if_false, none, take_zero, withEmptyEvents_nil]
  · simp [wrapped]

section

variable (config : Config) (reading : Reading) (pool : Pool) (block : DataBlock)
  (rui : Application)

def lastNumber : Nat := if rui.insideEvent then rui.eventNumber else rui.previousEventNumber

def blockNumber : Nat :=
  if hasHeader config.inputDataFormat block then reading.eventNumber else rui.eventNumber

def insertedBefore : List Nat :=
  if config.passDataOnToRUBuilder && hasHeader config.inputDataFormat block then
    insertedNumbers pool.emptyFrames (lastNumber rui) reading.eventNumber
  else []

def startedBy : Application :=
  beforeAppending config reading pool (hasHeader config.inputDataFormat block) rui

lemma startEvent_eq : startEvent config reading pool rui =
    { (if config.passDataOnToRUBuilder then
        withEmptyEvents { rui with eventNumber := reading.eventNumber }
          (insertedNumbers pool.emptyFrames rui.previousEventNumber reading.eventNumber)
      else { rui with eventNumber := reading.eventNumber }) with nReadingPassesInEvent := 1 } := by
  simp only [startEvent, ensureContiguousEventNumber_eq]

lemma startedBy_contents : contents (startedBy config reading pool block rui).superFragBlocks =
    contents rui.superFragBlocks ++
      (insertedBefore config reading pool block rui).map fun number => (number, []) := by
  unfold startedBy beforeAppending insertedBefore lastNumber
  cases header : hasHeader config.inputDataFormat block <;>
    cases passed : config.passDataOnToRUBuilder <;> cases inside : rui.insideEvent <;>
      simp [startEvent_eq, passed, withEmptyEvents, abandonEvent, contents_finalizeIfPassedOn]

@[simp] lemma startedBy_eventNumber : (startedBy config reading pool block rui).eventNumber =
    blockNumber config reading block rui := by
  unfold startedBy beforeAppending blockNumber
  cases hasHeader config.inputDataFormat block <;> cases passed : config.passDataOnToRUBuilder <;>
    simp [startEvent_eq, passed, withEmptyEvents]

@[simp] lemma startedBy_pending :
    (startedBy config reading pool block rui).blocksArePendingTransmission =
      rui.blocksArePendingTransmission := by
  unfold startedBy beforeAppending
  cases hasHeader config.inputDataFormat block <;> cases passed : config.passDataOnToRUBuilder <;>
    cases rui.insideEvent <;>
      simp [startEvent_eq, passed, withEmptyEvents, abandonEvent, finalizeIfPassedOn,
        finalizeSuperFragment]

lemma startedBy_counted (counted : rui.insideEvent = true → 0 < rui.nReadingPassesInEvent) :
    (startedBy config reading pool block rui).insideEvent = true →
      0 < (startedBy config reading pool block rui).nReadingPassesInEvent := by
  unfold startedBy beforeAppending
  cases hasHeader config.inputDataFormat block with
  | false => simpa using counted
  | true => simp [startEvent]

@[simp] lemma startedBy_inside :
    (startedBy config reading pool block rui).insideEvent = rui.insideEvent := by
  unfold startedBy beforeAppending
  cases hasHeader config.inputDataFormat block <;> cases passed : config.passDataOnToRUBuilder <;>
    cases inside : rui.insideEvent <;>
      simp [startEvent_eq, passed, inside, withEmptyEvents, abandonEvent, finalizeIfPassedOn,
        finalizeSuperFragment]

def Accepts : Prop := (config.passDataOnToRUBuilder && !pool.isHighThresholdExceeded) = true

instance : Decidable (Accepts config pool) := inferInstanceAs (Decidable (_ = _))

def appendedBlocks (data : List UInt8) (eventNumber : Nat) : List Block :=
  if Accepts config pool then [fillBlock data eventNumber] else []

lemma appendBlockRead_eq (data) (framed : Accepts config pool → pool.dataFrame = true) :
    appendBlockRead config pool data rui =
      some { rui with
        superFragBlocks := rui.superFragBlocks ++ appendedBlocks config pool data rui.eventNumber } := by
  unfold appendBlockRead appendedBlocks
  by_cases accepts : Accepts config pool
  · have frame := framed accepts
    simp only [Accepts] at accepts
    simp [accepts, Accepts, frame, appendNewBlockToSuperFrag]
  · simp only [Accepts] at accepts
    simp [accepts, Accepts]

lemma appendBlockRead_none (data) (accepts : Accepts config pool)
    (unframed : pool.dataFrame = false) : appendBlockRead config pool data rui = none := by
  simp only [Accepts] at accepts
  simp [appendBlockRead, accepts, unframed]

def appendedTo (started : Application) : Application :=
  { started with
    superFragBlocks := started.superFragBlocks ++
      appendedBlocks config pool block.bytes started.eventNumber }

def flaggedBy : Application :=
  { rui with
    errorFlag := rui.errorFlag |||
      (if hasHeader config.inputDataFormat block then 0 else 0x0040) |||
        (if hasTrailer config.inputDataFormat block then 0 else 0x0080) }

lemma takeBlock_rui (framed : Accepts config pool → pool.dataFrame = true) :
    (takeBlock config reading pool block rui).rui =
      afterAppending config (hasTrailer config.inputDataFormat block)
        (appendedTo config pool block
          (startedBy config reading pool block (flaggedBy config block rui))) := by
  have appended := appendBlockRead_eq config pool
    (startedBy config reading pool block (flaggedBy config block rui)) block.bytes framed
  unfold startedBy flaggedBy at appended
  simp only [takeBlock, appended]
  rfl

lemma takeBlock_threw (accepts : Accepts config pool) (unframed : pool.dataFrame = false) :
    (takeBlock config reading pool block rui).rui =
      startedBy config reading pool block (flaggedBy config block rui) := by
  have threw := appendBlockRead_none config pool
    (startedBy config reading pool block (flaggedBy config block rui)) block.bytes accepts unframed
  unfold startedBy flaggedBy at threw
  simp only [takeBlock, threw]
  rfl

def Call.isForClients : Call → Bool
  | .makeClientsLastBlockEndEvent => true
  | .addDataForClients _ _ _ _ => true
  | _ => false

def addCall : List Call :=
  if Accepts config pool ∧ pool.dataFrame = false then []
  else
    [.addDataForClients (takeBlock config reading pool block rui).rui.nEventsRead
      ⟨hasHeader config.inputDataFormat block, hasTrailer config.inputDataFormat block⟩
      (flaggedBy config block rui).errorFlag block.bytes]

def writeCall : Call :=
  let header := hasHeader config.inputDataFormat block
  let trailer := hasTrailer config.inputDataFormat block
  .writeDataWithContextToFile block.bytes (if rui.insideEvent then header else header || trailer)
    (trailer && config.inputDataFormat == .ddu && interestingDDUErrorBitPattern block)

lemma takeBlock_calls : (takeBlock config reading pool block rui).calls =
    writeCall config block rui ::
      (if rui.insideEvent && hasHeader config.inputDataFormat block then
        [.makeClientsLastBlockEndEvent] else []) ++ addCall config reading pool block rui := by
  by_cases unframed : Accepts config pool ∧ pool.dataFrame = false
  · have threw := appendBlockRead_none config pool
      (startedBy config reading pool block (flaggedBy config block rui)) block.bytes
      unframed.1 unframed.2
    unfold startedBy flaggedBy at threw
    rw [addCall, if_pos unframed]
    simp only [takeBlock, threw, append_nil]
    rfl
  · have framed : Accepts config pool → pool.dataFrame = true := by
      simpa using unframed
    have appended := appendBlockRead_eq config pool
      (startedBy config reading pool block (flaggedBy config block rui)) block.bytes framed
    unfold startedBy flaggedBy at appended
    rw [addCall, if_neg unframed]
    simp only [takeBlock, appended, cons_append]
    rfl

lemma afterAppending_contents (trailer) :
    contents (afterAppending config trailer rui).superFragBlocks =
      contents rui.superFragBlocks := by
  unfold afterAppending
  cases trailer <;> simp [endEvent, contents_finalizeIfPassedOn]

@[simp] lemma afterAppending_eventNumber (trailer) :
    (afterAppending config trailer rui).eventNumber = rui.eventNumber := by
  unfold afterAppending endEvent finalizeIfPassedOn
  cases trailer <;> cases passed : config.passDataOnToRUBuilder <;>
    simp [finalizeSuperFragment]

@[simp] lemma afterAppending_previous (trailer) :
    (afterAppending config trailer rui).previousEventNumber =
      if trailer then rui.eventNumber else rui.previousEventNumber := by
  cases trailer <;> rfl

@[simp] lemma afterAppending_inside (trailer) :
    (afterAppending config trailer rui).insideEvent = !trailer := by
  cases trailer <;> rfl

@[simp] lemma afterAppending_passes (trailer) :
    (afterAppending config trailer rui).nReadingPassesInEvent = rui.nReadingPassesInEvent := by
  unfold afterAppending endEvent finalizeIfPassedOn
  cases trailer <;> cases passed : config.passDataOnToRUBuilder <;>
    simp [finalizeSuperFragment]

end

section

variable (config : Config) (rui : Application) (input : PassInput)

def Counted : Prop := rui.insideEvent = true → 0 < rui.nReadingPassesInEvent

structure TakesBlock (block : DataBlock) : Prop where
  notPending : rui.blocksArePendingTransmission = false
  goesOn : ¬ (0 ≤ config.maxEvents ∧ config.maxEvents ≤ rui.nEventsRead)
  readBytes : input.reading.nBytesRead ≠ 0
  data : input.reading.data = some block
  nonempty : block.length ≠ 0

def begun : Application := (startPass input.reading (prepareReading input.reading rui).1).1

structure SameStream (before after : Application) : Prop where
  superFragBlocks : after.superFragBlocks = before.superFragBlocks
  pending : after.blocksArePendingTransmission = before.blocksArePendingTransmission
  eventNumber : after.eventNumber = before.eventNumber
  previousEventNumber : after.previousEventNumber = before.previousEventNumber
  inside : after.insideEvent = before.insideEvent
  passes : before.nReadingPassesInEvent ≤ after.nReadingPassesInEvent
  nEventsRead : after.nEventsRead = before.nEventsRead

variable {rui}

lemma prepareReading_same (reading) : SameStream rui (prepareReading reading rui).1 := by
  unfold prepareReading
  split <;> exact ⟨rfl, rfl, rfl, rfl, rfl, le_rfl, rfl⟩

lemma begun_same (counted : Counted rui) : SameStream rui (begun rui input) := by
  have prepared := @prepareReading_same rui input.reading
  unfold begun startPass
  dsimp only
  split
  · have outside : rui.insideEvent = false := by
      by_contra inside
      have passed := counted (by simpa using inside)
      have none := prepared.passes
      omega
    exact ⟨prepared.superFragBlocks, prepared.pending, prepared.eventNumber,
      prepared.previousEventNumber, outside.symm, Nat.le_succ_of_le prepared.passes,
      prepared.nEventsRead⟩
  · exact ⟨prepared.superFragBlocks, prepared.pending, prepared.eventNumber,
      prepared.previousEventNumber, prepared.inside, Nat.le_succ_of_le prepared.passes,
      prepared.nEventsRead⟩

lemma begun_passes : 0 < (begun rui input).nReadingPassesInEvent := by
  unfold begun startPass
  dsimp only
  split <;> exact Nat.succ_pos _

lemma flaggedBy_same (block) : SameStream rui (flaggedBy config block rui) :=
  ⟨rfl, rfl, rfl, rfl, rfl, le_rfl, rfl⟩

lemma SameStream.trans {first second third} (early : SameStream first second)
    (late : SameStream second third) : SameStream first third where
  superFragBlocks := late.superFragBlocks.trans early.superFragBlocks
  pending := late.pending.trans early.pending
  eventNumber := late.eventNumber.trans early.eventNumber
  previousEventNumber := late.previousEventNumber.trans early.previousEventNumber
  inside := late.inside.trans early.inside
  passes := le_trans early.passes late.passes
  nEventsRead := late.nEventsRead.trans early.nEventsRead

lemma SameStream.insertedBefore {before after} (same : SameStream before after)
    (reading pool block) :
    insertedBefore config reading pool block after =
      insertedBefore config reading pool block before := by
  simp only [Rui.insertedBefore, lastNumber, same.inside, same.eventNumber,
    same.previousEventNumber]

lemma SameStream.blockNumber {before after} (same : SameStream before after) (reading block) :
    blockNumber config reading block after = blockNumber config reading block before := by
  simp only [Rui.blockNumber, same.eventNumber]

lemma taken_contents (counted : Counted rui) (block)
    (framed : Accepts config input.pool → input.pool.dataFrame = true) :
    contents (takeBlock config input.reading input.pool block (begun rui input)).rui.superFragBlocks =
      contents rui.superFragBlocks ++
        (insertedBefore config input.reading input.pool block rui).map (fun number => (number, [])) ++
        contents (appendedBlocks config input.pool block.bytes
          (blockNumber config input.reading block rui)) := by
  have same := (begun_same input counted).trans (flaggedBy_same config block)
  rw [takeBlock_rui _ _ _ _ _ framed, afterAppending_contents]
  simp only [appendedTo, contents_append, startedBy_contents, startedBy_eventNumber]
  rw [same.insertedBefore, same.blockNumber, same.superFragBlocks]

lemma taken_counted (block) :
    Counted (takeBlock config input.reading input.pool block (begun rui input)).rui := by
  have started := startedBy_counted config input.reading input.pool block
    (flaggedBy config block (begun rui input)) fun _ => begun_passes input
  by_cases framed : Accepts config input.pool → input.pool.dataFrame = true
  · rw [takeBlock_rui _ _ _ _ _ framed]
    intro _
    rw [afterAppending_passes]
    unfold startedBy beforeAppending
    split
    · exact Nat.one_pos
    · exact begun_passes input
  · simp only [not_forall, Bool.not_eq_true] at framed
    obtain ⟨accepts, unframed⟩ := framed
    rw [takeBlock_threw _ _ _ _ _ accepts unframed]
    exact started

lemma prepareReading_calls (reading) :
    ∀ call ∈ (prepareReading reading rui).2, call.isForClients = false := by
  unfold prepareReading
  split
  · simp [Call.isForClients]
  · simp

lemma startPass_calls (reading) :
    ∀ call ∈ (startPass reading rui).2, call.isForClients = false := by
  unfold startPass
  dsimp only
  split
  · simp [Call.isForClients]
  · simp

lemma continue_cases (counted : Counted rui) (notPending : rui.blocksArePendingTransmission = false) :
    let pass := continueConstructionOfSuperFrag config input.reading input.pool rui
    (∃ block, TakesBlock config rui input block ∧
      let taken := takeBlock config input.reading input.pool block (begun rui input)
      pass.rui = taken.rui ∧ pass.outcome = taken.outcome ∧
        ∃ before, pass.calls = before ++ taken.calls ∧ ∀ call ∈ before, call.isForClients = false) ∨
    ((∀ block, ¬ TakesBlock config rui input block) ∧ SameStream rui pass.rui ∧
      pass.outcome ≠ .threw ∧ ∀ call ∈ pass.calls, call.isForClients = false) := by
  have quiet : ∀ call ∈ (prepareReading input.reading rui).2 ++
      (startPass input.reading (prepareReading input.reading rui).1).2,
        call.isForClients = false := by
    intro call member
    rcases mem_append.mp member with member | member
    · exact prepareReading_calls input.reading call member
    · exact startPass_calls input.reading call member
  unfold continueConstructionOfSuperFrag
  by_cases stops : 0 ≤ config.maxEvents ∧ config.maxEvents ≤ rui.nEventsRead
  · rw [if_pos stops]
    exact .inr ⟨fun block takes => takes.goesOn stops,
      ⟨rfl, rfl, rfl, rfl, rfl, le_rfl, rfl⟩, by simp, by simp⟩
  rw [if_neg stops]
  by_cases noBytes : input.reading.nBytesRead = 0
  · simp only [noBytes, if_true]
    exact .inr ⟨fun block takes => takes.readBytes noBytes,
      prepareReading_same input.reading, by simp, prepareReading_calls input.reading⟩
  simp only [noBytes, if_false]
  cases data : input.reading.data with
  | none =>
    refine .inr ⟨fun block takes => ?_, begun_same input counted, by simp, quiet⟩
    have found := takes.data
    simp [data] at found
  | some block =>
    by_cases empty : block.length = 0
    · simp only [empty, if_true]
      refine .inr ⟨fun other takes => ?_, begun_same input counted, by simp, quiet⟩
      have found := takes.data
      simp only [data, Option.some.injEq] at found
      subst found
      exact takes.nonempty empty
    · simp only [empty, if_false]
      exact .inl ⟨block, ⟨notPending, stops, noBytes, data, empty⟩, rfl, rfl, _, rfl, quiet⟩

lemma process_cases (counted : Counted rui) :
    (rui.blocksArePendingTransmission = true ∧
        processAndCommunicate config rui input =
          (sendNextPendingBlock input.posted rui).getD rui) ∨
      (∃ block, TakesBlock config rui input block ∧
        processAndCommunicate config rui input =
          (takeBlock config input.reading input.pool block (begun rui input)).rui) ∨
      (rui.blocksArePendingTransmission = false ∧ (∀ block, ¬ TakesBlock config rui input block) ∧
        SameStream rui (processAndCommunicate config rui input)) := by
  unfold processAndCommunicate
  by_cases pending : rui.blocksArePendingTransmission = true
  · exact .inl ⟨pending, if_pos pending⟩
  have notPending : rui.blocksArePendingTransmission = false := by simpa using pending
  refine .inr ?_
  rw [if_neg pending]
  rcases continue_cases config input counted notPending with ⟨block, takes, taken, _⟩ |
    ⟨idle, same, _⟩
  · exact .inl ⟨block, takes, taken⟩
  · exact .inr ⟨notPending, idle, same⟩

lemma TakesBlock.unique {block other} (takes : TakesBlock config rui input block)
    (takesOther : TakesBlock config rui input other) : block = other := by
  have same := takes.data.symm.trans takesOther.data
  exact Option.some.inj same

lemma TakesBlock.process {block} (counted : Counted rui)
    (takes : TakesBlock config rui input block) : processAndCommunicate config rui input =
      (takeBlock config input.reading input.pool block (begun rui input)).rui := by
  rcases process_cases config input counted with ⟨pending, _⟩ | ⟨other, takesOther, taken⟩ |
    ⟨_, idle, _⟩
  · rw [takes.notPending] at pending
    exact absurd pending Bool.false_ne_true
  · rw [taken, takes.unique config input takesOther]
  · exact absurd takes (idle block)

lemma counted_process (counted : Counted rui) :
    Counted (processAndCommunicate config rui input) := by
  rcases process_cases config input counted with ⟨_, sends⟩ | ⟨block, _, takes⟩ | ⟨_, _, same⟩
  · rw [sends]
    unfold sendNextPendingBlock
    split
    · exact counted
    · split <;> exact counted
  · rw [takes]
    exact taken_counted config input block
  · intro inside
    rw [same.inside] at inside
    exact lt_of_lt_of_le (counted inside) same.passes

end

def passingOn : Config := ⟨true, .ddu, -1⟩

def emptyDDUEvent : DataBlock where
  length := 48
  byte := fun offset =>
    if offset = 7 then 0x50
    else if offset = 11 ∨ offset = 15 ∨ offset = 25 ∨ offset = 27 ∨ offset = 31 then 0x80
    else if offset = 12 then 0x01
    else if offset = 28 ∨ offset = 29 then 0xff
    else if offset = 47 then 0xa0
    else 0

def readOf (block : DataBlock) (eventNumber : Fin 0x1000000) : Reading :=
  ⟨true, block.length, 0, some block, eventNumber⟩

def roomyPool : Pool := ⟨false, l1aNumbers, true⟩

def fullPool : Pool := ⟨true, l1aNumbers, true⟩

end EmuLib.Rui
