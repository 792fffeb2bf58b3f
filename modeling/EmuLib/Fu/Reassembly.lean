import EmuLib.Fu.Blocks

/-!
The events that the filter unit receives, and what it makes of them: the file, the chains that
it releases, and the messages to the builder unit.
-/

namespace EmuLib.Fu

open Writer Writer.RawDataFile List

structure SuperFragment where
  eventNumber : UInt32
  payloads : List (List UInt8)
  nonempty : payloads ≠ []
  counted : payloads.length < word32

/-- An event as the builder unit sends it; its first super-fragment is the trigger. -/
structure Event where
  buResourceId : UInt32
  superFragments : List SuperFragment
  nonempty : superFragments ≠ []
  counted : superFragments.length < word32

namespace Event

def block (event : Event) (superFragmentNb : Nat) (superFragment : SuperFragment)
    (entry : List UInt8 × Nat) : DataBlock where
  eventNumber := superFragment.eventNumber
  buResourceId := event.buResourceId
  superFragmentNb := superFragmentNb
  nbSuperFragmentsInEvent := event.superFragments.length
  blockNb := entry.2
  nbBlocksInSuperFragment := superFragment.payloads.length
  payload := entry.1

def chain (event : Event) (entry : SuperFragment × Nat) : List DataBlock :=
  entry.1.payloads.zipIdx.map (event.block entry.2 entry.1)

def chains (event : Event) : List (List DataBlock) :=
  event.superFragments.zipIdx.map event.chain

def blocks (event : Event) : List DataBlock := event.chains.flatten

def l1aNumber (event : Event) : UInt32 := (event.superFragments.head event.nonempty).eventNumber

def dduCount (event : Event) : UInt16 := UInt16.ofNat (event.superFragments.length - 1)

def payload (event : Event) : List UInt8 :=
  event.superFragments.tail.flatMap fun superFragment => superFragment.payloads.flatten

end Event

def eventBytes (base : EmuEventHeaderTrailer) (CSCConfigId TFConfigId : UInt32) (event : Event) :
    List UInt8 :=
  let wrapping := base.stamp event.l1aNumber event.dduCount CSCConfigId TFConfigId
  wrapping.header.bytes ++ event.payload ++ wrapping.trailer.bytes

def eventMessages (event : Event) : List BuMessage :=
  [.discard event.buResourceId, .allocate 1]

def continueBlocks (blocks : List DataBlock) (fu : Application) : Application :=
  blocks.foldl (fun current block => continueBlock .fine block current) fu

def processBlocks (blocks : List DataBlock) (fu : Application) : Application :=
  blocks.foldl (fun current block => processDataBlock .fine block current) fu

@[simp] lemma continueBlocks_cons (block rest fu) : continueBlocks (block :: rest) fu =
      continueBlocks rest (continueBlock .fine block fu) := rfl

@[simp] lemma processBlocks_cons (block rest fu) : processBlocks (block :: rest) fu =
      processBlocks rest (continueBlock .fine block (startBlock .fine block fu)) := rfl

lemma processBlocks_append (first second fu) :
    processBlocks (first ++ second) fu = processBlocks second (processBlocks first fu) :=
  foldl_append

lemma continueBlocks_append (first second fu) :
    continueBlocks (first ++ second) fu = continueBlocks second (continueBlocks first fu) :=
  foldl_append

section

variable {event : Event} {superFragment : SuperFragment} {superFragmentNb blockNb : Nat}
  {data : List UInt8}

lemma isLast {index count} (counted : count < word32) (inside : index < count) :
    (index == (count + (word32 - 1)) % word32) = decide (index + 1 = count) := by
  have word : word32 = 0x100000000 := rfl
  have wrapped : (count + (word32 - 1)) % word32 = count - 1 := by
    rw [word] at counted ⊢
    omega
  rw [wrapped]
  by_cases last : index + 1 = count
  · simp [← last]
  · have before : index ≠ count - 1 := by omega
    simp [last, before]

lemma block_ofTrigger {entry} :
    ((event.block superFragmentNb superFragment entry).superFragmentIsFirstOfEvent = true) =
      (superFragmentNb = 0) :=
  Nat.beq_eq_true_eq superFragmentNb 0

lemma block_isLastOfSuperFragment (inside : blockNb < superFragment.payloads.length) :
    (event.block superFragmentNb superFragment (data, blockNb)).blockIsLastOfSuperFragment =
      decide (blockNb + 1 = superFragment.payloads.length) :=
  isLast superFragment.counted inside

lemma block_isLastOfEvent (insideEvent : superFragmentNb < event.superFragments.length)
    (inside : blockNb < superFragment.payloads.length) :
    (event.block superFragmentNb superFragment (data, blockNb)).blockIsLastOfEvent =
      (decide (superFragmentNb + 1 = event.superFragments.length) &&
        decide (blockNb + 1 = superFragment.payloads.length)) := by
  unfold DataBlock.blockIsLastOfEvent
  rw [block_isLastOfSuperFragment inside]
  congr 1
  exact isLast event.counted insideEvent

end

section

variable {fu : Application} {event : Event}

def trailerAfter (event : Event) (superFragmentNb : Nat) (fu : Application) : List UInt8 :=
  if superFragmentNb + 1 = event.superFragments.length then
    fu.emuEventHeaderTrailer.trailer.bytes else []

def messagesAfter (event : Event) (superFragmentNb : Nat) : List BuMessage :=
  if superFragmentNb + 1 = event.superFragments.length then eventMessages event else []

def eventsAfter (event : Event) (superFragmentNb : Nat) : Nat :=
  if superFragmentNb + 1 = event.superFragments.length then 1 else 0

lemma continueBlocks_superFragment {superFragmentNb}
    (insideEvent : superFragmentNb < event.superFragments.length) (superFragment payloads)
    (some : payloads ≠ []) (blockNb)
    (rest : blockNb + payloads.length = superFragment.payloads.length)
    (usable : ∀ writer ∈ fu.fileWriter, writer.Usable) :
    let blocks := (payloads.zipIdx blockNb).map (event.block superFragmentNb superFragment)
    let after := continueBlocks blocks fu
    Progress fu after
        ((if superFragmentNb = 0 then [] else payloads.flatten) ++
          trailerAfter event superFragmentNb fu)
        [fu.superFragment ++ blocks] (messagesAfter event superFragmentNb)
        (eventsAfter event superFragmentNb) ∧
      after.superFragment = [] ∧
      after.emuEventHeaderTrailer = fu.emuEventHeaderTrailer := by
  induction payloads generalizing fu blockNb with
  | nil => exact absurd rfl some
  | cons payload later ih =>
    simp only [length_cons] at rest
    have inside : blockNb < superFragment.payloads.length := by omega
    have step := @continueBlock_progress fu
      (event.block superFragmentNb superFragment (payload, blockNb)) usable
    rw [block_isLastOfSuperFragment inside] at step
    simp only [Application.added, block_isLastOfEvent insideEvent inside] at step
    cases later with
    | nil =>
      have last : blockNb + 1 = superFragment.payloads.length := rest
      simp only [last, decide_true, Bool.and_true, if_true, decide_eq_true_eq] at step
      simpa [continueBlocks, trailerAfter, messagesAfter, eventsAfter, eventMessages,
        DataBlock.superFragmentIsFirstOfEvent, Event.block] using step
    | cons next others =>
      have more : blockNb + 1 ≠ superFragment.payloads.length := by
        simp only [length_cons] at rest
        omega
      simp only [more, decide_false, Bool.and_false, Bool.false_eq_true, if_false,
        append_nil] at step
      obtain ⟨progress, chain, wrapping⟩ := step
      have remaining := ih (cons_ne_nil _ _) (blockNb + 1) (by omega)
        progress.file.usable
      obtain ⟨onwards, emptied, kept⟩ := remaining
      dsimp only
      rw [zipIdx_cons, map_cons, continueBlocks_cons]
      refine ⟨?_, emptied, kept.trans wrapping⟩
      have both := progress.trans onwards
      rw [chain] at both
      have data : (if superFragmentNb = 0 then [] else (payload :: next :: others).flatten) ++
          trailerAfter event superFragmentNb fu =
          (if superFragmentNb = 0 then [] else payload) ++
            ((if superFragmentNb = 0 then [] else (next :: others).flatten) ++
              trailerAfter event superFragmentNb
                (continueBlock .fine
                  (event.block superFragmentNb superFragment (payload, blockNb)) fu)) := by
        simp only [trailerAfter, wrapping]
        split <;> simp
      rw [data]
      simp only [block_ofTrigger, nil_append, Nat.zero_add, append_assoc, singleton_append] at both
      exact both

def payloadWritten (entry : SuperFragment × Nat) : List UInt8 :=
  if entry.2 = 0 then [] else entry.1.payloads.flatten

lemma continueBlocks_event (superFragments) (some : superFragments ≠ []) (superFragmentNb)
    (rest : superFragmentNb + superFragments.length = event.superFragments.length)
    (usable : ∀ writer ∈ fu.fileWriter, writer.Usable) (empty : fu.superFragment = []) :
    let chains := (superFragments.zipIdx superFragmentNb).map event.chain
    let after := continueBlocks chains.flatten fu
    Progress fu after
        ((superFragments.zipIdx superFragmentNb).flatMap payloadWritten ++
          fu.emuEventHeaderTrailer.trailer.bytes)
        chains (eventMessages event) 1 ∧
      after.superFragment = [] := by
  induction superFragments generalizing fu superFragmentNb with
  | nil => exact absurd rfl some
  | cons superFragment later ih =>
    simp only [length_cons] at rest
    have step := @continueBlocks_superFragment fu event superFragmentNb (by omega) superFragment
      superFragment.payloads superFragment.nonempty 0 (Nat.zero_add _) usable
    simp only [empty, nil_append] at step
    obtain ⟨progress, emptied, wrapping⟩ := step
    dsimp only
    rw [zipIdx_cons, map_cons, flatten_cons, continueBlocks_append]
    cases later with
    | nil =>
      have last : superFragmentNb + 1 = event.superFragments.length := rest
      simp only [trailerAfter, messagesAfter, eventsAfter, last, if_true] at progress
      simpa [continueBlocks, payloadWritten, Event.chain] using And.intro progress emptied
    | cons next others =>
      have more : superFragmentNb + 1 ≠ event.superFragments.length := by
        simp only [length_cons] at rest
        omega
      simp only [trailerAfter, messagesAfter, eventsAfter, more, if_false, append_nil] at progress
      obtain ⟨onwards, done⟩ := ih (cons_ne_nil _ _) (superFragmentNb + 1) (by omega)
        progress.file.usable emptied
      refine ⟨?_, done⟩
      have both := progress.trans onwards
      rw [wrapping, ← append_assoc] at both
      exact both

end

section

variable {base : EmuEventHeaderTrailer} {fu : Application} {event : Event}

structure Between (base : EmuEventHeaderTrailer) (fu : Application) : Prop where
  enabled : fu.currentState = .enabled
  noFault : fu.faultDetected = false
  wrapping : SameFixed fu.emuEventHeaderTrailer base
  ready : WriterReady fu
  empty : fu.superFragment = []

lemma processBlocks_inside (blocks)
    (inside : ∀ block ∈ blocks, block.blockIsFirstOfEvent = false) :
    processBlocks blocks fu = continueBlocks blocks fu := by
  induction blocks generalizing fu with
  | nil => rfl
  | cons block rest ih =>
    have first : processDataBlock .fine block fu = continueBlock .fine block fu := by
      simp [processDataBlock, startBlock, inside block mem_cons_self]
    have later := @ih (continueBlock .fine block fu)
      fun other member => inside other (mem_cons_of_mem _ member)
    rw [continueBlocks_cons, ← later, ← first]
    rfl

lemma event_blocks_first : ∃ payload others,
    event.blocks = event.block 0 (event.superFragments.head event.nonempty) (payload, 0) :: others ∧
      ∀ block ∈ others, block.blockIsFirstOfEvent = false := by
  obtain ⟨trigger, later, events⟩ := exists_cons_of_ne_nil event.nonempty
  obtain ⟨payload, payloads, blocks⟩ := exists_cons_of_ne_nil trigger.nonempty
  refine ⟨payload, (payloads.zipIdx 1).map (event.block 0 trigger) ++
    ((later.zipIdx 1).map event.chain).flatten, ?_, ?_⟩
  · simp [Event.blocks, Event.chains, Event.chain, events, blocks]
  · intro block member
    rcases mem_append.mp member with sameFragment | laterFragment
    · obtain ⟨entry, found, rfl⟩ := mem_map.mp sameFragment
      have position := le_snd_of_mem_zipIdx found
      have second : entry.2 ≠ 0 := by omega
      simp [DataBlock.blockIsFirstOfEvent, DataBlock.blockIsFirstOfSuperFragment, Event.block,
        second]
    · simp only [mem_flatten, mem_map] at laterFragment
      obtain ⟨chain, ⟨entry, found, rfl⟩, inChain⟩ := laterFragment
      obtain ⟨data, inFragment, rfl⟩ := mem_map.mp inChain
      have position := le_snd_of_mem_zipIdx found
      have second : entry.2 ≠ 0 := by omega
      simp [DataBlock.blockIsFirstOfEvent, DataBlock.superFragmentIsFirstOfEvent, Event.block,
        second]

lemma stamped_eq (between : Between base fu) (payload) :
    fu.stamped (event.block 0 (event.superFragments.head event.nonempty) (payload, 0)) =
      base.stamp event.l1aNumber event.dduCount fu.CSCConfigId fu.TFConfigId := by
  have count : (event.superFragments.length + (word32 - 1)) % word32 =
      event.superFragments.length - 1 := by
    have some := length_pos_iff.mpr event.nonempty
    have counted := event.counted
    have word : word32 = 0x100000000 := rfl
    rw [word] at counted ⊢
    omega
  refine (stamp_congr between.wrapping).trans ?_
  simp only [Event.block, count]
  rfl

lemma payload_eq : event.superFragments.zipIdx.flatMap payloadWritten = event.payload := by
  obtain ⟨trigger, later, events⟩ := exists_cons_of_ne_nil event.nonempty
  have rest : ∀ superFragmentNb, 0 < superFragmentNb →
      (later.zipIdx superFragmentNb).flatMap payloadWritten =
        later.flatMap fun superFragment => superFragment.payloads.flatten := by
    clear events
    induction later with
    | nil => simp
    | cons superFragment later ih =>
      intro superFragmentNb positive
      have second : superFragmentNb ≠ 0 := by omega
      simp [zipIdx_cons, payloadWritten, second, ih (superFragmentNb + 1) (by omega)]
  simp [Event.payload, events, zipIdx_cons, payloadWritten, rest]

lemma event_progress (between : Between base fu) :
    Progress fu (processBlocks event.blocks fu)
        (eventBytes base fu.CSCConfigId fu.TFConfigId event) event.chains (eventMessages event) 1 ∧
      Between base (processBlocks event.blocks fu) := by
  obtain ⟨payload, others, blocks, inside⟩ := @event_blocks_first event
  have first : (event.block 0 (event.superFragments.head event.nonempty)
      (payload, 0)).blockIsFirstOfEvent = true := rfl
  obtain ⟨wrapping, file, started, headerFile, stamped, same⟩ := startBlock_fine between.ready first
  rw [stamped_eq between] at headerFile stamped
  have processed : processBlocks event.blocks fu =
      continueBlocks event.blocks
        { fu with fileWriter := file, emuEventHeaderTrailer := wrapping } := by
    rw [blocks, processBlocks_cons, started, continueBlocks_cons]
    exact processBlocks_inside others inside
  obtain ⟨progress, empty⟩ := @continueBlocks_event
    { fu with fileWriter := file, emuEventHeaderTrailer := wrapping } event
    event.superFragments event.nonempty 0 (Nat.zero_add _) headerFile.usable between.empty
  rw [payload_eq] at progress
  rw [processed]
  have header : Progress fu { fu with fileWriter := file, emuEventHeaderTrailer := wrapping }
      (base.stamp event.l1aNumber event.dduCount fu.CSCConfigId fu.TFConfigId).header.bytes
      [] [] 0 :=
    ⟨rfl, rfl, rfl, rfl, same, headerFile, (append_nil _).symm, (append_nil _).symm, rfl⟩
  have whole := header.trans progress
  have reassembled : Progress fu (continueBlocks event.blocks
        { fu with fileWriter := file, emuEventHeaderTrailer := wrapping })
      (eventBytes base fu.CSCConfigId fu.TFConfigId event) event.chains
      (eventMessages event) 1 := by
    refine ⟨whole.currentState, whole.faultDetected, whole.CSCConfigId, whole.TFConfigId,
      whole.wrapping, whole.file.congr ?_, whole.released, whole.toBU, whole.nbEventsProcessed⟩
    intro isSome
    rw [progress.file.isSome] at isSome
    rw [stamped isSome, eventBytes, append_assoc]
  refine ⟨reassembled, ?_, ?_, ?_, ?_, empty⟩
  · exact reassembled.currentState.trans between.enabled
  · exact reassembled.faultDetected.trans between.noFault
  · exact reassembled.wrapping.trans between.wrapping
  · intro writer found
    have processed := reassembled.nbEventsProcessed
    rw [if_neg (by omega)]
    exact reassembled.file.usable writer found

structure Reassembled (base : EmuEventHeaderTrailer) (before after : Application)
    (events : List Event) : Prop where
  file : after.fileWriter.map written = before.fileWriter.map fun writer =>
    writer.written ++ events.flatMap (eventBytes base before.CSCConfigId before.TFConfigId)
  released : after.released = before.released ++ events.flatMap Event.chains
  toBU : after.toBU = before.toBU ++ events.flatMap eventMessages
  empty : after.superFragment = []

lemma events_reassembled (events) (between : Between base fu) :
    Reassembled base fu (processBlocks (events.flatMap Event.blocks) fu) events ∧
      Between base (processBlocks (events.flatMap Event.blocks) fu) := by
  induction events generalizing fu with
  | nil =>
    refine ⟨⟨?_, ?_, ?_, between.empty⟩, between⟩
    · simp only [flatMap_nil, append_nil]
      rfl
    · exact (append_nil _).symm
    · exact (append_nil _).symm
  | cons event later ih =>
    obtain ⟨progress, after⟩ := @event_progress base fu event between
    obtain ⟨reassembled, last⟩ := ih after
    rw [flatMap_cons, processBlocks_append]
    refine ⟨⟨?_, ?_, ?_, reassembled.empty⟩, last⟩
    · have both := congrArg (Option.map (· ++ later.flatMap
        (eventBytes base fu.CSCConfigId fu.TFConfigId))) progress.file.appended
      have rest := reassembled.file
      rw [progress.CSCConfigId, progress.TFConfigId] at rest
      rw [Option.map_map] at both
      refine rest.trans (both.trans ?_)
      cases fu.fileWriter <;> simp
    · rw [reassembled.released, progress.released, flatMap_cons, append_assoc]
    · rw [reassembled.toBU, progress.toBU, flatMap_cons, append_assoc]

end

structure Keeps (before after : Application) : Prop where
  faultDetected : after.faultDetected = before.faultDetected
  enabled : after.currentState = .enabled → before.currentState = .enabled

section

variable {before between after fu : Application}

lemma Keeps.trans (left : Keeps before between) (right : Keeps between after) :
    Keeps before after where
  faultDetected := right.faultDetected.trans left.faultDetected
  enabled := left.enabled ∘ right.enabled

lemma callWriter_keeps (call) : Keeps fu (callWriter call fu) := by
  unfold callWriter
  cases fu.fileWriter with
  | none => exact ⟨rfl, id⟩
  | some writer =>
    dsimp only
    split
    · exact ⟨rfl, id⟩
    · constructor
      · rfl
      · intro enabled
        cases enabled

lemma startBlock_keeps (response block) : Keeps fu (startBlock response block fu) := by
  have started : Keeps fu (startEvent response fu) := by
    unfold startEvent
    split
    · exact (callWriter_keeps _).trans (callWriter_keeps _)
    · exact callWriter_keeps _
  have headed : ∀ current, Keeps current (writeHeader response block current) := by
    intro current
    have called := @callWriter_keeps
      { current with emuEventHeaderTrailer := current.stamped block }
      (RawDataFile.writeData response.header (current.stamped block).header.bytes)
    unfold writeHeader
    split
    · exact ⟨called.faultDetected, called.enabled⟩
    · exact ⟨rfl, id⟩
  unfold startBlock
  split
  · exact started.trans (headed _)
  · exact ⟨rfl, id⟩

lemma continueBlock_keeps (response block) : Keeps fu (continueBlock response block fu) := by
  have wrote : Keeps fu (if block.superFragmentIsFirstOfEvent then fu
      else writePayload response block fu) := by
    split
    · exact ⟨rfl, id⟩
    · have called := @callWriter_keeps fu (RawDataFile.writeData response.payload block.payload)
      exact ⟨called.faultDetected, called.enabled⟩
  have ended : ∀ current, Keeps current (endEvent response block current) := by
    intro current
    have called := @callWriter_keeps current
      (RawDataFile.writeData response.trailer current.emuEventHeaderTrailer.trailer.bytes)
    unfold endEvent discardAndAllocate
    split <;> exact ⟨called.faultDetected, called.enabled⟩
  have freed : ∀ current, Keeps current (if block.blockIsLastOfSuperFragment then
      releaseSuperFragment (appendBlockToSuperFragment block current)
    else appendBlockToSuperFragment block current) := by
    intro current
    rw [freed_eq]
    exact ⟨rfl, id⟩
  unfold continueBlock
  dsimp only
  split
  · exact (wrote.trans (freed _)).trans (ended _)
  · exact wrote.trans (freed _)

lemma processBlocks_keeps (blocks) : Keeps fu (processBlocks blocks fu) := by
  induction blocks generalizing fu with
  | nil => exact ⟨rfl, id⟩
  | cons block rest ih =>
    exact ((startBlock_keeps _ block).trans (continueBlock_keeps _ block)).trans ih

def receive (messages : List (List (DataBlock × Response))) (fu : Application) : Application :=
  messages.foldl (fun current chain => I2O_FU_TAKE_Callback chain current) fu

lemma callback_enabled (chain) (fine : ∀ entry ∈ chain, entry.2 = Response.fine)
    (enabled : fu.currentState = .enabled) (noFault : fu.faultDetected = false) :
    I2O_FU_TAKE_Callback chain fu = processBlocks (chain.map Prod.fst) fu := by
  have folded : I2O_FU_TAKE_Callback chain fu =
      chain.foldl (fun current entry => processDataBlock entry.2 entry.1 current) fu := by
    simp [I2O_FU_TAKE_Callback, enabled, noFault]
  rw [folded]
  clear folded enabled noFault
  induction chain generalizing fu with
  | nil => rfl
  | cons entry rest ih =>
    have here := fine entry mem_cons_self
    rw [foldl_cons, here]
    exact ih fun other member => fine other (mem_cons_of_mem _ member)

lemma receive_blocks (messages) (fine : ∀ entry ∈ messages.flatten, entry.2 = Response.fine)
    (noFault : fu.faultDetected = false)
    (enabled : (processBlocks (messages.flatten.map Prod.fst) fu).currentState = .enabled) :
    receive messages fu = processBlocks (messages.flatten.map Prod.fst) fu := by
  induction messages generalizing fu with
  | nil => rfl
  | cons chain later ih =>
    simp only [flatten_cons, map_append, processBlocks_append] at enabled fine ⊢
    have first := @processBlocks_keeps fu (chain.map Prod.fst)
    have rest := @processBlocks_keeps (processBlocks (chain.map Prod.fst) fu)
      (later.flatten.map Prod.fst)
    have received : I2O_FU_TAKE_Callback chain fu = processBlocks (chain.map Prod.fst) fu :=
      callback_enabled chain
        (fun entry member => fine entry (mem_append_left _ member))
        (first.enabled (rest.enabled enabled)) noFault
    have onwards := ih (fun entry member => fine entry (mem_append_right _ member))
      (first.faultDetected.trans noFault) enabled
    rw [← onwards, ← received]
    rfl

end

def outstanding : List BuMessage → Int
  | [] => 0
  | .discard _ :: rest => outstanding rest - 1
  | .allocate nbEvents :: rest => outstanding rest + nbEvents

def start (settings : Settings) (nbOutstandingRqsts : Nat) (fu : Application) : Application :=
  enable nbOutstandingRqsts (configureAction settings fu)

variable {settings : Settings} {nbOutstandingRqsts : Nat} {fu : Application}

lemma outstanding_append (first second) :
    outstanding (first ++ second) = outstanding first + outstanding second := by
  induction first with
  | nil => simp [outstanding]
  | cons message rest ih =>
    cases message <;> simp only [cons_append, outstanding, ih] <;> omega

lemma outstanding_events (events : List Event) :
    outstanding (events.flatMap eventMessages) = 0 := by
  induction events with
  | nil => rfl
  | cons event rest ih =>
    rw [flatMap_cons, outstanding_append, ih]
    rfl

lemma start_between : Between settings.wrapping (start settings nbOutstandingRqsts fu) where
  enabled := rfl
  noFault := rfl
  wrapping := SameFixed.refl
  ready := by
    intro writer found
    simp only [start, enable, configureAction] at found
    split at found
    · simp only [Option.mem_def, Option.some.injEq] at found
      rw [← found]
      rfl
    · simp at found
  empty := by
    simp only [start, enable, configureAction, releaseSuperFragment]
    split
    · assumption
    · rfl

lemma start_written : (start settings nbOutstandingRqsts fu).fileWriter.map written =
    if settings.writesFile then some [] else none := by
  simp only [start, enable, configureAction]
  split <;> rfl

lemma start_configIds : (start settings nbOutstandingRqsts fu).CSCConfigId = fu.CSCConfigId ∧
    (start settings nbOutstandingRqsts fu).TFConfigId = fu.TFConfigId := by
  simp only [start, enable, configureAction, releaseSuperFragment]
  split <;> exact ⟨rfl, rfl⟩

lemma dduCount_toNat (event : Event) :
    event.dduCount.toNat % 0x80 = (event.superFragments.length - 1) % 0x80 := by
  rw [Event.dduCount, UInt16.toNat_ofNat']
  omega

/-- Whatever is received after the start of a run, chained in whatever way: as soon as events
are complete, they are in the file, released and asked for again. -/
lemma start_receive (events messages)
    (wellFormed : messages.flatten.map Prod.fst = events.flatMap Event.blocks)
    (fine : ∀ entry ∈ messages.flatten, entry.2 = Response.fine) :
    Reassembled settings.wrapping (start settings nbOutstandingRqsts fu)
      (receive messages (start settings nbOutstandingRqsts fu)) events := by
  obtain ⟨reassembled, between⟩ := events_reassembled events
    (@start_between settings nbOutstandingRqsts fu)
  rw [← wellFormed] at reassembled between
  rw [receive_blocks messages fine rfl between.enabled]
  exact reassembled

def wrappingOf (settings : Settings) (fu : Application) (event : Event) : EmuEventHeaderTrailer :=
  settings.wrapping.stamp event.l1aNumber event.dduCount fu.CSCConfigId fu.TFConfigId

theorem received_events_reassembled (events : List Event)
    (messages : List (List (DataBlock × Response)))
    (wellFormed : messages.flatten.map Prod.fst = events.flatMap Event.blocks)
    (fine : ∀ entry ∈ messages.flatten, entry.2 = Response.fine) :
    let started := start settings nbOutstandingRqsts fu
    let after := receive messages started
    (after.fileWriter.map written =
      if settings.writesFile then some (events.flatMap fun event =>
        (wrappingOf settings fu event).header.bytes ++ event.payload ++
          (wrappingOf settings fu event).trailer.bytes)
      else none) ∧
    (∀ event ∈ events,
      (wrappingOf settings fu event).header.l1aNumber = event.l1aNumber.toNat % 0x1000000 ∧
      (wrappingOf settings fu event).header.dduCount =
        (event.superFragments.length - 1) % 0x80) ∧
    after.toBU = started.toBU ++
      events.flatMap (fun event => [.discard event.buResourceId, .allocate 1]) ∧
    outstanding after.toBU = outstanding started.toBU ∧
    after.released = started.released ++ events.flatMap Event.chains ∧
    (events.flatMap Event.chains).flatten = messages.flatten.map Prod.fst ∧
    after.superFragment = [] := by
  intro started after
  have reassembled : Reassembled settings.wrapping started after events :=
    start_receive events messages wellFormed fine
  obtain ⟨CSCConfigId, TFConfigId⟩ := @start_configIds settings nbOutstandingRqsts fu
  refine ⟨?_, ?_, reassembled.toBU, ?_, reassembled.released, ?_, reassembled.empty⟩
  · have before := @start_written settings nbOutstandingRqsts fu
    have extended := congrArg (Option.map (· ++ events.flatMap
      (eventBytes settings.wrapping fu.CSCConfigId fu.TFConfigId))) before
    have file := reassembled.file
    rw [CSCConfigId, TFConfigId] at file
    rw [Option.map_map] at extended
    refine file.trans (extended.trans ?_)
    split
    · rfl
    · rfl
  · intro event _
    constructor
    · exact stamp_l1aNumber
    · exact stamp_dduCount.trans (dduCount_toNat event)
  · rw [reassembled.toBU, outstanding_append, outstanding_events, Int.add_zero]
  · rw [wellFormed]
    simp only [List.flatMap, flatten_flatten, map_map]
    rfl

def oneDDU : Event where
  buResourceId := 5
  superFragments :=
    [⟨0x1000002, [[1]], by decide, by decide⟩, ⟨2, [[2, 3], [4]], by decide, by decide⟩]
  nonempty := by decide
  counted := by decide

def writingFile : Settings := ⟨true, 100, false, true⟩

theorem one_ddu_reassembled :
    let started := start writingFile 80 (.constructed 7 8)
    let entries := oneDDU.blocks.map fun block => (block, Response.fine)
    let after := receive [entries.take 1, entries.drop 1] started
    (after.fileWriter.map written =
      some ([oneDDU].flatMap fun event =>
        (wrappingOf writingFile (.constructed 7 8) event).header.bytes ++ event.payload ++
          (wrappingOf writingFile (.constructed 7 8) event).trailer.bytes)) ∧
    after.toBU = started.toBU ++ [.discard 5, .allocate 1] ∧
    after.released = started.released ++ [oneDDU].flatMap Event.chains := by
  intro started entries after
  have reassembled := @received_events_reassembled writingFile 80 (.constructed 7 8) [oneDDU]
    [entries.take 1, entries.drop 1] (by decide) (by decide)
  exact ⟨reassembled.1, reassembled.2.2.1, reassembled.2.2.2.2.1⟩

def manyDDUs : Event where
  buResourceId := 5
  superFragments := List.replicate 129 ⟨2, [[]], by decide, by decide⟩
  nonempty := by simp
  counted := by
    rw [List.length_replicate]
    decide

theorem many_ddus_miscounted :
    let entries := manyDDUs.blocks.map fun block => (block, Response.fine)
    let after := receive [entries] (start writingFile 80 (.constructed 7 8))
    let wrapping := wrappingOf writingFile (.constructed 7 8) manyDDUs
    after.fileWriter.map written =
        some (wrapping.header.bytes ++ manyDDUs.payload ++ wrapping.trailer.bytes) ∧
      wrapping.header.dduCount = 0 ∧ manyDDUs.superFragments.length - 1 = 128 := by
  intro entries after wrapping
  have blocks : [entries].flatten.map Prod.fst = [manyDDUs].flatMap Event.blocks := by
    simp [entries, Function.comp_def]
  have fine : ∀ entry ∈ [entries].flatten, entry.2 = Response.fine := by
    simp [entries]
  have reassembled := @start_receive writingFile 80 (.constructed 7 8) [manyDDUs] [entries]
    blocks fine
  have count : manyDDUs.superFragments.length = 129 := length_replicate
  refine ⟨?_, ?_, ?_⟩
  · have file := reassembled.file
    simp only [flatMap_cons, flatMap_nil, append_nil] at file
    exact file
  · refine stamp_dduCount.trans ((dduCount_toNat manyDDUs).trans ?_)
    rw [count]
  · rw [count]

end EmuLib.Fu
