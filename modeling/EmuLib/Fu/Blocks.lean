import EmuLib.Fu.Application

/-!
What the filter unit does for one block when the file writer and the network take its calls.
-/

namespace EmuLib.Fu

open Writer Writer.RawDataFile

structure Extended (data : List UInt8) (before after : Option RawDataFile) : Prop where
  usable : ∀ writer ∈ after, writer.Usable
  appended : after.map written = before.map fun writer => writer.written ++ data

structure Progress (before after : Application) (data : List UInt8)
    (released : List (List DataBlock)) (toBU : List BuMessage) (events : Nat) : Prop where
  currentState : after.currentState = before.currentState
  faultDetected : after.faultDetected = before.faultDetected
  CSCConfigId : after.CSCConfigId = before.CSCConfigId
  TFConfigId : after.TFConfigId = before.TFConfigId
  wrapping : SameFixed after.emuEventHeaderTrailer before.emuEventHeaderTrailer
  file : Extended data before.fileWriter after.fileWriter
  released : after.released = before.released ++ released
  toBU : after.toBU = before.toBU ++ toBU
  nbEventsProcessed : after.nbEventsProcessed = before.nbEventsProcessed + events

section

variable {first second third : Option RawDataFile} {before between after : Application}
  {data more : List UInt8} {released moreReleased : List (List DataBlock)}
  {toBU moreToBU : List BuMessage} {events moreEvents : Nat}

lemma Extended.trans (left : Extended data first second) (right : Extended more second third) :
    Extended (data ++ more) first third where
  usable := right.usable
  appended := by
    have both : (second.map written).map (· ++ more) =
        (first.map fun writer => writer.written ++ data).map (· ++ more) :=
      congrArg (Option.map (· ++ more)) left.appended
    rw [Option.map_map] at both
    refine right.appended.trans (both.trans ?_)
    cases first <;> simp

lemma Extended.refl (usable : ∀ writer ∈ first, writer.Usable) : Extended [] first first := by
  constructor
  · exact usable
  · cases first <;> simp

lemma Extended.isSome (extended : Extended data first second) : second.isSome = first.isSome := by
  have same := congrArg Option.isSome extended.appended
  simpa using same

lemma Extended.congr (extended : Extended data first second)
    (same : second.isSome = true → data = more) : Extended more first second where
  usable := extended.usable
  appended := by
    have appended := extended.appended
    cases second with
    | none =>
      cases first with
      | none => rfl
      | some writer => simp at appended
    | some after =>
      rw [← same rfl]
      exact appended

lemma Progress.trans (left : Progress before between data released toBU events)
    (right : Progress between after more moreReleased moreToBU moreEvents) :
    Progress before after (data ++ more) (released ++ moreReleased) (toBU ++ moreToBU)
      (events + moreEvents) where
  currentState := right.currentState.trans left.currentState
  faultDetected := right.faultDetected.trans left.faultDetected
  CSCConfigId := right.CSCConfigId.trans left.CSCConfigId
  TFConfigId := right.TFConfigId.trans left.TFConfigId
  wrapping := right.wrapping.trans left.wrapping
  file := left.file.trans right.file
  released := by rw [right.released, left.released, List.append_assoc]
  toBU := by rw [right.toBU, left.toBU, List.append_assoc]
  nbEventsProcessed := by rw [right.nbEventsProcessed, left.nbEventsProcessed, Nat.add_assoc]

end

variable {fu : Application} {block : DataBlock}

lemma callWriter_writes {call data}
    (writes : ∀ writer ∈ fu.fileWriter, Writes data writer (call writer)) :
    ∃ after, callWriter call fu = { fu with fileWriter := after } ∧
      Extended data fu.fileWriter after := by
  cases found : fu.fileWriter with
  | none =>
    refine ⟨none, ?_, ?_⟩
    · simp only [callWriter, found]
      rw [← found]
    · constructor
      · simp
      · rfl
  | some writer =>
    have wrote := writes writer found
    refine ⟨some (call writer).1, ?_, ?_⟩
    · simp only [callWriter, found, wrote.succeeded, if_true]
    · constructor
      · intro after same
        rw [← Option.some.inj same]
        exact wrote.usable
      · exact congrArg some wrote.appended

def WriterReady (fu : Application) : Prop :=
  ∀ writer ∈ fu.fileWriter,
    if fu.nbEventsProcessed = 0 then writer.currentFile = none else writer.Usable

lemma startEvent_fine (ready : WriterReady fu) :
    ∃ after, startEvent .fine fu = { fu with fileWriter := after } ∧
      Extended [] fu.fileWriter after := by
  unfold startEvent
  by_cases fresh : fu.nbEventsProcessed = 0
  · obtain ⟨opened, inRun, runFile⟩ := @callWriter_writes fu
      (RawDataFile.startNewRun Response.fine.startNewRun) []
      fun writer found => startNewRun_writes (by simpa [fresh] using ready writer found)
    obtain ⟨counted, inEvent, eventFile⟩ := @callWriter_writes { fu with fileWriter := opened }
      (RawDataFile.startNewEvent Response.fine.startNewEvent) []
      fun writer found => startNewEvent_writes (runFile.usable writer found)
    refine ⟨counted, ?_, runFile.trans eventFile⟩
    simp only [fresh, if_true, inRun]
    simpa only [fresh] using inEvent
  · simp only [fresh, if_false]
    exact callWriter_writes fun writer found =>
      startNewEvent_writes (by simpa [fresh] using ready writer found)

def Application.stamped (block : DataBlock) (fu : Application) : EmuEventHeaderTrailer :=
  fu.emuEventHeaderTrailer.stamp block.eventNumber
    (UInt16.ofNat ((block.nbSuperFragmentsInEvent + (word32 - 1)) % word32))
    fu.CSCConfigId fu.TFConfigId

lemma startBlock_fine (ready : WriterReady fu) (first : block.blockIsFirstOfEvent = true) :
    ∃ wrapping file, startBlock .fine block fu =
        { fu with fileWriter := file, emuEventHeaderTrailer := wrapping } ∧
      Extended (fu.stamped block).header.bytes fu.fileWriter file ∧
      (file.isSome = true → wrapping = fu.stamped block) ∧
      SameFixed wrapping fu.emuEventHeaderTrailer := by
  obtain ⟨started, inEvent, eventFile⟩ := startEvent_fine ready
  simp only [startBlock, first, if_true, inEvent, writeHeader]
  cases found : started with
  | none =>
    have absent : fu.fileWriter = none := by
      have same := eventFile.appended
      rw [found] at same
      simpa using same.symm
    refine ⟨fu.emuEventHeaderTrailer, none, rfl, ?_, ?_, SameFixed.refl⟩
    · rw [absent]
      exact ⟨by simp, rfl⟩
    · simp
  | some writer =>
    obtain ⟨file, wrote, headerFile⟩ := @callWriter_writes
      { fu with fileWriter := started, emuEventHeaderTrailer := fu.stamped block }
      (RawDataFile.writeData true (fu.stamped block).header.bytes)
      (fu.stamped block).header.bytes
      fun writer found => writeData_writes (eventFile.usable writer found)
    refine ⟨fu.stamped block, file, ?_, eventFile.trans headerFile, fun _ => rfl, stamp_sameFixed⟩
    simp only [found] at wrote
    exact wrote

def Application.added (block : DataBlock) (fu : Application) : List UInt8 :=
  (if block.superFragmentIsFirstOfEvent then [] else block.payload) ++
    if block.blockIsLastOfEvent then fu.emuEventHeaderTrailer.trailer.bytes else []

lemma writePayload_fine (usable : ∀ writer ∈ fu.fileWriter, writer.Usable) :
    ∃ file clients, writePayload .fine block fu =
        { fu with fileWriter := file, forClients := clients } ∧
      Extended block.payload fu.fileWriter file := by
  obtain ⟨file, wrote, payloadFile⟩ := @callWriter_writes fu
    (RawDataFile.writeData true block.payload) block.payload
    fun writer found => writeData_writes (usable writer found)
  refine ⟨file, fu.forClients ++ [⟨fu.runNumber, fu.runStartUTC, fu.nbEventsProcessed,
    block.positionInEvent, block.payload⟩], ?_, payloadFile⟩
  exact congrArg (addDataForClients block) wrote

lemma endEvent_fine (usable : ∀ writer ∈ fu.fileWriter, writer.Usable) :
    ∃ file, endEvent .fine block fu = { fu with
        fileWriter := file
        nbEventsProcessed := fu.nbEventsProcessed + 1
        toBU := fu.toBU ++ [.discard block.buResourceId, .allocate 1] } ∧
      Extended fu.emuEventHeaderTrailer.trailer.bytes fu.fileWriter file := by
  obtain ⟨file, wrote, trailerFile⟩ := @callWriter_writes fu
    (RawDataFile.writeData true fu.emuEventHeaderTrailer.trailer.bytes)
    fu.emuEventHeaderTrailer.trailer.bytes
    fun writer found => writeData_writes (usable writer found)
  refine ⟨file, ?_, trailerFile⟩
  unfold endEvent
  rw [show Response.fine.trailer = true from rfl, wrote]
  simp [discardAndAllocate, Response.fine]

lemma freed_eq : (if block.blockIsLastOfSuperFragment then
      releaseSuperFragment (appendBlockToSuperFragment block fu)
    else appendBlockToSuperFragment block fu) = { fu with
      superFragment :=
        if block.blockIsLastOfSuperFragment then [] else fu.superFragment ++ [block]
      released := fu.released ++
        if block.blockIsLastOfSuperFragment then [fu.superFragment ++ [block]] else [] } := by
  cases block.blockIsLastOfSuperFragment <;>
    simp [releaseSuperFragment, appendBlockToSuperFragment]

lemma continueBlock_fine (usable : ∀ writer ∈ fu.fileWriter, writer.Usable) :
    ∃ file clients, continueBlock .fine block fu = { fu with
        fileWriter := file
        forClients := clients
        superFragment :=
          if block.blockIsLastOfSuperFragment then [] else fu.superFragment ++ [block]
        released := fu.released ++
          if block.blockIsLastOfSuperFragment then [fu.superFragment ++ [block]] else []
        toBU := fu.toBU ++
          if block.blockIsLastOfEvent then [.discard block.buResourceId, .allocate 1] else []
        nbEventsProcessed :=
          fu.nbEventsProcessed + if block.blockIsLastOfEvent then 1 else 0 } ∧
      Extended (fu.added block) fu.fileWriter file := by
  have written : ∃ file clients, (if block.superFragmentIsFirstOfEvent then fu
        else writePayload .fine block fu) =
          { fu with fileWriter := file, forClients := clients } ∧
      Extended (if block.superFragmentIsFirstOfEvent then [] else block.payload)
        fu.fileWriter file := by
    cases block.superFragmentIsFirstOfEvent with
    | true => exact ⟨fu.fileWriter, fu.forClients, rfl, Extended.refl usable⟩
    | false => exact writePayload_fine usable
  obtain ⟨file, clients, wrote, payloadFile⟩ := written
  simp only [continueBlock, wrote, freed_eq, Application.added]
  cases last : block.blockIsLastOfEvent with
  | false =>
    refine ⟨file, clients, ?_, ?_⟩
    · simp
    · simpa using payloadFile
  | true =>
    obtain ⟨closed, ended, trailerFile⟩ := @endEvent_fine { fu with
      fileWriter := file
      forClients := clients
      superFragment :=
        if block.blockIsLastOfSuperFragment then [] else fu.superFragment ++ [block]
      released := fu.released ++
        if block.blockIsLastOfSuperFragment then [fu.superFragment ++ [block]] else [] } block
      payloadFile.usable
    refine ⟨closed, clients, ?_, ?_⟩
    · simpa only [if_true] using ended
    · simpa only [if_true] using payloadFile.trans trailerFile

lemma continueBlock_progress (usable : ∀ writer ∈ fu.fileWriter, writer.Usable) :
    Progress fu (continueBlock .fine block fu) (fu.added block)
        (if block.blockIsLastOfSuperFragment then [fu.superFragment ++ [block]] else [])
        (if block.blockIsLastOfEvent then [.discard block.buResourceId, .allocate 1] else [])
        (if block.blockIsLastOfEvent then 1 else 0) ∧
      (continueBlock .fine block fu).superFragment =
        (if block.blockIsLastOfSuperFragment then [] else fu.superFragment ++ [block]) ∧
      (continueBlock .fine block fu).emuEventHeaderTrailer = fu.emuEventHeaderTrailer := by
  obtain ⟨file, clients, continued, added⟩ := @continueBlock_fine fu block usable
  rw [continued]
  exact ⟨⟨rfl, rfl, rfl, rfl, SameFixed.refl, added, rfl, rfl, rfl⟩, rfl, rfl⟩

end EmuLib.Fu
