import EmuLib.Lib.GuardedRun
import EmuLib.Rui.Passes

/-!
The stream of events that goes to the readout unit: where event numbers are missing, empty
super-fragments take their place.
-/

namespace EmuLib.Rui

open GuardedRun CyclicNumbers List

/-- The application together with everything that it has put into the queue so far. -/
structure Stream where
  rui : Application
  appended : List Content

def Stream.start : Stream := ⟨configureAction Application.constructed, []⟩

def Stream.pass (config : Config) (stream : Stream) (input : PassInput) : Stream :=
  let after := processAndCommunicate config stream.rui input
  ⟨after, stream.appended ++
    contents (after.superFragBlocks.drop stream.rui.superFragBlocks.length)⟩

def Stream.numbers (stream : Stream) : List Nat := stream.appended.map Prod.fst

def HasRoom (config : Config) (stream : Stream) (input : PassInput) : Prop :=
  input.pool.isHighThresholdExceeded = false ∧ input.pool.dataFrame = true ∧
    ∀ block, TakesBlock config stream.rui input block →
      (missing l1aNumbers (lastNumber stream.rui) input.reading.eventNumber).length ≤
        input.pool.emptyFrames

/-- The number 0 also stands for no previous event, so nothing is inserted after it. -/
def GapDetectable (config : Config) (stream : Stream) (input : PassInput) : Prop :=
  ∀ block, TakesBlock config stream.rui input block →
    hasHeader config.inputDataFormat block = true →
      stream.appended = [] ∨ stream.rui.eventNumber ≠ 0 ∨ input.reading.eventNumber.val ≤ 1

structure InStream (stream : Stream) : Prop where
  counted : Counted stream.rui
  eventNumber_lt : stream.rui.eventNumber < l1aNumbers
  first : stream.appended = [] → lastNumber stream.rui = 0
  last : ∀ number ∈ stream.numbers.getLast?,
    number = stream.rui.eventNumber ∧ number = lastNumber stream.rui

def GoesOn (first second : Nat) : Prop := second = first ∨ Follows l1aNumbers first second

variable {config : Config} {stream : Stream} {input : PassInput} {block : DataBlock}

lemma inStream_start : InStream Stream.start where
  counted inside := absurd inside Bool.false_ne_true
  eventNumber_lt := by decide
  first _ := rfl
  last := by simp [Stream.numbers, Stream.start]

lemma Stream.numbers_eq_nil : stream.numbers = [] ↔ stream.appended = [] := by
  simp [Stream.numbers]

lemma InStream.lastNumber_lt (inStream : InStream stream) :
    lastNumber stream.rui < l1aNumbers := by
  cases found : stream.numbers.getLast? with
  | none =>
    rw [inStream.first (Stream.numbers_eq_nil.mp (getLast?_eq_none_iff.mp found))]
    decide
  | some number =>
    have last := inStream.last number found
    rw [← last.2, last.1]
    exact inStream.eventNumber_lt

lemma insertedBefore_eq (inStream : InStream stream)
    (passedOn : config.passDataOnToRUBuilder = true) (takes : TakesBlock config stream.rui input block)
    (room : HasRoom config stream input) (detectable : GapDetectable config stream input)
    (header : hasHeader config.inputDataFormat block = true) :
    insertedBefore config input.reading input.pool block stream.rui =
      if stream.appended = [] then []
      else missing l1aNumbers (lastNumber stream.rui) input.reading.eventNumber := by
  have whole : (missing l1aNumbers (lastNumber stream.rui) input.reading.eventNumber).take
      input.pool.emptyFrames =
        missing l1aNumbers (lastNumber stream.rui) input.reading.eventNumber :=
    take_of_length_le (room.2.2 block takes)
  simp only [insertedBefore, passedOn, header, Bool.and_self, if_true, insertedNumbers, whole]
  by_cases empty : stream.appended = []
  · simp [empty, inStream.first empty]
  rw [if_neg empty]
  by_cases zero : lastNumber stream.rui = 0
  · rw [zero]
    have some : stream.numbers ≠ [] := fun none => empty (Stream.numbers_eq_nil.mp none)
    have last := inStream.last _ (getLast?_eq_some_getLast some)
    rcases detectable block takes header with none | nonzero | small
    · exact absurd none empty
    · exact absurd (last.1.symm.trans (last.2.trans zero)) nonzero
    · have number : input.reading.eventNumber.val = 0 ∨ input.reading.eventNumber.val = 1 := by omega
      rcases number with number | number <;> simp [missing, number]
  · rw [if_neg zero]

lemma pass_appended (inStream : InStream stream) (passedOn : config.passDataOnToRUBuilder = true)
    (takes : TakesBlock config stream.rui input block) (room : HasRoom config stream input) :
    (stream.pass config input).appended = stream.appended ++
      ((insertedBefore config input.reading input.pool block stream.rui).map
        (fun number => (number, [])) ++
      [(blockNumber config input.reading block stream.rui, block.bytes)]) := by
  have accepts : Accepts config input.pool := by simp [Accepts, passedOn, room.1]
  have taken := taken_contents config input inStream.counted block fun _ => room.2.1
  have dropped : ∀ queue : List Block, ∀ count, contents (queue.drop count) =
      (contents queue).drop count := by simp [contents]
  rw [Stream.pass, takes.process config input inStream.counted]
  simp only [dropped, taken, appendedBlocks, accepts, if_true, contents_fillBlock]
  rw [append_assoc, drop_left' (contents_length _)]

lemma pass_appended_nothing (inStream : InStream stream)
    (idle : ∀ block, ¬ TakesBlock config stream.rui input block) :
    (stream.pass config input).appended = stream.appended ∧
      (stream.pass config input).rui.eventNumber = stream.rui.eventNumber ∧
      lastNumber (stream.pass config input).rui = lastNumber stream.rui := by
  simp only [Stream.pass]
  rcases process_cases config input inStream.counted with ⟨_, sends⟩ | ⟨block, takes, _⟩ |
    ⟨_, _, same⟩
  · rw [sends]
    unfold sendNextPendingBlock
    split
    · simp
    · rename_i rest found
      cases input.posted <;> simp [found, lastNumber]
  · exact absurd takes (idle block)
  · rw [same.superFragBlocks]
    simp [lastNumber, same.inside, same.eventNumber, same.previousEventNumber]

lemma pass_numbers (inStream : InStream stream) (takes : TakesBlock config stream.rui input block)
    (room : HasRoom config stream input) :
    (stream.pass config input).rui.eventNumber =
        blockNumber config input.reading block stream.rui ∧
      lastNumber (stream.pass config input).rui =
        blockNumber config input.reading block stream.rui := by
  have same := (begun_same input inStream.counted).trans (flaggedBy_same config block)
  simp only [Stream.pass]
  rw [takes.process config input inStream.counted, takeBlock_rui _ _ _ _ _ fun _ => room.2.1]
  cases trailer : hasTrailer config.inputDataFormat block <;>
    simp [lastNumber, appendedTo, same.blockNumber]

lemma inStream_pass (inStream : InStream stream) (passedOn : config.passDataOnToRUBuilder = true)
    (room : HasRoom config stream input) : InStream (stream.pass config input) := by
  have counted := counted_process config input inStream.counted
  by_cases idle : ∀ block, ¬ TakesBlock config stream.rui input block
  · obtain ⟨appended, eventNumber, last⟩ := pass_appended_nothing inStream idle
    refine ⟨counted, ?_, ?_, ?_⟩
    · rw [eventNumber]
      exact inStream.eventNumber_lt
    · rw [appended, last]
      exact inStream.first
    · rw [Stream.numbers, appended, eventNumber, last]
      exact inStream.last
  · simp only [not_forall, not_not] at idle
    obtain ⟨block, takes⟩ := idle
    have appended := pass_appended inStream passedOn takes room
    obtain ⟨eventNumber, last⟩ := pass_numbers inStream takes room
    refine ⟨counted, ?_, ?_, ?_⟩
    · rw [eventNumber]
      unfold blockNumber
      split
      · exact input.reading.eventNumber.isLt
      · exact inStream.eventNumber_lt
    · intro none
      simp [appended] at none
    · intro number member
      rw [Stream.numbers, appended, map_append, map_append, ← append_assoc] at member
      simp only [map_cons, map_nil, getLast?_concat, Option.mem_def,
        Option.some.injEq] at member
      rw [eventNumber, last]
      exact ⟨member.symm, member.symm⟩

lemma appended_goesOn (inStream : InStream stream) (passedOn : config.passDataOnToRUBuilder = true)
    (takes : TakesBlock config stream.rui input block) (room : HasRoom config stream input)
    (detectable : GapDetectable config stream input) (some : stream.appended ≠ []) :
    List.IsChain GoesOn (lastNumber stream.rui ::
      (insertedBefore config input.reading input.pool block stream.rui ++
        [blockNumber config input.reading block stream.rui])) := by
  have numbers : stream.numbers ≠ [] := fun none => some (Stream.numbers_eq_nil.mp none)
  have last := inStream.last _ (getLast?_eq_some_getLast numbers)
  cases header : hasHeader config.inputDataFormat block with
  | false =>
    have same : stream.rui.eventNumber = lastNumber stream.rui := last.1.symm.trans last.2
    simp [insertedBefore, blockNumber, header, GoesOn, same]
  | true =>
    rw [insertedBefore_eq inStream passedOn takes room detectable header, if_neg some]
    simp only [blockNumber, header, if_true]
    by_cases same : lastNumber stream.rui = input.reading.eventNumber
    · simp [missing, same, GoesOn]
    · have follows := missing_follows inStream.lastNumber_lt input.reading.eventNumber.isLt same
      exact List.IsChain.imp (fun _ _ => .inr) follows

lemma numbers_goOn (inStream : InStream stream) (passedOn : config.passDataOnToRUBuilder = true)
    (room : HasRoom config stream input) (detectable : GapDetectable config stream input)
    (chain : stream.numbers.IsChain GoesOn) :
    (stream.pass config input).numbers.IsChain GoesOn := by
  by_cases idle : ∀ block, ¬ TakesBlock config stream.rui input block
  · rw [Stream.numbers, (pass_appended_nothing inStream idle).1]
    exact chain
  simp only [not_forall, not_not] at idle
  obtain ⟨block, takes⟩ := idle
  have appended : (stream.pass config input).numbers = stream.numbers ++
      (insertedBefore config input.reading input.pool block stream.rui ++
        [blockNumber config input.reading block stream.rui]) := by
    rw [Stream.numbers, pass_appended inStream passedOn takes room]
    simp [Stream.numbers, Function.comp_def]
  rw [appended]
  by_cases empty : stream.appended = []
  · have none : insertedBefore config input.reading input.pool block stream.rui = [] := by
      simp [insertedBefore, insertedNumbers, inStream.first empty]
    simp [Stream.numbers, empty, none]
  · have later := appended_goesOn inStream passedOn takes room detectable empty
    have numbers : stream.numbers ≠ [] := fun none => empty (Stream.numbers_eq_nil.mp none)
    have last := (inStream.last _ (getLast?_eq_some_getLast numbers)).2
    rw [← dropLast_append_getLast numbers, last] at chain ⊢
    rw [append_assoc]
    exact isChain_split.mpr ⟨chain, later⟩

/-- The numbers of the events in the stream follow one another without a gap, and before
each event exactly the missing ones are inserted. -/
theorem stream_contiguous (config : Config) (inputs : List PassInput)
    (passedOn : config.passDataOnToRUBuilder = true)
    (room : Guarded (Stream.pass config) (HasRoom config) Stream.start inputs)
    (detectable : Guarded (Stream.pass config) (GapDetectable config) Stream.start inputs) :
    let stream := runFrom (Stream.pass config) Stream.start inputs
    stream.numbers.IsChain GoesOn ∧
      ∀ input block, TakesBlock config stream.rui input block →
        HasRoom config stream input → GapDetectable config stream input →
        hasHeader config.inputDataFormat block = true →
        ∀ last ∈ stream.numbers.getLast?,
          (stream.pass config input).appended = stream.appended ++
            ((missing l1aNumbers last input.reading.eventNumber).map (fun number => (number, [])) ++
              [(input.reading.eventNumber.val, block.bytes)]) := by
  intro stream
  have preserved : ∀ current input, InStream current ∧ current.numbers.IsChain GoesOn →
      HasRoom config current input ∧ GapDetectable config current input →
        InStream (current.pass config input) ∧
          (current.pass config input).numbers.IsChain GoesOn := by
    rintro current input ⟨inStream, chain⟩ ⟨hasRoom, found⟩
    exact ⟨inStream_pass inStream passedOn hasRoom,
      numbers_goOn inStream passedOn hasRoom found chain⟩
  have start : InStream Stream.start ∧ Stream.start.numbers.IsChain GoesOn :=
    ⟨inStream_start, by simp [Stream.numbers, Stream.start]⟩
  have invariant : InStream stream ∧ stream.numbers.IsChain GoesOn :=
    run_invariant preserved start (guarded_and.mpr ⟨room, detectable⟩)
  refine ⟨invariant.2, ?_⟩
  intro input block takes hasRoom found header last member
  have some : stream.appended ≠ [] := by
    intro none
    rw [Stream.numbers, none] at member
    simp at member
  have lastHere := (invariant.1.last last member).2
  rw [pass_appended invariant.1 passedOn takes hasRoom,
    insertedBefore_eq invariant.1 passedOn takes hasRoom found header, if_neg some, ← lastHere]
  simp [blockNumber, header]

def roomyPass (eventNumber : Fin 0x1000000) : PassInput :=
  ⟨readOf emptyDDUEvent eventNumber, roomyPool, true⟩

theorem stream_contiguous_twoMissing :
    let stream := runFrom (Stream.pass passingOn) Stream.start
      [roomyPass 1, roomyPass 1, roomyPass 4]
    stream.numbers.IsChain GoesOn ∧
      ∀ input block, TakesBlock passingOn stream.rui input block →
        HasRoom passingOn stream input → GapDetectable passingOn stream input →
        hasHeader passingOn.inputDataFormat block = true →
        ∀ last ∈ stream.numbers.getLast?,
          (stream.pass passingOn input).appended = stream.appended ++
            ((missing l1aNumbers last input.reading.eventNumber).map (fun number => (number, [])) ++
              [(input.reading.eventNumber.val, block.bytes)]) :=
  stream_contiguous passingOn [roomyPass 1, roomyPass 1, roomyPass 4] rfl
    ⟨⟨rfl, rfl, fun _ _ => by decide⟩, ⟨rfl, rfl, fun _ _ => by decide⟩,
      ⟨rfl, rfl, fun _ _ => by decide⟩, trivial⟩
    ⟨fun _ _ _ => Or.inl rfl, fun _ _ _ => Or.inr (Or.inl (by decide)),
      fun _ _ _ => Or.inr (Or.inl (by decide)), trivial⟩

/-- A repeated event number is put into the stream again, and nothing is inserted after an
event with the number 0. -/
theorem stream_not_consecutive :
    ¬ (runFrom (Stream.pass passingOn) Stream.start
        [roomyPass 5, roomyPass 5, roomyPass 5]).numbers.IsChain (Follows l1aNumbers) ∧
      ¬ (runFrom (Stream.pass passingOn) Stream.start
        [roomyPass 0, roomyPass 0, roomyPass 7]).numbers.IsChain (Follows l1aNumbers) := by
  have repeated : (runFrom (Stream.pass passingOn) Stream.start
      [roomyPass 5, roomyPass 5, roomyPass 5]).numbers = [5, 5] := by decide
  have skipped : (runFrom (Stream.pass passingOn) Stream.start
      [roomyPass 0, roomyPass 0, roomyPass 7]).numbers = [0, 7] := by decide
  rw [repeated, skipped]
  simp [Follows, l1aNumbers]

end EmuLib.Rui
