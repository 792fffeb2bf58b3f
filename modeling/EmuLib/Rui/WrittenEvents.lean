import Mathlib.Data.List.Flatten
import Mathlib.Data.List.Sublists
import EmuLib.Rui.BadEvents

/-!
What gets into the file of bad events: each block at most once and in order, and of the events
that get there all blocks.
-/

namespace EmuLib.Rui

open GuardedRun RingList EventBufferRing List

variable {Byte : Type*}
variable {writing : Writing}

section

variable (settings : FileSettings) {output : Output Byte} {written : List Byte}

def Writing.Succeeds (writing : Writing) : Prop :=
  writing.eventStarted = true ∧ writing.written = true

def Output.vetoes (output : Output Byte) (newEvent : Bool) (writing : Writing) : Bool :=
  if newEvent && output.rateLimiter then !writing.accepted else output.fileWritingVetoed

lemma writeDataToFile_succeeds (opened : output.fileWriter = some written) (data newEvent)
    (succeeds : writing.Succeeds) :
    (output.writeDataToFile settings data newEvent writing).fileWriter =
      some (if output.vetoes newEvent writing then written else written ++ data) ∧
    (output.writeDataToFile settings data newEvent writing).fileWritingVetoed =
      output.vetoes newEvent writing := by
  obtain ⟨started, written'⟩ := succeeds
  unfold Output.writeDataToFile Output.vetoes
  rw [opened, started, written']
  simp only [Bool.not_true, Bool.and_false, Bool.false_eq_true, if_false, if_true]
  generalize (if newEvent && output.rateLimiter then !writing.accepted
    else output.fileWritingVetoed) = vetoed
  cases vetoed with
  | true => exact ⟨rfl, rfl⟩
  | false => exact ⟨rfl, rfl⟩

lemma writeEvents_succeed (events) {writing}
    (succeed : ∀ turn, (writing turn).Succeeds) (opened : output.fileWriter = some written) :
    ∃ accepted : List (List Byte), accepted.Sublist events ∧
      (output.writeEvents settings events writing).fileWriter =
        some (written ++ accepted.flatten) := by
  induction events generalizing output written writing with
  | nil => exact ⟨[], List.Sublist.refl _, by simpa [Output.writeEvents] using opened⟩
  | cons event rest ih =>
    have first := (writeDataToFile_succeeds settings opened event true
      (succeed 0)).1
    obtain ⟨accepted, sublist, later⟩ := ih (fun turn => succeed (turn + 1)) first
    cases vetoed : output.vetoes true (writing 0) with
    | true =>
      refine ⟨accepted, sublist.cons event, ?_⟩
      simpa [Output.writeEvents, vetoed] using later
    | false =>
      refine ⟨event :: accepted, sublist.cons_cons event, ?_⟩
      simpa [Output.writeEvents, vetoed] using later

end

/-- Things that are read one after the other: some of them are settled, that is, written or
left out, and those after them are in the buffers of the ring. Each is so many bytes. -/
structure Spooled {Item : Type*} (bytes : Item → List Byte) (recording : Recording Byte)
    (settled : List Item) (pending : List (List Item)) (chosen : List Item) : Prop where
  chosen_settled : chosen.Sublist settled
  written : recording.output.fileWriter = some (chosen.flatMap bytes)
  kept : Keeps recording.eventBufferRing (pending.map fun items => items.flatMap bytes)

section

variable {Item : Type*} {bytes : Item → List Byte} {recording : Recording Byte}
  {settled chosen : List Item} {pending : List (List Item)} (settings : FileSettings)

lemma spooled_nonempty (spooled : Spooled bytes recording settled pending chosen) :
    ∀ items ∈ pending, items ≠ [] := by
  intro items member none
  apply spooled.kept.nonempty (items.flatMap bytes) (mem_map_of_mem member)
  rw [none, flatMap_nil]

lemma spool_written (spooled : Spooled bytes recording settled [] chosen) (item newEvent)
    (succeeds : writing.Succeeds) :
    Spooled bytes (recording.writeTrailingContext settings (bytes item) newEvent writing)
      (settled ++ [item]) []
      (if recording.output.vetoes newEvent writing then chosen else chosen ++ [item]) := by
  have result := (writeDataToFile_succeeds settings spooled.written (bytes item)
    newEvent succeeds).1
  constructor
  · split
    · exact spooled.chosen_settled.trans (sublist_append_left _ _)
    · exact spooled.chosen_settled.append (List.Sublist.refl _)
  · rw [Recording.writeTrailingContext, result]
    split
    · rfl
    · simp
  · exact spooled.kept

lemma spool_started (spooled : Spooled bytes recording settled pending chosen) (item)
    (some : bytes item ≠ []) (limited : (bytes item).length ≤ maxBufferSize) :
    ∃ dropped others, pending ++ [[item]] = dropped ++ (others ++ [[item]]) ∧
      Spooled bytes (recording.buffer (bytes item) true) (settled ++ dropped.flatten)
        (others ++ [[item]]) chosen := by
  obtain ⟨fewer, size⟩ : ∃ fewer, recording.eventBufferRing.size = fewer + 1 := by
    refine ⟨recording.eventBufferRing.before.length + recording.eventBufferRing.after.length, ?_⟩
    simp only [Circular.size]
    omega
  have kept := keeps_started spooled.kept some limited
  have window : (pending.map (fun items => items.flatMap bytes) ++ [bytes item]).rtake
      recording.eventBufferRing.size =
        (pending.rtake fewer ++ [[item]]).map fun items => items.flatMap bytes := by
    rw [size, rtake_concat_succ]
    simp [rtake, map_drop]
  refine ⟨pending.take (pending.length - fewer), pending.rtake fewer, ?_, ?_⟩
  · rw [← append_assoc, rtake, take_append_drop]
  · constructor
    · exact spooled.chosen_settled.trans (sublist_append_left _ _)
    · exact spooled.written
    · rw [← window]
      exact kept

lemma spool_continued {others items more data}
    (spooled : Spooled bytes recording settled (others ++ [items]) chosen)
    (longer : more.flatMap bytes = items.flatMap bytes ++ data)
    (limited : recording.eventBufferRing.current.event.length + data.length ≤ maxBufferSize) :
    Spooled bytes (recording.buffer data false) settled (others ++ [more]) chosen := by
  have kept := spooled.kept
  rw [map_append] at kept
  rw [keeps_current kept] at limited
  constructor
  · exact spooled.chosen_settled
  · exact spooled.written
  · rw [map_append, map_singleton, longer]
    exact keeps_continued kept limited

lemma spool_resumed (spooled : Spooled bytes recording settled [] chosen) (item)
    (some : bytes item ≠ []) (limited : (bytes item).length ≤ maxBufferSize) :
    Spooled bytes (recording.buffer (bytes item) false) settled [[item]] chosen := by
  constructor
  · exact spooled.chosen_settled
  · exact spooled.written
  · simp only [map_singleton, flatMap_singleton]
    exact keeps_resumed spooled.kept some limited

lemma spool_buffered (spooled : Spooled bytes recording settled pending chosen) (item)
    (some : bytes item ≠ []) (newEvent : Bool)
    (limited : (if newEvent then 0 else recording.eventBufferRing.current.event.length) +
      (bytes item).length ≤ maxBufferSize) :
    ∃ dropped others, pending.flatten ++ [item] = dropped ++ others.flatten ∧ others ≠ [] ∧
      Spooled bytes (recording.buffer (bytes item) newEvent) (settled ++ dropped) others chosen := by
  cases newEvent with
  | true =>
    simp only [if_true, Nat.zero_add] at limited
    obtain ⟨dropped, others, split, started⟩ := spool_started spooled item some limited
    refine ⟨dropped.flatten, others ++ [[item]], ?_, by simp, started⟩
    have items := congrArg flatten split
    simpa using items
  | false =>
    rcases eq_nil_or_concat pending with rfl | ⟨others, items, rfl⟩
    · have short : (bytes item).length ≤ maxBufferSize := by omega
      refine ⟨[], [[item]], by simp, by simp, ?_⟩
      simpa using spool_resumed spooled item some short
    · simp only [concat_eq_append] at spooled ⊢
      have longer : (items ++ [item]).flatMap bytes = items.flatMap bytes ++ bytes item := by simp
      refine ⟨[], others ++ [items ++ [item]], by simp, by simp, ?_⟩
      simpa using spool_continued spooled longer limited

lemma spool_bad (spooled : Spooled bytes recording settled pending chosen) {writing}
    (succeed : ∀ turn, (writing turn).Succeeds) :
    ∃ more, Spooled bytes (recording.handleBadEvent settings writing)
      (settled ++ pending.flatten) [] more := by
  unfold Recording.handleBadEvent
  dsimp only
  split
  · obtain ⟨accepted, sublist, result⟩ := writeEvents_succeed settings
      (pending.map fun items => items.flatMap bytes) succeed spooled.written
    obtain ⟨taken, within, rfl⟩ := sublist_map_iff.mp sublist
    refine ⟨chosen ++ taken.flatten, ?_, ?_, ?_⟩
    · exact spooled.chosen_settled.append within.flatten
    · rw [keeps_getEventBuffers spooled.kept, result]
      simp [flatMap_def, map_flatten, flatten_flatten, Function.comp_def]
    · exact keeps_emptied _
  · refine ⟨chosen, ?_, ?_, ?_⟩
    · exact spooled.chosen_settled.trans (sublist_append_left _ _)
    · exact spooled.written
    · exact keeps_emptied _

end

section

variable {Item : Type*}

lemma addToLast_snoc (earlier : List (List Item)) (last item) :
    addToLast (earlier ++ [last]) item = earlier ++ [last ++ [item]] := by
  induction earlier with
  | nil => rfl
  | cons first rest ih =>
    cases rest with
    | nil => rfl
    | cons second rest =>
      simp only [cons_append, addToLast] at ih ⊢
      rw [ih]

lemma addToLast_flatten (lists : List (List Item)) (item) :
    (addToLast lists item).flatten = lists.flatten ++ [item] := by
  rcases eq_nil_or_concat lists with rfl | ⟨earlier, last, rfl⟩
  · rfl
  · rw [concat_eq_append, addToLast_snoc]
    simp

end

namespace Tape

variable {settings : FileSettings} {tape : Tape Byte} {reading : ReadingOfBlock Byte}

def newEvent (tape : Tape Byte) (block : BlockRead Byte) : Bool :=
  isNewEvent tape.insideEvent block.header block.trailer

def Untroubled (settings : FileSettings) (tape : Tape Byte) (reading : ReadingOfBlock Byte) :
    Prop :=
  (∀ turn, (reading.writing turn).Succeeds) ∧
  (tape.recording.isInTrailingContext settings = false →
    (if tape.newEvent reading.block then 0
      else tape.recording.eventBufferRing.current.event.length) + reading.block.data.length ≤
        maxBufferSize)

/-- The pass is not cut short within an event; and no block goes to the ring that continues an
event of which the ring has nothing. -/
def Unsplit (settings : FileSettings) (tape : Tape Byte) (reading : ReadingOfBlock Byte) : Prop :=
  (reading.completed = false → tape.insideEvent = !reading.block.trailer) ∧
  ¬ (tape.insideEvent = true ∧ reading.block.header = false ∧
    tape.recording.isInTrailingContext settings = false ∧
    tape.recording.eventBufferRing.current.event = [])

lemma read_trailing (reading) (badOnly : settings.writeBadEventsOnly = true)
    (trailing : tape.recording.isInTrailingContext settings = true) :
    (tape.read settings reading).recording =
      tape.recording.writeTrailingContext settings reading.block.data
        (tape.newEvent reading.block) (reading.writing 0) := by
  simp [read, Recording.writeDataWithContextToFile, badOnly, trailing, newEvent]

lemma read_buffering (reading) (badOnly : settings.writeBadEventsOnly = true)
    (buffering : tape.recording.isInTrailingContext settings = false) :
    (tape.read settings reading).recording =
      if reading.block.isBadEvent then
        (tape.recording.buffer reading.block.data (tape.newEvent reading.block)).handleBadEvent
          settings reading.writing
      else tape.recording.buffer reading.block.data (tape.newEvent reading.block) := by
  simp [read, Recording.writeDataWithContextToFile, badOnly, buffering, newEvent]

lemma buffer_trailing (recording : Recording Byte) (data newEvent) :
    (recording.buffer data newEvent).isInTrailingContext settings =
      recording.isInTrailingContext settings := rfl

lemma read_events_flatten :
    (tape.read settings reading).events.flatten = tape.events.flatten ++ [reading.block.data] := by
  simp only [read]
  split
  · simp
  · exact addToLast_flatten _ _

/-- The blocks that have been read are settled or in the ring, where there are none while the
trailing context is written. -/
def BlocksSpooled (settings : FileSettings) (tape : Tape Byte) : Prop :=
  ∃ settled pending chosen, tape.events.flatten = settled ++ pending.flatten ∧
    Spooled id tape.recording settled pending chosen ∧
    (tape.recording.isInTrailingContext settings = true → pending = [])

lemma blocksSpooled_read (badOnly : settings.writeBadEventsOnly = true) (tape : Tape Byte)
    (reading) (spooled : BlocksSpooled settings tape)
    (untroubled : Untroubled settings tape reading) :
    BlocksSpooled settings (tape.read settings reading) := by
  obtain ⟨settled, pending, chosen, blocks, spooled, empty⟩ := spooled
  obtain ⟨succeed, limited⟩ := untroubled
  unfold BlocksSpooled
  rw [read_events_flatten, blocks]
  cases trailing : tape.recording.isInTrailingContext settings with
  | true =>
    rw [read_trailing reading badOnly trailing]
    cases empty trailing
    have written := spool_written settings spooled reading.block.data
      (tape.newEvent reading.block) (succeed 0)
    refine ⟨settled ++ [reading.block.data], [], _, by simp, written, fun _ => rfl⟩
  | false =>
    rw [read_buffering reading badOnly trailing]
    obtain ⟨dropped, others, split, _, buffered⟩ := spool_buffered spooled reading.block.data
      reading.block.nonempty (tape.newEvent reading.block) (limited trailing)
    have sum : settled ++ pending.flatten ++ [reading.block.data] =
        settled ++ dropped ++ others.flatten := by
      rw [append_assoc, split, append_assoc]
    rw [sum]
    split
    · obtain ⟨more, bad⟩ := spool_bad settings buffered succeed
      exact ⟨_, [], more, by simp, bad, fun _ => rfl⟩
    · refine ⟨settled ++ dropped, others, chosen, rfl, buffered, ?_⟩
      intro still
      simp only [buffer_trailing, trailing, Bool.false_eq_true] at still

def LastWritten (recording : Recording Byte) (settled chosen : List (List (List Byte))) : Prop :=
  ∃ earlier last, settled = earlier ++ [last] ∧
    (recording.output.fileWritingVetoed = true → chosen.Sublist earlier) ∧
    (recording.output.fileWritingVetoed = false →
      ∃ others, chosen = others ++ [last] ∧ others.Sublist earlier)

structure Divided (settings : FileSettings) (tape : Tape Byte)
    (settled : List (List (List Byte))) (pending : List (List (List (List Byte))))
    (chosen : List (List (List Byte))) : Prop where
  events : tape.events = settled ++ pending.flatten
  spooled : Spooled List.flatten tape.recording settled pending chosen
  empty : tape.recording.isInTrailingContext settings = true → pending = []
  last : tape.unfinished = true → pending = [] → LastWritten tape.recording settled chosen

def EventsSpooled (settings : FileSettings) (tape : Tape Byte) : Prop :=
  tape.insideEvent = tape.unfinished ∧ ∃ settled pending chosen,
    Divided settings tape settled pending chosen

section

variable {settled chosen : List (List (List Byte))} {pending : List (List (List (List Byte)))}

lemma lastWritten_started {recording} (settings)
    (spooled : Spooled flatten recording settled [] chosen) (data newEvent) (succeeds : writing.Succeeds) :
    ∃ longer, Spooled flatten
        (recording.writeTrailingContext settings data newEvent writing)
        (settled ++ [[data]]) [] longer ∧
      LastWritten (recording.writeTrailingContext settings data newEvent writing)
        (settled ++ [[data]]) longer := by
  have vetoed := (writeDataToFile_succeeds settings spooled.written data newEvent succeeds).2
  have written := spool_written settings spooled [data] newEvent succeeds
  rw [flatten_singleton] at written
  refine ⟨_, written, settled, [data], rfl, ?_, ?_⟩
  · intro yes
    rw [Recording.writeTrailingContext, vetoed] at yes
    rw [if_pos yes]
    exact spooled.chosen_settled
  · intro no
    rw [Recording.writeTrailingContext, vetoed] at no
    simp only [no]
    exact ⟨chosen, rfl, spooled.chosen_settled⟩

lemma lastWritten_continued {recording} (settings)
    (spooled : Spooled flatten recording settled [] chosen)
    (last : LastWritten recording settled chosen) (data) (succeeds : writing.Succeeds) :
    ∃ longer, Spooled flatten
        (recording.writeTrailingContext settings data false writing)
        (addToLast settled data) [] longer ∧
      LastWritten (recording.writeTrailingContext settings data false writing)
        (addToLast settled data) longer := by
  obtain ⟨result, vetoed⟩ := writeDataToFile_succeeds settings spooled.written data false succeeds
  obtain ⟨earlier, last, rfl, left, taken⟩ := last
  rw [addToLast_snoc]
  have same : recording.output.vetoes false writing = recording.output.fileWritingVetoed := rfl
  rw [same] at result vetoed
  cases veto : recording.output.fileWritingVetoed with
  | true =>
    rw [veto] at result vetoed
    refine ⟨chosen, ⟨?_, result, spooled.kept⟩, earlier, last ++ [data], rfl, ?_, ?_⟩
    · exact (left veto).trans (sublist_append_left _ _)
    · intro _
      exact left veto
    · intro no
      rw [Recording.writeTrailingContext, vetoed] at no
      cases no
  | false =>
    rw [veto] at result vetoed
    obtain ⟨others, rfl, sublist⟩ := taken veto
    refine ⟨others ++ [last ++ [data]], ⟨?_, ?_, spooled.kept⟩, earlier, last ++ [data], rfl,
      ?_, ?_⟩
    · exact sublist.append (List.Sublist.refl _)
    · rw [Recording.writeTrailingContext, result]
      simp
    · intro yes
      rw [Recording.writeTrailingContext, vetoed] at yes
      cases yes
    · intro _
      exact ⟨others, rfl, sublist⟩

lemma divided_trailing (badOnly : settings.writeBadEventsOnly = true)
    (inside : tape.insideEvent = tape.unfinished)
    (divided : Divided settings tape settled pending chosen)
    (trailing : tape.recording.isInTrailingContext settings = true)
    (succeeds : (reading.writing 0).Succeeds) :
    ∃ settled' pending' chosen', Divided settings (tape.read settings reading) settled' pending'
      chosen' := by
  have recorded := read_trailing reading badOnly trailing
  cases divided.empty trailing
  have events := divided.events
  cases starts : tape.startsEvent reading.block with
  | true =>
    obtain ⟨longer, written, last⟩ := lastWritten_started settings divided.spooled
      reading.block.data (tape.newEvent reading.block) succeeds
    refine ⟨settled ++ [[reading.block.data]], [], longer, ?_, ?_, fun _ => rfl, fun _ _ => ?_⟩
    · simp [read, starts, events]
    · rw [recorded]
      exact written
    · rw [recorded]
      exact last
  | false =>
    simp only [startsEvent, Bool.or_eq_false_iff, Bool.not_eq_false'] at starts
    obtain ⟨noHeader, unfinished⟩ := starts
    have continues : tape.newEvent reading.block = false := by
      simp [newEvent, isNewEvent, inside, unfinished, noHeader]
    obtain ⟨longer, written, last⟩ := lastWritten_continued settings divided.spooled
      (divided.last unfinished rfl) reading.block.data succeeds
    rw [continues] at recorded
    refine ⟨addToLast settled reading.block.data, [], longer, ?_, ?_, fun _ => rfl, fun _ _ => ?_⟩
    · simp [read, startsEvent, noHeader, unfinished, events]
    · rw [recorded]
      exact written
    · rw [recorded]
      exact last

lemma divided_buffered (inside : tape.insideEvent = tape.unfinished)
    (divided : Divided settings tape settled pending chosen)
    (buffering : tape.recording.isInTrailingContext settings = false)
    (limited : (if tape.newEvent reading.block then 0
      else tape.recording.eventBufferRing.current.event.length) + reading.block.data.length ≤
        maxBufferSize)
    (unsplit : Unsplit settings tape reading) :
    ∃ settled' pending', (tape.read settings reading).events = settled' ++ pending'.flatten ∧
      pending' ≠ [] ∧
      Spooled flatten
        (tape.recording.buffer reading.block.data (tape.newEvent reading.block)) settled'
        pending' chosen := by
  cases starts : tape.startsEvent reading.block with
  | true =>
    have some : [reading.block.data].flatten ≠ [] := by
      simpa using reading.block.nonempty
    obtain ⟨dropped, others, split, nonempty, buffered⟩ := spool_buffered divided.spooled
      [reading.block.data] some (tape.newEvent reading.block) (by simpa using limited)
    simp only [flatten_singleton] at buffered
    refine ⟨settled ++ dropped, others, ?_, nonempty, buffered⟩
    simp only [read, starts, if_true, divided.events]
    rw [append_assoc, split, append_assoc]
  | false =>
    simp only [startsEvent, Bool.or_eq_false_iff, Bool.not_eq_false'] at starts
    obtain ⟨noHeader, unfinished⟩ := starts
    have continues : tape.newEvent reading.block = false := by
      simp [newEvent, isNewEvent, inside, unfinished, noHeader]
    rw [continues] at limited ⊢
    -- the ring has the first blocks of the event
    have has : tape.recording.eventBufferRing.current.event ≠ [] := by
      intro nothing
      exact unsplit.2 ⟨inside.trans unfinished, noHeader, buffering, nothing⟩
    rcases eq_nil_or_concat pending with rfl | ⟨others, items, rfl⟩
    · exact absurd (keeps_current_nil divided.spooled.kept) has
    · rw [concat_eq_append] at divided
      have nonempty := spooled_nonempty divided.spooled items (by simp)
      obtain ⟨previous, event, rfl⟩ := (eq_nil_or_concat items).resolve_left nonempty
      rw [concat_eq_append] at divided
      have longer : (previous ++ [event ++ [reading.block.data]]).flatMap flatten =
          (previous ++ [event]).flatMap flatten ++ reading.block.data := by simp
      have buffered := spool_continued divided.spooled longer limited
      refine ⟨settled, others ++ [previous ++ [event ++ [reading.block.data]]], ?_, by simp,
        buffered⟩
      have events : tape.events = (settled ++ others.flatten ++ previous) ++ [event] := by
        rw [divided.events]
        simp
      simp only [read, startsEvent, noHeader, unfinished, Bool.not_true, Bool.or_false,
        Bool.false_eq_true, if_false, events, addToLast_snoc]
      simp

lemma eventsSpooled_read (badOnly : settings.writeBadEventsOnly = true) (tape : Tape Byte)
    (reading) (spooled : EventsSpooled settings tape)
    (untroubled : Untroubled settings tape reading) (unsplit : Unsplit settings tape reading) :
    EventsSpooled settings (tape.read settings reading) := by
  obtain ⟨inside, settled, pending, chosen, divided⟩ := spooled
  obtain ⟨succeed, limited⟩ := untroubled
  constructor
  · simp only [read]
    split
    · rfl
    · rename_i short
      exact unsplit.1 (Bool.not_eq_true _ ▸ short)
  · cases trailing : tape.recording.isInTrailingContext settings with
    | true => exact divided_trailing badOnly inside divided trailing (succeed 0)
    | false =>
      obtain ⟨settled', pending', events, nonempty, buffered⟩ := divided_buffered inside divided
        trailing (limited trailing) unsplit
      have recorded := read_buffering reading badOnly trailing
      cases bad : reading.block.isBadEvent with
      | true =>
        rw [bad] at recorded
        obtain ⟨more, handled⟩ := spool_bad settings buffered succeed
        have ended := reading.block.bad_trailer bad
        refine ⟨settled' ++ pending'.flatten, [], more, ?_, ?_, fun _ => rfl, ?_⟩
        · simpa using events
        · rw [recorded]
          exact handled
        · intro unfinished
          simp [read, ended] at unfinished
      | false =>
        rw [bad, if_neg (by simp)] at recorded
        refine ⟨settled', pending', chosen, events, ?_, ?_, ?_⟩
        · rw [recorded]
          exact buffered
        · intro still
          rw [recorded, buffer_trailing, trailing] at still
          cases still
        · intro _ empty
          exact absurd empty nonempty

end

section

lemma configured_empty (recording : Recording Byte)
    (badOnly : settings.writeBadEventsOnly = true) :
    Keeps (configured settings recording).recording.eventBufferRing [] := by
  simp only [configured, Recording.configure, badOnly, if_true]
  exact keeps_emptied _

lemma configured_output (recording : Recording Byte) :
    (configured settings recording).recording.output = recording.output := by
  simp only [configured, Recording.configure]
  split <;> rfl

variable {recording : Recording Byte}

lemma spooled_configured {Item} (bytes : Item → List Byte)
    (badOnly : settings.writeBadEventsOnly = true)
    (opened : recording.output.fileWriter = some []) :
    Spooled bytes (configured settings recording).recording [] [] [] := by
  constructor
  · exact List.Sublist.refl _
  · rw [configured_output]
    exact opened
  · exact configured_empty recording badOnly

lemma blocksSpooled_configured (badOnly : settings.writeBadEventsOnly = true)
    (opened : recording.output.fileWriter = some []) :
    BlocksSpooled settings (configured settings recording) :=
  ⟨[], [], [], rfl, spooled_configured id badOnly opened, fun _ => rfl⟩

lemma eventsSpooled_configured (badOnly : settings.writeBadEventsOnly = true)
    (opened : recording.output.fileWriter = some []) :
    EventsSpooled settings (configured settings recording) := by
  refine ⟨rfl, [], [], [], rfl, spooled_configured flatten badOnly opened, fun _ => rfl, ?_⟩
  intro unfinished
  cases unfinished

lemma run_events_flatten (settings) (tape : Tape Byte)
    (readings) :
    (runFrom (read settings) tape readings).events.flatten =
      tape.events.flatten ++ readings.map fun reading => reading.block.data := by
  induction readings generalizing tape with
  | nil => simp
  | cons reading rest ih =>
    rw [runFrom_cons, ih, read_events_flatten]
    simp

end

/-- The file is made of blocks that have been read, each at most once and in their order; and of
whole events, unless an event is split. -/
theorem written_events (settings : FileSettings) (recording : Recording Byte)
    (badOnly : settings.writeBadEventsOnly = true) (opened : recording.output.fileWriter = some [])
    (readings : List (ReadingOfBlock Byte))
    (untroubled : Guarded (read settings) (Untroubled settings) (configured settings recording)
      readings) :
    (∃ blocks : List (List Byte), blocks.Sublist (readings.map fun reading => reading.block.data) ∧
      (runFrom (read settings) (configured settings recording)
        readings).recording.output.fileWriter = some blocks.flatten) ∧
    (Guarded (read settings) (Unsplit settings) (configured settings recording) readings →
      ∃ events : List (List (List Byte)), events.Sublist
          (runFrom (read settings) (configured settings recording) readings).events ∧
        (runFrom (read settings) (configured settings recording)
          readings).recording.output.fileWriter = some (events.flatMap List.flatten)) := by
  constructor
  · obtain ⟨settled, pending, chosen, blocks, spooled, _⟩ :=
      run_invariant (blocksSpooled_read badOnly) (blocksSpooled_configured badOnly opened)
        untroubled
    refine ⟨chosen, ?_, ?_⟩
    · have read := run_events_flatten settings (configured settings recording) readings
      rw [blocks] at read
      rw [← nil_append (readings.map _), show ([] : List (List Byte)) =
        (configured settings recording).events.flatten from rfl, ← read]
      exact spooled.chosen_settled.trans (sublist_append_left _ _)
    · rw [spooled.written, flatMap_id]
  · intro unsplit
    have guarded := guarded_and.mpr ⟨untroubled, unsplit⟩
    obtain ⟨_, settled, pending, chosen, divided⟩ :=
      run_invariant (fun tape reading spooled met =>
        eventsSpooled_read badOnly tape reading spooled met.1 met.2)
        (eventsSpooled_configured badOnly opened) guarded
    refine ⟨chosen, ?_, divided.spooled.written⟩
    rw [divided.events]
    exact divided.spooled.chosen_settled.trans (sublist_append_left _ _)

def fresh : Recording Nat := ⟨⟨some [], false, false, true, false⟩, .constructed, 0, 0⟩

lemma single_nonempty (byte : Nat) : [byte] ≠ [] := cons_ne_nil byte []

def blockOf (byte : Nat) (header trailer : Bool) : ReadingOfBlock Nat :=
  ⟨⟨[byte], header, trailer, false, single_nonempty byte, nofun⟩, true, fun _ => ⟨true, true, true⟩⟩

def badBlockOf (byte : Nat) : ReadingOfBlock Nat :=
  ⟨⟨[byte], true, true, true, single_nonempty byte, fun _ => rfl⟩, true, fun _ => ⟨true, true, true⟩⟩

def twoEvents : List (ReadingOfBlock Nat) :=
  [badBlockOf 0, blockOf 1 true false, blockOf 2 false true]

theorem written_events_twoEvents : ∃ events : List (List (List Nat)), events.Sublist
      (runFrom (read ⟨true, 1, 1⟩) (configured ⟨true, 1, 1⟩ fresh) twoEvents).events ∧
    (runFrom (read ⟨true, 1, 1⟩) (configured ⟨true, 1, 1⟩ fresh)
      twoEvents).recording.output.fileWriter = some (events.flatMap List.flatten) := by
  refine (written_events ⟨true, 1, 1⟩ fresh rfl rfl twoEvents ?_).2 ?_
  · refine ⟨⟨fun _ => ⟨rfl, rfl⟩, by decide⟩, ⟨fun _ => ⟨rfl, rfl⟩, by decide⟩,
      ⟨fun _ => ⟨rfl, rfl⟩, by decide⟩, trivial⟩
  · refine ⟨⟨by decide, by decide⟩, ⟨by decide, by decide⟩, ⟨by decide, by decide⟩, trivial⟩

/-- No event is to be written after the bad one, but the first block of it is, and its other
block is not. -/
theorem event_split : ¬ ∃ events : List (List (List Nat)), events.Sublist
      (runFrom (read ⟨true, 1, 0⟩) (configured ⟨true, 1, 0⟩ fresh) twoEvents).events ∧
    (runFrom (read ⟨true, 1, 0⟩) (configured ⟨true, 1, 0⟩ fresh)
      twoEvents).recording.output.fileWriter = some (events.flatMap List.flatten) := by
  rintro ⟨chosen, sublist, written⟩
  have incomplete : ∀ chosen ∈ [[[0]], [[1], [2]]].sublists',
      some [0, 1] ≠ some (chosen.flatMap List.flatten) := by decide
  exact incomplete chosen (mem_sublists'.mpr sublist) written

end Tape

end EmuLib.Rui
