import EmuLib.Rui.WrittenEvents

/-!
The events before and after a bad event that get into the file with it: those that are, and
those that were asked for.
-/

namespace EmuLib.Rui

open GuardedRun RingList EventBufferRing List

variable {Byte : Type*}

abbrev Datum (Byte : Type*) := { data : List Byte // data ≠ [] }

structure Event (Byte : Type*) where
  first : Datum Byte
  rest : List (Datum Byte)
  isBad : Bool

def joined (blocks : List (Datum Byte)) : List Byte := blocks.flatMap Subtype.val

def Event.bytes (event : Event Byte) : List Byte := event.first.1 ++ joined event.rest

/-- What is written on account of a bad event: those before it, the bad one, and those after it. -/
structure Stretch (Byte : Type*) where
  leading : List (List Byte)
  bad : List Byte
  trailing : List (List Byte)
  deriving DecidableEq

def Stretch.written (stretch : Stretch Byte) : List Byte :=
  stretch.leading.flatten ++ stretch.bad ++ stretch.trailing.flatten

def written (stretches : List (Stretch Byte)) : List Byte := stretches.flatMap Stretch.written

def trail : List (Stretch Byte) → List Byte → List (Stretch Byte)
  | [], _ => []
  | [last], piece => [{ last with trailing := last.trailing ++ [piece] }]
  | first :: next :: rest, piece => first :: trail (next :: rest) piece

/-- The context of bad events as it is asked for: `since` are the events since the last stretch,
and `window` is how many events are still to be written after the last bad one. -/
structure Asked (Byte : Type*) where
  stretches : List (Stretch Byte)
  since : List (List Byte)
  window : Nat
  badEventCount : Nat

def Asked.configured : Asked Byte := ⟨[], [], 0, 0⟩

def Asked.read (settings : FileSettings) (asked : Asked Byte) (event : Event Byte) : Asked Byte :=
  if 0 < asked.window then
    { asked with stretches := trail asked.stretches event.bytes, window := asked.window - 1 }
  else if event.isBad then
    let counted := (asked.badEventCount + 1) % word64
    if passesPrescaling counted then
      ⟨asked.stretches ++
          [⟨asked.since.rtake settings.nToWriteBeforeBadEvent, event.bytes, []⟩],
        [], settings.nToWriteAfterBadEvent, counted⟩
    else { asked with since := asked.since ++ [event.bytes], badEventCount := counted }
  else { asked with since := asked.since ++ [event.bytes] }

/-- What the application does with whole events: `kept` are the events in the ring. -/
structure Walk (Byte : Type*) where
  stretches : List (Stretch Byte)
  kept : List (List Byte)
  countSinceBadEvent : Nat
  badEventCount : Nat

namespace Walk

def configured (settings : FileSettings) : Walk Byte :=
  ⟨[], [], settings.nToWriteAfterBadEvent + 1, 0⟩

def handleBadEvent (walk : Walk Byte) : Walk Byte :=
  let counted := (walk.badEventCount + 1) % word64
  if passesPrescaling counted then
    ⟨walk.stretches ++ [⟨walk.kept.dropLast, walk.kept.getLast?.getD [], []⟩], [], 0, counted⟩
  else { walk with kept := [], badEventCount := counted }

def handleIfBad (isBad : Bool) (walk : Walk Byte) : Walk Byte :=
  if isBad then walk.handleBadEvent else walk

/-- With a ring of this size. Of the event after the last one to be written, the first block is
written all the same, and the rest goes to the ring. -/
def read (settings : FileSettings) (size : Nat) (walk : Walk Byte) (event : Event Byte) :
    Walk Byte :=
  if walk.countSinceBadEvent ≤ settings.nToWriteAfterBadEvent then
    let counted := { walk with countSinceBadEvent := walk.countSinceBadEvent + 1 }
    if counted.countSinceBadEvent ≤ settings.nToWriteAfterBadEvent ∨ event.rest = [] then
      { counted with stretches := trail walk.stretches event.bytes }
    else
      handleIfBad event.isBad { counted with
        stretches := trail walk.stretches event.first.1
        kept := [joined event.rest] }
  else
    handleIfBad event.isBad { walk with kept := (walk.kept ++ [event.bytes]).rtake size }

end Walk

/-- The first bad event has as many events before it in the ring as are asked for, and no more
events after it than are asked for. -/
def AsConfigured (settings : FileSettings) (size : Nat) (events : List (Event Byte)) : Prop :=
  ∀ earlier bad later, events = earlier ++ bad :: later → bad.isBad = true →
    (∀ event ∈ earlier, event.isBad = false) →
      min (size - 1) earlier.length = min settings.nToWriteBeforeBadEvent earlier.length ∧
        later.length ≤ settings.nToWriteAfterBadEvent

variable {walk : Walk Byte}

section

variable (settings : FileSettings) {size : Nat}

def walkOver (settings : FileSettings) (size : Nat) (events : List (Event Byte)) : Walk Byte :=
  runFrom (Walk.read settings size) (.configured settings) events

def askedFor (settings : FileSettings) (events : List (Event Byte)) : Asked Byte :=
  runFrom (Asked.read settings) .configured events

variable {quiet : List (Event Byte)}

lemma walkOver_quiet (positive : 0 < size) (good : ∀ event ∈ quiet, event.isBad = false) :
    walkOver settings size quiet = ⟨[], (quiet.map Event.bytes).rtake size,
      settings.nToWriteAfterBadEvent + 1, 0⟩ := by
  induction quiet using reverseRecOn with
  | nil => simp [walkOver, Walk.configured]
  | append_singleton quiet event ih =>
    have before := ih fun other member => good other (mem_append_left _ member)
    have isGood := good event (mem_append_right _ (mem_singleton_self _))
    unfold walkOver at before ⊢
    rw [runFrom_append, before, runFrom_cons, runFrom_nil]
    have past : ¬ settings.nToWriteAfterBadEvent + 1 ≤ settings.nToWriteAfterBadEvent := by omega
    simp only [Walk.read, past, if_false, Walk.handleIfBad, isGood, Bool.false_eq_true,
      rtake_snoc _ _ positive, map_append, map_cons, map_nil]

lemma askedFor_quiet (good : ∀ event ∈ quiet, event.isBad = false) :
    askedFor settings quiet = ⟨[], quiet.map Event.bytes, 0, 0⟩ := by
  induction quiet using reverseRecOn with
  | nil => rfl
  | append_singleton quiet event ih =>
    have before := ih fun other member => good other (mem_append_left _ member)
    have isGood := good event (mem_append_right _ (mem_singleton_self _))
    unfold askedFor at before ⊢
    rw [runFrom_append, before]
    simp [Asked.read, isGood]

variable {bad : Event Byte}

lemma walkOver_bad (positive : 0 < size) (good : ∀ event ∈ quiet, event.isBad = false)
    (isBad : bad.isBad = true) :
    walkOver settings size (quiet ++ [bad]) =
      ⟨[⟨(quiet.map Event.bytes).rtake (size - 1), bad.bytes, []⟩], [], 0, 1⟩ := by
  have before := walkOver_quiet settings positive good
  obtain ⟨fewer, rfl⟩ : ∃ fewer, size = fewer + 1 := ⟨size - 1, by omega⟩
  have past : ¬ settings.nToWriteAfterBadEvent + 1 ≤ settings.nToWriteAfterBadEvent := by omega
  have passes : passesPrescaling ((0 + 1) % word64) = true := by decide
  unfold walkOver at before ⊢
  rw [runFrom_append, before, runFrom_cons]
  simp only [Walk.read, past, if_false, Walk.handleIfBad, isBad, if_true, Walk.handleBadEvent,
    passes, rtake_snoc _ _ positive, rtake_concat_succ, Nat.add_sub_cancel]
  simp [word64]

lemma askedFor_bad (good : ∀ event ∈ quiet, event.isBad = false) (isBad : bad.isBad = true) :
    askedFor settings (quiet ++ [bad]) =
      ⟨[⟨(quiet.map Event.bytes).rtake settings.nToWriteBeforeBadEvent, bad.bytes, []⟩], [],
        settings.nToWriteAfterBadEvent, 1⟩ := by
  have before := askedFor_quiet settings good
  have passes : passesPrescaling ((0 + 1) % word64) = true := by decide
  unfold askedFor at before ⊢
  rw [runFrom_append, before, runFrom_cons]
  simp only [Asked.read, Nat.lt_irrefl, if_false, isBad, if_true, passes]
  simp [word64]

variable {stretch : Stretch Byte} {later : List (Event Byte)}

lemma walk_trailing {count badEventCount}
    (few : count + later.length ≤ settings.nToWriteAfterBadEvent) :
    runFrom (Walk.read settings size) ⟨[stretch], [], count, badEventCount⟩ later =
      ⟨[{ stretch with trailing := stretch.trailing ++ later.map Event.bytes }], [],
        count + later.length, badEventCount⟩ := by
  induction later generalizing stretch count with
  | nil => simp
  | cons event rest ih =>
    rw [length_cons] at few
    have within : count ≤ settings.nToWriteAfterBadEvent := by omega
    have whole : count + 1 ≤ settings.nToWriteAfterBadEvent := by omega
    simp only [runFrom_cons, Walk.read, within, if_true, whole, true_or, trail]
    rw [ih (by omega)]
    simp only [map_cons, append_assoc, singleton_append, length_cons]
    congr 1
    omega

lemma asked_trailing {window badEventCount} (few : later.length ≤ window) :
    runFrom (Asked.read settings) ⟨[stretch], [], window, badEventCount⟩ later =
      ⟨[{ stretch with trailing := stretch.trailing ++ later.map Event.bytes }], [],
        window - later.length, badEventCount⟩ := by
  induction later generalizing stretch window with
  | nil => simp
  | cons event rest ih =>
    rw [length_cons] at few
    have within : 0 < window := by omega
    simp only [runFrom_cons, Asked.read, within, if_true, trail]
    rw [ih (by omega)]
    simp only [map_cons, append_assoc, singleton_append, length_cons]
    congr 1
    omega

lemma walkOver_stretch (positive : 0 < size) (good : ∀ event ∈ quiet, event.isBad = false)
    (isBad : bad.isBad = true) (few : later.length ≤ settings.nToWriteAfterBadEvent) :
    walkOver settings size (quiet ++ bad :: later) =
      ⟨[⟨(quiet.map Event.bytes).rtake (size - 1), bad.bytes, later.map Event.bytes⟩], [],
        later.length, 1⟩ := by
  have stretch := walkOver_bad settings positive good isBad
  rw [append_cons]
  unfold walkOver at stretch ⊢
  rw [runFrom_append, stretch, walk_trailing settings (by omega)]
  simp

lemma askedFor_stretch (good : ∀ event ∈ quiet, event.isBad = false) (isBad : bad.isBad = true)
    (few : later.length ≤ settings.nToWriteAfterBadEvent) :
    askedFor settings (quiet ++ bad :: later) =
      ⟨[⟨(quiet.map Event.bytes).rtake settings.nToWriteBeforeBadEvent, bad.bytes,
          later.map Event.bytes⟩], [], settings.nToWriteAfterBadEvent - later.length, 1⟩ := by
  have stretch := askedFor_bad settings good isBad
  rw [append_cons]
  unfold askedFor at stretch ⊢
  rw [runFrom_append, stretch, asked_trailing settings few]
  simp

def followers (stretches : List (Stretch Byte)) : Option Nat :=
  stretches.head?.map fun stretch => stretch.trailing.length

lemma followers_handleIfBad (isBad) {count} (some : followers walk.stretches = some count) :
    followers (walk.handleIfBad isBad).stretches = Option.some count := by
  unfold Walk.handleIfBad Walk.handleBadEvent
  split
  · dsimp only
    split
    · cases stretches : walk.stretches with
      | nil =>
        rw [stretches] at some
        cases some
      | cons first rest =>
        rw [stretches] at some
        exact some
    · exact some
  · exact some

lemma walk_overrun (stretch : Stretch Byte) (event badEventCount) :
    followers (Walk.read settings size
      ⟨[stretch], [], settings.nToWriteAfterBadEvent, badEventCount⟩ event).stretches =
        some (stretch.trailing.length + 1) := by
  have past : ¬ settings.nToWriteAfterBadEvent + 1 ≤ settings.nToWriteAfterBadEvent := by omega
  simp only [Walk.read, Nat.le_refl, if_true, past, false_or]
  split
  · simp [followers, trail]
  · apply followers_handleIfBad
    simp [followers, trail]

lemma asked_overrun (stretch : Stretch Byte) (event badEventCount) :
    followers (Asked.read settings ⟨[stretch], [], 0, badEventCount⟩ event).stretches =
      some stretch.trailing.length := by
  simp only [Asked.read, Nat.lt_irrefl, if_false]
  split
  · split <;> rfl
  · rfl

/-- What is written is what is asked for, in every part of the stream, just where it is as
configured. -/
lemma walkOver_asked_iff (positive : 0 < size) (events : List (Event Byte)) :
    (∀ earlier, earlier <+: events →
      (walkOver settings size earlier).stretches = (askedFor settings earlier).stretches) ↔
      AsConfigured settings size events := by
  constructor
  · rintro always quiet bad later rfl isBad good
    have leading : min (size - 1) quiet.length =
        min settings.nToWriteBeforeBadEvent quiet.length := by
      have same := always (quiet ++ [bad]) ⟨later, by simp⟩
      rw [walkOver_bad settings positive good isBad, askedFor_bad settings good isBad] at same
      simp only [List.cons.injEq, Stretch.mk.injEq, and_true, rtake_eq_rtake, length_map] at same
      exact same
    by_contra many
    obtain ⟨window, event, rest, rfl, length⟩ : ∃ window event rest,
        later = window ++ event :: rest ∧ window.length = settings.nToWriteAfterBadEvent := by
      refine ⟨later.take settings.nToWriteAfterBadEvent,
        later.get ⟨settings.nToWriteAfterBadEvent, by omega⟩,
        later.drop (settings.nToWriteAfterBadEvent + 1), ?_, ?_⟩
      · simp
      · rw [length_take]
        omega
    have same := always (quiet ++ bad :: window ++ [event]) ⟨rest, by simp⟩
    have fewer : window.length ≤ settings.nToWriteAfterBadEvent := by omega
    have walked := walkOver_stretch settings positive good isBad fewer
    have wanted := askedFor_stretch settings good isBad fewer
    unfold walkOver at same walked
    unfold askedFor at same wanted
    rw [length] at walked
    rw [length, Nat.sub_self] at wanted
    rw [runFrom_append, walked, runFrom_append, wanted] at same
    have followed := congrArg followers same
    simp only [runFrom_cons, runFrom_nil, walk_overrun settings, asked_overrun settings, Option.some.injEq] at followed
    omega
  · rintro asConfigured earlier ⟨rest, rfl⟩
    cases found : earlier.find? Event.isBad with
    | none =>
      have good : ∀ event ∈ earlier, event.isBad = false := by
        intro event member
        simpa using List.find?_eq_none.mp found event member
      rw [walkOver_quiet settings positive good, askedFor_quiet settings good]
    | some bad =>
      obtain ⟨isBad, quiet, later, rfl, good⟩ := List.find?_eq_some_iff_append.mp found
      have allGood : ∀ event ∈ quiet, event.isBad = false := by
        intro event member
        simpa using good event member
      obtain ⟨leading, few⟩ := asConfigured quiet bad (later ++ rest) (by simp) isBad allGood
      rw [length_append] at few
      rw [walkOver_stretch settings positive allGood isBad (by omega),
        askedFor_stretch settings allGood isBad (by omega)]
      have same : (quiet.map Event.bytes).rtake (size - 1) =
          (quiet.map Event.bytes).rtake settings.nToWriteBeforeBadEvent := by
        rw [rtake_eq_rtake, length_map]
        exact leading
      rw [same]

end

def joinLast : List (List Byte) → List Byte → List (List Byte)
  | [], data => [data]
  | [last], data => [last ++ data]
  | first :: next :: rest, data => first :: joinLast (next :: rest) data

def lastPiece (pieces : List (List Byte)) : List Byte := pieces.getLast?.getD []

lemma joinLast_snoc (earlier : List (List Byte)) (last data) :
    joinLast (earlier ++ [last]) data = earlier ++ [last ++ data] := by
  induction earlier with
  | nil => rfl
  | cons first rest ih =>
    cases rest with
    | nil => rfl
    | cons second rest =>
      simp only [cons_append, joinLast] at ih ⊢
      rw [ih]

lemma joinLast_joinLast (pieces : List (List Byte)) (first second) :
    joinLast (joinLast pieces first) second = joinLast pieces (first ++ second) := by
  rcases eq_nil_or_concat pieces with rfl | ⟨earlier, last, rfl⟩
  · rfl
  · simp only [concat_eq_append, joinLast_snoc, append_assoc]

lemma lastPiece_joinLast (pieces : List (List Byte)) (data) :
    lastPiece (joinLast pieces data) = lastPiece pieces ++ data := by
  rcases eq_nil_or_concat pieces with rfl | ⟨earlier, last, rfl⟩
  · rfl
  · simp [lastPiece, joinLast_snoc]

lemma keeps_joined {ring : EventBufferRing Byte} {pieces data} (keeps : Keeps ring pieces)
    (some : data ≠ []) (limited : (lastPiece pieces).length + data.length ≤ maxBufferSize) :
    Keeps (EventBufferRing.addData ring data false) (joinLast pieces data) := by
  rcases eq_nil_or_concat pieces with rfl | ⟨earlier, last, rfl⟩
  · apply keeps_resumed keeps some
    omega
  · simp only [concat_eq_append] at keeps limited ⊢
    rw [joinLast_snoc]
    apply keeps_continued keeps
    simpa [lastPiece] using limited

lemma trail_snoc (earlier : List (Stretch Byte)) (last piece) :
    trail (earlier ++ [last]) piece =
      earlier ++ [{ last with trailing := last.trailing ++ [piece] }] := by
  induction earlier with
  | nil => rfl
  | cons first rest ih =>
    cases rest with
    | nil => rfl
    | cons second rest =>
      simp only [cons_append, trail] at ih ⊢
      rw [ih]

lemma written_trail {stretches} (some : stretches ≠ []) (piece : List Byte) :
    written (trail stretches piece) = written stretches ++ piece ∧ trail stretches piece ≠ [] := by
  obtain ⟨earlier, last, rfl⟩ := (eq_nil_or_concat stretches).resolve_left some
  rw [concat_eq_append, trail_snoc]
  constructor
  · simp [written, Stretch.written]
  · simp

abbrev Writings := Nat → Nat → Writing

def continuing (isBad : Bool) (writings : Writings) :
    Nat → List (Datum Byte) → List (ReadingOfBlock Byte)
  | _, [] => []
  | index, [last] =>
    [⟨⟨last.1, false, true, isBad, last.2, fun _ => rfl⟩, true, writings index⟩]
  | index, block :: next :: rest =>
    ⟨⟨block.1, false, false, false, block.2, by simp⟩, true, writings index⟩ ::
      continuing isBad writings (index + 1) (next :: rest)

def Event.readings (event : Event Byte) (writings : Writings) : List (ReadingOfBlock Byte) :=
  ⟨⟨event.first.1, true, event.rest.isEmpty, event.isBad && event.rest.isEmpty, event.first.2,
    fun bad => (Bool.and_eq_true_iff.mp bad).2⟩, true, writings 0⟩ ::
      continuing event.isBad writings 1 event.rest

def Granted (writings : Writings) : Prop :=
  ∀ index turn, (writings index turn).Succeeds ∧ (writings index turn).accepted = true

structure Shows (recording : Recording Byte) (size : Nat) (output : List Byte)
    (kept : List (List Byte)) (count badEventCount : Nat) : Prop where
  output : recording.output.fileWriter = some output
  accepted : recording.output.fileWritingVetoed = false
  kept : Keeps recording.eventBufferRing kept
  size : recording.eventBufferRing.size = size
  count : recording.countSinceBadEvent = count
  badEventCount : recording.badEventCount = badEventCount

def ShowsWalk (recording : Recording Byte) (size : Nat) (walk : Walk Byte) : Prop :=
  Shows recording size (written walk.stretches) walk.kept walk.countSinceBadEvent
    walk.badEventCount

/-- While the trailing context is written, there is a stretch that it belongs to, and the ring is
empty. -/
def Walk.Sane (settings : FileSettings) (walk : Walk Byte) : Prop :=
  walk.countSinceBadEvent ≤ settings.nToWriteAfterBadEvent →
    walk.kept = [] ∧ walk.stretches ≠ []

section

variable (settings : FileSettings) {recording : Recording Byte} {size count badEventCount : Nat}
  {output data : List Byte} {kept : List (List Byte)}

lemma shows_written (shows : Shows recording size output kept count badEventCount) (data newEvent)
    {writing} (succeeds : writing.Succeeds) (accepted : writing.accepted = true) :
    Shows (recording.writeTrailingContext settings data newEvent writing) size (output ++ data)
      kept (if newEvent then (count + 1) % word64 else count) badEventCount := by
  have veto : recording.output.vetoes newEvent writing = false := by
    simp [Output.vetoes, shows.accepted, accepted]
  obtain ⟨result, vetoed⟩ := writeDataToFile_succeeds settings shows.output data newEvent succeeds
  rw [veto] at result vetoed
  constructor
  · exact result
  · exact vetoed
  · exact shows.kept
  · exact shows.size
  · rw [Recording.writeTrailingContext, shows.count]
  · exact shows.badEventCount

lemma shows_started (shows : Shows recording size output kept count badEventCount)
    (some : data ≠ []) (limited : data.length ≤ maxBufferSize) :
    Shows (recording.buffer data true) size output ((kept ++ [data]).rtake size) count
      badEventCount := by
  have started := keeps_started shows.kept some limited
  rw [shows.size] at started
  constructor
  · exact shows.output
  · exact shows.accepted
  · exact started
  · exact (size_addData true).trans shows.size
  · exact shows.count
  · exact shows.badEventCount

lemma shows_joined (shows : Shows recording size output kept count badEventCount)
    (some : data ≠ []) (limited : (lastPiece kept).length + data.length ≤ maxBufferSize) :
    Shows (recording.buffer data false) size output (joinLast kept data) count
      badEventCount := by
  constructor
  · exact shows.output
  · exact shows.accepted
  · exact keeps_joined shows.kept some limited
  · exact (size_addData false).trans shows.size
  · exact shows.count
  · exact shows.badEventCount

lemma writeEvents_granted (events) {output : Output Byte} {before writing}
    (granted : ∀ turn, (writing turn).Succeeds ∧ (writing turn).accepted = true)
    (opened : output.fileWriter = some before) (accepted : output.fileWritingVetoed = false) :
    (output.writeEvents settings events writing).fileWriter = some (before ++ events.flatten) ∧
      (output.writeEvents settings events writing).fileWritingVetoed = false := by
  induction events generalizing output before writing with
  | nil => simpa [Output.writeEvents] using ⟨opened, accepted⟩
  | cons event rest ih =>
    have veto : output.vetoes true (writing 0) = false := by
      simp [Output.vetoes, accepted, (granted 0).2]
    obtain ⟨result, vetoed⟩ := writeDataToFile_succeeds settings opened event true (granted 0).1
    rw [veto] at result vetoed
    have later := ih (fun turn => granted (turn + 1)) result vetoed
    simpa [Output.writeEvents] using later

lemma written_handled (some : walk.kept ≠ []) :
    written (walk.stretches ++ [⟨walk.kept.dropLast, walk.kept.getLast?.getD [], []⟩]) =
      written walk.stretches ++ walk.kept.flatten := by
  obtain ⟨earlier, last, kept⟩ := (eq_nil_or_concat walk.kept).resolve_left some
  rw [kept]
  simp [written, Stretch.written]

lemma shows_handled (shows : ShowsWalk recording size walk) (some : walk.kept ≠ []) {writing}
    (granted : ∀ turn, (writing turn).Succeeds ∧ (writing turn).accepted = true) :
    ShowsWalk (recording.handleBadEvent settings writing) size walk.handleBadEvent := by
  have emptied : Keeps (EventBufferRing.emptyEventBuffers recording.eventBufferRing) [] :=
    keeps_emptied _
  have size' : (EventBufferRing.emptyEventBuffers recording.eventBufferRing).size = size :=
    (Circular.size_map _ _).trans shows.size
  unfold Recording.handleBadEvent Walk.handleBadEvent
  rw [shows.badEventCount]
  dsimp only
  split
  · obtain ⟨result, vetoed⟩ :=
      writeEvents_granted settings walk.kept granted shows.output shows.accepted
    constructor
    · rw [keeps_getEventBuffers shows.kept, written_handled some]
      exact result
    · rw [keeps_getEventBuffers shows.kept]
      exact vetoed
    · exact emptied
    · exact size'
    · rfl
    · rfl
  · constructor
    · exact shows.output
    · exact shows.accepted
    · exact emptied
    · exact size'
    · exact shows.count
    · rfl

lemma walk_started (shows : ShowsWalk recording size walk) (some : data ≠ [])
    (limited : data.length ≤ maxBufferSize) :
    ShowsWalk (recording.buffer data true) size
      { walk with kept := (walk.kept ++ [data]).rtake size } :=
  shows_started shows some limited

lemma walk_joined (shows : ShowsWalk recording size walk) (some : data ≠ [])
    (limited : (lastPiece walk.kept).length + data.length ≤ maxBufferSize) :
    ShowsWalk (recording.buffer data false) size
      { walk with kept := joinLast walk.kept data } :=
  shows_joined shows some limited

lemma isInTrailingContext_iff (shows : Shows recording size output kept count badEventCount) :
    recording.isInTrailingContext settings = decide (count ≤ settings.nToWriteAfterBadEvent) := by
  rw [Recording.isInTrailingContext, shows.count]

end

section

variable (settings : FileSettings) {tape : Tape Byte} {size : Nat}

lemma joined_cons (block : Datum Byte) (rest) :
    joined (block :: rest) = block.1 ++ joined rest := rfl

variable {writings : Writings} {rest : List (Datum Byte)}

lemma continuing_written (badOnly : settings.writeBadEventsOnly = true) (isBad)
    (granted : Granted writings) {output kept count badEventCount}
    (trailing : count ≤ settings.nToWriteAfterBadEvent) (index) (some : rest ≠ [])
    (shows : Shows tape.recording size output kept count badEventCount)
    (inside : tape.insideEvent = true) :
    Shows (runFrom (Tape.read settings) tape
        (continuing isBad writings index rest)).recording size (output ++ joined rest) kept count
        badEventCount ∧
      (runFrom (Tape.read settings) tape
        (continuing isBad writings index rest)).insideEvent = false := by
  induction rest generalizing tape output index with
  | nil => exact absurd rfl some
  | cons block rest ih =>
    have isTrailing : tape.recording.isInTrailingContext settings = true := by
      rw [isInTrailingContext_iff settings shows]
      simpa using trailing
    have written := shows_written settings shows block.1 false (granted index 0).1
      (granted index 0).2
    have next : ∀ reading : ReadingOfBlock Byte, reading.block.data = block.1 →
        reading.block.header = false → reading.writing = writings index →
        Shows (tape.read settings reading).recording size (output ++ block.1) kept count
          badEventCount := by
      intro reading data noHeader writing
      rw [Tape.read_trailing reading badOnly isTrailing, data, writing]
      simpa [Tape.newEvent, isNewEvent, inside, noHeader] using written
    cases rest with
    | nil =>
      rw [joined_cons, joined, flatMap_nil, append_nil]
      exact ⟨next _ rfl rfl rfl, rfl⟩
    | cons second rest =>
      rw [joined_cons, ← append_assoc]
      exact ih (index + 1) (by simp) (next _ rfl rfl rfl) rfl

lemma continuing_buffered (badOnly : settings.writeBadEventsOnly = true) (isBad)
    (granted : Granted writings) (index) (some : rest ≠ [])
    (shows : ShowsWalk tape.recording size walk)
    (buffering : ¬ walk.countSinceBadEvent ≤ settings.nToWriteAfterBadEvent)
    (limited : (lastPiece walk.kept).length + (joined rest).length ≤ maxBufferSize)
    (inside : tape.insideEvent = true) :
    ShowsWalk (runFrom (Tape.read settings) tape
        (continuing isBad writings index rest)).recording size
        (Walk.handleIfBad isBad { walk with kept := joinLast walk.kept (joined rest) }) ∧
      (runFrom (Tape.read settings) tape
        (continuing isBad writings index rest)).insideEvent = false := by
  induction rest generalizing tape walk index with
  | nil => exact absurd rfl some
  | cons block rest ih =>
    have isBuffering : tape.recording.isInTrailingContext settings = false := by
      rw [isInTrailingContext_iff settings shows]
      simpa using buffering
    rw [joined_cons, length_append] at limited
    have buffered := walk_joined shows block.2 (by omega)
    have next : ∀ reading : ReadingOfBlock Byte, reading.block.data = block.1 →
        reading.block.header = false →
        tape.recording.buffer reading.block.data (tape.newEvent reading.block) =
          tape.recording.buffer block.1 false := by
      intro reading data noHeader
      rw [data]
      simp [Tape.newEvent, isNewEvent, inside, noHeader]
    cases rest with
    | nil =>
      rw [joined_cons, joined, flatMap_nil, append_nil]
      simp only [continuing, runFrom_cons, runFrom_nil]
      rw [Tape.read_buffering _ badOnly isBuffering, next _ rfl rfl]
      refine ⟨?_, rfl⟩
      cases isBad with
      | false => exact buffered
      | true =>
        apply shows_handled settings buffered
        · intro empty
          have last := lastPiece_joinLast walk.kept block.1
          dsimp only at empty
          rw [empty] at last
          exact block.2 (append_eq_nil_iff.mp last.symm).2
        · exact granted index
    | cons second rest =>
      have first : ShowsWalk (tape.read settings ⟨⟨block.1, false, false, false, block.2,
          by simp⟩, true, writings index⟩).recording size
          { walk with kept := joinLast walk.kept block.1 } := by
        rw [Tape.read_buffering _ badOnly isBuffering, next _ rfl rfl]
        exact buffered
      have later := ih (index + 1) (by simp) first buffering (by
        rw [lastPiece_joinLast, length_append]
        omega) rfl
      rw [joined_cons, ← joinLast_joinLast]
      exact later

lemma readings_first (event : Event Byte) (writings) (outside : tape.insideEvent = false) :
    ∃ reading rest, event.readings writings = reading :: rest ∧
      reading.block.data = event.first.1 ∧ tape.newEvent reading.block = true ∧
      reading.writing = writings 0 ∧ rest = continuing event.isBad writings 1 event.rest ∧
      reading.block.isBadEvent = (event.isBad && event.rest.isEmpty) ∧
      (tape.read settings reading).insideEvent = !event.rest.isEmpty := by
  refine ⟨_, _, rfl, rfl, ?_, rfl, rfl, rfl, rfl⟩
  simp [Tape.newEvent, isNewEvent, outside]

lemma shows_event (badOnly : settings.writeBadEventsOnly = true)
    (counts : settings.nToWriteAfterBadEvent + 1 < word64) {event} (granted : Granted writings)
    (limited : event.bytes.length ≤ maxBufferSize) (positive : 0 < size) (sane : walk.Sane settings)
    (shows : ShowsWalk tape.recording size walk) (outside : tape.insideEvent = false) :
    ShowsWalk (runFrom (Tape.read settings) tape (event.readings writings)).recording size
        (walk.read settings size event) ∧
      (runFrom (Tape.read settings) tape (event.readings writings)).insideEvent = false := by
  obtain ⟨reading, rest, readings, data, isNew, writing, rfl, bad, insideNow⟩ :=
    readings_first settings event writings outside
  rw [readings, runFrom_cons]
  rw [Event.bytes, length_append] at limited
  by_cases trailing : walk.countSinceBadEvent ≤ settings.nToWriteAfterBadEvent
  · obtain ⟨empty, some⟩ := sane trailing
    have isTrailing : tape.recording.isInTrailingContext settings = true := by
      rw [isInTrailingContext_iff settings shows]
      simpa using trailing
    have first := shows_written settings shows event.first.1 true (granted 0 0).1 (granted 0 0).2
    have counted : (walk.countSinceBadEvent + 1) % word64 = walk.countSinceBadEvent + 1 :=
      Nat.mod_eq_of_lt (by omega)
    rw [if_pos rfl, counted, ← data, ← isNew, ← writing,
      ← Tape.read_trailing reading badOnly isTrailing, data] at first
    simp only [Walk.read, trailing, if_true]
    cases blocks : event.rest with
    | nil =>
      simp only [continuing, runFrom_nil, or_true, if_true]
      refine ⟨?_, by simpa [blocks] using insideNow⟩
      have same := (written_trail some event.bytes).1
      simp only [Event.bytes, blocks, joined, flatMap_nil, append_nil] at same
      simp only [ShowsWalk, Event.bytes, blocks, joined, flatMap_nil, append_nil, same]
      exact first
    | cons block others =>
      have insideEvent : (tape.read settings reading).insideEvent = true := by
        simpa [blocks] using insideNow
      rw [blocks] at limited
      by_cases more : walk.countSinceBadEvent + 1 ≤ settings.nToWriteAfterBadEvent
      · obtain ⟨shown, ended⟩ := continuing_written settings badOnly event.isBad granted more 1
          (cons_ne_nil block others) first insideEvent
        simp only [more, true_or, if_true]
        refine ⟨?_, ended⟩
        have same := (written_trail some event.bytes).1
        simp only [ShowsWalk, same]
        rw [Event.bytes, blocks, ← append_assoc]
        exact shown
      · -- the trailing context ends within the event
        have split : ShowsWalk (tape.read settings reading).recording size
            { walk with
              stretches := trail walk.stretches event.first.1
              countSinceBadEvent := walk.countSinceBadEvent + 1 } := by
          simp only [ShowsWalk, (written_trail some event.first.1).1]
          exact first
        obtain ⟨shown, ended⟩ := continuing_buffered settings badOnly event.isBad granted 1
          (cons_ne_nil block others) split more (by
            simp only [empty]
            simp only [lastPiece, getLast?_nil, Option.getD_none, length_nil]
            omega) insideEvent
        simp only [more, false_or, reduceCtorEq, if_false]
        simp only [empty, joinLast] at shown
        exact ⟨shown, ended⟩
  · have isBuffering : tape.recording.isInTrailingContext settings = false := by
      rw [isInTrailingContext_iff settings shows]
      simpa using trailing
    have first := walk_started shows event.first.2 (by omega)
    obtain ⟨fewer, rfl⟩ : ∃ fewer, size = fewer + 1 := ⟨size - 1, by omega⟩
    have recorded := Tape.read_buffering reading badOnly isBuffering
    rw [data, isNew, bad] at recorded
    simp only [Walk.read, trailing, if_false]
    cases blocks : event.rest with
    | nil =>
      simp only [continuing, runFrom_nil]
      refine ⟨?_, by simpa [blocks] using insideNow⟩
      simp only [Event.bytes, blocks, joined, flatMap_nil, append_nil]
      rw [recorded]
      cases isBad : event.isBad with
      | false => simpa [Walk.handleIfBad] using first
      | true =>
        simp only [blocks, isEmpty_nil, Bool.and_self, if_true, Walk.handleIfBad]
        apply shows_handled settings first
        · simp
        · rw [writing]
          exact granted 0
    | cons block others =>
      have insideEvent : (tape.read settings reading).insideEvent = true := by
        simpa [blocks] using insideNow
      rw [blocks] at limited
      have started : ShowsWalk (tape.read settings reading).recording (fewer + 1)
          { walk with kept := (walk.kept ++ [event.first.1]).rtake (fewer + 1) } := by
        rw [recorded]
        simpa [blocks] using first
      have last : lastPiece ((walk.kept ++ [event.first.1]).rtake (fewer + 1)) =
          event.first.1 := by
        simp [lastPiece]
      obtain ⟨shown, ended⟩ := continuing_buffered settings badOnly event.isBad granted 1
        (cons_ne_nil block others) started trailing (by
          rw [last]
          exact limited) insideEvent
      refine ⟨?_, ended⟩
      simp only [rtake_concat_succ, joinLast_snoc] at shown
      rw [rtake_concat_succ, Event.bytes, blocks]
      exact shown

lemma sane_handleIfBad (isBad)
    (past : ¬ walk.countSinceBadEvent ≤ settings.nToWriteAfterBadEvent) :
    (walk.handleIfBad isBad).Sane settings := by
  intro within
  unfold Walk.handleIfBad Walk.handleBadEvent at within ⊢
  cases isBad with
  | false => exact absurd within past
  | true =>
    simp only [if_true] at within ⊢
    split at within
    · simp_all
    · exact absurd within past

lemma sane_read (sane : walk.Sane settings) (event) :
    (walk.read settings size event).Sane settings := by
  unfold Walk.read
  by_cases trailing : walk.countSinceBadEvent ≤ settings.nToWriteAfterBadEvent
  · obtain ⟨empty, some⟩ := sane trailing
    simp only [trailing, if_true]
    by_cases more : walk.countSinceBadEvent + 1 ≤ settings.nToWriteAfterBadEvent ∨ event.rest = []
    · rw [if_pos more]
      intro _
      exact ⟨empty, (written_trail some event.bytes).2⟩
    · rw [if_neg more]
      exact sane_handleIfBad settings event.isBad fun within => more (Or.inl within)
  · rw [if_neg trailing]
    exact sane_handleIfBad settings event.isBad trailing

def readingsOf (inputs : List (Event Byte × Writings)) : List (ReadingOfBlock Byte) :=
  inputs.flatMap fun input => input.1.readings input.2

lemma shows_run (badOnly : settings.writeBadEventsOnly = true)
    (counts : settings.nToWriteAfterBadEvent + 1 < word64) {inputs}
    (granted : ∀ input ∈ inputs, Granted input.2)
    (limited : ∀ input ∈ inputs, input.1.bytes.length ≤ maxBufferSize) (positive : 0 < size)
    (sane : walk.Sane settings) (shows : ShowsWalk tape.recording size walk)
    (outside : tape.insideEvent = false) :
    ShowsWalk (runFrom (Tape.read settings) tape (readingsOf inputs)).recording size
      (runFrom (Walk.read settings size) walk (inputs.map Prod.fst)) := by
  induction inputs generalizing tape walk with
  | nil => exact shows
  | cons input rest ih =>
    obtain ⟨shown, ended⟩ := shows_event settings badOnly counts
      (granted input mem_cons_self) (limited input mem_cons_self) positive sane shows
      outside
    rw [readingsOf, flatMap_cons, runFrom_append]
    exact ih (fun other member => granted other (mem_cons_of_mem _ member))
      (fun other member => limited other (mem_cons_of_mem _ member))
      (sane_read settings sane input.1) shown ended

end

def fileAfter (settings : FileSettings) (recording : Recording Byte)
    (inputs : List (Event Byte × Writings)) : Option (List Byte) :=
  (runFrom (Tape.read settings) (.configured settings recording)
    (readingsOf inputs)).recording.output.fileWriter

/-- What is written are the stretches of the walk, with a ring that has as many buffers as have
ever been asked for; and they are those asked for, in every part of the stream, just where the
stream is as configured. -/
theorem bad_event_context (settings : FileSettings) (recording : Recording Byte)
    (badOnly : settings.writeBadEventsOnly = true)
    (counts : settings.nToWriteAfterBadEvent + 1 < word64)
    (opened : recording.output.fileWriter = some [])
    (accepted : recording.output.fileWritingVetoed = false) (inputs : List (Event Byte × Writings))
    (granted : ∀ input ∈ inputs, Granted input.2)
    (limited : ∀ input ∈ inputs, input.1.bytes.length ≤ maxBufferSize) :
    fileAfter settings recording inputs =
      some (written (walkOver settings
        (max recording.eventBufferRing.size settings.nToWriteBeforeBadEvent)
        (inputs.map Prod.fst)).stretches) ∧
    ((∀ earlier, earlier <+: inputs.map Prod.fst →
      (walkOver settings (max recording.eventBufferRing.size settings.nToWriteBeforeBadEvent)
        earlier).stretches = (askedFor settings earlier).stretches) ↔
      AsConfigured settings
        (max recording.eventBufferRing.size settings.nToWriteBeforeBadEvent)
        (inputs.map Prod.fst)) := by
  have positive : 0 < max recording.eventBufferRing.size settings.nToWriteBeforeBadEvent := by
    simp only [Circular.size]
    omega
  have past : ¬ settings.nToWriteAfterBadEvent + 1 ≤ settings.nToWriteAfterBadEvent := by omega
  have start : ShowsWalk (Tape.configured settings recording).recording
      (max recording.eventBufferRing.size settings.nToWriteBeforeBadEvent)
      (.configured settings) := by
    simp only [Tape.configured, Recording.configure, badOnly, if_true, Nat.mod_eq_of_lt counts]
    constructor
    · exact opened
    · exact accepted
    · exact keeps_emptied _
    · exact (Circular.size_map _ _).trans (size_setSize _ _)
    · rfl
    · rfl
  constructor
  · exact (shows_run settings badOnly counts granted limited positive
      (fun within => absurd within past) start rfl).output
  · exact walkOver_asked_iff settings positive _

def wholeEventOf (byte : Nat) (isBad : Bool) : Event Nat × Writings :=
  (⟨⟨[byte], Tape.single_nonempty byte⟩, [], isBad⟩, fun _ _ => ⟨true, true, true⟩)

theorem bad_event_context_first :
    fileAfter ⟨true, 1, 1⟩ Tape.fresh [wholeEventOf 0 true, wholeEventOf 1 false] =
      some (written (askedFor ⟨true, 1, 1⟩
        ([wholeEventOf 0 true, wholeEventOf 1 false].map Prod.fst)).stretches) := by
  obtain ⟨file, asked⟩ := bad_event_context ⟨true, 1, 1⟩ Tape.fresh rfl (by decide) rfl rfl
    [wholeEventOf 0 true, wholeEventOf 1 false] (by
      intro input member index turn
      rcases mem_cons.mp member with rfl | member
      · exact ⟨⟨rfl, rfl⟩, rfl⟩
      · rw [mem_singleton.mp member]
        exact ⟨⟨rfl, rfl⟩, rfl⟩) (by decide)
  rw [file, asked.mpr ?_ _ (prefix_refl _)]
  rintro earlier bad later events isBad good
  cases earlier with
  | nil =>
    simp only [map_cons, map_nil, nil_append, List.cons.injEq] at events
    rw [← events.2]
    decide
  | cons first rest =>
    simp only [map_cons, cons_append, List.cons.injEq] at events
    have isGood := good first mem_cons_self
    rw [← events.1] at isGood
    cases isGood

/-- One event is to be written before the bad one and one after it: none is before it, and two
are after it. -/
theorem context_miscounted :
    fileAfter ⟨true, 1, 1⟩ Tape.fresh [wholeEventOf 0 false, wholeEventOf 1 true,
      wholeEventOf 2 false, wholeEventOf 3 false] = some [1, 2, 3] ∧
    written (askedFor ⟨true, 1, 1⟩ ([wholeEventOf 0 false, wholeEventOf 1 true,
      wholeEventOf 2 false, wholeEventOf 3 false].map Prod.fst)).stretches = [0, 1, 2] := by
  constructor <;> decide

end EmuLib.Rui
