import EmuLib.Lib.RingList

/-!
The buffers in which the readout unit interface keeps the last events, should they turn out to
be the context of a bad one.
-/

namespace EmuLib.Rui

open RingList List

def initialBufferSize : Nat := 0xd0000

def maxBufferSize : Nat := 0x100000

structure EventBuffer (Byte : Type*) where
  bufferSize : Nat
  event : List Byte
  fits : event.length ≤ bufferSize
  limited : bufferSize ≤ maxBufferSize

namespace EventBuffer

variable {Byte : Type*}

def constructed : EventBuffer Byte where
  bufferSize := initialBufferSize
  event := []
  fits := Nat.zero_le _
  limited := by decide

def empty (buffer : EventBuffer Byte) : EventBuffer Byte :=
  { buffer with event := [], fits := Nat.zero_le _ }

def grow (buffer : EventBuffer Byte) (newBufferSize : Nat)
    (larger : buffer.bufferSize ≤ newBufferSize) : EventBuffer Byte :=
  if buffer.bufferSize = maxBufferSize then buffer
  else
    { buffer with
      bufferSize := min newBufferSize maxBufferSize
      fits := by
        have fits := buffer.fits
        have limited := buffer.limited
        omega
      limited := Nat.min_le_right _ _ }

def prepare (buffer : EventBuffer Byte) (newEventSize : Nat) : EventBuffer Byte :=
  if buffer.bufferSize < newEventSize then
    buffer.grow (max newEventSize (2 * buffer.bufferSize)) (by omega)
  else buffer

def appendData (buffer : EventBuffer Byte) (data : List Byte) : EventBuffer Byte × Bool :=
  let newEventSize := buffer.event.length + data.length
  let prepared := buffer.prepare newEventSize
  ({ prepared with
      event := prepared.event ++ data.take (prepared.bufferSize - prepared.event.length)
      fits := by
        have fits := prepared.fits
        rw [List.length_append, List.length_take]
        omega },
    decide (newEventSize ≤ prepared.bufferSize))

lemma prepare_event (buffer : EventBuffer Byte) (newEventSize) :
    (buffer.prepare newEventSize).event = buffer.event := by
  unfold prepare grow
  split
  · split <;> rfl
  · rfl

lemma prepare_large (buffer : EventBuffer Byte) {newEventSize}
    (limited : newEventSize ≤ maxBufferSize) :
    newEventSize ≤ (buffer.prepare newEventSize).bufferSize := by
  unfold prepare
  split
  · unfold grow
    split
    · omega
    · apply Nat.le_min.mpr
      exact ⟨Nat.le_max_left _ _, limited⟩
  · omega

lemma appendData_event (buffer : EventBuffer Byte) (data)
    (limited : buffer.event.length + data.length ≤ maxBufferSize) :
    (buffer.appendData data).1.event = buffer.event ++ data := by
  have large := prepare_large buffer limited
  simp only [appendData, prepare_event]
  rw [take_of_length_le (by omega)]

end EventBuffer

abbrev EventBufferRing (Byte : Type*) := Circular (EventBuffer Byte)

namespace EventBufferRing

variable {Byte : Type*}

def constructed : EventBufferRing Byte := ⟨[], .constructed, []⟩

def grown : Nat → EventBufferRing Byte → EventBufferRing Byte
  | 0, ring => ring
  | more + 1, ring => grown more (ring.pushBack .constructed)

def setSize (ring : EventBufferRing Byte) (size : Nat) : EventBufferRing Byte :=
  grown (size - ring.size) ring

def emptyEventBuffers (ring : EventBufferRing Byte) : EventBufferRing Byte :=
  ring.map EventBuffer.empty

def addData (ring : EventBufferRing Byte) (data : List Byte) (startsEvent : Bool) :
    EventBufferRing Byte :=
  let started := if startsEvent then ring.advance.modifyCurrent EventBuffer.empty else ring
  started.modifyCurrent fun buffer => (buffer.appendData data).1

def getEventBuffers (ring : EventBufferRing Byte) : List (List Byte) :=
  (ring.fromOldest.map EventBuffer.event).filter fun event => event ≠ []

/-- The ring keeps these events, the oldest first; its other buffers are empty and come before. -/
structure Keeps (ring : EventBufferRing Byte) (events : List (List Byte)) : Prop where
  contents : ∃ blanks, ring.fromOldest.map EventBuffer.event = List.replicate blanks [] ++ events
  nonempty : ∀ event ∈ events, event ≠ []

variable {ring : EventBufferRing Byte} {events : List (List Byte)} {data : List Byte}

lemma keeps_getEventBuffers (keeps : Keeps ring events) : ring.getEventBuffers = events := by
  obtain ⟨blanks, contents⟩ := keeps.contents
  rw [getEventBuffers, contents, filter_append, filter_replicate]
  apply filter_eq_self.mpr
  intro event member
  simpa using keeps.nonempty event member

lemma keeps_emptied (ring : EventBufferRing Byte) : Keeps ring.emptyEventBuffers [] := by
  constructor
  · refine ⟨ring.size, ?_⟩
    rw [emptyEventBuffers, Circular.fromOldest_map, map_map, append_nil]
    rw [eq_replicate_iff]
    constructor
    · simp
    · intro event member
      obtain ⟨buffer, _, rfl⟩ := mem_map.mp member
      rfl
  · intro event member
    cases member

lemma size_grown (more) (ring : EventBufferRing Byte) :
    (grown more ring).size = ring.size + more := by
  induction more generalizing ring with
  | zero => rfl
  | succ more ih =>
    rw [grown, ih, Circular.size_pushBack]
    omega

lemma size_setSize (ring : EventBufferRing Byte) (size) :
    (ring.setSize size).size = max ring.size size := by
  rw [setSize, size_grown]
  omega

lemma size_addData (startsEvent) : (ring.addData data startsEvent).size = ring.size := by
  cases startsEvent <;> simp [addData]

lemma split_current (ring : EventBufferRing Byte) : ∃ earlier : List (EventBuffer Byte),
    ring.fromOldest = earlier ++ [ring.current] := ⟨ring.after ++ ring.before, rfl⟩

variable {earlier : List (List Byte)} {event : List Byte}

lemma keeps_current (keeps : Keeps ring (earlier ++ [event])) : ring.current.event = event:= by
  obtain ⟨blanks, contents⟩ := keeps.contents
  obtain ⟨others, elements⟩ := split_current ring
  rw [elements, map_append, ← append_assoc] at contents
  have last := (append_inj' contents rfl).2
  simpa using last

lemma keeps_current_nil (keeps : Keeps ring []) : ring.current.event = [] := by
  obtain ⟨blanks, contents⟩ := keeps.contents
  obtain ⟨others, elements⟩ := split_current ring
  have member : ring.current.event ∈ ring.fromOldest.map EventBuffer.event := by
    rw [elements]
    simp
  rw [contents, append_nil] at member
  exact eq_of_mem_replicate member

lemma keeps_started (keeps : Keeps ring events) (some : data ≠ [])
    (limited : data.length ≤ maxBufferSize) :
    Keeps (ring.addData data true) ((events ++ [data]).rtake ring.size) := by
  obtain ⟨blanks, contents⟩ := keeps.contents
  obtain ⟨oldest, rest, elements⟩ : ∃ oldest rest, ring.fromOldest = oldest :: rest := by
    apply exists_cons_of_ne_nil
    simp [Circular.fromOldest]
  have size : ring.size = rest.length + 1 := by
    rw [← Circular.fromOldest_length, elements, length_cons]
  have added : (ring.addData data true).fromOldest.map EventBuffer.event =
      rest.map EventBuffer.event ++ [data] := by
    have emptied := Circular.fromOldest_modifyCurrent (Circular.fromOldest_advance elements)
      EventBuffer.empty
    have filled := Circular.fromOldest_modifyCurrent emptied fun buffer => (buffer.appendData data).1
    have whole : (oldest.empty.appendData data).1.event = data := by
      rw [EventBuffer.appendData_event]
      · rfl
      · simpa [EventBuffer.empty] using limited
    simp only [addData, if_true, filled, map_append, map_cons, map_nil, whole]
  rw [elements, map_cons] at contents
  constructor
  · cases blanks with
    | zero =>
      simp only [replicate_zero, nil_append] at contents
      rw [added, ← contents, size, rtake]
      simp
    | succ blanks =>
      simp only [replicate_succ, cons_append, List.cons.injEq] at contents
      refine ⟨blanks, ?_⟩
      have few : (events ++ [data]).length ≤ ring.size := by
        have lengths := congrArg List.length contents.2
        simp only [length_map, length_append, length_replicate] at lengths
        rw [length_append, length_singleton]
        omega
      rw [added, contents.2, rtake_of_length_le few, append_assoc]
  · intro event member
    rcases mem_append.mp ((rtake_suffix _ _).subset member) with member | member
    · exact keeps.nonempty event member
    · rw [mem_singleton.mp member]
      exact some

lemma keeps_continued (keeps : Keeps ring (earlier ++ [event]))
    (limited : event.length + data.length ≤ maxBufferSize) :
    Keeps (ring.addData data false) (earlier ++ [event ++ data]) := by
  obtain ⟨blanks, contents⟩ := keeps.contents
  obtain ⟨others, elements⟩ := split_current ring
  have current := keeps_current keeps
  have filled := Circular.fromOldest_modifyCurrent elements fun buffer => (buffer.appendData data).1
  have whole : (ring.current.appendData data).1.event = event ++ data := by
    rw [EventBuffer.appendData_event]
    · rw [current]
    · rw [current]
      exact limited
  rw [elements, map_append, ← append_assoc] at contents
  have before := (append_inj' contents rfl).1
  constructor
  · refine ⟨blanks, ?_⟩
    simp only [addData, Bool.false_eq_true, if_false, filled, map_append, before,
      map_cons, map_nil, whole, append_assoc]
  · intro other member
    rcases mem_append.mp member with member | member
    · exact keeps.nonempty other (mem_append_left _ member)
    · rw [mem_singleton.mp member]
      have nonempty := keeps.nonempty event (mem_append_right _ (mem_singleton_self _))
      intro nil
      exact nonempty (append_eq_nil_iff.mp nil).1

lemma keeps_resumed (keeps : Keeps ring []) (some : data ≠ [])
    (limited : data.length ≤ maxBufferSize) : Keeps (ring.addData data false) [data] := by
  obtain ⟨blanks, contents⟩ := keeps.contents
  obtain ⟨others, elements⟩ := split_current ring
  have current := keeps_current_nil keeps
  have filled := Circular.fromOldest_modifyCurrent elements fun buffer => (buffer.appendData data).1
  have whole : (ring.current.appendData data).1.event = data := by
    rw [EventBuffer.appendData_event]
    · rw [current, nil_append]
    · rw [current]
      simpa using limited
  rw [append_nil] at contents
  have blank : others.map EventBuffer.event = replicate others.length [] := by
    apply eq_replicate_iff.mpr
    constructor
    · rw [length_map]
    · intro event member
      apply eq_of_mem_replicate (n := blanks)
      rw [← contents, elements, map_append]
      exact mem_append_left _ member
  constructor
  · refine ⟨others.length, ?_⟩
    simp only [addData, Bool.false_eq_true, if_false, filled, map_append, blank,
      map_cons, map_nil, whole]
  · intro event member
    rw [mem_singleton.mp member]
    exact some

end EventBufferRing

end EmuLib.Rui
