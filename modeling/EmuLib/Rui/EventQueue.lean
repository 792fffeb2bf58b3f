import EmuLib.Rui.EventBufferRing

/-!
The ring of event buffers is a queue of the last events, of which each is cut where it exceeds the
largest buffer.
-/

namespace EmuLib.Rui

open RingList List

namespace EventBuffer

variable {Byte : Type*} (buffer : EventBuffer Byte) (data : List Byte)

lemma prepare_bufferSize (newEventSize) :
    min newEventSize maxBufferSize ≤ (buffer.prepare newEventSize).bufferSize := by
  unfold prepare
  split
  · unfold grow
    split
    next full => omega
    next =>
      dsimp only
      omega
  · omega

lemma appendData_take : (buffer.appendData data).1.event =
    (buffer.event ++ data).take maxBufferSize := by
  have large := buffer.prepare_bufferSize (buffer.event.length + data.length)
  have kept := buffer.prepare_event (buffer.event.length + data.length)
  have limited := (buffer.prepare (buffer.event.length + data.length)).limited
  have fits := (buffer.prepare (buffer.event.length + data.length)).fits
  rw [kept] at fits
  simp only [appendData, kept]
  generalize (buffer.prepare (buffer.event.length + data.length)).bufferSize = room at *
  rw [take_append, take_of_length_le (Nat.le_trans fits limited)]
  by_cases whole : buffer.event.length + data.length ≤ room
  · rw [take_of_length_le (by omega), take_of_length_le (by omega)]
  · have full : room = maxBufferSize := by omega
    rw [full]

lemma appendData_successful : (buffer.appendData data).2 = true ↔
    (buffer.appendData data).1.event = buffer.event ++ data := by
  have kept := buffer.prepare_event (buffer.event.length + data.length)
  have fits := (buffer.prepare (buffer.event.length + data.length)).fits
  rw [kept] at fits
  simp only [appendData, kept, decide_eq_true_eq, append_cancel_left_eq]
  constructor
  · intro whole
    exact take_of_length_le (by omega)
  · intro same
    have lengths := congrArg List.length same
    rw [length_take] at lengths
    omega

end EventBuffer

structure EventBlocks (Byte : Type*) where
  first : List Byte
  others : List (List Byte)

def EventBlocks.kept {Byte : Type*} (event : EventBlocks Byte) : List Byte :=
  (event.first ++ event.others.flatten).take maxBufferSize

namespace EventBufferRing

variable {Byte : Type*}

/-- What `addData` returns, with the ring after it. -/
def addDataSuccessful (ring : EventBufferRing Byte) (data : List Byte) (startsEvent : Bool) :
    EventBufferRing Byte × Bool :=
  let started := if startsEvent then ring.advance.modifyCurrent EventBuffer.empty else ring
  (ring.addData data startsEvent, (started.current.appendData data).2)

def addEvent (ring : EventBufferRing Byte) (event : EventBlocks Byte) : EventBufferRing Byte :=
  event.others.foldl (fun ring block => (ring.addDataSuccessful block false).1)
    (ring.addDataSuccessful event.first true).1

def addEvents (ring : EventBufferRing Byte) (events : List (EventBlocks Byte)) :
    EventBufferRing Byte :=
  events.foldl addEvent ring

def eventBefore (ring : EventBufferRing Byte) (startsEvent : Bool) : List Byte :=
  if startsEvent then [] else ring.current.event

def contents (ring : EventBufferRing Byte) : List (List Byte) :=
  ring.fromOldest.map EventBuffer.event

section

variable (ring : EventBufferRing Byte)

lemma contents_length : ring.contents.length = ring.size := by simp [contents]

variable {earlier : List (List Byte)} {event : List Byte}

lemma contents_continued (known : ring.contents = earlier ++ [event]) (data) :
    (ring.addData data false).contents = earlier ++ [(event ++ data).take maxBufferSize] := by
  obtain ⟨others, elements⟩ := split_current ring
  unfold contents at known ⊢
  rw [elements, map_append] at known
  obtain ⟨before, current⟩ := append_inj' known rfl
  have last : ring.current.event = event := by simpa using current
  have filled := Circular.fromOldest_modifyCurrent elements fun buffer => (buffer.appendData data).1
  have added : ring.addData data false =
      ring.modifyCurrent fun buffer => (buffer.appendData data).1 := rfl
  rw [added, filled, map_append, before, ← last, ← EventBuffer.appendData_take]
  rfl

lemma contents_started (data) :
    (ring.addData data true).contents = ring.contents.tail ++ [data.take maxBufferSize] := by
  obtain ⟨oldest, rest, elements⟩ : ∃ oldest rest, ring.fromOldest = oldest :: rest := by
    apply exists_cons_of_ne_nil
    simp [Circular.fromOldest]
  have emptied := Circular.fromOldest_modifyCurrent (Circular.fromOldest_advance elements)
    EventBuffer.empty
  have filled := Circular.fromOldest_modifyCurrent emptied fun buffer => (buffer.appendData data).1
  have added : ring.addData data true = (ring.advance.modifyCurrent EventBuffer.empty).modifyCurrent
      fun buffer => (buffer.appendData data).1 := rfl
  unfold contents
  rw [added, filled, elements, map_append, map_cons, EventBuffer.appendData_take]
  rfl

lemma take_append_take (first second : List Byte) (count) :
    (first.take count ++ second).take count = (first ++ second).take count := by
  rw [take_append, take_append, take_take, Nat.min_self, length_take]
  congr 2
  omega

lemma contents_others (others : List (List Byte))
    (known : ring.contents = earlier ++ [event.take maxBufferSize]) :
    (others.foldl (fun ring block => (ring.addDataSuccessful block false).1) ring).contents =
      earlier ++ [(event ++ others.flatten).take maxBufferSize] := by
  induction others generalizing ring event with
  | nil => simpa using known
  | cons block others ih =>
    have next := ring.contents_continued known block
    rw [take_append_take] at next
    rw [flatten_cons, ← append_assoc]
    exact ih _ next

lemma contents_addEvent (event) :
    (ring.addEvent event).contents = ring.contents.tail ++ [event.kept] :=
  contents_others _ event.others (ring.contents_started event.first)

lemma rtake_full {elements} (event : List Byte) (full : elements.length = ring.size) :
    (elements ++ [event]).rtake ring.size = elements.tail ++ [event] := by
  have positive : 0 < elements.length := by
    rw [full]
    unfold Circular.size
    omega
  have one : (elements ++ [event]).length - ring.size = 1 := by
    rw [length_append, length_singleton]
    omega
  rw [rtake, one, drop_one, tail_append_of_ne_nil (ne_nil_of_length_pos positive)]

lemma contents_addEvents (events) :
    (ring.addEvents events).contents =
      (ring.contents ++ events.map EventBlocks.kept).rtake ring.size := by
  induction events using reverseRecOn with
  | nil =>
    rw [map_nil, append_nil, rtake_of_length_le (Nat.le_of_eq ring.contents_length)]
    rfl
  | append_singleton events event ih =>
    have positive : 0 < ring.size := by
      unfold Circular.size
      omega
    have same : ring.addEvents (events ++ [event]) = (ring.addEvents events).addEvent event := by
      simp [addEvents]
    have full : ((ring.contents ++ events.map EventBlocks.kept).rtake ring.size).length =
        ring.size := by
      rw [rtake_length, length_append, contents_length]
      omega
    rw [same, contents_addEvent, ih, map_append, map_singleton, ← append_assoc,
      ← rtake_snoc _ _ positive, rtake_full ring _ full]

lemma getEventBuffers_addEvents (blank : ring.contents = replicate ring.size [])
    (events) : (ring.addEvents events).getEventBuffers =
      ((events.map EventBlocks.kept).rtake ring.size).filter fun event => event ≠ [] := by
  have contents := ring.contents_addEvents events
  unfold getEventBuffers
  rw [show (ring.addEvents events).fromOldest.map EventBuffer.event = _ from contents, blank]
  generalize events.map EventBlocks.kept = kept
  by_cases few : kept.length ≤ ring.size
  · rw [rtake, drop_append_of_le_length (by simpa using few), rtake_of_length_le few]
    simp
  · rw [rtake, drop_append, rtake]
    simp

end

lemma contents_emptied (ring : EventBufferRing Byte) :
    ring.emptyEventBuffers.contents = replicate ring.size [] := by
  rw [eq_replicate_iff]
  constructor
  · simp [contents, emptyEventBuffers]
  · intro event member
    rw [contents, emptyEventBuffers, Circular.fromOldest_map, map_map] at member
    obtain ⟨buffer, _, rfl⟩ := mem_map.mp member
    rfl

lemma contents_setSize (size) : (constructed.setSize size : EventBufferRing Byte).contents =
    replicate (constructed.setSize size : EventBufferRing Byte).size [] := by
  have grown : ∀ more (ring : EventBufferRing Byte), ring.All (fun buffer => buffer.event = []) →
      (EventBufferRing.grown more ring).All fun buffer => buffer.event = [] := by
    intro more
    induction more with
    | zero => exact fun _ all => all
    | succ more ih => exact fun ring all => ih _ (Circular.all_pushBack all rfl)
  have all : (constructed.setSize size : EventBufferRing Byte).All fun buffer => buffer.event = [] := by
    refine grown _ _ ⟨?_, rfl, ?_⟩ <;>
    · intro buffer member
      cases member
  rw [eq_replicate_iff]
  refine ⟨by rw [contents_length], ?_⟩
  intro event member
  obtain ⟨buffer, inside, rfl⟩ := mem_map.mp member
  exact Circular.all_iff.mp all buffer inside

/-- The ring keeps the last events, each cut at the largest size of a buffer, and returns those of
them that are not empty; `addData` reports whether the whole block is stored. -/
theorem bounded_queue (ring : EventBufferRing Byte) (size : Nat) (events : List (EventBlocks Byte)) :
    (ring.emptyEventBuffers.addEvents events).getEventBuffers =
        ((events.map EventBlocks.kept).rtake ring.size).filter (fun event => event ≠ []) ∧
      ((constructed.setSize (size + 1) : EventBufferRing Byte).addEvents events).getEventBuffers =
        ((events.map EventBlocks.kept).rtake (size + 1)).filter (fun event => event ≠ []) ∧
      ∀ (data : List Byte) (startsEvent : Bool),
        (ring.addDataSuccessful data startsEvent).2 = true ↔
          (ring.addDataSuccessful data startsEvent).1.current.event =
            ring.eventBefore startsEvent ++ data := by
  have emptied : ring.emptyEventBuffers.size = ring.size := Circular.size_map _ _
  have sized : (constructed.setSize (size + 1) : EventBufferRing Byte).size = size + 1 := by
    rw [size_setSize]
    simp [constructed, Circular.size]
  refine ⟨?_, ?_, ?_⟩
  · have kept := getEventBuffers_addEvents ring.emptyEventBuffers
      (by rw [contents_emptied, emptied]) events
    rw [emptied] at kept
    exact kept
  · have kept := getEventBuffers_addEvents _ (contents_setSize (size + 1)) events
    rw [sized] at kept
    exact kept
  · intro data startsEvent
    cases startsEvent with
    | false => exact EventBuffer.appendData_successful ring.current data
    | true => exact EventBuffer.appendData_successful ring.advance.current.empty data

def emptyLast : List (EventBlocks Nat) := [⟨[1], []⟩, ⟨[2], []⟩, ⟨[], []⟩]

theorem empty_event_kept : ¬ ∀ (size : Nat) (events : List (EventBlocks Nat)),
    ((constructed.setSize (size + 1) : EventBufferRing Nat).addEvents events).getEventBuffers =
      ((events.map EventBlocks.kept).filter (fun event => event ≠ [])).rtake
        (min events.length (size + 1)) := by
  intro returns
  have kept := getEventBuffers_addEvents (constructed.setSize 2) (contents_setSize 2) emptyLast
  rw [returns 1 emptyLast] at kept
  exact absurd kept (by decide +kernel)

end EventBufferRing

end EmuLib.Rui
