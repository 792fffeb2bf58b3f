import EmuLib.Lib.GuardedRun
import EmuLib.Rui.Passes

/-!
The super-fragments that the readout unit is sent.  In the abstract there is one fragment
for each event, with the data of the event in the order read; the queue of blocks is what
these fragments look like when their blocks are numbered.
-/

namespace EmuLib.Rui

open GuardedRun List Option

structure Fragment where
  number : Nat
  datas : List (List UInt8)

namespace Fragment

def emptyEvent (number : Nat) : Fragment := ⟨number, [[]]⟩

def add (fragment : Fragment) (data : List UInt8) : Fragment :=
  { fragment with datas := fragment.datas ++ [data] }

/-- The blocks of the fragment when its event has ended: numbered from 0 on, each with their
count. -/
def blocks (fragment : Fragment) : List Block :=
  fragment.datas.mapIdx fun blockNb data =>
    ⟨fragment.number, blockNb, fragment.datas.length, data⟩

def rawBlocks (fragment : Fragment) : List Block :=
  fragment.datas.map (fillBlock · fragment.number)

end Fragment

lemma rawBlocks_add (fragment : Fragment) (data) :
    (fragment.add data).rawBlocks = fragment.rawBlocks ++ [fillBlock data fragment.number] := by
  simp [Fragment.add, Fragment.rawBlocks]

def blocksOf (fragments : List Fragment) : List Block := fragments.flatMap Fragment.blocks

@[simp] lemma blocksOf_nil : blocksOf [] = [] := rfl

structure Events where
  ended : List Fragment
  current : Option Fragment

def Events.none : Events := ⟨[], Option.none⟩

def Events.begin (events : Events) (header : Bool) (inserted : List Nat) (number : Nat) :
    List Fragment × Fragment :=
  match events.current, header with
  | some fragment, false => (events.ended, fragment)
  | some fragment, true =>
    (events.ended ++ [fragment] ++ inserted.map Fragment.emptyEvent, ⟨number, []⟩)
  | Option.none, _ => (events.ended ++ inserted.map Fragment.emptyEvent, ⟨number, []⟩)

def Events.read (config : Config) (rui : Application) (input : PassInput) (block : DataBlock)
    (events : Events) : Events :=
  let begun := events.begin (hasHeader config.inputDataFormat block)
    (insertedBefore config input.reading input.pool block rui)
    (blockNumber config input.reading block rui)
  let fragment := if Accepts config input.pool then begun.2.add block.bytes else begun.2
  if hasTrailer config.inputDataFormat block then ⟨begun.1 ++ [fragment], Option.none⟩
  else ⟨begun.1, some fragment⟩

/-- The application with the events that it has read and the blocks of them that it has sent.
A pass without a frame for its block fails the application, and nothing comes after it. -/
structure Assembly where
  rui : Application
  events : Events
  sent : List Block
  failed : Bool

def Assembly.start : Assembly :=
  ⟨configureAction Application.constructed, Events.none, [], false⟩

def blockTaken (config : Config) (rui : Application) (input : PassInput) : Option DataBlock :=
  if rui.blocksArePendingTransmission = false ∧
      ¬ (0 ≤ config.maxEvents ∧ config.maxEvents ≤ rui.nEventsRead) ∧
      input.reading.nBytesRead ≠ 0 then
    input.reading.data.filter fun block => block.length ≠ 0
  else none

def Assembly.pass (config : Config) (assembly : Assembly) (input : PassInput) : Assembly :=
  if assembly.failed then assembly
  else
    let rui := processAndCommunicate config assembly.rui input
    if assembly.rui.blocksArePendingTransmission then
      if input.posted && rui.superFragBlocks.isEmpty then ⟨rui, Events.none, [], false⟩
      else if input.posted then
        ⟨rui, assembly.events, assembly.sent ++ assembly.rui.superFragBlocks.take 1, false⟩
      else { assembly with rui := rui }
    else
      match blockTaken config assembly.rui input with
      | none => { assembly with rui := rui }
      | some block =>
        { assembly with
          rui := rui
          events := assembly.events.read config assembly.rui input block
          failed := decide (Accepts config input.pool) && !input.pool.dataFrame }

section

variable {config : Config} {rui : Application} {input : PassInput} {block : DataBlock}

structure Building (rui : Application) (ended : List Fragment) (fragment : Fragment) : Prop where
  number : fragment.number = rui.eventNumber
  queue : rui.superFragBlocks = blocksOf ended ++ fragment.rawBlocks
  differ : ∀ queued ∈ blocksOf ended, queued.eventNumber ≠ rui.eventNumber

lemma Building.same {later ended fragment}
    (building : Building rui ended fragment) (same : SameStream rui later) :
    Building later ended fragment where
  number := building.number.trans same.eventNumber.symm
  queue := same.superFragBlocks.trans building.queue
  differ := by
    rw [same.eventNumber]
    exact building.differ

lemma Building.append {ended fragment} (building : Building rui ended fragment) (config pool) :
    Building (appendedTo config pool block rui) ended
      (if Accepts config pool then fragment.add block.bytes else fragment) := by
  by_cases accepts : Accepts config pool
  · rw [if_pos accepts]
    refine ⟨building.number, ?_, building.differ⟩
    simp only [appendedTo, appendedBlocks, accepts, if_true]
    rw [rawBlocks_add, ← append_assoc, ← building.queue, building.number]
  · rw [if_neg accepts]
    refine ⟨building.number, ?_, building.differ⟩
    simp only [appendedTo, appendedBlocks, accepts, if_false, append_nil]
    exact building.queue

structure Going (rui : Application) (events : Events) (sent : List Block) : Prop where
  counted : Counted rui
  inside : rui.insideEvent = events.current.isSome
  building : ∀ fragment ∈ events.current,
    rui.blocksArePendingTransmission = false ∧ sent = [] ∧ Building rui events.ended fragment
  complete : events.current = none → sent ++ rui.superFragBlocks = blocksOf events.ended ∧
    (rui.blocksArePendingTransmission = false → events.ended = [] ∧ sent = [])

variable {events : Events} {sent : List Block}

lemma Going.same {later} (going : Going rui events sent)
    (same : SameStream rui later) : Going later events sent where
  counted inside := by
    rw [same.inside] at inside
    exact lt_of_lt_of_le (going.counted inside) same.passes
  inside := same.inside.trans going.inside
  building fragment current := by
    obtain ⟨notPending, noneSent, building⟩ := going.building fragment current
    exact ⟨same.pending.trans notPending, noneSent, building.same same⟩
  complete none := by
    rw [same.superFragBlocks, same.pending]
    exact going.complete none

def Assembly.Sound (assembly : Assembly) : Prop :=
  if assembly.failed then assembly.rui.blocksArePendingTransmission = false
  else Going assembly.rui assembly.events assembly.sent

lemma Assembly.start_sound : Assembly.start.Sound :=
  ⟨fun inside => absurd inside Bool.false_ne_true, rfl, by simp [Assembly.start, Events.none],
    fun _ => ⟨rfl, fun _ => ⟨rfl, rfl⟩⟩⟩

variable {assembly : Assembly}

lemma Going.pending (going : Going rui events sent)
    (pending : rui.blocksArePendingTransmission = true) :
    events.current = none ∧ sent ++ rui.superFragBlocks = blocksOf events.ended := by
  cases current : events.current with
  | none => exact ⟨rfl, (going.complete current).1⟩
  | some fragment =>
    have notPending := (going.building fragment current).1
    rw [pending] at notPending
    cases notPending

lemma Assembly.Sound.going (sound : assembly.Sound)
    (pending : assembly.rui.blocksArePendingTransmission = true) :
    Going assembly.rui assembly.events assembly.sent := by
  unfold Assembly.Sound at sound
  split at sound
  · rw [pending] at sound
    cases sound
  · exact sound

end

end EmuLib.Rui
