import Mathlib.Algebra.Ring.Nat
import EmuLib.Rui.StepRun

/-!
The counts of a STEP run over all sequences of events and of changes of the masks: how they bound
the number of events that are needed, and when no more are.
-/

namespace EmuLib.Rui

open List

namespace STEPEventCounter

/-- `maskInput` and `unmaskInput`; an index outside the inputs is ignored. -/
def setMask (counter : STEPEventCounter) (dduInputIndex : Int) (masked : Bool) : STEPEventCounter :=
  if 0 ≤ dduInputIndex ∧ dduInputIndex < maxDDUInputs then
    { counter with
      inputs := counter.inputs.modify dduInputIndex.toNat fun input =>
        { input with isMaskedInput := masked } }
  else counter

def examining (counter : STEPEventCounter) (requestedEvents : Nat) (dduHeader : DataBlock) :
    STEPEventCounter :=
  if counter.isInitialized then counter else counter.initializeCounter requestedEvents dduHeader

def Reached (counter : STEPEventCounter) : Prop :=
  ∀ input ∈ counter.inputs, input.isLiveInput = true → input.isMaskedInput = false →
    counter.requestedEvents ≤ input.count

def OnlyCounted (counter : STEPEventCounter) (dduHeader : DataBlock) : Prop :=
  ∀ index input, counter.inputs[index]? = some input →
    (dduHeader.halfWord 18).testBit index = true →
      input.isLiveInput = true ∧ input.isMaskedInput = false

end STEPEventCounter

/-- The header of an event comes with the number of events requested at the time. -/
inductive CounterInput where
  | event (requestedEvents : Nat) (dduHeader : DataBlock)
  | maskInput (dduInputIndex : Int)
  | unmaskInput (dduInputIndex : Int)
  | reset

/-- The counter, with the number of events declared needed since it was reset. -/
structure Counting where
  counter : STEPEventCounter
  declared : Nat

namespace Counting

def constructed : Counting := ⟨.constructed, 0⟩

def step (counting : Counting) : CounterInput → Counting
  | .event requestedEvents dduHeader =>
    let needed := (counting.counter.examining requestedEvents dduHeader).isNeededEvent dduHeader
    ⟨needed.1, if needed.2 then counting.declared + 1 else counting.declared⟩
  | .maskInput dduInputIndex => ⟨counting.counter.setMask dduInputIndex true, counting.declared⟩
  | .unmaskInput dduInputIndex => ⟨counting.counter.setMask dduInputIndex false, counting.declared⟩
  | .reset => ⟨counting.counter.reset, 0⟩

def run (inputs : List CounterInput) : Counting := inputs.foldl step constructed

end Counting

def CounterInput.isEvent : CounterInput → Bool
  | .event _ _ => true
  | _ => false

/-- The request is so small, or the events so few, that no count of 64 bits can overflow. -/
def NoOverflow (inputs : List CounterInput) : Prop :=
  (∀ requestedEvents dduHeader, CounterInput.event requestedEvents dduHeader ∈ inputs →
      STEPEventCounter.maxDDUInputs * requestedEvents < word64) ∨
    inputs.countP CounterInput.isEvent < word64

section

variable {α : Type*} {weight : α → Nat} {change : Nat → α → α} {elements : List α}

lemma sum_mapIdx_le (grows : ∀ index element, elements[index]? = some element →
      weight element ≤ weight (change index element)) :
    (elements.map weight).sum ≤ ((elements.mapIdx change).map weight).sum := by
  induction elements generalizing change with
  | nil => simp
  | cons first rest ih =>
    rw [mapIdx_cons]
    apply Nat.add_le_add (grows 0 first rfl)
    exact ih fun index element there => grows (index + 1) element (by simpa using there)

lemma sum_mapIdx_lt {place grown}
    (grows : ∀ index element, elements[index]? = some element →
      weight element ≤ weight (change index element))
    (there : elements[place]? = some grown) (more : weight grown < weight (change place grown)) :
    (elements.map weight).sum < ((elements.mapIdx change).map weight).sum := by
  induction elements generalizing change place with
  | nil => cases there
  | cons first rest ih =>
    rw [mapIdx_cons]
    have later (index : Nat) (element : α) (inside : rest[index]? = some element) :
        weight element ≤ weight (change (index + 1) element) :=
      grows (index + 1) element (by simpa using inside)
    cases place with
    | zero =>
      obtain rfl : first = grown := by simpa using there
      exact Nat.add_lt_add_of_lt_of_le more (sum_mapIdx_le later)
    | succ place =>
      exact Nat.add_lt_add_of_le_of_lt (grows 0 first rfl)
        (ih later (by simpa using there) more)

variable {bound : Nat}

lemma sum_le_length_mul (bounded : ∀ element ∈ elements, weight element ≤ bound) :
    (elements.map weight).sum ≤ elements.length * bound := by
  induction elements with
  | nil => simp
  | cons first rest ih =>
    rw [forall_mem_cons] at bounded
    rw [map_cons, sum_cons, length_cons, Nat.succ_mul, Nat.add_comm]
    exact Nat.add_le_add (ih bounded.2) bounded.1

lemma sum_lt_length_mul {light} (bounded : ∀ element ∈ elements, weight element ≤ bound)
    (inside : light ∈ elements) (less : weight light < bound) :
    (elements.map weight).sum < elements.length * bound := by
  induction elements with
  | nil => cases inside
  | cons first rest ih =>
    rw [forall_mem_cons] at bounded
    rw [map_cons, sum_cons, length_cons, Nat.succ_mul, Nat.add_comm]
    rcases mem_cons.mp inside with rfl | later
    · exact Nat.add_lt_add_of_le_of_lt (sum_le_length_mul bounded.2) less
    · exact Nat.add_lt_add_of_lt_of_le (ih bounded.2 later) bounded.1

end

namespace STEPEventCounter

variable {counter : STEPEventCounter} {dduHeader : DataBlock}

def Wanting (counter : STEPEventCounter) (dduHeader : DataBlock) (index : Nat) (input : DDUInput) :
    Prop :=
  counter.inputs[index]? = some input ∧ (dduHeader.halfWord 18).testBit index = true ∧
    input.isMaskedInput = false ∧ input.count < counter.requestedEvents

def counted (dduHeader : DataBlock) (index : Nat) (input : DDUInput) : DDUInput :=
  if (dduHeader.halfWord 18).testBit index && !input.isMaskedInput then
    { input with count := (input.count + 1) % word64 }
  else input

lemma counted_count {input} (fits : input.count + 1 < word64) (index) :
    (counted dduHeader index input).count =
      if (dduHeader.halfWord 18).testBit index && !input.isMaskedInput then input.count + 1
      else input.count := by
  unfold counted
  split
  · exact Nat.mod_eq_of_lt fits
  · rfl

lemma isNeededEvent_cases (counter : STEPEventCounter) (dduHeader) :
    (counter.isNeededEvent dduHeader = (counter, false) ∧
        ∀ index input, ¬ counter.Wanting dduHeader index input) ∨
      (∃ index input, counter.Wanting dduHeader index input) ∧
        counter.isNeededEvent dduHeader =
          ({ counter with
              neededEvents := (counter.neededEvents + 1) % word64
              inputs := counter.inputs.mapIdx (counted dduHeader) }, true) := by
  have wanting : (counter.inputs.zipIdx.any fun entry =>
      (dduHeader.halfWord 18).testBit entry.2 && !entry.1.isMaskedInput &&
        decide (entry.1.count < counter.requestedEvents)) = true ↔
      ∃ index input, counter.Wanting dduHeader index input := by
    rw [any_eq_true]
    constructor
    · rintro ⟨⟨input, index⟩, member, test⟩
      simp only [Bool.and_eq_true, Bool.not_eq_true', decide_eq_true_eq] at test
      exact ⟨index, input, mem_zipIdx_iff_getElem?.mp member, test.1.1, test.1.2, test.2⟩
    · rintro ⟨index, input, there, data, unmasked, less⟩
      refine ⟨(input, index), mem_zipIdx_iff_getElem?.mpr there, ?_⟩
      simp [data, unmasked, less]
  by_cases needed : ∃ index input, counter.Wanting dduHeader index input
  · refine .inr ⟨needed, ?_⟩
    unfold isNeededEvent
    rw [if_pos (wanting.mpr needed)]
    rfl
  · refine .inl ⟨?_, fun index input wants => needed ⟨index, input, wants⟩⟩
    unfold isNeededEvent
    rw [if_neg fun test => needed (wanting.mp test)]

lemma not_needed (reached : counter.Reached) (only : counter.OnlyCounted dduHeader) :
    (counter.isNeededEvent dduHeader).2 = false := by
  rcases counter.isNeededEvent_cases dduHeader with ⟨same, _⟩ | ⟨⟨index, input, wants⟩, _⟩
  · rw [same]
  · obtain ⟨there, data, unmasked, less⟩ := wants
    have enough := reached input (mem_of_getElem? there) (only index input there data).1 unmasked
    omega

end STEPEventCounter

/-- What the counts say about the events that have been declared needed; `small` is that all
requests are. -/
structure Tallied (small : Prop) (events : Nat) (counting : Counting) : Prop where
  inputs : counting.counter.inputs.length = STEPEventCounter.maxDDUInputs
  counts : ∀ input ∈ counting.counter.inputs, input.count ≤ counting.declared
  total : counting.declared ≤
    (counting.counter.inputs.map fun input => min input.count counting.counter.requestedEvents).sum
  needed : counting.counter.neededEvents = counting.declared
  fresh : counting.counter.isInitialized = false → counting.declared = 0
  few : counting.declared ≤ events
  bounded : small → STEPEventCounter.maxDDUInputs * counting.counter.requestedEvents < word64

section

open STEPEventCounter

variable {small : Prop} {events : Nat} {counting : Counting} {dduHeader : DataBlock}

lemma tallied_constructed (small) : Tallied small 0 .constructed where
  inputs := rfl
  counts := by
    intro input inside
    rw [eq_of_mem_replicate inside]
    exact Nat.le_refl _
  total := Nat.zero_le _
  needed := rfl
  fresh := fun _ => rfl
  few := Nat.le_refl _
  bounded := fun _ => by decide

lemma Tallied.declared_le (tallied : Tallied small events counting) :
    counting.declared ≤ maxDDUInputs * counting.counter.requestedEvents := by
  have bound : (counting.counter.inputs.map fun input =>
      min input.count counting.counter.requestedEvents).sum ≤ _ :=
    sum_le_length_mul fun input _ => Nat.min_le_right _ _
  rw [tallied.inputs] at bound
  exact Nat.le_trans tallied.total bound

lemma Tallied.examining (tallied : Tallied small events counting) (requestedEvents dduHeader)
    (request : small → maxDDUInputs * requestedEvents < word64) :
    Tallied small events
      ⟨counting.counter.examining requestedEvents dduHeader, counting.declared⟩ := by
  unfold STEPEventCounter.examining
  cases initialized : counting.counter.isInitialized with
  | true => exact tallied
  | false =>
    have none := tallied.fresh initialized
    refine ⟨?_, ?_, ?_, ?_, fun _ => none, tallied.few, request⟩
    · simpa [initializeCounter] using tallied.inputs
    · intro input inside
      obtain ⟨index, _, same⟩ := mem_mapIdx.mp inside
      rw [← same]
      exact Nat.zero_le _
    · rw [none]
      exact Nat.zero_le _
    · exact none.symm

lemma Tallied.fits (tallied : Tallied small events counting) {place wanting}
    (wants : counting.counter.Wanting dduHeader place wanting) (room : small ∨ events + 1 < word64) :
    counting.declared + 1 < word64 := by
  obtain ⟨there, _, _, less⟩ := wants
  rcases room with requests | few_events
  · have light : min wanting.count counting.counter.requestedEvents <
        counting.counter.requestedEvents := by omega
    have short : (counting.counter.inputs.map fun input =>
        min input.count counting.counter.requestedEvents).sum < _ :=
      sum_lt_length_mul (fun input _ => Nat.min_le_right _ _) (mem_of_getElem? there) light
    rw [tallied.inputs] at short
    have total := tallied.total
    have bound := tallied.bounded requests
    omega
  · have few := tallied.few
    omega

lemma Tallied.isNeededEvent (tallied : Tallied small events counting)
    (initialized : counting.counter.isInitialized = true) (dduHeader)
    (room : small ∨ events + 1 < word64) :
    let needed := counting.counter.isNeededEvent dduHeader
    Tallied small (events + 1)
      ⟨needed.1, if needed.2 then counting.declared + 1 else counting.declared⟩ := by
  dsimp only
  have few := tallied.few
  rcases counting.counter.isNeededEvent_cases dduHeader with
    ⟨same, _⟩ | ⟨⟨place, wanting, there, data, unmasked, less⟩, same⟩
  · rw [same]
    exact { tallied with few := Nat.le_succ_of_le few }
  · have inside : wanting ∈ counting.counter.inputs := mem_of_getElem? there
    have fits := tallied.fits ⟨there, data, unmasked, less⟩ room
    have grows (index : Nat) (input : DDUInput)
        (known : counting.counter.inputs[index]? = some input) :
        min input.count counting.counter.requestedEvents ≤
          min (STEPEventCounter.counted dduHeader index input).count
            counting.counter.requestedEvents := by
      have below := tallied.counts input (mem_of_getElem? known)
      rw [counted_count (by omega)]
      split <;> omega
    have more : min wanting.count counting.counter.requestedEvents <
        min (STEPEventCounter.counted dduHeader place wanting).count
          counting.counter.requestedEvents := by
      have below := tallied.counts wanting inside
      have chosen : ((dduHeader.halfWord 18).testBit place && !wanting.isMaskedInput) = true := by
        rw [data, unmasked]
        rfl
      rw [counted_count (by omega), if_pos chosen]
      omega
    have total := sum_mapIdx_lt grows there more
    rw [same, if_pos rfl]
    refine ⟨?_, ?_, ?_, ?_, ?_, Nat.succ_le_succ few, tallied.bounded⟩
    · simpa using tallied.inputs
    · intro input known
      obtain ⟨index, bound, rfl⟩ := mem_mapIdx.mp known
      have below := tallied.counts _ (getElem_mem bound)
      rw [counted_count (by omega)]
      dsimp only
      split <;> omega
    · have before := tallied.total
      dsimp only
      omega
    · rw [tallied.needed, Nat.mod_eq_of_lt fits]
    · intro fresh
      rw [show counting.counter.isInitialized = false from fresh] at initialized
      cases initialized

lemma Tallied.setMask (tallied : Tallied small events counting) (dduInputIndex masked) :
    Tallied small events ⟨counting.counter.setMask dduInputIndex masked, counting.declared⟩ := by
  unfold STEPEventCounter.setMask
  split
  · have same (measure : DDUInput → Nat)
        (unmasked : ∀ input, measure { input with isMaskedInput := masked } = measure input) :
        (counting.counter.inputs.modify dduInputIndex.toNat fun input =>
          { input with isMaskedInput := masked }).map measure =
            counting.counter.inputs.map measure := by
      apply ext_getElem?
      intro index
      rw [getElem?_map, getElem?_map, getElem?_modify]
      split
      · cases counting.counter.inputs[index]? with
        | none => rfl
        | some input => exact congrArg some (unmasked input)
      · simp
    refine ⟨by simpa using tallied.inputs, ?_, ?_, tallied.needed, tallied.fresh, tallied.few,
      tallied.bounded⟩
    · have counts := same DDUInput.count fun _ => rfl
      intro input inside
      have member := mem_map_of_mem (f := DDUInput.count) inside
      rw [counts] at member
      obtain ⟨other, known, equal⟩ := mem_map.mp member
      exact equal ▸ tallied.counts other known
    · have weights := same (fun input => min input.count counting.counter.requestedEvents)
        fun _ => rfl
      rw [weights]
      exact tallied.total
  · exact tallied

lemma Tallied.reset (tallied : Tallied small events counting) :
    Tallied small events ⟨counting.counter.reset, 0⟩ where
  inputs := by simpa [STEPEventCounter.reset] using tallied.inputs
  counts := by
    intro input inside
    obtain ⟨other, _, rfl⟩ := mem_map.mp inside
    exact Nat.le_refl _
  total := Nat.zero_le _
  needed := rfl
  fresh := fun _ => rfl
  few := Nat.zero_le _
  bounded := fun _ => by
    have zero : maxDDUInputs * 0 < word64 := by decide
    exact zero

lemma examining_isInitialized (counter : STEPEventCounter) (requestedEvents dduHeader) :
    (counter.examining requestedEvents dduHeader).isInitialized = true := by
  unfold STEPEventCounter.examining
  cases initialized : counter.isInitialized with
  | true => exact initialized
  | false => rfl

lemma Tallied.step (tallied : Tallied small events counting) (input)
    (request : small → ∀ requestedEvents dduHeader, input = .event requestedEvents dduHeader →
      maxDDUInputs * requestedEvents < word64)
    (room : small ∨ events + [input].countP CounterInput.isEvent < word64) :
    Tallied small (events + [input].countP CounterInput.isEvent) (counting.step input) := by
  cases input with
  | event requestedEvents dduHeader =>
    have examined := tallied.examining requestedEvents dduHeader
      fun requests => request requests requestedEvents dduHeader rfl
    exact examined.isNeededEvent (examining_isInitialized _ _ _) dduHeader room
  | maskInput dduInputIndex => exact tallied.setMask dduInputIndex true
  | unmaskInput dduInputIndex => exact tallied.setMask dduInputIndex false
  | reset => exact { tallied.reset with few := Nat.zero_le _ }

lemma run_snoc (inputs input) :
    Counting.run (inputs ++ [input]) = (Counting.run inputs).step input := by
  simp [Counting.run]

lemma tallied_run {inputs}
    (requests : small → ∀ requestedEvents dduHeader,
      CounterInput.event requestedEvents dduHeader ∈ inputs →
        maxDDUInputs * requestedEvents < word64)
    (room : small ∨ inputs.countP CounterInput.isEvent < word64) :
    Tallied small (inputs.countP CounterInput.isEvent) (Counting.run inputs) := by
  induction inputs using reverseRecOn with
  | nil => exact tallied_constructed small
  | append_singleton inputs input ih =>
    rw [countP_append] at room ⊢
    rw [run_snoc]
    have before := ih
      (fun all requestedEvents dduHeader member =>
        requests all requestedEvents dduHeader (mem_append_left _ member))
      (room.imp_right fun few => by omega)
    apply before.step input _ room
    rintro all requestedEvents dduHeader rfl
    exact requests all requestedEvents dduHeader (by simp)

lemma tallied_prefix {before later} (room : NoOverflow (before ++ later)) :
    ∃ small, Tallied small (before.countP CounterInput.isEvent) (Counting.run before) ∧
      (small ∨ (before ++ later).countP CounterInput.isEvent < word64) ∧
      (small → ∀ requestedEvents dduHeader,
        CounterInput.event requestedEvents dduHeader ∈ before ++ later →
          maxDDUInputs * requestedEvents < word64) := by
  refine ⟨_, tallied_run (fun all requestedEvents dduHeader member =>
    all requestedEvents dduHeader (mem_append_left _ member)) ?_, room, fun all => all⟩
  refine room.imp_right fun few => ?_
  rw [countP_append] at few
  omega

lemma STEPEventCounter.Reached.isNeededEvent (reached : counting.counter.Reached)
    (tallied : Tallied small events counting) (room : small ∨ events + 1 < word64) :
    (counting.counter.isNeededEvent dduHeader).1.Reached := by
  rcases counting.counter.isNeededEvent_cases dduHeader with
    ⟨same, _⟩ | ⟨⟨place, wanting, wants⟩, same⟩
  · rw [same]
    exact reached
  · have fits := tallied.fits wants room
    rw [same]
    intro input inside live unmasked
    obtain ⟨index, bound, rfl⟩ := mem_mapIdx.mp inside
    have known : (counting.counter.inputs[index]).isLiveInput = true ∧
        (counting.counter.inputs[index]).isMaskedInput = false := by
      unfold STEPEventCounter.counted at live unmasked
      split at live
      next counts =>
        rw [if_pos counts] at unmasked
        exact ⟨live, unmasked⟩
      next counts =>
        rw [if_neg counts] at unmasked
        exact ⟨live, unmasked⟩
    have enough := reached _ (getElem_mem bound) known.1 known.2
    have below := tallied.counts _ (getElem_mem bound)
    rw [counted_count (by omega)]
    dsimp only
    split <;> omega

lemma STEPEventCounter.Reached.masked {counter : STEPEventCounter} (reached : counter.Reached)
    (dduInputIndex) : (counter.setMask dduInputIndex true).Reached := by
  unfold STEPEventCounter.setMask
  split
  · intro input inside live unmasked
    obtain ⟨index, there⟩ := mem_iff_getElem?.mp inside
    rw [getElem?_modify] at there
    split at there
    · cases known : counter.inputs[index]? with
      | none =>
        rw [known] at there
        cases there
      | some other =>
        rw [known] at there
        obtain rfl := Option.some.inj there
        cases unmasked
    · exact reached input (mem_of_getElem? (by simpa using there)) live unmasked
  · exact reached

end

def CounterInput.KeepsMasks : CounterInput → Prop
  | .event _ _ => True
  | .maskInput _ => True
  | .unmaskInput _ => False
  | .reset => False

lemma reached_later {before later} (room : NoOverflow (before ++ later))
    (masks : ∀ input ∈ later, input.KeepsMasks)
    (initialized : (Counting.run before).counter.isInitialized = true)
    (reached : (Counting.run before).counter.Reached) :
    (Counting.run (before ++ later)).counter.isInitialized = true ∧
      (Counting.run (before ++ later)).counter.Reached := by
  induction later using reverseRecOn with
  | nil =>
    rw [append_nil]
    exact ⟨initialized, reached⟩
  | append_singleton later input ih =>
    rw [← append_assoc] at room ⊢
    rw [run_snoc]
    obtain ⟨small, tallied, enough, _⟩ := tallied_prefix room
    have earlier : NoOverflow (before ++ later) := by
      refine room.imp (fun all requestedEvents dduHeader member =>
        all requestedEvents dduHeader (mem_append_left _ member)) fun few => ?_
      rw [countP_append] at few
      omega
    obtain ⟨started, so_far⟩ := ih earlier fun other member =>
      masks other (mem_append_left _ member)
    have last : input.KeepsMasks := masks input (by simp)
    cases input with
    | event requestedEvents dduHeader =>
      have same : (Counting.run (before ++ later)).counter.examining requestedEvents dduHeader =
          (Counting.run (before ++ later)).counter := by
        unfold STEPEventCounter.examining
        rw [if_pos started]
      rw [countP_append] at enough
      have next : ((Counting.run (before ++ later)).counter.isNeededEvent dduHeader).1.Reached :=
        so_far.isNeededEvent tallied enough
      unfold Counting.step
      dsimp only
      rw [same]
      refine ⟨?_, next⟩
      rcases STEPEventCounter.isNeededEvent_cases _ dduHeader with ⟨kept, _⟩ | ⟨_, kept⟩
      · rw [kept]
        exact started
      · rw [kept]
        exact started
    | maskInput dduInputIndex =>
      refine ⟨?_, so_far.masked dduInputIndex⟩
      unfold Counting.step STEPEventCounter.setMask
      dsimp only
      split <;> exact started
    | unmaskInput dduInputIndex => exact absurd last id
    | reset => exact absurd last id

/-- What holds after the inputs: no count exceeds the number of needed events, which is bounded by
the request; and no event of live and unmasked inputs is needed when all of them have reached the
request, or had when the last input was unmasked. -/
structure CountsRight (inputs : List CounterInput) : Prop where
  counts : ∀ input ∈ (Counting.run inputs).counter.inputs,
    input.count ≤ (Counting.run inputs).declared
  counter : (Counting.run inputs).counter.neededEvents = (Counting.run inputs).declared
  declared : (Counting.run inputs).declared ≤
    STEPEventCounter.maxDDUInputs * (Counting.run inputs).counter.requestedEvents
  enough : ∀ before later, inputs = before ++ later → (∀ input ∈ later, input.KeepsMasks) →
    (Counting.run before).counter.isInitialized = true → (Counting.run before).counter.Reached →
      ∀ requestedEvents dduHeader,
        (Counting.run inputs).counter.OnlyCounted dduHeader →
          ((Counting.run inputs).step (.event requestedEvents dduHeader)).declared =
            (Counting.run inputs).declared

/-- Whatever events come and whatever inputs are masked and unmasked, the counts are right. -/
theorem step_counts (inputs : List CounterInput) (room : NoOverflow inputs) :
    CountsRight inputs := by
  have tallied := tallied_run (fun all => all) room
  refine ⟨tallied.counts, tallied.needed, tallied.declared_le, ?_⟩
  rintro before later rfl masks initialized reached requestedEvents dduHeader only
  obtain ⟨started, still⟩ := reached_later room masks initialized reached
  have same : (Counting.run (before ++ later)).counter.examining requestedEvents dduHeader =
      (Counting.run (before ++ later)).counter := by
    unfold STEPEventCounter.examining
    rw [if_pos started]
  unfold Counting.step
  dsimp only
  rw [same, STEPEventCounter.not_needed still only, if_neg Bool.false_ne_true]

def headerOf (live nonEmpty : UInt8) : DataBlock :=
  ⟨24, fun position => if position = 22 then live else if position = 18 then nonEmpty else 0⟩

def oneRequested : List CounterInput := [.maskInput 1, .event 1 (headerOf 3 1)]

theorem step_counts_one : CountsRight oneRequested := by
  apply step_counts
  exact .inr (by decide)

theorem unmasked_needed : ¬ ∀ (before later : List CounterInput) (dduHeader : DataBlock),
    (Counting.run before).counter.isInitialized = true → (Counting.run before).counter.Reached →
      CounterInput.reset ∉ later →
        (Counting.run (before ++ later)).counter.OnlyCounted dduHeader →
          ((Counting.run (before ++ later)).counter.isNeededEvent dduHeader).2 = false := by
  intro never
  have one : (Counting.run oneRequested).counter.Reached := by
    unfold STEPEventCounter.Reached
    decide +kernel
  have only : (Counting.run (oneRequested ++ [.unmaskInput 1])).counter.OnlyCounted
      (headerOf 3 2) := by
    intro index input there data
    have word : (headerOf 3 2).halfWord 18 = 2 ^ 1 := by decide
    rw [word, Nat.testBit_two_pow, decide_eq_true_eq] at data
    subst data
    cases there
    exact ⟨rfl, rfl⟩
  have needed := never oneRequested [.unmaskInput 1] (headerOf 3 2) (by decide +kernel) one
    (by simp) only
  exact absurd needed (by decide +kernel)

end EmuLib.Rui
