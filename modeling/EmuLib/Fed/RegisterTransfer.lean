import EmuLib.Fed.TransferWords
import EmuLib.Lib.SerialChain
import EmuLib.Lib.TapController

/-!
JTAG transfers of the FED boards with an ideal chain: a shift register for the addressed element
and one bit for each other.
-/

namespace EmuLib.Fed

open Operations WordBits SerialChain TapController List

/-- What is in a chain: the bits of the elements before the addressed one, its register, and the
bits of the elements after it. -/
structure Contents where
  before : List Bool
  held : List Bool
  after : List Bool

def Contents.registers (contents : Contents) : List (List Bool) :=
  contents.before.map List.singleton ++ contents.held :: contents.after.map List.singleton

def Contents.chain (contents : Contents) : List (List Bool) := contents.registers.reverse

def strokes : Cycle → List (Bool × Bool)
  | .read _ => []
  | .write _ data => [(data.toNat.testBit 0, data.toNat.testBit 1)]

def dataBits (actions : List Action) : List Bool :=
  actions.filterMap fun action =>
    match action with
    | .shifted .data tdi => some tdi
    | _ => none

/-- What the cycles shift into the data registers. The RESET path leads to the lines of the port
themselves. -/
def shiftedBits (dev : DevType) (cycles : List Cycle) : List Bool :=
  if dev = .RESET then dataBits (follow (.runTestIdle, []) (cycles.flatMap strokes)).2
  else cycles.flatMap wordBits

def latchAfter (contents : Contents) (latch : List Bool) (cycles : List Cycle) : List Bool :=
  (latch ++ (shift contents.chain (cycles.flatMap wordBits)).2).drop
    (shift contents.chain (cycles.flatMap wordBits)).2.length

/-- What is read is what has left the chain; the RESET path is not read. The calls are counted from
the first one. -/
def Shows (dev : DevType) (bus : Bus) (contents : Contents) (latch : List Bool) (first : Nat)
    (cycles : List Cycle) : Prop :=
  dev ≠ .RESET → ∀ index address, cycles[index]? = some (.read address) → ∀ bit < 16,
    (bus.data (first + index)).toNat.testBit bit =
      (latchAfter contents latch (cycles.take index)).getD bit false

def registerAfter (dev : DevType) (contents : Contents) (cycles : List Cycle) : List Bool :=
  (shift contents.chain (shiftedBits dev cycles)).1.reverse.getD contents.before.length []

section

variable {contents : Contents} {latch : List Bool}

lemma chain_stream (contents : Contents) :
    stream contents.chain = contents.before ++ (contents.held ++ contents.after) := by
  have singles : ∀ bits : List Bool, (bits.map List.singleton).flatten = bits := by
    intro bits
    induction bits with
    | nil => rfl
    | cons bit rest ih => exact congrArg (bit :: ·) ih
  rw [stream, Contents.chain, reverse_reverse, Contents.registers, flatten_append,
    flatten_cons, singles, singles]

lemma shift_out (chain : List (List Bool)) (bits) :
    (shift chain bits).2 = (stream chain ++ bits).take bits.length := by
  rw [shift_stream, take_left' (shift_length chain bits)]

lemma shift_left (chain : List (List Bool)) (bits) :
    stream (shift chain bits).1 = (stream chain ++ bits).drop bits.length := by
  rw [shift_stream, drop_left' (shift_length chain bits)]

lemma latchAfter_getD (sixteen : latch.length = 16) (cycles) {bit}
    (inside : bit < 16) (replaced : 16 ≤ (cycles.flatMap wordBits).length + bit) :
    (latchAfter contents latch cycles).getD bit false =
      (stream contents.chain ++ cycles.flatMap wordBits).getD
        ((cycles.flatMap wordBits).length + bit - 16) false := by
  have behind : latch.length ≤
      (shift contents.chain (cycles.flatMap wordBits)).2.length + bit := by
    rw [shift_length, sixteen]
    exact replaced
  rw [latchAfter, getD_eq_getElem?_getD, getElem?_drop,
    getElem?_append_right behind, shift_length, sixteen, shift_out,
    getElem?_take_of_lt (by omega), ← getD_eq_getElem?_getD]

lemma register_at {registers : List (List Bool)} {count long lengths}
    (shape : registers.map List.length = replicate count 1 ++ long :: lengths) :
    registers.getD count [] = (registers.flatten.drop count).take long := by
  induction count generalizing registers with
  | zero =>
    cases registers with
    | nil => cases shape
    | cons register further =>
      have same : register.length = long := (List.cons.inj shape).1
      rw [flatten_cons, drop_zero, take_left' same]
      rfl
  | succ count ih =>
    cases registers with
    | nil => cases shape
    | cons register further =>
      obtain ⟨one, rest⟩ := List.cons.inj shape
      obtain ⟨bit, rfl⟩ := length_eq_one_iff.mp one
      rw [getD_cons_succ, ih rest]
      rfl

lemma registerAfter_eq (dev contents cycles) :
    registerAfter dev contents cycles =
      ((stream contents.chain ++ shiftedBits dev cycles).drop
        ((shiftedBits dev cycles).length + contents.before.length)).take contents.held.length := by
  have singles : ∀ bits : List Bool,
      (bits.map List.singleton).map List.length = replicate bits.length 1 := by
    intro bits
    induction bits with
    | nil => rfl
    | cons bit rest ih => exact congrArg (1 :: ·) ih
  have shape := shift_shape contents.chain (shiftedBits dev cycles)
  have turned : (shift contents.chain (shiftedBits dev cycles)).1.reverse.map List.length =
      replicate contents.before.length 1 ++
        contents.held.length :: contents.after.map fun _ => 1 := by
    rw [map_reverse, shape, Contents.chain, map_reverse, reverse_reverse,
      Contents.registers, map_append, map_cons, singles, map_map]
    rfl
  have flat : (shift contents.chain (shiftedBits dev cycles)).1.reverse.flatten =
      stream (shift contents.chain (shiftedBits dev cycles)).1 := rfl
  rw [registerAfter, register_at turned, flat, shift_left, drop_drop]

end

section

variable {board : VmeModule} {bus : Bus} {contents : Contents} {latch : List Bool}
  {transfer : Transfer}

lemma bits_length (sent count) :
    (transfer.bits sent count).length = min count transfer.allBits.toNat := by
  simp [Transfer.bits]

lemma gathered_bits (few : transfer.extraBits ≤ 16) (sixteen : latch.length = 16)
    (inSlot : board.vmeAddress &&& 0xf00 = 0) {dev} (other : dev ≠ .RESET) {sent first}
    (shows : Shows dev bus contents latch first (transfer.cycles board sent false)) (place) :
    bitOf (gather bus transfer.extraBits (transfer.sampled bus first)) place =
      (decide (place + transfer.extraBits < transfer.allBits.toNat) &&
        (stream contents.chain ++ transfer.bits sent (16 * wordsFor transfer.allBits)).getD
          (place + transfer.extraBits) false) := by
  rw [gather_bits few, sampled_bits]
  generalize place + transfer.extraBits = source
  by_cases within : source < transfer.allBits.toNat
  · have inside : source / 16 < wordsFor transfer.allBits := by
      rw [wordsFor_eq]
      omega
    have bits := bits_before transfer inSlot sent inside
    have long := @bits_length transfer sent (16 * (source / 16 + 1))
    have reached : min (16 * (source / 16 + 1)) transfer.allBits.toNat +
        (source + 16 - min (16 * (source / 16 + 1)) transfer.allBits.toNat) - 16 = source := by
      omega
    have shown := shows other (2 * (source / 16) + 1) _ (read_at transfer board sent inside)
      (source + 16 - min (16 * (source / 16 + 1)) transfer.allBits.toNat) (by omega)
    rw [← Nat.add_assoc] at shown
    rw [shown, latchAfter_getD sixteen _ (by omega) (by rw [bits]; omega), bits, long,
      reached, bits_prefix transfer sent (16 * (source / 16 + 1)),
      getD_eq_getElem?_getD, getD_eq_getElem?_getD]
    congr 1
    rcases Nat.lt_or_ge source (stream contents.chain).length with early | late
    · rw [getElem?_append_left early, getElem?_append_left early]
    · rw [getElem?_append_right late, getElem?_append_right late,
        getElem?_take_of_lt (by omega)]
  · rw [decide_eq_false within, Bool.false_and, Bool.false_and]

end

section

variable {dev : DevType}

/-- The addressed element is the only one of its device in the chain. -/
structure Targets (chain : JtagChain dev) (before : List JtagElement) (target : JtagElement)
    (after : List JtagElement) : Prop where
  split : chain.elements = before ++ target :: after
  named : target.dev = dev
  others : ∀ element ∈ before ++ after, element.dev ≠ dev
  /-- The elements are counted in 32 bits. -/
  countable : chain.elements.length < 4294967296

structure Contents.Fits (contents : Contents) (before after nBits : Nat) : Prop where
  before : contents.before.length = before
  held : contents.held.length = nBits
  after : contents.after.length = after

variable {chain : JtagChain dev} {before after : List JtagElement} {target : JtagElement}
  {nBits : UInt32}

lemma takeWhile_before {first rest} (named : target.dev = dev)
    (others : ∀ element ∈ first, element.dev ≠ dev) :
    ((first ++ target :: rest).takeWhile fun element => element.dev ≠ dev) = first := by
  induction first with
  | nil => simp [named]
  | cons element further ih =>
    have here := others element mem_cons_self
    have later := ih fun other inside => others other (mem_cons_of_mem _ inside)
    rw [cons_append, takeWhile_cons, later]
    simp [here]

lemma Targets.readExtra (targets : Targets chain before target after) (nBits) :
    (readTransfer chain nBits).extraBits = before.length := by
  have others : ∀ element ∈ before, element.dev ≠ dev := fun element inside =>
    targets.others element (mem_append_left _ inside)
  rw [readTransfer, targets.split, takeWhile_before targets.named others]

lemma Targets.writeExtra (targets : Targets chain before target after) (nBits) :
    (writeTransfer chain nBits).extraBits = after.length := by
  have others : ∀ element ∈ after.reverse, element.dev ≠ dev := fun element inside =>
    targets.others element (mem_append_right _ (mem_reverse.mp inside))
  have turned : (before ++ target :: after).reverse =
      after.reverse ++ target :: before.reverse := by simp
  rw [writeTransfer, targets.split, turned, takeWhile_before targets.named others, length_reverse]

lemma Targets.short (targets : Targets chain before target after) :
    before.length + after.length < 4294967296 := by
  have countable := targets.countable
  rw [targets.split, length_append, length_cons] at countable
  omega

lemma allBits_eq (transfer : Transfer) :
    transfer.allBits.toNat = (transfer.nBits.toNat + transfer.extraBits) % 4294967296 := by
  show (transfer.nBits.toNat + transfer.extraBits % 4294967296) % 4294967296 = _
  omega

end

section

def IsRegister (result : List UInt16) (held : List Bool) : Prop :=
  held.length ≤ 16 * result.length ∧ ∀ place, bitOf result place = held.getD place false

variable {board : VmeModule} {bus : Bus} {contents : Contents} {latch : List Bool}
  {transfer : Transfer} {before after : Nat}

lemma sampled_length (bus first) :
    (transfer.sampled bus first).length = wordsFor transfer.allBits := by
  simp [Transfer.sampled]

lemma gather_isRegister (few : transfer.extraBits ≤ 16)
    (short : transfer.nBits.toNat + transfer.extraBits < 4294967296) (sixteen : latch.length = 16)
    (inSlot : board.vmeAddress &&& 0xf00 = 0) {dev} (other : dev ≠ .RESET)
    (fits : contents.Fits transfer.extraBits after transfer.nBits.toNat) {sent first}
    (shows : Shows dev bus contents latch first (transfer.cycles board sent false)) :
    IsRegister (gather bus transfer.extraBits (transfer.sampled bus first)) contents.held := by
  have all : transfer.allBits.toNat = transfer.nBits.toNat + transfer.extraBits := by
    rw [allBits_eq, Nat.mod_eq_of_lt short]
  constructor
  · rw [gather_length, sampled_length, wordsFor_eq, fits.held]
    omega
  · intro place
    rw [gathered_bits few sixteen inSlot other shows, all, chain_stream]
    by_cases inside : place < transfer.nBits.toNat
    · have reached : place + transfer.extraBits < transfer.nBits.toNat + transfer.extraBits := by
        omega
      have long : place < contents.held.length := by rwa [fits.held]
      have behind : contents.before.length ≤ place + transfer.extraBits := by
        rw [fits.before]
        exact Nat.le_add_left ..
      rw [decide_eq_true reached, Bool.true_and, append_assoc, getD_append_right _ _ _ _ behind,
        fits.before, Nat.add_sub_cancel, append_assoc, getD_append _ _ _ _ long]
    · have beyond : ¬ place + transfer.extraBits < transfer.nBits.toNat + transfer.extraBits := by
        omega
      have outside : contents.held.length ≤ place := by
        rw [fits.held]
        exact Nat.le_of_not_lt inside
      rw [decide_eq_false beyond, Bool.false_and, getD_eq_default _ _ outside]

lemma gather_isRegister_empty (few : transfer.extraBits ≤ 16) (none : transfer.nBits.toNat = 0)
    (first) : IsRegister (gather bus transfer.extraBits (transfer.sampled bus first)) [] := by
  refine ⟨Nat.zero_le _, fun place => ?_⟩
  have beyond : ¬ place + transfer.extraBits < transfer.allBits.toNat := by
    rw [allBits_eq]
    omega
  rw [gather_bits few, sampled_bits, decide_eq_false beyond]
  rfl

variable {extraBits : Nat}

lemma pushShifted_many (many : 16 < extraBits) (earlier previous word) :
    ∃ last, pushShifted bus (earlier ++ [previous]) word extraBits =
      earlier ++ [previous ||| bus.stray extraBits] ++ [last] := by
  have some : extraBits ≠ 0 := by omega
  have undefined : ¬ extraBits ≤ 16 := by omega
  simp [pushShifted, some, undefined]

lemma gather_stray (many : 16 < extraBits) {words} (two : 2 ≤ words.length)
    (high : (bus.stray extraBits).toNat.testBit 0 = true) :
    bitOf (gather bus extraBits words) 0 = true := by
  induction words using reverseRecOn with
  | nil => exact absurd two (by decide)
  | append_singleton earlier word ih =>
    have long := @gather_length bus extraBits earlier
    rw [length_append, length_singleton] at two
    rw [gather_snoc]
    rcases eq_nil_or_concat (gather bus extraBits earlier) with none | ⟨front, last, split⟩
    · rw [none, length_nil] at long
      omega
    · rw [concat_eq_append] at split
      obtain ⟨pushed, same⟩ := @pushShifted_many bus _ many front last word
      rw [split, same, bitOf_append_left (by simp)]
      cases front with
      | nil =>
        rw [nil_append, bitOf_single, UInt16.toNat_or, Nat.testBit_or, high, Bool.or_true]
      | cons first rest =>
        have before := ih (by rw [← long, split]; simp)
        rw [split] at before
        exact before

lemma gather_single (many : 16 < extraBits) {words} (one : words.length ≤ 1)
    (low : bus.stray extraBits = 0) : bitOf (gather bus extraBits words) 0 = false := by
  cases words with
  | nil => exact bitOf_beyond (Nat.zero_le _)
  | cons word rest =>
    obtain rfl : rest = [] := eq_nil_of_length_eq_zero (by simpa using one)
    have some : extraBits ≠ 0 := by omega
    have shifted : gather bus extraBits [word] =
        [if extraBits < 32 then UInt16.ofNat (word.toNat >>> extraBits)
          else bus.stray extraBits] := by
      simp [gather, pushShifted, some]
    rw [shifted, bitOf_single]
    split
    · rw [shiftRight_testBit]
      exact testBit_beyond word (by omega)
    · rw [low]
      rfl

lemma not_isRegister
    (bad : ¬ (transfer.extraBits ≤ 16 ∧
      transfer.nBits.toNat + transfer.extraBits < 4294967296))
    (countable : transfer.extraBits < 4294967296) :
    ∃ stray held, held.length = transfer.nBits.toNat ∧
      ∀ bus : Bus, bus.stray = stray → ∀ first,
        ¬ IsRegister (gather bus transfer.extraBits (transfer.sampled bus first)) held := by
  have all := allBits_eq transfer
  by_cases few : transfer.extraBits ≤ 16
  · -- the register does not fit in what is returned
    refine ⟨fun _ => 0, replicate transfer.nBits.toNat false, length_replicate, ?_⟩
    rintro bus _ first ⟨room, _⟩
    rw [length_replicate, gather_length, sampled_length, wordsFor_eq] at room
    omega
  · have many : 16 < transfer.extraBits := by omega
    by_cases two : 2 ≤ wordsFor transfer.allBits
    · refine ⟨fun _ => 0xffff, replicate transfer.nBits.toNat false, length_replicate, ?_⟩
      rintro bus stray first ⟨_, same⟩
      have high : (bus.stray transfer.extraBits).toNat.testBit 0 = true := by
        rw [stray]
        exact show (0xffff : UInt16).toNat.testBit 0 = true by decide
      have found := gather_stray many (by rwa [@sampled_length transfer bus first]) high
      rw [same] at found
      simp at found
    · refine ⟨fun _ => 0, replicate transfer.nBits.toNat true, length_replicate, ?_⟩
      rintro bus stray first ⟨_, same⟩
      have low : bus.stray transfer.extraBits = 0 := by rw [stray]
      have found := gather_single many (by rw [@sampled_length transfer bus first]; omega) low
      have some : 0 < transfer.nBits.toNat := by
        rw [wordsFor_eq] at two
        omega
      rw [same, getD_replicate _ some] at found
      cases found

end

section

def wordOf (bits : List Bool) : UInt16 :=
  UInt16.ofNat (Nat.ofBits fun bit : Fin 16 => bits.getD bit false)

lemma wordOf_testBit (bits) {bit} (inside : bit < 16) :
    (wordOf bits).toNat.testBit bit = bits.getD bit false := by
  rw [wordOf, ofNat_testBit, Nat.testBit_ofBits_lt _ _ inside, decide_eq_true inside, Bool.true_and]

def idealBus (stray : Nat → UInt16) (contents : Contents) (latch : List Bool) (first : Nat)
    (cycles : List Cycle) : Bus where
  succeeds := fun _ => true
  data := fun call => wordOf (latchAfter contents latch (cycles.take (call - first)))
  stray := stray

variable {stray : Nat → UInt16} {contents : Contents} {latch : List Bool} {first : Nat}
  {cycles : List Cycle}

lemma idealBus_shows (dev) :
    Shows dev (idealBus stray contents latch first cycles) contents latch first cycles := by
  intro _ index address _ bit inside
  have here : first + index - first = index := Nat.add_sub_cancel_left ..
  rw [idealBus, wordOf_testBit _ inside, here]

lemma idealBus_answers {board} (real : board.fake = false) :
    Answers board (idealBus stray contents latch first cycles) :=
  ⟨real, fun _ => rfl⟩

end

section

variable {dev : DevType}

/-- Whatever an ideal chain holds, the content of the addressed register is returned. -/
def ReadsBack (board : VmeModule) (dev : DevType) (before after : Nat) (nBits : UInt32) : Prop :=
  ∀ (bus : Bus) (state : VmeState) (contents : Contents) (latch : List Bool),
    Answers board bus → contents.Fits before after nBits.toNat → latch.length = 16 →
    ∃ result cycles, Performs (jtagRead board bus dev nBits) state result cycles ∧
      (Shows dev bus contents latch state.calls cycles → IsRegister result contents.held)

def ShiftsIn (board : VmeModule) (dev : DevType) (before after : Nat) (nBits : UInt32)
    (data : List UInt16) (noRead : Bool) : Prop :=
  ∀ (bus : Bus) (state : VmeState) (contents : Contents), Answers board bus →
    contents.Fits before after nBits.toNat →
    ∃ result cycles, Performs (jtagWrite board bus dev nBits data noRead) state result cycles ∧
      registerAfter dev contents cycles = (List.range nBits.toNat).map (bitOf data)

def ReturnsHeld (board : VmeModule) (dev : DevType) (before after : Nat) (nBits : UInt32)
    (data : List UInt16) : Prop :=
  ∀ (bus : Bus) (state : VmeState) (contents : Contents) (latch : List Bool),
    Answers board bus → contents.Fits before after nBits.toNat → latch.length = 16 →
    ∃ result cycles, Performs (jtagWrite board bus dev nBits data false) state result cycles ∧
      (Shows dev bus contents latch state.calls cycles → IsRegister result contents.held)

variable {board : VmeModule} {chain : JtagChain dev} {before after : List JtagElement}
  {target : JtagElement} {nBits : UInt32}

lemma Performs.value_eq {operation : Vme Value} {state value other cycles others} (performs : Performs operation state value cycles)
    (also : Performs operation state other others) : other = value :=
  Except.ok.inj (also.returns.symm.trans performs.returns)

lemma fits_held {held} (before after) :
    Contents.Fits ⟨replicate before false, held, replicate after false⟩ before after
      held.length :=
  ⟨length_replicate, rfl, length_replicate⟩

def idealRead (board : VmeModule) (chain : JtagChain dev) (nBits : UInt32)
    (stray : Nat → UInt16) (contents : Contents) : Bus :=
  idealBus stray contents (List.replicate 16 false) 0
    ((readTransfer chain nBits).cycles board (fun _ => 0xffff) false)

def idealWrite (board : VmeModule) (chain : JtagChain dev) (nBits : UInt32) (data : List UInt16)
    (stray : Nat → UInt16) (contents : Contents) : Bus :=
  idealBus stray contents (List.replicate 16 false) 0
    ((writeTransfer chain nBits).cycles board
      (writtenWord ⟨fun _ => true, fun _ => 0, stray⟩ (writeTransfer chain nBits) data) false)

lemma ReadsBack.register {contents} (reads : ReadsBack board dev before.length after.length nBits)
    (real : board.fake = false) (mapped : board.jtagMap dev = some chain)
    (fits : contents.Fits before.length after.length nBits.toNat) (stray) :
    IsRegister (gather (idealRead board chain nBits stray contents)
      (readTransfer chain nBits).extraBits ((readTransfer chain nBits).sampled
        (idealRead board chain nBits stray contents) 0)) contents.held := by
  have answers : Answers board (idealRead board chain nBits stray contents) :=
    idealBus_answers real
  obtain ⟨result, cycles, performs, register⟩ := reads _ ⟨0, 0, []⟩ contents
    (replicate 16 false) answers fits length_replicate
  have known := performs_jtagRead answers mapped nBits ⟨0, 0, []⟩
  rw [known.made_eq performs, known.value_eq performs] at register
  exact register (idealBus_shows dev)

lemma ReturnsHeld.register {contents data}
    (returns : ReturnsHeld board dev before.length after.length nBits data)
    (real : board.fake = false) (mapped : board.jtagMap dev = some chain) (other : dev ≠ .RESET)
    (fits : contents.Fits before.length after.length nBits.toNat) (stray) :
    IsRegister (gather (idealWrite board chain nBits data stray contents)
      (writeTransfer chain nBits).extraBits ((writeTransfer chain nBits).sampled
        (idealWrite board chain nBits data stray contents) 0)) contents.held := by
  have answers : Answers board (idealWrite board chain nBits data stray contents) :=
    idealBus_answers real
  obtain ⟨result, cycles, performs, register⟩ := returns _ ⟨0, 0, []⟩ contents
    (replicate 16 false) answers fits length_replicate
  have known := performs_jtagWrite answers mapped other nBits data ⟨0, 0, []⟩
  rw [known.made_eq performs, known.value_eq performs] at register
  exact register (idealBus_shows dev)

lemma readsBack_iff (real : board.fake = false) (inSlot : board.vmeAddress &&& 0xf00 = 0)
    (mapped : board.jtagMap dev = some chain) (targets : Targets chain before target after)
    (nBits) :
    ReadsBack board dev before.length after.length nBits ↔
      (before.length ≤ 16 ∧ nBits.toNat + before.length < 4294967296) ∧
        (dev = .RESET → nBits.toNat = 0) := by
  have extra := targets.readExtra nBits
  constructor
  · intro reads
    have fine : before.length ≤ 16 ∧ nBits.toNat + before.length < 4294967296 := by
      by_contra bad
      have short := targets.short
      have excess : ¬ ((readTransfer chain nBits).extraBits ≤ 16 ∧
          (readTransfer chain nBits).nBits.toNat + (readTransfer chain nBits).extraBits <
            4294967296) := by
        rw [extra]
        exact bad
      obtain ⟨stray, held, long, never⟩ := not_isRegister excess (by rw [extra]; omega)
      have fits := @fits_held held before.length after.length
      rw [long] at fits
      exact never _ rfl _ (reads.register real mapped fits stray)
    refine ⟨fine, fun reset => ?_⟩
    -- nothing is known of what is read on the RESET path
    by_contra some
    have answers : Answers board ⟨fun _ => true, fun _ => 0, fun _ => 0⟩ :=
      ⟨real, fun _ => rfl⟩
    have fits := @fits_held (replicate nBits.toNat true) before.length after.length
    rw [length_replicate] at fits
    obtain ⟨result, cycles, performs, register⟩ := reads _ ⟨0, 0, []⟩ _
      (replicate 16 false) answers fits length_replicate
    have known := performs_jtagRead answers mapped nBits ⟨0, 0, []⟩
    rw [known.value_eq performs] at register
    have first := (register fun other => absurd reset other).2 0
    rw [gather_bits (by rw [extra]; exact fine.1), sampled_bits,
      getD_replicate _ (Nat.pos_of_ne_zero some)] at first
    simp at first
  · rintro ⟨⟨few, short⟩, path⟩ bus state contents latch answers fits sixteen
    refine ⟨_, _, performs_jtagRead answers mapped nBits state, fun shows => ?_⟩
    rw [← extra] at few short
    by_cases reset : dev = .RESET
    · have none := path reset
      have empty : contents.held = [] := eq_nil_of_length_eq_zero (fits.held.trans none)
      rw [empty]
      exact gather_isRegister_empty few none _
    · rw [← extra] at fits
      exact gather_isRegister few short sixteen inSlot reset fits shows

def onlyFirst (before more after : Nat) : Contents :=
  ⟨List.replicate before false, true :: List.replicate more false, List.replicate after false⟩

lemma onlyFirst_low {before more after place} (other : place ≠ before) :
    (stream (onlyFirst before more after).chain).getD place false = false := by
  rw [chain_stream]
  unfold onlyFirst
  rcases Nat.lt_or_ge place before with early | late
  · rw [getD_append _ _ _ _ (by rwa [length_replicate])]
    simp
  · obtain ⟨further, rfl⟩ := Nat.exists_eq_add_of_lt (Nat.lt_of_le_of_ne late other.symm)
    rw [getD_append_right _ _ _ _ (by rw [length_replicate]; omega),
      length_replicate, show before + further + 1 - before = further + 1 by omega]
    simp

lemma returnsHeld_iff (real : board.fake = false) (inSlot : board.vmeAddress &&& 0xf00 = 0)
    (mapped : board.jtagMap dev = some chain) (targets : Targets chain before target after)
    (nBits data) :
    ReturnsHeld board dev before.length after.length nBits data ↔
      if dev = .RESET then nBits.toNat = 0
      else (after.length ≤ 16 ∧ nBits.toNat + after.length < 4294967296) ∧
        (nBits.toNat = 0 ∨ before.length = after.length) := by
  have extra := targets.writeExtra nBits
  by_cases reset : dev = .RESET
  · subst reset
    constructor
    · intro returns
      have answers : Answers board ⟨fun _ => true, fun _ => 0, fun _ => 0⟩ :=
        ⟨real, fun _ => rfl⟩
      have fits := @fits_held (replicate nBits.toNat true) before.length after.length
      rw [length_replicate] at fits
      obtain ⟨result, cycles, performs, register⟩ := returns _ ⟨0, 0, []⟩ _
        (replicate 16 false) answers fits length_replicate
      have known := performs_jtagWrite_reset answers mapped nBits data false ⟨0, 0, []⟩
      rw [known.value_eq performs] at register
      have room := (register fun other => absurd rfl other).1
      rw [length_replicate] at room
      exact Nat.le_zero.mp room
    · intro none bus state contents latch answers fits _
      have empty : contents.held = [] := eq_nil_of_length_eq_zero (fits.held.trans none)
      refine ⟨_, _, performs_jtagWrite_reset answers mapped nBits data false state, fun _ => ?_⟩
      rw [empty]
      exact ⟨Nat.zero_le _, fun place => bitOf_beyond (Nat.zero_le _)⟩
  · rw [if_neg reset]
    constructor
    · intro returns
      have fine : after.length ≤ 16 ∧ nBits.toNat + after.length < 4294967296 := by
        by_contra bad
        have short := targets.short
        have excess : ¬ ((writeTransfer chain nBits).extraBits ≤ 16 ∧
            (writeTransfer chain nBits).nBits.toNat + (writeTransfer chain nBits).extraBits <
              4294967296) := by
          rw [extra]
          exact bad
        obtain ⟨stray, held, long, never⟩ := not_isRegister excess (by rw [extra]; omega)
        have fits := @fits_held held before.length after.length
        rw [long] at fits
        exact never _ rfl _ (returns.register real mapped reset fits stray)
      refine ⟨fine, ?_⟩
      by_contra differ
      obtain ⟨some, differ⟩ := not_or.mp differ
      obtain ⟨more, count⟩ := Nat.exists_eq_succ_of_ne_zero some
      have fits : (onlyFirst before.length more after.length).Fits before.length after.length
          nBits.toNat := by
        rw [count]
        exact ⟨length_replicate, by simp [onlyFirst], length_replicate⟩
      have first := (returns.register real mapped reset fits fun _ => 0).2 0
      have few : (writeTransfer chain nBits).extraBits ≤ 16 := by rw [extra]; exact fine.1
      have inside : after.length <
          (stream (onlyFirst before.length more after.length).chain).length := by
        rw [chain_stream]
        simp [onlyFirst]
        omega
      have shows : Shows dev (idealWrite board chain nBits data (fun _ => 0)
          (onlyFirst before.length more after.length)) (onlyFirst before.length more after.length)
          (replicate 16 false) 0 ((writeTransfer chain nBits).cycles board
            (writtenWord ⟨fun _ => true, fun _ => 0, fun _ => 0⟩ (writeTransfer chain nBits)
              data) false) := idealBus_shows dev
      rw [gathered_bits few length_replicate inSlot reset shows, extra, Nat.zero_add,
        getD_append _ _ _ _ inside,
        onlyFirst_low (Ne.symm differ), Bool.and_false] at first
      cases first
    · rintro ⟨⟨few, short⟩, same⟩ bus state contents latch answers fits sixteen
      refine ⟨_, _, performs_jtagWrite answers mapped reset nBits data state, fun shows => ?_⟩
      rw [← extra] at few short
      rcases same with none | same
      · have empty : contents.held = [] := eq_nil_of_length_eq_zero (fits.held.trans none)
        rw [empty]
        exact gather_isRegister_empty few none _
      · rw [same, ← extra] at fits
        exact gather_isRegister few short sixteen inSlot reset fits shows

end

variable {dev : DevType} {board : VmeModule} {bus : Bus} {contents : Contents}
  {transfer : Transfer} {data : List UInt16}

lemma writtenWord_testBit (bus) {place} (given : place < 16 * data.length)
    (inside : place < transfer.allBits.toNat) :
    (writtenWord bus transfer data (place / 16)).toNat.testBit (place % 16) =
      bitOf data place := by
  have within : place / 16 < data.length := by omega
  have word : place / 16 < wordsFor transfer.allBits := by
    rw [wordsFor_eq]
    omega
  have found : wordAt bus (data ++ replicate (wordsFor transfer.allBits - data.length) 0xffff)
      (place / 16) = data.getD (place / 16) 0 := by
    rw [wordAt, getD_append _ _ _ _ within, getD_eq_getElem _ _ within, getD_eq_getElem _ _ within]
  have whole : 16 * (place / 16) + place % 16 = place := Nat.div_add_mod place 16
  rw [writtenWord, found, UInt16.toNat_and, Nat.testBit_and,
    bitMask_testBit word (Nat.mod_lt _ (by decide)), whole, decide_eq_true inside, Bool.and_true]
  rfl

lemma resetData_testBit (bus) {place} (given : place < 16 * data.length) :
    (wordAt bus data (place / 16)).toNat.testBit (place % 16) = bitOf data place := by
  have within : place / 16 < data.length := by omega
  rw [wordAt, bitOf, getD_eq_getElem _ _ within, getD_eq_getElem _ _ within]

lemma strokes_bogoBit (address value last) :
    strokes (.write address (bogoBit value last)) = [(last, value)] := by
  cases value with
  | true => cases last <;> rfl
  | false => cases last <;> rfl

lemma strokes_resetBits (board : VmeModule) (address bits) :
    ((resetBits bits).map (board.write address)).flatMap strokes = lastRaised bits := by
  induction bits with
  | nil => rfl
  | cons value rest ih =>
    cases rest with
    | nil => exact strokes_bogoBit (address ||| board.vmeAddress) value true
    | cons next later =>
      rw [resetBits, map_cons, flatMap_cons, ih]
      exact congrArg (· ++ _) (strokes_bogoBit _ value false)

lemma dataBits_shifted (bits) : dataBits (bits.map (.shifted .data)) = bits := by
  induction bits with
  | nil => rfl
  | cons bit rest ih => exact congrArg (bit :: ·) ih

lemma shiftedBits_reset (board : VmeModule) (address bits) :
    shiftedBits .RESET (([0, 0, 1, 0, 0] ++ resetBits bits ++ [1, 0]).map (board.write address)) =
      if bits = [] then [false] else bits := by
  have path : (([0, 0, 1, 0, 0] ++ resetBits bits ++ [1, 0]).map
      (board.write address)).flatMap strokes =
      [(false, false), (false, false)] ++ (entry .data ++ lastRaised bits ++ leaving) := by
    rw [map_append, map_append, flatMap_append, flatMap_append, strokes_resetBits]
    rfl
  rw [shiftedBits, path, follow_append]
  by_cases none : bits = []
  · subst none
    rfl
  · have idle : follow (.runTestIdle, []) [(false, false), (false, false)] =
        (.runTestIdle, []) := rfl
    rw [idle, follow_scan .data [] bits none, if_neg none]
    have scanned := dataBits_shifted bits
    simp only [scan, dataBits, nil_append, filterMap_append] at scanned ⊢
    simp [scanned]

lemma registerAfter_whole {cycles before after nBits} (fits : contents.Fits before after nBits)
    (long : (shiftedBits dev cycles).length = nBits + after) :
    registerAfter dev contents cycles = (shiftedBits dev cycles).take nBits := by
  have reached : nBits + after + before = (stream contents.chain).length := by
    rw [chain_stream, length_append, length_append, fits.before, fits.held, fits.after]
    omega
  rw [registerAfter_eq, long, fits.before, fits.held, reached, drop_left]

lemma registerAfter_last {cycles before after nBits bit}
    (few : (shiftedBits dev cycles).length ≤ after) (some : 0 < nBits) :
    (registerAfter dev ⟨replicate before bit, replicate nBits bit,
      replicate after bit⟩ cycles).getD (nBits - 1) (!bit) = bit := by
  rw [registerAfter_eq, chain_stream]
  simp only [← replicate_add, length_replicate]
  rw [getD_eq_getElem?_getD, getElem?_take_of_lt (by omega), getElem?_drop,
    getElem?_append_left (by rw [length_replicate]; omega),
    getElem?_replicate, if_pos (by omega)]
  rfl

variable {chain : JtagChain dev} {before after : List JtagElement} {target : JtagElement}

lemma performs_jtagWrite_shifted (answers : Answers board bus)
    (inSlot : board.vmeAddress &&& 0xf00 = 0) (mapped : board.jtagMap dev = some chain)
    (nBits noRead state) :
    ∃ result cycles, Performs (jtagWrite board bus dev nBits data noRead) state result cycles ∧
      (shiftedBits dev cycles).length =
        (if dev = .RESET ∧ (writeTransfer chain nBits).allBits.toNat = 0 then 1
          else (writeTransfer chain nBits).allBits.toNat) ∧
      ∀ place < (writeTransfer chain nBits).allBits.toNat, place < 16 * data.length →
        (shiftedBits dev cycles).getD place false = bitOf data place := by
  by_cases reset : dev = .RESET
  · subst reset
    refine ⟨_, _, performs_jtagWrite_reset answers mapped nBits data noRead state, ?_⟩
    rw [shiftedBits_reset]
    have long : (resetData bus (writeTransfer chain nBits) data).length =
        (writeTransfer chain nBits).allBits.toNat := by simp [resetData]
    by_cases none : (writeTransfer chain nBits).allBits.toNat = 0
    · have empty : resetData bus (writeTransfer chain nBits) data = [] :=
        eq_nil_of_length_eq_zero (long.trans none)
      rw [if_pos empty, if_pos ⟨rfl, none⟩]
      exact ⟨rfl, fun place inside => absurd inside (by omega)⟩
    · have some : resetData bus (writeTransfer chain nBits) data ≠ [] := by
        intro empty
        rw [empty] at long
        exact none long.symm
      rw [if_neg some, if_neg fun both => none both.2]
      refine ⟨long, fun place inside given => ?_⟩
      rw [← resetData_testBit bus given]
      simp [resetData, List.getD, inside]
  · have bits : ∀ noRead, shiftedBits dev ((writeTransfer chain nBits).cycles board
        (writtenWord bus (writeTransfer chain nBits) data) noRead) =
        (List.range (writeTransfer chain nBits).allBits.toNat).map fun place =>
          (writtenWord bus (writeTransfer chain nBits) data (place / 16)).toNat.testBit
            (place % 16) := by
      intro noRead
      rw [shiftedBits, if_neg reset, ← bits_whole]
      exact flatMap_wordCycles _ inSlot _ noRead (Nat.le_refl _)
    have performed : ∃ result, Performs (jtagWrite board bus dev nBits data noRead) state result
        ((writeTransfer chain nBits).cycles board
          (writtenWord bus (writeTransfer chain nBits) data) noRead) := by
      cases noRead with
      | true => exact ⟨_, performs_jtagWrite_noRead answers mapped reset nBits data state⟩
      | false => exact ⟨_, performs_jtagWrite answers mapped reset nBits data state⟩
    obtain ⟨result, performs⟩ := performed
    refine ⟨result, _, performs, ?_⟩
    rw [bits, if_neg fun both => reset both.1]
    refine ⟨by simp, fun place inside given => ?_⟩
    rw [← writtenWord_testBit bus given inside]
    simp [List.getD, inside]

lemma shiftsIn_iff (real : board.fake = false) (inSlot : board.vmeAddress &&& 0xf00 = 0)
    (mapped : board.jtagMap dev = some chain) (targets : Targets chain before target after)
    (nBits) (given : nBits.toNat ≤ 16 * data.length) (noRead) :
    ShiftsIn board dev before.length after.length nBits data noRead ↔
      nBits.toNat = 0 ∨ nBits.toNat + after.length < 4294967296 := by
  have all := allBits_eq (writeTransfer chain nBits)
  have same : (writeTransfer chain nBits).nBits = nBits := rfl
  have small : nBits.toNat < 4294967296 := nBits.toNat_lt
  rw [targets.writeExtra nBits, same] at all
  constructor
  · intro shifts
    by_contra bad
    obtain ⟨some, wraps⟩ := not_or.mp bad
    have answers : Answers board ⟨fun _ => true, fun _ => 0, fun _ => 0⟩ :=
      ⟨real, fun _ => rfl⟩
    obtain ⟨_, cycles, performs, long, _⟩ :=
      @performs_jtagWrite_shifted _ _ _ data _ answers inSlot mapped nBits noRead ⟨0, 0, []⟩
    obtain ⟨_, others, also, register⟩ := shifts _ ⟨0, 0, []⟩
      ⟨replicate before.length (!bitOf data (nBits.toNat - 1)),
        replicate nBits.toNat (!bitOf data (nBits.toNat - 1)),
        replicate after.length (!bitOf data (nBits.toNat - 1))⟩ answers
      ⟨length_replicate, length_replicate, length_replicate⟩
    have few : (shiftedBits dev others).length ≤ after.length := by
      rw [performs.made_eq also, long]
      split <;> omega
    have last := @registerAfter_last dev others before.length after.length nBits.toNat
      (!bitOf data (nBits.toNat - 1)) few (Nat.pos_of_ne_zero some)
    have inside : nBits.toNat - 1 < nBits.toNat := by omega
    rw [register, getD_eq_getElem?_getD, getElem?_map, getElem?_range inside] at last
    simp at last
  · intro fine bus state contents answers fits
    obtain ⟨result, cycles, performs, long, bits⟩ :=
      @performs_jtagWrite_shifted _ _ _ data _ answers inSlot mapped nBits noRead state
    refine ⟨result, cycles, performs, ?_⟩
    by_cases none : nBits.toNat = 0
    · rw [registerAfter_eq, fits.held, none]
      rfl
    · have whole : (writeTransfer chain nBits).allBits.toNat = nBits.toNat + after.length := by
        rw [all, Nat.mod_eq_of_lt (fine.resolve_left none)]
      rw [whole, if_neg fun both => none (by omega)] at long
      rw [registerAfter_whole fits long]
      apply ext_getElem?
      intro place
      by_cases inside : place < nBits.toNat
      · have found := bits place (by omega) (by omega)
        have here : place < (shiftedBits dev cycles).length := by omega
        rw [getD_eq_getElem _ _ here] at found
        rw [getElem?_take_of_lt inside, getElem?_eq_getElem here, found,
          getElem?_map, getElem?_range inside]
        rfl
      · rw [getElem?_eq_none (by rw [length_take]; omega),
          getElem?_eq_none (by rw [length_map, length_range]; omega)]

/-- A register is read through at most sixteen elements before it, and is loaded whatever the chain
is; what it held comes back where there are as many elements before it as after it. The slot is in
the address from bit 19 on, so it leaves the count of the bits alone. -/
theorem registers_transferred (real : board.fake = false) (inSlot : board.vmeAddress &&& 0xf00 = 0)
    (mapped : board.jtagMap dev = some chain) (targets : Targets chain before target after)
    (nBits : UInt32) (data : List UInt16) (given : nBits.toNat ≤ 16 * data.length) :
    (ReadsBack board dev before.length after.length nBits ↔
      (before.length ≤ 16 ∧ nBits.toNat + before.length < 4294967296) ∧
        (dev = .RESET → nBits.toNat = 0)) ∧
    (∀ noRead, ShiftsIn board dev before.length after.length nBits data noRead ↔
      nBits.toNat = 0 ∨ nBits.toNat + after.length < 4294967296) ∧
    (ReturnsHeld board dev before.length after.length nBits data ↔
      if dev = .RESET then nBits.toNat = 0
      else (after.length ≤ 16 ∧ nBits.toNat + after.length < 4294967296) ∧
        (nBits.toNat = 0 ∨ before.length = after.length)) :=
  ⟨readsBack_iff real inSlot mapped targets nBits,
    fun noRead => shiftsIn_iff real inSlot mapped targets nBits given noRead,
    returnsHeld_iff real inSlot mapped targets nBits data⟩

lemma promTargets : Targets (chainOf .DDUPROM0 [prom .DDUPROM1] (prom .DDUPROM0) rfl) []
    (prom .DDUPROM0) [prom .DDUPROM1] where
  split := rfl
  named := rfl
  others := by
    intro element inside
    rcases mem_singleton.mp inside with rfl
    decide
  countable := by decide

theorem registers_transferred_prom :
    ReadsBack (promBoard [prom .DDUPROM1]) .DDUPROM0 0 1 32 ∧
      ShiftsIn (promBoard [prom .DDUPROM1]) .DDUPROM0 0 1 32 [0x1234, 0x5678] true := by
  have mapped : (promBoard [prom .DDUPROM1]).jtagMap .DDUPROM0 =
      some (chainOf .DDUPROM0 [prom .DDUPROM1] (prom .DDUPROM0) rfl) := rfl
  have transferred := registers_transferred rfl rfl mapped promTargets 32 [0x1234, 0x5678]
    (by decide)
  refine ⟨transferred.1.mpr ⟨by decide, fun reset => by cases reset⟩, ?_⟩
  exact (transferred.2.1 true).mpr (.inr (by decide))

theorem held_bit_lost : ¬ ∀ (board : VmeModule) (dev : DevType) (chain : JtagChain dev)
    (before after : List JtagElement) (target : JtagElement), board.fake = false →
    board.vmeAddress &&& 0xf00 = 0 → board.jtagMap dev = some chain →
    Targets chain before target after → ∀ (nBits : UInt32) (data : List UInt16),
      nBits.toNat ≤ 16 * data.length →
      ReturnsHeld board dev before.length after.length nBits data := by
  intro every
  have mapped : (promBoard [prom .DDUPROM1]).jtagMap .DDUPROM0 =
      some (chainOf .DDUPROM0 [prom .DDUPROM1] (prom .DDUPROM0) rfl) := rfl
  have returns := every (promBoard [prom .DDUPROM1]) .DDUPROM0 _ [] [prom .DDUPROM1]
    (prom .DDUPROM0) rfl rfl mapped promTargets 32 [0x1234, 0x5678] (by decide)
  have same := (returnsHeld_iff rfl rfl mapped promTargets 32 [0x1234, 0x5678]).mp returns
  exact absurd same.2 (by decide)

end EmuLib.Fed
