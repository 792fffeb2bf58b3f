import EmuLib.Fed.CycleLog
import EmuLib.Lib.WordBits
import Mathlib.Data.List.Induction

/-!
The instructions of the elements of a chain, and the words they are sent in.
-/

namespace EmuLib.Fed

open Operations WordBits List

section

variable (dev : DevType) (myCommand : UInt16)

def instruction (element : JtagElement) : UInt16 :=
  if element.dev = dev then myCommand else element.bypassCommand

def instructionStream (elements : List JtagElement) : List Bool :=
  elements.flatMap fun element => bitsOf element.cmdBits.toNat (instruction dev myCommand element)

/-- The bits of the instructions where they are put: each after as many words as there are
instructions before it, less the bits by which the instructions before it exceed full words. -/
def laidBit : Nat → Nat → List JtagElement → Nat → Bool
  | _, _, [], _ => false
  | index, start, element :: rest, place =>
    (decide (16 * index - start % 16 ≤ place) &&
      (instruction dev myCommand element).toNat.testBit (place - (16 * index - start % 16))) ||
    laidBit (index + 1) (start + element.cmdBits.toNat) rest place

variable {dev} in
/-- All ones of the instructions are put where ones are to be sent, and no others are. On the RESET
path only the first element gets a command, which is the given one. -/
def PutInPlace (chain : JtagChain dev) : Prop :=
  if dev = .RESET then
    (∀ element ∈ chain.elements.tail, element.cmdBits = 0) ∧
      ∀ bit < chain.front.cmdBits.toNat,
        (instruction dev myCommand chain.front).toNat.testBit bit = myCommand.toNat.testBit bit
  else
    (instructionStream dev myCommand chain.elements).length < 4294967296 ∧
      ∀ place < (instructionStream dev myCommand chain.elements).length,
        laidBit dev myCommand 0 0 chain.elements place =
          (instructionStream dev myCommand chain.elements).getD place false

end

def resetBits : List Bool → List UInt16
  | [] => []
  | [value] => [bogoBit value true]
  | value :: next :: rest => bogoBit value false :: resetBits (next :: rest)

def commandAddress {dev : DevType} (chain : JtagChain dev) (nBits : UInt32) : UInt32 :=
  chain.front.bitCode ||| ((0x1c : UInt32) ||| ((nBits - 1) <<< 8))

def Sends (board : VmeModule) {dev : DevType} (chain : JtagChain dev) (stream : List Bool)
    (cycles : List Cycle) : Prop :=
  if dev = .RESET then
    cycles = ([0, 0, 1, 1, 0, 0] ++ resetBits stream ++ [1, 0]).map
      (board.write chain.front.bitCode)
  else
    ∃ words, Carries words stream ∧
      cycles = words.map (board.write (commandAddress chain (UInt32.ofNat stream.length)))

section

variable {dev : DevType} {myCommand : UInt16}

def joinCommand (commands : List UInt16) (remainder : Nat) (command : UInt16) : List UInt16 :=
  match commands.getLast? with
  | some previous =>
    if remainder ≠ 0 then
      commands.dropLast ++
        [previous ||| UInt16.ofNat (command.toNat <<< (16 - remainder)),
          UInt16.ofNat (command.toNat >>> remainder)]
    else commands ++ [command]
  | none => [command]

lemma chainCommands_cons (element rest commands nBits) :
    chainCommands dev myCommand (element :: rest) commands nBits =
      chainCommands dev myCommand rest
        (joinCommand commands (remainderOf nBits) (instruction dev myCommand element))
        (nBits + element.cmdBits) := rfl

lemma joinCommand_length (commands remainder command) :
    (joinCommand commands remainder command).length = commands.length + 1 := by
  cases commands using reverseRecOn with
  | nil => rfl
  | append_singleton earlier previous =>
    by_cases whole : remainder = 0
    · simp [joinCommand, whole]
    · simp [joinCommand, whole]

lemma joinCommand_bits (commands) {remainder} (small : remainder < 16)
    (first : commands = [] → remainder = 0) (command place) :
    bitOf (joinCommand commands remainder command) place =
      (bitOf commands place || (decide (16 * commands.length - remainder ≤ place) &&
        command.toNat.testBit (place - (16 * commands.length - remainder)))) := by
  cases commands using reverseRecOn with
  | nil =>
    obtain rfl := first rfl
    have none : bitOf [] place = false := bitOf_beyond (Nat.zero_le _)
    rw [none, show joinCommand [] 0 command = [command] from rfl, bitOf_single]
    simp
  | append_singleton earlier previous =>
    by_cases whole : remainder = 0
    · subst whole
      have kept : joinCommand (earlier ++ [previous]) 0 command =
          (earlier ++ [previous]) ++ [command] := by
        simp [joinCommand]
      rw [kept, bitOf_snoc]
      rfl
    · have split : joinCommand (earlier ++ [previous]) remainder command =
          (earlier ++ [previous ||| UInt16.ofNat (command.toNat <<< (16 - remainder))]) ++
            [UInt16.ofNat (command.toNat >>> remainder)] := by
        simp [joinCommand, whole]
      have begins : place + remainder - 16 * (earlier.length + 1) =
          place - (16 * (earlier.length + 1) - remainder) := by omega
      have reached : 16 * (earlier.length + 1) ≤ place + remainder ↔
          16 * (earlier.length + 1) - remainder ≤ place := by omega
      rw [split, bitOf_joined (Nat.le_of_lt small), begins, decide_eq_decide.mpr reached,
        length_append, length_singleton]

lemma chainCommands_bits (elements commands nBits start)
    (counted : remainderOf nBits = start % 16) (first : commands = [] → start % 16 = 0) (place) :
    bitOf (chainCommands dev myCommand elements commands nBits).1 place =
      (bitOf commands place || laidBit dev myCommand commands.length start elements place) := by
  induction elements generalizing commands nBits start with
  | nil => simp [chainCommands, laidBit]
  | cons element rest ih =>
    have small : remainderOf nBits < 16 := Nat.mod_lt _ (by decide)
    have joined := joinCommand_length commands (remainderOf nBits)
      (instruction dev myCommand element)
    have further : remainderOf (nBits + element.cmdBits) =
        (start + element.cmdBits.toNat) % 16 := by
      unfold remainderOf at counted ⊢
      rw [UInt32.toNat_add]
      omega
    have nonempty : joinCommand commands (remainderOf nBits)
        (instruction dev myCommand element) ≠ [] :=
      ne_nil_of_length_pos (by omega)
    rw [chainCommands_cons, ih _ _ _ further (fun empty => absurd empty nonempty), joined,
      joinCommand_bits commands small (fun empty => counted.trans (first empty)), counted,
      laidBit, Bool.or_assoc]

lemma chainCommands_length (elements commands nBits) :
    (chainCommands dev myCommand elements commands nBits).1.length =
      commands.length + elements.length := by
  induction elements generalizing commands nBits with
  | nil => rfl
  | cons element rest ih =>
    rw [chainCommands_cons, ih, joinCommand_length, length_cons]
    omega

lemma instructionStream_cons (element rest) :
    instructionStream dev myCommand (element :: rest) =
      bitsOf element.cmdBits.toNat (instruction dev myCommand element) ++
        instructionStream dev myCommand rest :=
  flatMap_cons

lemma chainCommands_nBits (elements commands nBits) :
    (chainCommands dev myCommand elements commands nBits).2 =
      nBits + UInt32.ofNat (instructionStream dev myCommand elements).length := by
  induction elements generalizing commands nBits with
  | nil => simp [chainCommands, instructionStream]
  | cons element rest ih =>
    rw [chainCommands_cons, ih, instructionStream_cons, length_append, bitsOf_length,
      UInt32.ofNat_add, UInt32.ofNat_toNat, UInt32.add_assoc]

lemma instructionStream_short {elements} (narrow : ∀ element ∈ elements, element.cmdBits ≤ 16) :
    (instructionStream dev myCommand elements).length ≤ 16 * elements.length := by
  induction elements with
  | nil => exact Nat.zero_le _
  | cons element rest ih =>
    have here : element.cmdBits.toNat ≤ 16 := narrow element mem_cons_self
    have others := ih fun other inside => narrow other (mem_cons_of_mem _ inside)
    rw [instructionStream_cons, length_append, bitsOf_length, length_cons]
    omega

end

section

variable {board : VmeModule} {bus : Bus}

lemma lowBits_testBit {count} (small : count ≤ 16) (bit) :
    (lowBits count).toNat.testBit bit = decide (bit < count) := by
  rw [lowBits, ofNat_testBit, Nat.one_shiftLeft]
  rcases Nat.lt_or_ge bit 16 with inside | beyond
  · simp [inside]
  · simp [Nat.not_lt.mpr beyond, Nat.not_lt.mpr (Nat.le_trans small beyond)]

lemma wordsFor_eq (nBits) : wordsFor nBits = (nBits.toNat + 15) / 16 := by
  unfold wordsFor
  split
  · rename_i none
    rw [none]
    rfl
  · rename_i some
    have positive : nBits.toNat ≠ 0 := fun zero => some (UInt32.toNat_inj.mp zero)
    omega

lemma bitMask_testBit {nBits iWord bit} (inside : iWord < wordsFor nBits) (within : bit < 16) :
    (bitMask nBits iWord).toNat.testBit bit = decide (16 * iWord + bit < nBits.toNat) := by
  rw [wordsFor_eq] at inside
  unfold bitMask remainderOf
  rw [wordsFor_eq]
  split
  · rename_i last
    rw [lowBits_testBit (by omega), decide_eq_decide]
    omega
  · have all : (0xffff : UInt16) = lowBits 16 := rfl
    rw [all, lowBits_testBit (Nat.le_refl _), decide_eq_decide]
    omega

lemma cycleWords_bits {nBits data} (enough : wordsFor nBits ≤ data.length) (place) :
    bitOf (cycleWords bus nBits data) place =
      (decide (place < nBits.toNat) && bitOf data place) := by
  have long : (cycleWords bus nBits data).length = wordsFor nBits := by simp [cycleWords]
  rcases Nat.lt_or_ge (place / 16) (wordsFor nBits) with inside | beyond
  · have here : (cycleWords bus nBits data).getD (place / 16) 0 =
        wordAt bus data (place / 16) &&& bitMask nBits (place / 16) := by
      simp [cycleWords, List.getD, inside]
    have found : wordAt bus data (place / 16) = data.getD (place / 16) 0 := by
      simp [wordAt, List.getD, Nat.lt_of_lt_of_le inside enough]
    have whole : 16 * (place / 16) + place % 16 = place := Nat.div_add_mod place 16
    rw [bitOf, here, found, UInt16.toNat_and, Nat.testBit_and,
      bitMask_testBit inside (Nat.mod_lt _ (by decide)), whole, Bool.and_comm]
    rfl
  · have outside : ¬ place < nBits.toNat := by
      rw [wordsFor_eq] at beyond
      omega
    rw [bitOf_beyond (by omega)]
    simp [outside]

lemma cycleWords_length (nBits data) : (cycleWords bus nBits data).length = wordsFor nBits := by
  simp [cycleWords]

lemma carries_cycleWords {stream data} (enough : stream.length ≤ 16 * data.length) :
    Carries (cycleWords bus (UInt32.ofNat stream.length) data) stream ↔
      stream.length < 4294967296 ∧
        ∀ place < stream.length, bitOf data place = stream.getD place false := by
  have counted : (UInt32.ofNat stream.length).toNat = stream.length % 4294967296 := rfl
  have room : wordsFor (UInt32.ofNat stream.length) ≤ data.length := by
    rw [wordsFor_eq]
    omega
  constructor
  · intro carries
    have count := carries.count
    rw [cycleWords_length, wordsFor_eq] at count
    have short : stream.length < 4294967296 := by omega
    refine ⟨short, ?_⟩
    intro place inside
    have same := carries.bits place
    rwa [cycleWords_bits room, counted, Nat.mod_eq_of_lt short, decide_eq_true inside] at same
  · rintro ⟨short, same⟩
    constructor
    · rw [cycleWords_length, wordsFor_eq, counted, Nat.mod_eq_of_lt short]
    · intro place
      rw [cycleWords_bits room, counted, Nat.mod_eq_of_lt short]
      by_cases inside : place < stream.length
      · rw [decide_eq_true inside, Bool.true_and, same place inside]
      · rw [decide_eq_false inside, Bool.false_and, getD_eq_default _ _ (Nat.le_of_not_lt inside)]

lemma write_injective (board : VmeModule) (address) {words others : List UInt16}
    (same : words.map (board.write address) = others.map (board.write address)) :
    words = others := by
  refine map_injective_iff.mpr ?_ same
  intro word other written
  exact (Cycle.write.inj written).2

end

lemma resetBits_cons (value) {rest} (further : rest ≠ []) :
    resetBits (value :: rest) = bogoBit value false :: resetBits rest := by
  cases rest with
  | nil => exact absurd rfl further
  | cons next later => rfl

lemma resetBits_range (bit count) :
    ((List.range count).map fun iBit => bogoBit (bit iBit) (iBit == count - 1)) =
      resetBits ((List.range count).map bit) := by
  induction count generalizing bit with
  | zero => rfl
  | succ count ih =>
    cases count with
    | zero => rfl
    | succ more =>
      have rest := ih fun iBit => bit (iBit + 1)
      have further : (List.range (more + 1)).map (bit ∘ Nat.succ) ≠ [] := by simp
      rw [range_succ_eq_map, map_cons, map_cons, map_map, map_map, resetBits_cons _ further]
      have moved : ∀ iBit : Nat,
          (iBit.succ == more + 1 + 1 - 1) = (iBit == more + 1 - 1) := by
        intro iBit
        rw [Bool.eq_iff_iff, beq_iff_eq, beq_iff_eq]
        omega
      simp only [Function.comp_def, moved]
      exact congrArg _ rest

lemma resetBits_injective {stream other} (same : resetBits stream = resetBits other) :
    stream = other := by
  have marked : ∀ value next : Bool, bogoBit value true ≠ bogoBit next false := by decide
  have values : ∀ value next last : Bool,
      bogoBit value last = bogoBit next last → value = next := by decide
  induction stream generalizing other with
  | nil =>
    cases other with
    | nil => rfl
    | cons value rest =>
      cases rest with
      | nil => cases same
      | cons next later => cases same
  | cons value rest ih =>
    cases other with
    | nil =>
      cases rest with
      | nil => cases same
      | cons next later => cases same
    | cons otherValue otherRest =>
      by_cases last : rest = []
      · subst last
        by_cases also : otherRest = []
        · subst also
          rw [values value otherValue true (List.cons.inj same).1]
        · rw [resetBits_cons _ also] at same
          exact absurd (List.cons.inj same).1 (marked _ _)
      · by_cases also : otherRest = []
        · subst also
          rw [resetBits_cons _ last] at same
          exact absurd (List.cons.inj same).1.symm (marked _ _)
        · rw [resetBits_cons _ last, resetBits_cons _ also] at same
          obtain ⟨first, later⟩ := List.cons.inj same
          rw [values value otherValue false first, ih later]

variable {board : VmeModule} {bus : Bus} {dev : DevType} {chain : JtagChain dev}

lemma performs_commandCycle (answers : Answers board bus)
    (mapped : board.jtagMap dev = some chain) (other : dev ≠ .RESET) (myCommand state) :
    Performs (commandCycle board bus dev myCommand) state ()
      ((cycleWords bus
        (UInt32.ofNat (instructionStream dev myCommand chain.elements).length)
        (chainCommands dev myCommand chain.elements [] 0).1).map
          (board.write (commandAddress chain
            (UInt32.ofNat (instructionStream dev myCommand chain.elements).length)))) := by
  have counted := @chainCommands_nBits dev myCommand chain.elements [] 0
  rw [UInt32.zero_add] at counted
  simp only [commandCycle, mapped, if_neg other, counted]
  exact performs_lockedWhole (performs_writeCycle answers _ _ _ _)

lemma bogoBit_small (value last) : bogoBit value last &&& 3 = bogoBit value last := by
  cases value with
  | true => cases last <;> rfl
  | false => cases last <;> rfl

lemma performs_commandCycle_reset {chain} (answers : Answers board bus)
    (mapped : board.jtagMap .RESET = some chain) (myCommand state) :
    Performs (commandCycle board bus .RESET myCommand) state ()
      (([0, 0, 1, 1, 0, 0] ++ resetBits (bitsOf chain.front.cmdBits.toNat myCommand) ++
        [1, 0]).map (board.write chain.front.bitCode)) := by
  have bits : ((List.range chain.front.cmdBits.toNat).map fun iBit =>
      bogoBit (myCommand.toNat.testBit iBit) (iBit == chain.front.cmdBits.toNat - 1)) =
      resetBits (bitsOf chain.front.cmdBits.toNat myCommand) := resetBits_range _ _
  have small : (((List.range chain.front.cmdBits.toNat).map fun iBit =>
      bogoBit (myCommand.toNat.testBit iBit) (iBit == chain.front.cmdBits.toNat - 1)).all
        fun bogoData => bogoData &&& 3 == bogoData) = true := by
    simp [bogoBit_small]
  simp only [commandCycle, mapped, if_true]
  rw [map_append, ← bits]
  exact performs_lockedWhole
    ((performs_writePattern answers _ rfl _).bind
      ((performs_writePattern answers _ small _).bind
        (performs_writePattern answers _ rfl _)))

lemma Performs.made_eq {operation : Vme Value} {state value other cycles others} (performs : Performs operation state value cycles)
    (also : Performs operation state other others) : others = cycles :=
  append_cancel_left (also.made.symm.trans performs.made)

lemma sends_words (answers : Answers board bus) (mapped : board.jtagMap dev = some chain)
    (narrow : ∀ element ∈ chain.elements, element.cmdBits ≤ 16) (other : dev ≠ .RESET)
    (myCommand state) :
    (∃ cycles, Performs (commandCycle board bus dev myCommand) state () cycles ∧
      Sends board chain (instructionStream dev myCommand chain.elements) cycles) ↔
    (instructionStream dev myCommand chain.elements).length < 4294967296 ∧
      ∀ place < (instructionStream dev myCommand chain.elements).length,
        laidBit dev myCommand 0 0 chain.elements place =
          (instructionStream dev myCommand chain.elements).getD place false := by
  have performs := performs_commandCycle answers mapped other myCommand state
  have short := @instructionStream_short dev myCommand _ narrow
  have long := @chainCommands_length dev myCommand chain.elements [] 0
  rw [length_nil, Nat.zero_add] at long
  rw [← long] at short
  have bits := @chainCommands_bits dev myCommand chain.elements [] 0 0 rfl fun _ => rfl
  have put : ∀ place, bitOf (chainCommands dev myCommand chain.elements [] 0).1 place =
      laidBit dev myCommand 0 0 chain.elements place := by
    intro place
    rw [bits, bitOf_beyond (Nat.zero_le _)]
    rfl
  simp only [← put, ← @carries_cycleWords bus _ _ short]
  constructor
  · rintro ⟨cycles, also, sends⟩
    rw [Sends, if_neg other, performs.made_eq also] at sends
    obtain ⟨words, carries, same⟩ := sends
    rwa [write_injective _ _ same]
  · intro carries
    refine ⟨_, performs, ?_⟩
    rw [Sends, if_neg other]
    exact ⟨_, carries, rfl⟩

lemma instructionStream_empty {myCommand elements} :
    instructionStream dev myCommand elements = [] ↔
      ∀ element ∈ elements, element.cmdBits = 0 := by
  rw [instructionStream, flatMap_eq_nil_iff]
  refine forall₂_congr fun element _ => ?_
  rw [← length_eq_zero_iff, bitsOf_length]
  exact UInt32.toNat_inj (b := 0)

lemma bitsOf_inj {count value other} :
    bitsOf count value = bitsOf count other ↔
      ∀ bit < count, value.toNat.testBit bit = other.toNat.testBit bit := by
  rw [bitsOf, bitsOf, map_inj_left]
  exact forall_congr' fun bit => imp_congr mem_range Iff.rfl

lemma sends_reset {chain} (answers : Answers board bus)
    (mapped : board.jtagMap .RESET = some chain) (myCommand state) :
    (∃ cycles, Performs (commandCycle board bus .RESET myCommand) state () cycles ∧
      Sends board chain (instructionStream .RESET myCommand chain.elements) cycles) ↔
    (∀ element ∈ chain.elements.tail, element.cmdBits = 0) ∧
      ∀ bit < chain.front.cmdBits.toNat,
        (instruction .RESET myCommand chain.front).toNat.testBit bit =
          myCommand.toNat.testBit bit := by
  have performs := performs_commandCycle_reset answers mapped myCommand state
  have whole : chain.elements = chain.front :: chain.elements.tail :=
    (cons_head_tail chain.nonempty).symm
  have same : (∃ cycles, Performs (commandCycle board bus .RESET myCommand) state () cycles ∧
      Sends board chain (instructionStream .RESET myCommand chain.elements) cycles) ↔
      instructionStream .RESET myCommand chain.elements =
        bitsOf chain.front.cmdBits.toNat myCommand := by
    constructor
    · rintro ⟨cycles, also, sends⟩
      rw [performs.made_eq also] at sends
      have words := write_injective _ _ sends
      have bits := append_cancel_left (append_cancel_right words)
      exact (resetBits_injective bits).symm
    · intro stream
      refine ⟨_, performs, ?_⟩
      rw [Sends, if_pos rfl, stream]
  rw [same, whole, instructionStream_cons, tail_cons, ← bitsOf_inj,
    ← @instructionStream_empty .RESET myCommand]
  constructor
  · intro stream
    have none : instructionStream .RESET myCommand chain.elements.tail = [] := by
      have long := congrArg List.length stream
      rw [length_append, bitsOf_length, bitsOf_length] at long
      exact eq_nil_of_length_eq_zero (by omega)
    rw [none, append_nil] at stream
    exact ⟨none, stream⟩
  · rintro ⟨none, stream⟩
    rw [none, append_nil, stream]

/-- A command is sent to a chain with the instructions of all its elements where each of their
ones gets its place. -/
theorem commandCycle_sends (answers : Answers board bus) (mapped : board.jtagMap dev = some chain)
    (narrow : ∀ element ∈ chain.elements, element.cmdBits ≤ 16) (myCommand : UInt16)
    (state : VmeState) :
    (∃ cycles, Performs (commandCycle board bus dev myCommand) state () cycles ∧
      Sends board chain (instructionStream dev myCommand chain.elements) cycles) ↔
    PutInPlace myCommand chain := by
  by_cases reset : dev = .RESET
  · subst reset
    exact sends_reset answers mapped myCommand state
  · rw [PutInPlace, if_neg reset]
    exact sends_words answers mapped narrow reset myCommand state

def chainOf (dev : DevType) (others : List JtagElement) (element : JtagElement)
    (named : element.dev = dev) : JtagChain dev where
  elements := element :: others
  addressed := by simp [named]

def prom (dev : DevType) : JtagElement := ⟨dev, 0xff, 8, 0x00003000⟩

def promBoard (others : List JtagElement) : VmeModule where
  vmeAddress := 0x00100000
  fake := false
  jtagMap := fun dev => some (chainOf dev others (prom dev) rfl)

def quietBus : Bus := ⟨fun _ => true, fun _ => 0, fun _ => 0⟩

lemma quietBus_answers (others) : Answers (promBoard others) quietBus :=
  ⟨rfl, fun _ => rfl⟩

theorem commandCycle_sends_proms :
    ∃ cycles, Performs (commandCycle (promBoard [prom .DDUPROM1]) quietBus .DDUPROM0 0xfe)
        ⟨0, 0, []⟩ () cycles ∧
      Sends (promBoard [prom .DDUPROM1]) (chainOf .DDUPROM0 [prom .DDUPROM1] (prom .DDUPROM0) rfl)
        (instructionStream .DDUPROM0 0xfe [prom .DDUPROM0, prom .DDUPROM1]) cycles :=
  (commandCycle_sends (quietBus_answers _) rfl (by decide) 0xfe ⟨0, 0, []⟩).mpr (by
    refine ⟨by decide, ?_⟩
    decide +kernel)

theorem third_instruction_lost : ¬ ∀ (board : VmeModule) (bus : Bus) (dev : DevType)
    (chain : JtagChain dev), Answers board bus → board.jtagMap dev = some chain →
    (∀ element ∈ chain.elements, element.cmdBits ≤ 16) → ∀ myCommand state,
      ∃ cycles, Performs (commandCycle board bus dev myCommand) state () cycles ∧
        Sends board chain (instructionStream dev myCommand chain.elements) cycles := by
  intro every
  have narrow : ∀ element ∈ (chainOf .DDUPROM0 [prom .DDUPROM1, prom .INPROM0]
      (prom .DDUPROM0) rfl).elements, element.cmdBits ≤ 16 := by decide
  have sends := every (promBoard [prom .DDUPROM1, prom .INPROM0]) quietBus .DDUPROM0
    (chainOf .DDUPROM0 [prom .DDUPROM1, prom .INPROM0] (prom .DDUPROM0) rfl)
    (quietBus_answers _) rfl narrow 0xfe ⟨0, 0, []⟩
  rw [sends_words (quietBus_answers _) rfl narrow (by decide)] at sends
  exact absurd (sends.2 16 (by decide)) (by decide)

end EmuLib.Fed
