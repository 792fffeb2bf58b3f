import EmuLib.Fed.LockedCycles

/-!
The cycles that the VME operations of the FED boards make where the bus answers.
-/

namespace EmuLib.Fed

open Operations List

structure Performs (operation : Vme Value) (state : VmeState) (value : Value)
    (cycles : List Cycle) : Prop where
  returns : outcome operation state = .ok value
  made : (after operation state).cycles = state.cycles ++ cycles
  counted : (after operation state).calls = state.calls + cycles.length

structure Answers (board : VmeModule) (bus : Bus) : Prop where
  real : board.fake = false
  succeeds : ∀ call, bus.succeeds call = true

section

variable {board : VmeModule} {bus : Bus} {state : VmeState} {value : Value} {result : Result}
  {cycles further : List Cycle}

lemma performs_pure (value state) :
    Performs (pure value : Vme Value) state value [] :=
  ⟨rfl, (append_nil _).symm, rfl⟩

lemma Performs.bind {operation next} (first : Performs operation state value cycles)
    (second : Performs (next value) (after operation state) result further) :
    Performs (operation >>= next) state result (cycles ++ further) := by
  obtain ⟨returned, later⟩ := bind_returned next first.returns
  refine ⟨returned.trans second.returns, ?_, ?_⟩
  · rw [later, second.made, first.made, append_assoc]
  · rw [later, second.counted, first.counted, length_append, Nat.add_assoc]

lemma Performs.map {operation} (performs : Performs operation state value cycles)
    (change : Value → Result) : Performs (change <$> operation) state (change value) cycles := by
  have both : Performs (operation >>= fun value => pure (change value)) state (change value)
      (cycles ++ []) := performs.bind (performs_pure (change value) _)
  rwa [append_nil] at both

lemma performs_locked {block exit}
    (performs : Performs block state.entered (exit, value) cycles) :
    Performs (locked block) state value cycles := by
  cases exit with
  | ended =>
    obtain ⟨returned, later⟩ := locked_ended performs.returns
    constructor
    · exact returned
    · rw [later]
      exact performs.made
    · rw [later]
      exact performs.counted
  | returned =>
    obtain ⟨returned, later⟩ := locked_returned performs.returns
    constructor
    · exact returned
    · rw [later]
      exact performs.made
    · rw [later]
      exact performs.counted

lemma performs_lockedWhole {whole} (performs : Performs whole state.entered value cycles) :
    Performs (lockedWhole whole) state value cycles :=
  performs_locked (performs.map _)

lemma performs_forM {Item : Type} {step : Item → Vme Unit} {made}
    (each : ∀ item state, Performs (step item) state () (made item)) (items : List Item)
    (state) : Performs (items.forM step) state () (items.flatMap made) := by
  induction items generalizing state with
  | nil => exact performs_pure () state
  | cons item rest ih =>
    exact (each item state).bind (ih _)

end

variable {board : VmeModule} {bus : Bus}

def VmeModule.write (board : VmeModule) (address : UInt32) (data : UInt16) : Cycle :=
  .write (address ||| board.vmeAddress) data

def VmeModule.read (board : VmeModule) (address : UInt32) : Cycle :=
  .read (address ||| board.vmeAddress)

lemma Answers.works (answers : Answers board bus) (call) : works board bus call = true := by
  simp [Fed.works, answers.succeeds]

lemma performs_writeVME (answers : Answers board bus) (address data state) :
    Performs (writeVME board bus address data) state () [board.write address data] := by
  refine ⟨if_pos (answers.works _), ?_, rfl⟩
  show (if board.fake then _ else _) = _
  rw [answers.real]
  rfl

lemma performs_readVME (answers : Answers board bus) (address state) :
    Performs (readVME board bus address) state (bus.data state.calls) [board.read address] := by
  refine ⟨if_pos (answers.works _), ?_, rfl⟩
  show (if board.fake then _ else _) = _
  rw [answers.real]
  rfl

def cycleWords (bus : Bus) (nBits : UInt32) (data : List UInt16) : List UInt16 :=
  (List.range (wordsFor nBits)).map fun iWord => wordAt bus data iWord &&& bitMask nBits iWord

lemma performs_writeCycle (answers : Answers board bus) (address nBits data state) :
    Performs (writeCycle board bus address nBits data) state ()
      ((cycleWords bus nBits data).map (board.write address)) := by
  have words := performs_forM (fun iWord state => performs_writeVME answers address
    (wordAt bus data iWord &&& bitMask nBits iWord) state) (List.range (wordsFor nBits))
    state.entered
  rw [← map_eq_flatMap] at words
  rw [cycleWords, map_map]
  exact performs_lockedWhole words

lemma performs_writePattern (answers : Answers board bus) (address) {pattern}
    (small : (pattern.all fun bogoData => bogoData &&& 3 == bogoData) = true) (state) :
    Performs (writePattern board bus address pattern) state ()
      (pattern.map (board.write address)) := by
  have words := performs_forM (fun bogoData state =>
    performs_writeCycle answers address 2 [bogoData] state) pattern state
  have single : ∀ bogoData ∈ pattern,
      (cycleWords bus 2 [bogoData]).map (board.write address) = [board.write address bogoData] := by
    intro bogoData inside
    have kept : cycleWords bus 2 [bogoData] = [bogoData &&& 3] := rfl
    rw [kept, beq_iff_eq.mp (all_eq_true.mp small bogoData inside)]
    rfl
  rw [flatMap_congr single, ← map_eq_flatMap] at words
  exact words

end EmuLib.Fed
