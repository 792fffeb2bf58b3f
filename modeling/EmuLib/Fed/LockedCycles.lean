import EmuLib.Fed.VmeModule

/-!
The cycles of the VME operations, and what they leave of the mutex where none is missed.
-/

namespace EmuLib.Fed

open Operations

abbrev MakesCycles (board : VmeModule) (bus : Bus) (count : Nat) (operation : Vme Value) : Prop :=
  Makes VmeState.calls VmeState.held (works board bus) .caen count operation

section

variable {board : VmeModule} {bus : Bus} {block : Vme (Exit × Value)} {state : VmeState}
  {value : Value}

def VmeState.entered (state : VmeState) : VmeState := { state with held := state.held + 1 }

def VmeState.left (state : VmeState) : VmeState := { state with held := state.held - 1 }

lemma locked_of (block : Vme (Exit × Value)) (state) :
    outcome (locked block) state =
        outcome (tryCatch block unlockCaught >>= unlockEnded) state.entered ∧
      after (locked block) state =
        after (tryCatch block unlockCaught >>= unlockEnded) state.entered :=
  bind_returned _ rfl

lemma locked_ended (ended : outcome block state.entered = .ok (.ended, value)) :
    outcome (locked block) state = .ok value ∧
      after (locked block) state = (after block state.entered).left := by
  have caught := catch_returned unlockCaught ended
  have left := bind_returned unlockEnded caught.1
  rw [(locked_of block state).1, (locked_of block state).2, left.1, left.2, caught.2]
  exact ⟨rfl, rfl⟩

lemma locked_returned (returned : outcome block state.entered = .ok (.returned, value)) :
    outcome (locked block) state = .ok value ∧
      after (locked block) state = after block state.entered := by
  have caught := catch_returned unlockCaught returned
  have left := bind_returned unlockEnded caught.1
  rw [(locked_of block state).1, (locked_of block state).2, left.1, left.2, caught.2]
  exact ⟨rfl, rfl⟩

lemma locked_caen (failed : outcome block state.entered = .error .caen) :
    outcome (locked block) state = .error .caen ∧
      after (locked block) state = (after block state.entered).left := by
  have caught := catch_thrown unlockCaught failed
  have thrown : outcome (tryCatch block unlockCaught) state.entered = .error .caen := caught.1
  have left := bind_thrown unlockEnded thrown
  rw [(locked_of block state).1, (locked_of block state).2, left.1, left.2, caught.2]
  exact ⟨rfl, rfl⟩

lemma locked_escaped {exception} (other : exception ≠ .caen)
    (failed : outcome block state.entered = .error exception) :
    outcome (locked block) state = .error exception ∧
      after (locked block) state = after block state.entered := by
  have same : (unlockCaught exception : Vme (Exit × Value)) = throw exception := by
    cases exception with
    | caen => exact absurd rfl other
    | devType => rfl
    | outOfRange => rfl
  have caught := catch_thrown unlockCaught failed
  rw [same] at caught
  have left := bind_thrown unlockEnded caught.1
  rw [(locked_of block state).1, (locked_of block state).2, left.1, left.2, caught.2]
  exact ⟨rfl, rfl⟩

lemma makes_locked {count} (makes : MakesCycles board bus count block)
    (ends : ∀ state left, outcome block state = .ok left → left.1 = .ended) :
    MakesCycles board bus count (locked block) := by
  have kept : ∀ state : VmeState, (after block state.entered).left.held = state.held := by
    intro state
    show (after block state.entered).held - 1 = state.held
    rw [makes.keeps]
    rfl
  have run : ∀ state : VmeState,
      (allWork (works board bus) state.calls count = true ∧
        (∃ value, outcome (locked block) state = .ok value) ∧
          (after (locked block) state).calls = state.calls + count ∧
          (after (locked block) state).held = state.held) ∨
      (allWork (works board bus) state.calls count = false ∧
        outcome (locked block) state = .error .caen ∧
          (after (locked block) state).held = state.held) := by
    intro state
    cases all : allWork (works board bus) state.calls count with
    | true =>
      obtain ⟨⟨⟨exit, value⟩, ended⟩, counted⟩ := makes.returns state.entered all
      obtain rfl : exit = .ended := ends _ _ ended
      obtain ⟨returned, later⟩ := locked_ended ended
      refine .inl ⟨rfl, ⟨value, returned⟩, ?_, ?_⟩
      · rw [later]
        exact counted
      · rw [later, kept]
    | false =>
      obtain ⟨thrown, later⟩ := locked_caen (makes.throws state.entered all)
      exact .inr ⟨rfl, thrown, by rw [later, kept]⟩
  constructor
  · intro state
    rcases run state with ⟨_, _, _, same⟩ | ⟨_, _, same⟩ <;> exact same
  · intro state all
    rcases run state with ⟨_, returned, counted, _⟩ | ⟨some, _⟩
    · exact ⟨returned, counted⟩
    · cases some.symm.trans all
  · intro state some
    rcases run state with ⟨all, _⟩ | ⟨_, thrown, _⟩
    · cases some.symm.trans all
    · exact thrown

lemma makes_lockedWhole {whole : Vme Value} {count} (makes : MakesCycles board bus count whole) :
    MakesCycles board bus count (lockedWhole whole) := by
  refine makes_locked (makes_map makes _) fun state left ended => ?_
  obtain ⟨value, later, last⟩ := bind_result ended
  cases last
  rfl

end

section

variable {board : VmeModule} {bus : Bus}

lemma makes_readVME (address) : MakesCycles board bus 1 (readVME board bus address) := by
  constructor
  · exact fun _ => rfl
  · intro state all
    rw [allWork_one] at all
    exact ⟨⟨bus.data state.calls, if_pos all⟩, rfl⟩
  · intro state failed
    rw [allWork_one] at failed
    exact if_neg (ne_true_of_eq_false failed)

lemma makes_writeVME (address data) :
    MakesCycles board bus 1 (writeVME board bus address data) := by
  constructor
  · exact fun _ => rfl
  · intro state all
    rw [allWork_one] at all
    exact ⟨⟨(), if_pos all⟩, rfl⟩
  · intro state failed
    rw [allWork_one] at failed
    exact if_neg (ne_true_of_eq_false failed)

lemma makes_writeCycle (address nBits data) :
    MakesCycles board bus (wordsFor nBits) (writeCycle board bus address nBits data) := by
  have words := makes_forM (fun iWord => @makes_writeVME board bus address
    (wordAt bus data iWord &&& bitMask nBits iWord)) (List.range (wordsFor nBits))
  rw [List.length_range, Nat.mul_one] at words
  exact makes_lockedWhole words

lemma makes_readCycle (address nBits) :
    MakesCycles board bus (wordsFor nBits) (readCycle board bus address nBits) := by
  have each : ∀ (result : List UInt16) (iWord : Nat), MakesCycles board bus 1 (do
      let word ← readVME board bus address
      pure (result ++ [word &&& bitMask nBits iWord])) :=
    fun result iWord => makes_bind (makes_readVME address) fun _ => makes_pure _
  have words := makes_foldlM each (List.range (wordsFor nBits)) []
  rw [List.length_range, Nat.mul_one] at words
  exact makes_lockedWhole words

lemma makes_writePattern (address pattern) :
    MakesCycles board bus pattern.length (writePattern board bus address pattern) := by
  have writes := makes_forM (fun bogoData => @makes_writeCycle board bus address 2
    [bogoData]) pattern
  rwa [show wordsFor 2 = 1 from rfl, Nat.mul_one] at writes

def resetCommandCycles (chain : JtagChain .RESET) : Nat := 6 + chain.front.cmdBits.toNat + 2

lemma makes_commandCycle_reset {chain} (mapped : board.jtagMap .RESET = some chain) (myCommand) :
    MakesCycles board bus (resetCommandCycles chain)
      (commandCycle board bus .RESET myCommand) := by
  have bits := @makes_writePattern board bus chain.front.bitCode
    ((List.range chain.front.cmdBits.toNat).map fun iBit =>
      bogoBit (myCommand.toNat.testBit iBit) (iBit == chain.front.cmdBits.toNat - 1))
  rw [List.length_map, List.length_range] at bits
  have block := makes_bind (makes_writePattern chain.front.bitCode [0, 0, 1, 1, 0, 0]) fun _ =>
    makes_bind bits fun _ =>
      @makes_writePattern board bus chain.front.bitCode [1, 0]
  simp only [commandCycle, mapped]
  exact makes_lockedWhole block

lemma makes_commandCycle {dev chain}
    (mapped : board.jtagMap dev = some chain) (other : dev ≠ .RESET) (myCommand) :
    MakesCycles board bus
      (wordsFor (chainCommands dev myCommand chain.elements [] 0).2)
      (commandCycle board bus dev myCommand) := by
  simp only [commandCycle, mapped, if_neg other]
  exact makes_lockedWhole (makes_writeCycle ..)

end

variable {board : VmeModule} {bus : Bus} {state : VmeState}

lemma makes_jtagReadWord (transfer result iWord) :
    MakesCycles board bus 2 (jtagReadWord board bus transfer result iWord) :=
  makes_bind (makes_writeVME _ _) fun _ => makes_bind (makes_readVME _) fun _ => makes_pure _

lemma makes_jtagWriteWord (transfer myData) (noRead : Bool) (result iWord) :
    MakesCycles board bus (if noRead then 1 else 2)
      (jtagWriteWord board bus transfer myData noRead result iWord) := by
  cases noRead with
  | true => exact makes_bind (makes_writeVME _ _) fun _ => makes_pure _
  | false =>
    exact makes_bind (makes_writeVME _ _) fun _ =>
      makes_bind (makes_readVME _) fun _ => makes_pure _

lemma makes_jtagRead {dev chain} (mapped : board.jtagMap dev = some chain) (nBits) :
    ∃ count, MakesCycles board bus count (jtagRead board bus dev nBits) := by
  simp only [jtagRead, mapped]
  exact ⟨_, makes_lockedWhole (makes_foldlM (makes_jtagReadWord _) _ _)⟩

lemma makes_jtagWrite {dev chain}
    (mapped : board.jtagMap dev = some chain) (other : dev ≠ .RESET) (nBits data noRead) :
    ∃ count, MakesCycles board bus count (jtagWrite board bus dev nBits data noRead) := by
  simp only [jtagWrite, mapped, if_neg other]
  exact ⟨_, makes_lockedWhole (makes_foldlM (makes_jtagWriteWord _ _ noRead) _ _)⟩

def resetWriteCycles (chain : JtagChain .RESET) (nBits : UInt32) : Nat :=
  5 + (Transfer.allBits ⟨chain.front.bitCode, nBits,
    (chain.elements.reverse.takeWhile fun element => element.dev ≠ .RESET).length⟩).toNat + 2

/-- The RESET path returns without the mutex being unlocked. -/
lemma jtagWrite_reset {chain} (mapped : board.jtagMap .RESET = some chain)
    (nBits data noRead state) :
    (allWork (works board bus) state.calls (resetWriteCycles chain nBits) = true →
      outcome (jtagWrite board bus .RESET nBits data noRead) state = .ok [] ∧
        (after (jtagWrite board bus .RESET nBits data noRead) state).calls =
          state.calls + resetWriteCycles chain nBits ∧
        (after (jtagWrite board bus .RESET nBits data noRead) state).held = state.held + 1) ∧
    (allWork (works board bus) state.calls (resetWriteCycles chain nBits) = false →
      outcome (jtagWrite board bus .RESET nBits data noRead) state = .error .caen ∧
        (after (jtagWrite board bus .RESET nBits data noRead) state).held = state.held) := by
  let transfer : Transfer := ⟨chain.front.bitCode, nBits,
    (chain.elements.reverse.takeWhile fun element => element.dev ≠ .RESET).length⟩
  let bits : List UInt16 := (List.range transfer.allBits.toNat).map fun iBit =>
    bogoBit ((wordAt bus data (iBit / 16)).toNat.testBit (iBit % 16))
      (iBit == transfer.allBits.toNat - 1)
  let block : Vme (Exit × List UInt16) := do
    writePattern board bus transfer.myAddress [0, 0, 1, 0, 0]
    writePattern board bus transfer.myAddress bits
    writePattern board bus transfer.myAddress [1, 0]
    pure (.returned, [])
  have same : jtagWrite board bus .RESET nBits data noRead = locked block := by
    simp only [jtagWrite, mapped]
    rfl
  have counted : bits.length = transfer.allBits.toNat := by
    rw [List.length_map, List.length_range]
  have makes : MakesCycles board bus (5 + (bits.length + (2 + 0))) block :=
    makes_bind (makes_writePattern _ [0, 0, 1, 0, 0]) fun _ =>
      makes_bind (makes_writePattern _ bits) fun _ =>
        makes_bind (makes_writePattern _ [1, 0]) fun _ => makes_pure _
  have total : 5 + (bits.length + (2 + 0)) = resetWriteCycles chain nBits := by
    rw [counted]
    exact (Nat.add_assoc ..).symm
  rw [total] at makes
  rw [same]
  constructor
  · intro all
    obtain ⟨⟨left, ended⟩, calls⟩ := makes.returns state.entered all
    obtain ⟨_, _, first⟩ := bind_result ended
    obtain ⟨_, _, second⟩ := bind_result first
    obtain ⟨_, _, last⟩ := bind_result second
    obtain rfl : left = (.returned, []) := (Except.ok.inj last).symm
    obtain ⟨returned, later⟩ := locked_returned ended
    exact ⟨returned, by rw [later]; exact calls, by rw [later]; exact makes.keeps _⟩
  · intro failed
    obtain ⟨thrown, later⟩ := locked_caen (makes.throws state.entered failed)
    refine ⟨thrown, ?_⟩
    rw [later]
    show (after block state.entered).held - 1 = state.held
    rw [makes.keeps]
    rfl

end EmuLib.Fed
