import EmuLib.Daqmb.Eprom

/-!
What the sequences of accesses do to an ideal flash.
-/

namespace EmuLib.Daqmb

open WordFlash Vme List

section

lemma withCount_eq {value opcode} (valueSmall : value < 0x800) (opcodeSmall : opcode < 0x20) :
    withCount value opcode = value * 0x20 + opcode := by
  have mask : (0xffe0 : Nat) = 0x7ff <<< 5 := rfl
  have kept : value &&& 0x7ff = value := by
    have bits := Nat.and_two_pow_sub_one_eq_mod value 11
    exact bits.trans (Nat.mod_eq_of_lt valueSmall)
  rw [withCount, mask, ← Nat.shiftLeft_and_distrib, kept,
    ← @Nat.shiftLeft_add_eq_or_of_lt 5 opcode opcodeSmall, Nat.shiftLeft_eq]

lemma withCount_opcode {value opcode} (valueSmall : value < 0x800)
    (opcodeSmall : opcode < 0x20) : withCount value opcode % 0x20 = opcode := by
  rw [withCount_eq valueSmall opcodeSmall]
  omega

lemma withCount_count {value opcode} (valueSmall : value < 0x800)
    (opcodeSmall : opcode < 0x20) : withCount value opcode / 0x20 = value := by
  rw [withCount_eq valueSmall opcodeSmall]
  omega

variable {bpi : Bpi}

lemma write_command (idle : bpi.expecting = .command) {value opcode}
    (valueSmall : value < 0x800) (opcodeSmall : opcode < 0x20) :
    bpi.write (withCount value opcode) = bpi.command opcode value := by
  rw [Bpi.write, idle]
  simp only [withCount_opcode valueSmall opcodeSmall, withCount_count valueSmall opcodeSmall]

lemma write_opcode (idle : bpi.expecting = .command) {opcode} (small : opcode < 0x20) :
    bpi.write opcode = bpi.command opcode 0 := by
  have plain : withCount 0 opcode = opcode := by
    rw [withCount_eq (by decide) small]
    omega
  rw [← write_command idle (by decide : 0 < 0x800) small, plain]

lemma writeAll_loadaddress (idle : bpi.expecting = .command) {uaddr} (laddr)
    (small : uaddr < 0x800) : bpi.writeAll [withCount uaddr xpromLoadAddress, laddr] =
      { bpi with flash := bpi.flash.load (uaddr * 0x10000 + laddr) } := by
  rw [Bpi.writeAll, foldl_cons, write_command idle small (by decide)]
  simp [Bpi.command, Bpi.write, idle]

lemma writeAll_unlockerase (idle : bpi.expecting = .command) :
    bpi.writeAll [xpromBlockUnLock, xpromBlockErase] =
      { bpi with
        flash := bpi.flash.erase eraseBlockSize 0xFFFF
        unlocked := some (bpi.flash.pointer / eraseBlockSize) } := by
  rw [Bpi.writeAll, foldl_cons, write_opcode idle (by decide), foldl_cons,
    write_opcode (by simpa [Bpi.command, xpromBlockUnLock, xpromLoadAddress, xpromBufferProgram]
      using idle) (by decide)]
  simp [Bpi.command, xpromBlockUnLock, xpromLoadAddress, xpromBufferProgram, xpromBlockErase,
    xpromBlockLock]

lemma writeAll_data (words) {further}
    (expecting : bpi.expecting = .data further) (all : words.length = further + 1) :
    bpi.writeAll words =
      { bpi with flash := bpi.flash.programAll words, expecting := .command } := by
  induction words generalizing bpi further with
  | nil => cases all
  | cons word others ih =>
    have first : bpi.write word = { bpi with
        flash := bpi.flash.program word
        expecting := if further = 0 then .command else .data (further - 1) } := by
      rw [Bpi.write, expecting]
    have count : others.length = further := Nat.succ_injective all
    rw [Bpi.writeAll, foldl_cons, first]
    cases others with
    | nil =>
      have last : further = 0 := count.symm
      rw [if_pos last]
      rfl
    | cons _ rest =>
      have more : further ≠ 0 := by
        rw [← count]
        exact Nat.succ_ne_zero rest.length
      rw [if_neg more]
      have later := @ih { bpi with
        flash := bpi.flash.program word
        expecting := .data (further - 1) } (further - 1) rfl (by omega)
      exact later

lemma writeAll_bufferprogram (idle : bpi.expecting = .command) {words}
    (some : 0 < words.length) (fits : words.length ≤ 0x800) :
    bpi.writeAll (withCount (words.length - 1) xpromBufferProgram :: words) =
      { bpi with flash := bpi.flash.programAll words } := by
  have header : bpi.write (withCount (words.length - 1) xpromBufferProgram) =
      { bpi with expecting := .data (words.length - 1) } := by
    rw [write_command idle (by omega) (by decide)]
    simp [Bpi.command, xpromBufferProgram, xpromLoadAddress]
  have data := @writeAll_data { bpi with expecting := .data (words.length - 1) } words
    (words.length - 1) rfl (by omega)
  rw [Bpi.writeAll, foldl_cons, header]
  refine Eq.trans data ?_
  rw [← idle]

end

section

structure Bpi.Ready (memory : Nat → Nat) (history : List Event) (bpi : Bpi) : Prop where
  idle : bpi.expecting = .command
  memory : bpi.flash.memory = memory
  history : bpi.flash.history = history
  readBack : bpi.readBack = []

structure Device (α δ : Type) where
  access : δ → α → δ
  bpi : δ → Bpi

variable {α δ : Type} (device : Device α δ)

def Device.run (state : δ) (accesses : List α) : δ := accesses.foldl device.access state

def Device.Achieves (sequence : Sequence α) (memory : Nat → Nat) (history : List Event)
    (memory' : Nat → Nat) (history' : List Event) : Prop :=
  ∀ state, (device.bpi state).Ready memory history → sequence.completed = true →
    (device.bpi (device.run state sequence.accesses)).Ready memory' history'

variable {device} {memory memory' memory'' : Nat → Nat} {history history' history'' : List Event}

lemma Device.Achieves.andThen {first second}
    (one : device.Achieves first memory history memory' history')
    (two : ∀ polled, device.Achieves (second polled) memory' history' memory'' history'') :
    device.Achieves (first.andThen second) memory history memory'' history'' := by
  intro state ready completed
  by_cases done : first.completed = true
  · rw [Sequence.andThen, if_pos done] at completed ⊢
    rw [Device.run, foldl_append]
    exact two first.polled _ (one state ready done) completed
  · rw [Sequence.andThen, if_neg done] at completed
    exact absurd completed done

def Device.Writes (accesses : List α) (words : List Nat) : Prop :=
  ∀ state, device.bpi (device.run state accesses) = (device.bpi state).writeAll words

lemma Device.Writes.append {first second words words'} (one : device.Writes first words)
    (two : device.Writes second words') : device.Writes (first ++ second) (words ++ words') := by
  intro state
  have start := one state
  have rest := two (device.run state first)
  rw [Device.run, foldl_append]
  refine rest.trans ?_
  rw [start, Bpi.writeAll, Bpi.writeAll, Bpi.writeAll, foldl_append]

lemma Device.Achieves.written {accesses words} (polled)
    (writes : device.Writes accesses words)
    (effect : ∀ bpi : Bpi, bpi.Ready memory history →
      (bpi.writeAll words).Ready memory' history') :
    device.Achieves (.done accesses polled) memory history memory' history' := by
  intro state ready _
  have after := effect _ ready
  rw [← writes state] at after
  exact after

def Device.Touches (device : Device α δ) (sequence : Sequence α) (memory : Nat → Nat)
    (history : List Event) : Prop :=
  ∀ state, (device.bpi state).Ready memory history →
    (device.bpi (device.run state sequence.accesses)).flash.history ≠ []

lemma Device.Touches.written {accesses words} (polled)
    (writes : device.Writes accesses words)
    (effect : ∀ bpi : Bpi, bpi.Ready memory history →
      (bpi.writeAll words).Ready memory' history') (something : history' ≠ []) :
    device.Touches (.done accesses polled) memory history := by
  intro state ready
  have after := effect _ ready
  rw [← writes state] at after
  change (device.bpi (device.run state accesses)).flash.history ≠ []
  rw [after.history]
  exact something

lemma Device.Touches.first {first second}
    (keeps : ∀ state access, (device.bpi state).flash.history ≠ [] →
      (device.bpi (device.access state access)).flash.history ≠ [])
    (one : device.Touches first memory history) :
    device.Touches (first.andThen second) memory history := by
  have kept : ∀ accesses state, (device.bpi state).flash.history ≠ [] →
      (device.bpi (device.run state accesses)).flash.history ≠ [] := by
    intro accesses
    induction accesses with
    | nil => exact fun _ something => something
    | cons access others ih =>
      intro state something
      exact ih (device.access state access) (keeps state access something)
  intro state ready
  have touched := one state ready
  rw [Sequence.andThen]
  split
  · rw [Device.run, foldl_append]
    exact kept _ _ touched
  · exact touched

lemma Device.Touches.second {first second} (completed : first.completed = true)
    (one : device.Achieves first memory history memory' history')
    (two : device.Touches (second first.polled) memory' history') :
    device.Touches (first.andThen second) memory history := by
  intro state ready
  rw [Sequence.andThen, if_pos completed, Device.run, foldl_append]
  exact two _ (one state ready completed)

lemma Device.Achieves.quiet {sequence} (silent : device.Writes sequence.accesses [])
    (memory history) : device.Achieves sequence memory history memory history := by
  intro state ready _
  rw [silent state]
  exact ready

end

lemma command_history {bpi : Bpi} (something : bpi.flash.history ≠ []) (opcode count) :
    (bpi.command opcode count).flash.history ≠ [] := by
  unfold Bpi.command
  dsimp only
  repeat' split
  all_goals first
    | exact something
    | exact append_ne_nil_of_right_ne_nil _ (cons_ne_nil _ _)

lemma write_history {bpi : Bpi} (something : bpi.flash.history ≠ []) (word) :
    (bpi.write word).flash.history ≠ [] := by
  unfold Bpi.write
  split
  · exact command_history something _ _
  · exact something
  · exact append_ne_nil_of_right_ne_nil _ (cons_ne_nil _ _)

section

variable {memory : Nat → Nat} {history : List Event} {bpi : Bpi}

def blockErased (block : Nat) (memory : Nat → Nat) : Nat → Nat := fun address =>
  if address / eraseBlockSize = block then 0xFFFF else memory address

def programmedFrom (word : Nat → Nat) (start count : Nat) (memory : Nat → Nat) : Nat → Nat :=
  fun address => if start ≤ address ∧ address < start + count then word address else memory address

lemma Bpi.Ready.quiet (ready : bpi.Ready memory history) {opcode}
    (harmless : opcode ∈ [xpromTimerStart, xpromTimerStop, xpromTimerReset, xpromClearStatus,
      xpromBlockLock]) : (bpi.write opcode).Ready memory history := by
  have small : opcode < 0x20 := by
    have all : ∀ known ∈ [xpromTimerStart, xpromTimerStop, xpromTimerReset, xpromClearStatus,
      xpromBlockLock], known < 0x20 := by decide
    exact all opcode harmless
  rw [write_opcode ready.idle small]
  simp only [mem_cons, not_mem_nil, or_false] at harmless
  rcases harmless with rfl | rfl | rfl | rfl | rfl
  · exact ready
  · exact ready
  · exact ready
  · exact ready
  · exact ⟨ready.idle, ready.memory, ready.history, ready.readBack⟩

lemma Bpi.Ready.quietAll (ready : bpi.Ready memory history) {opcodes}
    (harmless : ∀ opcode ∈ opcodes, opcode ∈ [xpromTimerStart, xpromTimerStop, xpromTimerReset,
      xpromClearStatus, xpromBlockLock]) : (bpi.writeAll opcodes).Ready memory history := by
  induction opcodes generalizing bpi with
  | nil => exact ready
  | cons opcode others ih =>
    exact ih (ready.quiet (harmless opcode mem_cons_self))
      fun other member => harmless other (mem_cons_of_mem opcode member)

lemma writeAll_append (bpi : Bpi) (first second) :
    bpi.writeAll (first ++ second) = (bpi.writeAll first).writeAll second := foldl_append

lemma Bpi.Ready.loaded (ready : bpi.Ready memory history) {uaddr} (laddr)
    (small : uaddr < 0x800) :
    (bpi.writeAll [withCount uaddr xpromLoadAddress, laddr]).Ready memory history ∧
      (bpi.writeAll [withCount uaddr xpromLoadAddress, laddr]).flash.pointer =
        uaddr * 0x10000 + laddr := by
  rw [writeAll_loadaddress ready.idle laddr small]
  exact ⟨⟨ready.idle, ready.memory, ready.history, ready.readBack⟩, rfl⟩

lemma Bpi.Ready.erased (ready : bpi.Ready memory history) {block} (small : block < 0x800) :
    (bpi.writeAll ([withCount block xpromLoadAddress, 0] ++
      [xpromBlockUnLock, xpromBlockErase])).Ready (blockErased block memory)
        (history ++ [.erase block]) := by
  obtain ⟨loaded, pointer⟩ := ready.loaded 0 small
  rw [writeAll_append, writeAll_unlockerase loaded.idle]
  have place : (bpi.writeAll [withCount block xpromLoadAddress, 0]).flash.pointer /
      eraseBlockSize = block := by
    rw [eraseBlockSize]
    omega
  refine ⟨loaded.idle, ?_, ?_, loaded.readBack⟩
  · funext address
    simp only [Flash.erase, blockErased, place, loaded.memory]
  · simp only [Flash.erase, place, loaded.history]

lemma Bpi.Ready.programmed (ready : bpi.Ready memory history) (word)
    {address count} (small : address < 0x8000000) (some : 0 < count) (fits : count ≤ 0x800) :
    (bpi.writeAll ([withCount (address >>> 16) xpromLoadAddress, address &&& 0xffff] ++
      withCount (count - 1) xpromBufferProgram ::
        (List.range count).map fun offset => word (address + offset))).Ready
      (programmedFrom word address count memory) (history ++ programs word address count) := by
  have upper : address >>> 16 < 0x800 := by
    omega
  have lower : address &&& 0xffff = address % 0x10000 := Nat.and_two_pow_sub_one_eq_mod address 16
  obtain ⟨loaded, pointer⟩ := ready.loaded (address &&& 0xffff) upper
  have place : (address >>> 16) * 0x10000 + (address &&& 0xffff) = address := by
    omega
  rw [place] at pointer
  have length : ((List.range count).map fun offset => word (address + offset)).length = count := by
    simp
  have buffer := @writeAll_bufferprogram
    (bpi.writeAll [withCount (address >>> 16) xpromLoadAddress, address &&& 0xffff]) loaded.idle
    ((List.range count).map fun offset => word (address + offset)) (by omega) (by omega)
  rw [length] at buffer
  rw [writeAll_append, buffer]
  have words := @programAll_range
    (bpi.writeAll [withCount (address >>> 16) xpromLoadAddress, address &&& 0xffff]).flash word count
  rw [pointer] at words
  refine ⟨loaded.idle, ?_, ?_, loaded.readBack⟩
  · rw [words, loaded.memory]
    rfl
  · rw [words, loaded.history]

end

variable {α δ : Type} {device : Device α δ} (memory : Nat → Nat) (history : List Event)

def erasedUpTo (blocks : Nat) (memory : Nat → Nat) : Nat → Nat := fun address =>
  if address < eraseBlockSize * blocks then 0xFFFF else memory address

lemma blockErased_erasedUpTo (blocks) :
    blockErased blocks (erasedUpTo blocks memory) = erasedUpTo (blocks + 1) memory := by
  funext address
  unfold blockErased erasedUpTo eraseBlockSize
  by_cases before : address < 0x10000 * blocks
  · have elsewhere : address / 0x10000 ≠ blocks := by omega
    have after : address < 0x10000 * (blocks + 1) := by omega
    rw [if_neg elsewhere, if_pos before, if_pos after]
  · by_cases here : address / 0x10000 = blocks
    · have after : address < 0x10000 * (blocks + 1) := by omega
      rw [if_pos here, if_pos after]
    · have after : ¬address < 0x10000 * (blocks + 1) := by omega
      rw [if_neg here, if_neg before, if_neg after]

lemma eraseLoop_achieves {eraseBlock}
    (erases_block : ∀ block < 0x800, ∀ polled memory history, device.Achieves
      (eraseBlock block polled) memory history (blockErased block memory)
        (history ++ [.erase block]))
    (left) {block} (fits : block + left ≤ 0x800) (polled) :
    device.Achieves (eraseLoop eraseBlock left block polled)
      (erasedUpTo block memory) (history ++ erases block)
      (erasedUpTo (block + left) memory) (history ++ erases (block + left)) := by
  induction left generalizing block polled with
  | zero =>
    intro state ready _
    exact ready
  | succ left ih =>
    have one := erases_block block (by omega) polled (erasedUpTo block memory)
      (history ++ erases block)
    rw [blockErased_erasedUpTo, append_assoc, ← erases_succ] at one
    have blocks : block + (left + 1) = block + 1 + left := by omega
    rw [blocks]
    exact one.andThen fun polled => ih (by omega) polled

lemma programmedFrom_programmedFrom (word count more) :
    programmedFrom word count more (programmedFrom word 0 count memory) =
      programmedFrom word 0 (count + more) memory := by
  funext address
  unfold programmedFrom
  by_cases before : address < count
  · rw [if_neg (by omega), if_pos (by omega), if_pos (by omega)]
  · by_cases here : address < count + more
    · rw [if_pos (by omega), if_pos (by omega)]
    · rw [if_neg (by omega), if_neg (by omega), if_neg (by omega)]

def writtenWords (blocks : Nat) : Nat :=
  if blocks < writeBlockCount then blocks * writeSize else firmwareSize

lemma writtenWords_succ {block} (within : block < writeBlockCount) :
    writtenWords block = block * writeSize ∧
      writtenWords (block + 1) =
        block * writeSize + if block + 1 = writeBlockCount then lastBlock else writeSize := by
  have count : writeBlockCount = 2669 := rfl
  have last : lastBlock = 454 := rfl
  have size : firmwareSize = 2732486 := rfl
  unfold writtenWords writeSize
  rw [count] at within ⊢
  refine ⟨if_pos within, ?_⟩
  by_cases final : block + 1 = 2669
  · rw [if_neg (by omega), if_pos final]
    omega
  · rw [if_pos (by omega), if_neg final]
    omega

lemma writeLoop_achieves (bufin) {writeBlock}
    (programs_block : ∀ address < 0x8000000, ∀ count, 0 < count → count ≤ 0x800 →
      ∀ polled memory history, device.Achieves
        (writeBlock address (wordsFrom bufin address count) polled) memory history
        (programmedFrom (bufw bufin) address count memory)
        (history ++ programs (bufw bufin) address count))
    (left) {block} (all : block + left = writeBlockCount) (polled) :
    device.Achieves (writeLoop bufin writeBlock left block (block * writeSize) polled)
      (programmedFrom (bufw bufin) 0 (writtenWords block) memory)
      (history ++ programs (bufw bufin) 0 (writtenWords block))
      (programmedFrom (bufw bufin) 0 firmwareSize memory)
      (history ++ programs (bufw bufin) 0 firmwareSize) := by
  induction left generalizing block polled with
  | zero =>
    have done : writtenWords block = firmwareSize := if_neg (by omega)
    rw [done]
    intro state ready _
    exact ready
  | succ left ih =>
    have count : writeBlockCount = 2669 := rfl
    obtain ⟨before, after⟩ := writtenWords_succ (by omega : block < writeBlockCount)
    have words : 0 < (if block + 1 = writeBlockCount then lastBlock else writeSize) ∧
        (if block + 1 = writeBlockCount then lastBlock else writeSize) ≤ 0x800 := by
      split <;> decide
    have one := programs_block (block * writeSize) (by unfold writeSize; omega) _ words.1 words.2
      polled (programmedFrom (bufw bufin) 0 (block * writeSize) memory)
      (history ++ programs (bufw bufin) 0 (block * writeSize))
    have joined := programs_add (bufw bufin) 0 (block * writeSize)
      (if block + 1 = writeBlockCount then lastBlock else writeSize)
    rw [Nat.zero_add] at joined
    rw [programmedFrom_programmedFrom, append_assoc, ← joined, ← after] at one
    have next : block * writeSize + writeSize = (block + 1) * writeSize := by
      rw [Nat.succ_mul]
    rw [writeLoop, next, before]
    exact one.andThen fun polled => ih (by omega) polled

end EmuLib.Daqmb
