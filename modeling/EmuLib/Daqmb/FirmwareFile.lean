import EmuLib.Daqmb.EpromProgramming

/-!
The firmware of a file, in the flash and in the file that is read back.
-/

namespace EmuLib.Daqmb

open WordFlash Vme List

section

variable {bpi : Bpi}

lemma readWords_all (count) (length : bpi.readBack.length = count) :
    readWords count bpi = (bpi.readBack.map (· % 0x10000), { bpi with readBack := [] }) := by
  induction count generalizing bpi with
  | zero =>
    have nothing : bpi.readBack = [] := length_eq_zero_iff.mp length
    rw [readWords, nothing, map_nil, ← nothing]
  | succ count ih =>
    obtain ⟨word, others, words⟩ := exists_cons_of_length_eq_add_one length
    have first : readWord bpi = (word % 0x10000, { bpi with readBack := others }) := by
      rw [readWord, odmbAccess, words]
      rfl
    have rest := @ih { bpi with readBack := others } (by
      rw [words] at length
      exact Nat.succ_injective length)
    rw [readWords, first, rest, words]
    rfl

lemma odmbepromRead_words (fuel) {leftover} (enough : leftover ≤ fuel)
    (idle : bpi.expecting = .command) (nothing : bpi.readBack = []) :
    odmbepromRead fuel leftover bpi =
      ((bpi.flash.words leftover).map (· % 0x10000),
        { bpi with flash := bpi.flash.skip leftover }) := by
  induction fuel generalizing leftover bpi with
  | zero =>
    have none : leftover = 0 := by omega
    rw [none]
    rfl
  | succ fuel ih =>
    rw [odmbepromRead]
    by_cases none : leftover = 0
    · rw [if_pos none, none]
      rfl
    · rw [if_neg none]
      obtain ⟨toread, size⟩ : ∃ toread, toread = if 16 < leftover then 16 else leftover := ⟨_, rfl⟩
      have bounds : 0 < toread ∧ toread ≤ 16 ∧ toread ≤ leftover := by
        rw [size]
        split <;> omega
      have command : odmbRun bpi (odmbXpromDo (withCount (toread - 1) xpromReadN)) =
          { bpi with
            readBack := bpi.flash.words toread
            flash := bpi.flash.skip toread } := by
        have sent := odmbXpromDo_writes (withCount_small (by omega : toread - 1 < 0x800)
          (by decide : xpromReadN < 0x20)) bpi
        have count : toread - 1 + 1 = toread := by omega
        have kinds : xpromReadN ≠ xpromLoadAddress ∧ xpromReadN ≠ xpromBufferProgram ∧
            xpromReadN ≠ xpromBlockUnLock ∧ xpromReadN ≠ xpromBlockLock ∧
            xpromReadN ≠ xpromBlockErase := by decide
        refine sent.trans ?_
        change bpi.write (withCount (toread - 1) xpromReadN) = _
        rw [write_command idle (by omega) (by decide), Bpi.command]
        rw [if_neg kinds.1, if_neg kinds.2.1, if_neg kinds.2.2.1, if_neg kinds.2.2.2.1,
          if_neg kinds.2.2.2.2, if_pos rfl, nothing, nil_append, count]
      have read := @readWords_all
        { bpi with readBack := bpi.flash.words toread, flash := bpi.flash.skip toread } toread
        (by simp [Flash.words])
      have further := @ih { bpi with flash := bpi.flash.skip toread } (leftover - toread)
        (by omega) idle nothing
      have parts : leftover = toread + (leftover - toread) := by omega
      dsimp only
      rw [← size, command, read]
      dsimp only
      rw [← nothing, further, skip_skip, ← parts]
      have words := words_add bpi.flash toread (leftover - toread)
      rw [← parts] at words
      rw [words, map_append]

variable {memory : Nat → Nat} {history : List Event}

lemma readBlocks_words (left) {fulladdr} (ready : bpi.Ready memory history)
    (fits : fulladdr + left * readSize ≤ 0x8000000) :
    (readBlocks left fulladdr bpi).1 =
      (List.range (left * readSize)).map fun offset => memory (fulladdr + offset) % 0x10000 := by
  induction left generalizing fulladdr bpi with
  | zero => simp [readBlocks]
  | succ left ih =>
    have size : readSize = 0x800 := rfl
    have sum : (left + 1) * readSize = readSize + left * readSize := by
      rw [Nat.succ_mul, Nat.add_comm]
    rw [size] at fits
    have small : fulladdr < 0x8000000 := by omega
    have upper : fulladdr >>> 16 < 0x800 := by
      omega
    have lower : fulladdr &&& 0xffff = fulladdr % 0x10000 :=
      Nat.and_two_pow_sub_one_eq_mod fulladdr 16
    have place : (fulladdr >>> 16) * 0x10000 + (fulladdr &&& 0xffff) = fulladdr := by
      omega
    obtain ⟨loaded, pointer⟩ := ready.loaded (fulladdr &&& 0xffff) upper
    rw [place] at pointer
    have sent := odmbepromLoadaddress_split small bpi
    change odmbRun bpi _ = bpi.writeAll _ at sent
    rw [← sent] at loaded pointer
    have read := odmbepromRead_words readSize (Nat.le_refl readSize) loaded.idle loaded.readBack
    have further := @ih { odmbRun bpi (odmbepromLoadaddress (fulladdr >>> 16)
        (fulladdr &&& 0xffff)) with
      flash := (odmbRun bpi (odmbepromLoadaddress (fulladdr >>> 16)
        (fulladdr &&& 0xffff))).flash.skip readSize } (fulladdr + readSize)
      ⟨loaded.idle, loaded.memory, loaded.history, loaded.readBack⟩ (by rw [size]; omega)
    rw [readBlocks]
    dsimp only
    rw [read]
    dsimp only
    rw [further, sum, range_add, map_append, map_map, Flash.words, pointer, loaded.memory, map_map]
    simp only [Function.comp_def, Nat.add_assoc]

lemma getD_range (word) {count index} (within : index < count) :
    ((List.range count).map word).getD index 0 = word index := by
  rw [getD_eq_getElem _ _ (by simpa using within), getElem_map, getElem_range]

lemma bytesOf_bufw (bufin malloc) {memory : Nat → Nat} {count position}
    (words : ∀ index < firmwareSize, memory index = bufw bufin index)
    (within : position < 2 * firmwareSize) (covered : firmwareSize ≤ count) :
    bytesOf ((List.range count).map fun index => memory index % 0x10000) malloc position =
      bufin position := by
  have below : position / 2 < firmwareSize := by omega
  have inside : position < 2 * ((List.range count).map fun index => memory index % 0x10000).length := by
    rw [length_map, length_range]
    omega
  have word := words (position / 2) below
  have small := bufw_small bufin (position / 2)
  rw [bytesOf, if_pos inside, getD_range (fun index => memory index % 0x10000) (by omega), word,
    Nat.mod_eq_of_lt small, bufw]
  have low := (bufin (2 * (position / 2))).toNat_lt
  have high := (bufin (2 * (position / 2) + 1)).toNat_lt
  by_cases even : position % 2 = 0
  · have place : 2 * (position / 2) = position := by omega
    rw [if_pos even, Nat.add_mul_mod_self_left, Nat.mod_eq_of_lt low, place, UInt8.ofNat_toNat]
  · have place : 2 * (position / 2) + 1 = position := by omega
    have upper : ((bufin (2 * (position / 2))).toNat +
        0x100 * (bufin (2 * (position / 2) + 1)).toNat) / 0x100 % 0x100 =
          (bufin (2 * (position / 2) + 1)).toNat := by omega
    rw [if_neg even, upper, place, UInt8.ofNat_toNat]

end

def FileByte (unset : Unset) (file : List Char) (position : Nat) (byte : UInt8) : Prop :=
  ∀ original, ∃ total reader, readMcs unset original file = .returned total reader ∧
    reader.binbuf position = byte

def Supplies (unset : Unset) (fopen : Option (List Char)) : Prop :=
  ∃ file, fopen = some file ∧ ∀ position < 5464972, ∃ byte, FileByte unset file position byte

structure Programmed (unset : Unset) (file : List Char) (before : Nat → Nat) (bpi : Bpi) :
    Prop where
  words : ∀ address < 2732486, ∃ low high, FileByte unset file (2 * address) low ∧
    FileByte unset file (2 * address + 1) high ∧
    bpi.flash.memory address = low.toNat + 0x100 * high.toNat
  once : ∀ address < 2732486, bpi.flash.history.countP (Event.programs address) = 1
  erasedFirst : ErasedFirst eraseBlockSize bpi.flash.history
  inside : ∀ event ∈ bpi.flash.history, .erase (event.block eraseBlockSize) ∈ bpi.flash.history
  untouched : ∀ address, .erase (address / eraseBlockSize) ∉ bpi.flash.history →
    bpi.flash.memory address = before address
  readBack : ∀ unset' malloc original, ∃ total reader,
    readMcs unset' original (odmbReadfirmwareMcs malloc bpi) = .returned total reader ∧
      ∀ position < 5464972, FileByte unset file position (reader.binbuf position)

/-- Nothing is erased or programmed without the whole firmware, and what is completed is right. -/
def Device.Faithful {α δ : Type} (device : Device α δ) (sequence : Sequence α) (unset : Unset)
    (fopen : Option (List Char)) (memory : Nat → Nat) (state : δ) : Prop :=
  let bpi := device.bpi (device.run state sequence.accesses)
  (bpi.flash.history ≠ [] → Supplies unset fopen) ∧
    (sequence.completed = true → ∃ file, fopen = some file ∧ Programmed unset file memory bpi)

/-- Enough bytes are counted while the file is read, and what was read passes the check. -/
def Accepts (unset : Unset) (malloc : Option (Nat → UInt8)) (fopen : Option (List Char))
    (check : (Nat → UInt8) → Bool) : Prop :=
  ∃ original file total reader, malloc = some original ∧ fopen = some file ∧
    readMcs unset original file = .returned total reader ∧ 2732486 ≤ total ∧
    check reader.binbuf = true

def freshBpi (memory : Nat → Nat) (pointer : Nat) (unlocked : Option Nat) : Bpi where
  flash := ⟨memory, pointer, []⟩
  expecting := .command
  unlocked := unlocked
  readBack := []

variable {unset : Unset} {malloc : Option (Nat → UInt8)} {fopen : Option (List Char)}
  {memory : Nat → Nat} {bpi : Bpi} {bufin : Nat → UInt8}

lemma readFirmware_eq_some : readFirmware unset malloc fopen = some bufin ↔
    ∃ original file total reader, malloc = some original ∧ fopen = some file ∧
      readMcs unset original file = .returned total reader ∧ 2732486 ≤ total ∧
      reader.binbuf = bufin := by
  have size : firmwareSize = 2732486 := rfl
  constructor
  · intro read
    unfold readFirmware at read
    split at read
    · rename_i original file
      split at read
      · rename_i total reader result
        by_cases short : total < firmwareSize
        · rw [if_pos short] at read
          cases read
        · rw [if_neg short] at read
          exact ⟨original, file, total, reader, rfl, rfl, result, by omega,
            Option.some.inj read⟩
      · cases read
      · cases read
    · cases read
  · rintro ⟨original, file, total, reader, rfl, rfl, result, enough, rfl⟩
    have long : ¬total < firmwareSize := by omega
    simp only [readFirmware, result]
    rw [if_neg long]

lemma programmedMemory_word {address} (within : address < firmwareSize) :
    programmedMemory bufin memory address = bufw bufin address :=
  if_pos ⟨Nat.zero_le address, by omega⟩

lemma mem_programmedHistory {block} :
    .erase block ∈ programmedHistory bufin ↔ block < eraseBlocks := by
  constructor
  · intro member
    exact erases_programs_block (bufw bufin) (by decide : 0 < eraseBlockSize)
      (by decide : firmwareSize ≤ eraseBlocks * eraseBlockSize) (.erase block) member
  · intro within
    exact mem_append_left _ (mem_map.mpr ⟨block, mem_range.mpr within, rfl⟩)

lemma Bpi.Ready.faithful
    (ready : bpi.Ready (programmedMemory bufin memory) (programmedHistory bufin)) {file}
    (supplied : ∀ position < 5464972, FileByte unset file position (bufin position)) :
    Programmed unset file memory bpi := by
  have size : firmwareSize = 2732486 := rfl
  have positive : 0 < eraseBlockSize := by decide
  have fits : firmwareSize ≤ eraseBlocks * eraseBlockSize := by decide
  constructor
  · intro address within
    refine ⟨bufin (2 * address), bufin (2 * address + 1), supplied _ (by omega),
      supplied _ (by omega), ?_⟩
    rw [ready.memory, programmedMemory_word (by omega)]
    rfl
  · intro address within
    rw [ready.history, programmedHistory, countP_append, erases_unprogrammed, programs_once,
      Nat.zero_add]
    exact if_pos ⟨Nat.zero_le address, by omega⟩
  · rw [ready.history]
    exact erases_programs_erasedFirst (bufw bufin) positive fits
  · rw [ready.history]
    intro event member
    exact mem_programmedHistory.mpr (erases_programs_block (bufw bufin) positive fits event member)
  · intro address elsewhere
    rw [ready.history, mem_programmedHistory] at elsewhere
    have blocks : eraseBlocks = 42 := rfl
    have unit : eraseBlockSize = 65536 := rfl
    rw [unit] at elsewhere
    have beyond : ¬(0 ≤ address ∧ address < 0 + firmwareSize) := by omega
    have outside : ¬address < eraseBlockSize * eraseBlocks := by
      rw [blocks]
      omega
    rw [ready.memory, programmedMemory, programmedFrom, if_neg beyond, erasedUpTo, if_neg outside]
  · intro unset' malloc original
    obtain ⟨reader, read, reached⟩ := readMcs_written unset' original
      (bytesOf (readBlocks totalBlocks 0 (odmbRun bpi (odmbBpiReset ++ odmbBpiEnable))).1 malloc)
      (by decide : 1 ≤ 5464972) (by decide)
    refine ⟨_, reader, read, ?_⟩
    intro position within
    have silent : odmbRun bpi (odmbBpiReset ++ odmbBpiEnable) = bpi := rfl
    have words := readBlocks_words totalBlocks ready
      (by decide : 0 + totalBlocks * readSize ≤ 0x8000000)
    simp only [Nat.zero_add] at words
    rw [reached.written (by omega) within, silent, words, bytesOf_bufw bufin malloc
      (fun index below => programmedMemory_word below) (by omega) (by decide)]
    exact supplied position within

lemma Supplies.bytes (supplies : Supplies unset fopen) {original file total reader} (opened : fopen = some file)
    (read : readMcs unset original file = .returned total reader) :
    ∀ position < 5464972, FileByte unset file position (reader.binbuf position) := by
  obtain ⟨same, opened', bytes⟩ := supplies
  rw [opened] at opened'
  obtain rfl := Option.some.inj opened'
  intro position within
  obtain ⟨byte, found⟩ := bytes position within
  obtain ⟨total', reader', result, value⟩ := found original
  rw [read] at result
  injection result with _ sameReader
  rw [sameReader, value]
  exact found

lemma faithful_iff {α δ} {device : Device α δ} {sequence state check}
    (fresh : (device.bpi state).Ready memory [])
    (refused : (∀ bufin, readFirmware unset malloc fopen = some bufin → check bufin = false) →
      sequence = nothing)
    (achieves : ∀ bufin, readFirmware unset malloc fopen = some bufin →
      device.Achieves sequence memory [] (programmedMemory bufin memory) (programmedHistory bufin))
    (touches : ∀ bufin, readFirmware unset malloc fopen = some bufin → check bufin = true →
      device.Touches sequence memory []) :
    device.Faithful sequence unset fopen memory state ↔
      (Accepts unset malloc fopen check → Supplies unset fopen) := by
  by_cases accepted : Accepts unset malloc fopen check
  · obtain ⟨original, file, total, reader, allocated, opened, read, enough, checked⟩ := accepted
    have firmware : readFirmware unset malloc fopen = some reader.binbuf :=
      readFirmware_eq_some.mpr ⟨original, file, total, reader, allocated, opened, read, enough, rfl⟩
    constructor
    · intro faithful _
      exact faithful.1 (touches reader.binbuf firmware checked state fresh)
    · intro supplies
      have supplied := supplies
        ⟨original, file, total, reader, allocated, opened, read, enough, checked⟩
      refine ⟨fun _ => supplied, fun completed => ⟨file, opened, ?_⟩⟩
      exact (achieves reader.binbuf firmware state fresh completed).faithful
        (supplied.bytes opened read)
  · have unchecked : ∀ bufin, readFirmware unset malloc fopen = some bufin →
        check bufin = false := by
      intro bufin firmware
      obtain ⟨original, file, total, reader, allocated, opened, read, enough, rfl⟩ :=
        readFirmware_eq_some.mp firmware
      by_contra passed
      exact accepted ⟨original, file, total, reader, allocated, opened, read, enough,
        Bool.not_eq_false _ ▸ passed⟩
    rw [refused unchecked]
    constructor
    · intro _ contrary
      exact absurd contrary accepted
    · intro _
      refine ⟨fun touched => absurd fresh.history touched, ?_⟩
      intro completed
      cases completed

/-- The buffer is accepted after half of the bytes of the firmware, as its size is given in words
there: exactly then something else than the firmware can get to the flash. -/
theorem eprom_programming (unset : Unset) (malloc : Option (Nat → UInt8))
    (fopen : Option (List Char)) (memory : Nat → Nat) (pointer : Nat) (unlocked : Option Nat) :
    (∀ jfunc selectorBit broadcast,
      dcfebDevice.Faithful (dcfebProgramEprom unset malloc fopen selectorBit broadcast) unset fopen
          memory ⟨jfunc, freshBpi memory pointer unlocked⟩ ↔
        (Accepts unset malloc fopen firmwareTag → Supplies unset fopen)) ∧
    (odmbDevice.Faithful (odmbProgramEprom unset malloc fopen) unset fopen memory
        (freshBpi memory pointer unlocked) ↔
      (Accepts unset malloc fopen (fun _ => true) → Supplies unset fopen)) ∧
    ∀ status, odmbDevice.Faithful (odmbProgramEpromPoll status unset malloc fopen) unset fopen
        memory (freshBpi memory pointer unlocked) ↔
      (Accepts unset malloc fopen (fun _ => true) → Supplies unset fopen) := by
  have fresh : (freshBpi memory pointer unlocked).Ready memory [] := ⟨rfl, rfl, rfl, rfl⟩
  have never : (∀ bufin, readFirmware unset malloc fopen = some bufin → true = false) →
      readFirmware unset malloc fopen = none := by
    intro refused
    cases read : readFirmware unset malloc fopen with
    | none => rfl
    | some bufin => cases refused bufin read
  refine ⟨?_, ?_, ?_⟩
  · intro jfunc selectorBit broadcast
    refine faithful_iff fresh ?_ ?_ ?_
    · intro untagged
      rw [dcfebProgramEprom]
      cases read : readFirmware unset malloc fopen with
      | none => rfl
      | some bufin =>
        dsimp only
        rw [untagged bufin read]
        rfl
    · exact fun bufin read => dcfebProgramEprom_achieves unset memory read selectorBit broadcast
    · exact fun bufin read tagged =>
        dcfebProgramEprom_touches unset memory read tagged selectorBit broadcast
  · refine faithful_iff fresh ?_ ?_ ?_
    · intro refused
      rw [odmbProgramEprom, never refused]
    · exact fun bufin read => odmbProgramEprom_achieves unset memory read
    · exact fun bufin read _ => odmbProgramEprom_touches unset memory read
  · intro status
    refine faithful_iff fresh ?_ ?_ ?_
    · intro refused
      rw [odmbProgramEpromPoll, never refused]
    · exact fun bufin read => odmbProgramEpromPoll_achieves unset memory status read
    · exact fun bufin read _ => odmbProgramEpromPoll_touches unset memory status read

def halfFile : List Char := writeMcs (fun _ => 0) 2732486

def blankUnset : Unset := ⟨fun _ => '\x00', 0, 0, 0, 0, 0⟩

theorem half_file_programmed :
    ¬odmbDevice.Faithful (odmbProgramEprom blankUnset (some fun _ => 0) (some halfFile)) blankUnset
      (some halfFile) (fun _ => 0xFFFF) (freshBpi (fun _ => 0xFFFF) 0 none) := by
  intro faithful
  have read : ∀ original, ∃ reader, readMcs blankUnset original halfFile =
      .returned (16 * ((2732486 + 15) / 16)) reader ∧
      Vme.Reached (fun _ => 0) original 2732486 ((2732486 + 15) / 16) reader := fun original =>
    readMcs_written blankUnset original (fun _ => 0) (by decide) (by decide)
  obtain ⟨zeros, readZeros, reachedZeros⟩ := read fun _ => 0
  obtain ⟨ones, readOnes, reachedOnes⟩ := read fun _ => 1
  have firmware : readFirmware blankUnset (some fun _ => 0) (some halfFile) = some zeros.binbuf :=
    readFirmware_eq_some.mpr ⟨_, _, _, zeros, rfl, rfl, readZeros, by decide, rfl⟩
  have fresh : (freshBpi (fun _ => 0xFFFF) 0 none).Ready (fun _ => 0xFFFF) [] :=
    ⟨rfl, rfl, rfl, rfl⟩
  obtain ⟨file, opened, bytes⟩ := faithful.1
    (odmbProgramEprom_touches blankUnset (fun _ => 0xFFFF) firmware _ fresh)
  obtain rfl := Option.some.inj opened
  obtain ⟨byte, found⟩ := bytes 5464971 (by decide)
  -- the last byte is what the memory held
  have zero : zeros.binbuf 5464971 = 0 := reachedZeros.untouched (by decide)
  have one : ones.binbuf 5464971 = 1 := reachedOnes.untouched (by decide)
  obtain ⟨_, reader, result, value⟩ := found fun _ => 0
  rw [readZeros] at result
  injection result with _ same
  obtain ⟨_, reader', result', value'⟩ := found fun _ => 1
  rw [readOnes] at result'
  injection result' with _ same'
  rw [← same, zero] at value
  rw [← same', one, ← value] at value'
  exact absurd value' (by decide)

end EmuLib.Daqmb
