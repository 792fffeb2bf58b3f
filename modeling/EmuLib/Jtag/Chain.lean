import EmuLib.Jtag.CharBuffer
import EmuLib.Lib.SerialChain

/-!
The instruction and data scans that address one chip of a JTAG chain of a trigger motherboard, run
through an ideal serial chain.
-/

namespace EmuLib.Jtag

open SerialChain List

def maxNumFrames : Nat := 8196

def maxBufferSize : Nat := maxNumFrames / 8 + 1

/-- A chip with the instruction that has been shifted into it, and the data register that goes with
the instruction. The first bit of a register is the first to be shifted out. -/
structure Chip where
  instruction : List Bool
  bypass : Bool
  dataRegister : List Bool
  deriving DecidableEq

namespace Chip

def isBypassed (chip : Chip) : Bool := chip.instruction.all id

def dataPath (chip : Chip) : List Bool :=
  if chip.isBypassed then [chip.bypass] else chip.dataRegister

def setInstruction (chip : Chip) (instruction : List Bool) : Chip := { chip with instruction }

def setDataPath (chip : Chip) (path : List Bool) : Chip :=
  if chip.isBypassed then { chip with bypass := path.headD chip.bypass }
  else { chip with dataRegister := path }

end Chip

/-- There are as many `bitsInOpcode` as devices in the chain. -/
structure EMUjtag where
  jtagChain : Int
  bitsInOpcode : List Nat
  writeToDevice : Bool
  registerLength : Nat
  tdiInBits : List Nat
  chipTdoInBits : List Nat
  tdiInBytes : List UInt8
  tdoInBytes : List UInt8

inductive ScanRegister where
  | instruction
  | data

/-- An ideal chain: the frames go through the registers of all chips, and what comes out of the
last one is put into a clear buffer if it is to be read back. -/
def scan (register : ScanRegister) (chips : List Chip) (tdi : List UInt8) (frames : Nat) :
    List Chip × List Bool :=
  match register with
  | .instruction =>
    let shifted := shift (chips.map Chip.instruction) (bitsFrom tdi 0 frames)
    (chips.zipWith Chip.setInstruction shifted.1, shifted.2)
  | .data =>
    let shifted := shift (chips.map Chip.dataPath) (bitsFrom tdi 0 frames)
    (chips.zipWith Chip.setDataPath shifted.1, shifted.2)

def readBack (tdo : List Bool) (tdoInBytes : List UInt8) : Option (List UInt8) :=
  packCharBuffer (tdo.map Bool.toNat) tdo.length (List.replicate tdoInBytes.length 0)

def chipFrames (frames : Nat → List Nat) : Nat → List Nat
  | 0 => []
  | ichip + 1 => frames ichip ++ chipFrames frames ichip

def selectedOffset (selectedChip : Nat) : Nat → Nat → Nat
  | 0, _ => 0
  | ichip + 1, iframe =>
    if ichip = selectedChip then iframe else selectedOffset selectedChip ichip (iframe + 1)

def noChip : Chip := ⟨[], false, []⟩

def opcodeBit (opcode : BitVec 32) (ibit : Nat) : Nat := (opcode.sshiftRight ibit &&& 1).toNat

namespace EMUjtag

def clearBuffers (jtag : EMUjtag) : EMUjtag :=
  { jtag with
    tdiInBits := List.replicate maxNumFrames 0
    chipTdoInBits := List.replicate maxNumFrames 0
    tdiInBytes := List.replicate maxBufferSize 0
    tdoInBytes := List.replicate maxBufferSize 0 }

/-- The frames are put into the vector and packed. Too many of them are reported only after they
have been written beyond its end, so that nothing is returned for them here. -/
def fill (jtag : EMUjtag) (frames : List Nat) : Option EMUjtag :=
  if maxNumFrames < frames.length then none
  else
    let tdiInBits := frames ++ jtag.tdiInBits.drop frames.length
    (packCharBuffer tdiInBits frames.length jtag.tdiInBytes).map fun tdiInBytes =>
      { jtag with tdiInBits, tdiInBytes }

def shfIR (jtag : EMUjtag) (chips : List Chip) (selectedChip : Nat) (opcode : BitVec 32) :
    Option (EMUjtag × List Chip) :=
  if jtag.jtagChain < 0 then some (jtag, chips)
  else if 32 < jtag.bitsInOpcode.getD selectedChip 0 then none
  else
    let frames := chipFrames (fun ichip =>
      (List.range (jtag.bitsInOpcode.getD ichip 0)).map fun ibit =>
        if ichip = selectedChip then opcodeBit opcode ibit else 1) jtag.bitsInOpcode.length
    (jtag.clearBuffers.fill frames).map fun filled =>
      if jtag.writeToDevice then
        (filled, (scan .instruction chips filled.tdiInBytes frames.length).1)
      else (filled, chips)

def shfDR (jtag : EMUjtag) (chips : List Chip) (selectedChip sizeOfRegister : Nat)
    (writeData : List Nat) : Option (EMUjtag × List Chip) :=
  if jtag.jtagChain < 0 then some (jtag, chips)
  else if writeData.length < sizeOfRegister then none
  else
    let frames := chipFrames (fun ichip =>
      if ichip = selectedChip then writeData.take sizeOfRegister else [0]) jtag.bitsInOpcode.length
    let offset := selectedOffset selectedChip jtag.bitsInOpcode.length 0
    (jtag.clearBuffers.fill frames).bind fun filled =>
      let scanned := scan .data chips filled.tdiInBytes frames.length
      let tdoInBytes :=
        if jtag.writeToDevice then readBack scanned.2 filled.tdoInBytes else some filled.tdoInBytes
      tdoInBytes.bind fun tdoInBytes =>
        (unpackCharBuffer tdoInBytes sizeOfRegister offset filled.chipTdoInBits).map
          fun chipTdoInBits =>
            ({ filled with registerLength := sizeOfRegister, tdoInBytes, chipTdoInBits },
              if jtag.writeToDevice then scanned.1 else chips)

/-- The instruction of the selected chip comes first, and then the data register that goes with
it. -/
def shfIRShfDR (jtag : EMUjtag) (chips : List Chip) (selectedChip : Nat) (opcode : BitVec 32)
    (sizeOfRegister : Nat) (writeData : List Nat) : Option (EMUjtag × List Chip) :=
  (shfIR { jtag with writeToDevice := true } chips selectedChip opcode).bind
    fun (instructed, instructedChips) =>
      shfDR instructed instructedChips selectedChip sizeOfRegister writeData

end EMUjtag

section

variable {bits : List Bool}

lemma list_eq_range_map {α β} (elements : List α) (default) (path : α → β) :
    elements.map path = (List.range elements.length).map fun index =>
      path (elements.getD index default) := by
  apply ext_getElem
  · simp
  · intro index inside _
    simp only [length_map] at inside
    simp [inside]

variable {count : Nat}

lemma chipFrames_eq {frames loads}
    (same : ∀ ichip < count, frames ichip = (loads ichip).map Bool.toNat) :
    chipFrames frames count = (stream ((List.range count).map loads)).map Bool.toNat := by
  induction count with
  | zero => rfl
  | succ count ih =>
    have earlier := ih fun ichip before => same ichip (Nat.lt_succ_of_lt before)
    rw [chipFrames, same count (Nat.lt_succ_self count), earlier, range_succ,
      map_append, stream_append]
    simp

lemma selectedOffset_eq {selectedChip} (inside : selectedChip < count) (iframe) :
    selectedOffset selectedChip count iframe = iframe + (count - 1 - selectedChip) := by
  induction count generalizing iframe with
  | zero => omega
  | succ count ih =>
    unfold selectedOffset
    split
    · omega
    · rw [ih (by omega)]
      omega

lemma stream_single {paths : Nat → List Bool}
    (single : ∀ ichip < count, (paths ichip).length = 1) :
    (stream ((List.range count).map paths)).length = count := by
  induction count with
  | zero => rfl
  | succ count ih =>
    have earlier := ih fun ichip before => single ichip (Nat.lt_succ_of_lt before)
    rw [range_succ, map_append, stream_append, length_append]
    simp only [map_cons, map_nil, stream_cons, stream_nil, nil_append,
      single count (Nat.lt_succ_self count)]
    omega

/-- The bits of the selected chip are between one bit of each chip after it and one of each chip
before it. -/
lemma stream_selected {paths : Nat → List Bool} {selectedChip} (inside : selectedChip < count)
    (single : ∀ ichip < count, ichip ≠ selectedChip → (paths ichip).length = 1) :
    ∃ first last, stream ((List.range count).map paths) = first ++ paths selectedChip ++ last ∧
      first.length = count - 1 - selectedChip ∧ last.length = selectedChip := by
  induction count with
  | zero => omega
  | succ count ih =>
    rw [range_succ, map_append, stream_append]
    simp only [map_cons, map_nil, stream_cons, stream_nil, nil_append]
    by_cases furthest : count = selectedChip
    · refine ⟨[], stream ((List.range count).map paths), ?_, ?_, ?_⟩
      · rw [furthest, nil_append]
      · simp only [length_nil]
        omega
      · rw [stream_single, furthest]
        intro ichip before
        exact single ichip (Nat.lt_succ_of_lt before) (by omega)
    · obtain ⟨first, last, split, firstLong, lastLong⟩ := ih (by omega) fun ichip earlier =>
        single ichip (Nat.lt_succ_of_lt earlier)
      refine ⟨paths count ++ first, last, by rw [split]; simp, ?_, lastLong⟩
      rw [length_append, single count (Nat.lt_succ_self count) furthest]
      omega

lemma bitAt_replicate (count index) : bitAt (replicate count 0) index = false := by
  unfold bitAt
  by_cases inside : index / 8 < count
  · rw [getD_replicate _ inside]
    exact Nat.zero_testBit _
  · rw [getD_eq_default _ _ (by simpa using inside)]
    exact Nat.zero_testBit _

lemma packCharBuffer_clear (room : bits.length ≤ 8 * count) :
    ∃ packed, packCharBuffer (bits.map Bool.toNat) bits.length (replicate count 0) =
        some packed ∧
      packed.length = count ∧ ∀ index, bitAt packed index = bits.getD index false := by
  obtain ⟨packed, pack, long, contents⟩ := @packCharBuffer_some bits (replicate count 0)
    (by rw [length_replicate]; exact room)
  refine ⟨packed, pack, long.trans length_replicate, ?_⟩
  intro index
  rw [contents, bitAt_replicate, Bool.and_false, Bool.false_or]

lemma bitsFrom_eq {packed} (contents : ∀ index, bitAt packed index = bits.getD index false)
    {firstBit length} (inside : firstBit + length ≤ bits.length) :
    bitsFrom packed firstBit length = (bits.drop firstBit).take length := by
  apply ext_getElem
  · simp [bitsFrom]
    omega
  · intro index short _
    have position : firstBit + index < bits.length := by
      simp [bitsFrom] at short
      omega
    simp [bitsFrom, contents, position]

end

def opcodeInstruction (opcode : BitVec 32) (size : Nat) : List Bool :=
  (List.range size).map opcode.getLsbD

def instructionFor (selectedChip : Nat) (opcode : BitVec 32) (ichip size : Nat) : List Bool :=
  if ichip = selectedChip then opcodeInstruction opcode size else List.replicate size true

def instructed (chips : List Chip) (selectedChip : Nat) (opcode : BitVec 32) : List Chip :=
  chips.mapIdx fun ichip chip =>
    chip.setInstruction (instructionFor selectedChip opcode ichip chip.instruction.length)

def exchanged (chips : List Chip) (selectedChip : Nat) (data : List Bool) : List Chip :=
  chips.mapIdx fun ichip chip => chip.setDataPath (if ichip = selectedChip then data else [false])

lemma opcodeBit_eq (opcode) {ibit} (short : ibit < 32) :
    opcodeBit opcode ibit = (opcode.getLsbD ibit).toNat := by
  have low : ∀ value : BitVec 32, (value &&& 1).toNat = (value.getLsbD 0).toNat := by
    intro value
    change value.toNat &&& 1 = (value.toNat.testBit 0).toNat
    rcases Nat.mod_two_eq_zero_or_one value.toNat with even | odd
    · simp [even]
    · simp [odd]
  rw [opcodeBit, low, BitVec.getLsbD_sshiftRight]
  simp [short]

lemma instructionFor_length (selectedChip opcode ichip size) :
    (instructionFor selectedChip opcode ichip size).length = size := by
  unfold instructionFor opcodeInstruction
  split <;> simp

lemma instructionFrames_eq {selectedChip ichip size opcode}
    (short : ichip = selectedChip → size ≤ 32) :
    ((List.range size).map fun ibit => if ichip = selectedChip then opcodeBit opcode ibit else 1) =
      (instructionFor selectedChip opcode ichip size).map Bool.toNat := by
  unfold instructionFor opcodeInstruction
  by_cases selected : ichip = selectedChip
  · simp only [selected, if_true, map_map]
    apply map_congr_left
    intro ibit member
    rw [mem_range] at member
    exact opcodeBit_eq opcode (by omega)
  · simp [selected]

lemma range_map_lengths {chips : List Chip} {path : Chip → List Bool} {loads : Nat → List Bool}
    (same : ∀ ichip, (loads ichip).length = (path (chips.getD ichip noChip)).length) :
    ((List.range chips.length).map loads).map List.length =
      (chips.map path).map List.length := by
  apply ext_getElem
  · simp
  · intro ichip inside _
    simp only [length_map, length_range] at inside
    simp [same, inside]

lemma map_zipWith_range {α β} (elements : List α) (combine : α → β → α) (loads : Nat → α → β)
    (default) :
    elements.zipWith combine ((List.range elements.length).map fun index =>
      loads index (elements.getD index default)) =
        elements.mapIdx fun index element => combine element (loads index element) := by
  apply ext_getElem
  · simp
  · intro index _ inside
    simp only [length_mapIdx] at inside
    simp [inside]

namespace EMUjtag

section

variable {jtag : EMUjtag} {chips : List Chip}

structure Describes (jtag : EMUjtag) (chips : List Chip) : Prop where
  setUp : 0 ≤ jtag.jtagChain
  sizes : jtag.bitsInOpcode = chips.map fun chip => chip.instruction.length

structure Filled (jtag filled : EMUjtag) (bits : List Bool) : Prop where
  jtagChain : filled.jtagChain = jtag.jtagChain
  bitsInOpcode : filled.bitsInOpcode = jtag.bitsInOpcode
  writeToDevice : filled.writeToDevice = jtag.writeToDevice
  chipTdoInBits : filled.chipTdoInBits = List.replicate maxNumFrames 0
  tdoInBytes : filled.tdoInBytes = List.replicate maxBufferSize 0
  tdiInBytes : bitsFrom filled.tdiInBytes 0 bits.length = bits

lemma fill_some {bits} (room : bits.length ≤ maxNumFrames) :
    ∃ filled, jtag.clearBuffers.fill (bits.map Bool.toNat) = some filled ∧
      Filled jtag filled bits := by
  have enough : bits.length ≤ 8 * maxBufferSize := by
    simp only [maxNumFrames, maxBufferSize] at room ⊢
    omega
  obtain ⟨packed, pack, _, contents⟩ := packCharBuffer_clear enough
  have taken := packCharBuffer_append (bits.map Bool.toNat)
    (jtag.clearBuffers.tdiInBits.drop bits.length) jtag.clearBuffers.tdiInBytes
  rw [length_map] at taken
  unfold fill
  rw [if_neg (by rw [length_map]; omega), length_map]
  dsimp only
  rw [taken]
  unfold clearBuffers
  rw [pack]
  refine ⟨_, rfl, rfl, rfl, rfl, rfl, rfl, ?_⟩
  rw [bitsFrom_eq contents (by omega)]
  simp

lemma fill_none {frames} (many : maxNumFrames < frames.length) :
    jtag.fill frames = none := if_pos many

def instructions (chips : List Chip) (selectedChip : Nat) (opcode : BitVec 32) :
    List (List Bool) :=
  (List.range chips.length).map fun ichip =>
    instructionFor selectedChip opcode ichip (chips.getD ichip noChip).instruction.length

lemma instructions_shape (selectedChip opcode) :
    (instructions chips selectedChip opcode).map List.length =
      (chips.map Chip.instruction).map List.length := by
  apply range_map_lengths
  intro ichip
  exact instructionFor_length selectedChip opcode ichip _

lemma instructions_length (describes : Describes jtag chips) (selectedChip opcode) :
    (stream (instructions chips selectedChip opcode)).length = jtag.bitsInOpcode.sum := by
  rw [stream_length (instructions_shape selectedChip opcode), stream_sum, map_map, describes.sizes]
  rfl

lemma instructions_frames (describes : Describes jtag chips) {selectedChip opcode} (short : jtag.bitsInOpcode.getD selectedChip 0 ≤ 32) :
    chipFrames (fun ichip =>
        (List.range (jtag.bitsInOpcode.getD ichip 0)).map fun ibit =>
          if ichip = selectedChip then opcodeBit opcode ibit else 1) jtag.bitsInOpcode.length =
      (stream (instructions chips selectedChip opcode)).map Bool.toNat := by
  have size : ∀ ichip, jtag.bitsInOpcode.getD ichip 0 =
      (chips.getD ichip noChip).instruction.length := by
    intro ichip
    rw [describes.sizes]
    by_cases inside : ichip < chips.length
    · simp [inside]
    · simp [inside, noChip]
  have chain : jtag.bitsInOpcode.length = chips.length := by rw [describes.sizes, length_map]
  rw [chain]
  apply chipFrames_eq
  intro ichip _
  rw [size ichip]
  apply instructionFrames_eq
  rintro rfl
  rw [← size]
  exact short

lemma shfIR_some (describes : Describes jtag chips) (writes : jtag.writeToDevice = true)
    {selectedChip opcode} (short : jtag.bitsInOpcode.getD selectedChip 0 ≤ 32)
    (room : jtag.bitsInOpcode.sum ≤ maxNumFrames) :
    ∃ after, shfIR jtag chips selectedChip opcode =
        some (after, instructed chips selectedChip opcode) ∧
      after.jtagChain = jtag.jtagChain ∧ after.bitsInOpcode = jtag.bitsInOpcode ∧
      after.writeToDevice = true := by
  rw [← instructions_length describes selectedChip opcode] at room
  obtain ⟨filled, fill, is⟩ := @fill_some jtag _ room
  refine ⟨filled, ?_, is.jtagChain, is.bitsInOpcode, is.writeToDevice.trans writes⟩
  have setUp := describes.setUp
  unfold shfIR
  rw [if_neg (by omega), if_neg (by omega)]
  dsimp only
  rw [instructions_frames describes short, fill, length_map]
  simp only [Option.map_some, writes, if_true, scan, is.tdiInBytes,
    shift_eq (instructions_shape selectedChip opcode)]
  exact congrArg (fun moved => some (filled, moved)) (map_zipWith_range chips Chip.setInstruction
    (fun ichip chip => instructionFor selectedChip opcode ichip chip.instruction.length) noChip)

lemma shfIR_none (describes : Describes jtag chips) {selectedChip opcode}
    (long : ¬ (jtag.bitsInOpcode.getD selectedChip 0 ≤ 32 ∧
      jtag.bitsInOpcode.sum ≤ maxNumFrames)) :
    shfIR jtag chips selectedChip opcode = none := by
  have setUp := describes.setUp
  unfold shfIR
  rw [if_neg (by omega)]
  by_cases short : jtag.bitsInOpcode.getD selectedChip 0 ≤ 32
  · have many : maxNumFrames < jtag.bitsInOpcode.sum := by omega
    rw [if_neg (by omega)]
    dsimp only
    rw [instructions_frames describes short, fill_none]
    · rfl
    · rw [length_map, instructions_length describes]
      exact many
  · rw [if_pos (by omega)]

structure Selects (chips : List Chip) (selectedChip : Nat) (data : List Bool) : Prop where
  inside : selectedChip < chips.length
  long : (chips.getD selectedChip noChip).dataPath.length = data.length
  others : ∀ ichip, ichip ≠ selectedChip → (chips.getD ichip noChip).dataPath.length = 1

section

variable {selectedChip : Nat} {data : List Bool}

def exchange (chips : List Chip) (selectedChip : Nat) (data : List Bool) : List (List Bool) :=
  (List.range chips.length).map fun ichip => if ichip = selectedChip then data else [false]

lemma exchange_shape (selects : Selects chips selectedChip data) :
    (exchange chips selectedChip data).map List.length =
      (chips.map Chip.dataPath).map List.length := by
  apply range_map_lengths
  intro ichip
  split
  · rename_i selected
    rw [selected, selects.long]
  · rename_i other
    rw [selects.others ichip other]
    rfl

lemma exchange_length (selects : Selects chips selectedChip data) :
    (stream (exchange chips selectedChip data)).length = data.length + (chips.length - 1) := by
  obtain ⟨first, last, split, firstLong, lastLong⟩ := @stream_selected chips.length
    (fun ichip => if ichip = selectedChip then data else [false]) selectedChip selects.inside (by
      intro ichip _ other
      rw [if_neg other]
      rfl)
  have inside := selects.inside
  unfold exchange
  rw [split, if_pos rfl]
  simp only [length_append]
  omega

lemma exchange_frames (selectedChip data) :
    chipFrames (fun ichip =>
        if ichip = selectedChip then (data.map Bool.toNat).take data.length else [0])
      chips.length = (stream (exchange chips selectedChip data)).map Bool.toNat := by
  apply chipFrames_eq
  intro ichip _
  split
  · rw [take_of_length_le (by rw [length_map])]
  · rfl

lemma shfDR_some (setUp : 0 ≤ jtag.jtagChain) (devices : jtag.bitsInOpcode.length = chips.length)
    (writes : jtag.writeToDevice = true) (selects : Selects chips selectedChip data)
    (room : data.length + (chips.length - 1) ≤ maxNumFrames) :
    ∃ after, shfDR jtag chips selectedChip data.length (data.map Bool.toNat) =
        some (after, exchanged chips selectedChip data) ∧
      after.chipTdoInBits.take data.length =
        (chips.getD selectedChip noChip).dataPath.map Bool.toNat := by
  have inside := selects.inside
  have long := exchange_length selects
  rw [← long] at room
  obtain ⟨filled, fill, is⟩ := @fill_some jtag _ room
  have out := stream_length (exchange_shape selects)
  obtain ⟨tdo, packTdo, tdoLong, tdoContents⟩ := @packCharBuffer_clear
    (stream (chips.map Chip.dataPath)) maxBufferSize (by
      simp only [maxNumFrames, maxBufferSize] at room ⊢
      omega)
  obtain ⟨first, last, split, firstLong, lastLong⟩ := @stream_selected chips.length
    (fun ichip => (chips.getD ichip noChip).dataPath) selectedChip inside
    fun ichip _ other => selects.others ichip other
  have old : stream (chips.map Chip.dataPath) =
      first ++ (chips.getD selectedChip noChip).dataPath ++ last := by
    rw [← split, ← list_eq_range_map]
  have offset : selectedOffset selectedChip chips.length 0 = first.length := by
    rw [selectedOffset_eq inside, firstLong, Nat.zero_add]
  have returned : bitsFrom tdo first.length data.length =
      (chips.getD selectedChip noChip).dataPath := by
    rw [bitsFrom_eq tdoContents, old, append_assoc, drop_left, ← selects.long, take_left]
    omega
  have fits : (first.length + data.length) / 8 < tdo.length ∧
      data.length ≤ (replicate maxNumFrames 0).length := by
    rw [tdoLong, length_replicate]
    simp only [maxNumFrames, maxBufferSize] at room ⊢
    omega
  unfold shfDR
  rw [if_neg (by omega), if_neg (by rw [length_map]; omega), devices]
  dsimp only
  rw [exchange_frames, fill, length_map]
  simp only [Option.bind_some, writes, if_true, scan, is.tdiInBytes,
    shift_eq (exchange_shape selects), readBack, is.tdoInBytes, length_replicate]
  rw [packTdo, Option.bind_some, unpackCharBuffer_eq, is.chipTdoInBits, offset, if_pos fits,
    returned]
  refine ⟨_, congrArg (fun moved => some (_, moved)) (map_zipWith_range chips Chip.setDataPath
    (fun ichip _ => if ichip = selectedChip then data else [false]) noChip), ?_⟩
  rw [← selects.long, ← length_map Bool.toNat]
  exact take_left

lemma shfDR_none (setUp : 0 ≤ jtag.jtagChain) (devices : jtag.bitsInOpcode.length = chips.length)
    (selects : Selects chips selectedChip data)
    (many : maxNumFrames < data.length + (chips.length - 1)) :
    shfDR jtag chips selectedChip data.length (data.map Bool.toNat) = none := by
  unfold shfDR
  rw [if_neg (by omega), if_neg (by rw [length_map]; omega), devices]
  dsimp only
  rw [exchange_frames, fill_none]
  · rfl
  · rw [length_map, exchange_length selects]
    exact many

end

end

section

variable {jtag : EMUjtag} {chips : List Chip} {selectedChip : Nat} {opcode : BitVec 32}
  {data : List Bool}

def selectedFor (chips : List Chip) (selectedChip : Nat) (opcode : BitVec 32) : Chip :=
  let chip := chips.getD selectedChip noChip
  chip.setInstruction (opcodeInstruction opcode chip.instruction.length)

/-- The instruction and the data are in the selected chip, all ones in every other one, and what
the register of the selected chip held is what is returned. -/
structure Addressed (chips : List Chip) (selectedChip : Nat) (opcode : BitVec 32)
    (data : List Bool) (after : EMUjtag) (moved : List Chip) : Prop where
  length : moved.length = chips.length
  instruction : (moved.getD selectedChip noChip).instruction =
    (selectedFor chips selectedChip opcode).instruction
  written : (moved.getD selectedChip noChip).dataPath = data
  bypassed : ∀ ichip < chips.length, ichip ≠ selectedChip →
    (moved.getD ichip noChip).instruction =
        List.replicate (chips.getD ichip noChip).instruction.length true ∧
      (moved.getD ichip noChip).dataPath = [false]
  returned : after.chipTdoInBits.take data.length =
    (selectedFor chips selectedChip opcode).dataPath.map Bool.toNat

def AddressesChip (jtag : EMUjtag) (chips : List Chip) (selectedChip : Nat) (opcode : BitVec 32)
    (data : List Bool) : Prop :=
  ∃ after moved, shfIRShfDR jtag chips selectedChip opcode data.length (data.map Bool.toNat) =
    some (after, moved) ∧ Addressed chips selectedChip opcode data after moved

lemma mapIdx_getD (change) {ichip} (inside : ichip < chips.length) :
    (chips.mapIdx change).getD ichip noChip = change ichip (chips.getD ichip noChip) := by
  simp [inside]

lemma dataPath_setDataPath {chip : Chip} {path}
    (long : path.length = chip.dataPath.length) : (chip.setDataPath path).dataPath = path := by
  cases bypassed : chip.isBypassed with
  | true =>
    simp only [Chip.dataPath, bypassed, if_true] at long
    obtain ⟨bit, rfl⟩ := length_eq_one_iff.mp long
    have set : chip.setDataPath [bit] = { chip with bypass := bit } := by
      simp [Chip.setDataPath, bypassed]
    rw [set]
    exact if_pos bypassed
  | false =>
    have set : chip.setDataPath path = { chip with dataRegister := path } := by
      simp [Chip.setDataPath, bypassed]
    rw [set]
    exact if_neg (by change ¬ chip.isBypassed = true; rw [bypassed]; decide)

@[simp] lemma instruction_setDataPath (chip : Chip) (path) :
    (chip.setDataPath path).instruction = chip.instruction := by
  unfold Chip.setDataPath
  split <;> rfl

lemma bypassed_dataPath {chip : Chip} {size}
    (ones : chip.instruction = replicate size true) : chip.dataPath = [chip.bypass] := by
  unfold Chip.dataPath Chip.isBypassed
  simp [ones]

lemma selects_instructed (inside : selectedChip < chips.length)
    (long : (selectedFor chips selectedChip opcode).dataPath.length = data.length) :
    Selects (instructed chips selectedChip opcode) selectedChip data where
  inside := by simpa [instructed] using inside
  long := by
    rw [instructed, mapIdx_getD _ inside, instructionFor, if_pos rfl]
    exact long
  others := by
    intro ichip other
    by_cases there : ichip < chips.length
    · rw [instructed, mapIdx_getD _ there, instructionFor, if_neg other, bypassed_dataPath rfl]
      rfl
    · rw [getD_eq_default _ _ (by simpa [instructed] using there)]
      rfl

lemma addressed_exchanged (inside : selectedChip < chips.length)
    (long : (selectedFor chips selectedChip opcode).dataPath.length = data.length) {after}
    (returned : after.chipTdoInBits.take data.length =
      ((instructed chips selectedChip opcode).getD selectedChip noChip).dataPath.map Bool.toNat) :
    Addressed chips selectedChip opcode data after
      (exchanged (instructed chips selectedChip opcode) selectedChip data) := by
  have count : (instructed chips selectedChip opcode).length = chips.length := by
    simp [instructed]
  have selected : (instructed chips selectedChip opcode).getD selectedChip noChip =
      selectedFor chips selectedChip opcode := by
    rw [instructed, mapIdx_getD _ inside, instructionFor, if_pos rfl]
    rfl
  constructor
  · simp [exchanged, instructed]
  · rw [exchanged, mapIdx_getD _ (by rw [count]; exact inside), instruction_setDataPath, selected]
  · rw [exchanged, mapIdx_getD _ (by rw [count]; exact inside), if_pos rfl, selected,
      dataPath_setDataPath long.symm]
  · intro ichip there other
    have bypassing : ((instructed chips selectedChip opcode).getD ichip noChip).instruction =
        replicate (chips.getD ichip noChip).instruction.length true := by
      rw [instructed, mapIdx_getD _ there, instructionFor, if_neg other]
      rfl
    rw [exchanged, mapIdx_getD _ (by rw [count]; exact there), if_neg other]
    refine ⟨by rw [instruction_setDataPath, bypassing], dataPath_setDataPath ?_⟩
    rw [bypassed_dataPath bypassing]
    rfl
  · rw [returned, selected]

/-- Bits come back from a buffer as they were packed exactly if there is room for them and the last
byte, unless they fill it, holds no other bits; and a chip is addressed exactly if its opcode has at
most 32 bits and neither scan has more frames than the vectors are made for. -/
theorem chip_addressing (bits : List Bool) (charVector : List UInt8) (bitVector : List Nat)
    (describes : Describes jtag chips) (inside : selectedChip < chips.length)
    (long : (selectedFor chips selectedChip opcode).dataPath.length = data.length) :
    (RoundTrip bits charVector bitVector ↔
      bits.length / 8 < charVector.length ∧ bits.length ≤ bitVector.length ∧
        LeavesNoBits bits charVector) ∧
    (AddressesChip jtag chips selectedChip opcode data ↔
      jtag.bitsInOpcode.getD selectedChip 0 ≤ 32 ∧ jtag.bitsInOpcode.sum ≤ maxNumFrames ∧
        data.length + (chips.length - 1) ≤ maxNumFrames) := by
  refine ⟨roundTrip_iff, ?_⟩
  have writing : Describes { jtag with writeToDevice := true } chips :=
    ⟨describes.setUp, describes.sizes⟩
  have selects := selects_instructed inside long
  have count : (instructed chips selectedChip opcode).length = chips.length := by
    simp [instructed]
  unfold AddressesChip shfIRShfDR
  by_cases instructs : jtag.bitsInOpcode.getD selectedChip 0 ≤ 32 ∧
      jtag.bitsInOpcode.sum ≤ maxNumFrames
  · obtain ⟨ready, run, chain, sizes, writes⟩ :=
      @shfIR_some _ _ writing rfl selectedChip opcode instructs.1 instructs.2
    have setUp : 0 ≤ ready.jtagChain := chain ▸ describes.setUp
    have devices : ready.bitsInOpcode.length = (instructed chips selectedChip opcode).length := by
      rw [sizes, count, describes.sizes, length_map]
    rw [run, Option.bind_some]
    dsimp only
    by_cases room : data.length + (chips.length - 1) ≤ maxNumFrames
    · obtain ⟨after, exchange, returned⟩ := shfDR_some setUp devices writes selects
        (by rw [count]; exact room)
      refine iff_of_true ⟨after, _, exchange, ?_⟩ ⟨instructs.1, instructs.2, room⟩
      exact addressed_exchanged inside long returned
    · rw [shfDR_none setUp devices selects (by rw [count]; omega)]
      refine iff_of_false ?_ fun fits => room fits.2.2
      rintro ⟨_, _, undefined, _⟩
      cases undefined
  · rw [shfIR_none writing instructs]
    refine iff_of_false ?_ fun fits => instructs ⟨fits.1, fits.2.1⟩
    rintro ⟨_, _, undefined, _⟩
    cases undefined

end

def userChain : EMUjtag := ⟨8, [8, 8], false, 0, [], [], [], []⟩

def userProm (dataRegister : List Bool) : Chip := ⟨List.replicate 8 true, true, dataRegister⟩

def userChips : List Chip :=
  [userProm [true, true, false, false, true, false], userProm [true, false]]

theorem chip_addressing_userProm :
    RoundTrip [true, false, true] (List.replicate 2 0) [0, 0, 0] ∧
      AddressesChip userChain userChips 0 0xe8 [false, false, true, false, true, true] :=
  have addressing := @chip_addressing userChain userChips 0 0xe8
    [false, false, true, false, true, true] [true, false, true] (List.replicate 2 0) [0, 0, 0]
    ⟨by decide, rfl⟩ (by decide) (by decide)
  ⟨addressing.1.mpr ⟨by decide, by decide, fun index inside _ stale => by
      rw [bitAt_replicate] at stale
      cases stale⟩,
    addressing.2.mpr ⟨by decide, by decide, by decide⟩⟩

/-- Three bits that are not set come back set from a byte that had other bits in it. -/
theorem stale_bits_kept : ¬ RoundTrip [false, false, false] [0xff] [0, 0, 0] := by
  intro trip
  have clean := (roundTrip_iff.mp trip).2.2 0 (by decide) (by decide) (by decide)
  exact absurd clean (by decide)

end EMUjtag

end EmuLib.Jtag
