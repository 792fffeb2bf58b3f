import EmuLib.Jtag.XsvfDecoder
import EmuLib.Lib.GuardedRun

/-!
The commands of the image: what each write puts into it, and what the decoder does with it.
-/

namespace EmuLib.Jtag

open GuardedRun SerialChain List

def packs (packed : List UInt8) (bits : List Bool) : Prop :=
  ∀ index, bitAt packed index = bits.getD index false

def bitsOfVector (count : Nat) (vector : List Nat) : List Bool := (vector.take count).map (· != 0)

def chainInstruction (which : Nat) (opcode : BitVec 32) : List Bool :=
  stream ((List.range 2).map fun ichip => instructionFor which opcode ichip 8)

def chainData (which : Nat) (data : List Bool) : List Bool :=
  stream ((List.range 2).map fun ichip => if ichip = which then data else [false])

lemma chainInstruction_length (which opcode) : (chainInstruction which opcode).length = 16 := by
  simp [chainInstruction, range_succ, instructionFor_length]

lemma chainData_length {which} (valid : which < 2) (data) :
    (chainData which data).length = data.length + 1 := by
  have cases_ : which = 0 ∨ which = 1 := by omega
  rcases cases_ with rfl | rfl <;> simp [chainData, range_succ]

lemma packs_bitsFrom {packed bits} (same : packs packed bits) :
    bitsFrom packed 0 bits.length = bits := by
  rw [bitsFrom_eq same (by omega), drop_zero, take_length]

def byteBits (value : BitVec 32) (byte : Nat) : BitVec 32 :=
  BitVec.ofNat 32 (UInt8.ofNat (value.toNat >>> (8 * byte))).toNat <<< (8 * byte)

lemma byteBits_getLsbD (value byte) {place} (inside : place < 32) :
    (byteBits value byte).getLsbD place = (decide (place / 8 = byte) && value.getLsbD place) := by
  have bit (n i : Nat) : (BitVec.ofNat 32 n).getLsbD i = (decide (i < 32) && n.testBit i) :=
    BitVec.getLsbD_ofNat ..
  rw [byteBits, BitVec.getLsbD_shiftLeft, bit, UInt8.toNat_ofNat', Nat.testBit_mod_two_pow,
    Nat.testBit_shiftRight, decide_eq_true inside]
  by_cases below : place < 8 * byte
  · have other : place / 8 ≠ byte := by omega
    rw [decide_eq_true below, decide_eq_false other]
    simp
  · have back : 8 * byte + (place - 8 * byte) = place := by omega
    have short : place - 8 * byte < 32 := by omega
    have same : (place - 8 * byte < 8) ↔ place / 8 = byte := by omega
    rw [decide_eq_false below, decide_eq_true short, back]
    simp [same, BitVec.getLsbD]

lemma word_byteBits (value) :
    0 ||| byteBits value 3 ||| byteBits value 2 ||| byteBits value 1 ||| byteBits value 0 =
      value := by
  apply BitVec.eq_of_getLsbD_eq
  intro place inside
  simp only [BitVec.getLsbD_or, byteBits_getLsbD value _ inside]
  have which : place / 8 = 3 ∨ place / 8 = 2 ∨ place / 8 = 1 ∨ place / 8 = 0 := by omega
  rcases which with here | here | here | here
  · simp [here]
  · simp [here]
  · simp [here]
  · simp [here]

inductive Command
  | xcomplete
  | xtdomask (mask : List UInt8)
  | xsir (size : UInt8) (tdi : List UInt8)
  | xruntest (time : BitVec 32)
  | xrepeat (times : UInt8)
  | xsdrsize (size : BitVec 32)
  | xsdrtdo (tdi tdo : List UInt8)
  | xstate (state : UInt8)

def Command.bytes : Command → List UInt8
  | .xcomplete => [Jtag.xcomplete]
  | .xtdomask mask => Jtag.xtdomask :: mask.reverse
  | .xsir size tdi => [Jtag.xsir, size] ++ tdi.reverse
  | .xruntest time => Jtag.xruntest :: wordBytes time
  | .xrepeat times => [Jtag.xrepeat, times]
  | .xsdrsize size => Jtag.xsdrsize :: wordBytes size
  | .xsdrtdo tdi tdo => Jtag.xsdrtdo :: (tdi.reverse ++ tdo.reverse)
  | .xstate state => [Jtag.xstate, state]

def Carries (packed : List UInt8) (bits : List Bool) : Prop :=
  packed.length = numberOfBytes bits.length ∧ packs packed bits

def Stands (which : Nat) : Write → Command → Prop
  | .xrepeat times, .xrepeat byte => byte = UInt8.ofNat times
  | .xstate state, .xstate byte => byte = UInt8.ofNat state
  | .xruntest time, .xruntest word => word = time
  | .xsir opcode, .xsir size tdi => size = 16 ∧ Carries tdi (chainInstruction which opcode)
  | .xsdrsize bits, .xsdrsize size => size = BitVec.ofInt 32 (bits + 1)
  | .xtdomask bits vector, .xtdomask mask =>
    Carries mask (chainData which (bitsOfVector bits vector))
  | .xsdrtdo bits tdiVector tdoVector, .xsdrtdo tdi tdo =>
    Carries tdi (chainData which (bitsOfVector bits tdiVector)) ∧
      Carries tdo (chainData which (bitsOfVector bits tdoVector))
  | .xcomplete, .xcomplete => True
  | _, _ => False

structure Settings where
  size : Int
  runtest : BitVec 32
  repeats : Nat
  mask : List Bool
  completed : Nat

namespace Settings

variable (which : Nat) (settings : Settings)

def set : Write → Settings
  | .xrepeat times => { settings with repeats := times }
  | .xruntest time => { settings with runtest := time }
  | .xsdrsize bits => { settings with size := bits + 1 }
  | .xtdomask bits mask => { settings with mask := chainData which (bitsOfVector bits mask) }
  | .xcomplete => { settings with completed := settings.completed + 1 }
  | _ => settings

def operations : Write → List Operation
  | .xstate _ => List.replicate (settings.repeats + 1) .restoreIdle
  | .xsir opcode =>
    [.scan .instruction (chainInstruction which opcode) false, .usleep settings.runtest]
  | .xsdrtdo bits tdi tdo =>
    [.scan .data (chainData which (bitsOfVector bits tdi)) (settings.mask.any id),
      .compare (chainData which (bitsOfVector bits tdo)) settings.mask,
      .usleep settings.runtest]
  | _ => []

def lengths : Write → List Int
  | .xtdomask _ _ => [settings.size]
  | .xsdrtdo _ _ _ => [settings.size]
  | _ => []

def Vector (bits : Nat) (vector : List Nat) : Prop :=
  bits < maxNumFrames ∧ bits ≤ vector.length ∧ ∀ bit ∈ vector.take bits, bit ≤ 1

def Fits : Write → Prop
  | .xrepeat times => times < 0x100
  | .xsdrsize bits => bits < maxNumFrames
  | .xtdomask bits mask => settings.size = bits + 1 ∧ Vector bits mask
  | .xsdrtdo bits tdi tdo =>
    settings.size = bits + 1 ∧ settings.mask.length = bits + 1 ∧ Vector bits tdi ∧ Vector bits tdo
  | .xcomplete => settings.completed = 0
  | _ => True

end Settings

def intended (which : Nat) (settings : Settings) (writes : List Write) : List Operation :=
  outputs (Settings.set which) (Settings.operations which) settings writes

def intendedLengths (which : Nat) (settings : Settings) (writes : List Write) : List Int :=
  outputs (Settings.set which) Settings.lengths settings writes

def Fitting (which : Nat) (settings : Settings) (writes : List Write) : Prop :=
  Guarded (Settings.set which) Settings.Fits settings writes

section

structure Ready (writer : XsvfWriter) : Prop where
  setUp : 0 ≤ writer.jtag.jtagChain
  chain : writer.jtag.bitsInOpcode = [8, 8]
  quiet : writer.jtag.writeToDevice = false
  valid : writer.whichUserProm < 2

structure Written (writer after : XsvfWriter) (bytes : List UInt8) (lengths : List Int) : Prop where
  ready : Ready after
  whichUserProm : after.whichUserProm = writer.whichUserProm
  image : after.xsvfImage = writer.xsvfImage ++ bytes
  counter : after.imageCounter = writer.imageCounter + bytes.length
  lengths : after.dataLengths = writer.dataLengths ++ lengths

variable {writer : XsvfWriter}

lemma Written.trans {after last first second lengths further} (one : Written writer after first lengths)
    (two : Written after last second further) :
    Written writer last (first ++ second) (lengths ++ further) where
  ready := two.ready
  whichUserProm := two.whichUserProm.trans one.whichUserProm
  image := by rw [two.image, one.image, append_assoc]
  counter := by rw [two.counter, one.counter, length_append, Nat.add_assoc]
  lengths := by rw [two.lengths, one.lengths, append_assoc]

lemma written_put (ready : Ready writer) (value) :
    Written writer (writer.setWriteXsvfImage value) [value] [] where
  ready := ⟨ready.setUp, ready.chain, ready.quiet, ready.valid⟩
  whichUserProm := rfl
  image := rfl
  counter := rfl
  lengths := (append_nil _).symm

lemma written_all (values) : ∀ {writer : XsvfWriter}, Ready writer →
    Written writer (writer.setAll values) values [] ∧
      (writer.setAll values).xdrLength = writer.xdrLength := by
  induction values with
  | nil =>
    intro writer ready
    exact ⟨⟨ready, rfl, (append_nil _).symm, rfl, (append_nil _).symm⟩, rfl⟩
  | cons value rest ih =>
    intro writer ready
    have first := written_put ready value
    obtain ⟨others, same⟩ := ih first.ready
    exact ⟨first.trans others, same⟩

lemma written_command (ready : Ready writer) (command) :
    Written writer (writer.dataCommand command) [command] [writer.xdrLength] ∧
      (writer.dataCommand command).xdrLength = writer.xdrLength :=
  ⟨⟨⟨ready.setUp, ready.chain, ready.quiet, ready.valid⟩, rfl, rfl, rfl, rfl⟩, rfl⟩

lemma writeTdi_some (count) : ∀ {writer : XsvfWriter}, Ready writer →
    count ≤ writer.jtag.tdiInBytes.length →
    ∃ after, writer.writeTdi count = some after ∧
      Written writer after (writer.jtag.tdiInBytes.take count).reverse [] ∧
      after.xdrLength = writer.xdrLength := by
  induction count with
  | zero =>
    intro writer ready _
    exact ⟨writer, rfl, ⟨ready, rfl, (append_nil _).symm, rfl, (append_nil _).symm⟩, rfl⟩
  | succ byte ih =>
    intro writer ready room
    have inside : byte < writer.jtag.tdiInBytes.length := room
    have put := written_put ready writer.jtag.tdiInBytes[byte]
    obtain ⟨after, run, rest, same⟩ := ih put.ready (Nat.le_of_lt inside)
    refine ⟨after, ?_, ?_, same⟩
    · rw [XsvfWriter.writeTdi, getElem?_eq_getElem inside]
      exact run
    · have bytes : (writer.jtag.tdiInBytes.take (byte + 1)).reverse =
          [writer.jtag.tdiInBytes[byte]] ++ (writer.jtag.tdiInBytes.take byte).reverse := by
        rw [take_add_one, getElem?_eq_getElem inside, reverse_append]
        rfl
      rw [bytes]
      exact put.trans rest

end

variable {bits : Nat} {vector : List Nat}

section

variable {jtag : EMUjtag} {which : Nat}

lemma numberOfBytes_eq (bits) : numberOfBytes (bits + 1 : Nat) = bits / 8 + 1 := by
  have less : ((bits + 1 : Nat) : Int) - 1 = (bits : Int) := by omega
  rw [numberOfBytes, less]
  have whole : (bits : Int).tdiv 8 = ((bits / 8 : Nat) : Int) := rfl
  omega

lemma le_numberOfBytes (bits : Nat) : bits ≤ 8 * numberOfBytes bits := by
  cases bits with
  | zero => exact Nat.zero_le _
  | succ less =>
    rw [numberOfBytes_eq]
    omega

lemma numberOfBytes_le (few : bits ≤ maxNumFrames) : numberOfBytes bits ≤ maxBufferSize := by
  cases bits with
  | zero => decide
  | succ less =>
    rw [numberOfBytes_eq]
    simp only [maxNumFrames, maxBufferSize] at few ⊢
    omega

lemma carries_take {packed bits} (same : packs packed bits) (some_ : bits ≠ [])
    (room : bits.length ≤ 8 * packed.length) :
    Carries (packed.take (numberOfBytes bits.length)) bits := by
  obtain ⟨less, long⟩ : ∃ less, bits.length = less + 1 :=
    ⟨bits.length - 1, (Nat.succ_pred_eq_of_pos (length_pos_iff.2 some_)).symm⟩
  have bytes := numberOfBytes_eq less
  rw [← long] at bytes
  refine ⟨by rw [length_take]; omega, ?_⟩
  intro index
  by_cases inside : index / 8 < numberOfBytes bits.length
  · rw [← same index]
    simp [bitAt, getD_eq_getElem?_getD, inside]
  · have beyond : bits.length ≤ index := by omega
    rw [getD_eq_default _ _ beyond, bitAt, getD_eq_default]
    · exact Nat.zero_testBit _
    · rw [length_take]
      omega

structure Packed (jtag filled : EMUjtag) (bits : List Bool) : Prop where
  jtagChain : filled.jtagChain = jtag.jtagChain
  bitsInOpcode : filled.bitsInOpcode = jtag.bitsInOpcode
  writeToDevice : filled.writeToDevice = jtag.writeToDevice
  contents : packs filled.tdiInBytes bits
  room : filled.tdiInBytes.length = maxBufferSize

lemma fill_packed {bits} (room : bits.length ≤ maxNumFrames) :
    ∃ filled, jtag.clearBuffers.fill (bits.map Bool.toNat) = some filled ∧
      Packed jtag filled bits ∧ filled.tdoInBytes = replicate maxBufferSize 0 ∧
      filled.chipTdoInBits = replicate maxNumFrames 0 := by
  have enough : bits.length ≤ 8 * maxBufferSize := by
    simp only [maxNumFrames, maxBufferSize] at room ⊢
    omega
  obtain ⟨packed, pack, long, contents⟩ := packCharBuffer_clear enough
  have taken := packCharBuffer_append (bits.map Bool.toNat)
    (jtag.clearBuffers.tdiInBits.drop bits.length) jtag.clearBuffers.tdiInBytes
  rw [length_map] at taken
  unfold EMUjtag.fill
  rw [if_neg (by rw [length_map]; omega), length_map]
  dsimp only
  rw [taken]
  unfold EMUjtag.clearBuffers
  rw [pack]
  exact ⟨_, rfl, ⟨rfl, rfl, rfl, contents, long⟩, rfl, rfl⟩

lemma shfIR_packed (setUp : 0 ≤ jtag.jtagChain) (chain : jtag.bitsInOpcode = [8, 8])
    (quiet : jtag.writeToDevice = false) (valid : which < 2) (opcode) :
    ∃ after, jtag.shfIR [] which opcode = some (after, []) ∧
      Packed jtag after (chainInstruction which opcode) := by
  have size : ∀ ichip < 2, jtag.bitsInOpcode.getD ichip 0 = 8 := by
    intro ichip inside
    have which_ : ichip = 0 ∨ ichip = 1 := by omega
    rw [chain]
    rcases which_ with rfl | rfl <;> rfl
  have frames : chipFrames (fun ichip =>
      (List.range (jtag.bitsInOpcode.getD ichip 0)).map fun ibit =>
        if ichip = which then opcodeBit opcode ibit else 1) jtag.bitsInOpcode.length =
      (chainInstruction which opcode).map Bool.toNat := by
    have devices : jtag.bitsInOpcode.length = 2 := by rw [chain]; rfl
    rw [devices]
    apply chipFrames_eq
    intro ichip inside
    rw [size ichip inside]
    exact instructionFrames_eq fun _ => by omega
  obtain ⟨filled, fill, packed, _⟩ := @fill_packed jtag (chainInstruction which opcode)
    (by rw [chainInstruction_length]; decide)
  refine ⟨filled, ?_, packed⟩
  unfold EMUjtag.shfIR
  rw [if_neg (by omega), if_neg (by rw [size which valid]; omega)]
  dsimp only
  rw [frames, fill, quiet]
  rfl

lemma vector_toNat (vectors : Settings.Vector bits vector) :
    vector.take bits = (bitsOfVector bits vector).map Bool.toNat := by
  have each : (vector.take bits).map (Bool.toNat ∘ (· != 0)) = (vector.take bits).map id := by
    apply map_congr_left
    intro bit member
    have small := vectors.2.2 bit member
    have which_ : bit = 0 ∨ bit = 1 := by omega
    rcases which_ with rfl | rfl <;> rfl
  rw [bitsOfVector, map_map, each, map_id]

lemma bitsOfVector_length
    (vectors : Settings.Vector bits vector) : (bitsOfVector bits vector).length = bits := by
  rw [bitsOfVector, length_map, length_take]
  exact Nat.min_eq_left vectors.2.1

lemma shfDR_packed (setUp : 0 ≤ jtag.jtagChain) (chain : jtag.bitsInOpcode = [8, 8])
    (quiet : jtag.writeToDevice = false) (valid : which < 2)
    (vectors : Settings.Vector bits vector) :
    ∃ after, jtag.shfDR [] which bits vector = some (after, []) ∧
      Packed jtag after (chainData which (bitsOfVector bits vector)) := by
  have devices : jtag.bitsInOpcode.length = 2 := by rw [chain]; rfl
  have size : (chainData which (bitsOfVector bits vector)).length = bits + 1 := by
    rw [chainData_length valid, bitsOfVector_length vectors]
  have frames : chipFrames (fun ichip => if ichip = which then vector.take bits else [0])
      jtag.bitsInOpcode.length =
      (chainData which (bitsOfVector bits vector)).map Bool.toNat := by
    rw [devices]
    apply chipFrames_eq
    intro ichip _
    split
    · exact vector_toNat vectors
    · rfl
  obtain ⟨few, long, _⟩ := vectors
  obtain ⟨filled, fill, packed, tdo, chip⟩ := @fill_packed jtag
    (chainData which (bitsOfVector bits vector)) (by rw [size]; omega)
  have offset : selectedOffset which jtag.bitsInOpcode.length 0 ≤ 1 := by
    rw [devices, selectedOffset_eq valid]
    omega
  have fits : (selectedOffset which jtag.bitsInOpcode.length 0 + bits) / 8 <
      (replicate maxBufferSize (0 : UInt8)).length ∧
      bits ≤ (replicate maxNumFrames 0).length := by
    rw [length_replicate, length_replicate]
    simp only [maxNumFrames, maxBufferSize] at few ⊢
    omega
  unfold EMUjtag.shfDR
  rw [if_neg (by omega), if_neg (by omega)]
  dsimp only
  rw [frames, fill, quiet]
  simp only [Option.bind_some, Bool.false_eq_true, if_false]
  rw [tdo, chip, unpackCharBuffer_eq, if_pos fits]
  exact ⟨_, rfl, packed.jtagChain, packed.bitsInOpcode, packed.writeToDevice, packed.contents,
    packed.room⟩

end

variable {writer : XsvfWriter} {which : Nat}

lemma ready_packed {jtag bits} (ready : Ready writer)
    (packed : Packed writer.jtag jtag bits) : Ready { writer with jtag } where
  setUp := packed.jtagChain ▸ ready.setUp
  chain := packed.bitsInOpcode.trans ready.chain
  quiet := packed.writeToDevice.trans ready.quiet
  valid := ready.valid

lemma writeTdi_packed {jtag bits} (ready : Ready writer) (packed : Packed writer.jtag jtag bits)
    (some_ : bits ≠ []) (few : bits.length ≤ maxNumFrames) :
    ∃ after tdi, XsvfWriter.writeTdi (numberOfBytes bits.length) { writer with jtag } =
        some after ∧ Carries tdi bits ∧ Written writer after tdi.reverse [] ∧
      after.xdrLength = writer.xdrLength := by
  have enough : bits.length ≤ 8 * jtag.tdiInBytes.length := by
    rw [packed.room]
    simp only [maxNumFrames, maxBufferSize] at few ⊢
    omega
  have carries := carries_take packed.contents some_ enough
  have room : numberOfBytes bits.length ≤ jtag.tdiInBytes.length := by
    rw [← carries.1, length_take]
    exact Nat.min_le_right _ _
  obtain ⟨after, run, written, same⟩ :=
    writeTdi_some (numberOfBytes bits.length) (ready_packed ready packed) room
  exact ⟨after, _, run, carries,
    ⟨written.ready, written.whichUserProm, written.image, written.counter, written.lengths⟩, same⟩

lemma writeData_some (ready : Ready writer) (vectors : Settings.Vector bits vector)
    (size : writer.xdrLength = bits + 1) :
    ∃ after tdi, writer.writeData bits vector = some after ∧
      Carries tdi (chainData writer.whichUserProm (bitsOfVector bits vector)) ∧
      Written writer after tdi.reverse [] ∧ after.xdrLength = writer.xdrLength := by
  obtain ⟨jtag, shifted, packed⟩ :=
    shfDR_packed ready.setUp ready.chain ready.quiet ready.valid vectors
  have long : (chainData writer.whichUserProm (bitsOfVector bits vector)).length = bits + 1 := by
    rw [chainData_length ready.valid, bitsOfVector_length vectors]
  have some_ : chainData writer.whichUserProm (bitsOfVector bits vector) ≠ [] := by
    intro none_
    rw [none_] at long
    cases long
  have few := vectors.1
  obtain ⟨after, tdi, run, carries, written, same⟩ :=
    writeTdi_packed ready packed some_ (by rw [long]; exact few)
  refine ⟨after, tdi, ?_, carries, written, same⟩
  have bytes : numberOfBytes writer.xdrLength =
      numberOfBytes (chainData writer.whichUserProm (bitsOfVector bits vector)).length := by
    rw [long, size]
    rfl
  rw [XsvfWriter.writeData, shifted, bytes]
  exact run

lemma write_some (ready : Ready writer) {settings : Settings}
    (size : writer.xdrLength = settings.size) {write} (fits : settings.Fits write) :
    ∃ after command, writer.write write = some after ∧
      Stands writer.whichUserProm write command ∧
      Written writer after command.bytes (settings.lengths write) ∧
      after.xdrLength = (settings.set writer.whichUserProm write).size := by
  cases write with
  | xrepeat times =>
    obtain ⟨written, same⟩ := written_all [xrepeat, UInt8.ofNat times] ready
    exact ⟨_, .xrepeat (UInt8.ofNat times), rfl, rfl, written, same.trans size⟩
  | xstate state =>
    obtain ⟨written, same⟩ := written_all [xstate, UInt8.ofNat state] ready
    exact ⟨_, .xstate (UInt8.ofNat state), rfl, rfl, written, same.trans size⟩
  | xruntest time =>
    obtain ⟨written, same⟩ := written_all (xruntest :: wordBytes time) ready
    exact ⟨_, .xruntest time, rfl, rfl, written, same.trans size⟩
  | xcomplete =>
    exact ⟨_, .xcomplete, rfl, trivial, written_put ready xcomplete, size⟩
  | xsdrsize bits =>
    have excess : (bits : Int) + (writer.jtag.bitsInOpcode.length - 1) = bits + 1 := by
      rw [ready.chain]
      rfl
    have sized : Ready { writer with xdrLength := (bits : Int) + 1 } :=
      ⟨ready.setUp, ready.chain, ready.quiet, ready.valid⟩
    obtain ⟨written, same⟩ := written_all (xsdrsize :: wordBytes (BitVec.ofInt 32 (bits + 1))) sized
    refine ⟨_, .xsdrsize (BitVec.ofInt 32 (bits + 1)), rfl, rfl, ?_, ?_⟩
    · rw [XsvfWriter.writeXSDRSIZE]
      simp only [excess]
      exact ⟨written.ready, written.whichUserProm, written.image, written.counter, written.lengths⟩
    · rw [XsvfWriter.writeXSDRSIZE]
      simp only [excess]
      exact same
  | xsir opcode =>
    have sum : writer.sumOpcodeBits = 16 := by
      rw [XsvfWriter.sumOpcodeBits, ready.chain]
      rfl
    obtain ⟨begun, same⟩ := written_all [xsir, 16] ready
    obtain ⟨jtag, shifted, packed⟩ := shfIR_packed begun.ready.setUp begun.ready.chain
      begun.ready.quiet begun.ready.valid opcode
    have long := chainInstruction_length (writer.setAll [xsir, 16]).whichUserProm opcode
    obtain ⟨after, tdi, run, carries, written, also⟩ := writeTdi_packed begun.ready packed
      (by intro none_; rw [none_] at long; cases long) (by rw [long]; decide)
    refine ⟨after, .xsir 16 tdi, ?_, ⟨rfl, begun.whichUserProm ▸ carries⟩, ?_,
      (also.trans same).trans size⟩
    · rw [XsvfWriter.write, XsvfWriter.writeXSIR, sum]
      have byte : UInt8.ofNat 16 = 16 := rfl
      rw [long] at run
      simp only [byte, shifted, Option.bind_some]
      exact run
    · exact begun.trans written
  | xtdomask bits mask =>
    obtain ⟨fitting, vectors⟩ := fits
    obtain ⟨begun, same⟩ := written_command ready xtdomask
    obtain ⟨after, tdi, run, carries, written, also⟩ :=
      writeData_some begun.ready vectors ((same.trans size).trans fitting)
    refine ⟨after, .xtdomask tdi, run, carries, ?_, (also.trans same).trans size⟩
    rw [size] at begun
    exact begun.trans written
  | xsdrtdo bits tdiVector tdoVector =>
    obtain ⟨fitting, _, tdiVectors, tdoVectors⟩ := fits
    obtain ⟨begun, same⟩ := written_command ready xsdrtdo
    obtain ⟨middle, tdi, run, carries, written, also⟩ :=
      writeData_some begun.ready tdiVectors ((same.trans size).trans fitting)
    obtain ⟨after, tdo, more, others, further, still⟩ := writeData_some written.ready tdoVectors
      (((also.trans same).trans size).trans fitting)
    refine ⟨after, .xsdrtdo tdi tdo, ?_, ⟨carries, ?_⟩, ?_,
      ((still.trans also).trans same).trans size⟩
    · rw [XsvfWriter.write, XsvfWriter.writeXSDRTDO, run]
      exact more
    · rw [written.whichUserProm] at others
      exact others
    · rw [size] at begun
      have all := (begun.trans written).trans further
      simpa [Command.bytes, Settings.lengths] using all

lemma writeAll_some (writes) : ∀ {writer : XsvfWriter} {settings : Settings},
    Ready writer → writer.xdrLength = settings.size →
    Fitting writer.whichUserProm settings writes →
    ∃ after commands, writer.writeAll writes = some after ∧
      List.Forall₂ (Stands writer.whichUserProm) writes commands ∧
      Written writer after (commands.flatMap Command.bytes)
        (intendedLengths writer.whichUserProm settings writes) ∧
      after.xdrLength = (runFrom (Settings.set writer.whichUserProm) settings writes).size := by
  induction writes with
  | nil =>
    intro writer settings ready size _
    exact ⟨writer, [], rfl, .nil, ⟨ready, rfl, (append_nil _).symm, rfl, (append_nil _).symm⟩, size⟩
  | cons write rest ih =>
    intro writer settings ready size fitting
    obtain ⟨middle, command, run, stands, written, same⟩ := write_some ready size fitting.1
    have which_ := written.whichUserProm
    obtain ⟨after, commands, runs, stand, others, last⟩ :=
      ih written.ready same (by rw [which_]; exact fitting.2)
    rw [which_] at stand others last
    refine ⟨after, command :: commands, ?_, .cons stands stand, written.trans others, last⟩
    rw [XsvfWriter.writeAll, run]
    exact runs

end EmuLib.Jtag
