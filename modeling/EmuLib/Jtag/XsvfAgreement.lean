import EmuLib.Jtag.XsvfDecoding

/-!
What the decoder does with the image that has been created for a user prom.
-/

namespace EmuLib.Jtag

open GuardedRun List

variable {count : Nat}

section

variable {vector : List Nat}

lemma lt_maxNumFrames (small : count ≤ 2048) : count < maxNumFrames :=
  Nat.lt_of_le_of_lt small (by decide)

lemma vector_zeros (small : count ≤ 2048) : Settings.Vector count allZeros := by
  have few := lt_maxNumFrames small
  refine ⟨few, by rw [allZeros, length_replicate]; exact Nat.le_of_lt few, ?_⟩
  intro bit member
  rw [eq_of_mem_replicate (mem_of_mem_take member)]
  exact Nat.zero_le 1

lemma vector_ones (small : count ≤ 2048) : Settings.Vector count allOnes := by
  have few := lt_maxNumFrames small
  refine ⟨few, by rw [allOnes, length_replicate]; exact Nat.le_of_lt few, ?_⟩
  intro bit member
  rw [eq_of_mem_replicate (mem_of_mem_take member)]

lemma intToBits_take (value length) :
    (intToBits value length vector).take length = (List.range length).map (opcodeBit value) := by
  exact take_left' (by rw [length_map, length_range])

lemma vector_intToBits (value) {length} (small : length ≤ 2048) :
    Settings.Vector length (intToBits value length vector) := by
  refine ⟨lt_maxNumFrames small, ?_, ?_⟩
  · rw [intToBits, length_append, length_map, length_range]
    exact Nat.le_add_right _ _
  · rw [intToBits_take]
    intro bit member
    obtain ⟨ibit, _, rfl⟩ := mem_map.1 member
    exact Nat.and_le_right

lemma bitsOfVector_zeros (small : count ≤ 2048) :
    bitsOfVector count allZeros = replicate count false := by
  have few := lt_maxNumFrames small
  rw [bitsOfVector, allZeros, take_replicate, Nat.min_eq_left (Nat.le_of_lt few), map_replicate]
  rfl

lemma bitsOfVector_intToBits (value) {length} (short : length ≤ 32) :
    bitsOfVector length (intToBits value length vector) =
      (List.range length).map value.getLsbD := by
  rw [bitsOfVector, intToBits_take, map_map]
  apply map_congr_left
  intro ibit member
  have inside := mem_range.1 member
  rw [Function.comp_apply, opcodeBit_eq value (by omega)]
  cases value.getLsbD ibit <;> rfl

end

section

variable {which : Nat}

lemma mask_length (valid : which < 2) {vector} (bits : Settings.Vector count vector) :
    (chainData which (bitsOfVector count vector)).length = count + 1 := by
  rw [chainData_length valid, bitsOfVector_length bits]

lemma preamble_fitting (valid : which < 2) (settings) : Fitting which settings preamble := by
  simp [Fitting, preamble, Settings.Fits, Settings.set, mask_length valid, vector_zeros,
    vector_intToBits, regSizePromIdCode, regSizePromIspen, regSizePromAddress, lt_maxNumFrames]

lemma blockWrites_fitting (valid : which < 2) (settings) {data address}
    (dataBits : Settings.Vector 2048 data) (addressBits : Settings.Vector 16 address) :
    Fitting which settings (blockWrites data address) := by
  simp [Fitting, blockWrites, Settings.Fits, Settings.set, mask_length valid, vector_zeros,
    dataBits, addressBits, regSizePromWriteData0, regSizePromAddress, lt_maxNumFrames]

def afterBlock (which completed : Nat) : Settings where
  size := 17
  runtest := 0
  repeats := 0
  mask := chainData which (List.replicate 16 false)
  completed := completed

lemma interim_fitting (valid : which < 2) (completed) :
    Fitting which (afterBlock which completed) interimBetweenImageAndVerify := by
  simp [Fitting, interimBetweenImageAndVerify, afterBlock, Settings.Fits, Settings.set,
    mask_length valid, chainData_length valid, vector_zeros, vector_intToBits, regSizePromIspen,
    regSizePromAddress, lt_maxNumFrames]

lemma postamble_fitting (valid : which < 2) (settings) (incomplete : settings.completed = 0)
    (timeinfo) : Fitting which settings (postamble timeinfo) := by
  simp [Fitting, postamble, Settings.Fits, Settings.set, mask_length valid, vector_zeros,
    vector_ones, vector_intToBits, incomplete, regSizePromIspen, regSizePromAddress,
    regSizePromUserCode, regSizePromUsercodeData, regSizePromWriteData3, regSizePromVerifyData3,
    regSizePromBypass, lt_maxNumFrames]

def Settings.start : Settings where
  size := 0
  runtest := 0
  repeats := 0
  mask := []
  completed := 0

lemma preamble_start (settings) :
    intended which settings preamble = intended which .start preamble ∧
      intendedLengths which settings preamble = intendedLengths which .start preamble ∧
      runFrom (Settings.set which) settings preamble =
        { afterBlock which settings.completed with
          size := 7
          mask := chainData which (replicate 6 false) } := by
  refine ⟨rfl, rfl, ?_⟩
  rfl

lemma interim_after (completed) :
    (runFrom (Settings.set which) (afterBlock which completed)
      interimBetweenImageAndVerify).completed = completed := rfl

end

section

variable (which : Nat) (image : Nat → Int)

def promByte (address : Nat) : Nat := (image address % 256).toNat

def blockData (block : Nat) : List Bool :=
  (List.range numberOfBitsPerBlock).map fun i =>
    (promByte image (numberOfAddressesPerBlock * block + i / 8)).testBit (i % 8)

def blockAddress (block : Nat) : List Bool := (List.range 16).map (block <<< 5).testBit

def blockOperations (block : Nat) : List Operation :=
  let zeros := fun bits => chainData which (List.replicate bits false)
  [.scan .instruction (chainInstruction which promWriteData0) false, .usleep 0,
    .scan .data (chainData which (blockData image block)) false,
    .compare (zeros 2048) (zeros 2048), .usleep 2,
    .scan .instruction (chainInstruction which promAddress) false, .usleep 0,
    .scan .data (chainData which (blockAddress block)) false,
    .compare (zeros 16) (zeros 16), .usleep 2,
    .scan .instruction (chainInstruction which promProgram) false, .usleep 14001]

def blockCount (promImageWordCount : Nat) : Nat :=
  min totalNumberOfBlocks (promImageWordCount / numberOfAddressesPerBlock + 1)

def programming (blocks : Nat) (timeinfo : TimeInfo) : List Operation :=
  intended which .start preamble ++ (List.range blocks).flatMap (blockOperations which image) ++
    intended which (afterBlock which 0) (interimBetweenImageAndVerify ++ postamble timeinfo)

variable {which image}

lemma promByte_lt (address) : promByte image address < 256 := by
  unfold promByte
  omega

lemma characterBuffer_bit {block i} (inside : i < numberOfBitsPerBlock)
    (last : block < totalNumberOfBlocks) (beyond) :
    bitAt (characterBuffer image (numberOfAddressesPerBlock * block) ++ [beyond]) i =
      (promByte image (numberOfAddressesPerBlock * block + i / 8)).testBit (i % 8) := by
  have bits : i < 2048 := inside
  have blocks : block < 128 := last
  have early : i / 8 < numberOfAddressesPerBlock := by
    change i / 8 < 256
    omega
  have address : ¬totalNumberOfAddresses ≤ numberOfAddressesPerBlock * block + i / 8 := by
    change ¬32768 ≤ 256 * block + i / 8
    omega
  have size : (characterBuffer image (numberOfAddressesPerBlock * block)).length =
      numberOfAddressesPerBlock := by
    rw [characterBuffer, length_map, length_range]
  have small := @promByte_lt image (numberOfAddressesPerBlock * block + i / 8)
  have byte : (characterBuffer image (numberOfAddressesPerBlock * block) ++ [beyond]).getD (i / 8)
      0 = UInt8.ofNat (promByte image (numberOfAddressesPerBlock * block + i / 8)) := by
    rw [getD_append _ _ _ _ (by rw [size]; exact early),
      getD_eq_getElem _ _ (by rw [size]; exact early)]
    simp only [characterBuffer, getElem_map, getElem_range, getUserPromImage, if_neg address]
    rfl
  rw [bitAt, byte, UInt8.toNat_ofNat', Nat.mod_eq_of_lt small]

lemma unpack_block {block} (last : block < totalNumberOfBlocks) (beyond) {tdiIn}
    (long : tdiIn.length = maxNumFrames) :
    ∃ data, unpackCharBuffer (characterBuffer image (numberOfAddressesPerBlock * block) ++ [beyond])
        numberOfBitsPerBlock 0 tdiIn = some data ∧ data.length = maxNumFrames ∧
      Settings.Vector 2048 data ∧ bitsOfVector 2048 data = blockData image block := by
  have bits : bitsFrom (characterBuffer image (numberOfAddressesPerBlock * block) ++ [beyond]) 0
      numberOfBitsPerBlock = blockData image block := by
    rw [blockData]
    apply map_congr_left
    intro i member
    rw [Nat.zero_add]
    exact characterBuffer_bit (mem_range.1 member) last beyond
  have fits : (0 + numberOfBitsPerBlock) / 8 <
      (characterBuffer image (numberOfAddressesPerBlock * block) ++ [beyond]).length ∧
      numberOfBitsPerBlock ≤ tdiIn.length := by
    rw [length_append, characterBuffer, length_map, length_range, long]
    exact ⟨Nat.lt_succ_self 256, by decide⟩
  have size : (blockData image block).length = 2048 := by
    rw [blockData, length_map, length_range]
    rfl
  have front : ((blockData image block).map Bool.toNat ++
      tdiIn.drop numberOfBitsPerBlock).take 2048 = (blockData image block).map Bool.toNat :=
    take_left' (by rw [length_map, size])
  refine ⟨_, by rw [unpackCharBuffer_eq, if_pos fits, bits], ?_, ⟨by decide, ?_, ?_⟩, ?_⟩
  · rw [length_append, length_map, size, length_drop, long]
    rfl
  · rw [length_append, length_map, size]
    exact Nat.le_add_right _ _
  · rw [front]
    intro bit member
    obtain ⟨one, _, rfl⟩ := mem_map.1 member
    cases one <;> decide
  · rw [bitsOfVector, front, map_map]
    exact (map_congr_left fun bit _ => by cases bit <;> rfl).trans (map_id _)

lemma chainData_clear : (chainData which (replicate count false)).any id = false := by
  rw [any_eq_false]
  intro bit member
  rw [chainData, SerialChain.stream, mem_flatten] at member
  obtain ⟨part, among, inside⟩ := member
  rw [mem_reverse, mem_map] at among
  obtain ⟨ichip, _, rfl⟩ := among
  split at inside
  · rw [eq_of_mem_replicate inside]
    exact Bool.false_ne_true
  · rw [mem_singleton.1 inside]
    exact Bool.false_ne_true

lemma bitsOfVector_address (block) {vector} :
    bitsOfVector 16 (intToBits (BitVec.ofNat 32 (block <<< 5)) 16 vector) = blockAddress block := by
  rw [bitsOfVector_intToBits _ (by omega)]
  apply map_congr_left
  intro bit member
  have inside := mem_range.1 member
  rw [BitVec.getLsbD_ofNat, decide_eq_true (by omega), Bool.true_and]

lemma blockWrites_intended {settings} (quick : settings.runtest = 0) (once : settings.repeats = 0)
    {block data address} (dataBits : bitsOfVector 2048 data = blockData image block)
    (addressBits : bitsOfVector 16 address = blockAddress block) :
    intended which settings (blockWrites data address) = blockOperations which image block ∧
      runFrom (Settings.set which) settings (blockWrites data address) =
        afterBlock which settings.completed := by
  have data_ := bitsOfVector_zeros (Nat.le_refl 2048)
  have address_ := bitsOfVector_zeros (by omega : 16 ≤ 2048)
  constructor
  · simp only [intended, blockWrites, outputs, Settings.set, Settings.operations,
      regSizePromWriteData0, regSizePromAddress, data_, address_, dataBits, addressBits,
      chainData_clear, quick, blockOperations]
    rfl
  · simp only [blockWrites, runFrom_cons, runFrom_nil, Settings.set, regSizePromAddress, address_,
      afterBlock, once]
    rfl

lemma promImageFrom_some (valid : which < 2) {promImageWordCount} (beyond remaining) : ∀
    {block : Nat} {tdiIn : List Nat}, tdiIn.length = maxNumFrames →
      block + remaining = totalNumberOfBlocks →
      ∃ writes, promImageFrom image promImageWordCount beyond remaining block
          (numberOfAddressesPerBlock * block) tdiIn = some writes ∧
        ∀ {settings : Settings}, settings.runtest = 0 → settings.repeats = 0 →
          let blocks := min remaining (promImageWordCount / numberOfAddressesPerBlock + 1 - block)
          Fitting which settings writes ∧
            intended which settings writes =
              (range' block blocks).flatMap (blockOperations which image) ∧
            runFrom (Settings.set which) settings writes =
              if 0 < blocks then afterBlock which settings.completed else settings := by
  induction remaining with
  | zero =>
    intro block tdiIn _ _
    refine ⟨[], rfl, fun _ _ => ⟨trivial, ?_, ?_⟩⟩
    · rfl
    · rfl
  | succ remaining ih =>
    intro block tdiIn long total
    have per : numberOfAddressesPerBlock = 256 := rfl
    by_cases past : promImageWordCount < numberOfAddressesPerBlock * block
    · have none_ : promImageWordCount / numberOfAddressesPerBlock + 1 - block = 0 := by
        rw [per] at past ⊢
        omega
      refine ⟨[], by rw [promImageFrom, if_pos past], fun _ _ => ⟨trivial, ?_, ?_⟩⟩
      · rw [none_]
        rfl
      · rw [none_]
        rfl
    · have last : block < totalNumberOfBlocks := by omega
      obtain ⟨data, unpacked, size, vectors, bits⟩ := @unpack_block image block last beyond tdiIn long
      let address := intToBits (BitVec.ofNat 32 (block <<< 5)) regSizePromAddress data
      have addressLong : address.length = maxNumFrames := by
        simp only [address, intToBits, length_append, length_map, length_range, length_drop, size]
        decide
      obtain ⟨rest, others, behind⟩ := ih addressLong (by omega : block + 1 + remaining = _)
      refine ⟨blockWrites data address ++ rest, ?_, ?_⟩
      · rw [promImageFrom, if_neg past, unpacked]
        change (promImageFrom image promImageWordCount beyond remaining (block + 1)
          (numberOfAddressesPerBlock * (block + 1)) address).map _ = _
        rw [others]
        rfl
      · intro settings quick once
        obtain ⟨operations, after⟩ :=
          @blockWrites_intended which image settings quick once block data address bits
            (bitsOfVector_address block)
        have left : min (remaining + 1)
            (promImageWordCount / numberOfAddressesPerBlock + 1 - block) =
            min remaining (promImageWordCount / numberOfAddressesPerBlock + 1 - (block + 1)) + 1 := by
          rw [per] at past ⊢
          omega
        obtain ⟨fits, further, ends⟩ := @behind (afterBlock which settings.completed) rfl rfl
        rw [left]
        refine ⟨?_, ?_, ?_⟩
        · rw [Fitting, guarded_append, after]
          exact ⟨blockWrites_fitting valid settings vectors (vector_intToBits _ (by decide)), fits⟩
        · rw [range'_succ, flatMap_cons, ← operations, ← further, intended, intended,
            intended, outputs_append, after]
        · rw [runFrom_append, after, ends]
          exact ite_self _

end

variable {which : Nat} {image : Nat → Int} {promImageWordCount : Nat}

def allWrites (imageWrites : List Write) (timeinfo : TimeInfo) : List Write :=
  preamble ++ imageWrites ++ (interimBetweenImageAndVerify ++ postamble timeinfo)

lemma allWrites_intended (valid : which < 2) (timeinfo beyond) :
    ∃ imageWrites, promImage image promImageWordCount beyond = some imageWrites ∧
      ∀ settings : Settings, settings.completed = 0 →
        Fitting which settings (allWrites imageWrites timeinfo) ∧
          intended which settings (allWrites imageWrites timeinfo) =
            programming which image (blockCount promImageWordCount) timeinfo ∧
          intendedLengths which settings (allWrites imageWrites timeinfo) =
            intendedLengths which .start (allWrites imageWrites timeinfo) := by
  obtain ⟨imageWrites, created, blocks⟩ := @promImageFrom_some which image valid
    promImageWordCount beyond totalNumberOfBlocks 0 allZeros length_replicate rfl
  have count : min totalNumberOfBlocks (promImageWordCount / numberOfAddressesPerBlock + 1 - 0) =
      blockCount promImageWordCount := rfl
  have positive : 0 < blockCount promImageWordCount :=
    Nat.lt_min.2 ⟨by decide, Nat.succ_pos _⟩
  refine ⟨imageWrites, created, ?_⟩
  intro settings incomplete
  obtain ⟨begun, lengths, after⟩ := @preamble_start which settings
  obtain ⟨_, _, same⟩ := @preamble_start which .start
  have zero : Settings.start.completed = 0 := rfl
  rw [incomplete] at after
  rw [zero] at same
  obtain ⟨fits, operations, ends⟩ := @blocks
    { afterBlock which 0 with
      size := 7
      mask := chainData which (replicate 6 false) } rfl rfl
  rw [count, if_pos positive] at ends
  rw [← range_eq_range'] at operations
  refine ⟨?_, ?_, ?_⟩
  · rw [Fitting, allWrites, guarded_append, guarded_append, runFrom_append, after, ends,
      guarded_append]
    exact ⟨⟨preamble_fitting valid settings, fits⟩, interim_fitting valid 0,
      postamble_fitting valid _ (interim_after 0) timeinfo⟩
  · rw [intended] at begun operations
    rw [intended, allWrites, outputs_append, outputs_append, runFrom_append, after, ends, begun,
      operations]
    rfl
  · rw [intendedLengths, intendedLengths] at lengths
    rw [intendedLengths, intendedLengths, allWrites, append_assoc, outputs_append, after,
      lengths, outputs_append _ _ Settings.start, same]

lemma writeAll_append (first second) : ∀ writer : XsvfWriter,
    writer.writeAll (first ++ second) = (writer.writeAll first).bind fun middle =>
      middle.writeAll second := by
  induction first with
  | nil => intro writer; rfl
  | cons write rest ih =>
    intro writer
    rw [cons_append, XsvfWriter.writeAll, XsvfWriter.writeAll, Option.bind_assoc]
    exact Option.bind_congr fun middle _ => ih middle

lemma createXsvfImage_some {writer : XsvfWriter} (valid : writer.whichUserProm < 2)
    (offline : writer.jtag.writeToDevice = false) (timeinfo beyond)
    {imageWrites} (created : promImage image promImageWordCount beyond = some imageWrites)
    (fitting : ∀ settings : Settings, settings.completed = 0 →
      Fitting writer.whichUserProm settings (allWrites imageWrites timeinfo)) :
    ∃ written commands settings,
      writer.createXsvfImage image promImageWordCount timeinfo beyond = some (written, true) ∧
        List.Forall₂ (Stands writer.whichUserProm) (allWrites imageWrites timeinfo) commands ∧
        written.xsvfImage = commands.flatMap Command.bytes ∧
        written.numberOfWriteBytes = written.xsvfImage.length ∧ settings.completed = 0 ∧
        written.dataLengths =
          intendedLengths writer.whichUserProm settings (allWrites imageWrites timeinfo) := by
  let ready : XsvfWriter :=
    { writer with
      xsvfImage := []
      imageCounter := 0
      dataLengths := []
      jtag := XsvfWriter.setupJtag writer.jtag }
  have chain : Ready ready := ⟨Int.natCast_nonneg 8, rfl, offline, valid⟩
  let settings : Settings := { Settings.start with size := writer.xdrLength }
  obtain ⟨done, commands, run, stand, written, _⟩ := @writeAll_some
    (allWrites imageWrites timeinfo) ready settings chain rfl (fitting settings rfl)
  refine ⟨{ done with numberOfWriteBytes := done.imageCounter }, commands, settings, ?_, stand, ?_,
    ?_, rfl, ?_⟩
  · simp only [allWrites, append_assoc, writeAll_append, Option.bind_eq_some_iff] at run
    obtain ⟨begun, first, filled, second, between, third, last⟩ := run
    have known : ¬(writer.whichUserProm ≠ 0 ∧ writer.whichUserProm ≠ 1) := by omega
    rw [XsvfWriter.createXsvfImage]
    rw [if_neg known]
    simp only [XsvfWriter.writePreambleIntoXsvfImage, XsvfWriter.writePromImageIntoXsvfImage,
      XsvfWriter.writeInterimBetweenImageAndVerifyIntoXsvfImage,
      XsvfWriter.writePostambleIntoXsvfImage, created, Option.bind_some]
    change (ready.writeAll preamble).bind _ = _
    simp only [first, second, third, last, Option.bind_some, Option.map_some]
  · exact written.image
  · have counter := written.counter
    rw [Nat.zero_add] at counter
    exact counter.trans (congrArg List.length written.image).symm
  · exact written.lengths

lemma bitsFrom_packs (packed) : packs packed (bitsFrom packed 0 (8 * packed.length)) := by
  intro index
  by_cases inside : index < 8 * packed.length
  · rw [getD_eq_getElem _ _ (by simpa [bitsFrom] using inside)]
    simp [bitsFrom]
  · rw [getD_eq_default _ _ (by simpa [bitsFrom] using inside), bitAt,
      getD_eq_default _ _ (by omega)]
    exact Nat.zero_testBit _

lemma blockData_bit (address) {bit} (inside : bit < 8) :
    (blockData image (address / numberOfAddressesPerBlock))[
        8 * (address % numberOfAddressesPerBlock) + bit]? =
      some ((promByte image address).testBit bit) := by
  have per : numberOfAddressesPerBlock = 256 := rfl
  rw [per]
  have place : 8 * (address % 256) + bit < numberOfBitsPerBlock := by
    change _ < 2048
    omega
  have byte : 256 * (address / 256) + (8 * (address % 256) + bit) / 8 = address := by omega
  have offset : (8 * (address % 256) + bit) % 8 = bit := by omega
  rw [blockData, getElem?_map, getElem?_range place, Option.map_some, per, byte, offset]

theorem xsvf_agreement (writer : XsvfWriter) (offline : writer.jtag.writeToDevice = false)
    (valid : writer.whichUserProm = 0 ∨ writer.whichUserProm = 1) (image : Nat → Int)
    {promImageWordCount : Nat} (fits : promImageWordCount ≤ totalNumberOfAddresses)
    (timeinfo : TimeInfo) (beyond : UInt8) :
    ∃ written, writer.createXsvfImage image promImageWordCount timeinfo beyond =
        some (written, true) ∧
      written.numberOfWriteBytes = written.xsvfImage.length ∧
      (∀ (decoder : XsvfDecoder) (writeToDevice : Bool) (answer : List Operation → Nat → UInt8)
        (turns : Nat), written.numberOfWriteBytes < turns →
        ∃ decoded, XsvfDecoder.decodeXsvfImage written.xsvfImage written.numberOfWriteBytes
            writeToDevice answer turns decoder = some decoded ∧
          decoded.imageCounter = written.numberOfWriteBytes ∧
          decoded.messages = decoder.messages ∧
          decoded.dataLengths = decoder.dataLengths ++ written.dataLengths ∧
          decoded.operations = decoder.operations ++ if writeToDevice then
            programming writer.whichUserProm image (blockCount promImageWordCount) timeinfo
          else []) ∧
      ∀ address < promImageWordCount,
        address / numberOfAddressesPerBlock < blockCount promImageWordCount ∧
          ∀ bit < 8, (blockData image (address / numberOfAddressesPerBlock))[
              8 * (address % numberOfAddressesPerBlock) + bit]? =
            some ((promByte image address).testBit bit) := by
  have which : writer.whichUserProm < 2 := by omega
  obtain ⟨imageWrites, created, all⟩ :=
    @allWrites_intended writer.whichUserProm image promImageWordCount which timeinfo beyond
  obtain ⟨written, commands, settings, run, stand, bytes, size, incomplete, lengths⟩ :=
    createXsvfImage_some which offline timeinfo beyond created
      fun settings zero => (all settings zero).1
  refine ⟨written, run, size, ?_, ?_⟩
  · intro decoder writeToDevice answer turns enough
    let reset : XsvfDecoder := { decoder with numberOfCommands := fun _ => 0, imageCounter := 0 }
    let held : Settings :=
      { size := decoder.xdrLength
        runtest := decoder.xruntestTime
        repeats := decoder.xrepeatTimes
        mask := bitsFrom decoder.tdoMaskInBytes 0 (8 * decoder.tdoMaskInBytes.length)
        completed := 0 }
    have follows : reset.Follows held := ⟨rfl, rfl, rfl, bitsFrom_packs _, rfl⟩
    obtain ⟨fitting, operations, same⟩ := all held rfl
    obtain ⟨_, _, also⟩ := all settings incomplete
    rw [size] at enough
    obtain ⟨decoded, loop, _, result⟩ := @XsvfDecoder.decodeLoop_some written.xsvfImage
      writeToDevice answer writer.whichUserProm which _ commands stand reset held turns follows
      fitting (by rw [bytes]; rfl) (Nat.zero_le _) (Nat.lt_of_le_of_lt (Nat.sub_le _ _) enough)
    refine ⟨decoded, ?_, ?_, result.messages, ?_, ?_⟩
    · rw [size]
      exact loop
    · rw [result.counter, size, bytes]
      exact Nat.zero_add _
    · rw [result.lengths, same, lengths, also]
    · rw [result.operations, operations]
  · intro address inside
    refine ⟨?_, fun bit small => blockData_bit address small⟩
    rw [blockCount]
    have per : numberOfAddressesPerBlock = 256 := rfl
    have blocks : totalNumberOfBlocks = 128 := rfl
    have total : totalNumberOfAddresses = 32768 := rfl
    rw [per]
    rw [total] at fits
    omega

def exampleWriter : XsvfWriter where
  jtag := ⟨-1, [], false, 0, [], [], [], []⟩
  whichUserProm := 1
  xdrLength := 0
  xsvfImage := []
  imageCounter := 0
  numberOfWriteBytes := 0
  dataLengths := []

theorem xsvf_agreement_three :
    ∃ written, exampleWriter.createXsvfImage (fun address => 0xab - address) 3 ⟨12, 31, 2009⟩ 0 =
        some (written, true) ∧ written.numberOfWriteBytes = written.xsvfImage.length :=
  (xsvf_agreement exampleWriter rfl (by decide) (fun address => 0xab - address) (by decide)
    ⟨12, 31, 2009⟩ 0).imp fun _ agreement => ⟨agreement.1, agreement.2.1⟩

end EmuLib.Jtag
