import EmuLib.Jtag.XsvfCommands

/-!
The decoder follows the settings, command by command.
-/

namespace EmuLib.Jtag

open GuardedRun List

namespace XsvfDecoder

section

variable {image : List UInt8} {imageCounter : Nat}

lemma head_at {value rest} (here : image.drop imageCounter = value :: rest) :
    image[imageCounter]? = some value ∧ image.drop (imageCounter + 1) = rest := by
  constructor
  · rw [← head?_drop, here]
    rfl
  · rw [← tail_drop, here]
    rfl

lemma drop_at {first rest} (here : image.drop imageCounter = first ++ rest) :
    image.drop (imageCounter + first.length) = rest := by
  rw [← drop_drop, here, drop_left]

lemma readInto_some (bytes) : ∀ {imageCounter : Nat} {buffer rest : List UInt8},
    image.drop imageCounter = bytes ++ rest → bytes.length ≤ buffer.length →
    readInto image bytes.length imageCounter buffer =
      some (imageCounter + bytes.length, bytes.reverse ++ buffer.drop bytes.length) := by
  induction bytes with
  | nil => intro imageCounter buffer rest _ _; rfl
  | cons value more ih =>
    intro imageCounter buffer rest here room
    obtain ⟨found, behind⟩ := head_at here
    have inside : more.length < buffer.length := room
    have set : (buffer.set more.length value).drop more.length =
        value :: buffer.drop (more.length + 1) := by
      rw [drop_eq_getElem_cons (by rw [length_set]; exact inside),
        getElem_set_self, drop_set_of_lt (Nat.lt_succ_self _)]
    rw [length_cons, readInto, found, Option.bind_some,
      ih behind (by rw [length_set]; omega), set, reverse_cons, append_assoc]
    simp only [singleton_append, Option.some.injEq, Prod.mk.injEq, and_true]
    omega

lemma readWord_some {value rest} (here : image.drop imageCounter = wordBytes value ++ rest) :
    readWord image 4 imageCounter 0 = some (imageCounter + 4, value) := by
  obtain ⟨third, afterThird⟩ := head_at here
  obtain ⟨second, afterSecond⟩ := head_at afterThird
  obtain ⟨first, afterFirst⟩ := head_at afterSecond
  obtain ⟨zeroth, _⟩ := head_at afterFirst
  simp only [readWord, third, second, first, zeroth, Option.bind_some]
  exact congrArg (fun word => some (imageCounter + 4, word)) (word_byteBits value)

end

section

variable {packed : List UInt8} {bits : List Bool}

lemma packs_cleared (same : packs packed bits) (count) :
    packs (packed ++ cleared.drop count) bits := by
  intro index
  rw [← same index]
  by_cases inside : index / 8 < packed.length
  · rw [bitAt, bitAt, getD_append _ _ _ _ inside]
  · have beyond : packed.length ≤ index / 8 := Nat.not_lt.1 inside
    rw [bitAt, bitAt, getD_append_right _ _ _ _ beyond, getD_eq_default _ _ beyond,
      cleared, drop_replicate]
    refine congrArg (fun byte : UInt8 => byte.toNat.testBit (index % 8)) ?_
    by_cases room : index / 8 - packed.length < maxBufferSize - count
    · exact getD_replicate _ room
    · exact getD_eq_default _ _ (by rw [length_replicate]; omega)

lemma byte_any (byte : UInt8) :
    (byte != 0) = (List.range 8).any fun place => byte.toNat.testBit place := by
  rw [Bool.eq_iff_iff, any_eq_true, bne_iff_ne]
  constructor
  · intro set
    by_contra none_
    apply set
    apply UInt8.toNat_inj.1
    apply Nat.eq_of_testBit_eq
    intro place
    rw [UInt8.toNat_zero, Nat.zero_testBit]
    by_cases small : place < 8
    · exact Bool.eq_false_iff.2 fun bit => none_ ⟨place, mem_range.2 small, bit⟩
    · have large : 2 ^ 8 ≤ 2 ^ place := Nat.pow_le_pow_right (by decide) (by omega)
      exact Nat.testBit_lt_two_pow (Nat.lt_of_lt_of_le byte.toNat_lt large)
  · rintro ⟨place, _, bit⟩ rfl
    rw [UInt8.toNat_zero, Nat.zero_testBit] at bit
    cases bit

lemma any_packed (same : packs packed bits) {bytes} (room : bits.length ≤ 8 * bytes) :
    (packed.take bytes).any (· != 0) = bits.any id := by
  rw [Bool.eq_iff_iff, any_eq_true, any_eq_true]
  constructor
  · rintro ⟨byte, member, set⟩
    rw [byte_any, any_eq_true] at set
    obtain ⟨place, small, bit⟩ := set
    obtain ⟨k, inside, rfl⟩ := getElem_of_mem member
    rw [getElem_take] at bit
    have within : k < packed.length := by
      rw [length_take] at inside
      omega
    have eight := mem_range.1 small
    have found := bitAt_found eight (getElem?_eq_getElem within)
    rw [same, bit] at found
    by_cases there : 8 * k + place < bits.length
    · rw [getD_eq_getElem _ _ there] at found
      exact ⟨_, getElem_mem there, found⟩
    · rw [getD_eq_default _ _ (Nat.not_lt.1 there)] at found
      cases found
  · rintro ⟨bit, member, set⟩
    obtain ⟨index, inside, rfl⟩ := getElem_of_mem member
    have found := same index
    rw [getD_eq_getElem _ _ inside] at found
    have within : index / 8 < packed.length := by
      by_contra beyond
      rw [bitAt, getD_eq_default _ _ (Nat.not_lt.1 beyond)] at found
      rw [← found] at set
      simp at set
    refine ⟨packed[index / 8], ?_, ?_⟩
    · have place : index / 8 < (packed.take bytes).length := by
        rw [length_take]
        omega
      have same_ : (packed.take bytes)[index / 8] = packed[index / 8] := getElem_take
      rw [← same_]
      exact getElem_mem place
    · rw [byte_any, any_eq_true]
      refine ⟨index % 8, mem_range.2 (Nat.mod_lt _ (by decide)), ?_⟩
      rw [bitAt, getD_eq_getElem _ _ within] at found
      rw [found]
      exact set

end

section

variable {image : List UInt8} {writeToDevice : Bool} {answer : List Operation → Nat → UInt8}
  {decoder : XsvfDecoder} {settings : Settings} {which : Nat}

structure Follows (decoder : XsvfDecoder) (settings : Settings) : Prop where
  size : decoder.xdrLength = settings.size
  runtest : decoder.xruntestTime = settings.runtest
  repeats : decoder.xrepeatTimes = settings.repeats
  mask : packs decoder.tdoMaskInBytes settings.mask
  completed : decoder.numberOfCommands xcomplete.toNat = settings.completed

structure Decoded (writeToDevice : Bool) (decoder after : XsvfDecoder) (count : Nat)
    (operations : List Operation) (lengths : List Int) : Prop where
  counter : after.imageCounter = decoder.imageCounter + count
  operations : after.operations = decoder.operations ++ if writeToDevice then operations else []
  messages : after.messages = decoder.messages
  lengths : after.dataLengths = decoder.dataLengths ++ lengths

lemma Decoded.trans {after last first second operations others lengths further}
    (one : Decoded writeToDevice decoder after first operations lengths)
    (two : Decoded writeToDevice after last second others further) :
    Decoded writeToDevice decoder last (first + second) (operations ++ others)
      (lengths ++ further) where
  counter := by rw [two.counter, one.counter, Nat.add_assoc]
  operations := by
    rw [two.operations, one.operations, append_assoc]
    cases writeToDevice <;> rfl
  messages := two.messages.trans one.messages
  lengths := by rw [two.lengths, one.lengths, append_assoc]

def counted (decoder : XsvfDecoder) (byte : UInt8) : XsvfDecoder :=
  { decoder with
    imageCounter := decoder.imageCounter + 1
    numberOfCommands :=
      Function.update decoder.numberOfCommands byte.toBitVec.toInt
        (decoder.numberOfCommands byte.toBitVec.toInt + 1) }

lemma decodeCommand_eq {byte} (found : image[decoder.imageCounter]? = some byte)
    (inside : 0 ≤ byte.toBitVec.toInt ∧ byte.toBitVec.toInt < 23) :
    decoder.decodeCommand image writeToDevice answer =
      ((decoder.counted byte).parse image writeToDevice answer byte).map (·, true) := by
  have small : ¬numberOfDifferentXsvfCommands < byte.toBitVec.toInt := by
    rw [numberOfDifferentXsvfCommands]
    omega
  have array : ¬(byte.toBitVec.toInt < 0 ∨ byte.toBitVec.toInt = numberOfDifferentXsvfCommands) := by
    rw [numberOfDifferentXsvfCommands]
    omega
  rw [decodeCommand, found, Option.bind_some]
  rw [if_neg small, if_neg array]
  rfl

lemma follows_counted (follows : Follows decoder settings) {byte}
    (other : byte.toBitVec.toInt ≠ 0) : Follows (decoder.counted byte) settings where
  size := follows.size
  runtest := follows.runtest
  repeats := follows.repeats
  mask := follows.mask
  completed := by
    rw [← follows.completed]
    exact Function.update_of_ne other.symm _ _

lemma decodeCommand_some {byte rest} (here : image.drop decoder.imageCounter = byte :: rest)
    (inside : 0 ≤ byte.toBitVec.toInt ∧ byte.toBitVec.toInt < 23) {after}
    (parsed : (decoder.counted byte).parse image writeToDevice answer byte = some after)
    {count operations lengths}
    (decoded : Decoded writeToDevice (decoder.counted byte) after count operations lengths) :
    decoder.decodeCommand image writeToDevice answer = some (after, true) ∧
      Decoded writeToDevice decoder after (count + 1) operations lengths := by
  constructor
  · rw [decodeCommand_eq (head_at here).1 inside, parsed]
    rfl
  · refine ⟨?_, decoded.operations, decoded.messages, decoded.lengths⟩
    rw [decoded.counter, counted, Nat.add_assoc, Nat.add_comm 1]

lemma decoded_quiet {after count} (counter : after.imageCounter = decoder.imageCounter + count)
    (operations : after.operations = decoder.operations)
    (messages : after.messages = decoder.messages)
    (lengths : after.dataLengths = decoder.dataLengths) :
    Decoded writeToDevice decoder after count [] [] where
  counter := counter
  operations := by rw [operations, ite_self, append_nil]
  messages := messages
  lengths := by rw [lengths, append_nil]

lemma parseXSTATE_some (follows : Follows decoder settings) {state rest}
    (here : image.drop decoder.imageCounter = state :: rest) :
    ∃ after, decoder.parseXSTATE image writeToDevice = some after ∧ Follows after settings ∧
      Decoded writeToDevice decoder after 1 (replicate (settings.repeats + 1) .restoreIdle)
        [] := by
  rw [parseXSTATE, (head_at here).1, ← follows.repeats]
  exact ⟨_, rfl, ⟨follows.size, follows.runtest, follows.repeats, follows.mask, follows.completed⟩,
    ⟨rfl, rfl, rfl, (append_nil _).symm⟩⟩

lemma parseXTDOMASK_some (follows : Follows decoder settings) {mask bits}
    (carries : Carries mask bits) (size : settings.size = bits.length)
    (few : bits.length ≤ maxNumFrames) {rest}
    (here : image.drop decoder.imageCounter = mask.reverse ++ rest) :
    ∃ after, decoder.parseXTDOMASK image = some after ∧
      Follows after { settings with mask := bits } ∧
      Decoded writeToDevice decoder after mask.reverse.length [] [settings.size] := by
  have bytes : numberOfBytes decoder.xdrLength = mask.reverse.length := by
    rw [follows.size, size, length_reverse, carries.1]
  have room : mask.reverse.length ≤ cleared.length := by
    rw [length_reverse, carries.1, cleared, length_replicate]
    exact numberOfBytes_le few
  have read := readInto_some mask.reverse here room
  rw [reverse_reverse] at read
  rw [parseXTDOMASK, bytes]
  have fits : ¬maxBufferSize < mask.reverse.length := by
    rw [cleared, length_replicate] at room
    exact Nat.not_lt.2 room
  rw [if_neg fits, read]
  refine ⟨_, rfl, ⟨follows.size, follows.runtest, follows.repeats, ?_, follows.completed⟩,
    ⟨rfl, ?_, rfl, ?_⟩⟩
  · exact packs_cleared carries.2 _
  · rw [ite_self, append_nil]
  · exact congrArg (decoder.dataLengths ++ [·]) follows.size

lemma parseXSIR_some (follows : Follows decoder settings) {tdi bits}
    (carries : Carries tdi bits) (long : bits.length = 16) {rest}
    (here : image.drop decoder.imageCounter = [16] ++ tdi.reverse ++ rest) :
    ∃ after, decoder.parseXSIR image writeToDevice = some after ∧ Follows after settings ∧
      Decoded writeToDevice decoder after ([16] ++ tdi.reverse).length
        [.scan .instruction bits false, .usleep settings.runtest] [] := by
  obtain ⟨size, behind⟩ := head_at here
  have bytes : numberOfBytes ((16 : UInt8).toNat : Nat) = tdi.reverse.length := by
    rw [length_reverse, carries.1, long]
    rfl
  have room : tdi.reverse.length ≤ cleared.length := by
    rw [← bytes, cleared, length_replicate]
    exact numberOfBytes_le (by decide)
  have read := readInto_some tdi.reverse behind room
  rw [reverse_reverse] at read
  have shifted := packs_bitsFrom (packs_cleared carries.2 tdi.reverse.length)
  rw [long] at shifted
  have sixteen : (16 : UInt8).toNat = 16 := rfl
  rw [parseXSIR, size, Option.bind_some, bytes, read]
  refine ⟨_, rfl, ⟨follows.size, follows.runtest, follows.repeats, follows.mask,
    follows.completed⟩, ⟨?_, ?_, rfl, (append_nil _).symm⟩⟩
  · simp only [perform, length_append, length_singleton, Nat.add_assoc]
  · simp only [perform, sixteen, shifted, follows.runtest]

lemma parseXSDRTDO_some (follows : Follows decoder settings) {tdi tdo tdiBits tdoBits}
    (carries : Carries tdi tdiBits) (expected : Carries tdo tdoBits)
    (size : settings.size = tdiBits.length) (same : tdoBits.length = tdiBits.length)
    (masked : settings.mask.length = tdiBits.length) (few : tdiBits.length ≤ maxNumFrames) {rest}
    (here : image.drop decoder.imageCounter = tdi.reverse ++ tdo.reverse ++ rest) :
    ∃ after, decoder.parseXSDRTDO image writeToDevice answer = some after ∧
      Follows after settings ∧
      Decoded writeToDevice decoder after (tdi.reverse ++ tdo.reverse).length
        [.scan .data tdiBits (settings.mask.any id), .compare tdoBits settings.mask,
          .usleep settings.runtest] [settings.size] := by
  have bytes : numberOfBytes decoder.xdrLength = tdi.reverse.length := by
    rw [follows.size, size, length_reverse, carries.1]
  have also : tdi.reverse.length = tdo.reverse.length := by
    rw [length_reverse, length_reverse, carries.1, expected.1, same]
  have room : tdi.reverse.length ≤ cleared.length := by
    rw [length_reverse, carries.1, cleared, length_replicate]
    exact numberOfBytes_le few
  rw [append_assoc] at here
  have read := readInto_some tdi.reverse here room
  have further := readInto_some tdo.reverse (drop_at here) (also ▸ room)
  rw [reverse_reverse] at read further
  have fits : ¬maxBufferSize < tdi.reverse.length := by
    rw [cleared, length_replicate] at room
    exact Nat.not_lt.2 room
  have length : decoder.xdrLength.toNat = tdiBits.length := by
    rw [follows.size, size]
    rfl
  have shifted := packs_bitsFrom (packs_cleared carries.2 tdi.reverse.length)
  have compared := packs_bitsFrom (packs_cleared expected.2 tdo.reverse.length)
  have mask := packs_bitsFrom follows.mask
  rw [same] at compared
  rw [masked] at mask
  have readBack : (decoder.tdoMaskInBytes.take tdi.reverse.length).any (· != 0) =
      settings.mask.any id := by
    apply any_packed follows.mask
    rw [masked, length_reverse, carries.1]
    exact le_numberOfBytes _
  rw [← also] at further compared
  rw [parseXSDRTDO, bytes]
  dsimp only
  rw [if_neg fits, read, Option.bind_some, further]
  refine ⟨_, rfl, ⟨follows.size, follows.runtest, follows.repeats, follows.mask,
    follows.completed⟩, ⟨?_, ?_, rfl, ?_⟩⟩
  · simp only [perform, length_append, ← also, Nat.add_assoc]
  · simp only [perform, length, shifted, compared, mask, readBack, follows.runtest]
    cases writeToDevice with
    | false => simp
    | true => simp
  · exact congrArg (decoder.dataLengths ++ [·]) follows.size

lemma decode_some (valid : which < 2) (follows : Follows decoder settings) {write}
    (fits : settings.Fits write) {command} (stands : Stands which write command)
    {rest} (here : image.drop decoder.imageCounter = command.bytes ++ rest) :
    ∃ after, decoder.decodeCommand image writeToDevice answer = some (after, true) ∧
      Follows after (settings.set which write) ∧
      Decoded writeToDevice decoder after command.bytes.length (settings.operations which write)
        (settings.lengths write) := by
  cases write with
  | xrepeat times =>
    cases command with
    | xrepeat byte =>
      obtain rfl : byte = UInt8.ofNat times := stands
      obtain ⟨found, _⟩ := head_at (head_at here).2
      have small : (UInt8.ofNat times).toNat = times := by
        exact Nat.mod_eq_of_lt fits
      have kept := follows_counted follows (by decide : xrepeat.toBitVec.toInt ≠ 0)
      have parsed : (decoder.counted xrepeat).parse image writeToDevice answer xrepeat =
          some { decoder.counted xrepeat with
            imageCounter := decoder.imageCounter + 1 + 1
            xrepeatTimes := times } := by
        rw [parse, if_neg (by decide), if_neg (by decide), if_neg (by decide),
          if_neg (by decide), if_pos rfl, parseXREPEAT]
        simp only [counted, found, Option.map_some, small]
      obtain ⟨run, decoded⟩ := decodeCommand_some here (by decide) parsed
        (decoded_quiet rfl rfl rfl rfl)
      exact ⟨_, run, ⟨kept.size, kept.runtest, rfl, kept.mask, kept.completed⟩, decoded⟩
    | _ => exact stands.elim
  | xstate state =>
    cases command with
    | xstate byte =>
      have kept := follows_counted follows (by decide : xstate.toBitVec.toInt ≠ 0)
      obtain ⟨after, parsed, kept, decoded⟩ := @parseXSTATE_some image writeToDevice
        (decoder.counted xstate) settings kept byte rest (head_at here).2
      obtain ⟨run, decoded⟩ := @decodeCommand_some image writeToDevice answer decoder xstate _
        here (by decide) after
        (by
          exact parsed) _ _ _ decoded
      exact ⟨after, run, kept, decoded⟩
    | _ => exact stands.elim
  | xruntest time =>
    cases command with
    | xruntest word =>
      obtain rfl : word = time := stands
      have read := readWord_some (head_at here).2
      have kept := follows_counted follows (by decide : xruntest.toBitVec.toInt ≠ 0)
      have parsed : (decoder.counted xruntest).parse image writeToDevice answer xruntest =
          some { decoder.counted xruntest with
            imageCounter := decoder.imageCounter + 1 + 4
            xruntestTime := word } := by
        rw [parse, if_neg (by decide), if_neg (by decide), if_neg (by decide), if_pos rfl,
          parseXRUNTEST]
        simp only [counted, read, Option.map_some]
      obtain ⟨run, decoded⟩ := decodeCommand_some here (by decide) parsed
        (decoded_quiet rfl rfl rfl rfl)
      exact ⟨_, run, ⟨kept.size, rfl, kept.repeats, kept.mask, kept.completed⟩, decoded⟩
    | _ => exact stands.elim
  | xsir opcode =>
    cases command with
    | xsir size tdi =>
      obtain ⟨rfl, carries⟩ := stands
      have kept := follows_counted follows (by decide : xsir.toBitVec.toInt ≠ 0)
      obtain ⟨after, parsed, kept, decoded⟩ := @parseXSIR_some image writeToDevice
        (decoder.counted xsir) settings kept tdi _ carries (chainInstruction_length which opcode)
        rest (head_at here).2
      obtain ⟨run, decoded⟩ := @decodeCommand_some image writeToDevice answer decoder xsir _
        here (by decide) after
        (by
          exact parsed) _ _ _ decoded
      exact ⟨after, run, kept, decoded⟩
    | _ => exact stands.elim
  | xsdrsize bits =>
    cases command with
    | xsdrsize size =>
      obtain rfl : size = BitVec.ofInt 32 (bits + 1) := stands
      have read := readWord_some (head_at here).2
      have kept := follows_counted follows (by decide : xsdrsize.toBitVec.toInt ≠ 0)
      have few : bits < 8196 := fits
      have value : (BitVec.ofInt 32 (bits + 1)).toInt = bits + 1 := by
        rw [BitVec.toInt_ofInt]
        apply Int.bmod_eq_of_le
        · omega
        · omega
      have parsed : (decoder.counted xsdrsize).parse image writeToDevice answer xsdrsize =
          some { decoder.counted xsdrsize with
            imageCounter := decoder.imageCounter + 1 + 4
            xdrLength := bits + 1 } := by
        rw [parse, if_neg (by decide), if_neg (by decide), if_neg (by decide),
          if_neg (by decide), if_neg (by decide), if_pos rfl, parseXSDRSIZE]
        simp only [counted, read, Option.map_some, value]
      obtain ⟨run, decoded⟩ := decodeCommand_some here (by decide) parsed
        (decoded_quiet rfl rfl rfl rfl)
      exact ⟨_, run, ⟨rfl, kept.runtest, kept.repeats, kept.mask, kept.completed⟩, decoded⟩
    | _ => exact stands.elim
  | xtdomask bits vector =>
    cases command with
    | xtdomask mask =>
      obtain ⟨size, vectors⟩ := fits
      have long : (chainData which (bitsOfVector bits vector)).length = bits + 1 := by
        rw [chainData_length valid, bitsOfVector_length vectors]
      have few := vectors.1
      have kept := follows_counted follows (by decide : xtdomask.toBitVec.toInt ≠ 0)
      obtain ⟨after, parsed, kept, decoded⟩ := @parseXTDOMASK_some image writeToDevice
        (decoder.counted xtdomask) settings kept mask _ stands (by rw [size, long]; rfl)
        (by rw [long]; exact few) rest (head_at here).2
      obtain ⟨run, decoded⟩ := @decodeCommand_some image writeToDevice answer decoder xtdomask
        _ here (by decide) after
        (by
          exact parsed) _ _ _ decoded
      exact ⟨after, run, kept, decoded⟩
    | _ => exact stands.elim
  | xsdrtdo bits tdiVector tdoVector =>
    cases command with
    | xsdrtdo tdi tdo =>
      obtain ⟨size, masked, tdiVectors, tdoVectors⟩ := fits
      obtain ⟨carries, expected⟩ := stands
      have long : (chainData which (bitsOfVector bits tdiVector)).length = bits + 1 := by
        rw [chainData_length valid, bitsOfVector_length tdiVectors]
      have also : (chainData which (bitsOfVector bits tdoVector)).length = bits + 1 := by
        rw [chainData_length valid, bitsOfVector_length tdoVectors]
      have few := tdiVectors.1
      have kept := follows_counted follows (by decide : xsdrtdo.toBitVec.toInt ≠ 0)
      obtain ⟨after, parsed, kept, decoded⟩ := @parseXSDRTDO_some image writeToDevice answer
        (decoder.counted xsdrtdo) settings kept tdi tdo _ _ carries expected
        (by rw [size, long]; rfl) (by rw [also, long]) (by rw [masked, long])
        (by rw [long]; exact few) rest (head_at here).2
      obtain ⟨run, decoded⟩ := @decodeCommand_some image writeToDevice answer decoder xsdrtdo
        _ here (by decide) after
        (by
          exact parsed) _ _ _ decoded
      exact ⟨after, run, kept, decoded⟩
    | _ => exact stands.elim
  | xcomplete =>
    cases command with
    | xcomplete =>
      have first : decoder.numberOfCommands xcomplete.toNat = 0 := follows.completed.trans fits
      have once : (decoder.counted xcomplete).numberOfCommands xcomplete.toNat = 1 := by
        exact congrArg (· + 1) first
      have parsed : (decoder.counted xcomplete).parse image writeToDevice answer xcomplete =
          some (decoder.counted xcomplete) := by
        rw [parse, parseXCOMPLETE, once]
        rfl
      obtain ⟨run, decoded⟩ := decodeCommand_some here (by decide) parsed
        (@decoded_quiet writeToDevice _ _ 0 rfl rfl rfl rfl)
      refine ⟨_, run, ⟨follows.size, follows.runtest, follows.repeats, follows.mask, ?_⟩, decoded⟩
      rw [once]
      exact congrArg (· + 1) (show 0 = settings.completed from fits.symm)
    | _ => exact stands.elim

end

variable {image : List UInt8} {writeToDevice : Bool} {answer : List Operation → Nat → UInt8}
  {which : Nat}

lemma decodeLoop_some (valid : which < 2) {writes commands}
    (stand : List.Forall₂ (Stands which) writes commands) :
    ∀ {decoder : XsvfDecoder} {settings : Settings} {turns : Nat}, Follows decoder settings →
      Fitting which settings writes →
      image.drop decoder.imageCounter = commands.flatMap Command.bytes →
      decoder.imageCounter ≤ image.length → image.length - decoder.imageCounter < turns →
      ∃ after, decoder.decodeLoop image image.length writeToDevice answer turns = some after ∧
        Follows after (runFrom (Settings.set which) settings writes) ∧
        Decoded writeToDevice decoder after (commands.flatMap Command.bytes).length
          (intended which settings writes) (intendedLengths which settings writes) := by
  induction stand with
  | nil =>
    intro decoder settings turns follows _ here inside enough
    have past : image.length ≤ decoder.imageCounter := drop_eq_nil_iff.1 here
    obtain ⟨fewer, rfl⟩ : ∃ fewer, turns = fewer + 1 := ⟨turns - 1, by omega⟩
    refine ⟨decoder, ?_, follows, ⟨rfl, ?_, rfl, (append_nil _).symm⟩⟩
    · rw [decodeLoop, if_neg (by omega)]
    · rw [intended, outputs, ite_self, append_nil]
  | cons stands rest ih =>
    rename_i write command others further
    intro decoder settings turns follows fitting here inside enough
    rw [flatMap_cons] at here
    obtain ⟨middle, run, kept, decoded⟩ :=
      @decode_some image writeToDevice answer decoder settings which valid follows write fitting.1
        command stands _ here
    have behind := drop_at here
    rw [← decoded.counter] at behind
    have size := congrArg List.length here
    rw [length_drop, length_append] at size
    have positive : 0 < command.bytes.length := by
      cases command <;> simp [Command.bytes]
    have counter := decoded.counter
    obtain ⟨fewer, rfl⟩ : ∃ fewer, turns = fewer + 1 := ⟨turns - 1, by omega⟩
    obtain ⟨after, runs, keeps, decodes⟩ :=
      @ih middle (settings.set which write) fewer kept fitting.2 behind (by omega) (by omega)
    refine ⟨after, ?_, keeps, ?_⟩
    · rw [decodeLoop, if_pos (by omega), run]
      exact runs
    · rw [flatMap_cons, length_append]
      exact decoded.trans decodes

end XsvfDecoder

end EmuLib.Jtag
