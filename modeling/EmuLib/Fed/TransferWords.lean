import EmuLib.Fed.CommandPacking

/-!
The words of the JTAG transfers of the FED boards: what is written, and what is put together from
what is read.
-/

namespace EmuLib.Fed

open Operations WordBits List

section

variable {bus : Bus}

def gather (bus : Bus) (extraBits : Nat) (words : List UInt16) : List UInt16 :=
  words.foldl (fun result word => pushShifted bus result word extraBits) []

lemma gather_snoc (extraBits words word) :
    gather bus extraBits (words ++ [word]) =
      pushShifted bus (gather bus extraBits words) word extraBits := by
  rw [gather, foldl_append]
  rfl

lemma pushShifted_length (result word extraBits) :
    (pushShifted bus result word extraBits).length = result.length + 1 := by
  cases result using reverseRecOn with
  | nil => unfold pushShifted; split <;> rfl
  | append_singleton earlier previous =>
    unfold pushShifted
    split
    · simp
    · simp

lemma gather_length (extraBits words) :
    (gather bus extraBits words).length = words.length := by
  induction words using reverseRecOn with
  | nil => rfl
  | append_singleton earlier word ih => rw [gather_snoc, pushShifted_length, ih]; simp

lemma pushShifted_bits {extraBits} (few : extraBits ≤ 16) (result word place) :
    bitOf (pushShifted bus result word extraBits) place =
      (bitOf result place || (decide (16 * result.length ≤ place + extraBits) &&
        word.toNat.testBit (place + extraBits - 16 * result.length))) := by
  by_cases none : extraBits = 0
  · subst none
    have pushed : pushShifted bus result word 0 = result ++ [word] := rfl
    rw [pushed, bitOf_snoc]
    rfl
  · have small : extraBits < 32 := by omega
    cases result using reverseRecOn with
    | nil =>
      have pushed : pushShifted bus [] word extraBits =
          [UInt16.ofNat (word.toNat >>> extraBits)] := by
        simp [pushShifted, none, small]
      have low : bitOf [] place = false := bitOf_beyond (Nat.zero_le _)
      rw [pushed, bitOf_single, shiftRight_testBit, low]
      simp
    | append_singleton earlier previous =>
      have pushed : pushShifted bus (earlier ++ [previous]) word extraBits =
          (earlier ++ [previous ||| UInt16.ofNat (word.toNat <<< (16 - extraBits))]) ++
            [UInt16.ofNat (word.toNat >>> extraBits)] := by
        simp [pushShifted, none, few, small]
      rw [pushed, bitOf_joined few, length_append, length_singleton]

lemma gather_bits {extraBits} (few : extraBits ≤ 16) (words place) :
    bitOf (gather bus extraBits words) place = bitOf words (place + extraBits) := by
  induction words using reverseRecOn with
  | nil =>
    have low : ∀ place, bitOf [] place = false := fun _ => bitOf_beyond (Nat.zero_le _)
    exact (low _).trans (low _).symm
  | append_singleton earlier word ih =>
    rw [gather_snoc, pushShifted_bits few, ih, gather_length, bitOf_snoc]

end

lemma performs_foldlM_range {Result step push made first each}
    (long : ∀ index, (made index).length = each)
    (performs : ∀ result index state, state.calls = first + each * index →
      Performs (step result index) state (push result index) (made index))
    (result : Result) (count) {state} (here : state.calls = first) :
    Performs ((List.range count).foldlM step result) state ((List.range count).foldl push result)
      ((List.range count).flatMap made) := by
  induction count with
  | zero => exact performs_pure result state
  | succ count ih =>
    have total : ((List.range count).flatMap made).length = each * count := by
      simp [length_flatMap, long, Nat.mul_comm]
    have later := performs ((List.range count).foldl push result) count
      (after ((List.range count).foldlM step result) state) (by
        rw [ih.counted, here, total])
    rw [range_succ, foldlM_append, foldl_append, flatMap_append, flatMap_singleton]
    simp only [foldlM_cons, foldlM_nil, bind_pure, foldl_cons, foldl_nil]
    exact ih.bind later

section

variable {board : VmeModule} {bus : Bus} (transfer : Transfer)

def Transfer.lowWord (iWord : Nat) (word : UInt16) : UInt16 :=
  let remainderBits := remainderOf transfer.allBits
  if iWord = wordsFor transfer.allBits - 1 ∧ remainderBits ≠ 0 then
    UInt16.ofNat (word.toNat >>> (16 - remainderBits))
  else word

def Transfer.highBits (iWord : Nat) : UInt16 :=
  let remainderBits := remainderOf transfer.allBits
  if iWord = wordsFor transfer.allBits - 1 ∧ remainderBits ≠ 0 then
    UInt16.ofNat ((lowBits remainderBits).toNat <<< (16 - remainderBits))
  else 0xffff

def Transfer.sampled (bus : Bus) (first : Nat) : List UInt16 :=
  (List.range (wordsFor transfer.allBits)).map fun iWord =>
    transfer.lowWord iWord (bus.data (first + 2 * iWord + 1))

def Transfer.wordCycles (board : VmeModule) (sent : Nat → UInt16) (noRead : Bool) (iWord : Nat) :
    List Cycle :=
  board.write (transfer.address iWord) (sent iWord) ::
    if noRead then [] else [board.read (transfer.myAddress ||| 0x14)]

def Transfer.cycles (board : VmeModule) (sent : Nat → UInt16) (noRead : Bool) : List Cycle :=
  (List.range (wordsFor transfer.allBits)).flatMap (transfer.wordCycles board sent noRead)

lemma lowWord_testBit (iWord word bit) :
    (transfer.lowWord iWord word).toNat.testBit bit =
      if iWord = wordsFor transfer.allBits - 1 ∧ remainderOf transfer.allBits ≠ 0 then
        word.toNat.testBit (bit + (16 - remainderOf transfer.allBits))
      else word.toNat.testBit bit := by
  unfold Transfer.lowWord
  dsimp only
  split
  · exact shiftRight_testBit ..
  · rfl

lemma lowWord_masked (iWord word) :
    transfer.lowWord iWord (word &&& transfer.highBits iWord) = transfer.lowWord iWord word := by
  have small : remainderOf transfer.allBits < 16 := Nat.mod_lt _ (by decide)
  apply word_ext
  intro bit inside
  rw [lowWord_testBit, lowWord_testBit, UInt16.toNat_and, Nat.testBit_and, Nat.testBit_and]
  unfold Transfer.highBits
  dsimp only
  split
  · rw [shiftLeft_testBit, lowBits_testBit (Nat.le_of_lt small)]
    rcases Nat.lt_or_ge bit (remainderOf transfer.allBits) with low | high
    · have within : bit + (16 - remainderOf transfer.allBits) < 16 := by omega
      simp [low, within]
    · rw [testBit_beyond word (by omega), Bool.false_and]
  · have all : (0xffff : UInt16) = lowBits 16 := rfl
    rw [all, lowBits_testBit (Nat.le_refl _), decide_eq_true inside, Bool.and_true]

lemma foldl_gather (extraBits count word) :
    (List.range count).foldl (fun result iWord => pushShifted bus result (word iWord) extraBits) []
      = gather bus extraBits ((List.range count).map word) := by
  rw [gather, foldl_map]

lemma performs_jtagReadWord (answers : Answers board bus) (result iWord state) :
    Performs (jtagReadWord board bus transfer result iWord) state
      (pushShifted bus result (transfer.lowWord iWord (bus.data (state.calls + 1)))
        transfer.extraBits)
      (transfer.wordCycles board (fun _ => 0xffff) false iWord) := by
  have written := performs_writeVME answers (transfer.address iWord) 0xffff state
  have read := performs_readVME answers (transfer.myAddress ||| 0x14)
    (after (writeVME board bus (transfer.address iWord) 0xffff) state)
  rw [← lowWord_masked]
  exact written.bind (read.bind (performs_pure _ _))

lemma performs_jtagWriteWord (answers : Answers board bus) (myData result iWord state) :
    Performs (jtagWriteWord board bus transfer myData false result iWord) state
      (pushShifted bus result (transfer.lowWord iWord (bus.data (state.calls + 1)))
        transfer.extraBits)
      (transfer.wordCycles board
        (fun iWord => wordAt bus myData iWord &&& bitMask transfer.allBits iWord) false iWord) := by
  have written := performs_writeVME answers (transfer.address iWord)
    (wordAt bus myData iWord &&& bitMask transfer.allBits iWord) state
  have read := performs_readVME answers (transfer.myAddress ||| 0x14)
    (after (writeVME board bus (transfer.address iWord)
      (wordAt bus myData iWord &&& bitMask transfer.allBits iWord)) state)
  exact written.bind (read.bind (performs_pure _ _))

lemma performs_jtagWriteWord_noRead (answers : Answers board bus) (myData result iWord state) :
    Performs (jtagWriteWord board bus transfer myData true result iWord) state result
      (transfer.wordCycles board
        (fun iWord => wordAt bus myData iWord &&& bitMask transfer.allBits iWord) true iWord) :=
  (performs_writeVME answers (transfer.address iWord) _ state).bind (performs_pure _ _)

variable {sent : Nat → UInt16} {step : List UInt16 → Nat → Vme (List UInt16)}

lemma performs_words
    (each : ∀ result iWord state, Performs (step result iWord) state
      (pushShifted bus result (transfer.lowWord iWord (bus.data (state.calls + 1)))
        transfer.extraBits) (transfer.wordCycles board sent false iWord)) (state) :
    Performs ((List.range (wordsFor transfer.allBits)).foldlM step []) state
      (gather bus transfer.extraBits (transfer.sampled bus state.calls))
      (transfer.cycles board sent false) := by
  have long : ∀ iWord, (transfer.wordCycles board sent false iWord).length = 2 := fun _ => rfl
  have performs : ∀ (result : List UInt16) (iWord : Nat) (later : VmeState),
      later.calls = state.calls + 2 * iWord →
      Performs (step result iWord) later
        (pushShifted bus result (transfer.lowWord iWord (bus.data (state.calls + 2 * iWord + 1)))
          transfer.extraBits) (transfer.wordCycles board sent false iWord) := by
    intro result iWord later calls
    have here := each result iWord later
    rwa [calls] at here
  have steps := performs_foldlM_range long performs [] (wordsFor transfer.allBits) rfl
  rwa [foldl_gather] at steps

lemma performs_wordsNoRead
    (each : ∀ result iWord state, Performs (step result iWord) state result
      (transfer.wordCycles board sent true iWord)) (state) :
    Performs ((List.range (wordsFor transfer.allBits)).foldlM step []) state []
      (transfer.cycles board sent true) := by
  have long : ∀ iWord, (transfer.wordCycles board sent true iWord).length = 1 := fun _ => rfl
  have steps := @performs_foldlM_range _ _ (fun result _ => result) _ state.calls 1 long
    (fun result iWord later _ => each result iWord later) [] (wordsFor transfer.allBits) state rfl
  have same : ∀ items : List Nat,
      items.foldl (fun (result : List UInt16) _ => result) [] = [] := by
    intro items
    induction items with
    | nil => rfl
    | cons item rest ih => exact ih
  rwa [same] at steps

end

section

variable {board : VmeModule} {bus : Bus} {dev : DevType} {chain : JtagChain dev}

def readTransfer (chain : JtagChain dev) (nBits : UInt32) : Transfer :=
  ⟨chain.front.bitCode, nBits,
    (chain.elements.takeWhile fun element => element.dev ≠ dev).length⟩

def writeTransfer (chain : JtagChain dev) (nBits : UInt32) : Transfer :=
  ⟨chain.front.bitCode, nBits,
    (chain.elements.reverse.takeWhile fun element => element.dev ≠ dev).length⟩

def writtenWord (bus : Bus) (transfer : Transfer) (data : List UInt16) (iWord : Nat) : UInt16 :=
  wordAt bus (data ++ List.replicate (wordsFor transfer.allBits - data.length) 0xffff) iWord &&&
    bitMask transfer.allBits iWord

def resetData (bus : Bus) (transfer : Transfer) (data : List UInt16) : List Bool :=
  (List.range transfer.allBits.toNat).map fun iBit =>
    (wordAt bus data (iBit / 16)).toNat.testBit (iBit % 16)

lemma performs_jtagRead (answers : Answers board bus) (mapped : board.jtagMap dev = some chain)
    (nBits state) :
    Performs (jtagRead board bus dev nBits) state
      (gather bus (readTransfer chain nBits).extraBits
        ((readTransfer chain nBits).sampled bus state.calls))
      ((readTransfer chain nBits).cycles board (fun _ => 0xffff) false) := by
  simp only [jtagRead, mapped]
  exact performs_lockedWhole (performs_words (readTransfer chain nBits)
    (performs_jtagReadWord (readTransfer chain nBits) answers) state.entered)

lemma performs_jtagWrite (answers : Answers board bus) (mapped : board.jtagMap dev = some chain)
    (other : dev ≠ .RESET) (nBits data state) :
    Performs (jtagWrite board bus dev nBits data false) state
      (gather bus (writeTransfer chain nBits).extraBits
        ((writeTransfer chain nBits).sampled bus state.calls))
      ((writeTransfer chain nBits).cycles board
        (writtenWord bus (writeTransfer chain nBits) data) false) := by
  simp only [jtagWrite, mapped, if_neg other]
  have words := performs_words (writeTransfer chain nBits)
    (performs_jtagWriteWord (writeTransfer chain nBits) answers
      (data ++ replicate (wordsFor (writeTransfer chain nBits).allBits - data.length) 0xffff))
    state.entered
  have whole := performs_locked (words.map fun result => (Exit.ended, result))
  rwa [map_eq_pure_bind] at whole

lemma performs_jtagWrite_noRead (answers : Answers board bus)
    (mapped : board.jtagMap dev = some chain) (other : dev ≠ .RESET) (nBits data state) :
    Performs (jtagWrite board bus dev nBits data true) state []
      ((writeTransfer chain nBits).cycles board
        (writtenWord bus (writeTransfer chain nBits) data) true) := by
  simp only [jtagWrite, mapped, if_neg other]
  have words := performs_wordsNoRead (writeTransfer chain nBits)
    (performs_jtagWriteWord_noRead (writeTransfer chain nBits) answers
      (data ++ replicate (wordsFor (writeTransfer chain nBits).allBits - data.length) 0xffff))
    state.entered
  have whole := performs_locked (words.map fun result => (Exit.ended, result))
  rwa [map_eq_pure_bind] at whole

lemma performs_jtagWrite_reset {chain} (answers : Answers board bus)
    (mapped : board.jtagMap .RESET = some chain) (nBits data noRead state) :
    Performs (jtagWrite board bus .RESET nBits data noRead) state []
      (([0, 0, 1, 0, 0] ++ resetBits (resetData bus (writeTransfer chain nBits) data) ++
        [1, 0]).map (board.write chain.front.bitCode)) := by
  have bits : ((List.range (writeTransfer chain nBits).allBits.toNat).map fun iBit =>
      bogoBit ((wordAt bus data (iBit / 16)).toNat.testBit (iBit % 16))
        (iBit == (writeTransfer chain nBits).allBits.toNat - 1)) =
      resetBits (resetData bus (writeTransfer chain nBits) data) := resetBits_range _ _
  have small : (((List.range (writeTransfer chain nBits).allBits.toNat).map fun iBit =>
      bogoBit ((wordAt bus data (iBit / 16)).toNat.testBit (iBit % 16))
        (iBit == (writeTransfer chain nBits).allBits.toNat - 1)).all
          fun bogoData => bogoData &&& 3 == bogoData) = true := by
    simp [bogoBit_small]
  simp only [jtagWrite, mapped, if_true]
  rw [map_append, ← bits]
  exact performs_locked
    ((performs_writePattern answers _ rfl _).bind
      ((performs_writePattern answers _ small _).bind
        ((performs_writePattern answers _ rfl _).bind (performs_pure _ _))))

end

variable {board : VmeModule} {bus : Bus} (transfer : Transfer)

def wordBits : Cycle → List Bool
  | .read _ => []
  | .write address data => bitsOf (((address >>> (8 : UInt32)) &&& (0xf : UInt32)).toNat + 1) data

def Transfer.bits (sent : Nat → UInt16) (count : Nat) : List Bool :=
  (List.range (min count transfer.allBits.toNat)).map fun place =>
    (sent (place / 16)).toNat.testBit (place % 16)

lemma masked_clear {value mask : UInt32} (clear : value &&& mask = 0) {bit}
    (inside : mask.toNat.testBit bit = true) : value.toNat.testBit bit = false := by
  have both := congrArg (fun word : UInt32 => word.toNat.testBit bit) clear
  simpa [inside] using both

lemma lengthField {myAddress slot flags length : UInt32} (clear : slot &&& 0xf00 = 0)
    (low : flags &&& 0xf00 = 0) (short : length.toNat < 16) :
    ((((myAddress &&& 0xfffff0ff) ||| flags ||| (length <<< (8 : UInt32))) ||| slot) >>>
      (8 : UInt32)) &&& (0xf : UInt32) = length := by
  apply UInt32.toNat_inj.mp
  apply Nat.eq_of_testBit_eq
  intro bit
  have fifteen : (0xf : UInt32).toNat = 2 ^ 4 - 1 := rfl
  have shift : (8 : UInt32).toNat % 32 = 8 := rfl
  rw [UInt32.toNat_and, Nat.testBit_and, fifteen, Nat.testBit_two_pow_sub_one]
  by_cases inside : bit < 4
  · have field : (0xf00 : UInt32).toNat.testBit (8 + bit) = true := by
      match bit, inside with
      | 0, _ | 1, _ | 2, _ | 3, _ => rfl
    have kept : (0xfffff0ff : UInt32).toNat.testBit (8 + bit) = false := by
      match bit, inside with
      | 0, _ | 1, _ | 2, _ | 3, _ => rfl
    have placed : (length <<< 8).toNat.testBit (8 + bit) = length.toNat.testBit bit := by
      rw [UInt32.toNat_shiftLeft, Nat.testBit_mod_two_pow]
      have within : 8 + bit < 32 := by omega
      simp [within]
    rw [UInt32.toNat_shiftRight, shift, Nat.testBit_shiftRight, UInt32.toNat_or, UInt32.toNat_or,
      UInt32.toNat_or, UInt32.toNat_and, Nat.testBit_or, Nat.testBit_or, Nat.testBit_or,
      Nat.testBit_and, kept, masked_clear clear field, masked_clear low field, placed]
    simp [inside]
  · have high : length.toNat.testBit bit = false :=
      Nat.testBit_lt_two_pow (Nat.lt_of_lt_of_le (show length.toNat < 2 ^ 4 from short)
        (Nat.pow_le_pow_right (by decide) (Nat.le_of_not_lt inside)))
    rw [high]
    simp [inside]

variable {iWord : Nat}

lemma wordBits_write (inSlot : board.vmeAddress &&& 0xf00 = 0)
    (inside : iWord < wordsFor transfer.allBits) (word) :
    wordBits (board.write (transfer.address iWord) word) =
      bitsOf (min 16 (transfer.allBits.toNat - 16 * iWord)) word := by
  have inRow : ∀ first last length : UInt32, first = 0x4 ∨ first = 0 →
      last = 0x8 ∨ last = 0 → length.toNat < 16 →
      wordBits (.write ((transfer.myAddress &&& 0xfffff0ff) ||| first ||| last |||
          (length <<< (8 : UInt32)) ||| board.vmeAddress) word) =
        bitsOf (length.toNat + 1) word := by
    intro first last length firstFlag lastFlag short
    have low : (first ||| last) &&& 0xf00 = 0 := by
      rcases firstFlag with rfl | rfl
      · rcases lastFlag with rfl | rfl <;> rfl
      · rcases lastFlag with rfl | rfl <;> rfl
    rw [wordBits, UInt32.or_assoc (transfer.myAddress &&& 0xfffff0ff), lengthField inSlot low short]
  have firstFlag : (if iWord = 0 then (0x4 : UInt32) else 0) = 0x4 ∨
      (if iWord = 0 then (0x4 : UInt32) else 0) = 0 := by
    split
    · exact .inl rfl
    · exact .inr rfl
  have lastFlag : (if iWord = wordsFor transfer.allBits - 1 then (0x8 : UInt32) else 0) = 0x8 ∨
      (if iWord = wordsFor transfer.allBits - 1 then (0x8 : UInt32) else 0) = 0 := by
    split
    · exact .inl rfl
    · exact .inr rfl
  have remainder : remainderOf transfer.allBits = transfer.allBits.toNat % 16 := rfl
  have whole : wordsFor transfer.allBits = (transfer.allBits.toNat + 15) / 16 := wordsFor_eq _
  unfold VmeModule.write Transfer.address transferAddress
  by_cases last : iWord = wordsFor transfer.allBits - 1 ∧ remainderOf transfer.allBits ≠ 0
  · have counted : (UInt32.ofNat (remainderOf transfer.allBits - 1)).toNat =
        remainderOf transfer.allBits - 1 :=
      Nat.mod_eq_of_lt (Nat.lt_of_lt_of_le (by omega) (show 16 ≤ 2 ^ 32 by decide))
    rw [if_pos last, inRow _ _ _ firstFlag lastFlag (by rw [counted]; omega)]
    refine congrArg (bitsOf · word) ?_
    omega
  · rw [if_neg last]
    have full := inRow _ _ 0xf firstFlag lastFlag (by decide)
    have same : (0xf : UInt32) <<< (8 : UInt32) = 0x0f00 := rfl
    rw [same] at full
    rw [full]
    refine congrArg (bitsOf · word) ?_
    show 16 = _
    omega

lemma flatMap_wordCycles (inSlot : board.vmeAddress &&& 0xf00 = 0) (sent noRead)
    {count} (inside : count ≤ wordsFor transfer.allBits) :
    ((List.range count).flatMap (transfer.wordCycles board sent noRead)).flatMap wordBits =
      transfer.bits sent (16 * count) := by
  have single : ∀ iWord ∈ List.range count,
      (transfer.wordCycles board sent noRead iWord).flatMap wordBits =
        bitsOf (min 16 (transfer.allBits.toNat - 16 * iWord)) (sent iWord) := by
    intro iWord known
    have here := wordBits_write transfer inSlot
      (Nat.lt_of_lt_of_le (mem_range.mp known) inside) (sent iWord)
    cases noRead with
    | true => exact (append_nil _).trans here
    | false => exact (append_nil _).trans here
  rw [flatMap_assoc, flatMap_congr single, flatMap_pieces]
  rfl

lemma range_split {count index} (inside : index < count) :
    ∃ later, List.range count = List.range index ++ index :: later := by
  obtain ⟨further, rfl⟩ := Nat.exists_eq_add_of_lt inside
  rw [Nat.add_right_comm, range_add, range_succ]
  simp

lemma cycles_at (board sent)
    (inside : iWord < wordsFor transfer.allBits) :
    ∃ later, transfer.cycles board sent false =
      ((List.range iWord).flatMap (transfer.wordCycles board sent false) ++
        [board.write (transfer.address iWord) (sent iWord)]) ++
        board.read (transfer.myAddress ||| 0x14) :: later := by
  obtain ⟨later, split⟩ := range_split inside
  rw [Transfer.cycles, split]
  simp [Transfer.wordCycles]

lemma wordCycles_length (board sent iWord) :
    ((List.range iWord).flatMap (transfer.wordCycles board sent false) ++
      [board.write (transfer.address iWord) (sent iWord)]).length = 2 * iWord + 1 := by
  simp [length_flatMap, Transfer.wordCycles, Nat.mul_comm]

lemma bits_before (inSlot : board.vmeAddress &&& 0xf00 = 0) (sent)
    (inside : iWord < wordsFor transfer.allBits) :
    ((transfer.cycles board sent false).take (2 * iWord + 1)).flatMap wordBits =
      transfer.bits sent (16 * (iWord + 1)) := by
  obtain ⟨later, split⟩ := cycles_at transfer board sent inside
  have first := flatMap_wordCycles transfer inSlot sent false (Nat.succ_le_of_lt inside)
  rw [range_succ, flatMap_append, flatMap_append] at first
  rw [split, ← wordCycles_length transfer board sent iWord, take_left', flatMap_append, ← first]
  · rfl
  · rfl

lemma read_at (board sent)
    (inside : iWord < wordsFor transfer.allBits) :
    (transfer.cycles board sent false)[2 * iWord + 1]? =
      some (board.read (transfer.myAddress ||| 0x14)) := by
  obtain ⟨later, split⟩ := cycles_at transfer board sent inside
  rw [split, ← wordCycles_length transfer board sent iWord]
  simp

lemma bits_whole (sent) :
    transfer.bits sent (16 * wordsFor transfer.allBits) =
      (List.range transfer.allBits.toNat).map fun place =>
        (sent (place / 16)).toNat.testBit (place % 16) := by
  have all : min (16 * wordsFor transfer.allBits) transfer.allBits.toNat =
      transfer.allBits.toNat := by
    rw [wordsFor_eq]
    omega
  rw [Transfer.bits, all]

lemma bits_prefix (sent count) :
    transfer.bits sent count =
      (transfer.bits sent (16 * wordsFor transfer.allBits)).take count := by
  rw [bits_whole, Transfer.bits, ← map_take, take_range]

lemma sampled_bits (bus first place) :
    bitOf (transfer.sampled bus first) place =
      (decide (place < transfer.allBits.toNat) &&
        (bus.data (first + 2 * (place / 16) + 1)).toNat.testBit
          (place + 16 - min (16 * (place / 16 + 1)) transfer.allBits.toNat)) := by
  have whole : wordsFor transfer.allBits = (transfer.allBits.toNat + 15) / 16 := wordsFor_eq _
  have remainder : remainderOf transfer.allBits = transfer.allBits.toNat % 16 := rfl
  rcases Nat.lt_or_ge (place / 16) (wordsFor transfer.allBits) with inside | beyond
  · have here : (transfer.sampled bus first).getD (place / 16) 0 =
        transfer.lowWord (place / 16) (bus.data (first + 2 * (place / 16) + 1)) := by
      simp [Transfer.sampled, List.getD, inside]
    rw [bitOf, here, lowWord_testBit]
    split
    · rcases Nat.lt_or_ge place transfer.allBits.toNat with within | outside
      · have found : place % 16 + (16 - remainderOf transfer.allBits) =
            place + 16 - min (16 * (place / 16 + 1)) transfer.allBits.toNat := by omega
        rw [found, decide_eq_true within, Bool.true_and]
      · rw [testBit_beyond _ (by omega), decide_eq_false (Nat.not_lt.mpr outside), Bool.false_and]
    · have within : place < transfer.allBits.toNat := by omega
      have found : place % 16 =
          place + 16 - min (16 * (place / 16 + 1)) transfer.allBits.toNat := by omega
      rw [decide_eq_true within, Bool.true_and, ← found]
  · have outside : ¬ place < transfer.allBits.toNat := by omega
    have long : (transfer.sampled bus first).length = wordsFor transfer.allBits := by
      simp [Transfer.sampled]
    rw [bitOf_beyond (by omega), decide_eq_false outside, Bool.false_and]

end EmuLib.Fed
