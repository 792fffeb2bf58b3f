import EmuLib.Jtag.UserPromImage

/-!
The user prom images as they are created, written to disk and read again.
-/

namespace EmuLib.Jtag

open TextStream List Function Option

lemma promLine_eq (index value) : promLine index value =
    [index / 4096 % 16, index / 256 % 16, index / 16 % 16, index % 16].map Nat.digitChar ++
      ' ' :: [value / 16 % 16, value % 16].map Nat.digitChar := by
  have nibble : ∀ number : Nat, number % 16 < 16 := fun number => Nat.mod_lt number (by decide)
  simp only [promLine, and_nibble, Nat.shiftRight_eq_div_pow, hex_digit (nibble _)]
  rfl

lemma digit_notNewline {digit} (small : digit < 16) : '\n' ≠ digit.digitChar :=
  (digitChar_spells.ne small (by decide)).symm

lemma promLine_whole (index value) : '\n' ∉ promLine index value := by
  have nibble : ∀ number : Nat, number % 16 < 16 := fun number => Nat.mod_lt number (by decide)
  rw [promLine_eq]
  simp [digit_notNewline (nibble _)]

lemma extractLine_promLine {index value} (address : index < 0x10000) (byte : value < 0x100)
    (indexValue imageValue) :
    extractLine (promLine index value) indexValue imageValue = ((index : Int), (value : Int)) := by
  have nibble : ∀ number : Nat, number % 16 < 16 := fun number => Nat.mod_lt number (by decide)
  have indexDigits :
      ofDigits [index / 4096 % 16, index / 256 % 16, index / 16 % 16, index % 16] = index := by
    simp only [ofDigits, foldl_cons, foldl_nil]
    omega
  have valueDigits : ofDigits [value / 16 % 16, value % 16] = value := by
    simp only [ofDigits, foldl_cons, foldl_nil]
    omega
  have ended : (' ' :: [value / 16 % 16, value % 16].map Nat.digitChar).head?.bind digitValue =
      none := digitValue_mark ' ' (by decide)
  have first := @extractHex_digits (' ' :: [value / 16 % 16, value % 16].map Nat.digitChar)
    [index / 256 % 16, index / 16 % 16, index % 16] Nat.digitChar digitChar_spells
    (index / 4096 % 16) (by simp [nibble])
    (by rw [indexDigits]; omega) [] (by simp) (by simp [digitChar_spells.notBase (nibble _)]) ended
  have second := @extractHex_digits [] [value % 16] Nat.digitChar digitChar_spells
    (value / 16 % 16) (by simp [nibble])
    (by rw [valueDigits]; omega) [' '] (by simp [isSpace]) (by simp) rfl
  rw [indexDigits, nil_append] at first
  rw [valueDigits, append_nil] at second
  rw [extractLine, promLine_eq, first]
  simp only
  rw [show ' ' :: [value / 16 % 16, value % 16].map Nat.digitChar =
    [' '] ++ [value / 16 % 16, value % 16].map Nat.digitChar from rfl, second]

lemma extractLine_nil (indexValue imageValue) :
    extractLine [] indexValue imageValue = (indexValue, imageValue) := rfl

section

variable {imageValue : Nat → Int} {values : Nat → Nat}

lemma readLines_append (lines further passed reading) :
    readLines imageValue passed (lines ++ further) reading =
      (readLines imageValue passed lines reading).bind
        (readLines imageValue (passed + lines.length) further) := by
  induction lines generalizing passed reading with
  | nil => rfl
  | cons line rest ih =>
    rw [cons_append, readLines, readLines, bind_assoc]
    apply congrArg
    funext next
    rw [ih, length_cons, Nat.add_assoc, Nat.add_comm 1]

lemma readLine_at {reading line value} {index : Nat} {word}
    (extracted : extractLine line reading.indexValue value = ((index : Int), word))
    (room : index < totalNumberOfAddresses) :
    readLine reading line value = some ⟨update reading.image index word, index⟩ := by
  have inside : 0 ≤ (index : Int) ∧ (index : Int) < totalNumberOfAddresses := by omega
  rw [readLine, extracted]
  exact if_pos inside

lemma readLines_written (count start passed reading)
    (bytes : ∀ index < start + count, values index < 0x100)
    (room : start + count ≤ totalNumberOfAddresses) :
    ∃ read, readLines imageValue passed ((range' start count).map fun index =>
        promLine index (values index)) reading = some read ∧
      read.indexValue = (if count = 0 then reading.indexValue else ((start + count - 1 : Nat) : Int)) ∧
      ∀ address, read.image address =
        if start ≤ address ∧ address < start + count then (values address : Int)
        else reading.image address := by
  induction count generalizing start passed reading with
  | zero =>
    refine ⟨reading, rfl, rfl, fun address => ?_⟩
    rw [if_neg (by omega)]
  | succ count ih =>
    have long : totalNumberOfAddresses = 32768 := rfl
    have extracted := extractLine_promLine (by omega : start < 0x10000)
      (bytes start (by omega)) reading.indexValue (imageValue passed)
    have stored := readLine_at extracted (by omega)
    obtain ⟨read, further, last, image⟩ := ih (start + 1) (passed + 1)
      ⟨update reading.image start (values start), start⟩
      (fun index before => bytes index (by omega)) (by omega)
    refine ⟨read, ?_, ?_, fun address => ?_⟩
    · rw [range'_succ, map_cons, readLines, stored, bind_some]
      exact further
    · rw [last, if_neg (Nat.succ_ne_zero count)]
      split
      · rename_i none
        simp [none]
      · congr 1
        omega
    · rw [image address]
      by_cases first : address = start
      · subst first
        rw [if_neg (by omega), if_pos (by omega)]
        exact update_self ..
      · have kept : update reading.image start (values start : Int) address =
            reading.image address := update_of_ne first ..
        have same : (start + 1 ≤ address ∧ address < start + 1 + count) ↔
            (start ≤ address ∧ address < start + (count + 1)) := by omega
        simp only [same, kept]

end

section

variable {prom created : UserProm} {tmb : Tmb} {which : ChipLocation} {data : List Nat}
  {timeinfo : TimeInfo}

lemma wholeImage_bytes (bytes : ∀ word ∈ data, word ≤ 0xff)
    (room : overhead which + data.length ≤ totalNumberOfAddresses) (alctType) :
    ∀ word ∈ wholeImage which alctType timeinfo data, word ≤ 0xff := by
  have long : totalNumberOfAddresses = 32768 := rfl
  have summed : ∀ words, byteSum words ≤ 0xff := fun words => by rw [byteSum]; omega
  have marked : ∀ value, 0xC0 ||| (value &&& 0xf) ≤ 0xff := fun value => by
    rw [← marked_promWord]
    exact promWord_le _
  cases which with
  | tmbUserPromTMB =>
    have around : overhead .tmbUserPromTMB = 24 := rfl
    have headed : ∀ word ∈ tmbHeader (24 + data.length) timeinfo, word ≤ 0xff := by
      simp [tmbHeader, tmbDate, tmbVersion, inHex_le]
      omega
    have ended : ∀ word ∈ tmbEndOfData, word ≤ 0xff := by decide
    simp only [wholeImage, tmbWhole, tmbChecked, forall_mem_append]
    exact ⟨⟨⟨headed, bytes⟩, ended⟩, by simp [summed]⟩
  | tmbUserPromALCT =>
    have headed : ∀ word ∈ (alctHeader alctType timeinfo).map promWord, word ≤ 0xff := by
      intro word member
      obtain ⟨value, _, rfl⟩ := mem_map.mp member
      exact promWord_le value
    have ended : ∀ word ∈ alctEndOfData, word ≤ 0xff := by decide
    simp only [wholeImage, alctWhole, alctChecked, alctEnded, forall_mem_append]
    exact ⟨⟨⟨⟨⟨headed, bytes⟩, ended⟩, by simp [alctWordCount, marked]⟩,
      by simp [alctCheckSum, marked]⟩, by simp⟩
  | tmbUserPromTMBClear | tmbUserPromALCTClear | other => exact bytes

lemma wholeImage_pos (selected : dataToProm tmb which = some data) :
    0 < overhead which + data.length := by
  cases which with
  | tmbUserPromTMB => exact Nat.lt_of_lt_of_le (by decide) (Nat.le_add_right 24 data.length)
  | tmbUserPromALCT => exact Nat.lt_of_lt_of_le (by decide) (Nat.le_add_right 26 data.length)
  | tmbUserPromTMBClear | tmbUserPromALCTClear =>
    cases selected
    decide
  | other => cases selected

structure Created (prom : UserProm) (words : List Nat) (created : UserProm) : Prop where
  filled : created.writeAsciiPromImage = (Filling.of prom.writeAsciiPromImage words).image
  counted : created.promImageWordCount = words.length
  sameIo : created.fileIo = prom.fileIo
  onDisk : prom.fileIo = true → created.file = some (unlines ((List.range words.length).map
    fun index => promLine index (created.writeAsciiPromImage index)))

lemma createUserPromFile_created (selected : dataToProm tmb prom.whichUserProm = some data)
    (room : overhead prom.whichUserProm + data.length ≤ totalNumberOfAddresses) :
    ∃ created, createUserPromFile prom tmb timeinfo = some created ∧
      Created prom (wholeImage prom.whichUserProm prom.alctTypeForProm timeinfo data) created := by
  have fits : ¬ totalNumberOfAddresses < data.length := by omega
  have inserted := @insertHeaderAndTrailer_eq data timeinfo
    { prom with dataWordCount := data.length } rfl (dataToProm_bytes selected) room
  have long := @wholeImage_length prom.whichUserProm data timeinfo prom.alctTypeForProm
  simp only [createUserPromFile, selected, if_neg fits, inserted]
  by_cases io : prom.fileIo = true
  · refine ⟨_, congrArg some (if_pos io), rfl, long.symm, rfl, fun _ => ?_⟩
    rw [long]
    rfl
  · exact ⟨_, congrArg some (if_neg io), rfl, long.symm, rfl, fun disk => absurd disk io⟩

lemma readUserPromFile_created {words} (made : Created prom words created)
    (bytes : ∀ word ∈ words, word ≤ 0xff) (positive : 0 < words.length)
    (inside : words.length ≤ totalNumberOfAddresses) (unset) :
    ∃ back, readUserPromFile created unset = some (back, true) ∧
      back.promImageWordCount = created.promImageWordCount ∧
      ∀ address < totalNumberOfAddresses, back.readAsciiPromImage address =
        if prom.fileIo = true ∧ address + 1 = created.promImageWordCount then
          unset.imageValue created.promImageWordCount
        else (created.writeAsciiPromImage address : Int) := by
  have beyond : ∀ address < totalNumberOfAddresses, words.length ≤ address →
      created.writeAsciiPromImage address = 0xff := by
    intro address room after
    rw [made.filled, of_apply, if_pos room, getD_eq_default _ _ after]
  have stored : ∀ index < words.length, created.writeAsciiPromImage index < 0x100 := by
    intro index before
    have byte := bytes words[index] (getElem_mem before)
    rw [made.filled, of_apply, if_pos (by omega), getD_eq_getElem _ _ before]
    omega
  by_cases io : prom.fileIo = true
  · have text := made.onDisk io
    have lines : getlines (unlines ((List.range words.length).map fun index =>
        promLine index (created.writeAsciiPromImage index))) =
          ((range' 0 words.length).map fun index =>
            promLine index (created.writeAsciiPromImage index)) ++ [[]] := by
      rw [getlines_unlines, range_eq_range']
      intro line member
      obtain ⟨index, _, rfl⟩ := mem_map.mp member
      exact promLine_whole index _
    obtain ⟨read, reading, last, image⟩ := @readLines_written unset.imageValue
      created.writeAsciiPromImage words.length 0 0
      ⟨clearedReadImage created.readAsciiPromImage, unset.indexValue⟩
      (fun index before => stored index (by omega)) (by omega)
    rw [if_neg (by omega), Nat.zero_add] at last
    have unread : extractLine [] read.indexValue (unset.imageValue words.length) =
        (((words.length - 1 : Nat) : Int), unset.imageValue words.length) := by
      rw [extractLine_nil, last]
    have ending := readLine_at unread (by omega : words.length - 1 < totalNumberOfAddresses)
    have whole : readLines unset.imageValue 0 (getlines (unlines ((List.range words.length).map
        fun index => promLine index (created.writeAsciiPromImage index))))
          ⟨clearedReadImage created.readAsciiPromImage, unset.indexValue⟩ =
        some ⟨update read.image (words.length - 1) (unset.imageValue words.length),
          ((words.length - 1 : Nat) : Int)⟩ := by
      have passed : 0 + ((range' 0 words.length).map fun index =>
          promLine index (created.writeAsciiPromImage index)).length = words.length := by simp
      rw [lines, readLines_append, reading, bind_some, passed, readLines, ending]
      rfl
    rw [readUserPromFile, if_pos (made.sameIo.trans io), text]
    refine ⟨_, congrArg (Option.map _) whole, ?_, fun address room => ?_⟩
    · show (((words.length - 1 : Nat) : Int) + 1).toNat = created.promImageWordCount
      rw [made.counted]
      omega
    · show update read.image (words.length - 1) (unset.imageValue words.length) address = _
      rw [made.counted]
      by_cases final : address + 1 = words.length
      · rw [if_pos ⟨io, final⟩, ← final, Nat.add_sub_cancel, update_self]
      · rw [if_neg fun both => final both.2, update_of_ne (by omega), image address]
        by_cases before : address < words.length
        · rw [if_pos (by omega)]
        · rw [if_neg (by omega), beyond address room (by omega)]
          exact if_pos room
  · have internal : ¬ created.fileIo = true := by rwa [made.sameIo]
    rw [readUserPromFile, if_neg internal]
    refine ⟨_, rfl, rfl, fun address room => ?_⟩
    rw [if_neg fun both => io both.1]
    show (if address < created.promImageWordCount then (created.writeAsciiPromImage address : Int)
      else clearedReadImage created.readAsciiPromImage address) = _
    rw [made.counted]
    split
    · rfl
    · rw [beyond address room (by omega)]
      exact if_pos room

end

theorem UserProm.created_image (prom : UserProm) (tmb : Tmb) (timeinfo : TimeInfo) (unset : Unset)
    (data : List Nat) (selected : dataToProm tmb prom.whichUserProm = some data)
    (room : overhead prom.whichUserProm + data.length ≤ totalNumberOfAddresses) :
    ∃ created, createUserPromFile prom tmb timeinfo = some created ∧
      (prom.whichUserProm = .tmbUserPromTMB → TmbImage timeinfo data created.image) ∧
      (prom.whichUserProm = .tmbUserPromALCT →
        AlctImage prom.alctTypeForProm timeinfo data created.image) ∧
      (overhead prom.whichUserProm = 0 → created.image = data) ∧
      (∀ address < totalNumberOfAddresses, created.image.length ≤ address →
        created.writeAsciiPromImage address = 0xff) ∧
      ∃ back, readUserPromFile created unset = some (back, true) ∧
        back.promImageWordCount = created.promImageWordCount ∧
        ∀ address < totalNumberOfAddresses,
          (prom.fileIo = true → address + 1 ≠ created.promImageWordCount) →
            back.readAsciiPromImage address = (created.writeAsciiPromImage address : Int) := by
  obtain ⟨created, creation, made⟩ := @createUserPromFile_created prom tmb data timeinfo selected room
  have long := @wholeImage_length prom.whichUserProm data timeinfo prom.alctTypeForProm
  have inside := Nat.le_trans (Nat.le_of_eq long) room
  have image := image_of made.filled made.counted inside
  have bytes := @wholeImage_bytes prom.whichUserProm data timeinfo (dataToProm_bytes selected)
    room prom.alctTypeForProm
  have positive := Nat.lt_of_lt_of_eq (wholeImage_pos selected) long.symm
  refine ⟨created, creation, ?_, ?_, ?_, ?_, ?_⟩
  · intro which
    rw [image, which]
    exact tmbWhole_image (which ▸ room)
  · intro which
    rw [image, which]
    exact alctWhole_image (which ▸ room)
  · intro bare
    rw [image]
    cases which : prom.whichUserProm with
    | tmbUserPromTMB => rw [which] at bare; cases bare
    | tmbUserPromALCT => rw [which] at bare; cases bare
    | tmbUserPromTMBClear | tmbUserPromALCTClear | other => rfl
  · intro address room after
    rw [image] at after
    rw [made.filled, of_apply, if_pos room, getD_eq_default _ _ after]
  · obtain ⟨back, read, counted, same⟩ := readUserPromFile_created made bytes positive inside unset
    refine ⟨back, read, counted, fun address room other => ?_⟩
    rw [same address room, if_neg fun both => other both.1 both.2]

def UserProm.unwritten (which : ChipLocation) (fileIo : Bool) : UserProm where
  whichUserProm := which
  alctTypeForProm := 288
  fileIo := fileIo
  writeAsciiPromImage := fun _ => 0
  readAsciiPromImage := fun _ => 0
  dataWordCount := 0
  promImageWordCount := 0
  file := none

theorem UserProm.created_image_oneWrite :
    ∃ created, createUserPromFile (.unwritten .tmbUserPromTMB true)
        ⟨WriteVectors.cleared.pushBack 0x24 0x1234, .cleared⟩ ⟨3, 4, 2010⟩ = some created ∧
      TmbImage ⟨3, 4, 2010⟩ [0x24, 0, 0, 0x34, 0x12] created.image ∧
      ∃ back, readUserPromFile created ⟨0, fun _ => 0⟩ = some (back, true) ∧
        back.promImageWordCount = created.promImageWordCount := by
  obtain ⟨created, creation, laidOut, _, _, _, back, read, counted, _⟩ :=
    UserProm.created_image (.unwritten .tmbUserPromTMB true)
      ⟨WriteVectors.cleared.pushBack 0x24 0x1234, .cleared⟩ ⟨3, 4, 2010⟩ ⟨0, fun _ => 0⟩
      [0x24, 0, 0, 0x34, 0x12] rfl (by decide)
  exact ⟨created, creation, laidOut rfl, back, read, counted⟩

/-- The header of the ALCT is the same whatever comes after it, and no single word of its trailer is
the sum of the words before. -/
theorem alct_header_uncounted :
    ∃ one two,
      createUserPromFile (.unwritten .tmbUserPromALCT false)
        ⟨.cleared, WriteVectors.cleared.pushBack 0x24 0x12⟩ ⟨3, 4, 2010⟩ = some one ∧
      createUserPromFile (.unwritten .tmbUserPromALCT false)
        ⟨.cleared, (WriteVectors.cleared.pushBack 0x24 0x12).pushBack 0x24 0x34⟩ ⟨3, 4, 2010⟩ =
          some two ∧
      one.image.take 16 = two.image.take 16 ∧ one.image.length ≠ two.image.length ∧
      ∀ index < one.image.length, 17 ≤ index →
        one.image.getD index 0 ≠ byteSum (one.image.take index) := by
  obtain ⟨one, first, made⟩ := @createUserPromFile_created (.unwritten .tmbUserPromALCT false)
    ⟨.cleared, WriteVectors.cleared.pushBack 0x24 0x12⟩ [0x12] ⟨3, 4, 2010⟩ rfl (by decide)
  obtain ⟨two, second, also⟩ := @createUserPromFile_created (.unwritten .tmbUserPromALCT false)
    ⟨.cleared, (WriteVectors.cleared.pushBack 0x24 0x12).pushBack 0x24 0x34⟩ [0x12, 0x34]
    ⟨3, 4, 2010⟩ rfl (by decide)
  have shorter := image_of made.filled made.counted (by decide)
  have longer := image_of also.filled also.counted (by decide)
  refine ⟨one, two, first, second, ?_⟩
  rw [shorter, longer]
  decide +kernel

end EmuLib.Jtag
