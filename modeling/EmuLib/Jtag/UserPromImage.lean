import EmuLib.Jtag.UserProm

/-!
The layout of the user prom images, and what is read back of them.
-/

namespace EmuLib.Jtag

open TextStream List

/-- What `SetUserPromImage_` makes of a value where the image was cleared before. -/
def promWord (value : Nat) : Nat := if 0xff < value then 0xff else value

def Filling.of (old : Nat → Nat) (words : List Nat) : Filling where
  image := fun address =>
    if address < totalNumberOfAddresses then words.getD address 0xff else old address
  addressCounter := words.length

section

variable {old : Nat → Nat} {words : List Nat}

lemma promWord_eq {value} (byte : value ≤ 0xff) : promWord value = value :=
  if_neg (Nat.not_lt.mpr byte)

lemma promWord_le (value) : promWord value ≤ 0xff := by
  unfold promWord
  split
  · exact Nat.le_refl 0xff
  · omega

lemma map_promWord {values : List Nat} (bytes : ∀ value ∈ values, value ≤ 0xff) :
    values.map promWord = values := by
  induction values with
  | nil => rfl
  | cons value rest ih =>
    rw [map_cons, promWord_eq (bytes value mem_cons_self),
      ih fun other member => bytes other (mem_cons_of_mem value member)]

lemma setUserPromImage_self {address} (room : address < totalNumberOfAddresses) (image value) :
    setUserPromImage image address value address =
      if 0xff < value then image address else value := by
  rw [setUserPromImage, if_neg (Nat.not_le.mpr room)]
  split
  · rfl
  · rw [Function.update_self, and_byte]
    omega

lemma setUserPromImage_ne {address other} (different : other ≠ address) (image value) :
    setUserPromImage image address value other = image other:= by
  unfold setUserPromImage
  split
  · rfl
  · split
    · rfl
    · exact Function.update_of_ne different _ _

lemma cleared_upTo (count) (inside : count ≤ totalNumberOfAddresses) :
    (List.range count).foldl (fun image address => setUserPromImage image address 0xff) old =
      fun address => if address < count then 0xff else old address := by
  induction count with
  | zero => rfl
  | succ count ih =>
    rw [range_succ, foldl_append, ih (by omega), foldl_cons, foldl_nil]
    funext address
    by_cases last : address = count
    · subst last
      rw [setUserPromImage_self inside, if_neg (Nat.lt_irrefl _), if_pos (Nat.lt_succ_self _)]
    · have same : address < count + 1 ↔ address < count := by omega
      simp only [setUserPromImage_ne last, same]

lemma clearedImage_eq : (⟨clearedImage old, 0⟩ : Filling) = Filling.of old [] := by
  rw [clearedImage, cleared_upTo totalNumberOfAddresses (Nat.le_refl _)]
  rfl

lemma of_apply (address) : (Filling.of old words).image address =
    if address < totalNumberOfAddresses then words.getD address 0xff else old address := rfl

lemma getD_snoc_cleared (words value address) :
    (words ++ [value]).getD address 0xff =
      if address = words.length then value else words.getD address 0xff := by
  rcases Nat.lt_trichotomy address words.length with before | rfl | after
  · rw [getD_append _ _ _ _ before, if_neg (Nat.ne_of_lt before)]
  · rw [getD_append_right _ _ _ _ (Nat.le_refl _), Nat.sub_self, if_pos rfl]
    rfl
  · have beyond : (words ++ [value]).length ≤ address := by
      rw [length_append]
      exact after
    rw [getD_eq_default _ _ beyond, getD_eq_default _ _ (Nat.le_of_lt after),
      if_neg (Nat.ne_of_gt after)]

lemma set_of (room : words.length < totalNumberOfAddresses) (value) :
    (Filling.of old words).set value = Filling.of old (words ++ [promWord value]) := by
  have filled : ∀ address,
      setUserPromImage (Filling.of old words).image words.length value address =
        (Filling.of old (words ++ [promWord value])).image address := by
    intro address
    rw [of_apply, getD_snoc_cleared]
    by_cases next : address = words.length
    · subst next
      rw [setUserPromImage_self room, of_apply, if_pos room, if_pos room, if_pos rfl,
        getD_eq_default _ _ (Nat.le_refl _)]
      rfl
    · rw [setUserPromImage_ne next, of_apply, if_neg next]
  rw [Filling.set, show (Filling.of old words).addressCounter = words.length from rfl,
    funext filled]
  simp [Filling.of]

lemma skip_of : (Filling.of old words).skip = Filling.of old (words ++ [0xff]) := by
  have filled : ∀ address, (Filling.of old words).image address =
      (Filling.of old (words ++ [0xff])).image address := by
    intro address
    rw [of_apply, of_apply, getD_snoc_cleared]
    by_cases next : address = words.length
    · rw [if_pos next, getD_eq_default _ _ (Nat.le_of_eq next.symm)]
    · rw [if_neg next]
  rw [Filling.skip, funext filled]
  simp [Filling.of]

lemma setAll_of {values} (room : words.length + values.length ≤ totalNumberOfAddresses) :
    (Filling.of old words).setAll values = Filling.of old (words ++ values.map promWord) := by
  induction values generalizing words with
  | nil => rw [map_nil, append_nil]; rfl
  | cons value rest ih =>
    rw [length_cons] at room
    have longer : (words ++ [promWord value]).length + rest.length ≤ totalNumberOfAddresses := by
      rw [length_append, length_singleton]
      omega
    have first := @set_of old words (by omega) value
    calc
      (Filling.of old words).setAll (value :: rest)
        = ((Filling.of old words).set value).setAll rest := rfl
      _ = Filling.of old (words ++ [promWord value] ++ rest.map promWord) := by
        rw [first, ih longer]
      _ = Filling.of old (words ++ (value :: rest).map promWord) := by
        rw [append_assoc, map_cons, singleton_append]

lemma setUserPromImage_of {index value} (there : index < words.length)
    (inside : words.length ≤ totalNumberOfAddresses) (byte : value ≤ 0xff) :
    setUserPromImage (Filling.of old words).image index value =
      (Filling.of old (words.set index value)).image := by
  have room : index < totalNumberOfAddresses := by omega
  funext address
  by_cases here : address = index
  · subst here
    rw [setUserPromImage_self room, if_neg (Nat.not_lt.mpr byte), of_apply, if_pos room,
      getD_eq_getElem _ _ (by rwa [length_set]), getElem_set_self]
  · rw [setUserPromImage_ne here, of_apply, of_apply, getD_eq_getElem?_getD,
      getD_eq_getElem?_getD, getElem?_set_ne (Ne.symm here)]

end

def byteSum (words : List Nat) : Nat := words.sum % 256

lemma checkSum_fold (image) (addresses : List Nat) {sum} (byte : sum < 256) :
    addresses.foldl (fun checkSum address => (checkSum + image address) &&& 0xff) sum =
      (sum + (addresses.map image).sum) % 256 := by
  induction addresses generalizing sum with
  | nil => simp [Nat.mod_eq_of_lt byte]
  | cons address rest ih =>
    rw [foldl_cons, and_byte, ih (Nat.mod_lt _ (by decide)), map_cons, sum_cons]
    omega

lemma computeCheckSum_of {old words endAddress} (there : endAddress < words.length)
    (inside : words.length ≤ totalNumberOfAddresses) :
    computeCheckSum (Filling.of old words).image 0 endAddress =
      byteSum (words.take (endAddress + 1)) := by
  have taken : (range' 0 (endAddress + 1)).map (Filling.of old words).image =
      words.take (endAddress + 1) := by
    apply ext_getElem
    · simp only [length_map, length_range', length_take]
      omega
    · intro index within _
      simp only [length_map, length_range'] at within
      have room : index < totalNumberOfAddresses := by omega
      have found : index < words.length := by omega
      simp [Filling.of, room, found]
  rw [computeCheckSum, checkSum_fold _ _ (by decide), Nat.sub_zero, taken, Nat.zero_add]
  rfl

section

def tmbHeader (wordCount : Nat) (timeinfo : TimeInfo) : List Nat :=
  [0xBC, wordCount % 256, wordCount / 256] ++ tmbDate timeinfo ++ tmbVersion

/-- An image for the state machine of the TMB. The word count in the header is the one of the whole
image. -/
structure TmbImage (timeinfo : TimeInfo) (data image : List Nat) : Prop where
  words : image = tmbHeader image.length timeinfo ++ data ++
    (tmbEndOfData ++ [byteSum (image.take (image.length - 2)), 0xFF])
  counted : image.getD 1 0 + 256 * image.getD 2 0 = image.length

def nibbles (words : List Nat) : Nat := ofDigits (words.map (· % 16))

/-- An image for the JTAG state machine. The word count is the one of what comes before it, which
ends with the end of data marker. -/
structure AlctImage (alctType : Nat) (timeinfo : TimeInfo) (data image : List Nat) : Prop where
  words : image = (alctHeader alctType timeinfo).map promWord ++ data ++
    (alctEndOfData ++ alctWordCount (image.length - 7) ++
      alctCheckSum (byteSum (image.take (image.length - 3))) ++ [0xFF])
  counted : nibbles ((image.drop (image.length - 7)).take 4) = image.length - 7
  checked : nibbles ((image.drop (image.length - 3)).take 2) =
    byteSum (image.take (image.length - 3))

def overhead : ChipLocation → Nat
  | .tmbUserPromTMB => 24
  | .tmbUserPromALCT => 26
  | _ => 0

def UserProm.image (prom : UserProm) : List Nat :=
  (List.range prom.promImageWordCount).map prom.writeAsciiPromImage

variable {old : Nat → Nat} {timeinfo : TimeInfo} {data : List Nat}

lemma inHex_le (tens ones) : inHex tens ones ≤ 0xff := by
  have digits : ∀ high < 16, ∀ low < 16, (high <<< 4) ||| low ≤ 0xff := by decide
  rw [inHex, and_nibble, and_nibble]
  exact digits _ (Nat.mod_lt _ (by decide)) _ (Nat.mod_lt _ (by decide))

lemma tmbDate_promWord (timeinfo) : (tmbDate timeinfo).map promWord = tmbDate timeinfo := by
  apply map_promWord
  simp [tmbDate, inHex_le]

lemma nibble_marked : ∀ mark ∈ [0xC0], ∀ digit < 16,
    promWord (mark ||| digit) = (mark ||| digit) ∧ (mark ||| digit) % 16 = digit := by decide

lemma marked_promWord (value) : promWord (0xC0 ||| (value &&& 0xf)) = 0xC0 ||| (value &&& 0xf) :=
    by
  rw [and_nibble]
  exact (nibble_marked 0xC0 (by decide) _ (Nat.mod_lt _ (by decide))).1

lemma marked_mod (value) : (0xC0 ||| (value &&& 0xf)) % 16 = value % 16 := by
  rw [and_nibble]
  exact (nibble_marked 0xC0 (by decide) _ (Nat.mod_lt _ (by decide))).2

lemma alctWordCount_promWord (wordCount) :
    (alctWordCount wordCount).map promWord = alctWordCount wordCount := by
  simp only [alctWordCount, map_cons, map_nil, marked_promWord]

lemma alctCheckSum_promWord (checkSum) :
    (alctCheckSum checkSum).map promWord = alctCheckSum checkSum := by
  simp only [alctCheckSum, map_cons, map_nil, marked_promWord]

lemma nibbles_wordCount {wordCount} (small : wordCount < 0x10000) :
    nibbles (alctWordCount wordCount) = wordCount := by
  simp only [nibbles, alctWordCount, map_cons, map_nil, marked_mod, ofDigits,
    foldl_cons, foldl_nil, Nat.shiftRight_eq_div_pow]
  omega

lemma nibbles_checkSum {checkSum} (small : checkSum < 0x100) :
    nibbles (alctCheckSum checkSum) = checkSum := by
  simp only [nibbles, alctCheckSum, map_cons, map_nil, marked_mod, ofDigits,
    foldl_cons, foldl_nil, Nat.shiftRight_eq_div_pow]
  omega

lemma image_of {prom : UserProm} {words}
    (filled : prom.writeAsciiPromImage = (Filling.of old words).image)
    (counted : prom.promImageWordCount = words.length)
    (inside : words.length ≤ totalNumberOfAddresses) : prom.image = words := by
  rw [UserProm.image, filled, counted]
  apply ext_getElem
  · simp
  · intro index within _
    simp only [length_map, length_range] at within
    have room : index < totalNumberOfAddresses := by omega
    simp [of_apply, room, within]

end

section

variable {old : Nat → Nat} {timeinfo : TimeInfo} {data : List Nat}

def tmbChecked (timeinfo : TimeInfo) (data : List Nat) : List Nat :=
  tmbHeader (24 + data.length) timeinfo ++ data ++ tmbEndOfData

def tmbWhole (timeinfo : TimeInfo) (data : List Nat) : List Nat :=
  tmbChecked timeinfo data ++ [byteSum (tmbChecked timeinfo data), 0xFF]

lemma tmbChecked_length : (tmbChecked timeinfo data).length = 22 + data.length := by
  simp [tmbChecked, tmbHeader, tmbDate, tmbVersion, tmbEndOfData]
  omega

lemma tmbWhole_length : (tmbWhole timeinfo data).length = 24 + data.length := by
  simp [tmbWhole, tmbChecked_length]
  omega

lemma tmbWhole_image (room : overhead .tmbUserPromTMB + data.length ≤ totalNumberOfAddresses) :
    TmbImage timeinfo data (tmbWhole timeinfo data) := by
  have long : totalNumberOfAddresses = 32768 := rfl
  have around : overhead .tmbUserPromTMB = 24 := rfl
  have before : (tmbWhole timeinfo data).take ((tmbWhole timeinfo data).length - 2) =
      tmbChecked timeinfo data := by
    rw [tmbWhole_length]
    exact take_left' (by rw [tmbChecked_length]; omega)
  constructor
  · rw [before, tmbWhole_length, tmbWhole]
    simp only [tmbChecked, append_assoc]
  · rw [tmbWhole_length]
    exact Nat.mod_add_div _ 256

lemma tmb_trailed (room : overhead .tmbUserPromTMB + data.length ≤ totalNumberOfAddresses)
    (bytes : ∀ word ∈ data, word ≤ 0xff) (alctType) :
    trailer .tmbUserPromTMB ((header .tmbUserPromTMB alctType timeinfo
        ⟨clearedImage old, 0⟩).setAll data) =
      Filling.of old ([0xBC, 0xff, 0xff] ++ tmbDate timeinfo ++ tmbVersion ++ data ++
        tmbEndOfData ++ [0xff] ++ [0xff]) := by
  have long : totalNumberOfAddresses = 32768 := rfl
  have around : overhead .tmbUserPromTMB = 24 := rfl
  have dated : (tmbDate timeinfo).length = 4 := rfl
  have version : tmbVersion.length = 9 := rfl
  have ended : tmbEndOfData.length = 6 := rfl
  rw [clearedImage_eq]
  simp only [header, trailer]
  rw [set_of (by decide), skip_of, skip_of, setAll_of (by simp [dated, long]),
    setAll_of (by simp [dated, version, long]), setAll_of (by simp [dated, version]; omega),
    setAll_of (by simp [dated, version, ended]; omega), skip_of,
    set_of (by simp [dated, version, ended]; omega), tmbDate_promWord, map_promWord bytes]
  rfl

lemma tmb_completed (room : overhead .tmbUserPromTMB + data.length ≤ totalNumberOfAddresses) :
    complete .tmbUserPromTMB (Filling.of old ([0xBC, 0xff, 0xff] ++ tmbDate timeinfo ++
        tmbVersion ++ data ++ tmbEndOfData ++ [0xff] ++ [0xff])).image (24 + data.length) =
      (Filling.of old (tmbWhole timeinfo data)).image := by
  have long : totalNumberOfAddresses = 32768 := rfl
  have around : overhead .tmbUserPromTMB = 24 := rfl
  have dated : (tmbDate timeinfo).length = 4 := rfl
  have version : tmbVersion.length = 9 := rfl
  have ended : tmbEndOfData.length = 6 := rfl
  have checked : (tmbChecked timeinfo data).length = 22 + data.length := tmbChecked_length
  have low : ((24 + data.length) >>> 0) &&& 0xff = (24 + data.length) % 256 := and_byte _
  have high : ((24 + data.length) >>> 8) &&& 0xff = (24 + data.length) / 256 := by
    rw [and_byte]
    omega
  have counted : (([0xBC, 0xff, 0xff] ++ tmbDate timeinfo ++ tmbVersion ++ data ++ tmbEndOfData ++
        [0xff] ++ [0xff]).set 1 ((24 + data.length) % 256)).set 2 ((24 + data.length) / 256) =
      tmbChecked timeinfo data ++ [0xff, 0xff] := by
    rw [append_assoc _ [0xff] [0xff]]
    rfl
  have summed : (tmbChecked timeinfo data ++ [0xff, 0xff]).take (24 + data.length - 3 + 1) =
      tmbChecked timeinfo data := take_left' (by omega)
  have stored : (tmbChecked timeinfo data ++ [0xff, 0xff]).set (24 + data.length - 2)
      (byteSum (tmbChecked timeinfo data)) = tmbWhole timeinfo data := by
    rw [set_append_right _ _ (by omega),
      (by omega : 24 + data.length - 2 - (tmbChecked timeinfo data).length = 0)]
    rfl
  simp only [complete]
  rw [setUserPromImage_of (by simp [dated]) (by simp [dated, version, ended]; omega)
      (and_byte_le _), low,
    setUserPromImage_of (by simp [dated]) (by simp [dated, version, ended]; omega)
      (and_byte_le _), high, counted,
    computeCheckSum_of (by simp [checked]; omega) (by simp [checked]; omega), summed,
    setUserPromImage_of (by simp [checked]; omega) (by simp [checked]; omega)
      (by rw [byteSum]; omega), stored]

def alctEnded (alctType : Nat) (timeinfo : TimeInfo) (data : List Nat) : List Nat :=
  (alctHeader alctType timeinfo).map promWord ++ data ++ alctEndOfData

def alctChecked (alctType : Nat) (timeinfo : TimeInfo) (data : List Nat) : List Nat :=
  alctEnded alctType timeinfo data ++ alctWordCount (19 + data.length)

def alctWhole (alctType : Nat) (timeinfo : TimeInfo) (data : List Nat) : List Nat :=
  alctChecked alctType timeinfo data ++
    alctCheckSum (byteSum (alctChecked alctType timeinfo data)) ++ [0xFF]

variable {alctType : Nat}

lemma alctEnded_length : (alctEnded alctType timeinfo data).length = 19 + data.length := by
  simp [alctEnded, alctHeader, alctEndOfData]
  omega

lemma alctChecked_length : (alctChecked alctType timeinfo data).length = 23 + data.length := by
  simp [alctChecked, alctEnded_length, alctWordCount]
  omega

lemma alctWhole_length : (alctWhole alctType timeinfo data).length = 26 + data.length := by
  simp [alctWhole, alctChecked_length, alctCheckSum]
  omega

lemma alctWhole_image (room : overhead .tmbUserPromALCT + data.length ≤ totalNumberOfAddresses) :
    AlctImage alctType timeinfo data (alctWhole alctType timeinfo data) := by
  have long : totalNumberOfAddresses = 32768 := rfl
  have ended : (alctEnded alctType timeinfo data).length = 19 + data.length := alctEnded_length
  have checked : (alctChecked alctType timeinfo data).length = 23 + data.length := alctChecked_length
  have whole : (alctWhole alctType timeinfo data).length = 26 + data.length := alctWhole_length
  have before : (alctWhole alctType timeinfo data).take (26 + data.length - 3) =
      alctChecked alctType timeinfo data := by
    rw [alctWhole, append_assoc]
    exact take_left' (by omega)
  have after : (alctWhole alctType timeinfo data).drop (26 + data.length - 3) =
      alctCheckSum (byteSum (alctChecked alctType timeinfo data)) ++ [0xFF] := by
    rw [alctWhole, append_assoc]
    exact drop_left' (by omega)
  have fromCount : (alctWhole alctType timeinfo data).drop (26 + data.length - 7) =
      alctWordCount (19 + data.length) ++
        (alctCheckSum (byteSum (alctChecked alctType timeinfo data)) ++ [0xFF]) := by
    rw [alctWhole, alctChecked, append_assoc, append_assoc]
    exact drop_left' (by omega)
  have count : 26 + data.length - 7 = 19 + data.length := by omega
  constructor
  · rw [whole, before, count, alctWhole, alctChecked, alctEnded]
    simp only [append_assoc]
  · rw [whole, fromCount, take_left' (by rfl), nibbles_wordCount (by omega), count]
  · rw [whole, after, before, take_left' (by rfl), nibbles_checkSum (by rw [byteSum]; omega)]

lemma alct_trailed (room : overhead .tmbUserPromALCT + data.length ≤ totalNumberOfAddresses)
    (bytes : ∀ word ∈ data, word ≤ 0xff) :
    trailer .tmbUserPromALCT ((header .tmbUserPromALCT alctType timeinfo
        ⟨clearedImage old, 0⟩).setAll data) =
      Filling.of old (alctWhole alctType timeinfo data) := by
  have long : totalNumberOfAddresses = 32768 := rfl
  have around : overhead .tmbUserPromALCT = 26 := rfl
  have head : ((alctHeader alctType timeinfo).map promWord).length = 16 := rfl
  have ended : (alctEnded alctType timeinfo data).length = 19 + data.length := alctEnded_length
  have checked : (alctChecked alctType timeinfo data).length = 23 + data.length := alctChecked_length
  have headed : header .tmbUserPromALCT alctType timeinfo ⟨clearedImage old, 0⟩ =
      Filling.of old ((alctHeader alctType timeinfo).map promWord) := by
    rw [clearedImage_eq]
    exact setAll_of (by simp [alctHeader, long])
  have filled : (((Filling.of old ((alctHeader alctType timeinfo).map promWord)).setAll
      data).setAll alctEndOfData) = Filling.of old (alctEnded alctType timeinfo data) := by
    rw [setAll_of (by omega), setAll_of (by simp [alctHeader, alctEndOfData]; omega),
      map_promWord bytes]
    rfl
  have counted : (Filling.of old (alctEnded alctType timeinfo data)).setAll
      (alctWordCount (alctEnded alctType timeinfo data).length) =
        Filling.of old (alctChecked alctType timeinfo data) := by
    rw [setAll_of (by simp [alctWordCount]; omega), alctWordCount_promWord, ended]
    rfl
  have summed : computeCheckSum (Filling.of old (alctChecked alctType timeinfo data)).image 0
      ((alctChecked alctType timeinfo data).length - 1) =
        byteSum (alctChecked alctType timeinfo data) := by
    rw [computeCheckSum_of (by omega) (by omega), take_of_length_le (by omega)]
  simp only [trailer, headed, filled]
  rw [show (Filling.of old (alctEnded alctType timeinfo data)).addressCounter =
      (alctEnded alctType timeinfo data).length from rfl, counted,
    show (Filling.of old (alctChecked alctType timeinfo data)).addressCounter =
      (alctChecked alctType timeinfo data).length from rfl, summed,
    setAll_of (by simp [alctCheckSum]; omega), alctCheckSum_promWord,
    set_of (by simp [alctCheckSum]; omega)]
  rfl

end

variable {tmb : Tmb} {which : ChipLocation} {data : List Nat} {timeinfo : TimeInfo}

lemma tmbWords_bytes {addresses lsbs msbs} (lsbBytes : ∀ word ∈ lsbs, word ≤ 0xff)
    (msbBytes : ∀ word ∈ msbs, word ≤ 0xff) :
    ∀ word ∈ tmbWords addresses lsbs msbs, word ≤ 0xff := by
  induction addresses generalizing lsbs msbs with
  | nil => simp [tmbWords]
  | cons address rest ih =>
    match lsbs, msbs with
    | [], _ => simp [tmbWords]
    | _ :: _, [] => simp [tmbWords]
    | lsb :: lsbs, msb :: msbs =>
      have others := ih (fun word member => lsbBytes word (mem_cons_of_mem lsb member))
        (fun word member => msbBytes word (mem_cons_of_mem msb member))
      have lsbByte := lsbBytes lsb mem_cons_self
      have msbByte := msbBytes msb mem_cons_self
      intro word member
      rcases mem_append.mp member with first | later
      · simp only [mem_cons, not_mem_nil, or_false] at first
        rcases first with rfl | rfl | rfl | rfl | rfl
        · exact and_byte_le _
        · exact and_byte_le _
        · exact and_byte_le _
        · exact lsbByte
        · exact msbByte
      · exact others word later

lemma dataToProm_bytes (selected : dataToProm tmb which = some data) :
    ∀ word ∈ data, word ≤ 0xff := by
  cases which with
  | tmbUserPromTMB =>
    cases selected
    exact tmbWords_bytes tmb.tmbVec.lsbBytes tmb.tmbVec.msbBytes
  | tmbUserPromALCT =>
    cases selected
    intro word member
    obtain ⟨value, _, rfl⟩ := mem_map.mp member
    have small : value &&& 0x7f ≤ 0x7f := Nat.and_le_right
    exact Nat.le_trans small (by decide)
  | tmbUserPromTMBClear =>
    cases selected
    decide
  | tmbUserPromALCTClear =>
    cases selected
    decide
  | other => cases selected

def wholeImage (which : ChipLocation) (alctType : Nat) (timeinfo : TimeInfo) (data : List Nat) :
    List Nat :=
  match which with
  | .tmbUserPromTMB => tmbWhole timeinfo data
  | .tmbUserPromALCT => alctWhole alctType timeinfo data
  | _ => data

lemma wholeImage_length (alctType) :
    (wholeImage which alctType timeinfo data).length = overhead which + data.length := by
  cases which with
  | tmbUserPromTMB => exact tmbWhole_length
  | tmbUserPromALCT => exact alctWhole_length
  | tmbUserPromTMBClear => exact (Nat.zero_add _).symm
  | tmbUserPromALCTClear => exact (Nat.zero_add _).symm
  | other => exact (Nat.zero_add _).symm

lemma plain_trailed {old} (room : data.length ≤ totalNumberOfAddresses)
    (bytes : ∀ word ∈ data, word ≤ 0xff) :
    (⟨clearedImage old, 0⟩ : Filling).setAll data = Filling.of old data := by
  rw [clearedImage_eq, setAll_of (by rw [length_nil]; omega), map_promWord bytes,
    nil_append]

lemma insertHeaderAndTrailer_eq {prom} (counted : prom.dataWordCount = data.length)
    (bytes : ∀ word ∈ data, word ≤ 0xff)
    (room : overhead prom.whichUserProm + data.length ≤ totalNumberOfAddresses) :
    insertHeaderAndTrailer prom timeinfo data =
      { prom with
        writeAsciiPromImage := (Filling.of prom.writeAsciiPromImage
          (wholeImage prom.whichUserProm prom.alctTypeForProm timeinfo data)).image
        promImageWordCount := overhead prom.whichUserProm + data.length
        whichUserProm := promToProgram prom.whichUserProm } := by
  have all : data.take prom.dataWordCount = data := by rw [counted, take_length]
  cases which : prom.whichUserProm with
  | tmbUserPromTMB =>
    rw [which] at room
    have reached : (Filling.of prom.writeAsciiPromImage ([0xBC, 0xff, 0xff] ++ tmbDate timeinfo ++
        tmbVersion ++ data ++ tmbEndOfData ++ [0xff] ++ [0xff])).addressCounter =
          24 + data.length := by
      simp [Filling.of, tmbDate, tmbVersion, tmbEndOfData]
      omega
    simp only [insertHeaderAndTrailer, which, all, tmb_trailed room bytes, reached,
      tmb_completed room]
    rfl
  | tmbUserPromALCT =>
    rw [which] at room
    have reached : (Filling.of prom.writeAsciiPromImage
        (alctWhole prom.alctTypeForProm timeinfo data)).addressCounter = 26 + data.length :=
      alctWhole_length
    simp only [insertHeaderAndTrailer, which, all, alct_trailed room bytes, reached]
    rfl
  | tmbUserPromTMBClear | tmbUserPromALCTClear | other =>
    rw [which] at room
    have fits : data.length ≤ totalNumberOfAddresses := by simpa [overhead] using room
    have filled := @plain_trailed data prom.writeAsciiPromImage fits bytes
    simp only [insertHeaderAndTrailer, which, all, header, trailer, filled, overhead, Nat.zero_add]
    rfl

end EmuLib.Jtag
