import EmuLib.Fed.TransferWords
import EmuLib.Lib.GuardedRun

/-!
The registers of the FED boards: the serial path and the thresholds of a DDU, the FMM fields of a
DCC.
-/

namespace EmuLib.Fed

open GuardedRun WordBits

section

variable (board : VmeModule) (bus : Bus)

def shuffledWord (remainderBits : Nat) (word : UInt16) (next : Option UInt16) : UInt16 :=
  let newValue := UInt16.ofNat (word.toNat >>> (16 - remainderBits)) &&& lowBits remainderBits
  match next with
  | some next => newValue ||| UInt16.ofNat (next.toNat <<< remainderBits)
  | none => newValue &&& lowBits remainderBits

def shuffled (remainderBits : Nat) : List UInt16 → List UInt16
  | [] => []
  | word :: rest => shuffledWord remainderBits word rest.head? :: shuffled remainderBits rest

def unshuffle (nBits : UInt32) (tempResult : List UInt16) : List UInt16 :=
  if remainderOf nBits = 0 then tempResult else shuffled (remainderOf nBits) tempResult

/-- `readRegister` for `VMESERI`. -/
def readSerial (myRegister : UInt16) (nBits : UInt32) : Vme (List UInt16) :=
  let myDevice := (myRegister &&& 0xff).toUInt32
  let myChannel := ((myRegister &&& 0xff00) >>> 8).toUInt32
  let myBytes : UInt32 := if nBits = 0 then 0 else (nBits - 1) / 16 + 1
  unshuffle nBits <$> readCycle board bus (myDevice <<< 12 ||| myChannel <<< 2 ||| 0x40000)
    (myBytes * 16)

/-- The two words are put together with an `and`. -/
def readFlashInFIFOThresholds : Vme UInt32 :=
  (fun reg => (wordAt bus reg 0).toUInt32 &&& ((wordAt bus reg 1).toUInt32 <<< 16)) <$>
    readSerial board bus 0x0404 32

def readFlashGbEFIFOThresholds : Vme (List UInt16) := readSerial board bus 0x0504 34

def writeFlashInFIFOThresholds (values : UInt32) : List UInt16 :=
  [(values &&& 0xffff).toUInt16, ((values >>> 16) &&& 0xffff).toUInt16]

def writeFlashGbEFIFOThresholds (values : UInt64) : List UInt16 :=
  [(values &&& 0xffff).toUInt16, ((values >>> 16) &&& 0xffff).toUInt16,
    ((values >>> 32) &&& 0xffff).toUInt16]

def rawBit (state : VmeState) (place : Nat) : Bool :=
  (bus.data (state.calls + place / 16)).toNat.testBit (place % 16)

def serialBits (state : VmeState) (nBits : Nat) : List Bool :=
  (List.range nBits).map fun place => rawBit bus state (16 * ((nBits + 15) / 16) - nBits + place)

/-- The flash has kept the words, and shifts out so many bits of them. -/
def Presents (state : VmeState) (nBits : Nat) (words : List UInt16) : Prop :=
  ∀ place < nBits, rawBit bus state (16 * ((nBits + 15) / 16) - nBits + place) = bitOf words place

variable {board bus} {state : VmeState}

lemma bitOf_cons (word rest place) :
    bitOf (word :: rest) place =
      if place < 16 then word.toNat.testBit place else bitOf rest (place - 16) := by
  have joined : word :: rest = [word] ++ rest := rfl
  split
  · next low => rw [joined, bitOf_append_left (by exact low), bitOf_single]
  · next high =>
      obtain ⟨further, rfl⟩ := Nat.exists_eq_add_of_le (Nat.not_lt.1 high)
      rw [Nat.add_sub_cancel_left]
      exact bitOf_append_right [word] rest further

lemma shuffled_length (remainderBits raw) : (shuffled remainderBits raw).length = raw.length := by
  induction raw with
  | nil => rfl
  | cons word rest ih => rw [shuffled, List.length_cons, ih, List.length_cons]

lemma shuffledWord_bit {remainderBits} (few : remainderBits < 16) (word next) {place}
    (low : place < 16) :
    (shuffledWord remainderBits word next).toNat.testBit place =
      if place < remainderBits then word.toNat.testBit (place + (16 - remainderBits))
      else next.elim false fun next => next.toNat.testBit (place - remainderBits) := by
  have mask := lowBits_testBit (Nat.le_of_lt few) place
  cases next with
  | none =>
    rw [shuffledWord, UInt16.toNat_and, Nat.testBit_and, UInt16.toNat_and, Nat.testBit_and,
      shiftRight_testBit, mask]
    by_cases own : place < remainderBits
    · simp [own]
    · simp [own]
  | some next =>
    rw [shuffledWord, UInt16.toNat_or, Nat.testBit_or, UInt16.toNat_and, Nat.testBit_and,
      shiftRight_testBit, shiftLeft_testBit, mask]
    by_cases own : place < remainderBits
    · simp [own, Nat.not_le.2 own]
    · simp [own, low, Nat.not_lt.1 own]

lemma shuffled_bit {remainderBits} (few : remainderBits < 16) (raw place) :
    bitOf (shuffled remainderBits raw) place = bitOf raw (place + (16 - remainderBits)) := by
  induction raw generalizing place with
  | nil => rw [bitOf_beyond (Nat.zero_le _), bitOf_beyond (Nat.zero_le _)]
  | cons word rest ih =>
    rw [shuffled, bitOf_cons, bitOf_cons]
    by_cases low : place < 16
    · rw [if_pos low, shuffledWord_bit few word _ low]
      by_cases own : place < remainderBits
      · have here : place + (16 - remainderBits) < 16 := by omega
        rw [if_pos own, if_pos here]
      · have beyond : ¬ place + (16 - remainderBits) < 16 := by omega
        have shifted : place + (16 - remainderBits) - 16 = place - remainderBits := by omega
        rw [if_neg own, if_neg beyond, shifted]
        cases rest with
        | nil => exact (bitOf_beyond (Nat.zero_le _)).symm
        | cons next later =>
          rw [bitOf_cons, if_pos (Nat.lt_of_le_of_lt (Nat.sub_le _ _) low)]
          rfl
    · have beyond : ¬ place + (16 - remainderBits) < 16 := by omega
      rw [if_neg low, if_neg beyond, ih]
      congr 1
      omega

lemma performs_readCycle (answers : Answers board bus) (address nBits state) :
    Performs (readCycle board bus address nBits) state
      ((List.range (wordsFor nBits)).map fun iWord =>
        bus.data (state.calls + iWord) &&& bitMask nBits iWord)
      ((List.range (wordsFor nBits)).flatMap fun _ => [board.read address]) := by
  have performs : ∀ (result : List UInt16) (iWord : Nat) (later : VmeState),
      later.calls = state.calls + 1 * iWord →
      Performs (do
          let word ← readVME board bus address
          pure (result ++ [word &&& bitMask nBits iWord])) later
        (result ++ [bus.data (state.calls + iWord) &&& bitMask nBits iWord])
        [board.read address] := by
    intro result iWord later here
    have read := performs_readVME answers address later
    rw [here, Nat.one_mul] at read
    exact read.bind (performs_pure _ _)
  have words := @performs_foldlM_range _ _
    (fun result iWord => result ++ [bus.data (state.calls + iWord) &&& bitMask nBits iWord])
    (fun _ => [board.read address]) _ _ (fun _ => rfl) performs [] (wordsFor nBits) state.entered rfl
  have pushed : ∀ items : List Nat, items.foldl
      (fun result iWord => result ++ [bus.data (state.calls + iWord) &&& bitMask nBits iWord]) [] =
        items.map fun iWord => bus.data (state.calls + iWord) &&& bitMask nBits iWord := by
    intro items
    induction items using List.reverseRecOn with
    | nil => rfl
    | append_singleton earlier iWord ih => rw [List.foldl_append, ih, List.map_append]; rfl
  rw [pushed] at words
  exact performs_lockedWhole words

def rawWords (bus : Bus) (state : VmeState) (count : Nat) : List UInt16 :=
  (List.range count).map fun iWord => bus.data (state.calls + iWord)

lemma rawWords_bit (count place) :
    bitOf (rawWords bus state count) place =
      (decide (place < 16 * count) && rawBit bus state place) := by
  by_cases inside : place < 16 * count
  · have word : place / 16 < count := Nat.div_lt_of_lt_mul inside
    simp [bitOf, rawWords, rawBit, word, inside]
  · rw [bitOf_beyond (by simpa [rawWords] using inside)]
    simp [inside]

def served (nBits : Nat) : Nat := if nBits ≤ 4294967280 then (nBits + 15) / 16 else 0

def serialWords (bus : Bus) (state : VmeState) (nBits : UInt32) : List UInt16 :=
  unshuffle nBits (rawWords bus state (served nBits.toNat))

lemma performs_readSerial (answers : Answers board bus) (myRegister) {nBits}
    (some_ : 0 < nBits.toNat) (state) :
    ∃ cycles, Performs (readSerial board bus myRegister nBits) state (serialWords bus state nBits)
      cycles := by
  have positive : nBits ≠ 0 := by
    rintro rfl
    exact absurd some_ (Nat.lt_irrefl 0)
  have below := nBits.toNat_lt
  obtain ⟨count, whole⟩ : ∃ count : UInt32,
      (if nBits = 0 then 0 else (nBits - 1) / 16 + 1) * 16 = count := ⟨_, rfl⟩
  have number : count.toNat = 16 * ((nBits.toNat + 15) / 16) % 4294967296 := by
    have one : (1 : UInt32) ≤ nBits := UInt32.le_iff_toNat_le.2 some_
    rw [← whole, if_neg positive, UInt32.toNat_mul, UInt32.toNat_add, UInt32.toNat_div,
      UInt32.toNat_sub_of_le _ _ one]
    change ((nBits.toNat - 1) / 16 + 1) % 2 ^ 32 * 16 % 2 ^ 32 = _
    omega
  have even : remainderOf count = 0 := by
    rw [remainderOf]
    omega
  have many : wordsFor count = served nBits.toNat := by
    have zero : count = 0 ↔ count.toNat = 0 := UInt32.toNat_inj.symm
    rw [wordsFor, if_congr zero rfl rfl, served]
    split
    · split <;> omega
    · split <;> omega
  have unmasked : ∀ word : UInt16, word &&& 0xffff = word := by
    intro word
    refine word_ext fun bit inside => ?_
    rw [UInt16.toNat_and, Nat.testBit_and, show (0xffff : UInt16) = lowBits 16 from rfl,
      lowBits_testBit (Nat.le_refl 16), decide_eq_true inside, Bool.and_true]
  have read := performs_readCycle answers ((myRegister &&& 0xff).toUInt32 <<< 12 |||
    ((myRegister &&& 0xff00) >>> 8).toUInt32 <<< 2 ||| 0x40000) count state
  have words : (List.range (wordsFor count)).map (fun iWord =>
      bus.data (state.calls + iWord) &&& bitMask count iWord) =
        rawWords bus state (served nBits.toNat) := by
    rw [many]
    refine List.map_congr_left fun iWord _ => ?_
    rw [bitMask, if_neg (fun both => both.2 even), unmasked]
  rw [words] at read
  rw [readSerial, whole]
  exact ⟨_, read.map (unshuffle nBits)⟩

lemma serialWords_carries (nBits) :
    Carries (serialWords bus state nBits) (serialBits bus state nBits.toNat) ↔
      nBits.toNat ≤ 4294967280 := by
  have length : (serialWords bus state nBits).length = served nBits.toNat := by
    rw [serialWords, unshuffle]
    split
    · simp [rawWords]
    · simp [rawWords, shuffled_length]
  have needed : (serialBits bus state nBits.toNat).length = nBits.toNat := by simp [serialBits]
  constructor
  · intro carries
    by_contra many
    have count := carries.count
    rw [length, served, if_neg many] at count
    omega
  · intro few
    refine ⟨by rw [length, needed, served, if_pos few], fun place => ?_⟩
    have dropped : bitOf (serialWords bus state nBits) place =
        bitOf (rawWords bus state (served nBits.toNat))
          (16 * ((nBits.toNat + 15) / 16) - nBits.toNat + place) := by
      rw [serialWords, unshuffle]
      split
      · next whole =>
          rw [remainderOf] at whole
          congr 1
          omega
      · next rest =>
          have below : remainderOf nBits < 16 := Nat.mod_lt _ (by decide)
          rw [shuffled_bit below]
          rw [remainderOf] at rest ⊢
          congr 1
          omega
    rw [dropped, rawWords_bit, served, if_pos few]
    by_cases inside : place < nBits.toNat
    · have within : 16 * ((nBits.toNat + 15) / 16) - nBits.toNat + place <
          16 * ((nBits.toNat + 15) / 16) := by omega
      simp [serialBits, List.getD, inside, within]
    · have beyond : ¬ 16 * ((nBits.toNat + 15) / 16) - nBits.toNat + place <
          16 * ((nBits.toNat + 15) / 16) := by omega
      simp [serialBits, List.getD, inside, beyond]

end

section

inductive Field
  | TTS
  | SLinkA
  | SLinkB

namespace Field

def place : Field → Nat
  | TTS => 0
  | SLinkA => 5
  | SLinkB => 10

def mask : Field → BitVec 16
  | TTS => 0xffe0
  | SLinkA => 0xfe1f
  | SLinkB => 0x73ff

end Field

def readFMM (register : BitVec 16) (field : Field) : BitVec 16 :=
  (register >>> field.place) &&& 0x1f

def writeFMM (register : BitVec 16) (field : Field) (value : BitVec 16) : BitVec 16 :=
  (register &&& field.mask) ||| ((value &&& 0x1f) <<< field.place)

/-- The register, and its bits by what has been written last. -/
structure Fmm where
  register : BitVec 16
  expected : Nat → Bool

namespace Fmm

variable (fmm : Fmm) (call : Field × BitVec 16)

def start (register : BitVec 16) : Fmm := ⟨register, register.getLsbD⟩

def step : Fmm where
  register := writeFMM fmm.register call.1 call.2
  expected := fun bit =>
    if call.1.place ≤ bit ∧ bit < call.1.place + 5 then call.2.getLsbD (bit - call.1.place)
    else fmm.expected bit

/-- The fields are read as expected, and the bit that is in none of them is as it was. -/
structure Right : Prop where
  fields : ∀ field, ∀ bit < 5,
    (readFMM fmm.register field).getLsbD bit = fmm.expected (field.place + bit)
  low : ∀ field bit, 5 ≤ bit → (readFMM fmm.register field).getLsbD bit = false
  top : fmm.register.getLsbD 15 = fmm.expected 15

/-- Of the bits that are set, the mask clears none outside of the field, and those of the field that
it does not clear are set again. -/
def Spares : Prop :=
  ∀ bit < 16, fmm.register.getLsbD bit = true →
    if call.1.place ≤ bit ∧ bit < call.1.place + 5 then
      call.1.mask.getLsbD bit = true → call.2.getLsbD (bit - call.1.place) = true
    else call.1.mask.getLsbD bit = true

end Fmm

lemma low_bit (value : BitVec 16) (bit) :
    (value &&& 0x1f).getLsbD bit = (decide (bit < 5) && value.getLsbD bit) := by
  have ones : ∀ bit : Fin 16, (0x1f : BitVec 16).getLsbD bit = decide (bit.val < 5) := by decide
  rw [BitVec.getLsbD_and, Bool.and_comm]
  by_cases inside : bit < 16
  · rw [ones ⟨bit, inside⟩]
  · have beyond : 16 ≤ bit := Nat.not_lt.1 inside
    rw [BitVec.getLsbD_of_ge _ _ beyond, BitVec.getLsbD_of_ge _ _ beyond, Bool.and_false,
      Bool.and_false]

lemma right_iff (fmm : Fmm) :
    fmm.Right ↔ ∀ bit < 16, fmm.register.getLsbD bit = fmm.expected bit := by
  have field_bit : ∀ (field : Field) (bit : Nat), (readFMM fmm.register field).getLsbD bit =
      (decide (bit < 5) && fmm.register.getLsbD (field.place + bit)) := fun field bit => by
    rw [readFMM, low_bit, BitVec.getLsbD_ushiftRight]
  constructor
  · intro right bit inside
    have within : ∀ field : Field, field.place ≤ bit → bit < field.place + 5 →
        fmm.register.getLsbD bit = fmm.expected bit := by
      intro field behind before
      have low : bit - field.place < 5 := by omega
      have read := right.fields field (bit - field.place) low
      rwa [field_bit, decide_eq_true low, Nat.add_sub_cancel' behind] at read
    rcases Nat.lt_or_ge bit 5 with first | first
    · exact within .TTS (Nat.zero_le bit) (by rw [Field.place]; exact first)
    rcases Nat.lt_or_ge bit 10 with second | second
    · exact within .SLinkA first second
    rcases Nat.lt_or_ge bit 15 with third | third
    · exact within .SLinkB second third
    · rw [Nat.le_antisymm (Nat.le_of_lt_succ inside) third]
      exact right.top
  · intro same
    have small : ∀ field : Field, field.place ≤ 10 := fun field => by cases field <;> decide
    refine ⟨fun field bit low => ?_, fun field bit high => ?_, same 15 (by decide)⟩
    · have inside := small field
      rw [field_bit, decide_eq_true low, Bool.true_and, same _ (by omega)]
    · rw [field_bit, decide_eq_false (Nat.not_lt.2 high), Bool.false_and]

lemma written_bit (register value field) {bit} (inside : bit < 16) :
    (writeFMM register field value).getLsbD bit =
      (register.getLsbD bit && field.mask.getLsbD bit ||
        decide (field.place ≤ bit ∧ bit < field.place + 5) &&
          value.getLsbD (bit - field.place)) := by
  rw [writeFMM, BitVec.getLsbD_or, BitVec.getLsbD_shiftLeft, low_bit, decide_eq_true inside]
  by_cases before : bit < field.place
  · simp [before, Nat.not_le.2 before]
  · have low : bit - field.place < 5 ↔ bit < field.place + 5 := by omega
    simp [before, Nat.not_lt.1 before, low]

lemma step_right_iff (fmm : Fmm) (call) (right : fmm.Right) :
    (fmm.step call).Right ↔ fmm.Spares call := by
  have same := (right_iff fmm).1 right
  rw [right_iff]
  refine forall_congr' fun bit => forall_congr' fun inside => ?_
  rw [Fmm.step, written_bit _ _ _ inside]
  dsimp only
  rw [← same bit inside]
  by_cases within : call.1.place ≤ bit ∧ bit < call.1.place + 5
  · rw [if_pos within, if_pos within, decide_eq_true within]
    cases fmm.register.getLsbD bit <;> cases call.1.mask.getLsbD bit <;>
      cases call.2.getLsbD (bit - call.1.place) <;> simp
  · rw [if_neg within, if_neg within, decide_eq_false within]
    cases fmm.register.getLsbD bit <;> simp

end

variable {board : VmeModule} {bus : Bus}

lemma shifted_apart (first second : UInt16) :
    first.toUInt32 &&& (second.toUInt32 <<< 16) = 0 := by
  rw [← UInt32.toNat_inj, UInt32.toNat_and]
  refine Nat.eq_of_testBit_eq fun bit => ?_
  rw [Nat.testBit_and]
  change (first.toNat.testBit bit && ((second.toNat <<< 16) % 2 ^ 32).testBit bit) =
    (0 : Nat).testBit bit
  rw [Nat.zero_testBit, Nat.testBit_mod_two_pow]
  rcases Nat.lt_or_ge bit 16 with low | high
  · simp [Nat.not_le.2 low]
  · rw [testBit_beyond first high, Bool.false_and]

lemma inFIFO_read (answers : Answers board bus) (state values) :
    (∃ cycles, Performs (readFlashInFIFOThresholds board bus) state values cycles) ↔
      values = 0 := by
  obtain ⟨cycles, read⟩ := performs_readSerial answers 0x0404
    (show 0 < (32 : UInt32).toNat by decide) state
  have result := read.map fun reg =>
    (wordAt bus reg 0).toUInt32 &&& ((wordAt bus reg 1).toUInt32 <<< 16)
  rw [shifted_apart] at result
  constructor
  · rintro ⟨_, other⟩
    exact Except.ok.inj (other.returns.symm.trans result.returns)
  · rintro rfl
    exact ⟨_, result⟩

lemma gbE_bit (values) {place} (inside : place < 34) :
    bitOf (writeFlashGbEFIFOThresholds values) place = values.toNat.testBit place := by
  have word : ∀ shift bit, bit < 16 →
      (((values.toNat >>> shift) &&& 65535) % 65536).testBit bit =
        values.toNat.testBit (shift + bit) := by
    intro shift bit low
    rw [show 65536 = 2 ^ 16 from rfl, show 65535 = 2 ^ 16 - 1 from rfl, Nat.testBit_mod_two_pow,
      Nat.testBit_and, Nat.testBit_two_pow_sub_one, Nat.testBit_shiftRight, decide_eq_true low,
      Bool.true_and, Bool.and_true]
  rw [writeFlashGbEFIFOThresholds, bitOf_cons, bitOf_cons, bitOf_single]
  split
  · next low => exact (word 0 place low).trans (by rw [Nat.zero_add])
  · split
    · next low => exact (word 16 _ low).trans (by congr 1; omega)
    · exact (word 32 _ (by omega)).trans (by congr 1; omega)

theorem registers_right (answers : Answers board bus) (state : VmeState) :
    (∀ myRegister nBits, 0 < nBits.toNat →
      ((∃ words cycles, Performs (readSerial board bus myRegister nBits) state words cycles ∧
        Carries words (serialBits bus state nBits.toNat)) ↔ nBits.toNat ≤ 4294967280)) ∧
    (∀ values, Presents bus state 32 (writeFlashInFIFOThresholds values) →
      ((∃ cycles, Performs (readFlashInFIFOThresholds board bus) state values cycles) ↔
        values = 0)) ∧
    (∀ values, Presents bus state 34 (writeFlashGbEFIFOThresholds values) →
      ∃ words cycles, Performs (readFlashGbEFIFOThresholds board bus) state words cycles ∧
        Carries words ((List.range 34).map values.toNat.testBit)) ∧
    ∀ register calls,
      (∀ earlier, earlier <+: calls → (runFrom Fmm.step (Fmm.start register) earlier).Right) ↔
        Guarded Fmm.step Fmm.Spares (Fmm.start register) calls := by
  refine ⟨fun myRegister nBits some_ => ?_, fun values _ => inFIFO_read answers state values,
    fun values presents => ?_, fun register calls =>
      always_iff_guarded step_right_iff calls ((right_iff _).2 fun _ _ => rfl)⟩
  · obtain ⟨cycles, read⟩ := performs_readSerial answers myRegister some_ state
    rw [← @serialWords_carries bus state nBits]
    constructor
    · rintro ⟨words, _, other, carries⟩
      rwa [Except.ok.inj (other.returns.symm.trans read.returns)] at carries
    · exact fun carries => ⟨_, cycles, read, carries⟩
  · have some_ : 0 < (34 : UInt32).toNat := by decide
    obtain ⟨cycles, read⟩ := performs_readSerial answers 0x0504 some_ state
    have carries := (@serialWords_carries bus state 34).2 (by decide)
    have same : serialBits bus state (34 : UInt32).toNat =
        (List.range 34).map values.toNat.testBit := by
      refine List.map_congr_left fun place among => ?_
      have inside := List.mem_range.1 among
      exact (presents place inside).trans (gbE_bit values inside)
    rw [same] at carries
    exact ⟨_, cycles, read, carries⟩

def silent : Bus := ⟨fun _ => true, fun _ => 0, fun _ => 0⟩

theorem registers_right_silent :
    let board : VmeModule := ⟨0, false, fun _ => none⟩
    (∃ words cycles, Performs (readSerial board silent 0x0504 34) ⟨0, 0, []⟩ words cycles ∧
      Carries words (serialBits silent ⟨0, 0, []⟩ 34)) ∧
    (∃ cycles, Performs (readFlashInFIFOThresholds board silent) ⟨0, 0, []⟩ 0 cycles) ∧
    (∃ words cycles, Performs (readFlashGbEFIFOThresholds board silent) ⟨0, 0, []⟩ words cycles ∧
      Carries words ((List.range 34).map (0 : UInt64).toNat.testBit)) ∧
    ∀ earlier, earlier <+: [(Field.SLinkB, (7 : BitVec 16))] →
      (runFrom Fmm.step (Fmm.start 0x1000) earlier).Right := by
  intro board
  have all := @registers_right board silent ⟨rfl, fun _ => rfl⟩ ⟨0, 0, []⟩
  have quiet : ∀ place, rawBit silent ⟨0, 0, []⟩ place = false := fun place => Nat.zero_testBit _
  refine ⟨(all.1 0x0504 34 (by decide)).2 (by decide), (all.2.1 0 fun place inside => ?_).2 rfl,
    all.2.2.1 0 fun place inside => ?_, (all.2.2.2 0x1000 _).2 ⟨fun bit inside set => ?_, trivial⟩⟩
  · revert place
    decide
  · rw [quiet]
    exact (gbE_bit 0 inside).symm ▸ (Nat.zero_testBit place).symm
  · have only : ∀ bit : Fin 16, (0x1000 : BitVec 16).getLsbD bit = true → bit.val = 12 := by decide
    obtain rfl : bit = 12 := only ⟨bit, inside⟩ set
    decide

/-- Thresholds of 5 are read back as zero; and the fields of SLink A and SLink B, cleared after they
were all ones, still have their upper bits. -/
theorem thresholds_lost :
    let board : VmeModule := ⟨0, false, fun _ => none⟩
    let bus : Bus := ⟨fun _ => true, fun call => if call = 0 then 5 else 0, fun _ => 0⟩
    writeFlashInFIFOThresholds 5 = [bus.data 0, bus.data 1] ∧
      ¬ (∃ cycles, Performs (readFlashInFIFOThresholds board bus) ⟨0, 0, []⟩ 5 cycles) ∧
      readFMM (writeFMM 0x03e0 .SLinkA 0) .SLinkA = 0x10 ∧
      readFMM (writeFMM 0x7c00 .SLinkB 0) .SLinkB = 0x1c ∧
      ¬ ((Fmm.start 0x7c00).step (.SLinkB, 0)).Right := by
  intro board bus
  refine ⟨by decide, fun reads => ?_, by decide, by decide, fun right => ?_⟩
  · exact absurd ((@inFIFO_read board bus ⟨rfl, fun _ => rfl⟩ ⟨0, 0, []⟩ 5).1 reads) (by decide)
  · exact absurd (right.fields .SLinkB 2 (by decide)) (by decide)

end EmuLib.Fed
