import Mathlib.Data.List.GetD
import Mathlib.Data.List.Induction
import EmuLib.Reader.Spy

/-!
Removal of the filler words that the Gigabit Ethernet may have appended to a block of data.
-/

namespace EmuLib.Reader

open List

def fillerWord (count : UInt8) : List UInt8 := count :: List.replicate 7 0xff

def fillers (counts : List UInt8) : List UInt8 := counts.flatMap fillerWord

/-- `dataLengthWithoutPadding` of a block that fills the memory from its start on. -/
def lengthWithoutPadding (block : List UInt8) : Nat :=
  dataLengthWithoutPadding (halfWords (fun offset => block.getD offset 0) 0) block.length

/-- Whole words have been taken off, all of them fillers, and no filler is left at the end. -/
structure Trimmed (block : List UInt8) : Prop where
  wholeWords : lengthWithoutPadding block ≤ block.length ∧
    (block.length - lengthWithoutPadding block) % 8 = 0
  fillersOnly : ∃ counts, block.drop (lengthWithoutPadding block) = fillers counts
  again : lengthWithoutPadding (block.take (lengthWithoutPadding block)) =
    lengthWithoutPadding block

@[simp] lemma fillerWord_length (count) : (fillerWord count).length = 8 := rfl

@[simp] lemma fillers_nil : fillers [] = [] := rfl

lemma fillers_snoc (counts count) :
    fillers (counts ++ [count]) = fillers counts ++ fillerWord count := by
  simp [fillers]

@[simp] lemma fillers_length (counts) : (fillers counts).length = 8 * counts.length := by
  induction counts with
  | nil => rfl
  | cons count rest ih =>
    have first : fillers (count :: rest) = fillerWord count ++ fillers rest := rfl
    rw [first, length_append, fillerWord_length, length_cons]
    omega

/-! The half words of a block. -/

lemma highByte_ones (low high : UInt8) :
    (low.toNat + 256 * high.toNat) &&& 0xff00 = 0xff00 ↔ high = 0xff := by
  have bound := low.toNat_lt
  constructor
  · intro ones
    have shifted : ((low.toNat + 256 * high.toNat) >>> 8) &&& 0xff = 0xff := by
      have mask : (0xff : Nat) = 0xff00 >>> 8 := rfl
      rw [mask, ← Nat.shiftRight_and_distrib, ones]
    rw [Nat.and_two_pow_sub_one_eq_mod _ 8] at shifted
    apply UInt8.toNat_inj.1
    have full : (0xff : UInt8).toNat = 255 := rfl
    have small := high.toNat_lt
    omega
  · rintro rfl
    have each : ∀ byte < 256, (byte + 256 * (0xff : UInt8).toNat) &&& 0xff00 = 0xff00 := by
      decide +kernel
    exact each _ bound

lemma halfWord_ones (low high : UInt8) :
    low.toNat + 256 * high.toNat = 0xffff ↔ low = 0xff ∧ high = 0xff := by
  have lowBound := low.toNat_lt
  have full : (0xff : UInt8).toNat = 255 := rfl
  rw [← UInt8.toNat_inj, ← UInt8.toNat_inj]
  omega

lemma isFiller_iff (bytes iShort) :
    isFiller (halfWords bytes 0) iShort = true ↔
      ∀ offset, 1 ≤ offset → offset < 8 → bytes (2 * iShort + offset) = 0xff := by
  have word : ∀ index, halfWords bytes 0 (iShort + index) =
      (bytes (2 * iShort + 2 * index)).toNat + 256 * (bytes (2 * iShort + (2 * index + 1))).toNat := by
    intro index
    have even : 0 + 2 * (iShort + index) = 2 * iShort + 2 * index := by omega
    rw [halfWords, even]
    rfl
  have first := word 0
  rw [Nat.add_zero] at first
  simp only [isFiller, Bool.and_eq_true, beq_iff_eq, word, first, halfWord_ones, highByte_ones]
  constructor
  · rintro ⟨⟨⟨one, two, three⟩, four, five⟩, six, seven⟩ offset lower upper
    have cases_ : offset = 1 ∨ offset = 2 ∨ offset = 3 ∨ offset = 4 ∨ offset = 5 ∨ offset = 6 ∨
        offset = 7 := by omega
    rcases cases_ with rfl | rfl | rfl | rfl | rfl | rfl | rfl
    · exact one
    · exact two
    · exact three
    · exact four
    · exact five
    · exact six
    · exact seven
  · intro ones
    exact ⟨⟨⟨ones 1 (by omega) (by omega), ones 2 (by omega) (by omega),
      ones 3 (by omega) (by omega)⟩, ones 4 (by omega) (by omega), ones 5 (by omega) (by omega)⟩,
      ones 6 (by omega) (by omega), ones 7 (by omega) (by omega)⟩

/-! The backward search, on blocks of an even length. -/

lemma withoutFiller_congr {data other} (limit)
    (agree : ∀ index, index < limit → data index = other index) :
    withoutFiller data limit = withoutFiller other limit := by
  induction limit using Nat.strongRecOn with
  | ind limit ih =>
    match limit, ih, agree with
    | 0, _, _ => rfl
    | 1, _, _ => rfl
    | 2, _, _ => rfl
    | 3, _, _ => rfl
    | iShort + 4, ih, agree =>
      have same : isFiller data iShort = isFiller other iShort := by
        unfold isFiller
        rw [agree iShort (by omega), agree (iShort + 1) (by omega),
          agree (iShort + 2) (by omega), agree (iShort + 3) (by omega)]
      have before := ih iShort (by omega) fun index inside => agree index (by omega)
      rw [withoutFiller, withoutFiller, same, before]

lemma withoutFiller_even (data limit) :
    withoutFiller data limit % 2 = 0 ∧ withoutFiller data limit ≤ 2 * limit := by
  induction limit using Nat.strongRecOn with
  | ind limit ih =>
    match limit, ih with
    | 0, _ => exact ⟨rfl, Nat.le_refl _⟩
    | 1, _ => exact ⟨rfl, Nat.zero_le _⟩
    | 2, _ => exact ⟨rfl, Nat.zero_le _⟩
    | 3, _ => exact ⟨rfl, Nat.zero_le _⟩
    | iShort + 4, ih =>
      obtain ⟨even, bounded⟩ := ih iShort (by omega)
      rw [withoutFiller]
      split
      · exact ⟨even, by omega⟩
      · exact ⟨by omega, Nat.le_refl _⟩

lemma lengthWithoutPadding_search (block) :
    lengthWithoutPadding block =
      withoutFiller (halfWords (fun offset => block.getD offset 0) 0) (block.length / 2) := by
  unfold lengthWithoutPadding dataLengthWithoutPadding
  split
  · rename_i none
    rw [none]
    rfl
  · rfl

lemma lengthWithoutPadding_even (block) :
    lengthWithoutPadding block % 2 = 0 ∧ lengthWithoutPadding block ≤ block.length := by
  obtain ⟨even, bounded⟩ :=
    withoutFiller_even (halfWords (fun offset => block.getD offset 0) 0) (block.length / 2)
  rw [lengthWithoutPadding_search]
  exact ⟨even, by omega⟩

variable {block : List UInt8}

lemma lengthWithoutPadding_short (short : block.length < 8) : lengthWithoutPadding block = 0 := by
  rw [lengthWithoutPadding_search]
  have limit : block.length / 2 < 4 := by omega
  match block.length / 2, limit with
  | 0, _ => rfl
  | 1, _ => rfl
  | 2, _ => rfl
  | 3, _ => rfl

variable {front : List UInt8}

lemma isFiller_last (even : front.length % 2 = 0) (word) (eight : word.length = 8) :
    isFiller (halfWords (fun offset => (front ++ word).getD offset 0) 0) (front.length / 2) = true ↔
      ∃ count, word = fillerWord count := by
  rw [isFiller_iff]
  have there : ∀ offset, (front ++ word).getD (2 * (front.length / 2) + offset) 0 =
      word.getD offset 0 := by
    intro offset
    have start : 2 * (front.length / 2) + offset = front.length + offset := by omega
    rw [start, getD_append_right _ _ _ _ (Nat.le_add_right _ _), Nat.add_sub_cancel_left]
  simp only [there]
  constructor
  · intro ones
    match word, eight with
    | [b0, b1, b2, b3, b4, b5, b6, b7], _ =>
      have one : b1 = 0xff := ones 1 (by omega) (by omega)
      have two : b2 = 0xff := ones 2 (by omega) (by omega)
      have three : b3 = 0xff := ones 3 (by omega) (by omega)
      have four : b4 = 0xff := ones 4 (by omega) (by omega)
      have five : b5 = 0xff := ones 5 (by omega) (by omega)
      have six : b6 = 0xff := ones 6 (by omega) (by omega)
      have seven : b7 = 0xff := ones 7 (by omega) (by omega)
      exact ⟨b0, by rw [one, two, three, four, five, six, seven]; rfl⟩
  · rintro ⟨count, rfl⟩ offset lower upper
    match offset, lower, upper with
    | 1, _, _ => rfl
    | 2, _, _ => rfl
    | 3, _, _ => rfl
    | 4, _, _ => rfl
    | 5, _, _ => rfl
    | 6, _, _ => rfl
    | 7, _, _ => rfl

lemma search_append (even : front.length % 2 = 0) (word) (eight : word.length = 8) :
    lengthWithoutPadding (front ++ word) =
      if isFiller (halfWords (fun offset => (front ++ word).getD offset 0) 0) (front.length / 2)
      then lengthWithoutPadding front else front.length + 8 := by
  have limit : (front ++ word).length / 2 = front.length / 2 + 4 := by
    rw [length_append]
    omega
  have ends : 2 * (front.length / 2 + 4) = front.length + 8 := by omega
  rw [lengthWithoutPadding_search, lengthWithoutPadding_search, limit, withoutFiller]
  congr 1
  apply withoutFiller_congr
  intro index inside
  have there : ∀ offset < front.length, (front ++ word).getD offset 0 = front.getD offset 0 :=
    fun offset before => getD_append _ _ _ _ before
  unfold halfWords
  dsimp only
  rw [there _ (by omega), there _ (by omega)]

lemma lengthWithoutPadding_filler (even : front.length % 2 = 0)
    (count) : lengthWithoutPadding (front ++ fillerWord count) =
      lengthWithoutPadding front := by
  rw [search_append even _ rfl, if_pos ((isFiller_last even _ rfl).2 ⟨count, rfl⟩)]

lemma lengthWithoutPadding_fillers (even : front.length % 2 = 0)
    (counts) : lengthWithoutPadding (front ++ fillers counts) =
      lengthWithoutPadding front := by
  induction counts using reverseRecOn with
  | nil => rw [fillers_nil, append_nil]
  | append_singleton counts count ih =>
    have still : (front ++ fillers counts).length % 2 = 0 := by
      rw [length_append, fillers_length]
      omega
    rw [fillers_snoc, ← append_assoc, lengthWithoutPadding_filler still, ih]

lemma lengthWithoutPadding_data (even : block.length % 2 = 0) (long : 8 ≤ block.length)
    (data : ¬ ∃ count, fillerWord count <:+ block) : lengthWithoutPadding block = block.length := by
  have parts := take_append_drop (block.length - 8) block
  have front : (block.take (block.length - 8)).length = block.length - 8 := by
    rw [length_take]
    omega
  have last : (block.drop (block.length - 8)).length = 8 := by
    rw [length_drop]
    omega
  have evenFront : (block.take (block.length - 8)).length % 2 = 0 := by omega
  have whole := search_append evenFront (block.drop (block.length - 8)) last
  rw [parts] at whole
  rw [whole, if_neg]
  · omega
  · intro filler
    have ends := isFiller_last evenFront (block.drop (block.length - 8)) last
    rw [parts] at ends
    obtain ⟨count, word⟩ := ends.1 filler
    exact data ⟨count, word ▸ drop_suffix _ _⟩

lemma data_and_fillers (even : block.length % 2 = 0) :
    ∃ front counts, block = front ++ fillers counts ∧
      ((front.length < 8 ∧ lengthWithoutPadding block = 0) ∨
        (lengthWithoutPadding block = front.length ∧ lengthWithoutPadding front = front.length ∧
          8 ≤ front.length)) := by
  generalize size : block.length = length
  induction length using Nat.strongRecOn generalizing block with
  | ind length ih =>
    by_cases short : block.length < 8
    · exact ⟨block, [], by simp, .inl ⟨short, lengthWithoutPadding_short short⟩⟩
    · by_cases data : ∃ count, fillerWord count <:+ block
      · obtain ⟨count, before, rfl⟩ := data
        rw [length_append, fillerWord_length] at even size
        have evenBefore : before.length % 2 = 0 := by omega
        obtain ⟨front, counts, parts, found⟩ := ih before.length (by omega) evenBefore rfl
        refine ⟨front, counts ++ [count], ?_, ?_⟩
        · rw [fillers_snoc, ← append_assoc, ← parts]
        · rw [lengthWithoutPadding_filler evenBefore]
          exact found
      · have found := lengthWithoutPadding_data even (by omega) data
        exact ⟨block, [], by simp, .inr ⟨found, found, by omega⟩⟩

/-! What is taken off. -/

lemma padded_length (words : block.length % 8 = 0) (data : ¬ ∃ count, fillerWord count <:+ block)
    (counts) : lengthWithoutPadding (block ++ fillers counts) = block.length := by
  rw [lengthWithoutPadding_fillers (by omega)]
  by_cases short : block.length < 8
  · rw [lengthWithoutPadding_short short]
    omega
  · exact lengthWithoutPadding_data (by omega) (by omega) data

lemma trimmed_found {counts} (parts : block = front ++ fillers counts)
    (found : lengthWithoutPadding block = front.length)
    (whole : lengthWithoutPadding front = front.length) : Trimmed block := by
  have length : block.length = front.length + 8 * counts.length := by
    rw [parts, length_append, fillers_length]
  refine ⟨⟨by omega, by omega⟩, ⟨counts, ?_⟩, ?_⟩
  · rw [found, parts, drop_left]
  · rw [found, parts, take_left, whole]

/-- A block is trimmed as it should be exactly if it consists of whole words, or of half words
that are not just fillers after less than a word. -/
theorem padding_removal (block : List UInt8) :
    (block.length % 8 = 0 → (¬ ∃ count, fillerWord count <:+ block) →
      ∀ counts, lengthWithoutPadding (block ++ fillers counts) = block.length) ∧
    (Trimmed block ↔
      block.length % 8 = 0 ∨
        block.length % 2 = 0 ∧ ∀ counts, block.drop (block.length % 8) ≠ fillers counts) := by
  refine ⟨fun words data counts => padded_length words data counts, ?_⟩
  constructor
  · intro trimmed
    obtain ⟨even, _⟩ := lengthWithoutPadding_even block
    obtain ⟨bounded, words⟩ := trimmed.wholeWords
    by_cases whole : block.length % 8 = 0
    · exact .inl whole
    · refine .inr ⟨by omega, ?_⟩
      intro counts rest
      have parts := take_append_drop (block.length % 8) block
      have front : (block.take (block.length % 8)).length = block.length % 8 := by
        rw [length_take]
        omega
      rw [rest] at parts
      have none : lengthWithoutPadding block = 0 := by
        rw [← parts, lengthWithoutPadding_fillers (by omega), lengthWithoutPadding_short (by omega)]
      omega
  · intro known
    have even : block.length % 2 = 0 := by omega
    obtain ⟨front, counts, parts, ⟨short, none⟩ | ⟨found, whole, _⟩⟩ := data_and_fillers even
    · have length : block.length = front.length + 8 * counts.length := by
        rw [parts, length_append, fillers_length]
      rcases known with words | ⟨_, notOnly⟩
      · have empty : front = [] := length_eq_zero_iff.1 (by omega)
        subst empty
        exact trimmed_found parts none (lengthWithoutPadding_short (by decide))
      · have same : block.length % 8 = front.length := by omega
        refine absurd ?_ (notOnly counts)
        rw [same, parts, drop_left]
    · exact trimmed_found parts found whole

theorem padding_removal_twoFillers :
    lengthWithoutPadding ([1, 2, 3, 4, 5, 6, 7, 8] ++ fillers [8, 0]) = 8 ∧
      Trimmed [1, 2, 10, 0, 0xff, 0xff, 0xff, 0xff, 0xff, 0xff] := by
  refine ⟨(padding_removal _).1 rfl ?_ _, (padding_removal _).2.2 (.inr ⟨rfl, ?_⟩)⟩
  · rintro ⟨count, front, parts⟩
    have last := congrArg List.getLast? parts
    simp [fillerWord] at last
  · intro counts rest
    have last := congrArg (fun bytes => bytes[1]?) rest
    cases counts with
    | nil => exact absurd last (by decide)
    | cons count later =>
      have zero : some (0 : UInt8) = some 0xff := last
      exact absurd zero (by decide)

theorem two_bytes_lost : ¬ ∀ block : List UInt8, Trimmed block := by
  intro every
  have words := (every [1, 2, 10, 0xff, 0xff, 0xff, 0xff, 0xff, 0xff, 0xff]).wholeWords.2
  exact absurd words (by decide)

end EmuLib.Reader
