import Mathlib.Data.Nat.Bitwise
import EmuLib.FastDaq.DataEvents

/-!
One chamber block: what is done with it, and where the place behind it is found.
-/

namespace EmuLib.FastDaq

open List

open Buffer (seek Holds holds_append holds_cons holds_shift seek_eq_some_iff seek_found seek_shift seek_le)

lemma foldlM_eq_none {α β : Type} {step} {items : List α} {item} (inside : item ∈ items)
    (fails : ∀ state, step state item = none) (state : β) : items.foldlM step state = none := by
  induction items generalizing state with
  | nil => cases inside
  | cons first rest ih =>
    rw [foldlM_cons]
    rcases mem_cons.mp inside with rfl | later
    · rw [fails]
      rfl
    · cases step state first with
      | none => rfl
      | some next => exact ih later next

/-- The channels of a board are counted for all boards together, and from the 193rd on the bit of
the controller leaves the integer. -/
lemma timeSample_undefined (setup buf ifeb itime unpacking) : timeSample setup buf ifeb unpacking
    itime = none := by
  have channels : (List.range NCFEB_CHAN).foldlM (channel setup buf ifeb itime) unpacking = none := by
    have inside : 192 ∈ List.range NCFEB_CHAN := mem_range.mpr (by decide)
    refine foldlM_eq_none inside ?_ unpacking
    intro state
    exact if_neg (by omega)
  rw [timeSample, channels]
  rfl

lemma decodeCfeb2_undefined (setup buf ibuf) {cfebActive}
    (event) {ifeb} (inside : ifeb < NCFEB) (active : cfebActive.testBit ifeb = true) :
    decodeCfeb2 setup buf ibuf cfebActive event = none := by
  have boards (samples : Nat) (some_samples : 0 < samples) (state : Unpacking) :
      (List.range NCFEB).foldlM (frontEndBoard setup buf cfebActive samples) state = none := by
    apply foldlM_eq_none (mem_range.mpr inside)
    intro state
    rw [frontEndBoard, if_pos active]
    exact foldlM_eq_none (mem_range.mpr some_samples) (timeSample_undefined setup buf ifeb 0) _
  rw [decodeCfeb2, boards _ (by split <;> omega)]
  rfl

lemma masked_ne_zero_iff (flags) :
    flags &&& 0x1f ≠ 0 ↔ ∃ ifeb < 5, flags.testBit ifeb = true := by
  have mask (ifeb : Nat) : (flags &&& 0x1f).testBit ifeb = (flags.testBit ifeb && decide (ifeb < 5)) := by
    rw [Nat.testBit_and, show 0x1f = 2 ^ 5 - 1 from rfl, Nat.testBit_two_pow_sub_one]
  constructor
  · intro some_bit
    obtain ⟨ifeb, set⟩ := Nat.exists_testBit_of_ne_zero some_bit
    rw [mask, Bool.and_eq_true, decide_eq_true_eq] at set
    exact ⟨ifeb, set.2, set.1⟩
  · rintro ⟨ifeb, inside, set⟩ none_set
    have bit := mask ifeb
    rw [none_set, set, decide_eq_true inside, Nat.zero_testBit] at bit
    exact Bool.noConfusion bit

lemma present_ne_nil_iff (dmb : Dmb) : dmb.present ≠ [] ↔ dmb.flags &&& 0x1f ≠ 0 := by
  rw [masked_ne_zero_iff, Dmb.present]
  simp

section

variable {setup : Setup} {buf : Words} {dmb : Dmb} {event : CscEvent}

lemma chamberBlock_event {result after}
    (done : chamberBlock setup buf event = some (result, after)) : after = event := by
  unfold chamberBlock at done
  dsimp only at done
  split at done
  · cases done
    rfl
  split at done
  · cases done
    rfl
  split at done
  · cases done
    rfl
  cases offset : cfebOffset buf with
  | none =>
    rw [offset] at done
    cases done
  | some found =>
    rw [offset] at done
    cases found with
    | none =>
      cases done
      rfl
    | some place =>
      by_cases boards : (buf 2).toNat &&& 0x1f = 0
      · simp only [boards, Option.bind_eq_bind, Option.bind_some, if_true] at done
        cases done
        rfl
      · obtain ⟨ifeb, inside, set⟩ := (masked_ne_zero_iff _).mp boards
        have active : ((buf 2).toNat &&& 0x1f).testBit ifeb = true := by
          rw [Nat.testBit_and, set, show 0x1f = 2 ^ 5 - 1 from rfl, Nat.testBit_two_pow_sub_one]
          simpa using inside
        have undefined := decodeCfeb2_undefined setup buf place event
          (Nat.lt_trans inside (by decide)) active
        simp [boards, undefined] at done

lemma header_word (holds : Holds buf 0 dmb.header) (wellFormed : dmb.WellFormed) {index}
    (inside : index < 8) : buf index = dmb.header.getD index 0 := by
  have within : index < dmb.header.length := by
    rw [wellFormed.header_length]
    exact inside
  rw [getD_eq_getElem _ _ within]
  simpa using holds index within

lemma header_fields (holds : Holds buf 0 dmb.header) (wellFormed : dmb.WellFormed) :
    ((buf 5).toNat >>> 4) &&& 0xff = dmb.crate ∧ (buf 5).toNat &&& 0xf = dmb.number ∧
      (buf 2).toNat = dmb.flags := by
  rw [header_word holds wellFormed (show 5 < 8 by decide),
    header_word holds wellFormed (show 2 < 8 by decide)]
  exact ⟨rfl, rfl, rfl⟩

lemma header_digit (holds : Holds buf 0 dmb.header) (wellFormed : dmb.WellFormed) {index}
    (inside : index < 4) : (buf index).toNat >>> 12 = 9 := by
  have length := wellFormed.header_length
  apply wellFormed.header_digits
  rw [header_word holds wellFormed (by omega), getD_eq_getElem _ _ (by omega),
    ← getElem_take (j := 4) (h := by simp; omega)]
  exact getElem_mem _

lemma chamberBlock_passed (holds : Holds buf 0 dmb.header) (wellFormed : dmb.WellFormed)
    (event) (passed : ¬ (setup.Selects dmb ∧ dmb.HoldsData)) :
    chamberBlock setup buf event = some (1, event) := by
  obtain ⟨crate, number, flags⟩ := header_fields holds wellFormed
  unfold chamberBlock
  rw [flags]
  dsimp only
  split
  · rfl
  next chosen =>
  split
  · rfl
  have selected : setup.Selects dmb := by
    unfold Setup.Selects
    omega
  split
  · rfl
  next data =>
  refine absurd ⟨selected, ?_⟩ passed
  unfold Dmb.HoldsData
  rw [present_ne_nil_iff]
  rcases Nat.eq_zero_or_pos (dmb.flags &&& 0x1f) with none_set | some_set
  · simp only [none_set, and_true, not_and_or, Bool.not_eq_false] at data
    exact data.symm.imp_right .inl
  · exact .inr (.inr (by omega))

lemma chamberBlock_taken (holds : Holds buf 0 dmb.header) (wellFormed : dmb.WellFormed)
    (event) (selected : setup.Selects dmb) (data : dmb.HoldsData) {offset}
    (found : cfebOffset buf = some offset) (boards : dmb.present = []) :
    ∃ result, chamberBlock setup buf event = some (result, event) ∧ (result = 0 ∨ result = 4) := by
  obtain ⟨crate, number, flags⟩ := header_fields holds wellFormed
  have no_boards : dmb.flags &&& 0x1f = 0 := by
    by_contra some_board
    exact (present_ne_nil_iff dmb).mpr some_board boards
  unfold chamberBlock
  rw [flags]
  dsimp only
  rw [if_neg, if_neg, if_neg, found]
  · cases offset with
    | none => exact ⟨4, rfl, .inr rfl⟩
    | some place =>
      simp [no_boards]
  · rintro ⟨trigger, anode, _⟩
    rcases data with set | set | some_board
    · rw [anode] at set
      exact Bool.noConfusion set
    · rw [trigger] at set
      exact Bool.noConfusion set
    · exact some_board boards
  · rw [header_digit holds wellFormed (by decide)]
    decide
  · unfold Setup.Selects at selected
    omega

lemma decodeAlct4_known {ibuf} (known : (buf (ibuf + 6)).toNat &&& 7 < 7) :
    ∃ count, decodeAlct4 buf ibuf = some count := by
  unfold decodeAlct4
  dsimp only
  rw [getElem?_eq_getElem (by exact known), getElem?_eq_getElem (by exact known)]
  exact ⟨_, rfl⟩

lemma cfebOffset_known (holds : Holds buf 0 dmb.words) (wellFormed : dmb.WellFormed) :
    ∃ offset, cfebOffset buf = some offset := by
  obtain ⟨headers, others⟩ := holds_append.mp holds
  obtain ⟨_, _, flags⟩ := header_fields headers wellFormed
  have anode (index : Nat) (word : Short) (known : dmb.alct[index]? = some word) :
      buf (8 + index) = word := by
    have alct := (holds_append.mp (holds_append.mp (holds_append.mp others).1).1).1
    rw [wellFormed.header_length] at alct
    simpa using alct.at? known
  have counted : ∃ alctWc, anodeWords buf = some alctWc := by
    unfold anodeWords
    rw [flags]
    by_cases given : dmb.flags.testBit 10
    · by_cases newer : buf 8 = 0xdb0a
      · rw [if_pos given, if_pos newer]
        have some_words : dmb.alct ≠ [] := by
          rw [ne_eq, wellFormed.alct_given, given]
          exact Bool.noConfusion
        obtain ⟨first, rest, spelled⟩ := exists_cons_of_ne_nil some_words
        have begins : dmb.alct[0]? = some first := by rw [spelled]; rfl
        have same := anode 0 first begins
        rw [newer] at same
        obtain ⟨word, known, bound⟩ := wellFormed.alct_kind (same ▸ begins)
        have groups : (buf (8 + 6)).toNat &&& 7 < 7 := anode 6 word known ▸ bound
        obtain ⟨count, words⟩ := decodeAlct4_known groups
        exact ⟨some count, by rw [words]; rfl⟩
      · exact ⟨some (decodeAlct3 buf 8), by rw [if_pos given, if_neg newer]; rfl⟩
    · exact ⟨none, if_neg given⟩
  obtain ⟨alctWc, words⟩ := counted
  unfold cfebOffset
  rw [words]
  exact ⟨_, rfl⟩

end

variable {digit : Nat} {buf other : Words} {index place : Nat}

lemma marked_iff :
    marked digit buf index = true ↔
      ∀ ahead < 4, (buf (index + ahead)).toNat >>> 12 = digit := by
  simp [marked]

lemma marked_congr (same : ∀ ahead < 4, buf (index + ahead) = other (place + ahead)) :
    marked digit buf index = marked digit other place := by
  rw [Bool.eq_iff_iff, marked_iff, marked_iff]
  refine forall₂_congr fun ahead inside => ?_
  rw [same ahead inside]

variable {dmb : Dmb}

lemma marked_end (holds : Holds buf place dmb.words) (wellFormed : dmb.WellFormed) :
    marked 0xe buf (place + (dmb.words.length - 4)) = true := by
  have length := wellFormed.trailer_length
  rw [marked_iff]
  intro ahead inside
  apply wellFormed.trailer_digits
  rw [Dmb.words, ← append_assoc, holds_append] at holds
  have word := holds.2 (4 + ahead) (by omega)
  have same : place + (dmb.words.length - 4) + ahead =
      place + (dmb.header ++ (dmb.alct ++ dmb.trigger ++
        dmb.boards.flatten.flatMap Sample.words)).length + (4 + ahead) := by
    simp only [Dmb.words, length_append]
    omega
  rw [same, word, ← getElem_drop (h := by simp; omega)]
  exact getElem_mem _

lemma words_length (wellFormed : dmb.WellFormed) : 16 ≤ dmb.words.length := by
  have header := wellFormed.header_length
  have trailer := wellFormed.trailer_length
  simp only [Dmb.words, length_append]
  omega

lemma findDmbEnd_block (holds : Holds buf place dmb.words) (wellFormed : dmb.WellFormed) :
    findDmbEnd buf place = place + dmb.cut := by
  have bound := words_length wellFormed
  have ends := marked_end (Holds.getD dmb.words 0) wellFormed
  rw [Nat.zero_add] at ends
  have same (index : Nat) (within : index ≤ dmb.words.length - 4) :
      marked 0xe buf (place + index) = marked 0xe (fun index => dmb.words.getD index 0) index := by
    apply marked_congr
    intro ahead inside
    rw [Nat.add_assoc, holds (index + ahead) (by omega), getD_eq_getElem _ _ (by omega)]
  rw [findDmbEnd, seek_shift same ends, Dmb.cut]
  cases seek (marked 0xe fun index => dmb.words.getD index 0) 30000 0 with
  | none => exact Nat.add_assoc _ _ _
  | some stop => exact Nat.add_assoc _ _ _

lemma cut_le (wellFormed : dmb.WellFormed) : dmb.cut ≤ dmb.words.length := by
  have bound := words_length wellFormed
  have ends := marked_end (Holds.getD dmb.words 0) wellFormed
  rw [Nat.zero_add] at ends
  have stops : (seek (marked 0xe fun index => dmb.words.getD index 0) 30000 0).getD (0 + 30000) ≤
      dmb.words.length - 4 := seek_le ends (Nat.zero_le _)
  rw [Nat.zero_add] at stops
  rw [Dmb.cut]
  omega

end EmuLib.FastDaq
