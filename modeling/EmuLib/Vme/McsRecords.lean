import EmuLib.Vme.McsFile
import Mathlib.Data.List.GetD
import Mathlib.Data.List.TakeWhile
import Mathlib.Data.Option.Basic

/-!
What an arbitrary file does to `read_mcs`: which lines it looks at, what it stores for them, and
when the number it returns can be trusted.
-/

namespace EmuLib.Vme

open TextStream List

def byteAt (record : List Char) (index : Nat) : Option Nat := do
  let high ← record[2 * index + 1]?.bind digitValue
  let low ← record[2 * index + 2]?.bind digitValue
  return 16 * high + low

/-- The bytes before the data and after them: the length, two of the address, the type, the sum. -/
def frameSize : Nat := 5

def Complete (line : List Char) : Prop :=
  ∃ count, byteAt line 0 = some count ∧ ∀ index < count + frameSize, (byteAt line index).isSome

def recordSum (line : List Char) (count : Nat) : Nat :=
  ((List.range count).map fun index => (byteAt line index).getD 0).sum

def Correct (line : List Char) : Prop :=
  ∃ count, byteAt line 0 = some count ∧
    (∀ index < count + frameSize, (byteAt line index).isSome) ∧
    recordSum line (count + frameSize) % 256 = 0

def AddressCancels (line : List Char) : Prop :=
  ((byteAt line 1).getD 0 + (byteAt line 2).getD 0) % 256 = 0

structure Look where
  line : List Char
  buf : Nat → Char
  reader : McsReader

namespace Look

variable (look : Look)

def IsRecord : Prop := look.buf 0 = ':' ∧ look.buf 7 = '0'

instance : Decidable look.IsRecord := inferInstanceAs (Decidable (_ ∧ _))

def IsData : Prop := look.IsRecord ∧ look.buf 8 = '0'

instance : Decidable look.IsData := inferInstanceAs (Decidable (_ ∧ _))

def IsAddress : Prop :=
  look.IsRecord ∧ (look.buf 8 = '2' ∨ look.buf 8 = '4') ∧ look.buf 1 = '0' ∧ look.buf 2 = '2'

def Fails : Prop := look.IsRecord ∧ ∃ reader, readRecord look.buf look.reader = .abort reader

def size : Nat := unsigned (sscanfHex (strncpy look.buf 1 2) look.reader.dsize)

def address : Nat :=
  (unsigned (sscanfHex (strncpy look.buf 3 4) look.reader.locAdd) +
    look.reader.currentExt <<< (if look.reader.segmented then 4 else 16)) % 0x100000000

def stores : List Nat :=
  if look.IsData then (List.range look.size).map fun i => (look.address + i) % 0x100000000 else []

end Look

def looks (buf : Nat → Char) (reader : McsReader) : List (List Char × Bool) → List Look
  | [] => []
  | (line, feof) :: rest =>
    let buf := fgets buf line
    if feof then []
    else ⟨line, buf, reader⟩ ::
      if buf 0 ≠ ':' ∨ buf 7 ≠ '0' then []
      else
        match readRecord buf reader with
        | .next reader => looks buf reader rest
        | _ => []

def McsReader.unread (unset : Unset) (binbuf : Nat → UInt8) : McsReader where
  binbuf := binbuf
  currentExt := 0
  segmented := false
  dsize := unset.dsize
  locAdd := unset.locAdd
  extAdd := unset.extAdd
  c := unset.c
  crc := unset.crc
  totalRead := 0

def fileLooks (unset : Unset) (binbuf : Nat → UInt8) (finp : List Char) : List Look :=
  looks unset.buf (.unread unset binbuf) (fgetsLines finp [])

def mcsBufferSize : Nat := 16 * 1024 * 1024

variable {lines : List (List Char × Bool)}

section

variable {buf : Nat → Char} {reader next : McsReader}

lemma not_record {look : Look} : look.buf 0 ≠ ':' ∨ look.buf 7 ≠ '0' ↔ ¬ look.IsRecord := by
  rw [Look.IsRecord, not_and_or]

lemma readLines_hangs_iff (lines) :
    (∃ last, readLines buf reader lines = .hangs last) ↔
      ∃ look ∈ looks buf reader lines, ¬ look.IsRecord := by
  induction lines generalizing buf reader with
  | nil => simp [readLines, looks]
  | cons first rest ih =>
    rw [readLines, looks]
    cases first.2 with
    | true => simp
    | false =>
      simp only [Bool.false_eq_true, if_false]
      by_cases other : fgets buf first.1 0 ≠ ':' ∨ fgets buf first.1 7 ≠ '0'
      · rw [if_pos other]
        exact ⟨fun _ => ⟨_, mem_cons_self, not_record.1 other⟩, fun _ => ⟨reader, rfl⟩⟩
      · rw [if_neg other, if_neg other]
        have record : Look.IsRecord ⟨first.1, fgets buf first.1, reader⟩ :=
          not_not.1 fun not => other (not_record.2 not)
        rw [exists_mem_cons_iff]
        simp only [not_true_eq_false, record, false_or]
        cases readRecord (fgets buf first.1) reader with
        | next reader => exact ih
        | finish reader => simp
        | abort reader => simp

lemma readLines_aborted_iff (lines) :
    (∃ last, readLines buf reader lines = .aborted last) ↔
      ∃ look ∈ looks buf reader lines, look.Fails := by
  induction lines generalizing buf reader with
  | nil => simp [readLines, looks]
  | cons first rest ih =>
    rw [readLines, looks]
    cases first.2 with
    | true => simp
    | false =>
      simp only [Bool.false_eq_true, if_false]
      by_cases other : fgets buf first.1 0 ≠ ':' ∨ fgets buf first.1 7 ≠ '0'
      · rw [if_pos other, if_pos other]
        have no_record := @not_record ⟨first.1, fgets buf first.1, reader⟩ |>.1 other
        simp [Look.Fails, no_record]
      · rw [if_neg other, if_neg other]
        have record : Look.IsRecord ⟨first.1, fgets buf first.1, reader⟩ :=
          not_not.1 fun not => other (not_record.2 not)
        have here : Look.Fails ⟨first.1, fgets buf first.1, reader⟩ ↔
            ∃ last, readRecord (fgets buf first.1) reader = .abort last := and_iff_right record
        rw [exists_mem_cons_iff, here]
        cases readRecord (fgets buf first.1) reader with
        | next reader =>
          simp only [reduceCtorEq, exists_false, false_or]
          exact ih
        | finish reader => simp
        | abort reader => simp

lemma readByte_fold (buf index count reading) :
    ((List.range count).foldl (readByte buf index) reading).1.totalRead =
        reading.1.totalRead + count ∧
      ∀ address, address ∉ (List.range count).map (fun i => (index + i) % 0x100000000) →
        ((List.range count).foldl (readByte buf index) reading).1.binbuf address =
          reading.1.binbuf address := by
  induction count with
  | zero => exact ⟨rfl, fun _ _ => rfl⟩
  | succ count ih =>
    rw [range_succ, foldl_append, foldl_cons, foldl_nil, readByte]
    constructor
    · rw [ih.1, Nat.add_assoc]
    · intro address outside
      rw [map_append, mem_append, not_or, map_singleton, mem_singleton] at outside
      dsimp only
      rw [Function.update_of_ne outside.2]
      exact ih.2 address outside.1

namespace Look

variable (look : Look)

def bytesRead : McsReader × Int :=
  (List.range look.size).foldl (readByte look.buf look.address)
    ({ look.reader with
        dsize := look.size
        locAdd := unsigned (sscanfHex (strncpy look.buf 3 4) look.reader.locAdd) },
      (look.size : Int) + unsigned (sscanfHex (strncpy look.buf 3 4) look.reader.locAdd) +
        (unsigned (sscanfHex (strncpy look.buf 3 4) look.reader.locAdd) >>> 8))

def dataCrc : Int := sscanfHex (strncpy look.buf (look.size * 2 + 9) 2) look.bytesRead.1.crc

lemma readData_eq : readData look.buf look.reader =
    if lowByte (-look.bytesRead.2) ≠ lowByte look.dataCrc then
      .abort { look.bytesRead.1 with crc := look.dataCrc }
    else .next { look.bytesRead.1 with crc := look.dataCrc } := by
  rfl

lemma bytesRead_stores : look.bytesRead.1.totalRead = look.reader.totalRead + look.size ∧
    ∀ address, address ∉ (List.range look.size).map (fun i => (look.address + i) % 0x100000000) →
      look.bytesRead.1.binbuf address = look.reader.binbuf address := by
  rw [bytesRead]
  exact readByte_fold look.buf look.address look.size _

end Look

lemma readRecord_keeps {buf reader after} (other : ¬ buf 8 = '0')
    (step : readRecord buf reader = .next after ∨ readRecord buf reader = .finish after) :
    after.totalRead = reader.totalRead ∧ ∀ address, address ∉ ([] : List Nat) →
      after.binbuf address = reader.binbuf address := by
  rw [readRecord, if_neg other] at step
  by_cases ends : buf 8 = '1'
  · rw [if_pos ends] at step
    rcases step with wrong | same
    · exact absurd wrong (by simp)
    · rw [← McsStep.finish.inj same]
      exact ⟨rfl, fun _ _ => rfl⟩
  · rw [if_neg ends] at step
    have kept : (if buf 8 = '2' ∨ buf 8 = '4' then readExtended buf reader else .next reader) =
        .next after → after.totalRead = reader.totalRead ∧ after.binbuf = reader.binbuf := by
      intro same
      split at same
      · rw [readExtended] at same
        split at same
        · rw [← McsStep.next.inj same]
          exact ⟨rfl, rfl⟩
        · dsimp only at same
          split at same
          · exact absurd same (by simp)
          · rw [← McsStep.next.inj same]
            exact ⟨rfl, rfl⟩
      · rw [← McsStep.next.inj same]
        exact ⟨rfl, rfl⟩
    rcases step with same | wrong
    · exact ⟨(kept same).1, fun address _ => congrFun (kept same).2 address⟩
    · split at wrong
      · rw [readExtended] at wrong
        split at wrong
        · exact absurd wrong (by simp)
        · dsimp only at wrong
          split at wrong <;> exact absurd wrong (by simp)
      · exact absurd wrong (by simp)

lemma readRecord_stores {look : Look} (record : look.IsRecord) {after}
    (step : readRecord look.buf look.reader = .next after ∨
      readRecord look.buf look.reader = .finish after) :
    after.totalRead = look.reader.totalRead + look.stores.length ∧
      ∀ address ∉ look.stores, after.binbuf address = look.reader.binbuf address := by
  by_cases data : look.buf 8 = '0'
  · have same : readRecord look.buf look.reader = readData look.buf look.reader := if_pos data
    have bytes := look.bytesRead_stores
    rw [Look.stores, if_pos ⟨record, data⟩, length_map, length_range]
    rw [same, look.readData_eq] at step
    split at step
    · rcases step with other | other <;> exact absurd other (by simp)
    · rcases step with next | other
      · rw [← McsStep.next.inj next]
        exact bytes
      · exact absurd other (by simp)
  · rw [Look.stores, if_neg fun both => data both.2]
    exact readRecord_keeps data step

lemma readLines_returned {total last}
    (returned : readLines buf reader lines = .returned total last) :
    total = reader.totalRead + ((looks buf reader lines).map fun look => look.stores.length).sum := by
  induction lines generalizing buf reader with
  | nil =>
    exact (McsResult.returned.inj returned).1.symm
  | cons first rest ih =>
    rw [readLines] at returned
    rw [looks]
    cases ends : first.2 with
    | true =>
      rw [ends] at returned
      exact (McsResult.returned.inj returned).1.symm
    | false =>
      rw [ends] at returned
      simp only [Bool.false_eq_true, if_false] at returned ⊢
      by_cases other : fgets buf first.1 0 ≠ ':' ∨ fgets buf first.1 7 ≠ '0'
      · rw [if_pos other] at returned
        exact absurd returned (by simp)
      · rw [if_neg other] at returned
        rw [if_neg other]
        have record : Look.IsRecord ⟨first.1, fgets buf first.1, reader⟩ :=
          not_not.1 fun not => other (not_record.2 not)
        have stored := fun after => @readRecord_stores _ record after
        rw [map_cons, sum_cons]
        cases step : readRecord (fgets buf first.1) reader with
        | next after =>
          rw [step] at returned
          have more := (stored after (Or.inl step)).1
          rw [ih returned, more, Nat.add_assoc]
        | finish after =>
          rw [step] at returned
          rw [← (McsResult.returned.inj returned).1, (stored after (Or.inr step)).1]
          rfl
        | abort after =>
          rw [step] at returned
          exact absurd returned (by simp)

end

section

variable {record : List Char} {index value : Nat}

lemma byteAt_some (byte : byteAt record index = some value) :
    ∃ first second high low, record[2 * index + 1]? = some first ∧
      record[2 * index + 2]? = some second ∧ digitValue first = some high ∧
      digitValue second = some low ∧ value = 16 * high + low := by
  obtain ⟨high, one, rest⟩ := Option.bind_eq_some_iff.1 byte
  obtain ⟨low, two, same⟩ := Option.bind_eq_some_iff.1 rest
  obtain ⟨first, at_, digit⟩ := Option.bind_eq_some_iff.1 one
  obtain ⟨second, after, digitToo⟩ := Option.bind_eq_some_iff.1 two
  exact ⟨first, second, high, low, at_, after, digit, digitToo, (Option.some.inj same).symm⟩

lemma byteAt_lt (byte : byteAt record index = some value) : value < 256 := by
  obtain ⟨first, second, high, low, -, -, one, two, rfl⟩ := byteAt_some byte
  have upper := digitValue_lt one
  have lower := digitValue_lt two
  omega

lemma fgets_at (before) {char} (at_ : record[index]? = some char) :
    fgets before record index = char := by
  obtain ⟨inside, same⟩ := List.getElem?_eq_some_iff.1 at_
  have something : record ≠ [] := by
    rintro rfl
    exact Nat.not_lt_zero _ inside
  rw [fgets, if_neg something, if_pos (Nat.le_of_lt inside), getD_eq_getElem _ _ inside, same]

lemma strncpy_values (before) {chars} {digits : List Nat} {start}
    (at_ : ∀ offset < chars.length, record[start + offset]? = chars[offset]?)
    (values : chars.map digitValue = digits.map some) :
    strncpy (fgets before record) start chars.length = chars := by
  have copied : ((List.range chars.length).map fun offset =>
      fgets before record (start + offset)) = chars := by
    apply ext_getElem
    · rw [length_map, length_range]
    · intro offset _ inside
      have there := (at_ offset inside).trans (getElem?_eq_getElem inside)
      rw [getElem_map, getElem_range, fgets_at before there]
  rw [strncpy, copied, takeWhile_eq_self_iff]
  intro char member
  have image := mem_map_of_mem (f := digitValue) member
  rw [values] at image
  obtain ⟨digit, -, same⟩ := mem_map.1 image
  rw [decide_eq_true_iff]
  exact digitValue_ne same.symm (by decide)

lemma sscanfHex_at (before) (byte : byteAt record index = some value) (stored) :
    sscanfHex (strncpy (fgets before record) (2 * index + 1) 2) stored = value := by
  obtain ⟨first, second, high, low, at_, after, one, two, rfl⟩ := byteAt_some byte
  have values : [first, second].map digitValue = [high, low].map some := by
    simp only [map_cons, map_nil, one, two]
  have copied : strncpy (fgets before record) (2 * index + 1) 2 = [first, second] := by
    refine @strncpy_values record before [first, second] _ (2 * index + 1) (fun offset inside => ?_)
      values
    rcases offset with _ | _ | offset
    · exact at_
    · exact after
    · exact absurd inside (by simp)
  have upper := digitValue_lt one
  have lower := digitValue_lt two
  have number : ofDigits [high, low] = 16 * high + low := by
    simp only [ofDigits, foldl_cons, foldl_nil]
    omega
  rw [copied, sscanfHex, extractHex_values values (by omega), number]

lemma sscanfHex_two (before) {high low} (byte : byteAt record index = some high)
    (next : byteAt record (index + 1) = some low) (stored) :
    sscanfHex (strncpy (fgets before record) (2 * index + 1) 4) stored = (256 * high + low : Nat) := by
  obtain ⟨first, second, one, two, at_, after, is, also, rfl⟩ := byteAt_some byte
  obtain ⟨third, fourth, three, four, further, last, isToo, alsoToo, rfl⟩ := byteAt_some next
  have values : [first, second, third, fourth].map digitValue = [one, two, three, four].map some := by
    simp only [map_cons, map_nil, is, also, isToo, alsoToo]
  have copied : strncpy (fgets before record) (2 * index + 1) 4 = [first, second, third, fourth] := by
    refine @strncpy_values record before [first, second, third, fourth] _ (2 * index + 1)
      (fun offset inside => ?_) values
    rcases offset with _ | _ | _ | _ | offset
    · exact at_
    · exact after
    · exact further
    · exact last
    · exact absurd inside (by simp)
  have number : ofDigits [one, two, three, four] =
      256 * (16 * one + two) + (16 * three + four) := by
    simp only [ofDigits, foldl_cons, foldl_nil]
    omega
  have upper := byteAt_lt byte
  have lower := byteAt_lt next
  rw [copied, sscanfHex, extractHex_values values (by rw [number]; omega), number]

lemma unsigned_small {value : Nat} (small : value < 0x100000000) : unsigned value = value := by
  rw [unsigned]
  omega

def byteOf (record : List Char) (index : Nat) : Nat := (byteAt record index).getD 0

lemma byteAt_eq (some_ : (byteAt record index).isSome) :
    byteAt record index = some (byteOf record index) := by
  obtain ⟨value, byte⟩ := Option.isSome_iff_exists.1 some_
  rw [byteOf, byte, Option.getD_some]

lemma byteAt_chars (before) {first second high low}
    (some_ : (byteAt record index).isSome) (one : fgets before record (2 * index + 1) = first)
    (two : fgets before record (2 * index + 2) = second) (is : digitValue first = some high)
    (also : digitValue second = some low) : byteOf record index = 16 * high + low := by
  obtain ⟨first', second', high', low', at_, after, is', also', same⟩ :=
    byteAt_some (byteAt_eq some_)
  rw [fgets_at before at_] at one
  rw [fgets_at before after] at two
  rw [one, is] at is'
  rw [two, also] at also'
  rw [same, Option.some.inj is', Option.some.inj also']

lemma recordSum_frame (record count) :
    recordSum record (count + frameSize) = byteOf record 0 + byteOf record 1 + byteOf record 2 +
      byteOf record 3 + ((List.range count).map fun i => byteOf record (4 + i)).sum +
      byteOf record (4 + count) := by
  have order : count + frameSize = 4 + count + 1 := by
    rw [frameSize]
    omega
  have four : List.range 4 = [0, 1, 2, 3] := rfl
  rw [recordSum, order, range_succ, range_add, four, map_append, map_append,
    sum_append, sum_append, map_map]
  simp only [map_cons, map_nil, sum_cons, sum_nil, Function.comp_def, byteOf]
  omega

lemma lowByte_neg_eq (sum crc) : lowByte (-sum) = lowByte crc ↔ (sum + crc) % 256 = 0 := by
  rw [lowByte, lowByte]
  omega

lemma readByte_sum (before address count reading)
    (bytes : ∀ i < count, (byteAt record (4 + i)).isSome) :
    ((List.range count).foldl (readByte (fgets before record) address) reading).2 =
      reading.2 + ((List.range count).map fun i => byteOf record (4 + i)).sum := by
  induction count with
  | zero => simp
  | succ count ih =>
    have place : 9 + count * 2 = 2 * (4 + count) + 1 := by omega
    rw [range_succ, foldl_append, foldl_cons, foldl_nil, readByte]
    rw [place, sscanfHex_at before (byteAt_eq (bytes count (Nat.lt_succ_self _))),
      ih fun i below => bytes i (Nat.lt_succ_of_lt below), map_append, sum_append,
      map_singleton, sum_singleton, Nat.cast_add, add_assoc]

lemma high_byte {high low} (small : low < 256) : (256 * high + low) >>> 8 = high := by
  omega

end

section

variable {look : Look} {before : Nat → Char}

lemma Correct.complete {line} (correct : Correct line) : Complete line := by
  obtain ⟨count, length, digits, -⟩ := correct
  exact ⟨count, length, digits⟩

lemma data_correct_iff (from_ : look.buf = fgets before look.line) (data : look.IsData)
    (passes : ¬ look.Fails) : Correct look.line ↔ Complete look.line := by
  refine ⟨Correct.complete, fun complete => ?_⟩
  obtain ⟨count, length, digits⟩ := complete
  have known (index : Nat) (below : index < count + 5) := byteAt_eq (digits index below)
  have size : look.size = count := by
    rw [Look.size, from_, sscanfHex_at before length]
    exact unsigned_small (Nat.lt_trans (byteAt_lt length) (by decide))
  have low := byteAt_lt (known 2 (by omega))
  have high := byteAt_lt (known 1 (by omega))
  have locAdd : unsigned (sscanfHex (strncpy look.buf 3 4) look.reader.locAdd) =
      256 * byteOf look.line 1 + byteOf look.line 2 := by
    rw [from_, sscanfHex_two before (known 1 (by omega)) (known 2 (by omega))]
    exact unsigned_small (by omega)
  have sum : look.bytesRead.2 = (count : Int) + (256 * byteOf look.line 1 + byteOf look.line 2 : Nat) +
      byteOf look.line 1 + ((List.range count).map fun i => byteOf look.line (4 + i)).sum := by
    rw [Look.bytesRead, locAdd, size, high_byte low, from_,
      readByte_sum before _ count _ fun i below => digits (4 + i) (by rw [frameSize]; omega)]
  have crc : look.dataCrc = byteOf look.line (4 + count) := by
    have place : count * 2 + 9 = 2 * (4 + count) + 1 := by omega
    rw [Look.dataCrc, size, place, from_, sscanfHex_at before (known (4 + count) (by omega))]
  have type : byteOf look.line 3 = 0 := by
    rw [Look.IsData, Look.IsRecord, from_] at data
    exact byteAt_chars before (digits 3 (by rw [frameSize]; omega)) data.1.2 data.2 rfl rfl
  have zero : byteOf look.line 0 = count := by
    rw [byteOf, length, Option.getD_some]
  have agree : lowByte (-look.bytesRead.2) = lowByte look.dataCrc := by
    by_contra differ
    refine passes ⟨data.1, { look.bytesRead.1 with crc := look.dataCrc }, ?_⟩
    rw [readRecord, if_pos data.2, look.readData_eq, if_pos differ]
  rw [lowByte_neg_eq] at agree
  refine ⟨count, length, digits, ?_⟩
  rw [recordSum_frame]
  omega

lemma address_correct_iff (from_ : look.buf = fgets before look.line) (extended : look.IsAddress)
    (passes : ¬ look.Fails) :
    Correct look.line ↔ Complete look.line ∧ AddressCancels look.line := by
  -- with the two bytes that it has, and if its check passes
  have sums (digits : ∀ index < 2 + frameSize, (byteAt look.line index).isSome) :
      recordSum look.line (2 + frameSize) % 256 = 0 ↔ AddressCancels look.line := by
    have known (index : Nat) (below : index < 7) := byteAt_eq (digits index below)
    have ext := sscanfHex_two before (known 4 (by omega)) (known 5 (by omega)) look.reader.extAdd
    have low := byteAt_lt (known 5 (by omega))
    have high := byteAt_lt (known 4 (by omega))
    have kind := sscanfHex_at before (known 3 (by omega)) 0
    have crc := sscanfHex_at before (known 6 (by omega)) look.reader.crc
    rw [← from_] at ext kind crc
    have extAdd : unsigned (sscanfHex (strncpy look.buf 9 4) look.reader.extAdd) =
        256 * byteOf look.line 4 + byteOf look.line 5 :=
      (congrArg unsigned ext).trans (unsigned_small (by omega))
    have zero : byteOf look.line 0 = 2 := by
      have fields := extended.2.2
      rw [from_] at fields
      exact byteAt_chars before (digits 0 (by decide)) fields.1 fields.2 rfl rfl
    have agree : lowByte (-((byteOf look.line 3 : Int) + (2 : Nat) +
        (256 * byteOf look.line 4 + byteOf look.line 5 : Nat) + (byteOf look.line 4 : Nat))) =
          lowByte (byteOf look.line 6) := by
      by_contra differ
      refine passes ⟨extended.1, ?_⟩
      have notData : ¬ look.buf 8 = '0' := by
        rcases extended.2.1 with two | four
        · rw [two]
          decide
        · rw [four]
          decide
      have notEnd : ¬ look.buf 8 = '1' := by
        rcases extended.2.1 with two | four
        · rw [two]
          decide
        · rw [four]
          decide
      rw [readRecord, if_neg notData, if_neg notEnd, if_pos extended.2.1, readExtended,
        if_neg (by simp [extended.2.2])]
      dsimp only
      rw [extAdd, high_byte low, kind, crc]
      exact ⟨_, if_pos differ⟩
    have two : List.range 2 = [0, 1] := rfl
    rw [lowByte_neg_eq] at agree
    rw [recordSum_frame, AddressCancels, two]
    simp only [map_cons, map_nil, sum_cons, sum_nil, Nat.add_zero, Nat.reduceAdd]
    rw [show (byteAt look.line 1).getD 0 = byteOf look.line 1 from rfl,
      show (byteAt look.line 2).getD 0 = byteOf look.line 2 from rfl]
    omega
  have length {count : Nat} (first : byteAt look.line 0 = some count) : count = 2 := by
    have fields := extended.2.2
    have zero : byteOf look.line 0 = 2 := by
      rw [from_] at fields
      exact byteAt_chars before (by rw [first]; rfl) fields.1 fields.2 rfl rfl
    rw [← zero, byteOf, first, Option.getD_some]
  constructor
  · rintro ⟨count, first, digits, sum⟩
    obtain rfl := length first
    exact ⟨⟨2, first, digits⟩, (sums digits).1 sum⟩
  · rintro ⟨⟨count, first, digits⟩, cancels⟩
    obtain rfl := length first
    exact ⟨2, first, digits, (sums digits).2 cancels⟩

end

/-- The reader ends; all it stores lies in the buffer of its callers; and a number that it returns is
that of the data bytes stored, all of them and all addresses from correct records. -/
def Trustworthy (unset : Unset) (binbuf : Nat → UInt8) (finp : List Char) : Prop :=
  (∀ last, readMcs unset binbuf finp ≠ .hangs last) ∧
    (∀ look ∈ fileLooks unset binbuf finp, ∀ address ∈ look.stores, address < mcsBufferSize) ∧
    ∀ total last, readMcs unset binbuf finp = .returned total last →
      (∀ look ∈ fileLooks unset binbuf finp, look.IsData ∨ look.IsAddress → Correct look.line) ∧
        total = ((fileLooks unset binbuf finp).map fun look => look.stores.length).sum

/-- Every line looked at begins like a record, every data record lies in the buffer, and, unless the
check of some record fails, every record used is complete, and an extended address has an address
field that cancels. -/
def WellBehaved (unset : Unset) (binbuf : Nat → UInt8) (finp : List Char) : Prop :=
  (∀ look ∈ fileLooks unset binbuf finp, look.IsRecord) ∧
    (∀ look ∈ fileLooks unset binbuf finp, look.IsData →
      look.size = 0 ∨ look.address + look.size ≤ mcsBufferSize) ∧
    ((∃ look ∈ fileLooks unset binbuf finp, look.Fails) ∨
      ∀ look ∈ fileLooks unset binbuf finp, (look.IsData → Complete look.line) ∧
        (look.IsAddress → Complete look.line ∧ AddressCancels look.line))

variable {buf : Nat → Char} {reader : McsReader} {unset : Unset} {binbuf : Nat → UInt8}
  {finp : List Char}

lemma looks_buf :
    ∀ look ∈ looks buf reader lines, ∃ before, look.buf = fgets before look.line := by
  induction lines generalizing buf reader with
  | nil => exact fun look member => absurd member not_mem_nil
  | cons first rest ih =>
    intro look member
    rw [looks] at member
    split at member
    · exact absurd member not_mem_nil
    · rcases mem_cons.1 member with rfl | later
      · exact ⟨buf, rfl⟩
      · split at later
        · exact absurd later not_mem_nil
        · cases step : readRecord (fgets buf first.1) reader with
          | next after =>
            rw [step] at later
            exact ih look later
          | finish after =>
            rw [step] at later
            exact absurd later not_mem_nil
          | abort after =>
            rw [step] at later
            exact absurd later not_mem_nil

lemma stores_inside_iff {look : Look} :
    (∀ address ∈ look.stores, address < mcsBufferSize) ↔
      (look.IsData → look.size = 0 ∨ look.address + look.size ≤ mcsBufferSize) := by
  have start : look.address < 0x100000000 := Nat.mod_lt _ (by decide)
  rw [mcsBufferSize, Look.stores]
  by_cases data : look.IsData
  · rw [if_pos data]
    simp only [data, true_imp_iff, forall_mem_map, mem_range]
    constructor
    · intro inside
      rcases Nat.eq_zero_or_pos look.size with zero | some_
      · exact .inl zero
      · by_contra beyond
        have edge := inside (16 * 1024 * 1024 - look.address) (by omega)
        omega
    · omega
  · rw [if_neg data]
    exact ⟨fun _ is => absurd is data, fun _ address member => absurd member not_mem_nil⟩

lemma readMcs_eq : readMcs unset binbuf finp =
    readLines unset.buf (.unread unset binbuf) (fgetsLines finp []) := rfl

theorem readMcs_trustworthy_iff (unset : Unset) (binbuf : Nat → UInt8) (finp : List Char) :
    Trustworthy unset binbuf finp ↔ WellBehaved unset binbuf finp := by
  have ends : (∀ last, readMcs unset binbuf finp ≠ .hangs last) ↔
      ∀ look ∈ fileLooks unset binbuf finp, look.IsRecord := by
    have hangs := not_congr (@readLines_hangs_iff unset.buf (.unread unset binbuf)
      (fgetsLines finp []))
    rw [not_exists, ← readMcs_eq] at hangs
    rw [hangs, fileLooks]
    simp only [not_exists, not_and, not_not]
  have inside : (∀ look ∈ fileLooks unset binbuf finp, ∀ address ∈ look.stores,
      address < mcsBufferSize) ↔ ∀ look ∈ fileLooks unset binbuf finp, look.IsData →
        look.size = 0 ∨ look.address + look.size ≤ mcsBufferSize :=
    forall₂_congr fun look _ => stores_inside_iff
  have aborts := @readLines_aborted_iff unset.buf (.unread unset binbuf) (fgetsLines finp [])
  rw [← readMcs_eq] at aborts
  have checked (passes : ¬ ∃ look ∈ fileLooks unset binbuf finp, look.Fails) :
      (∀ look ∈ fileLooks unset binbuf finp, look.IsData ∨ look.IsAddress → Correct look.line) ↔
        ∀ look ∈ fileLooks unset binbuf finp, (look.IsData → Complete look.line) ∧
          (look.IsAddress → Complete look.line ∧ AddressCancels look.line) := by
    refine forall₂_congr fun look member => ?_
    obtain ⟨before, from_⟩ := looks_buf look member
    have sound : ¬ look.Fails := fun fails => passes ⟨look, member, fails⟩
    rw [or_imp]
    exact and_congr (imp_congr_right fun data => data_correct_iff from_ data sound)
      (imp_congr_right fun address => address_correct_iff from_ address sound)
  rw [Trustworthy, ends, inside]
  refine and_congr_right fun records => and_congr_right fun _ => ?_
  by_cases fails : ∃ look ∈ fileLooks unset binbuf finp, look.Fails
  · obtain ⟨last, aborted⟩ := aborts.2 fails
    refine ⟨fun _ => Or.inl fails, fun _ total last' returned => ?_⟩
    rw [aborted] at returned
    exact absurd returned (by simp)
  · constructor
    · intro trusted
      refine Or.inr ((checked fails).1 ?_)
      cases result : readMcs unset binbuf finp with
      | returned total last => exact (trusted total last result).1
      | aborted last => exact absurd (aborts.1 ⟨last, result⟩) fails
      | hangs last => exact absurd result (ends.2 records last)
    · rintro (some_ | complete) total last returned
      · exact absurd some_ fails
      · refine ⟨(checked fails).2 complete, ?_⟩
        have counted := readLines_returned (readMcs_eq.symm.trans returned)
        rw [McsReader.unread, Nat.zero_add] at counted
        exact counted

/-- A blank line is looked at again and again. The second line of the next file has none of the
digits its length calls for: what the first one left in the line buffer is checked and stored for
it. The last file writes behind the buffer. -/
theorem readMcs_misses :
    ¬ Trustworthy ⟨fun _ => '0', 0, 0, 0, 0, 0⟩ (fun _ => 0) ['\n'] ∧
      (¬ Trustworthy ⟨fun _ => '0', 0, 0, 0, 0, 0⟩ (fun _ => 0)
          ":0100000041BE\n:01\n:00000001FF\n".toList) ∧
      ¬ Trustworthy ⟨fun _ => '0', 0, 0, 0, 0, 0⟩ (fun _ => 0)
          ":02000004FFFFFC\n:0100000041BE\n:00000001FF\n".toList := by
  refine ⟨fun trusted => trusted.1 _ rfl, fun trusted => ?_, fun trusted => ?_⟩
  · let look := (fileLooks ⟨fun _ => '0', 0, 0, 0, 0, 0⟩ (fun _ => 0)
      ":0100000041BE\n:01\n:00000001FF\n".toList).get ⟨1, by decide +kernel⟩
    obtain ⟨correct, -⟩ := trusted.2.2 2 _ rfl
    obtain ⟨_, -, complete, -⟩ := correct look (get_mem _ _) (Or.inl (by decide +kernel))
    have some_ := complete 1 (by rw [frameSize]; omega)
    exact absurd some_ (by decide)
  · let look := (fileLooks ⟨fun _ => '0', 0, 0, 0, 0, 0⟩ (fun _ => 0)
      ":02000004FFFFFC\n:0100000041BE\n:00000001FF\n".toList).get ⟨1, by decide +kernel⟩
    have inside := trusted.2.1 look (get_mem _ _) 0xFFFF0000 (by decide +kernel)
    exact absurd inside (by decide)

end EmuLib.Vme
