import Mathlib.Data.List.Basic

/-!
A ring buffer that keeps records of different lengths in one memory and their
descriptions in another.  Whoever follows the records, the writer or a reader,
moves one cursor through both memories and takes it back to the start of both
by the same rule.
-/

namespace EmuLib.RingCursor

open List

structure Layout where
  bufEnd : Nat
  bufEventEnd : Nat
  ringSize : Nat

structure Record where
  length : Nat
  endsEvent : Bool
  deriving DecidableEq

structure Cursor where
  buf : Nat
  ring : Nat
  lap : Nat
  deriving DecidableEq

def Cursor.start : Cursor := ⟨0, 0, 0⟩

def Layout.loopsBack (layout : Layout) (endsEvent : Bool) (buf ring : Nat) : Bool :=
  (endsEvent && decide (buf > layout.bufEventEnd)) || decide (buf > layout.bufEnd) ||
    decide (ring ≥ layout.ringSize)

def advance (layout : Layout) (cursor : Cursor) (record : Record) : Cursor :=
  if layout.loopsBack record.endsEvent (cursor.buf + record.length) (cursor.ring + 1) then
    ⟨0, 0, cursor.lap + 1⟩
  else
    ⟨cursor.buf + record.length, cursor.ring + 1, cursor.lap⟩

def cursorFrom (layout : Layout) (cursor : Cursor) (records : List Record) : Cursor :=
  records.foldl (advance layout) cursor

def cursorAfter (layout : Layout) (records : List Record) : Cursor :=
  cursorFrom layout Cursor.start records

def totalLength : List Record → Nat
  | [] => 0
  | record :: rest => record.length + totalLength rest

def WithinLap (writer reader : Cursor) : Prop :=
  writer.lap = reader.lap ∨
    (writer.lap = reader.lap + 1 ∧ writer.buf < reader.buf ∧ writer.ring ≤ reader.ring)

instance (writer reader : Cursor) : Decidable (WithinLap writer reader) :=
  inferInstanceAs (Decidable (_ ∨ _))

section

variable {layout : Layout}

variable (layout) in
lemma loopsBack_iff (endsEvent : Bool) (buf ring : Nat) :
    layout.loopsBack endsEvent buf ring = true ↔
      (endsEvent = true ∧ buf > layout.bufEventEnd) ∨ buf > layout.bufEnd ∨
        ring ≥ layout.ringSize := by
  simp only [Layout.loopsBack, Bool.or_eq_true, Bool.and_eq_true, decide_eq_true_eq, or_assoc]

@[simp] lemma totalLength_nil : totalLength [] = 0 := rfl

@[simp] lemma totalLength_cons (record records) :
    totalLength (record :: records) = record.length + totalLength records := rfl

@[simp] lemma cursorFrom_nil (cursor) : cursorFrom layout cursor [] = cursor := rfl

@[simp] lemma cursorFrom_cons (cursor record records) :
    cursorFrom layout cursor (record :: records) =
      cursorFrom layout (advance layout cursor record) records := rfl

@[simp] lemma cursorFrom_append (cursor first second) :
    cursorFrom layout cursor (first ++ second) =
      cursorFrom layout (cursorFrom layout cursor first) second := by
  simp [cursorFrom]

@[simp] lemma cursorAfter_nil : cursorAfter layout [] = Cursor.start := rfl

lemma cursorAfter_append (first second) :
    cursorAfter layout (first ++ second) = cursorFrom layout (cursorAfter layout first) second := by
  simp [cursorAfter]

lemma cursorAfter_snoc (records record) :
    cursorAfter layout (records ++ [record]) =
      advance layout (cursorAfter layout records) record := by
  simp [cursorAfter_append]

lemma cursorAfter_take_succ (records : List Record) (index bound) :
    cursorAfter layout (records.take (index + 1)) =
      advance layout (cursorAfter layout (records.take index)) records[index] := by
  rw [take_succ_eq_append_getElem bound, cursorAfter_snoc]

variable (layout) in
lemma advance_cases (cursor : Cursor) (record : Record) :
    advance layout cursor record = ⟨0, 0, cursor.lap + 1⟩ ∨
      advance layout cursor record =
        ⟨cursor.buf + record.length, cursor.ring + 1, cursor.lap⟩ := by
  unfold advance
  split
  · exact .inl rfl
  · exact .inr rfl

variable (layout) in
lemma lap_le_advance (cursor : Cursor) (record : Record) :
    cursor.lap ≤ (advance layout cursor record).lap := by
  rcases advance_cases layout cursor record with looped | moved
  · simp [looped]
  · simp [moved]

variable (layout) in
lemma lap_le_cursorFrom (cursor : Cursor) (records : List Record) :
    cursor.lap ≤ (cursorFrom layout cursor records).lap := by
  induction records generalizing cursor with
  | nil => simp
  | cons record rest ih =>
    exact Nat.le_trans (lap_le_advance _ cursor record) (ih (advance layout cursor record))

lemma cursorFrom_sameLap (cursor records)
    (same : (cursorFrom layout cursor records).lap = cursor.lap) :
    (cursorFrom layout cursor records).buf = cursor.buf + totalLength records ∧
      (cursorFrom layout cursor records).ring = cursor.ring + records.length := by
  induction records generalizing cursor with
  | nil => simp
  | cons record rest ih =>
    have later := lap_le_cursorFrom layout (advance layout cursor record) rest
    rw [cursorFrom_cons] at same ⊢
    rcases advance_cases layout cursor record with looped | moved
    · rw [looped] at later same
      simp only at later
      omega
    · rw [moved] at same ⊢
      have tail := ih _ same
      simp only [totalLength_cons, length_cons] at tail ⊢
      omega

lemma cursorAfter_take_from (records index) :
    cursorAfter layout records =
      cursorFrom layout (cursorAfter layout (records.take index)) (records.drop index) := by
  rw [← cursorAfter_append, take_append_drop]

lemma cursorAfter_take_take (records : List Record) {early late} (order : early ≤ late) :
    cursorAfter layout (records.take late) =
      cursorFrom layout (cursorAfter layout (records.take early))
        ((records.take late).drop early) := by
  rw [cursorAfter_take_from (records.take late) early, take_take, Nat.min_eq_left order]

variable (layout) in
lemma lap_le_later (records : List Record) {early late : Nat} (order : early ≤ late) :
    (cursorAfter layout (records.take early)).lap ≤
      (cursorAfter layout (records.take late)).lap := by
  rw [cursorAfter_take_take records order]
  exact lap_le_cursorFrom _ _ _

variable (layout) in
lemma later_sameLap (records : List Record) {early late : Nat} (order : early ≤ late)
    (bound : late ≤ records.length)
    (same : (cursorAfter layout (records.take late)).lap =
      (cursorAfter layout (records.take early)).lap) :
    (cursorAfter layout (records.take late)).buf =
        (cursorAfter layout (records.take early)).buf +
          totalLength ((records.take late).drop early) ∧
      (cursorAfter layout (records.take late)).ring =
        (cursorAfter layout (records.take early)).ring + (late - early) := by
  rw [cursorAfter_take_take records order] at same ⊢
  have moved := cursorFrom_sameLap _ _ same
  rw [length_drop, length_take, Nat.min_eq_left bound] at moved
  exact moved

end

variable {layout : Layout} {records : List Record}

lemma withinLap_later {writer early late} (order : early ≤ late) (bound : late ≤ records.length)
    (before : (cursorAfter layout (records.take late)).lap ≤ writer.lap)
    (within : WithinLap writer (cursorAfter layout (records.take early))) :
    WithinLap writer (cursorAfter layout (records.take late)) := by
  have laps := lap_le_later layout records order
  rcases within with same | ⟨ahead, bufBehind, ringBehind⟩
  · exact .inl (by omega)
  · by_cases same : (cursorAfter layout (records.take late)).lap =
      (cursorAfter layout (records.take early)).lap
    · have moved := later_sameLap _ records order bound same
      exact .inr (by omega)
    · exact .inl (by omega)

variable (layout) in
/-- What a writer within a lap of the reader writes next touches no record that the
reader has still to read. -/
lemma next_disjoint (record : Record) {reader unread : Nat} (order : reader ≤ unread)
    (bound : unread < records.length)
    (within : WithinLap (advance layout (cursorAfter layout records) record)
      (cursorAfter layout (records.take reader))) :
    (cursorAfter layout records).ring ≠ (cursorAfter layout (records.take unread)).ring ∧
      ((cursorAfter layout records).buf + record.length ≤
          (cursorAfter layout (records.take unread)).buf ∨
        (cursorAfter layout (records.take unread)).buf + records[unread].length ≤
          (cursorAfter layout records).buf) := by
  have readerLap := lap_le_later layout records order
  have unreadLap := lap_le_later layout records (Nat.le_of_lt bound)
  have nextLap := lap_le_later layout records (Nat.le_succ unread)
  have writerLap := lap_le_later layout records (Nat.succ_le_of_lt bound)
  rw [take_length] at unreadLap writerLap
  by_cases same : (cursorAfter layout records).lap =
      (cursorAfter layout (records.take unread)).lap
  · have afterUnread := later_sameLap layout records (Nat.le_succ unread)
      (Nat.succ_le_of_lt bound) (by omega)
    have writer := later_sameLap layout records (Nat.succ_le_of_lt bound) (Nat.le_refl _)
      (by rw [take_length]; omega)
    rw [take_length] at writer
    have dropped : (records.take (unread + 1)).drop unread = [records[unread]] := by
      rw [take_succ_eq_append_getElem bound, drop_left' (by simp; omega)]
    simp only [Nat.succ_eq_add_one, dropped, totalLength_cons, totalLength_nil] at afterUnread
    simp only [Nat.succ_eq_add_one] at writer
    omega
  · rcases advance_cases layout (cursorAfter layout records) record with looped | moved
    · rw [looped] at within
      rcases within with within | within <;> simp only at within <;> omega
    · rw [moved] at within
      rcases within with within | ⟨ahead, bufBehind, ringBehind⟩
      · simp only at within
        omega
      · simp only at ahead bufBehind ringBehind
        have unreadMoved := later_sameLap layout records order (Nat.le_of_lt bound)
          (by omega)
        omega

/-- The data pointers of writer and reader tell whether there is anything to read. -/
lemma buf_ne_of_unread (positive : ∀ record ∈ records, 0 < record.length) {reader}
    (bound : reader < records.length)
    (within : WithinLap (cursorAfter layout records)
      (cursorAfter layout (records.take reader))) :
    (cursorAfter layout records).buf ≠ (cursorAfter layout (records.take reader)).buf := by
  rcases within with same | ⟨_, bufBehind, _⟩
  · have moved := later_sameLap layout records (Nat.le_of_lt bound) (Nat.le_refl _)
      (by rw [take_length]; exact same)
    rw [take_length, drop_eq_getElem_cons bound, totalLength_cons] at moved
    have := positive records[reader] (getElem_mem bound)
    omega
  · omega

/-- The writer is past the first record of its lap whenever it is in the reader's lap and
has left it something to read. -/
lemma ring_pos_of_unread {reader} (bound : reader < records.length)
    (same : (cursorAfter layout records).lap =
      (cursorAfter layout (records.take reader)).lap) :
    0 < (cursorAfter layout records).ring := by
  have moved := later_sameLap layout records (Nat.le_of_lt bound) (Nat.le_refl _)
    (by rw [take_length]; exact same)
  rw [take_length] at moved
  omega

end EmuLib.RingCursor
