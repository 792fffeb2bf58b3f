import EmuLib.VmeController.BitBangScan

/-!
The functions, as clocks of the device.
-/

namespace EmuLib.VmeController

open TapController List

lemma lastRaised_snoc (bits last) :
    lastRaised (bits ++ [last]) = bits.map (fun tdi => (false, tdi)) ++ [(true, last)] := by
  induction bits with
  | nil => rfl
  | cons tdi rest ih =>
    rw [cons_append, lastRaised, ih]
    · rfl
    · intro none_
      exact append_ne_nil_of_right_ne_nil rest (cons_ne_nil _ _) none_

lemma flatMap_range_words {α} (g : Nat → List α) (words) :
    ∀ rest, (List.range (32 * words + rest)).flatMap g =
      ((List.range words).flatMap fun w => (List.range 32).flatMap fun b => g (32 * w + b)) ++
        (List.range rest).flatMap fun b => g (32 * words + b) := by
  induction words with
  | zero => intro rest; simp
  | succ words ih =>
    intro rest
    have more : 32 * (words + 1) + rest = 32 * words + (32 + rest) := by omega
    have place (b : Nat) : 32 * words + (32 + b) = 32 * (words + 1) + b := by omega
    rw [more, ih, range_add, @range_succ words, flatMap_append, flatMap_append,
      append_assoc, flatMap_map, flatMap_singleton]
    simp only [place]

lemma flatMap_separated {α} (f : Nat → List α) (between words) :
    ((List.range words).flatMap fun w => f w ++ between) ++ f words =
      f 0 ++ (List.range words).flatMap fun w => between ++ f (w + 1) := by
  induction words with
  | zero => simp
  | succ words ih =>
    rw [range_succ, flatMap_append, flatMap_singleton, ← append_assoc, ih]
    simp

variable (port : Port) (ptr : UInt32)

def registerOf (reg : Nat) : Register := if reg = 0 then .instruction else .data

def bitsOf (data : Nat → UInt8) (cnt : Nat) : List Bool := (List.range cnt).map (dataBit data)

def unread (rcv : Option (Nat → UInt8)) (line : Bool × Bool) : Stroke := ⟨false, line, rcv⟩

def shiftStroke (ird : Bool) (line : Bool × Bool) : Stroke := ⟨ird, line, some Port.mytmp⟩

lemma strokeCalls_append (first second) :
    strokeCalls port ptr (first ++ second) =
      strokeCalls port ptr first ++ strokeCalls port ptr second :=
  flatMap_append

lemma unread_calls (rcv tms irdwr) :
    (unread rcv (tms, false)).calls port ptr irdwr =
      port.triple ptr (port.lineWord tms) irdwr rcv := by
  rw [lineWord_eq]
  rfl

variable {reg : Nat}

lemma enterCalls_eq (valid : reg ≤ 1) :
    port.enterCalls ptr reg =
      strokeCalls port ptr ((entry (registerOf reg)).map (unread none)) := by
  have which : reg = 0 ∨ reg = 1 := by omega
  simp only [strokeCalls, flatMap_map]
  rcases which with rfl | rfl
  · simp [Port.enterCalls, registerOf, entry, unread_calls, range']
  · simp [Port.enterCalls, registerOf, entry, unread_calls, range']

lemma idleCalls_eq :
    port.idleCalls ptr =
      strokeCalls port ptr [unread (some Port.mytmp) (true, false)] ++
        (unread (some Port.mytmp) (false, false)).calls port ptr .bufwriteSnd := by
  simp [Port.idleCalls, strokeCalls, unread_calls, range_succ]

lemma extraCalls_eq :
    port.extraCalls ptr =
      strokeCalls port ptr ((leaving ++ entry .data).map (unread none)) := by
  simp [Port.extraCalls, strokeCalls, leaving, entry, unread_calls, range_succ]

lemma shifted_calls (data ird) (raised : Nat → Bool) (irdwr : Nat → Irdwr)
    (behind : Nat → List Call) (start count)
    (low : ∀ b < count, raised (start + b) = false ∧ irdwr (start + b) = .bufwrite ∧
      behind (start + b) = []) :
    ((List.range (count + 1)).flatMap fun b =>
      (Stroke.mk ird (raised (start + b), dataBit data (start + b)) (some Port.mytmp)).calls port
        ptr (irdwr (start + b)) ++ behind (start + b)) =
      strokeCalls port ptr ((List.range count).map fun b =>
        shiftStroke ird (false, dataBit data (start + b))) ++
      ((shiftStroke ird (raised (start + count), dataBit data (start + count))).calls port ptr
        (irdwr (start + count)) ++ behind (start + count)) := by
  rw [range_succ, flatMap_append, flatMap_singleton, strokeCalls, flatMap_map]
  refine congrArg (· ++ _) ?_
  apply flatMap_congr
  intro b member
  obtain ⟨quiet, waits, none_⟩ := low b (mem_range.1 member)
  rw [quiet, waits, none_, append_nil]
  rfl

lemma shiftLoop_calls (data ird raised irdwr count)
    (low : ∀ b < count, raised b = false ∧ irdwr b = .bufwrite) :
    port.shiftLoop ptr data ird raised irdwr (fun _ => []) (count + 1) 0 (.start data) =
      strokeCalls port ptr ((bitsOf data count).map fun tdi => shiftStroke ird (false, tdi)) ++
        (shiftStroke ird (raised count, dataBit data count)).calls port ptr (irdwr count) := by
  have calls := shifted_calls port ptr data ird raised irdwr (fun _ => []) 0 count
    (fun b inside => by
      obtain ⟨quiet, waits⟩ := low b inside
      rw [Nat.zero_add]
      exact ⟨quiet, waits, rfl⟩)
  simp only [Nat.zero_add, append_nil] at calls
  rw [readerAt_zero, shiftLoop_strokes, ← range_eq_range']
  simp only [append_nil, bitsOf, map_map]
  exact calls

lemma lastRaised_bitsOf (data count) :
    lastRaised (bitsOf data (count + 1)) =
      (bitsOf data count).map (fun tdi => (false, tdi)) ++ [(true, dataBit data count)] := by
  rw [bitsOf, range_succ, map_append, map_singleton, lastRaised_snoc]
  rfl

def scanStrokes (reg : Nat) (ird : Bool) (lines : List (Bool × Bool)) : List Stroke :=
  (entry (registerOf reg)).map (unread none) ++ lines.map (shiftStroke ird) ++
    [unread (some Port.mytmp) (true, false)]

def lastStroke : Stroke := unread (some Port.mytmp) (false, false)

lemma scanJtagCalls_eq (data ird) (valid : reg ≤ 1) (count) :
    port.scanJtagCalls ptr reg data (count + 1) ird =
      strokeCalls port ptr (scanStrokes reg ird (lastRaised (bitsOf data (count + 1)))) ++
        lastStroke.calls port ptr .bufwriteSnd := by
  have shifts := shiftLoop_calls port ptr data ird (fun i => decide (i = count + 1 - 1))
    (fun _ => .bufwrite) count (fun b inside => ⟨by simp; omega, rfl⟩)
  rw [Port.scanJtagCalls, if_neg (by omega), enterCalls_eq port ptr valid, idleCalls_eq, shifts,
    lastRaised_bitsOf]
  simp [scanStrokes, strokeCalls, lastStroke, flatMap_map]

lemma shiftBitsCalls_eq (data ird) (valid : reg ≤ 1) (count) :
    port.shiftBitsCalls ptr reg data (count + 1) ird =
      strokeCalls port ptr ((bitsOf data count).map fun tdi => shiftStroke ird (false, tdi)) ++
        (shiftStroke ird (decide (reg = 1), dataBit data count)).calls port ptr .bufwriteSnd := by
  have shifts := shiftLoop_calls port ptr data ird
    (fun i => decide (reg = 1 ∧ i = count + 1 - 1))
    (fun i => if i = count + 1 - 1 then .bufwriteSnd else .bufwrite) count
    (fun b inside => ⟨by simp; omega, if_neg (by omega)⟩)
  rw [Port.shiftBitsCalls, if_neg (by omega), shifts]
  simp

section

def wordAt (data : Nat → UInt8) (cnt w : Nat) : List Bool :=
  (List.range (min 32 (cnt - 32 * w))).map fun b => dataBit data (32 * w + b)

def wordsOf (data : Nat → UInt8) (cnt : Nat) : List (List Bool) :=
  (List.range ((cnt + 31) / 32)).map (wordAt data cnt)

lemma wordAt_full {data cnt w} (full : 32 * w + 32 ≤ cnt) :
    wordAt data cnt w = (List.range 32).map fun b => dataBit data (32 * w + b) := by
  have size : min 32 (cnt - 32 * w) = 32 := by omega
  rw [wordAt, size]

def between : List (Bool × Bool) := leaving ++ entry .data

def wordLines (data : Nat → UInt8) (cnt words : Nat) : List (Bool × Bool) :=
  lastRaised (wordAt data cnt 0) ++
    (List.range words).flatMap fun w => between ++ lastRaised (wordAt data cnt (w + 1))

def betweenStrokes : List Stroke := between.map (unread none)

def wordStrokes (data : Nat → UInt8) (ird : Bool) (cnt w : Nat) : List Stroke :=
  (lastRaised (wordAt data cnt w)).map (shiftStroke ird)

variable (data : Nat → UInt8) (ird : Bool) (cnt : Nat)

def wordRaised (i : Nat) : Bool := decide (i = cnt - 1 ∨ i % 32 = 31)

def wordBehind (i : Nat) : List Call :=
  if i % 32 = 31 ∧ i < cnt - 1 then port.extraCalls ptr else []

lemma word_calls (start count) (low : ∀ b < count, wordRaised cnt (start + b) = false)
    (last : wordRaised cnt (start + count) = true) :
    ((List.range (count + 1)).flatMap fun b =>
      (Stroke.mk ird (wordRaised cnt (start + b), dataBit data (start + b))
        (some Port.mytmp)).calls port ptr .bufwrite ++ wordBehind port ptr cnt (start + b)) =
      strokeCalls port ptr ((lastRaised ((List.range (count + 1)).map fun b =>
        dataBit data (start + b))).map (shiftStroke ird)) ++
        wordBehind port ptr cnt (start + count) := by
  have calls := shifted_calls port ptr data ird (wordRaised cnt) (fun _ => .bufwrite)
    (wordBehind port ptr cnt) start count (fun b inside => by
      have quiet := low b inside
      refine ⟨quiet, rfl, ?_⟩
      have inner : ¬((start + b) % 32 = 31 ∧ start + b < cnt - 1) := by
        intro full
        simp only [wordRaised, decide_eq_false_iff_not] at quiet
        exact quiet (Or.inr full.1)
      rw [wordBehind, if_neg inner])
  rw [calls, last, range_succ, map_append, map_singleton, lastRaised_snoc]
  simp [strokeCalls, flatMap_map, flatMap_append]

lemma scanWordCalls_eq (valid : reg ≤ 1) (positive : 1 ≤ cnt) :
    port.scanWordCalls ptr reg data cnt ird =
      strokeCalls port ptr
        ((entry (registerOf reg)).map (unread none) ++
          (wordStrokes data ird cnt 0 ++ (List.range ((cnt - 1) / 32)).flatMap fun w =>
            betweenStrokes ++ wordStrokes data ird cnt (w + 1)) ++
          [unread (some Port.mytmp) (true, false)]) ++
        lastStroke.calls port ptr .bufwriteSnd := by
  have size : cnt = 32 * ((cnt - 1) / 32) + ((cnt - 1) % 32 + 1) := by omega
  have full (w : Nat) (inside : w < (cnt - 1) / 32) :
      ((List.range 32).flatMap fun b =>
        (Stroke.mk ird (wordRaised cnt (32 * w + b), dataBit data (32 * w + b))
          (some Port.mytmp)).calls port ptr .bufwrite ++ wordBehind port ptr cnt (32 * w + b)) =
        strokeCalls port ptr (wordStrokes data ird cnt w ++ betweenStrokes) := by
    have calls := word_calls port ptr data ird cnt (32 * w) 31
      (fun b inner => by simp only [wordRaised, decide_eq_false_iff_not]; omega)
      (by simp only [wordRaised, decide_eq_true_eq]; omega)
    have behind : wordBehind port ptr cnt (32 * w + 31) = strokeCalls port ptr betweenStrokes := by
      rw [wordBehind, if_pos (by omega), extraCalls_eq]
      rfl
    rw [calls, behind, strokeCalls_append, wordStrokes, wordAt_full (by omega)]
  have rest : ((List.range ((cnt - 1) % 32 + 1)).flatMap fun b =>
      (Stroke.mk ird (wordRaised cnt (32 * ((cnt - 1) / 32) + b),
        dataBit data (32 * ((cnt - 1) / 32) + b)) (some Port.mytmp)).calls port ptr .bufwrite ++
          wordBehind port ptr cnt (32 * ((cnt - 1) / 32) + b)) =
      strokeCalls port ptr (wordStrokes data ird cnt ((cnt - 1) / 32)) := by
    have calls := word_calls port ptr data ird cnt (32 * ((cnt - 1) / 32)) ((cnt - 1) % 32)
      (fun b inner => by simp only [wordRaised, decide_eq_false_iff_not]; omega)
      (by simp only [wordRaised, decide_eq_true_eq]; omega)
    have behind : wordBehind port ptr cnt (32 * ((cnt - 1) / 32) + (cnt - 1) % 32) = [] := by
      rw [wordBehind, if_neg (by omega)]
    have left : min 32 (cnt - 32 * ((cnt - 1) / 32)) = (cnt - 1) % 32 + 1 := by omega
    rw [calls, behind, append_nil, wordStrokes, wordAt, left]
  have shifts : port.shiftLoop ptr data ird (wordRaised cnt) (fun _ => .bufwrite)
      (wordBehind port ptr cnt) cnt 0 (.start data) =
      strokeCalls port ptr (wordStrokes data ird cnt 0 ++
        (List.range ((cnt - 1) / 32)).flatMap fun w =>
          betweenStrokes ++ wordStrokes data ird cnt (w + 1)) := by
    have words := flatMap_range_words (fun i =>
      (Stroke.mk ird (wordRaised cnt i, dataBit data i) (some Port.mytmp)).calls port ptr
        .bufwrite ++ wordBehind port ptr cnt i) ((cnt - 1) / 32) ((cnt - 1) % 32 + 1)
    rw [← size] at words
    rw [readerAt_zero, shiftLoop_strokes, ← range_eq_range', words, rest,
      flatMap_congr fun w member => full w (mem_range.1 member),
      ← flatMap_separated (wordStrokes data ird cnt) betweenStrokes, strokeCalls_append]
    simp only [strokeCalls, flatMap_assoc]
  rw [Port.scanWordCalls, if_neg (by omega), enterCalls_eq port ptr valid, idleCalls_eq,
    strokeCalls_append, strokeCalls_append, ← shifts]
  simp only [append_assoc]
  rfl

end

end EmuLib.VmeController
