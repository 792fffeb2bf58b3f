import Mathlib.Data.List.Basic

/-!
The comparison of an EPROM that has been read back with its reference, and when it counts and
records the bits that differ.
-/

namespace EmuLib.Daqmb.EpromReadback

open List

abbrev Line := Fin 4 → BitVec 8

structure BadBit where
  wrd : Nat
  bit : Nat
  typ : Bool
deriving DecidableEq

structure Statistics where
  NBBTOT : BitVec 32
  bad : List BadBit
deriving DecidableEq

def Statistics.count (statistics : Statistics) (bad : BadBit) : Statistics where
  NBBTOT := statistics.NBBTOT + 1
  bad := if statistics.bad.length < 20 then statistics.bad ++ [bad] else statistics.bad

def bitAt (byte : BitVec 8) (j : Nat) : Bool := ((byte.signExtend 32).sshiftRight j).getLsbD 0

def nbbBit (i j : Nat) : Nat := 4 * i + 16 - j + 1

def compareByte (wrds i : Nat) (tgot texp : BitVec 8) (statistics : Statistics) : Statistics :=
  if tgot = texp then statistics
  else
    (List.range 16).foldl
      (fun statistics j =>
        if bitAt texp j != bitAt tgot j then statistics.count ⟨wrds, nbbBit i j, bitAt tgot j⟩
        else statistics)
      statistics

/-- Bit 7 of the last byte of every 128th line is to be ignored. -/
def masked (wrds : Nat) (line : Line) : Line := fun i =>
  if (wrds + 1) % 128 = 0 ∧ i.val = 3 then line i &&& 0x7f else line i

/-- At the end of the reference `fgets` leaves the buffer as it is, with the line read back. -/
def compareLines : Nat → List Line → List Line → Statistics → Statistics
  | _, [], _, statistics => statistics
  | wrds, tgot :: got, exp, statistics =>
    let texp := exp.headD tgot
    compareLines (wrds + 1) got exp.tail
      ((List.finRange 4).foldl
        (fun statistics i =>
          compareByte wrds i.val (masked wrds tgot i) (masked wrds texp i) statistics)
        statistics)

def checkEpromReadback (rbkfile expfile : Option (List Line)) : Int × Statistics :=
  match expfile, rbkfile with
  | some exp, some got => (0, compareLines 0 got exp ⟨0, []⟩)
  | _, _ => (-1, ⟨0, []⟩)

section

structure Position where
  line : Nat
  byte : Nat
  bit : Nat
  value : Bool
deriving DecidableEq

def Position.recorded (position : Position) : BadBit :=
  ⟨position.line, nbbBit position.byte position.bit, position.value⟩

def byteDiffers (line byte : Nat) (tgot texp : BitVec 8) : List Position :=
  ((List.range 8).filter fun bit => texp.getLsbD bit != tgot.getLsbD bit).map
    fun bit => ⟨line, byte, bit, tgot.getLsbD bit⟩

def lineDiffers (line : Nat) (tgot texp : Line) : List Position :=
  (List.finRange 4).flatMap fun i =>
    byteDiffers line i.val (masked line tgot i) (masked line texp i)

def differing : Nat → List Line → List Line → List Position
  | line, tgot :: got, texp :: exp => lineDiffers line tgot texp ++ differing (line + 1) got exp
  | _, [], _ | _, _ :: _, [] => []

def image : Nat → List Line → List Line
  | _, [] => []
  | line, first :: rest => masked line first :: image (line + 1) rest

/-- The statistics are those of the differences; what is recorded tells bytes and bits apart. -/
structure Right (got exp : List Line) (statistics : Statistics) : Prop where
  total : got.length = exp.length →
    statistics.NBBTOT.toNat = (differing 0 got exp).length
  more : got.length ≠ exp.length →
    (differing 0 got exp).length < statistics.NBBTOT.toNat
  recorded : statistics.bad =
    ((differing 0 got exp).take (min statistics.NBBTOT.toNat 20)).map Position.recorded
  apart : ∀ position ∈ (differing 0 got exp).take 20, ∀ byte < 4, ∀ bit < 8,
    nbbBit byte bit = nbbBit position.byte position.bit →
      byte = position.byte ∧ bit = position.bit
  zero : statistics.NBBTOT = 0 ↔ image 0 got = image 0 exp

def timesCounted (positions : List Position) : Nat :=
  (positions.length + 8 * positions.countP (·.bit = 7)) % 4294967296

/-- The number comes out right nevertheless; no top bit is among the first 19 differences; and the
first 20 are in the high half of the first byte or in the low half of the last one. -/
structure Fortunate (got exp : List Line) : Prop where
  same : got.length = exp.length →
    timesCounted (differing 0 got exp) = (differing 0 got exp).length
  other : got.length ≠ exp.length →
    (differing 0 got exp).length < timesCounted (differing 0 got exp)
  noTop : ∀ position ∈ (differing 0 got exp).take 19, position.bit ≠ 7
  outer : ∀ position ∈ (differing 0 got exp).take 20,
    (position.byte = 0 ∧ 4 ≤ position.bit) ∨ (position.byte = 3 ∧ position.bit < 4)

variable {got exp : List Line} {line byte : Nat} {statistics : Statistics}
  {positions : List Position} {position : Position}

lemma bitAt_eq (value) {j} (inside : j < 16) : bitAt value j = value.getLsbD (min j 7) := by
  rw [bitAt, BitVec.getLsbD_sshiftRight, BitVec.getLsbD_signExtend, BitVec.msb_eq_getLsbD_last]
  rcases Nat.lt_or_ge j 8 with low | high
  · rw [Nat.min_eq_left (Nat.le_of_lt_succ low)]
    simp [low, Nat.lt_trans inside (show 16 < 32 by decide)]
  · rw [Nat.min_eq_right (Nat.le_of_succ_le high)]
    simp [Nat.not_lt.2 high, Nat.lt_trans inside (show 16 < 32 by decide)]

def Position.counted (position : Position) : List BadBit :=
  (if position.bit = 7 then List.range' 7 9 else [position.bit]).map
    fun j => ⟨position.line, nbbBit position.byte j, position.value⟩

lemma counted_low (low : position.bit ≠ 7) : position.counted = [position.recorded] := by
  rw [Position.counted, if_neg low]
  rfl

lemma counted_length (position : Position) :
    position.counted.length = 1 + 8 * if position.bit = 7 then 1 else 0 := by
  rw [Position.counted]
  split <;> rfl

lemma byteDiffers_counted (tgot texp) :
    ((List.range 16).filter fun j => bitAt texp j != bitAt tgot j).map
        (fun j => (⟨line, nbbBit byte j, bitAt tgot j⟩ : BadBit)) =
      (byteDiffers line byte tgot texp).flatMap Position.counted := by
  have lows : ∀ js : List Nat, (∀ j ∈ js, j < 7) →
      (js.filter fun j => bitAt texp j != bitAt tgot j).map
          (fun j => (⟨line, nbbBit byte j, bitAt tgot j⟩ : BadBit)) =
        ((js.filter fun bit => texp.getLsbD bit != tgot.getLsbD bit).map
          fun bit => (⟨line, byte, bit, tgot.getLsbD bit⟩ : Position)).flatMap
            Position.counted := by
    intro js low
    induction js with
    | nil => rfl
    | cons j js ih =>
      have small := low j mem_cons_self
      have rest := ih fun other among => low other (mem_cons_of_mem _ among)
      have plain := fun value : BitVec 8 =>
        (bitAt_eq value (Nat.lt_trans small (by decide))).trans
          (congrArg _ (Nat.min_eq_left (Nat.le_of_lt small)))
      rw [filter_cons, filter_cons, plain, plain]
      split
      · rw [map_cons, map_cons, flatMap_cons, rest, plain, counted_low (Nat.ne_of_lt small)]
        rfl
      · exact rest
  have highs : ∀ j ∈ range' 7 9, ∀ value : BitVec 8, bitAt value j = value.getLsbD 7 := by
    intro j among value
    obtain ⟨from7, below⟩ := mem_range'_1.1 among
    exact (bitAt_eq value below).trans (congrArg _ (Nat.min_eq_right from7))
  have all : List.range 16 = List.range 7 ++ range' 7 9 := by decide
  have eight : List.range 8 = List.range 7 ++ [7] := by decide
  have tops : (range' 7 9).filter (fun j => bitAt texp j != bitAt tgot j) =
      (range' 7 9).filter fun _ => texp.getLsbD 7 != tgot.getLsbD 7 :=
    filter_congr fun j among => by rw [highs j among, highs j among]
  rw [byteDiffers, all, eight, filter_append, filter_append, map_append,
    map_append, flatMap_append, lows _ fun _ => mem_range.1, tops]
  refine congrArg _ ?_
  rw [filter_singleton]
  cases texp.getLsbD 7 != tgot.getLsbD 7 with
  | false =>
    rfl
  | true =>
    change _ = [(⟨line, byte, 7, tgot.getLsbD 7⟩ : Position)].flatMap Position.counted
    rw [flatMap_singleton]
    exact map_congr_left fun j among => by rw [highs j among]

lemma compareByte_eq (tgot texp statistics) :
    compareByte line byte tgot texp statistics =
      ((byteDiffers line byte tgot texp).flatMap Position.counted).foldl .count statistics := by
  rw [← byteDiffers_counted, foldl_map, foldl_filter, compareByte]
  split
  · next same => simp [same]
  · rfl

lemma compareLine_eq (tgot texp) (is : List (Fin 4)) (statistics) :
    is.foldl (fun statistics i =>
        compareByte line i.val (masked line tgot i) (masked line texp i) statistics) statistics =
      ((is.flatMap fun i => byteDiffers line i.val (masked line tgot i) (masked line texp i)).flatMap
        Position.counted).foldl .count statistics := by
  induction is generalizing statistics with
  | nil => rfl
  | cons i is ih =>
    rw [foldl_cons, ih, compareByte_eq, flatMap_cons, flatMap_append, foldl_append]

lemma byteDiffers_nil {tgot texp} : byteDiffers line byte tgot texp = [] ↔ tgot = texp := by
  rw [byteDiffers, map_eq_nil_iff, filter_eq_nil_iff]
  constructor
  · intro none_
    refine BitVec.eq_of_getLsbD_eq fun bit inside => ?_
    have same := none_ bit (mem_range.2 inside)
    rw [bne_iff_ne, not_not] at same
    exact same.symm
  · rintro rfl bit _
    rw [bne_iff_ne, not_not]

lemma lineDiffers_nil {tgot texp} :
    lineDiffers line tgot texp = [] ↔ masked line tgot = masked line texp := by
  rw [lineDiffers, flatMap_eq_nil_iff]
  constructor
  · intro none_
    exact funext fun i => byteDiffers_nil.1 (none_ i (mem_finRange i))
  · intro same i _
    exact byteDiffers_nil.2 (congrFun same i)

lemma compareLines_eq (line got exp statistics) :
    compareLines line got exp statistics =
      ((differing line got exp).flatMap Position.counted).foldl .count statistics := by
  induction got generalizing line exp statistics with
  | nil => rfl
  | cons tgot got ih =>
    have first := @compareLine_eq line tgot (exp.headD tgot) (finRange 4) statistics
    rw [compareLines, ih, first]
    cases exp with
    | nil =>
      have none_ : lineDiffers line tgot tgot = [] := lineDiffers_nil.2 rfl
      have end_ : differing (line + 1) got [] = [] := by cases got <;> rfl
      change ((differing (line + 1) got []).flatMap _).foldl _
        (((lineDiffers line tgot tgot).flatMap _).foldl _ _) = _
      rw [none_, end_]
      rfl
    | cons texp exp =>
      rw [differing, flatMap_append, foldl_append]
      rfl

lemma image_eq_iff (line got exp) :
    image line got = image line exp ↔
      got.length = exp.length ∧ differing line got exp = [] := by
  induction got generalizing line exp with
  | nil => cases exp <;> simp [image, differing]
  | cons tgot got ih =>
    cases exp with
    | nil => simp [image]
    | cons texp exp =>
      rw [image, image, List.cons.injEq, ih, differing, append_eq_nil_iff, lineDiffers_nil,
        length_cons, length_cons, Nat.add_right_cancel_iff]
      exact and_left_comm

lemma foldl_count (entries : List BadBit) (few : statistics.bad.length ≤ 20) :
    entries.foldl .count statistics =
      ⟨statistics.NBBTOT + BitVec.ofNat 32 entries.length, (statistics.bad ++ entries).take 20⟩ := by
  induction entries generalizing statistics with
  | nil =>
    rw [append_nil, take_of_length_le few]
    simp
  | cons entry entries ih =>
    have still : (statistics.count entry).bad.length ≤ 20 := by
      rw [Statistics.count]
      split
      · rw [length_append]
        assumption
      · exact few
    rw [foldl_cons, ih still, Statistics.count]
    congr 1
    · rw [length_cons, BitVec.ofNat_add, BitVec.add_assoc, BitVec.add_comm 1]
      rfl
    · split
      · rw [append_assoc]
        rfl
      · have full : statistics.bad.length = 20 := by omega
        rw [take_append_of_le_length (Nat.le_of_eq full.symm),
          take_append_of_le_length (Nat.le_of_eq full.symm)]

lemma flatMap_counted_length (positions : List Position) :
    (positions.flatMap Position.counted).length =
      positions.length + 8 * positions.countP (·.bit = 7) := by
  induction positions with
  | nil => rfl
  | cons position positions ih =>
    rw [flatMap_cons, length_append, counted_length, countP_cons, length_cons]
    simp only [decide_eq_true_eq]
    omega

def Behind (early late : Position) : Prop :=
  late.bit < 8 ∧ (early.bit = 7 → early.line ≠ late.line ∨ early.byte < late.byte)

lemma lineDiffers_mem {tgot texp} (among : position ∈ lineDiffers line tgot texp) :
    position.line = line ∧ position.bit < 8 ∧ position.byte < 4 := by
  obtain ⟨i, _, among⟩ := mem_flatMap.1 among
  obtain ⟨bit, differs, rfl⟩ := mem_map.1 among
  exact ⟨rfl, mem_range.1 (mem_filter.1 differs).1, i.isLt⟩

lemma lineDiffers_behind (tgot texp) : (lineDiffers line tgot texp).Pairwise Behind := by
  rw [lineDiffers, pairwise_flatMap]
  constructor
  · intro i _
    rw [byteDiffers, pairwise_map]
    refine ((pairwise_lt_range).filter _).imp_of_mem ?_
    intro early late _ among less
    have inside := mem_range.1 (mem_filter.1 among).1
    refine ⟨inside, fun top => ?_⟩
    dsimp only at top
    omega
  · refine (pairwise_lt_finRange 4).imp ?_
    intro i k less early first late second
    obtain ⟨_, _, rfl⟩ := mem_map.1 first
    obtain ⟨bit, differs, rfl⟩ := mem_map.1 second
    exact ⟨mem_range.1 (mem_filter.1 differs).1, fun _ => .inr less⟩

lemma differing_mem (among : position ∈ differing line got exp) :
    line ≤ position.line ∧ position.bit < 8 ∧ position.byte < 4 := by
  induction got generalizing line exp with
  | nil => cases among
  | cons tgot got ih =>
    cases exp with
    | nil => cases among
    | cons texp exp =>
      rcases mem_append.1 among with first | later
      · obtain ⟨here, inside⟩ := lineDiffers_mem first
        exact ⟨Nat.le_of_eq here.symm, inside⟩
      · obtain ⟨later, inside⟩ := ih later
        exact ⟨Nat.le_of_succ_le later, inside⟩

lemma differing_behind (line got exp) : (differing line got exp).Pairwise Behind := by
  induction got generalizing line exp with
  | nil => exact .nil
  | cons tgot got ih =>
    cases exp with
    | nil => exact .nil
    | cons texp exp =>
      rw [differing, pairwise_append]
      refine ⟨lineDiffers_behind tgot texp, ih _ _, fun early first late second => ?_⟩
      obtain ⟨beyond, inside, _⟩ := differing_mem second
      obtain ⟨here, _⟩ := lineDiffers_mem first
      exact ⟨inside, fun _ => .inl (by omega)⟩

/-- Just the differing positions are recorded unless one before the last of them is a top bit. -/
lemma take_counted_iff (count) (behind : positions.Pairwise Behind) :
    (positions.flatMap Position.counted).take (count + 1) =
        (positions.take (count + 1)).map Position.recorded ↔
      ∀ position ∈ positions.take count, position.bit ≠ 7 := by
  induction count generalizing positions with
  | zero =>
    refine iff_of_true ?_ fun _ none_ => absurd none_ not_mem_nil
    cases positions with
    | nil => rfl
    | cons first rest =>
      rw [flatMap_cons, Position.counted]
      split
      · next top => simp [range', Position.recorded, top]
      · rfl
  | succ count ih =>
    cases positions with
    | nil => simp
    | cons first rest =>
      obtain ⟨later, behind⟩ := pairwise_cons.1 behind
      rw [take_succ_cons, take_succ_cons, forall_mem_cons, ← ih behind, map_cons, flatMap_cons]
      by_cases top : first.bit = 7
      · refine iff_of_false ?_ fun both => both.1 top
        rw [Position.counted, if_pos top]
        intro same
        have second := congrArg (·[1]?) same
        cases rest with
        | nil => simp [range'] at second
        | cons next rest =>
          obtain ⟨inside, apart⟩ := later next mem_cons_self
          simp [range', Position.recorded, nbbBit] at second
          obtain ⟨line, code, _⟩ := second
          rcases apart top with other | less
          · exact other line
          · omega
      · rw [counted_low top, singleton_append, take_succ_cons, List.cons.injEq]
        exact ⟨fun same => ⟨top, same.2⟩, fun both => ⟨rfl, both.2⟩⟩

lemma apart_iff (inside : position.bit < 8) (within : position.byte < 4) :
    (∀ byte < 4, ∀ bit < 8, nbbBit byte bit = nbbBit position.byte position.bit →
      byte = position.byte ∧ bit = position.bit) ↔
    (position.byte = 0 ∧ 4 ≤ position.bit) ∨ (position.byte = 3 ∧ position.bit < 4) := by
  simp only [nbbBit]
  constructor
  · intro apart
    by_contra inner
    by_cases upper : 4 ≤ position.bit
    · have other := apart (position.byte - 1) (by omega) (position.bit - 4) (by omega) (by omega)
      omega
    · have other := apart (position.byte + 1) (by omega) (position.bit + 4) (by omega) (by omega)
      omega
  · omega

end

variable (got exp : List Line)

lemma compared_eq : (checkEpromReadback (some got) (some exp)).2 =
    ⟨BitVec.ofNat 32 ((differing 0 got exp).flatMap Position.counted).length,
      ((differing 0 got exp).flatMap Position.counted).take 20⟩ := by
  have few : (⟨0, []⟩ : Statistics).bad.length ≤ 20 := Nat.zero_le 20
  rw [checkEpromReadback, compareLines_eq, foldl_count _ few]
  exact congrArg (Statistics.mk · _) (BitVec.zero_add _)

/-- A bit with a place of its own is in the high half of the first byte, or in the low half of the
last one. -/
theorem checkEpromReadback_right_iff :
    Right got exp (checkEpromReadback (some got) (some exp)).2 ↔ Fortunate got exp := by
  have inside : ∀ position ∈ (differing 0 got exp).take 20,
      position.bit < 8 ∧ position.byte < 4 :=
    fun position among => (differing_mem (mem_of_mem_take among)).2
  have exact_ := take_counted_iff 19 (differing_behind 0 got exp)
  have number : (BitVec.ofNat 32
      ((differing 0 got exp).flatMap Position.counted).length).toNat =
        timesCounted (differing 0 got exp) := by
    rw [flatMap_counted_length]
    rfl
  have enough : (got.length = exp.length →
        timesCounted (differing 0 got exp) = (differing 0 got exp).length) →
      (got.length ≠ exp.length →
        (differing 0 got exp).length < timesCounted (differing 0 got exp)) →
      (differing 0 got exp).take (min (timesCounted (differing 0 got exp)) 20) =
        (differing 0 got exp).take 20 := by
    intro same other
    have all : (differing 0 got exp).length ≤ timesCounted (differing 0 got exp) := by
      by_cases long : got.length = exp.length
      · exact Nat.le_of_eq (same long).symm
      · exact Nat.le_of_lt (other long)
    rcases Nat.le_total 20 (timesCounted (differing 0 got exp)) with many | few
    · rw [Nat.min_eq_right many]
    · rw [Nat.min_eq_left few, take_of_length_le all, take_of_length_le (Nat.le_trans all few)]
  rw [compared_eq]
  constructor
  · intro right
    have recorded := right.recorded
    have total := right.total
    have more := right.more
    rw [number] at recorded total more
    rw [enough total more] at recorded
    exact ⟨total, more, exact_.1 recorded, fun position among =>
      (apart_iff (inside position among).1 (inside position among).2).1
        (right.apart position among)⟩
  · intro fortunate
    refine ⟨fun long => number.trans (fortunate.same long), fun long => ?_, ?_,
      fun position among => (apart_iff (inside position among).1 (inside position among).2).2
        (fortunate.outer position among), ?_⟩
    · rw [number]
      exact fortunate.other long
    · rw [number, enough fortunate.same fortunate.other]
      exact exact_.2 fortunate.noTop
    · rw [← BitVec.toNat_inj, number, image_eq_iff]
      change _ = 0 ↔ _
      constructor
      · intro none_
        by_cases long : got.length = exp.length
        · exact ⟨long, eq_nil_of_length_eq_zero ((fortunate.same long).symm.trans none_)⟩
        · have some_ := fortunate.other long
          omega
      · rintro ⟨long, none_⟩
        rw [none_]
        rfl

/-- A top bit is counted nine times, and a line that has not been read back is not missed; bits 0
of the first byte and 4 of the second one are recorded alike. -/
theorem topBit_miscounted :
    let line : Line := fun _ => 0
    let top : Line := fun i => if i.val = 0 then 0x80 else 0
    let low : Line := fun i => if i.val = 0 then 0x01 else if i.val = 1 then 0x10 else 0
    (checkEpromReadback (some [top]) (some [line])).2.NBBTOT = 9 ∧
      (checkEpromReadback (some [line]) (some [line, top])).2 = ⟨0, []⟩ ∧
      (checkEpromReadback (some [low]) (some [line])).2 = ⟨2, [⟨0, 17, true⟩, ⟨0, 17, true⟩]⟩ ∧
      ¬ Right [top] [line] (checkEpromReadback (some [top]) (some [line])).2 := by
  refine ⟨by decide +kernel, by decide +kernel, by decide +kernel, fun right => ?_⟩
  have once := right.total rfl
  revert once
  decide +kernel

end EmuLib.Daqmb.EpromReadback
