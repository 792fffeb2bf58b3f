import Mathlib.Data.List.Count
import Mathlib.Data.List.Range
import Mathlib.Data.List.Nodup

/-!
The runs of a property around a circle of places.
-/

namespace EmuLib.CyclicRuns

open List

section

variable (good : Nat → Prop) [DecidablePred good] (length : Nat)

def Start (place : Nat) : Prop :=
  good (place % length) ∧ ¬ good ((place + length - 1) % length)

instance : DecidablePred (Start good length) := fun _ => inferInstanceAs (Decidable (_ ∧ _))

def runs : Nat :=
  if ∀ place < length, good place then 1 else (List.range length).countP (Start good length)

end

variable {other : Nat → Prop} {place : Nat}

section

variable {good : Nat → Prop} {length : Nat}

lemma start_periodic (place) : Start good length (place + length) ↔ Start good length place := by
  have here : (place + length) % length = place % length := Nat.add_mod_right place length
  have before : (place + length + length - 1) % length = (place + length - 1) % length := by
    rcases Nat.eq_zero_or_pos length with rfl | positive
    · rfl
    · have split : place + length + length - 1 = place + length - 1 + length := by omega
      rw [split, Nat.add_mod_right]
  rw [Start, Start, here, before]

variable [DecidablePred good]

lemma starts_from (first) :
    (range' first length).countP (Start good length) =
      (List.range length).countP (Start good length) := by
  induction first with
  | zero => rw [range_eq_range']
  | succ first ih =>
    have front : range' first (length + 1) = first :: range' (first + 1) length :=
      range'_succ ..
    have back : range' first (length + 1) = range' first length ++ [first + length] :=
      range'_1_concat ..
    have same := congrArg (countP (Start good length)) (front.symm.trans back)
    rw [countP_cons, countP_append, countP_singleton,
      decide_eq_decide.2 (start_periodic first)] at same
    omega

lemma runs_congr [DecidablePred other] (positive : 0 < length)
    (same : ∀ place < length, good place ↔ other place) : runs good length = runs other length := by
  have starts (place : Nat) : Start good length place ↔ Start other length place :=
    and_congr (same _ (Nat.mod_lt _ positive)) (not_congr (same _ (Nat.mod_lt _ positive)))
  have all : (∀ place < length, good place) ↔ ∀ place < length, other place :=
    forall₂_congr same
  rw [runs, runs, if_congr all rfl (countP_congr fun place _ => ?_)]
  rw [decide_eq_true_iff, decide_eq_true_iff]
  exact starts place

lemma runs_of_bad (inside : place < length) (bad : ¬ good place) (first) :
    (range' first length).countP (Start good length) = runs good length := by
  rw [starts_from, runs, if_neg fun all => bad (all place inside)]

end

section

variable {good : Nat → Prop} [DecidablePred good] {length : Nat}

lemma start_between {first} (bad : ¬ good (first % length)) (more) :
    good ((first + more) % length) →
      ∃ start, first < start ∧ start ≤ first + more ∧ Start good length start := by
  induction more with
  | zero => exact fun holds => absurd holds bad
  | succ more ih =>
    intro holds
    by_cases before : good ((first + more) % length)
    · obtain ⟨start, behind, inside, starts⟩ := ih before
      exact ⟨start, behind, by omega, starts⟩
    · refine ⟨first + (more + 1), by omega, Nat.le_refl _, holds, ?_⟩
      have previous : first + (more + 1) + length - 1 = first + more + length := by omega
      rw [previous, Nat.add_mod_right]
      exact before

lemma start_unique (one : (List.range length).countP (Start good length) = 1) {first start other} (starts : Start good length start) (others : Start good length other)
    (inside : first ≤ start ∧ start < first + length)
    (insideOther : first ≤ other ∧ other < first + length) : start = other := by
  rw [← starts_from first, countP_eq_length_filter, length_eq_one_iff] at one
  obtain ⟨only, same⟩ := one
  have is {place : Nat} (at_ : Start good length place)
      (within : first ≤ place ∧ place < first + length) : place = only := by
    have member : place ∈ (range' first length).filter (Start good length) :=
      mem_filter.2 ⟨mem_range'_1.2 within, decide_eq_true at_⟩
    rw [same] at member
    exact mem_singleton.1 member
  rw [is starts inside, is others insideOther]

lemma single_run {first} (bad : ¬ good (first % length)) (positive : 0 < length)
    (one : runs good length = 1) :
    ∃ start last, first < start ∧ start ≤ last ∧ last < first + length ∧
      ∀ place, first ≤ place → place < first + length →
        (good (place % length) ↔ start ≤ place ∧ place ≤ last) := by
  have starts : (List.range length).countP (Start good length) = 1 := by
    rw [runs, if_neg fun all => bad (all _ (Nat.mod_lt _ positive))] at one
    exact one
  obtain ⟨start, member, begins⟩ : ∃ start ∈ range' first length, Start good length start := by
    have some_ : 0 < (range' first length).countP (Start good length) := by
      rw [starts_from, starts]
      exact Nat.one_pos
    obtain ⟨start, member, begins⟩ := countP_pos_iff.1 some_
    exact ⟨start, member, of_decide_eq_true begins⟩
  have within := mem_range'_1.1 member
  have behind : first ≠ start := fun same => bad (same ▸ begins.1)
  -- the last place with the property, counted from the end of the round
  obtain ⟨last, after_, before, holds, beyond⟩ : ∃ last, start ≤ last ∧ last < first + length ∧
      good (last % length) ∧
        ∀ place, last < place → place < first + length → ¬ good (place % length) := by
    have descend : ∀ left, start + left < first + length → (∀ place, start + left < place →
        place < first + length → ¬ good (place % length)) → ∃ last, start ≤ last ∧
          last < first + length ∧ good (last % length) ∧
            ∀ place, last < place → place < first + length → ¬ good (place % length) := by
      intro left
      induction left with
      | zero => exact fun inside none_ => ⟨start, Nat.le_refl _, inside, begins.1, none_⟩
      | succ left ih =>
        intro inside none_
        by_cases holds : good ((start + (left + 1)) % length)
        · exact ⟨start + (left + 1), by omega, inside, holds, none_⟩
        · refine ih (by omega) fun place above below => ?_
          rcases Nat.eq_or_lt_of_le (Nat.succ_le_of_lt above) with same | further
          · have place_ : place = start + (left + 1) := by omega
            rw [place_]
            exact holds
          · exact none_ place (by omega) below
    refine descend (first + length - 1 - start) (by omega) fun place above below => ?_
    omega
  refine ⟨start, last, by omega, after_, before, fun place above below => ⟨fun is => ?_, ?_⟩⟩
  · constructor
    · have split : first + (place - first) = place := by omega
      obtain ⟨other, follows, until_, also⟩ :=
        start_between bad (place - first) (by rw [split]; exact is)
      have same := start_unique starts begins also within (by omega)
      omega
    · by_contra late
      exact beyond place (by omega) below is
  · rintro ⟨from_, upto⟩
    by_contra gap
    have split : place + (last - place) = last := by omega
    obtain ⟨other, follows, until_, also⟩ :=
      start_between gap (last - place) (by rw [split]; exact holds)
    have same := start_unique starts begins also within (by omega)
    omega

end

section

variable (good : Nat → Prop) [DecidablePred good]

def widenLatest : List (Nat × Nat) → List (Nat × Nat)
  | [] => []
  | latest :: earlier => (latest.1, latest.2 + 1) :: earlier

def scanStep (found : List (Nat × Nat)) (place : Nat) : List (Nat × Nat) :=
  if good place then if good (place - 1) then widenLatest found else (place, 1) :: found
  else found

def scan (first count : Nat) : List (Nat × Nat) :=
  (List.range' first count).foldl (scanStep good) []

structure Scanned (first upto : Nat) (found : List (Nat × Nat)) : Prop where
  inside : ∀ run ∈ found, first < run.1 ∧ 0 < run.2 ∧ run.1 + run.2 ≤ upto
  holds : ∀ run ∈ found, ∀ place, run.1 ≤ place → place < run.1 + run.2 → good place
  before : ∀ run ∈ found, ¬ good (run.1 - 1)
  after : ∀ run ∈ found, run.1 + run.2 < upto → ¬ good (run.1 + run.2)
  covers : ∀ place, first ≤ place → place < upto → good place →
    ∃ run ∈ found, run.1 ≤ place ∧ place < run.1 + run.2
  apart : found.Pairwise fun later earlier => earlier.1 + earlier.2 < later.1

variable {good} {first upto : Nat} {found : List (Nat × Nat)}

omit [DecidablePred good] in
lemma Scanned.skip (scanned : Scanned good first upto found) (bad : ¬ good upto) :
    Scanned good first (upto + 1) found where
  inside run member := by
    have within := scanned.inside run member
    omega
  holds := scanned.holds
  before := scanned.before
  after run member ends := by
    rcases Nat.lt_or_eq_of_le (Nat.le_of_lt_succ ends) with earlier | last
    · exact scanned.after run member earlier
    · rw [last]
      exact bad
  covers place above below is := by
    rcases Nat.lt_or_eq_of_le (Nat.le_of_lt_succ below) with earlier | rfl
    · exact scanned.covers place above earlier is
    · exact absurd is bad
  apart := scanned.apart

omit [DecidablePred good] in
lemma Scanned.start (scanned : Scanned good first upto found) (further : first < upto)
    (is : good upto) (bad : ¬ good (upto - 1)) : Scanned good first (upto + 1) ((upto, 1) :: found) := by
  -- no run reaches up to the new one
  have short (run : Nat × Nat) (member : run ∈ found) : run.1 + run.2 < upto := by
    have within := scanned.inside run member
    by_contra reaches
    exact bad (scanned.holds run member (upto - 1) (by omega) (by omega))
  refine ⟨?_, ?_, ?_, ?_, ?_, ?_⟩
  · rintro run (_ | ⟨_, member⟩)
    · exact ⟨further, Nat.one_pos, Nat.le_refl _⟩
    · have within := scanned.inside run member
      omega
  · rintro run (_ | ⟨_, member⟩) place above below
    · have here : place = upto := by
        dsimp only at above below
        omega
      rw [here]
      exact is
    · exact scanned.holds run member place above below
  · rintro run (_ | ⟨_, member⟩)
    · exact bad
    · exact scanned.before run member
  · rintro run (_ | ⟨_, member⟩) ends
    · exact absurd ends (Nat.lt_irrefl _)
    · exact scanned.after run member (short run member)
  · intro place above below holds
    rcases Nat.lt_or_eq_of_le (Nat.le_of_lt_succ below) with earlier | rfl
    · obtain ⟨run, member, within⟩ := scanned.covers place above earlier holds
      exact ⟨run, mem_cons_of_mem _ member, within⟩
    · exact ⟨(place, 1), mem_cons_self, Nat.le_refl _, Nat.lt_succ_self _⟩
  · exact pairwise_cons.2 ⟨short, scanned.apart⟩

omit [DecidablePred good] in
lemma Scanned.latest (scanned : Scanned good first upto found) (further : first < upto)
    (is : good (upto - 1)) :
    ∃ latest earlier, found = latest :: earlier ∧ latest.1 + latest.2 = upto := by
  obtain ⟨run, member, above, below⟩ := scanned.covers (upto - 1) (by omega) (by omega) is
  have within := scanned.inside run member
  cases found with
  | nil => exact absurd member not_mem_nil
  | cons latest earlier =>
    refine ⟨latest, earlier, rfl, ?_⟩
    have ends := scanned.inside latest mem_cons_self
    rcases mem_cons.1 member with rfl | further
    · omega
    · have order := (pairwise_cons.1 scanned.apart).1 run further
      omega

omit [DecidablePred good] in
lemma Scanned.widen {latest : Nat × Nat} {earlier : List (Nat × Nat)}
    (scanned : Scanned good first upto (latest :: earlier)) (is : good upto)
    (ends : latest.1 + latest.2 = upto) :
    Scanned good first (upto + 1) ((latest.1, latest.2 + 1) :: earlier) := by
  have order := pairwise_cons.1 scanned.apart
  have head := scanned.inside latest mem_cons_self
  refine ⟨?_, ?_, ?_, ?_, ?_, ?_⟩
  · rintro run (_ | ⟨_, member⟩)
    · exact ⟨head.1, Nat.succ_pos _, by dsimp only; omega⟩
    · have within := scanned.inside run (mem_cons_of_mem _ member)
      omega
  · rintro run (_ | ⟨_, member⟩) place above below
    · dsimp only at above below
      rcases Nat.lt_or_eq_of_le (Nat.le_of_lt_succ below) with before | last
      · exact scanned.holds latest mem_cons_self place above before
      · have here : place = upto := last.trans ends
        rw [here]
        exact is
    · exact scanned.holds run (mem_cons_of_mem _ member) place above below
  · rintro run (_ | ⟨_, member⟩)
    · exact scanned.before latest mem_cons_self
    · exact scanned.before run (mem_cons_of_mem _ member)
  · rintro run (_ | ⟨_, member⟩) before
    · dsimp only at before
      omega
    · have follows := order.1 run member
      exact scanned.after run (mem_cons_of_mem _ member) (by omega)
  · intro place above below holds
    rcases Nat.lt_or_eq_of_le (Nat.le_of_lt_succ below) with before | rfl
    · obtain ⟨run, member, lower, upper⟩ := scanned.covers place above before holds
      rcases mem_cons.1 member with rfl | further
      · exact ⟨_, mem_cons_self, lower, by dsimp only; omega⟩
      · exact ⟨run, mem_cons_of_mem _ further, lower, upper⟩
    · exact ⟨_, mem_cons_self, by dsimp only; omega, by dsimp only; omega⟩
  · exact pairwise_cons.2 ⟨order.1, order.2⟩

lemma Scanned.step (scanned : Scanned good first upto found) (further : first < upto) :
    Scanned good first (upto + 1) (scanStep good found upto) := by
  rw [scanStep]
  split
  next is =>
    split
    next continues =>
      obtain ⟨latest, earlier, rfl, ends⟩ := scanned.latest further continues
      exact scanned.widen is ends
    next begins => exact scanned.start further is begins
  next bad => exact scanned.skip bad

lemma scan_scanned (bad : ¬ good first) (count) :
    Scanned good first (first + (count + 1)) (scan good first (count + 1)) := by
  induction count with
  | zero =>
    have alone : scan good first 1 = [] := if_neg bad
    rw [alone]
    refine ⟨by simp, by simp, by simp, by simp, fun place above below is => ?_, List.Pairwise.nil⟩
    have here : place = first := by omega
    exact absurd (here ▸ is) bad
  | succ count ih =>
    have longer : scan good first (count + 1 + 1) =
        scanStep good (scan good first (count + 1)) (first + (count + 1)) := by
      rw [scan, range'_1_concat, foldl_append]
      rfl
    rw [longer]
    exact ih.step (by omega)

end

structure Run (good : Nat → Prop) (length start width : Nat) : Prop where
  within : start < length
  some_ : 0 < width
  all : ∀ place < width, good ((start + place) % length)
  before : ¬ good ((start + length - 1) % length)
  after : ¬ good ((start + width) % length)

variable {good : Nat → Prop} {length first : Nat} {found : List (Nat × Nat)}

lemma previous_mod (positive : 0 < length) (some_ : 0 < place) :
    (place % length + length - 1) % length = (place - 1) % length := by
  have split : place % length + length - 1 = place % length + (length - 1) := by omega
  have other : place - 1 + length = place + (length - 1) := by omega
  rw [split, ← Nat.add_mod_right (place - 1) length, other, Nat.mod_add_mod]

/-- Once around the circle, from a place outside of the runs on: the runs found are the maximal
ones. -/
lemma run_iff_found
    (scanned : Scanned (fun place => good (place % length)) first (first + length) found)
    (bad : ¬ good (first % length)) (positive : 0 < length) (start width) :
    Run good length start width ↔ ∃ run ∈ found, run.1 % length = start ∧ run.2 = width := by
  constructor
  · intro run
    -- the place of the start in this round
    obtain ⟨place, above, below, same⟩ : ∃ place, first ≤ place ∧ place < first + length ∧
        place % length = start := by
      refine ⟨first + (start + length - first % length) % length, by omega, ?_, ?_⟩
      · have small := Nat.mod_lt (start + length - first % length) positive
        omega
      · have small := Nat.mod_lt first positive
        have whole : first % length + (start + length - first % length) = start + length := by omega
        rw [Nat.add_mod_mod, ← Nat.mod_add_mod, whole, Nat.add_mod_right,
          Nat.mod_eq_of_lt run.within]
    have here := run.all 0 run.some_
    rw [Nat.add_zero, Nat.mod_eq_of_lt run.within] at here
    obtain ⟨other, member, lower, upper⟩ := scanned.covers place above below (by rw [same]; exact here)
    have inside := scanned.inside other member
    have starts : other.1 = place := by
      by_contra later
      have previous := scanned.holds other member (place - 1) (by omega) (by omega)
      have before := run.before
      rw [← same, previous_mod positive (by omega)] at before
      exact before previous
    have turn (offset : Nat) : (start + offset) % length = (other.1 + offset) % length := by
      rw [← same, starts, Nat.mod_add_mod]
    refine ⟨other, member, by rw [starts, same], ?_⟩
    rcases Nat.lt_trichotomy other.2 width with short | same | long
    · have holds := run.all other.2 short
      rw [turn] at holds
      rcases Nat.lt_or_eq_of_le inside.2.2 with earlier | last
      · exact absurd holds (scanned.after other member earlier)
      · rw [last, Nat.add_mod_right] at holds
        exact absurd holds bad
    · exact same
    · have holds := scanned.holds other member (other.1 + width) (by omega) (by omega)
      have after := run.after
      rw [turn] at after
      exact absurd holds after
  · rintro ⟨run, member, rfl, rfl⟩
    have inside := scanned.inside run member
    refine ⟨Nat.mod_lt _ positive, inside.2.1, fun place below => ?_, ?_, ?_⟩
    · rw [Nat.mod_add_mod]
      exact scanned.holds run member _ (by omega) (by omega)
    · rw [previous_mod positive (by omega)]
      exact scanned.before run member
    · rw [Nat.mod_add_mod]
      rcases Nat.lt_or_eq_of_le inside.2.2 with earlier | last
      · exact scanned.after run member earlier
      · rw [last, Nat.add_mod_right]
        exact bad

lemma found_nodup
    (scanned : Scanned (fun place => good (place % length)) first (first + length) found) :
    (found.map fun run => (run.1 % length, run.2)).Nodup := by
  rw [Nodup, pairwise_map]
  refine scanned.apart.imp_of_mem fun {later earlier} memberLater memberEarlier order same => ?_
  have inside := scanned.inside later memberLater
  have insideToo := scanned.inside earlier memberEarlier
  have starts : later.1 % length = earlier.1 % length := congrArg Prod.fst same
  have apart : later.1 - earlier.1 < length := by omega
  have divides := Nat.sub_mod_eq_zero_of_mod_eq starts
  rw [Nat.mod_eq_of_lt apart] at divides
  omega

lemma mod_turned (place shift offset) :
    ((place + shift) % length + offset) % length = ((place + offset) % length + shift) % length := by
  have order : place + shift + offset = place + offset + shift := by omega
  rw [Nat.mod_add_mod, Nat.mod_add_mod, order]

lemma Run.turn {start width shift}
    (same : ∀ place < length, (other ((place + shift) % length) ↔ good place))
    (run : Run good length start width) : Run other length ((start + shift) % length) width := by
  have positive : 0 < length := Nat.lt_of_le_of_lt (Nat.zero_le _) run.within
  have turned (place : Nat) :
      other (((start + shift) % length + place) % length) ↔ good ((start + place) % length) := by
    rw [mod_turned]
    exact same _ (Nat.mod_lt _ positive)
  refine ⟨Nat.mod_lt _ positive, run.some_, fun place below => (turned place).2 (run.all place below),
    ?_, fun holds => run.after ((turned width).1 holds)⟩
  have before := turned (length - 1)
  have split : start + (length - 1) = start + length - 1 := by omega
  have other_ : (start + shift) % length + (length - 1) = (start + shift) % length + length - 1 := by
    omega
  rw [split, other_] at before
  exact fun holds => run.before (before.1 holds)

end EmuLib.CyclicRuns
