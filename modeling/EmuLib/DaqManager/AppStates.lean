import Mathlib.Data.List.Infix

/-!
The combined state of the applications of the local DAQ, and when it is the one that the states
themselves have.
-/

namespace EmuLib.DaqManager

open List

def mismatched (state : String) : Bool := decide ("Mismatch".toList <:+: state.toList)

def combineFrom : String → List String → String
  | combined, [] => combined
  | combined, state :: rest =>
    if state = "UNKNOWN" then "UNKNOWN"
    else if state ≠ combined ∧ combined ≠ "UNKNOWN" then "INDEFINITE"
    else combineFrom (if mismatched state then "Enabled" else state) rest

/-- The applications are given by their addresses, in the order of the map. -/
def getCombinedState (appStates : List (Nat × String)) : String :=
  if "Failed" ∈ appStates.map Prod.snd then "Failed"
  else combineFrom "UNKNOWN" (appStates.map Prod.snd)

def initialState (combinedState : String) : Char :=
  if combinedState = "Ready" then 'C' else if combinedState = "Enabled" then 'E' else 'H'

def counted (state : String) : String := if mismatched state then "Enabled" else state

def Alike (states : List String) : Prop :=
  ∀ state ∈ states, ∀ other ∈ states, counted state = counted other

structure CombinesTo (states : List String) (combined : String) : Prop where
  failed : "Failed" ∈ states → combined = "Failed"
  unknown : "Failed" ∉ states → "UNKNOWN" ∈ states → combined = "UNKNOWN"
  alike : "Failed" ∉ states → "UNKNOWN" ∉ states → Alike states →
    ∀ state ∈ states, combined = counted state
  unlike : "Failed" ∉ states → "UNKNOWN" ∉ states → ¬ Alike states → combined = "INDEFINITE"

/-- The state of the DAQ, and the one in which the manager starts. -/
def Combined (appStates : List (Nat × String)) : Prop :=
  CombinesTo (appStates.map Prod.snd) (getCombinedState appStates) ∧
    (initialState (getCombinedState appStates) = 'E' ↔
      ∀ app ∈ appStates, app.2 = "Enabled" ∨ mismatched app.2 = true)

/-- Up to the first unknown state all are what the first one counts as; and without one, where all
count as enabled, only the first is a mismatch. -/
def InOrder (first : String) (rest : List String) : Prop :=
  "Failed" ∈ first :: rest ∨ first = "UNKNOWN" ∨
    ("UNKNOWN" ∈ rest ∧ ∀ state ∈ rest.takeWhile (· ≠ "UNKNOWN"), state = counted first) ∨
    ("UNKNOWN" ∉ rest ∧ ((∃ state ∈ first :: rest, counted state ≠ "Enabled") ∨
      ∀ state ∈ rest, mismatched state = false))

variable {states rest : List String} {state first combined : String}

lemma counted_plain (state) : mismatched (counted state) = false := by
  rw [counted]
  split
  · decide
  · next plain => exact Bool.eq_false_iff.2 plain

lemma counted_of_plain (plain : mismatched state = false) : counted state = state := by
  rw [counted, plain]
  rfl

lemma counted_enabled (state) :
    counted state = "Enabled" ↔ state = "Enabled" ∨ mismatched state = true := by
  rw [counted]
  split
  · next other => exact ⟨fun _ => .inr other, fun _ => rfl⟩
  · next plain => exact ⟨.inl, fun either => either.resolve_right plain⟩

lemma counted_unknown (known : state ≠ "UNKNOWN") : counted state ≠ "UNKNOWN" := by
  rw [counted]
  split
  · decide
  · exact known

lemma combineFrom_cases (known : combined ≠ "UNKNOWN") (plain : mismatched combined = false) :
    ((∀ state ∈ rest, state = combined) ∧ combineFrom combined rest = combined) ∨
    (("UNKNOWN" ∈ rest ∧ ∀ state ∈ rest.takeWhile (· ≠ "UNKNOWN"), state = combined) ∧
      combineFrom combined rest = "UNKNOWN") ∨
    ((∃ state ∈ rest.takeWhile (· ≠ "UNKNOWN"), state ≠ combined) ∧
      combineFrom combined rest = "INDEFINITE") := by
  induction rest with
  | nil => exact .inl ⟨fun _ none_ => absurd none_ not_mem_nil, rfl⟩
  | cons state rest ih =>
    rw [combineFrom]
    by_cases unknown : state = "UNKNOWN"
    · rw [if_pos unknown]
      refine .inr (.inl ⟨⟨mem_cons.2 (.inl unknown.symm), ?_⟩, rfl⟩)
      rw [takeWhile_cons_of_neg (by simpa using unknown)]
      exact fun _ none_ => absurd none_ not_mem_nil
    · rw [if_neg unknown, takeWhile_cons_of_pos (by simpa using unknown)]
      by_cases same : state = combined
      · subst same
        rw [if_neg (fun either => either.1 rfl), plain]
        rcases ih with ⟨all, is⟩ | ⟨⟨later, all⟩, is⟩ | ⟨⟨other, among, unlike⟩, is⟩
        · exact .inl ⟨forall_mem_cons.2 ⟨rfl, all⟩, is⟩
        · exact .inr (.inl ⟨⟨mem_cons_of_mem _ later, forall_mem_cons.2 ⟨rfl, all⟩⟩, is⟩)
        · exact .inr (.inr ⟨⟨other, mem_cons_of_mem _ among, unlike⟩, is⟩)
      · rw [if_pos ⟨same, known⟩]
        exact .inr (.inr ⟨⟨state, mem_cons_self, same⟩, rfl⟩)

lemma alike_enabled (alike : Alike (first :: rest))
    (some_ : ∃ state ∈ rest, mismatched state = true) :
    ∀ state ∈ first :: rest, counted state = "Enabled" := by
  obtain ⟨other, among, mismatch⟩ := some_
  intro state inside
  rw [alike state inside other (mem_cons_of_mem _ among)]
  exact (counted_enabled other).2 (.inr mismatch)

lemma combinesTo_iff : CombinesTo (first :: rest)
    (if "Failed" ∈ first :: rest then "Failed" else combineFrom "UNKNOWN" (first :: rest)) ↔
      InOrder first rest := by
  by_cases failed : "Failed" ∈ first :: rest
  · rw [if_pos failed]
    exact ⟨fun _ => .inl failed, fun _ => ⟨fun _ => rfl, fun none_ => absurd failed none_,
      fun none_ => absurd failed none_, fun none_ => absurd failed none_⟩⟩
  rw [if_neg failed, combineFrom]
  by_cases unknown : first = "UNKNOWN"
  · rw [if_pos unknown]
    have among : "UNKNOWN" ∈ first :: rest := mem_cons.2 (.inl unknown.symm)
    exact ⟨fun _ => .inr (.inl unknown), fun _ => ⟨fun some_ => absurd some_ failed,
      fun _ _ => rfl, fun _ none_ => absurd among none_, fun _ none_ => absurd among none_⟩⟩
  rw [if_neg unknown, if_neg (fun both => both.2 rfl)]
  have among_iff : "UNKNOWN" ∈ first :: rest ↔ "UNKNOWN" ∈ rest := by
    rw [mem_cons]
    exact or_iff_right (Ne.symm unknown)
  have goes := @combineFrom_cases rest (counted first) (counted_unknown unknown)
    (counted_plain first)
  show CombinesTo (first :: rest) (combineFrom (counted first) rest) ↔ _
  constructor
  · intro combines
    by_cases later : "UNKNOWN" ∈ rest
    · have is := combines.unknown failed (among_iff.2 later)
      rcases goes with ⟨all, _⟩ | ⟨found, _⟩ | ⟨_, other⟩
      · exact absurd (all _ later).symm (counted_unknown unknown)
      · exact .inr (.inr (.inl found))
      · exact absurd (other.symm.trans is) (by decide)
    · refine .inr (.inr (.inr ⟨later, ?_⟩))
      by_contra neither
      rw [not_or] at neither
      have enabled : ∀ state ∈ first :: rest, counted state = "Enabled" :=
        fun state inside => not_not.1 fun other => neither.1 ⟨state, inside, other⟩
      have is := combines.alike failed (fun some_ => later (among_iff.1 some_))
        (fun state inside other also => (enabled state inside).trans (enabled other also).symm)
        first mem_cons_self
      rcases goes with ⟨all, _⟩ | ⟨⟨some_, _⟩, _⟩ | ⟨_, other⟩
      · refine neither.2 fun state inside => ?_
        rw [all state inside]
        exact counted_plain first
      · exact later some_
      · rw [is, enabled first mem_cons_self] at other
        exact absurd other (by decide)
  · rintro (some_ | same | ⟨later, all⟩ | ⟨later, either⟩)
    · exact absurd some_ failed
    · exact absurd same unknown
    · have result : combineFrom (counted first) rest = "UNKNOWN" := by
        rcases goes with ⟨same, _⟩ | ⟨_, is⟩ | ⟨⟨state, inside, other⟩, _⟩
        · exact absurd (same _ later).symm (counted_unknown unknown)
        · exact is
        · exact absurd (all state inside) other
      exact ⟨fun some_ => absurd some_ failed, fun _ _ => result,
        fun _ none_ => absurd (among_iff.2 later) none_,
        fun _ none_ => absurd (among_iff.2 later) none_⟩
    · refine ⟨fun some_ => absurd some_ failed,
        fun _ some_ => absurd (among_iff.1 some_) later, fun _ _ alike => ?_, fun _ _ unlike => ?_⟩
      · have plain : ∀ state ∈ rest, state = counted first := by
          intro state inside
          have kept : mismatched state = false := by
            rcases either with ⟨other, among, differs⟩ | plain
            · refine Bool.eq_false_iff.2 fun mismatch => differs ?_
              exact alike_enabled alike ⟨state, inside, mismatch⟩ other among
            · exact plain state inside
          rw [← counted_of_plain kept]
          exact alike state (mem_cons_of_mem _ inside) first mem_cons_self
        intro state inside
        rw [alike state inside first mem_cons_self]
        rcases goes with ⟨_, is⟩ | ⟨⟨some_, _⟩, _⟩ | ⟨⟨state, among, other⟩, _⟩
        · exact is
        · exact absurd some_ later
        · exact absurd (plain state ((takeWhile_subset _) among)) other
      · rcases goes with ⟨all, _⟩ | ⟨⟨some_, _⟩, _⟩ | ⟨_, is⟩
        · refine absurd (fun state inside other also => ?_) unlike
          have same : ∀ state ∈ first :: rest, counted state = counted first := by
            intro state inside
            rcases mem_cons.1 inside with rfl | among
            · rfl
            · rw [all state among, counted_of_plain (counted_plain first)]
          rw [same state inside, same other also]
        · exact absurd some_ later
        · exact is

lemma starts_enabled (combines : CombinesTo (first :: rest) combined) :
    initialState combined = 'E' ↔
      ∀ state ∈ first :: rest, state = "Enabled" ∨ mismatched state = true := by
  have starts : initialState combined = 'E' ↔ combined = "Enabled" := by
    rw [initialState]
    split
    · next ready =>
        rw [ready]
        decide
    · split
      · next enabled => exact ⟨fun _ => enabled, fun _ => rfl⟩
      · next other => exact ⟨fun never => absurd never (by decide), fun is => absurd is other⟩
  rw [starts]
  have never : ∀ state, state ∈ first :: rest → counted state ≠ "Enabled" →
      ¬ ∀ state ∈ first :: rest, state = "Enabled" ∨ mismatched state = true :=
    fun state inside other all => other ((counted_enabled state).2 (all state inside))
  by_cases failed : "Failed" ∈ first :: rest
  · rw [combines.failed failed]
    exact iff_of_false (by decide) (never _ failed (by decide))
  by_cases unknown : "UNKNOWN" ∈ first :: rest
  · rw [combines.unknown failed unknown]
    exact iff_of_false (by decide) (never _ unknown (by decide))
  by_cases alike : Alike (first :: rest)
  · rw [combines.alike failed unknown alike first mem_cons_self]
    constructor
    · intro enabled state inside
      rw [← counted_enabled, alike state inside first mem_cons_self, enabled]
    · exact fun all => (counted_enabled first).2 (all first mem_cons_self)
  · rw [combines.unlike failed unknown alike]
    refine iff_of_false (by decide) fun all => alike fun state inside other also => ?_
    rw [(counted_enabled state).2 (all state inside), (counted_enabled other).2 (all other also)]

/-- The combined state is the one that the states have together exactly where their order does not
count. -/
theorem combined_iff (first : Nat × String) (rest : List (Nat × String)) :
    Combined (first :: rest) ↔ InOrder first.2 (rest.map Prod.snd) := by
  have states : (first :: rest).map Prod.snd = first.2 :: rest.map Prod.snd := rfl
  rw [← combinesTo_iff, Combined, getCombinedState, states]
  refine ⟨And.left, fun combines => ⟨combines, ?_⟩⟩
  rw [starts_enabled combines, ← states]
  exact forall_mem_map

/-- Two applications that count as enabled come to an indefinite state in the one order, and to an
enabled one in the other. -/
theorem mismatch_last : getCombinedState [(1, "Enabled"), (2, "Mismatch")] = "INDEFINITE" ∧
    getCombinedState [(1, "Mismatch"), (2, "Enabled")] = "Enabled" ∧
    getCombinedState [(1, "Enabled"), (2, "Ready"), (3, "UNKNOWN")] = "INDEFINITE" ∧
    ¬ Combined [(1, "Enabled"), (2, "Mismatch")] := by
  refine ⟨by decide, by decide, by decide, fun combined => ?_⟩
  exact absurd (combined.1.alike (by decide) (by decide) (by
    unfold Alike
    decide) "Enabled" (by decide)) (by decide)

end EmuLib.DaqManager
