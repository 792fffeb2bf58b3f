import Mathlib.Data.List.Basic

/-!
Programs that look, between their actions, whether they are to stop, and that may raise an exception;
their loops are unrolled. A request to stop is seen or not at each look.
-/

namespace EmuLib.StoppableRuns

open List

inductive Ending
  | returned
  | stopped
  | raised
deriving DecidableEq

inductive Instr (Act : Type)
  | act (act : Act)
  | check
  | raise
deriving DecidableEq

variable {State Act Item : Type}

def run (step : State → Act → State) (stops : Nat → Bool) :
    Nat → State → List (Instr Act) → Ending × Nat × State
  | checks, state, [] => (.returned, checks, state)
  | checks, state, .act act :: rest => run step stops checks (step state act) rest
  | checks, state, .check :: rest =>
    if stops checks then (.stopped, checks, state) else run step stops (checks + 1) state rest
  | checks, state, .raise :: _ => (.raised, checks, state)

section

variable {step : State → Act → State} {stops : Nat → Bool} {checks : Nat} {state : State}
  {first second : List (Instr Act)}

lemma run_append_returned {checks' state'}
    (returned : run step stops checks state first = (.returned, checks', state')) :
    run step stops checks state (first ++ second) = run step stops checks' state' second := by
  induction first generalizing checks state with
  | nil =>
    obtain ⟨rfl, rfl⟩ := Prod.mk.inj (Prod.mk.inj returned).2
    rfl
  | cons instr rest ih =>
    cases instr with
    | act act => exact ih returned
    | check =>
      rw [run] at returned
      rw [cons_append, run]
      cases seen : stops checks with
      | true =>
        rw [seen] at returned
        cases returned
      | false =>
        rw [seen] at returned
        exact ih returned
    | raise => cases returned

lemma run_append_ended (ended : (run step stops checks state first).1 ≠ .returned) :
    run step stops checks state (first ++ second) = run step stops checks state first := by
  induction first generalizing checks state with
  | nil => exact absurd rfl ended
  | cons instr rest ih =>
    cases instr with
    | act act => exact ih ended
    | check =>
      rw [run] at ended
      rw [cons_append, run, run]
      cases seen : stops checks with
      | true => rfl
      | false =>
        rw [seen] at ended
        exact ih ended
    | raise => rfl

def Instr.toAct : Instr Act → Option Act
  | .act done => some done
  | .check => none
  | .raise => none

def acts (program : List (Instr Act)) : List Act := program.filterMap Instr.toAct

lemma run_unstopped (quiet : ∀ check, stops check = false) (program)
    (sound : Instr.raise ∉ program) : ∃ checks',
      run step stops checks state program = (.returned, checks', (acts program).foldl step state) := by
  induction program generalizing checks state with
  | nil => exact ⟨checks, rfl⟩
  | cons instr rest ih =>
    have later : Instr.raise ∉ rest := fun member => sound (mem_cons_of_mem _ member)
    cases instr with
    | act act => exact @ih checks (step state act) later
    | check =>
      rw [run, quiet checks]
      exact @ih (checks + 1) state later
    | raise => exact absurd mem_cons_self sound

lemma run_raised (quiet : ∀ check, stops check = false) {program}
    (raises : Instr.raise ∈ program) : (run step stops checks state program).1 = .raised := by
  induction program generalizing checks state with
  | nil => exact absurd raises not_mem_nil
  | cons instr rest ih =>
    cases instr with
    | act act =>
      exact ih ((mem_cons.1 raises).resolve_left (by simp))
    | check =>
      rw [run, quiet checks]
      exact ih ((mem_cons.1 raises).resolve_left (by simp))
    | raise => rfl

end

variable (step : State → Act → State) (stops : Nat → Bool) (atStop : Nat → State → Prop)

/-- From states with `pre` the program looks `count` times unless it is stopped earlier, and then
`atStop` holds; otherwise it returns, with `post`, or it raises an exception. -/
def Leads (pre post : Nat → State → Prop) (program : List (Instr Act)) (count : Nat)
    (returns : Bool) : Prop :=
  ∀ checks state, pre checks state →
    (∀ look < count, stops (checks + look) = true → (∀ earlier < look, stops (checks + earlier) = false) →
      ∃ final, run step stops checks state program = (.stopped, checks + look, final) ∧
        atStop (checks + look) final) ∧
    ((∀ look < count, stops (checks + look) = false) →
      if returns then ∃ final, run step stops checks state program =
          (.returned, checks + count, final) ∧ post (checks + count) final
      else (run step stops checks state program).1 = .raised)

variable {step stops atStop} {pre post between : Nat → State → Prop}
  {first second : List (Instr Act)} {count more : Nat} {returns : Bool}

lemma leads_nil : Leads step stops atStop pre pre [] 0 true :=
  fun _ state holds => ⟨fun _ below => absurd below (Nat.not_lt_zero _),
    fun _ => ⟨state, rfl, holds⟩⟩

lemma leads_raise : Leads step stops atStop pre post [.raise] 0 false :=
  fun _ _ _ => ⟨fun _ below => absurd below (Nat.not_lt_zero _), fun _ => rfl⟩

lemma leads_act {act} (holds : ∀ checks state, pre checks state → post checks (step state act)) :
    Leads step stops atStop pre post [.act act] 0 true :=
  fun checks state before => ⟨fun _ below => absurd below (Nat.not_lt_zero _),
    fun _ => ⟨step state act, rfl, holds checks state before⟩⟩

lemma leads_check (stopped : ∀ checks state, pre checks state → atStop checks state)
    (holds : ∀ checks state, pre checks state → post (checks + 1) state) :
    Leads step stops atStop pre post [.check] 1 true := by
  intro checks state before
  constructor
  · intro look below seen _
    obtain rfl : look = 0 := by omega
    refine ⟨state, ?_, stopped checks state before⟩
    rw [Nat.add_zero] at seen ⊢
    rw [run, if_pos seen]
  · intro quiet
    refine ⟨state, ?_, holds checks state before⟩
    rw [run, if_neg]
    · rfl
    · rw [← Nat.add_zero checks, quiet 0 Nat.one_pos]
      exact Bool.false_ne_true

lemma Leads.weaken {stronger weaker}
    (leads : Leads step stops atStop pre post first count returns)
    (before : ∀ checks state, stronger checks state → pre checks state)
    (after : ∀ checks state, post checks state → weaker checks state) :
    Leads step stops atStop stronger weaker first count returns := by
  intro checks state holds
  obtain ⟨stopped, ends⟩ := leads checks state (before checks state holds)
  refine ⟨stopped, fun quiet => ?_⟩
  have ended := ends quiet
  cases returns with
  | true =>
    obtain ⟨final, returned, holds⟩ := ended
    exact ⟨final, returned, after _ _ holds⟩
  | false => exact ended

lemma Leads.append (leads : Leads step stops atStop pre between first count true)
    (next : Leads step stops atStop between post second more returns) :
    Leads step stops atStop pre post (first ++ second) (count + more) returns := by
  intro checks state holds
  obtain ⟨stopped, ends⟩ := leads checks state holds
  by_cases quiet : ∀ look < count, stops (checks + look) = false
  · obtain ⟨middle, returned, after⟩ := ends quiet
    obtain ⟨stoppedLater, endsLater⟩ := next (checks + count) middle after
    rw [run_append_returned returned]
    constructor
    · intro look below seen earlier
      have beyond : count ≤ look := by
        by_contra inside
        rw [quiet look (Nat.lt_of_not_le inside)] at seen
        cases seen
      obtain ⟨later, rfl⟩ := Nat.exists_eq_add_of_le beyond
      rw [← Nat.add_assoc] at seen ⊢
      refine stoppedLater later (by omega) seen fun before below => ?_
      rw [Nat.add_assoc]
      exact earlier (count + before) (by omega)
    · intro silent
      rw [← Nat.add_assoc]
      refine endsLater fun look below => ?_
      rw [Nat.add_assoc]
      exact silent (count + look) (by omega)
  · rw [not_forall] at quiet
    constructor
    · intro look below seen earlier
      have inside : look < count := by
        by_contra beyond
        obtain ⟨other, fails⟩ := quiet
        exact fails fun small => earlier other (by omega)
      obtain ⟨final, done, holds⟩ := stopped look inside seen earlier
      refine ⟨final, ?_, holds⟩
      rw [run_append_ended (by rw [done]; exact Ending.noConfusion), done]
    · intro silent
      obtain ⟨other, fails⟩ := quiet
      exact absurd (fun small => silent other (by omega)) fails

lemma Leads.append_raised (leads : Leads step stops atStop pre post first count false) (second) :
    Leads step stops atStop pre post (first ++ second) count false := by
  intro checks state holds
  obtain ⟨stopped, ends⟩ := leads checks state holds
  constructor
  · intro look below seen earlier
    obtain ⟨final, done, holds⟩ := stopped look below seen earlier
    refine ⟨final, ?_, holds⟩
    rw [run_append_ended (by rw [done]; exact Ending.noConfusion), done]
  · intro quiet
    have raised : (run step stops checks state first).1 = .raised := ends quiet
    show (run step stops checks state (first ++ second)).1 = .raised
    rw [run_append_ended (by rw [raised]; exact Ending.noConfusion), raised]

variable {items : List Item} {body : Item → List (Instr Act)}

lemma leads_flatMap
    (turn : ∀ item ∈ items, Leads step stops atStop pre pre (body item) count true) :
    Leads step stops atStop pre pre (items.flatMap body) (items.length * count) true := by
  induction items with
  | nil =>
    rw [length_nil, Nat.zero_mul]
    exact leads_nil
  | cons item rest ih =>
    have whole := (turn item mem_cons_self).append
      (ih fun other member => turn other (mem_cons_of_mem _ member))
    rw [length_cons, Nat.add_one_mul, Nat.add_comm]
    exact whole

lemma leads_flatMap_until {bad}
    (raises : ∀ item ∈ items, bad item = true → Leads step stops atStop pre pre (body item) 0 false)
    (turn : ∀ item ∈ items, bad item = false →
      Leads step stops atStop pre pre (body item) count true) :
    Leads step stops atStop pre pre (items.flatMap body)
      ((items.takeWhile fun item => !bad item).length * count) (!items.any bad) := by
  induction items with
  | nil =>
    rw [takeWhile_nil, length_nil, Nat.zero_mul]
    exact leads_nil
  | cons item rest ih =>
    have later := ih (fun other member => raises other (mem_cons_of_mem _ member))
      fun other member => turn other (mem_cons_of_mem _ member)
    rw [any_cons, takeWhile_cons]
    cases fit : bad item with
    | true =>
      rw [Bool.not_true, if_neg Bool.false_ne_true, length_nil, Nat.zero_mul]
      exact (raises item mem_cons_self fit).append_raised _
    | false =>
      have whole := (turn item mem_cons_self fit).append later
      rw [Bool.not_false, if_pos rfl, length_cons, Nat.add_one_mul, Nat.add_comm]
      exact whole

lemma leads_flatMap_some (some_ : items ≠ [])
    (again : ∀ checks state, post checks state → pre checks state)
    (turn : ∀ item ∈ items, Leads step stops atStop pre post (body item) count true) :
    Leads step stops atStop pre post (items.flatMap body) (items.length * count) true := by
  obtain ⟨item, rest, rfl⟩ := exists_cons_of_ne_nil some_
  have later : Leads step stops atStop post post (rest.flatMap body) (rest.length * count) true :=
    leads_flatMap fun other member =>
      (turn other (mem_cons_of_mem _ member)).weaken again fun _ _ holds => holds
  rw [length_cons, Nat.add_one_mul, Nat.add_comm]
  exact (turn item mem_cons_self).append later

lemma leads_flatMap_raises (some_ : items ≠ [])
    (turn : ∀ item ∈ items, Leads step stops atStop pre post (body item) 0 false) :
    Leads step stops atStop pre post (items.flatMap body) 0 false := by
  obtain ⟨item, rest, rfl⟩ := exists_cons_of_ne_nil some_
  exact (turn item mem_cons_self).append_raised _

lemma leads_range {stage : Nat → Nat → State → Prop} {body turns}
    (turn : ∀ index < turns,
      Leads step stops atStop (stage index) (stage (index + 1)) (body index) count true) :
    Leads step stops atStop (stage 0) (stage turns) ((List.range turns).flatMap body) (turns * count)
      true := by
  induction turns with
  | zero =>
    rw [Nat.zero_mul]
    exact leads_nil
  | succ turns ih =>
    rw [range_succ, flatMap_append, flatMap_singleton, Nat.add_one_mul]
    exact (ih fun index below => turn index (Nat.lt_succ_of_lt below)).append
      (turn turns (Nat.lt_succ_self turns))

end EmuLib.StoppableRuns
