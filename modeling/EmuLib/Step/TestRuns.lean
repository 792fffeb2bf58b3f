import EmuLib.Step.TestSequence

/-!
What holds in every run of the test sequence: the order of its commands, and, if the actions of
the manager come where the sequence still looks at its state, that these end it.
-/

namespace EmuLib.Step.TestSequence

open GuardedRun List

/-! The steps of the sequence. -/

def pending (test : Nat) : Instr → Option (Nat × Target × Command)
  | .send (.fed _) _ => none
  | .send target command => some (test, target, command)
  | _ => none

def sendsOf (rest : List (Nat × Instr)) : List (Nat × Target × Command) :=
  rest.filterMap fun part => pending part.1 part.2

def WaitsDaq (instr : Instr) : Prop :=
  ∃ left, instr = .waitDaq .enable left ∨ instr = .askDaq .enable left

def WaitsConfigured (instr : Instr) : Prop :=
  instr = .waitConfigured ∨ ∃ testers allConfigured, instr = .askConfigured testers allConfigured

section

variable {setup : Setup} {state : FsmState} {reply : Reply} {test : Nat} {instr : Instr}

lemma nextFed_events {attempt left event}
    (emitted : event ∈ (nextFed setup reply test attempt left).1) :
    ∃ fed command, event = .sent test (.fed fed) command := by
  cases left with
  | nil => cases emitted
  | cons part later =>
    cases part with
    | send fed command => exact ⟨fed, command, mem_singleton.1 emitted⟩
    | exchange fed => cases emitted
    | files => cases emitted

lemma nextFed_more {attempt left more}
    (goes : (nextFed setup reply test attempt left).2 = .goOn more) {instr}
    (added : instr ∈ more) : left ≠ [] ∧ ∃ attempt left, instr = .startFed attempt left := by
  cases left with
  | nil =>
    cases goes
    cases added
  | cons part later =>
    refine ⟨cons_ne_nil _ _, ?_⟩
    simp only [nextFed] at goes
    split at goes
    · split at goes
      · cases goes
        exact ⟨_, _, mem_singleton.1 added⟩
      · cases goes
    · cases goes
      exact ⟨_, _, mem_singleton.1 added⟩

lemma orRaise_goOn {reply : Reply} {made more}
    (goes : reply.orRaise made = .goOn more) : reply.threw = false ∧ made = more := by
  unfold Reply.orRaise at goes
  split at goes
  · cases goes
  · next quiet =>
      cases goes
      exact ⟨Bool.eq_false_iff.2 quiet, rfl⟩

lemma afterAskDaq_goOn {command left more}
    (goes : (afterAskDaq reply test command left).2 = .goOn more) :
    (more = [] ∧ (command = .enable → .daqEnabled test ∈ (afterAskDaq reply test command left).1)) ∨
      ∃ left, more = [.waitDaq command left] := by
  unfold afterAskDaq at goes ⊢
  split at goes
  · cases goes
  · split at goes
    · cases goes
    · split at goes
      · cases goes
        refine .inl ⟨rfl, ?_⟩
        rintro rfl
        simp_all
      · cases left with
        | zero => cases goes
        | succ left =>
          cases goes
          exact .inr ⟨left, rfl⟩

lemma afterAskDaq_events {command left event}
    (emitted : event ∈ (afterAskDaq reply test command left).1) : event = .daqEnabled test := by
  unfold afterAskDaq at emitted
  split at emitted
  · cases emitted
  · split at emitted
    · cases emitted
    · split at emitted
      · split at emitted
        · exact mem_singleton.1 emitted
        · cases emitted
      · cases left <;> cases emitted

def AskedAfter (setup : Setup) (reply : Reply) (instr added : Instr) : Prop :=
  ∀ testers allConfigured, added = .askConfigured testers allConfigured →
    (instr = .waitConfigured ∧ testers = setup.testerDescriptors) ∨
      ∃ tester before, instr = .askConfigured (tester :: testers) before ∧ reply.threw = false ∧
        allConfigured = (before && reply.confirms)

lemma next_more {more} (goes : (next setup state reply test instr).2 = .goOn more)
    {added} (mem : added ∈ more) :
    (∀ target command, added ≠ .send target command) ∧ (Commands added → Commands instr) ∧
      AskedAfter setup reply instr added := by
  cases instr with
  | startFed attempt left =>
    obtain ⟨more_, _, _, rfl⟩ := nextFed_more goes mem
    exact ⟨fun _ _ same => (by cases same), fun _ => more_, fun _ _ same => (by cases same)⟩
  | askDaq command left =>
    obtain ⟨rfl, -⟩ | ⟨left, rfl⟩ := afterAskDaq_goOn goes
    · cases mem
    · obtain rfl := mem_singleton.1 mem
      exact ⟨fun _ _ same => (by cases same), False.elim, fun _ _ same => (by cases same)⟩
  | send target command =>
    obtain ⟨-, rfl⟩ := orRaise_goOn goes
    cases mem
  | exchange target =>
    obtain ⟨-, rfl⟩ := orRaise_goOn goes
    cases mem
  | check =>
    simp only [next] at goes
    split at goes
    · cases goes
    · cases goes
      cases mem
  | waitDaq command left =>
    simp only [next, Outcome.goOn.injEq] at goes
    subst goes
    split at mem <;> simp_all [Commands, AskedAfter]
  | waitConfigured =>
    simp only [next, Outcome.goOn.injEq] at goes
    subst goes
    split at mem <;> simp_all [Commands, AskedAfter]
  | askConfigured testers allConfigured =>
    cases testers with
    | nil =>
      simp only [next, Outcome.goOn.injEq] at goes
      subst goes
      split at mem <;> simp_all [Commands, AskedAfter]
    | cons tester later =>
      obtain ⟨quiet, rfl⟩ := orRaise_goOn goes
      obtain rfl := mem_singleton.1 mem
      refine ⟨fun _ _ same => (by cases same), False.elim, ?_⟩
      rintro _ _ ⟨⟩
      exact .inr ⟨tester, allConfigured, rfl, quiet, rfl⟩
  | waitFinished undefined =>
    simp only [next, Outcome.goOn.injEq] at goes
    subst goes
    split at mem
    · cases mem
    · simp only [mem_cons, not_mem_nil, or_false] at mem
      obtain rfl | rfl := mem <;> simp [Commands, AskedAfter]
  | askFinished undefined asked allFinished =>
    cases asked with
    | nil =>
      simp only [next, Outcome.goOn.injEq] at goes
      subst goes
      split at mem <;> simp_all [Commands, AskedAfter]
    | cons target later =>
      obtain ⟨-, rfl⟩ := orRaise_goOn goes
      simp_all [Commands, AskedAfter]
  | dataFileNames left =>
    simp only [next] at goes
    split at goes
    · split at goes
      · cases goes
      · cases goes
        simp_all [Commands, AskedAfter]
    · cases goes
      cases mem
  | completeness left =>
    cases left with
    | zero =>
      cases goes
      cases mem
    | succ left =>
      simp only [next, Outcome.goOn.injEq] at goes
      subst goes
      split at mem <;> simp_all [Commands, AskedAfter]
  | chamberMaps testers =>
    cases testers with
    | nil =>
      cases goes
      cases mem
    | cons tester later =>
      obtain ⟨-, rfl⟩ := orRaise_goOn goes
      split at mem <;> simp_all [Commands, AskedAfter]
  | fail =>
    simp only [next] at goes
    split at goes
    · cases goes
    · cases goes
      simp_all [Commands, AskedAfter]
  | failHalt left =>
    cases left with
    | nil =>
      cases goes
      simp_all [Commands, AskedAfter]
    | cons target later =>
      simp only [next, Outcome.goOn.injEq] at goes
      subst goes
      simp_all [Commands, AskedAfter]
  | toFailed => cases goes

lemma next_commands : (next setup state reply test instr).1.filterMap commandOf =
    (pending test instr).toList := by
  cases instr with
  | startFed attempt left =>
    rw [filterMap_eq_nil_iff.2]
    · rfl
    · intro event emitted
      obtain ⟨_, _, rfl⟩ := nextFed_events emitted
      rfl
  | send target command => cases target <;> rfl
  | askDaq command left =>
    rw [filterMap_eq_nil_iff.2]
    · rfl
    · intro event emitted
      obtain rfl := afterAskDaq_events emitted
      rfl
  | askConfigured testers allConfigured =>
    cases testers with
    | nil => rfl
    | cons tester later =>
      simp only [next]
      split <;> rfl
  | askFinished undefined asked allFinished => cases asked <;> rfl
  | completeness left => cases left <;> rfl
  | chamberMaps testers => cases testers <;> rfl
  | failHalt left => cases left <;> rfl
  | _ => rfl

lemma next_events {event} (emitted : event ∈ (next setup state reply test instr).1) :
    (∃ target command, instr = .send target command ∧ event = .sent test target command) ∨
      (∃ fed command, Commands instr ∧ event = .sent test (.fed fed) command) ∨
      (∃ tester, event = .reported test tester) ∨ event = .daqEnabled test ∨
      (instr = .toFailed ∧ event = .acted .fail) := by
  cases instr with
  | send target command => exact .inl ⟨target, command, rfl, mem_singleton.1 emitted⟩
  | startFed attempt left =>
    obtain ⟨fed, command, rfl⟩ := nextFed_events emitted
    refine .inr (Or.inl ⟨fed, command, ?_, rfl⟩)
    rintro rfl
    cases emitted
  | askDaq command left => exact .inr (Or.inr (Or.inr (Or.inl (afterAskDaq_events emitted))))
  | askConfigured testers allConfigured =>
    cases testers with
    | nil => cases emitted
    | cons tester later =>
      simp only [next] at emitted
      split at emitted
      · exact .inr (Or.inr (Or.inl ⟨tester, mem_singleton.1 emitted⟩))
      · cases emitted
  | askFinished undefined asked allFinished => cases asked <;> cases emitted
  | completeness left => cases left <;> cases emitted
  | chamberMaps testers => cases testers <;> cases emitted
  | failHalt left => cases left <;> cases emitted
  | toFailed =>
    exact .inr (Or.inr (Or.inr (Or.inr ⟨rfl, mem_singleton.1 emitted⟩)))
  | _ => cases emitted

lemma next_calm (neutral : ¬ Commands instr) : Calm (next setup state reply test instr).1 := by
  intro other target command emitted
  obtain ⟨_, _, rfl, same⟩ | ⟨_, _, commands, -⟩ | ⟨_, same⟩ | same | ⟨-, same⟩ :=
    next_events emitted
  · cases same
    exact not_not.1 neutral
  · exact absurd commands neutral
  all_goals cases same

lemma next_acted (acted : HasActed (next setup state reply test instr).1) :
    instr = .toFailed := by
  obtain ⟨action, emitted⟩ := acted
  obtain ⟨_, _, _, same⟩ | ⟨_, _, _, same⟩ | ⟨_, same⟩ | same | ⟨last, -⟩ := next_events emitted
  · cases same
  · cases same
  · cases same
  · cases same
  · exact last

lemma next_waitsDaq (here : ¬ Gone state) {more} (waits : WaitsDaq instr)
    (goes : (next setup state reply test instr).2 = .goOn more) :
    (∃ added ∈ more, WaitsDaq added) ∨
      .daqEnabled test ∈ (next setup state reply test instr).1 := by
  obtain ⟨left, rfl | rfl⟩ := waits
  · simp only [next, if_neg here, Outcome.goOn.injEq] at goes
    subst goes
    exact .inl ⟨_, mem_singleton_self _, left, .inr rfl⟩
  · obtain ⟨rfl, enabled⟩ | ⟨left, rfl⟩ := afterAskDaq_goOn goes
    · exact .inr (enabled rfl)
    · exact .inl ⟨_, mem_singleton_self _, left, .inl rfl⟩

lemma next_waitsConfigured (here : ¬ Gone state) {more} (waits : WaitsConfigured instr)
    (goes : (next setup state reply test instr).2 = .goOn more) :
    (∃ added ∈ more, WaitsConfigured added) ∨ instr = .askConfigured [] true := by
  obtain rfl | ⟨testers, allConfigured, rfl⟩ := waits
  · simp only [next, if_neg here, Outcome.goOn.injEq] at goes
    subst goes
    exact .inl ⟨_, mem_singleton_self _, .inr ⟨_, _, rfl⟩⟩
  · cases testers with
    | nil =>
      cases allConfigured with
      | true => exact .inr rfl
      | false =>
        cases goes
        exact .inl ⟨_, mem_singleton_self _, .inl rfl⟩
    | cons tester later =>
      obtain ⟨-, rfl⟩ := orRaise_goOn goes
      exact .inl ⟨_, mem_singleton_self _, .inr ⟨_, _, rfl⟩⟩

def Asked (setup : Setup) (events : List Event) (test : Nat) (instr : Instr) : Prop :=
  ∀ testers, instr = .askConfigured testers true →
    ∀ other ∈ setup.testerDescriptors, other ∈ testers ∨ .reported test other ∈ events

lemma Asked.more {setup events later test instr}
    (asked : Asked setup events test instr) : Asked setup (events ++ later) test instr := by
  intro testers same other mem
  exact (asked testers same other mem).imp_right (mem_append_left later)

lemma next_asked {events} (asked : Asked setup events test instr) {more}
    (goes : (next setup state reply test instr).2 = .goOn more) {added} (mem : added ∈ more) :
    Asked setup (events ++ (next setup state reply test instr).1) test added := by
  intro testers same other known
  obtain ⟨rfl, rfl⟩ | ⟨tester, before, rfl, quiet, all⟩ := (next_more goes mem).2.2 testers true same
  · exact .inl known
  · obtain ⟨rfl, confirms⟩ : before = true ∧ reply.confirms = true := by simpa using all.symm
    obtain here | reported := asked _ rfl other known
    · obtain rfl | later := mem_cons.1 here
      · exact .inr (mem_append_right _ (by simp [next, quiet, confirms]))
      · exact .inl later
    · exact .inr (mem_append_left _ reported)

end

/-! What is still to be done. -/

section

variable {setup : Setup} {rest later : List (Nat × Instr)}

def Enabling (instr : Instr) : Prop := ∃ tester, instr = .send (.tester tester) .enable

def Covered (waits : Instr → Prop) : (Nat → Prop) → List (Nat × Instr) → Prop
  | _, [] => True
  | done, (test, instr) :: later =>
    (Enabling instr → done test) ∧
      Covered waits (fun other => done other ∨ other = test ∧ waits instr) later

variable {waits : Instr → Prop} {done more : Nat → Prop}

lemma Covered.mono (covered : Covered waits done rest) (implied : ∀ test, done test → more test) :
    Covered waits more rest := by
  induction rest generalizing done more with
  | nil => trivial
  | cons head later ih =>
    obtain ⟨first, following⟩ := covered
    exact ⟨fun enabling => implied _ (first enabling),
      ih following fun test => Or.imp_left (implied test)⟩

lemma covered_append {first second} :
    Covered waits done (first ++ second) ↔
      Covered waits done first ∧
        Covered waits (fun test => done test ∨ ∃ instr ∈ first, test = instr.1 ∧ waits instr.2)
          second := by
  induction first generalizing done with
  | nil => simp [Covered]
  | cons head later ih =>
    simp only [cons_append, Covered, ih, and_assoc, mem_cons, exists_eq_or_imp, or_assoc]

lemma covered_of_none (none_ : ∀ instr ∈ rest, ¬ Enabling instr.2) : Covered waits done rest := by
  induction rest generalizing done with
  | nil => trivial
  | cons head later ih =>
    refine ⟨fun enabling => absurd enabling (none_ head mem_cons_self), ih ?_⟩
    exact fun instr mem => none_ instr (mem_cons_of_mem _ mem)

lemma covered_of_done (every : ∀ instr ∈ rest, done instr.1) : Covered waits done rest := by
  induction rest generalizing done with
  | nil => trivial
  | cons head later ih =>
    refine ⟨fun _ => every head mem_cons_self, ih ?_⟩
    exact fun instr mem => .inl (every instr (mem_cons_of_mem _ mem))

lemma Covered.step {test instr} {added : List Instr}
    (covered : Covered waits done ((test, instr) :: later))
    (implied : ∀ other, done other → more other)
    (goesOn : waits instr → (∃ part ∈ added, waits part) ∨ more test)
    (none_ : ∀ part ∈ added, ¬ Enabling part) :
    Covered waits more (added.map (test, ·) ++ later) := by
  refine covered_append.2 ⟨covered_of_none ?_, covered.2.mono ?_⟩
  · intro _ added_
    obtain ⟨part, member, rfl⟩ := mem_map.1 added_
    exact none_ part member
  · rintro other (known | ⟨rfl, waiting⟩)
    · exact .inl (implied other known)
    · obtain ⟨part, member, still⟩ | known := goesOn waiting
      · exact .inr ⟨(other, part), mem_map_of_mem member, rfl, still⟩
      · exact .inl known

lemma Free.append {first second} (firstFree : Free first)
    (secondFree : Free second) : Free (first ++ second) := by
  intro instr mem
  exact (mem_append.1 mem).elim (firstFree instr) (secondFree instr)

lemma Safe.append {first} (firstFree : Free first) (safe : Safe rest) : Safe (first ++ rest) := by
  induction first with
  | nil => exact safe
  | cons head later ih =>
    exact .inr ⟨firstFree head mem_cons_self,
      ih fun instr mem => firstFree instr (mem_cons_of_mem _ mem)⟩

lemma free_failing (test) : Free [(test, .fail)] := by
  intro instr mem
  obtain rfl := mem_singleton.1 mem
  exact not_false

end

/-! The commands come in the order of the tests. -/

@[simp] lemma sendsOf_nil : sendsOf [] = [] := rfl

lemma sendsOf_cons (test instr later) :
    sendsOf ((test, instr) :: later) = (pending test instr).toList ++ sendsOf later := by
  cases known : pending test instr with
  | none => exact filterMap_cons_none known
  | some command => exact filterMap_cons_some known

@[simp] lemma sendsOf_append (first second) :
    sendsOf (first ++ second) = sendsOf first ++ sendsOf second :=
  filterMap_append

lemma sendsOf_map (test) (script : List Instr) :
    sendsOf (script.map fun instr => (test, instr)) = script.filterMap (pending test) := by
  rw [sendsOf, filterMap_map]
  rfl

lemma pending_testers (setup test command) :
    (toTesters setup command).filterMap (pending test) =
      setup.testers.map fun tester => (test, .tester tester, command) := by
  rw [toTesters, filterMap_map, ← filterMap_eq_map]
  rfl

lemma pending_inTesters (setup test) : (inTesters setup).filterMap (pending test) = [] := by
  rw [inTesters, filterMap_map]
  exact filterMap_eq_nil_iff.2 fun _ _ => rfl

lemma pending_startFED (setup test) : (startFED setup).filterMap (pending test) = [] := by
  unfold startFED
  split <;> rfl

lemma pending_testScript (setup test isTestDurationUndefined) :
    (testScript setup isTestDurationUndefined).filterMap (pending test) =
      testCommands setup test := by
  simp [testScript, testCommands, filterMap_cons, pending_testers, pending_inTesters,
    pending_startFED, pending]

lemma sendsOf_script (setup tests) :
    sendsOf (script setup tests) =
      tests.zipIdx.flatMap fun test => testCommands setup test.2 := by
  have first : sendsOf (setup.testerDescriptors.map fun tester =>
      (0, Instr.exchange (.tester tester))) = [] := by
    rw [sendsOf, filterMap_map]
    exact filterMap_eq_nil_iff.2 fun _ _ => rfl
  have all : sendsOf (tests.zipIdx.flatMap fun test =>
      (testScript setup test.1).map fun instr => (test.2, instr)) =
      tests.zipIdx.flatMap fun test => testCommands setup test.2 := by
    rw [sendsOf, filterMap_flatMap]
    congr 1
    funext test
    exact (sendsOf_map _ _).trans (pending_testScript setup test.2 test.1)
  rw [script, sendsOf_append, sendsOf_append, first, all]
  rfl

/-- What was sent and what is to be sent are together the commands of the tests, or nothing more
is to be sent. -/
def OnPlan (plan : List (Nat × Target × Command)) (system : System) : Prop :=
  system.events.filterMap commandOf ++ sendsOf system.rest = plan ∨
    sendsOf system.rest = [] ∧ system.events.filterMap commandOf <+: plan

lemma sendsOf_more {setup state reply test instr more}
    (goes : (next setup state reply test instr).2 = .goOn more) :
    sendsOf (more.map (test, ·)) = [] := by
  rw [sendsOf_map]
  refine filterMap_eq_nil_iff.2 fun added mem => ?_
  have sends := (next_more goes mem).1
  cases added with
  | send target command => exact absurd rfl (sends target command)
  | _ => rfl

lemma onPlan_sequence {plan} (setup) {system} (reply) (onPlan : OnPlan plan system) :
    OnPlan plan (step setup system (.sequence reply)) := by
  obtain ⟨state, rest, acting, arriving, events⟩ := system
  cases rest with
  | nil => exact onPlan
  | cons head later =>
    obtain ⟨test, instr⟩ := head
    -- The command leaves what is to be sent when it is sent.
    have sent : ∀ events : List Event,
        (events ++ (next setup state reply test instr).1).filterMap commandOf =
          events.filterMap commandOf ++ (pending test instr).toList := fun events => by
      rw [filterMap_append, next_commands]
    have shorter : events.filterMap commandOf ++ (pending test instr).toList <+: plan := by
      obtain same | ⟨nothing, initial⟩ := onPlan
      · rw [← same, sendsOf_cons, ← append_assoc]
        exact prefix_append _ _
      · rw [sendsOf_cons, append_eq_nil_iff] at nothing
        rw [nothing.1, append_nil]
        exact initial
    simp only [OnPlan, step, sent]
    cases goes : (next setup state reply test instr).2 with
    | goOn more =>
      simp only [Outcome.rest, sendsOf_append, sendsOf_more goes, nil_append]
      obtain same | ⟨nothing, _⟩ := onPlan
      · refine .inl ?_
        rw [append_assoc, ← sendsOf_cons]
        exact same
      · rw [sendsOf_cons, append_eq_nil_iff] at nothing
        exact .inr ⟨nothing.2, shorter⟩
    | return_ => exact .inr ⟨rfl, shorter⟩
    | raise => exact .inr ⟨rfl, shorter⟩
    | failed => exact .inr ⟨rfl, shorter⟩

lemma onPlan_step {plan} (setup system input) (onPlan : OnPlan plan system) : OnPlan plan
    (step setup system input) := by
  cases input with
  | sequence reply => exact onPlan_sequence setup reply onPlan
  | begin_ action =>
    unfold step
    dsimp only
    split <;> exact onPlan
  | act threw =>
    unfold step
    dsimp only
    split
    · exact onPlan
    · have silent : ∀ action, [Event.acted action].filterMap commandOf = [] := fun _ => rfl
      simp only [OnPlan, filterMap_append, silent, append_nil]
      exact onPlan
    · exact onPlan
  | arrive =>
    unfold step
    dsimp only
    split <;> exact onPlan
  | enabled =>
    unfold step
    dsimp only
    split <;> exact onPlan

lemma run_inOrder (setup tests inputs) : InOrder setup tests (run setup tests inputs).events := by
  have start : OnPlan (tests.zipIdx.flatMap fun test => testCommands setup test.2)
      (initial setup tests) := Or.inl (sendsOf_script setup tests)
  obtain same | ⟨-, initial⟩ := run_preserved (onPlan_step setup) inputs start
  · exact ⟨_, same⟩
  · exact initial

/-! After an action of the manager the sequence gives no command. -/

lemma append_split {Item : Type} {first second before after : List Item} {item}
    (same : first ++ second = before ++ item :: after) :
    (∃ middle, first = before ++ item :: middle ∧ after = middle ++ second) ∨
      ∃ middle, before = first ++ middle ∧ second = middle ++ item :: after := by
  obtain ⟨middle, rfl, rest⟩ | ⟨middle, rfl, rest⟩ := append_eq_append_iff.1 same
  · exact .inr ⟨middle, rfl, rest⟩
  · cases middle with
    | nil => exact .inr ⟨[], by simp, by simpa using rest.symm⟩
    | cons head middle =>
      obtain ⟨rfl, rfl⟩ := List.cons.inj rest
      exact .inl ⟨middle, rfl, rfl⟩

lemma hasActed_append {first second} :
    HasActed (first ++ second) ↔ HasActed first ∨ HasActed second := by
  simp only [HasActed, mem_append, exists_or]

lemma hasActed_mem {before after action} : HasActed (before ++ .acted action :: after) :=
  ⟨action, mem_append_right _ mem_cons_self⟩

lemma CalmAfterActions.append {events later} (calm : CalmAfterActions events)
    (still : HasActed (events ++ later) → Calm later) : CalmAfterActions (events ++ later) := by
  intro before action after same
  obtain ⟨middle, rfl, rfl⟩ | ⟨middle, rfl, rfl⟩ := append_split same
  · intro test target command mem
    obtain old | new := mem_append.1 mem
    · exact calm before action middle rfl test target command old
    · exact still (hasActed_append.2 (Or.inl hasActed_mem)) test target command new
  · intro test target command mem
    refine still (hasActed_append.2 (Or.inr hasActed_mem)) test target command ?_
    exact mem_append_right _ (mem_cons_of_mem _ mem)

/-- The sequence has no command left after an action, or looks at the state before its next one
and then returns. -/
structure Kept (system : System) : Prop where
  calm : CalmAfterActions system.events
  ended : HasActed system.events → Free system.rest ∨
    Safe system.rest ∧ (Gone system.state ∨ ∃ state, system.arriving = some state ∧ Gone state)
  stopping : ∀ state, system.arriving = some state → ¬ Gone state → Free system.rest
  running : ¬ HasActed system.events → ¬ Gone system.state ∧ system.arriving = none

lemma Kept.neutral {system} (kept : Kept system) (acted : HasActed system.events)
    {test instr later} (here : system.rest = (test, instr) :: later) : ¬ Commands instr := by
  obtain free | ⟨safe, -⟩ := kept.ended acted
  · exact free (test, instr) (here ▸ mem_cons_self)
  · rw [here] at safe
    obtain rfl | ⟨neutral, -⟩ := safe
    · exact not_false
    · exact neutral

lemma free_more {setup state reply test instr} (neutral : ¬ Commands instr) {more}
    (goes : (next setup state reply test instr).2 = .goOn more) : Free (more.map (test, ·)) := by
  intro part mem
  obtain ⟨added, member, rfl⟩ := mem_map.1 mem
  exact fun commands => neutral ((next_more goes member).2.1 commands)

lemma free_rest {setup state reply test instr later} (free : Free ((test, instr) :: later)) :
    Free ((next setup state reply test instr).2.rest test later) := by
  cases goes : (next setup state reply test instr).2 with
  | goOn more =>
    refine (free_more (free _ mem_cons_self) goes).append fun part mem => ?_
    exact free part (mem_cons_of_mem _ mem)
  | return_ => exact fun _ mem => (nomatch mem)
  | raise => exact free_failing test
  | failed => exact fun _ mem => (nomatch mem)

lemma next_failed {setup state reply test instr}
    (failed : (next setup state reply test instr).2 = .failed) : instr = .toFailed := by
  have orRaise : ∀ more, reply.orRaise more ≠ .failed := by
    intro more
    unfold Reply.orRaise
    split <;> exact Outcome.noConfusion
  cases instr with
  | toFailed => rfl
  | exchange target => exact absurd failed (orRaise _)
  | send target command => exact absurd failed (orRaise _)
  | check =>
    simp only [next] at failed
    split at failed <;> cases failed
  | askDaq command left =>
    simp only [next, afterAskDaq] at failed
    split at failed
    · cases failed
    · split at failed
      · cases failed
      · split at failed
        · cases failed
        · cases left <;> cases failed
  | askConfigured testers allConfigured =>
    cases testers with
    | nil => cases failed
    | cons tester later => exact absurd failed (orRaise _)
  | askFinished undefined asked allFinished =>
    cases asked with
    | nil => cases failed
    | cons target later => exact absurd failed (orRaise _)
  | startFed attempt left =>
    cases left with
    | nil => cases failed
    | cons part later =>
      simp only [next, nextFed] at failed
      split at failed
      · split at failed <;> cases failed
      · cases failed
  | dataFileNames left =>
    simp only [next] at failed
    split at failed
    · split at failed <;> cases failed
    · cases failed
  | completeness left => cases left <;> cases failed
  | chamberMaps testers =>
    cases testers with
    | nil => cases failed
    | cons tester later => exact absurd failed (orRaise _)
  | fail =>
    simp only [next] at failed
    split at failed <;> cases failed
  | failHalt left => cases left <;> cases failed
  | _ => cases failed

lemma Outcome.state_of_goOn {outcome : Outcome} {state} (here : outcome ≠ .failed) :
    outcome.state state = state := by
  cases outcome with
  | failed => exact absurd rfl here
  | _ => rfl

lemma ended_sequence {setup system reply test instr later} (kept : Kept system)
    (careful : Careful setup system (.sequence reply)) (acted : HasActed system.events)
    (here : system.rest = (test, instr) :: later) :
    Free ((next setup system.state reply test instr).2.rest test later) ∨
      Safe ((next setup system.state reply test instr).2.rest test later) ∧
        (Gone ((next setup system.state reply test instr).2.state system.state) ∨
          ∃ state, system.arriving = some state ∧ Gone state) := by
  have neutral := kept.neutral acted here
  obtain free | ⟨safe, gone⟩ := kept.ended acted
  · exact .inl (free_rest (here ▸ free))
  · rw [here] at safe
    cases goes : (next setup system.state reply test instr).2 with
    | goOn more =>
      refine .inr ⟨Safe.append (free_more neutral goes) ?_, gone⟩
      obtain rfl | ⟨-, rest⟩ := safe
      · -- The look at the state is not passed.
        exfalso
        obtain left | ⟨state, arriving, left⟩ := gone
        · simp [next, left] at goes
        · simp [Careful, arriving, here] at careful
          exact careful left
      · exact rest
    | return_ => exact .inl fun _ mem => (nomatch mem)
    | raise => exact .inl (free_failing test)
    | failed => exact .inl fun _ mem => (nomatch mem)

lemma Kept.sequence {setup system} (kept : Kept system) (reply)
    (careful : Careful setup system (.sequence reply)) :
    Kept (step setup system (.sequence reply)) := by
  obtain ⟨state, rest, acting, arriving, events⟩ := system
  cases rest with
  | nil => exact kept
  | cons head later =>
    obtain ⟨test, instr⟩ := head
    refine ⟨kept.calm.append ?_, ?_, ?_, ?_⟩
    · intro acted
      obtain before | now := hasActed_append.1 acted
      · exact next_calm (kept.neutral before rfl)
      · rw [next_acted now]
        exact next_calm not_false
    · intro acted
      obtain before | now := hasActed_append.1 acted
      · exact ended_sequence kept careful before rfl
      · obtain rfl := next_acted now
        exact .inl fun _ mem => (nomatch mem)
    · intro arrived known staying
      exact free_rest (kept.stopping arrived known staying)
    · intro quiet
      obtain ⟨here, none_⟩ := kept.running fun acted => quiet (hasActed_append.2 (Or.inl acted))
      refine ⟨?_, none_⟩
      have running : (next setup state reply test instr).2 ≠ .failed := by
        intro failed
        obtain rfl := next_failed failed
        exact quiet (hasActed_append.2 (Or.inr ⟨.fail, mem_cons_self⟩))
      simp only [step, Outcome.state_of_goOn running]
      exact here

lemma Kept.act {setup system} (kept : Kept system) (threw)
    (careful : Careful setup system (.act threw)) : Kept (step setup system (.act threw)) := by
  unfold step
  dsimp only
  split
  · exact kept
  · next action finished =>
      simp only [Careful, finished] at careful
      refine ⟨kept.calm.append ?_, fun _ => ?_, ?_, ?_⟩
      · intro _ _ _ _ mem
        cases mem_singleton.1 mem
      · cases action with
        | stop => exact .inl careful
        | halt => exact .inr ⟨careful, .inr ⟨_, rfl, .inl rfl⟩⟩
        | fail => exact .inr ⟨careful, .inr ⟨_, rfl, .inr rfl⟩⟩
      · rintro _ ⟨⟩ staying
        cases action with
        | stop => exact careful
        | halt => exact absurd (Or.inl rfl) staying
        | fail => exact absurd (Or.inr rfl) staying
      · intro quiet
        exact absurd hasActed_mem quiet
  · exact ⟨kept.calm, kept.ended, kept.stopping, kept.running⟩

lemma Kept.arrive {setup system} (kept : Kept system) : Kept (step setup system .arrive) := by
  unfold step
  dsimp only
  split
  · exact kept
  · next state arriving =>
      refine ⟨kept.calm, fun acted => ?_, fun _ known => (nomatch known), fun quiet => ?_⟩
      · by_cases left : Gone state
        · obtain free | ⟨safe, -⟩ := kept.ended acted
          · exact .inl free
          · exact .inr ⟨safe, .inl left⟩
        · exact .inl (kept.stopping state arriving left)
      · rw [(kept.running quiet).2] at arriving
        cases arriving

lemma Kept.enabled {setup system} (kept : Kept system) : Kept (step setup system .enabled) := by
  unfold step
  dsimp only
  split
  · next allowed =>
      obtain ⟨configured, -, none_⟩ := allowed
      refine ⟨kept.calm, fun acted => ?_, kept.stopping,
        fun _ => ⟨(by decide : ¬ Gone .enabled), none_⟩⟩
      obtain free | ⟨-, left | ⟨state, arriving, -⟩⟩ := kept.ended acted
      · exact .inl free
      · rw [configured] at left
        exact absurd left (by decide)
      · rw [none_] at arriving
        cases arriving
  · exact kept

lemma Kept.step {setup} (system input) (kept : Kept system)
    (careful : Careful setup system input) : Kept (step setup system input) := by
  cases input with
  | sequence reply => exact kept.sequence reply careful
  | begin_ action =>
    unfold TestSequence.step
    dsimp only
    split
    · exact ⟨kept.calm, kept.ended, kept.stopping, kept.running⟩
    · exact kept
  | act threw => exact kept.act threw careful
  | arrive => exact kept.arrive
  | enabled => exact kept.enabled

lemma initial_kept (setup tests) : Kept (initial setup tests) := by
  refine ⟨?_, ?_, fun _ known => (nomatch known),
    fun _ => ⟨(by decide : ¬ Gone .configured), rfl⟩⟩
  · intro before action after same
    cases before <;> cases same
  · rintro ⟨action, mem⟩
    cases mem

/-! A tester is enabled when all have reported and the DAQ is enabled. -/

lemma EnabledAfterReports.append {setup events later}
    (enabled : EnabledAfterReports setup events)
    (still : ∀ test tester, .sent test (.tester tester) .enable ∈ later →
      (∀ other ∈ setup.testers, .reported test other ∈ events) ∧ .daqEnabled test ∈ events) :
    EnabledAfterReports setup (events ++ later) := by
  intro before test tester after same
  obtain ⟨middle, rfl, rfl⟩ | ⟨middle, rfl, rfl⟩ := append_split same
  · exact enabled before test tester middle rfl
  · obtain ⟨reported, started⟩ := still test tester (mem_append_right _ mem_cons_self)
    exact ⟨fun other mem => mem_append_left _ (reported other mem), mem_append_left _ started⟩

def AllReported (setup : Setup) (events : List Event) (test : Nat) : Prop :=
  ∀ other ∈ setup.testerDescriptors, .reported test other ∈ events

/-- Until an action has sent its commands, each Enable that is still to be sent comes after what it
waits for. -/
structure Reports (setup : Setup) (system : System) : Prop where
  enabled : EnabledAfterReports setup system.events
  configures : ¬ HasActed system.events →
    Covered WaitsConfigured (AllReported setup system.events) system.rest
  starts : ¬ HasActed system.events →
    Covered WaitsDaq (fun test => .daqEnabled test ∈ system.events) system.rest
  asked : ∀ part ∈ system.rest, Asked setup system.events part.1 part.2

lemma AllReported.more {setup events test} (reported : AllReported setup events test) (later) :
    AllReported setup (events ++ later) test :=
  fun other known => mem_append_left _ (reported other known)

section

variable {setup : Setup} {state : FsmState} {reply : Reply} {test : Nat} {instr : Instr}
  {later : List (Nat × Instr)}

lemma none_enabling {more} (goes : (next setup state reply test instr).2 = .goOn more) :
    ∀ part ∈ more, ¬ Enabling part := by
  rintro part mem ⟨tester, same⟩
  exact (next_more goes mem).1 _ _ same

lemma covered_sequence {waits done after}
    (covered : Covered waits done ((test, instr) :: later))
    (implied : ∀ other, done other → after other)
    (goesOn : ∀ more, (next setup state reply test instr).2 = .goOn more → waits instr →
      (∃ part ∈ more, waits part) ∨ after test) :
    Covered waits after ((next setup state reply test instr).2.rest test later) := by
  cases goes : (next setup state reply test instr).2 with
  | goOn more => exact covered.step implied (goesOn more goes) (none_enabling goes)
  | return_ => trivial
  | raise =>
    refine covered_of_none fun part mem => ?_
    obtain rfl := mem_singleton.1 mem
    rintro ⟨tester, same⟩
    cases same
  | failed => trivial

lemma asked_sequence {events}
    (asked : ∀ part ∈ (test, instr) :: later, Asked setup events part.1 part.2) :
    ∀ part ∈ (next setup state reply test instr).2.rest test later,
      Asked setup (events ++ (next setup state reply test instr).1) part.1 part.2 := by
  intro part mem
  cases goes : (next setup state reply test instr).2 with
  | goOn more =>
    rw [goes] at mem
    obtain made | old := mem_append.1 mem
    · obtain ⟨added, member, rfl⟩ := mem_map.1 made
      exact next_asked (asked _ mem_cons_self) goes member
    · exact (asked part (mem_cons_of_mem _ old)).more
  | return_ =>
    rw [goes] at mem
    cases mem
  | raise =>
    rw [goes] at mem
    obtain rfl := mem_singleton.1 mem
    intro testers same
    cases same
  | failed =>
    rw [goes] at mem
    cases mem

end

lemma Reports.sequence {setup system} (distinct : (setup.testers.map setup.group).Nodup)
    (kept : Kept system) (reports : Reports setup system) (reply) :
    Reports setup (step setup system (.sequence reply)) := by
  obtain ⟨state, rest, acting, arriving, events⟩ := system
  cases rest with
  | nil => exact reports
  | cons head later =>
    obtain ⟨test, instr⟩ := head
    have before : ¬ HasActed (events ++ (next setup state reply test instr).1) →
        ¬ HasActed events := fun quiet acted => quiet (hasActed_append.2 (Or.inl acted))
    refine ⟨reports.enabled.append ?_, ?_, ?_, asked_sequence reports.asked⟩
    · intro other tester sent
      obtain ⟨_, _, rfl, same⟩ | ⟨_, _, -, same⟩ | ⟨_, same⟩ | same | ⟨-, same⟩ := next_events sent
      · cases same
        have quiet : ¬ HasActed events := fun acted => by
          have neutral := kept.neutral acted rfl
          exact neutral (by decide : Command.enable ≠ .halt)
        have reported := (reports.configures quiet).1 ⟨tester, rfl⟩
        unfold AllReported at reported
        rw [Setup.testerDescriptors_eq distinct] at reported
        exact ⟨reported, (reports.starts quiet).1 ⟨tester, rfl⟩⟩
      all_goals cases same
    · intro quiet
      refine covered_sequence (reports.configures (before quiet))
        (fun other reported => reported.more _) fun more goes waits => ?_
      obtain still | rfl := next_waitsConfigured (kept.running (before quiet)).1 waits goes
      · exact .inl still
      · refine .inr (AllReported.more (fun other known => ?_) _)
        obtain left | reported := reports.asked _ mem_cons_self [] rfl other known
        · cases left
        · exact reported
    · intro quiet
      refine covered_sequence (reports.starts (before quiet))
        (fun other => mem_append_left _) fun more goes waits => ?_
      obtain still | started := next_waitsDaq (kept.running (before quiet)).1 waits goes
      · exact .inl still
      · exact .inr (mem_append_right _ started)

lemma Reports.step {setup} (distinct : (setup.testers.map setup.group).Nodup)
    (system input) (kept : Kept system) (reports : Reports setup system) :
    Reports setup (step setup system input) := by
  cases input with
  | sequence reply => exact reports.sequence distinct kept reply
  | act threw =>
    unfold TestSequence.step
    dsimp only
    split
    · exact reports
    · refine ⟨reports.enabled.append fun test tester sent => ?_, fun quiet => ?_,
        fun quiet => ?_, fun part mem => (reports.asked part mem).more⟩
      · cases mem_singleton.1 sent
      · exact absurd hasActed_mem quiet
      · exact absurd hasActed_mem quiet
    · exact ⟨reports.enabled, reports.configures, reports.starts, reports.asked⟩
  | begin_ action =>
    unfold TestSequence.step
    dsimp only
    split
    · exact ⟨reports.enabled, reports.configures, reports.starts, reports.asked⟩
    · exact reports
  | arrive =>
    unfold TestSequence.step
    dsimp only
    split
    · exact reports
    · exact ⟨reports.enabled, reports.configures, reports.starts, reports.asked⟩
  | enabled =>
    unfold TestSequence.step
    dsimp only
    split
    · exact ⟨reports.enabled, reports.configures, reports.starts, reports.asked⟩
    · exact reports

lemma testScript_split (setup isTestDurationUndefined) :
    ∃ first last,
      testScript setup isTestDurationUndefined = first ++ toTesters setup .enable ++ last ∧
        (∀ instr ∈ first, ¬ Enabling instr) ∧ (∀ instr ∈ last, ¬ Enabling instr) ∧
        .waitConfigured ∈ first ∧ .waitDaq .enable daqTimeOutInSeconds ∈ first := by
  refine ⟨startFED setup ++ inTesters setup ++
    [.check, .send .daq .halt, .waitDaq .halt daqTimeOutInSeconds, .exchange .daq,
      .send .daq .configure] ++
    toTesters setup .configure ++
    [.waitDaq .configure daqTimeOutInSeconds, .check, .waitConfigured] ++
    startFED setup ++
    [.send .daq .enable, .waitDaq .enable daqTimeOutInSeconds, .exchange .daq] ++
    inTesters setup, [.waitFinished isTestDurationUndefined, .check] ++
    toTesters setup .halt ++
    [.send .daq .halt, .waitDaq .halt daqTimeOutInSeconds,
      .completeness (setup.testerDescriptors.length + 1), .check, .dataFileNames 3,
      .chamberMaps setup.testerDescriptors], ?_, ?_, ?_, ?_, ?_⟩
  · simp only [testScript, append_assoc]
  · rintro instr mem ⟨tester, rfl⟩
    simp [startFED, inTesters, toTesters] at mem
  · rintro instr mem ⟨tester, rfl⟩
    simp [toTesters] at mem
  · simp
  · simp

lemma testScript_covered (setup test isTestDurationUndefined) {waits}
    (either : waits .waitConfigured ∨ waits (.waitDaq .enable daqTimeOutInSeconds)) :
    Covered waits (fun _ => False)
      ((testScript setup isTestDurationUndefined).map fun instr => (test, instr)) := by
  have none_ : ∀ script : List Instr, (∀ instr ∈ script, ¬ Enabling instr) →
      ∀ part ∈ script.map fun instr => (test, instr), ¬ Enabling part.2 := by
    intro script quiet part mem
    obtain ⟨instr, member, rfl⟩ := mem_map.1 mem
    exact quiet instr member
  obtain ⟨first, last, same, firstNone, lastNone, configured, started⟩ :=
    testScript_split setup isTestDurationUndefined
  obtain ⟨wait, mem, waiting⟩ : ∃ wait ∈ first, waits wait :=
    either.elim (fun waiting => ⟨_, configured, waiting⟩) fun waiting => ⟨_, started, waiting⟩
  rw [same, map_append, map_append]
  refine covered_append.2 ⟨covered_append.2 ⟨covered_of_none (none_ first firstNone), ?_⟩,
    covered_of_none (none_ last lastNone)⟩
  refine covered_of_done fun part member => .inr ?_
  obtain ⟨instr, -, rfl⟩ := mem_map.1 member
  exact ⟨(test, wait), mem_map_of_mem mem, rfl, waiting⟩

lemma script_covered (setup tests) {waits done}
    (either : waits .waitConfigured ∨ waits (.waitDaq .enable daqTimeOutInSeconds)) :
    Covered waits done (script setup tests) := by
  have all : ∀ (indexed : List (Bool × Nat)) (done : Nat → Prop), Covered waits done
      (indexed.flatMap fun test => (testScript setup test.1).map fun instr => (test.2, instr)) := by
    intro indexed
    induction indexed with
    | nil => exact fun _ => trivial
    | cons test later ih =>
      intro done
      rw [flatMap_cons]
      refine covered_append.2 ⟨?_, ih _⟩
      exact (testScript_covered setup test.2 test.1 either).mono fun _ => False.elim
  refine covered_append.2 ⟨covered_of_none ?_, all _ _⟩
  rintro part mem ⟨tester, same⟩
  simp only [mem_append, mem_map, mem_singleton] at mem
  obtain ⟨_, _, rfl⟩ | rfl := mem <;> cases same

lemma initial_reports (setup tests) : Reports setup (initial setup tests) := by
  refine ⟨?_, fun _ => script_covered setup tests (Or.inl (Or.inl rfl)),
    fun _ => script_covered setup tests (Or.inr ⟨_, .inl rfl⟩), ?_⟩
  · intro before test tester after same
    cases before <;> cases same
  · rintro ⟨test, instr⟩ mem testers rfl
    simp [initial, script, testScript, startFED, inTesters, toTesters] at mem

/-- The commands of the sequence come in the order of the tests. If the actions of the manager
come where the sequence still looks at its state, nothing but a Halt is sent after them and a
tester is enabled only when all have reported. -/
theorem test_sequence (setup : Setup) (tests : List Bool) (inputs : List Input) :
    InOrder setup tests (run setup tests inputs).events ∧
      (Guarded (step setup) (Careful setup) (initial setup tests) inputs →
        CalmAfterActions (run setup tests inputs).events ∧
          ((setup.testers.map setup.group).Nodup →
            EnabledAfterReports setup (run setup tests inputs).events)) := by
  refine ⟨run_inOrder setup tests inputs, fun careful => ⟨?_, fun distinct => ?_⟩⟩
  · exact (run_invariant Kept.step (initial_kept setup tests) careful).calm
  · have both := @run_invariant _ _ _ _ (fun system => Kept system ∧ Reports setup system)
      (fun system input kept careful => ⟨kept.1.step system input careful,
        kept.2.step distinct system input kept.1⟩) _ _
      ⟨initial_kept setup tests, initial_reports setup tests⟩ careful
    exact both.2.enabled

def oneTester : Setup := ⟨[1], fun _ => "ME+1/1", []⟩

def answered (daqState : DaqState) (count : Nat) : List Input :=
  List.replicate count (.sequence ⟨false, daqState, true⟩)

def haltedWhileRunning : List Input :=
  answered .halted 10 ++ answered .ready 7 ++ answered .enabled 6 ++
    [.begin_ .halt, .act false, .act false, .arrive] ++ answered .halted 4

theorem test_sequence_haltedWhileRunning :
    (run oneTester [false, false] haltedWhileRunning).events.length = 8 ∧
      CalmAfterActions (run oneTester [false, false] haltedWhileRunning).events ∧
        EnabledAfterReports oneTester (run oneTester [false, false] haltedWhileRunning).events := by
  obtain ⟨calm, enabled⟩ :=
    (test_sequence oneTester [false, false] haltedWhileRunning).2 (by decide +kernel)
  exact ⟨by decide +kernel, calm, enabled (by decide)⟩

/-- The manager is halted when the sequence has looked at its state for the last time before the
tests run: it waits for nothing, and the DAQ and the tester are enabled. -/
def haltedWhileConfiguring : List Input :=
  answered .halted 10 ++ answered .ready 3 ++
    [.begin_ .halt, .act false, .act false, .arrive] ++ answered .halted 6

theorem halted_then_enabled :
    (run oneTester [false] haltedWhileConfiguring).events =
        [.sent 0 .daq .halt, .sent 0 .daq .configure, .sent 0 (.tester 1) .configure,
          .acted .halt, .sent 0 .daq .enable, .sent 0 (.tester 1) .enable] ∧
      ¬ CalmAfterActions (run oneTester [false] haltedWhileConfiguring).events ∧
      ¬ EnabledAfterReports oneTester (run oneTester [false] haltedWhileConfiguring).events := by
  refine ⟨rfl, fun calm => ?_, fun enabled => ?_⟩
  · have sent := calm [.sent 0 .daq .halt, .sent 0 .daq .configure,
      .sent 0 (.tester 1) .configure] .halt _ rfl 0 .daq .enable mem_cons_self
    cases sent
  · have reported := (enabled [.sent 0 .daq .halt, .sent 0 .daq .configure,
      .sent 0 (.tester 1) .configure, .acted .halt, .sent 0 .daq .enable] 0 1 [] rfl).2
    revert reported
    decide

end EmuLib.Step.TestSequence
