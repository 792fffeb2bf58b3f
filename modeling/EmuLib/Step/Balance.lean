import EmuLib.Step.Sections

/-!
Which paths through the functions of the STEP manager take and give its semaphore in turn, and what
that means for its threads.
-/

namespace EmuLib.Step

open GuardedRun Operations TakeGive List

section

variable {Value Result : Type} {body : Section Value} {next : Value → Section Result}
  {ops more : List Op} {value : Value} {thrown : Thrown} {result : Except Thrown Value}
  {final : Except Thrown Result}

def Ends (body : Section Value) (ops : List Op) (result : Except Thrown Value) : Prop :=
  ∀ done, body.run.run done = (result, done ++ ops)

lemma Ends.ops_eq (ends : Ends body ops result) : body.ops = ops :=
  (congrArg Prod.snd (ends [])).trans (nil_append ops)

lemma ends_pure (value : Value) : Ends (pure value) [] (.ok value) := fun done =>
  congrArg (Prod.mk (Except.ok value : Except Thrown Value)) (append_nil done).symm

lemma ends_throw (thrown) : Ends (throw thrown : Section Value) [] (.error thrown) :=
  fun done =>
    congrArg (Prod.mk (Except.error thrown : Except Thrown Value)) (append_nil done).symm

lemma ends_take : Ends take [.take] (.ok ()) := fun _ => rfl
lemma ends_give : Ends give [.give] (.ok ()) := fun _ => rfl
lemma ends_undefined : Ends undefined [.undefined] (.ok ()) := fun _ => rfl

lemma Ends.bind (first : Ends body ops (.ok value)) (second : Ends (next value) more final) :
    Ends (body >>= next) (ops ++ more) final := by
  intro done
  simp only [ExceptT.run_bind, StateT.run_bind, first done]
  exact (second _).trans (congrArg (Prod.mk final) (append_assoc ..))

lemma Ends.andThen {rest} (first : Ends body ops (.ok value))
    (second : Ends rest more final) : Ends (body >>= fun _ => rest) (ops ++ more) final :=
  first.bind second

lemma Ends.bind_thrown (first : Ends body ops (.error thrown)) (next : Value → Section Result) :
    Ends (body >>= next) ops (.error thrown) := by
  intro done
  simp only [ExceptT.run_bind, StateT.run_bind, first done]
  rfl

lemma Ends.catch_none (first : Ends body ops (.ok value)) (handler) :
    Ends (tryCatch body handler) ops (.ok value) := by
  intro done
  have found : StateT.run body done = (.ok value, done ++ ops) := first done
  show (ExceptT.tryCatch body handler).run.run done = _
  simp only [ExceptT.tryCatch, ExceptT.run_mk, StateT.run_bind, found]
  rfl

lemma Ends.catch_thrown {handler} (first : Ends body ops (.error thrown))
    (second : Ends (handler thrown) more result) :
    Ends (tryCatch body handler) (ops ++ more) result := by
  intro done
  have found : StateT.run body done = (.error thrown, done ++ ops) := first done
  show (ExceptT.tryCatch body handler).run.run done = _
  simp only [ExceptT.tryCatch, ExceptT.run_mk, StateT.run_bind, found]
  exact (second _).trans (congrArg (Prod.mk result) (append_assoc ..))

lemma call_returns : Ends (call none) [] (.ok ()) := ends_pure ()

lemma call_throws (thrown) : Ends (call (some thrown)) [] (.error thrown) :=
  ends_throw thrown

lemma reply_ends (replied : Except Thrown Value) : Ends (reply replied) [] replied := by
  cases replied with
  | ok value => exact ends_pure value
  | error thrown => exact ends_throw thrown

end

section

variable {path : FailPath}

def Caught (outcome : Outcome) : Prop := outcome = none ∨ outcome = some .xcept

instance (outcome : Outcome) : Decidable (Caught outcome) := inferInstanceAs (Decidable (_ ∨ _))

def FailPath.Clean (path : FailPath) : Prop :=
  path.state = .failed ∨ Caught path.testerHalt ∧ Caught path.daqHalt

lemma uncaught {outcome} (escapes : ¬ Caught outcome) :
    ∃ thrown, thrown ≠ .xcept ∧ outcome = some thrown := by
  cases outcome with
  | none => exact absurd (.inl rfl) escapes
  | some thrown =>
    refine ⟨thrown, ?_, rfl⟩
    rintro rfl
    exact escapes (.inr rfl)

lemma caught_returns {outcome} (caught_ : Caught outcome) :
    Ends (caught outcome) [] (.ok ()) := by
  rcases caught_ with rfl | rfl
  · exact call_returns.catch_none _
  · exact (call_throws .xcept).catch_thrown (ends_pure ())

lemma escaped {body ops thrown} (other : thrown ≠ .xcept) (handler : Section Unit)
    (ends : Ends body ops (.error thrown)) :
    Ends (tryCatch body fun
      | .xcept => handler
      | other => throw other) ops (.error thrown) := by
  have kept := @Ends.catch_thrown _ body ops [] thrown (.error thrown) (fun
    | .xcept => handler
    | other => throw other) ends
  rw [append_nil] at kept
  cases thrown with
  | xcept => exact absurd rfl other
  | std => exact kept (ends_throw _)
  | unknown => exact kept (ends_throw _)

lemma fireFail_clean (clean : path.Clean) :
    Ends (fireFail path) [] (.ok ()) ∨ Ends (fireFail path) [] (.error .xcept) := by
  rw [fireFail]
  by_cases failed : path.state = .failed
  · rw [if_pos failed]
    exact .inr (ends_throw _)
  · rw [if_neg failed]
    obtain ⟨tester, daq⟩ := clean.resolve_left failed
    exact .inl ((caught_returns tester).bind (caught_returns daq))

lemma fireFail_escapes (unclean : ¬ path.Clean) :
    ∃ thrown, thrown ≠ .xcept ∧ Ends (fireFail path) [] (.error thrown) := by
  obtain ⟨running, calls⟩ := not_or.1 unclean
  rw [fireFail, if_neg running]
  by_cases tester : Caught path.testerHalt
  · obtain ⟨thrown, other, daq⟩ := uncaught fun daq => calls ⟨tester, daq⟩
    refine ⟨thrown, other, (caught_returns tester).bind ?_⟩
    rw [daq]
    exact escaped other _ (call_throws thrown)
  · obtain ⟨thrown, other, throws⟩ := uncaught tester
    refine ⟨thrown, other, Ends.bind_thrown ?_ _⟩
    rw [throws]
    exact escaped other _ (call_throws thrown)

lemma moveToFailedState_clean (clean : path.Clean) :
    Ends (moveToFailedState path) [.take, .give] (.ok ()) := by
  refine ends_take.bind (@Ends.bind _ _ _ _ [] [.give] () _ ?_ ends_give)
  rcases fireFail_clean clean with returns | throws
  · exact returns.catch_none _
  · exact throws.catch_thrown (ends_pure ())

lemma moveToFailedState_escapes (unclean : ¬ path.Clean) :
    ∃ thrown, Ends (moveToFailedState path) [.take] (.error thrown) := by
  obtain ⟨thrown, other, fires⟩ := fireFail_escapes unclean
  exact ⟨thrown, ends_take.bind ((escaped other _ fires).bind_thrown _)⟩

lemma moveToFailedState_balanced : Balanced (moveToFailedState path).ops ↔ path.Clean := by
  by_cases clean : path.Clean
  · rw [(moveToFailedState_clean clean).ops_eq]
    exact iff_of_true rfl clean
  · obtain ⟨thrown, ends⟩ := moveToFailedState_escapes clean
    rw [ends.ops_eq]
    exact iff_of_false (by decide) clean

end

section

lemma createIfNone_ends (configured created) :
    Ends (createIfNone configured created) []
      (if configured then .ok () else created.elim (.ok ()) .error) := by
  cases configured with
  | true => exact ends_pure ()
  | false =>
    cases created with
    | none => exact call_returns
    | some thrown => exact call_throws thrown

lemma defaultWebPage_balanced (path) : Balanced (defaultWebPage path).ops := by
  have body : ∃ result, Ends (do
      createIfNone path.configured path.createConfiguration
      call path.createXMLWebPage) [] result := by
    have created := createIfNone_ends path.configured path.createConfiguration
    cases result : (if path.configured then Except.ok ()
      else path.createConfiguration.elim (.ok ()) Except.error) with
    | error thrown =>
      rw [result] at created
      exact ⟨_, created.bind_thrown _⟩
    | ok =>
      rw [result] at created
      cases page : path.createXMLWebPage with
      | none => exact ⟨_, created.bind call_returns⟩
      | some thrown => exact ⟨_, created.bind (call_throws thrown)⟩
  obtain ⟨result, ends⟩ := body
  cases result with
  | ok =>
    have all := ends_take.andThen ((ends.catch_none fun _ => do
      give
      throw .xcept).andThen ends_give)
    rw [defaultWebPage, all.ops_eq]
    rfl
  | error thrown =>
    have handled : Ends (do
        give
        throw .xcept : Section Unit) [.give] (.error .xcept) := ends_give.bind (ends_throw _)
    have all := ends_take.andThen ((@Ends.catch_thrown _ _ _ _ _ _ (fun _ => do
      give
      throw .xcept) ends handled).bind_thrown fun _ => give)
    rw [defaultWebPage, all.ops_eq]
    rfl

def ControlPath.Created (path : ControlPath) : Prop :=
  path.configured = true ∨ path.createConfiguration = none

def allowed (command : String) : List FsmState :=
  if command = "Enable" then [.configured]
  else if command = "Halt" then [.configured, .enabled]
  else if command = "Stop" then [.enabled]
  else if command = "Reset" then [.failed]
  else []

/-- How the command of the form fails: a configuration that has been changed is refused, the
selection is not accepted, or the state machine throws. -/
def ControlPath.failure (path : ControlPath) : Outcome :=
  match path.action with
  | [command] =>
    if command = "Configure" then
      if path.state = .halted then
        if path.modificationTime = path.receivedModTime then path.setSelection <|> path.fires
        else some .xcept
      else none
    else if path.state ∈ allowed command then path.fires
    else none
  | _ => none

def ControlPath.Clean (path : ControlPath) : Prop :=
  path.Created ∧
    (path.failure = none ∨ path.failure = some .xcept ∧ path.fail.Clean ∧ path.errorPage ≠ none)

def ended : Outcome → Except Thrown Unit
  | none => .ok ()
  | some thrown => .error thrown

lemma call_ends (outcome) : Ends (call outcome) [] (ended outcome) := by
  cases outcome with
  | none => exact call_returns
  | some thrown => exact call_throws thrown

variable {path : ControlPath}

lemma fireIn_ends (states) :
    Ends (path.fireIn states) [] (ended (if path.state ∈ states then path.fires else none)) := by
  rw [ControlPath.fireIn]
  split
  · exact call_ends path.fires
  · exact ends_pure ()

lemma configure_ends : Ends path.configure []
    (ended (if path.state = .halted then
      if path.modificationTime = path.receivedModTime then path.setSelection <|> path.fires
      else some .xcept
    else none)) := by
  rw [ControlPath.configure]
  split
  · split
    · cases selected : path.setSelection with
      | none => exact call_returns.bind (call_ends path.fires)
      | some thrown => exact (call_throws thrown).bind_thrown _
    · exact ends_throw .xcept
  · exact ends_pure ()

lemma command_ends (command) :
    Ends
      (if command = "Enable" then path.fireIn [.configured]
      else if command = "Halt" then path.fireIn [.configured, .enabled]
      else if command = "Stop" then path.fireIn [.enabled]
      else if command = "Reset" then path.fireIn [.failed]
      else pure ()) []
      (ended (if path.state ∈ allowed command then path.fires else none)) := by
  rw [allowed]
  split
  · exact fireIn_ends _
  · split
    · exact fireIn_ends _
    · split
      · exact fireIn_ends _
      · split
        · exact fireIn_ends _
        · exact ends_pure ()

lemma drive_ends : Ends path.drive [] (ended path.failure) := by
  rw [ControlPath.drive, ControlPath.failure]
  cases path.action with
  | nil => exact ends_pure ()
  | cons command rest =>
    cases rest with
    | cons => exact ends_pure ()
    | nil =>
      dsimp only
      by_cases configures : command = "Configure"
      · rw [if_pos configures, if_pos configures]
        exact configure_ends
      · rw [if_neg configures, if_neg configures]
        exact command_ends command

lemma failure_action {thrown} (fails : path.failure = some thrown) : path.action ≠ [] := by
  intro empty
  rw [ControlPath.failure, empty] at fails
  cases fails

def ControlPath.report (path : ControlPath) : Section Unit := do
  give
  moveToFailedState path.fail
  call path.errorPage

lemma report_clean (clean : path.fail.Clean) :
    Ends path.report [.give, .take, .give] (ended path.errorPage) :=
  ends_give.bind ((moveToFailedState_clean clean).bind (call_ends path.errorPage))

lemma report_escapes (unclean : ¬ path.fail.Clean) :
    ∃ thrown, Ends path.report [.give, .take] (.error thrown) := by
  obtain ⟨thrown, ends⟩ := moveToFailedState_escapes unclean
  exact ⟨thrown, ends_give.bind (ends.bind_thrown _)⟩

def ControlPath.body (path : ControlPath) : Section Unit := do
  createIfNone path.configured path.createConfiguration
  path.drive

def ControlPath.handler (path : ControlPath) : Thrown → Section Unit
  | .xcept => do
    path.readCommand
    path.report
  | other => throw other

lemma controlWebPage_eq (path) :
    controlWebPage path = (do
      take
      tryCatch path.body path.handler
      give) := by
  funext thrown
  cases thrown <;> rfl

lemma body_created (created : path.Created) : Ends path.body [] (ended path.failure) := by
  have made := createIfNone_ends path.configured path.createConfiguration
  rcases created with configured | returned
  · rw [configured] at made
    rw [ControlPath.body, configured]
    exact made.bind drive_ends
  · rw [returned] at made
    have fine : (if path.configured then Except.ok ()
        else (none : Outcome).elim (.ok ()) Except.error) = Except.ok () := by
      split <;> rfl
    rw [fine] at made
    rw [ControlPath.body, returned]
    exact made.bind drive_ends

lemma body_uncreated (uncreated : ¬ path.Created) :
    ∃ thrown, path.createConfiguration = some thrown ∧ path.action = [] ∧
      Ends path.body [] (.error thrown) := by
  obtain ⟨without, fails⟩ := not_or.1 uncreated
  have empty : path.configured = false := by simpa using without
  obtain ⟨thrown, throws⟩ := Option.ne_none_iff_exists'.1 fails
  refine ⟨thrown, throws, if_pos ⟨empty, fails⟩, ?_⟩
  have made := createIfNone_ends path.configured path.createConfiguration
  rw [empty, throws] at made
  rw [ControlPath.body, empty, throws]
  exact made.bind_thrown _

/-- An exception that is not of xcept leaves the page with the semaphore taken. -/
lemma escaping_unbalanced {thrown} (other : thrown ≠ .xcept)
    (body : Ends path.body [] (.error thrown)) : ¬ Balanced (controlWebPage path).ops := by
  have handled : Ends (path.handler thrown) [] (.error thrown) := by
    cases thrown with
    | xcept => exact absurd rfl other
    | std => exact ends_throw _
    | unknown => exact ends_throw _
  have all := ends_take.andThen ((body.catch_thrown handled).bind_thrown fun _ => give)
  rw [controlWebPage_eq, all.ops_eq]
  decide

/-- After a failure that is reported the semaphore has been given twice, unless the page of the
failure cannot be made. -/
lemma reported_balanced (body : Ends path.body [] (.error .xcept)) (known : path.action ≠ []) :
    Balanced (controlWebPage path).ops ↔ path.fail.Clean ∧ path.errorPage ≠ none := by
  have read : Ends path.readCommand [] (.ok ()) := by
    rw [ControlPath.readCommand, if_neg known]
    exact ends_pure ()
  by_cases moves : path.fail.Clean
  · have handled : Ends (path.handler .xcept) [.give, .take, .give] (ended path.errorPage) :=
      read.andThen (report_clean moves)
    cases page : path.errorPage with
    | none =>
      rw [page] at handled
      have all := ends_take.andThen ((body.catch_thrown handled).andThen ends_give)
      rw [controlWebPage_eq, all.ops_eq]
      exact iff_of_false (by decide) fun both => both.2 rfl
    | some thrown =>
      rw [page] at handled
      have all := ends_take.andThen ((body.catch_thrown handled).bind_thrown fun _ => give)
      rw [controlWebPage_eq, all.ops_eq]
      exact iff_of_true rfl ⟨moves, Option.some_ne_none _⟩
  · obtain ⟨escaped, report⟩ := report_escapes moves
    have handled : Ends (path.handler .xcept) [.give, .take] (.error escaped) :=
      read.andThen report
    have all := ends_take.andThen ((body.catch_thrown handled).bind_thrown fun _ => give)
    rw [controlWebPage_eq, all.ops_eq]
    exact iff_of_false (by decide) fun both => moves both.1

lemma unread_unbalanced (body : Ends path.body [] (.error .xcept)) (empty : path.action = []) :
    ¬ Balanced (controlWebPage path).ops := by
  have read : Ends path.readCommand [.undefined] (.ok ()) := by
    rw [ControlPath.readCommand, if_pos empty]
    exact ends_undefined
  obtain ⟨ops, result, report⟩ : ∃ ops result, Ends path.report ops result := by
    by_cases moves : path.fail.Clean
    · exact ⟨_, _, report_clean moves⟩
    · obtain ⟨thrown, ends⟩ := report_escapes moves
      exact ⟨_, _, ends⟩
  have handled : Ends (path.handler .xcept) (.undefined :: ops) result := read.andThen report
  cases result with
  | ok =>
    have all := ends_take.andThen ((body.catch_thrown handled).andThen ends_give)
    rw [controlWebPage_eq, all.ops_eq]
    intro balanced
    cases balanced
  | error thrown =>
    have all := ends_take.andThen ((body.catch_thrown handled).bind_thrown fun _ => give)
    rw [controlWebPage_eq, all.ops_eq]
    intro balanced
    cases balanced

lemma controlWebPage_balanced : Balanced (controlWebPage path).ops ↔ path.Clean := by
  by_cases created : path.Created
  · have body := body_created created
    cases fails : path.failure with
    | none =>
      rw [fails] at body
      have all := ends_take.andThen ((body.catch_none path.handler).andThen ends_give)
      rw [controlWebPage_eq, all.ops_eq]
      exact iff_of_true rfl ⟨created, .inl fails⟩
    | some thrown =>
      rw [fails] at body
      by_cases known : thrown = .xcept
      · subst known
        rw [reported_balanced body (failure_action fails), ControlPath.Clean, fails]
        simp [created]
      · refine iff_of_false (escaping_unbalanced known body) fun clean => ?_
        rcases clean.2 with none_ | ⟨some_, _⟩
        · rw [fails] at none_
          cases none_
        · exact known (Option.some.inj (fails.symm.trans some_))
  · obtain ⟨thrown, _, empty, body⟩ := body_uncreated created
    refine iff_of_false ?_ fun clean => created clean.1
    by_cases known : thrown = .xcept
    · subst known
      exact unread_unbalanced body empty
    · exact escaping_unbalanced known body

end

/-- All the replies come that are asked for; with different numbers of events the summary is not. -/
def CompletenessPath.Clean (path : CompletenessPath) : Prop :=
  ∃ first, path.firstTester = .ok first ∧ (∀ tester ∈ path.testers, ∃ nEvents, tester = .ok nEvents) ∧
    ((∃ nEvents, .ok nEvents ∈ path.testers ∧ nEvents ≠ first) ∨ ∃ ruis, path.runSummary = .ok ruis)

variable {testers : List (Except Thrown Nat)}

lemma getNEvents_replies (replies : ∀ tester ∈ testers, ∃ nEvents, tester = .ok nEvents) {found}
    (once : found.Nodup) :
    ∃ all, Ends (getNEvents testers found) [] (.ok all) ∧ all.Nodup ∧ found <+: all ∧
      ∀ nEvents, nEvents ∈ all ↔ nEvents ∈ found ∨ .ok nEvents ∈ testers := by
  induction testers generalizing found with
  | nil => exact ⟨found, ends_pure found, once, prefix_refl found, by simp⟩
  | cons tester rest ih =>
    obtain ⟨⟨nEvents, rfl⟩, others⟩ := forall_mem_cons.1 replies
    by_cases there : nEvents ∈ found
    · obtain ⟨all, ends, nodup, before, members⟩ := ih others once
      refine ⟨all, (reply_ends _).bind ?_, nodup, before, fun other => ?_⟩
      · rw [if_pos there]
        exact ends
      · rw [members, mem_cons, Except.ok.injEq]
        constructor
        · exact Or.imp_right .inr
        · rintro (old | rfl | later)
          · exact .inl old
          · exact .inl there
          · exact .inr later
    · have more : (found ++ [nEvents]).Nodup :=
        nodup_append.2 ⟨once, by simp, fun old member new same => by
          obtain rfl := mem_singleton.1 same
          rintro rfl
          exact there member⟩
      obtain ⟨all, ends, nodup, before, members⟩ := ih others more
      refine ⟨all, (reply_ends _).bind ?_, nodup, (prefix_append ..).trans before, fun other => ?_⟩
      · rw [if_neg there]
        exact ends
      · rw [members, mem_cons, Except.ok.injEq, mem_append, mem_singleton, or_assoc]

lemma several_iff {first : Nat} {all} (once : all.Nodup) (head : [first] <+: all) :
    1 < all.length ↔ ∃ nEvents ∈ all, nEvents ≠ first := by
  obtain ⟨rest, rfl⟩ := head
  obtain ⟨apart, _⟩ := nodup_cons.1 once
  cases rest with
  | nil => simp
  | cons second others =>
    refine iff_of_true (by simp) ⟨second, by simp, ?_⟩
    rintro rfl
    exact apart mem_cons_self

lemma getNEvents_throws (throws : ¬ ∀ tester ∈ testers, ∃ nEvents, tester = .ok nEvents) (found) :
    ∃ thrown, Ends (getNEvents testers found) [] (.error thrown) := by
  induction testers generalizing found with
  | nil => exact absurd (fun tester member => absurd member not_mem_nil) throws
  | cons tester rest ih =>
    cases tester with
    | error thrown => exact ⟨thrown, (reply_ends _).bind_thrown _⟩
    | ok nEvents =>
      have later : ¬ ∀ tester ∈ rest, ∃ nEvents, tester = .ok nEvents := fun all =>
        throws (forall_mem_cons.2 ⟨⟨nEvents, rfl⟩, all⟩)
      obtain ⟨thrown, ends⟩ := ih later (if nEvents ∈ found then found else found ++ [nEvents])
      exact ⟨thrown, (reply_ends _).bind ends⟩

lemma checkCounts_ends (path first testsNEvents) :
    ((1 < testsNEvents.length ∨ ∃ ruis, path.runSummary = .ok ruis) ∧
      ∃ text, Ends (checkCounts path first testsNEvents) [] (.ok text)) ∨
    (¬ (1 < testsNEvents.length ∨ ∃ ruis, path.runSummary = .ok ruis) ∧
      ∃ thrown, Ends (checkCounts path first testsNEvents) [] (.error thrown)) := by
  rw [checkCounts]
  by_cases differ : 1 < testsNEvents.length
  · rw [if_pos differ]
    exact .inl ⟨.inl differ, _, ends_pure _⟩
  · rw [if_neg differ]
    cases path.runSummary with
    | ok ruis => exact .inl ⟨.inr ⟨ruis, rfl⟩, _, (reply_ends (.ok ruis)).bind (ends_pure _)⟩
    | error thrown =>
      refine .inr ⟨?_, _, (reply_ends (.error thrown)).bind_thrown _⟩
      rintro (several | ⟨ruis, same⟩)
      · exact differ several
      · cases same

def CompletenessPath.body (path : CompletenessPath) : Section String := do
  let first ← reply path.firstTester
  let testsNEvents ← getNEvents path.testers [first]
  checkCounts path first testsNEvents

lemma body_ends (path : CompletenessPath) :
    (path.Clean ∧ ∃ text, Ends path.body [] (.ok text)) ∨
      (¬ path.Clean ∧ ∃ thrown, Ends path.body [] (.error thrown)) := by
  rw [CompletenessPath.body, CompletenessPath.Clean]
  cases path.firstTester with
  | error thrown =>
    refine .inr ⟨?_, thrown, (reply_ends (.error thrown)).bind_thrown _⟩
    rintro ⟨first, same, _⟩
    cases same
  | ok first =>
    have firstReplies := reply_ends (Except.ok first : Except Thrown Nat)
    by_cases replies : ∀ tester ∈ path.testers, ∃ nEvents, tester = .ok nEvents
    · obtain ⟨all, ends, once, head, members⟩ := @getNEvents_replies _ replies [first] (by simp)
      have several : 1 < all.length ↔ ∃ nEvents, .ok nEvents ∈ path.testers ∧ nEvents ≠ first := by
        rw [several_iff once head]
        refine exists_congr fun nEvents => ?_
        rw [members, mem_singleton]
        exact and_congr_left fun apart => or_iff_right apart
      have checked := checkCounts_ends path first all
      rw [several] at checked
      rcases checked with ⟨clean, text, counts⟩ | ⟨unclean, thrown, counts⟩
      · exact .inl ⟨⟨first, rfl, replies, clean⟩, text, firstReplies.bind (ends.bind counts)⟩
      · refine .inr ⟨?_, thrown, firstReplies.bind (ends.bind counts)⟩
        rintro ⟨other, same, _, clean⟩
        obtain rfl := Except.ok.inj same
        exact unclean clean
    · obtain ⟨thrown, ends⟩ := getNEvents_throws replies [first]
      refine .inr ⟨?_, thrown, firstReplies.bind (ends.bind_thrown _)⟩
      rintro ⟨_, _, all, _⟩
      exact replies all

lemma checkDataCompleteness_balanced (path) :
    Balanced (checkDataCompleteness path).ops ↔ path.Clean := by
  rcases body_ends path with ⟨clean, text, ends⟩ | ⟨unclean, thrown, ends⟩
  · have all : Ends (checkDataCompleteness path) [] (.ok text) := ends.catch_none _
    rw [all.ops_eq]
    exact iff_of_true rfl clean
  · have handled : Ends (do
        give
        pure "" : Section String) [.give] (.ok "") := ends_give.bind (ends_pure "")
    have all : Ends (checkDataCompleteness path) [.give] (.ok "") := ends.catch_thrown handled
    rw [all.ops_eq]
    exact iff_of_false (by decide) unclean

lemma getChamberMaps_ends (testers) : ∃ result, Ends (getChamberMaps testers) [] result := by
  induction testers with
  | nil => exact ⟨_, ends_pure ()⟩
  | cons tester rest ih =>
    cases tester with
    | error thrown => exact ⟨_, (reply_ends _).bind_thrown _⟩
    | ok maps =>
      obtain ⟨result, later⟩ := ih
      by_cases none_ : maps = 0
      · refine ⟨.ok (), (reply_ends _).bind ?_⟩
        rw [if_pos none_]
        exact ends_pure ()
      · refine ⟨result, (reply_ends _).bind ?_⟩
        rw [if_neg none_]
        exact later

def Analysed (body : Section Unit) : Prop :=
  Ends body [] (.ok ()) ∨ Ends body [] (.error .xcept)

lemma attempt_analysed (outcome) {next} (analysed : Analysed next) :
    Analysed (attempt outcome next) := by
  cases outcome with
  | none => exact .inl (call_returns.catch_none _)
  | some thrown => exact analysed.imp (call_throws thrown).catch_thrown (call_throws thrown).catch_thrown

lemma updateDataFileNames_analysed (path) : Analysed (updateDataFileNames path) :=
  attempt_analysed _ (attempt_analysed _ (attempt_analysed _ (.inr (ends_throw _))))

lemma updateChamberMaps_analysed (path) : Analysed (updateChamberMaps path) := by
  obtain ⟨result, ends⟩ := getChamberMaps_ends path.chamberMaps
  cases result with
  | ok => exact .inl (ends.catch_none _)
  | error thrown => exact .inr (ends.catch_thrown (ends_throw _))

lemma analysis_ends (path) :
    Ends (do
      take
      updateDataFileNames path
      updateChamberMaps path
      give) [.take, .give] (.ok ()) ∨
    Ends (do
      take
      updateDataFileNames path
      updateChamberMaps path
      give) [.take] (.error .xcept) := by
  rcases updateDataFileNames_analysed path with names | fails
  · rcases updateChamberMaps_analysed path with maps | fails
    · exact .inl (ends_take.andThen (names.andThen (maps.andThen ends_give)))
    · exact .inr (ends_take.andThen (names.andThen (fails.bind_thrown _)))
  · exact .inr (ends_take.andThen (fails.bind_thrown _))

lemma runAnalysis_balanced (path) : Balanced (runAnalysis path).ops := by
  rcases analysis_ends path with returns | fails
  · have all : Ends (runAnalysis path) [.take, .give] (ended path.execShellCommand) :=
      (returns.catch_none giveAndRethrow).andThen (call_ends path.execShellCommand)
    rw [all.ops_eq]
    rfl
  · have handled : Ends (giveAndRethrow .xcept) [.give] (.error .xcept) :=
      ends_give.bind (ends_throw _)
    have all : Ends (runAnalysis path) [.take, .give] (.error .xcept) :=
      (fails.catch_thrown handled).bind_thrown _
    rw [all.ops_eq]
    rfl

def Activity.Clean : Activity → Prop
  | .defaultWebPage _ => True
  | .controlWebPage path => path.Clean
  | .checkDataCompleteness path => path.Clean
  | .runAnalysis _ => True
  | .moveToFailedState path => path.Clean
  | .testDuration => True

lemma activity_balanced (activity : Activity) : Balanced activity.ops ↔ activity.Clean := by
  cases activity with
  | defaultWebPage path => exact iff_of_true (defaultWebPage_balanced path) trivial
  | controlWebPage path => exact controlWebPage_balanced
  | checkDataCompleteness path => exact checkDataCompleteness_balanced path
  | runAnalysis path => exact iff_of_true (runAnalysis_balanced path) trivial
  | moveToFailedState path => exact moveToFailedState_balanced
  | testDuration => exact iff_of_true rfl trivial

variable {Thread : Type*}

def Careful (_ : System Thread) : Input Thread Activity → Prop
  | .start _ activity => activity.Clean
  | .run _ => True

lemma Careful.inTurn (system : System Thread) (input)
    (careful : Careful system input) : InTurn Activity.ops system input := by
  cases input with
  | start thread activity => exact (activity_balanced activity).2 careful
  | run thread => trivial

/-- The pages that nothing goes wrong with, the analysis and what has no exception take and give the
semaphore in turn; as long as the threads do nothing else, at most one of them has it, and whoever
waits for it gets it from the one that has it. -/
theorem bsem_balance [DecidableEq Thread] :
    (∀ activity : Activity, Balanced activity.ops ↔ activity.Clean) ∧
    (∀ activity : Activity, activity.Clean →
      activity.ops.count .take = activity.ops.count .give) ∧
    ∀ inputs : List (Input Thread Activity),
      Guarded (step Activity.ops) Careful (System.initial Thread) inputs →
      (runFrom (step Activity.ops) (System.initial Thread) inputs).AtMostOneHolds ∧
      ∀ thread, (runFrom (step Activity.ops) (System.initial Thread) inputs).Waits thread →
        (runFrom (step Activity.ops) (System.initial Thread) inputs).Served thread := by
  refine ⟨activity_balanced, fun activity clean => ?_, fun inputs careful => ?_⟩
  · exact ((activity_balanced activity).2 clean).counts
  · have orderly := run_orderly (careful.mono Careful.inTurn)
    exact ⟨orderly.alone, fun thread => orderly.served⟩

def refused : ControlPath where
  form := [("fsm", "Configure"), ("modificationTime", "2017-01-01")]
  state := .halted
  configured := true
  createConfiguration := none
  modificationTime := "2017-02-01"
  setSelection := none
  fires := none
  fail := ⟨.halted, none, none⟩
  errorPage := none

def accepted : ControlPath := { refused with modificationTime := "2017-01-01" }

lemma accepted_clean : accepted.Clean := ⟨.inl rfl, .inl (by decide)⟩

theorem bsem_balance_accepted :
    Balanced (Activity.controlWebPage accepted).ops ∧
    (runFrom (step Activity.ops) (System.initial Nat)
      [.start 0 (.controlWebPage accepted), .run 0, .start 1 .testDuration, .run 1]).AtMostOneHolds :=
  ⟨((@bsem_balance Nat _).1 _).2 accepted_clean,
    ((@bsem_balance Nat _).2.2
      [.start 0 (.controlWebPage accepted), .run 0, .start 1 .testDuration, .run 1]
      ⟨accepted_clean, trivial, trivial, trivial, trivial⟩).1⟩

/-- The page gives the semaphore once more than it takes it, and two others get it. -/
theorem refused_gives_twice :
    (Activity.controlWebPage refused).ops.count .take = 2 ∧
    (Activity.controlWebPage refused).ops.count .give = 3 ∧
    ¬ (runFrom (step Activity.ops) (System.initial Nat)
      [.start 0 (.controlWebPage refused), .run 0, .run 0, .run 0, .run 0,
        .start 1 .testDuration, .run 1, .run 0, .start 2 .testDuration, .run 2]).AtMostOneHolds := by
  refine ⟨by decide, by decide, fun alone => ?_⟩
  have same : 1 = 2 := alone 1 2 (by decide) (by decide)
  cases same

end EmuLib.Step
