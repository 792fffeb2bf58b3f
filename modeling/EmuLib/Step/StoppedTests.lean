import EmuLib.Step.PulsedTests

/-!
Where the CCBs print when a procedure of a test has been stopped: it sends their output to a stream of
its own while it delivers pulses.
-/

namespace EmuLib.Step.StoppedTests

open StoppableRuns PulsedTests List Function

section

variable (parameters : Parameters)

/-- One look for a request in so many comes while the output goes to the stream of the procedure. -/
def spacing : Procedure → Nat
  | .enable19 => parameter parameters "events_per_thresh"
  | .enable21 => parameter parameters "events_per_hstrip"
  | _ => 1

def exposed : Procedure → Nat
  | .enable12 => 6 * parameter parameters "events_per_strip"
  | .enable13 =>
    parameter parameters "tpamps_per_run" * (parameter parameters "thresholds_per_tpamp" *
      parameter parameters "events_per_threshold")
  | .enable14 => parameter parameters "delays_per_run" * parameter parameters "events_per_delay"
  | .enable15 => parameter parameters "events_total"
  | .enable16 => 3 * parameter parameters "events_per_layer"
  | .enable17 =>
    parameter parameters "strips_per_run" * (parameter parameters "delays_per_strip" *
      parameter parameters "events_per_delay")
  | .enable17b =>
    parameter parameters "strips_per_run" * (parameter parameters "pulse_dac_settings" *
      parameter parameters "events_per_pulsedac")
  | .enable19 =>
    parameter parameters "strips_per_run" * (parameter parameters "dmb_tpamps_per_strip" *
      parameter parameters "threshs_per_tpamp")
  | .enable21 => parameter parameters "hstrips_per_run"
  | .enable25 | .enable30 => 0

def reached (procedure : Procedure) (crates : List Crate) : List Crate :=
  crates.takeWhile fun crate => !procedure.raises parameters crate

def PutsBack (crates : List Crate) (final : Ending × Nat × TestState) : Prop :=
  final.1 ≠ .raised → ∀ crate ∈ crates, final.2.2.streams crate.ccb = .cout

end

section

variable {stops : Nat → Bool} {atStop : Nat → TestState → Prop} {parameters : Parameters}

def On (holds : Nat → (Nat → Stream) → Prop) (checks : Nat) (state : TestState) : Prop :=
  holds checks state.streams

def Calm (spacing exposed checks : Nat) (streams : Nat → Stream) : Prop :=
  spacing ∣ checks ∧ (spacing ≠ 0 ∨ exposed = 0 → streams = fun _ => .cout)

def Exposed (crates : List Crate) (spacing checks : Nat) (streams : Nat → Stream) : Prop :=
  (∃ crate ∈ crates, streams crate.ccb = .noBuffer) ↔ checks % spacing = 0

variable {pre post : Nat → (Nat → Stream) → Prop} {between : Nat → TestState → Prop}
  {first second : Program} {count : Nat} {returns : Bool}

lemma leads_redirect {crate stream}
    (holds : ∀ checks streams, pre checks streams →
      post checks (update streams crate.ccb stream)) :
    Leads TestState.act stops atStop (On pre) (On post) [redirectOutput crate stream] 0 true :=
  leads_act fun checks state before => holds checks state.streams before

lemma leads_one (crate : Crate) :
    Leads TestState.act stops atStop (On pre) (On pre) [.act (.deliver crate.ccb), .act .increment] 0
      true := by
  have deliver : Leads TestState.act stops atStop (On pre) (On pre) [.act (.deliver crate.ccb)] 0
      true := leads_act fun _ _ before => before
  exact deliver.append (leads_act fun _ _ before => before)

lemma leads_pulse {holds} (crate)
    (stopped : ∀ checks streams, pre checks streams → holds checks streams)
    (next : ∀ checks streams, pre checks streams → post (checks + 1) streams) :
    Leads TestState.act stops (On holds) (On pre) (On post) (pulse crate) 1 true := by
  have check : Leads TestState.act stops (On holds) (On pre) (On post) [.check] 1 true :=
    leads_check (fun checks state => stopped checks state.streams)
      fun checks state => next checks state.streams
  exact (leads_one crate).append check

lemma after {more before then_}
    (quiet : Leads TestState.act stops atStop before before first 0 true)
    (next : Leads TestState.act stops atStop before then_ second more returns) :
    Leads TestState.act stops atStop before then_ (first ++ second) more returns := by
  have whole := quiet.append next
  rwa [Nat.zero_add] at whole

lemma leads_times (turns) {turn : Program}
    (each : 0 < turns → Leads TestState.act stops atStop between between turn count true) :
    Leads TestState.act stops atStop between between ((List.range turns).flatMap fun _ => turn)
      (turns * count) true := by
  have whole : Leads TestState.act stops atStop between between
      ((List.range turns).flatMap fun _ => turn) ((List.range turns).length * count) true :=
    leads_flatMap fun index member => each (Nat.zero_lt_of_lt (mem_range.1 member))
  rwa [length_range] at whole

lemma range_ne_nil {turns} (some_ : 0 < turns) : List.range turns ≠ [] :=
  fun none_ => absurd (range_eq_nil.1 none_) (Nat.ne_of_gt some_)

lemma leads_until {Item : Type} {items : List Item} {body : Item → Program} {bad}
    (raises : ∀ item, bad item = true → body item = [.raise])
    (turn : ∀ item, bad item = false → body item = []) :
    Leads TestState.act stops atStop between between (items.flatMap body) 0 (!items.any bad) := by
  have whole : Leads TestState.act stops atStop between between (items.flatMap body)
      ((items.takeWhile fun item => !bad item).length * 0) (!items.any bad) := by
    refine leads_flatMap_until (fun item _ unfit => ?_) fun item _ fit => ?_
    · rw [raises item unfit]
      exact leads_raise
    · rw [turn item fit]
      exact leads_nil
  rwa [Nat.mul_zero] at whole

lemma leads_firstCfeb (dmbs : List Dmb) :
    Leads TestState.act stops atStop between between (dmbs.flatMap firstCfeb) 0
      (!dmbs.any fun dmb => dmb.cfebs.isEmpty) :=
  leads_until (fun _ none_ => if_pos none_) fun _ some_ => if_neg (Bool.eq_false_iff.1 some_)

lemma leads_setUpPulsing (tmbs : List Tmb) :
    Leads TestState.act stops atStop between between (tmbs.flatMap (setUpPulsing parameters)) 0
      (!tmbs.any fun tmb => !hasPulseAmp parameters tmb) :=
  leads_until (fun _ missing => if_neg (Bool.eq_false_iff.1 (Bool.not_inj missing)))
    fun _ there => if_pos (Bool.not_inj there)

end

section

variable {stops : Nat → Bool} {atStop : Nat → TestState → Prop} {crates : List Crate} {crate : Crate}
  {exposed : Nat}

def Redirected (crate : Crate) (_ : Nat) (streams : Nat → Stream) : Prop :=
  streams = update (fun _ => .cout) crate.ccb .noBuffer

variable {checks : Nat} {streams : Nat → Stream}

lemma redirected_noBuffer
    (redirected : Redirected crate checks streams) : streams crate.ccb = .noBuffer := by
  rw [redirected]
  exact update_self _ _ _

lemma update_cout (all : streams = fun _ => .cout) (ccb) :
    update streams ccb .cout = fun _ => .cout := by
  rw [all]
  exact update_eq_self ccb fun _ => Stream.cout

lemma redirected_cout (redirected : Redirected crate checks streams) :
    update streams crate.ccb .cout = fun _ => .cout := by
  rw [redirected, update_idem]
  exact update_cout rfl crate.ccb

lemma leads_burst (member : crate ∈ crates) (events) :
    Leads TestState.act stops (On (Exposed crates 1)) (On (Calm 1 exposed)) (On (Calm 1 exposed))
      ([redirectOutput crate .noBuffer] ++ (List.range events).flatMap (fun _ => pulse crate) ++
        [redirectOutput crate .cout]) events true := by
  have redirect : Leads TestState.act stops (On (Exposed crates 1)) (On (Calm 1 exposed))
      (On (Redirected crate)) [redirectOutput crate .noBuffer] 0 true := by
    refine leads_redirect fun checks streams calm => ?_
    rw [Redirected, calm.2 (Or.inl Nat.one_ne_zero)]
  have turn : Leads TestState.act stops (On (Exposed crates 1)) (On (Redirected crate))
      (On (Redirected crate)) (pulse crate) 1 true :=
    leads_pulse crate (fun checks _ redirected =>
      iff_of_true ⟨crate, member, redirected_noBuffer redirected⟩ (Nat.mod_one checks))
      fun _ _ redirected => redirected
  have putBack : Leads TestState.act stops (On (Exposed crates 1)) (On (Redirected crate))
      (On (Calm 1 exposed)) [redirectOutput crate .cout] 0 true :=
    leads_redirect fun checks _ redirected =>
      ⟨Nat.one_dvd checks, fun _ => redirected_cout redirected⟩
  have whole := (redirect.append (leads_times events fun _ => turn)).append putBack
  rwa [Nat.zero_add, Nat.mul_one] at whole

def Stage (crate : Crate) (events index checks : Nat) (streams : Nat → Stream) : Prop :=
  (∃ bursts, checks = events * bursts + index) ∧
    (index = 0 → Redirected crate checks streams) ∧ (index ≠ 0 → streams = fun _ => .cout)

lemma stage_exposed (member : crate ∈ crates) {events index}
    (stage : Stage crate events index checks streams)
    (below : index < events) : Exposed crates events checks streams := by
  obtain ⟨⟨bursts, rfl⟩, redirected, back⟩ := stage
  rw [Exposed, Nat.mul_add_mod, Nat.mod_eq_of_lt below]
  constructor
  · rintro ⟨other, -, noBuffer⟩
    by_contra later
    rw [back later] at noBuffer
    cases noBuffer
  · intro first
    exact ⟨crate, member, redirected_noBuffer (redirected first)⟩

lemma leads_burst_within (member : crate ∈ crates) (events) (some_ : exposed ≠ 0) :
    Leads TestState.act stops (On (Exposed crates events)) (On (Calm events exposed))
      (On (Calm events exposed))
      ([redirectOutput crate .noBuffer] ++
        (List.range events).flatMap fun _ => pulse crate ++ [redirectOutput crate .cout])
      events true := by
  rcases Nat.eq_zero_or_pos events with rfl | positive
  · have redirect : Leads TestState.act stops (On (Exposed crates 0)) (On (Calm 0 exposed))
        (On (Calm 0 exposed)) [redirectOutput crate .noBuffer] 0 true :=
      leads_redirect fun _ _ calm => ⟨calm.1, fun known => known.elim (absurd rfl) fun none_ =>
        absurd none_ some_⟩
    exact redirect
  · have redirect : Leads TestState.act stops (On (Exposed crates events))
        (On (Calm events exposed)) (On (Stage crate events 0)) [redirectOutput crate .noBuffer] 0
        true := by
      refine leads_redirect fun checks streams calm => ⟨calm.1, fun _ => ?_, fun other => absurd rfl other⟩
      rw [Redirected, calm.2 (Or.inl (Nat.ne_of_gt positive))]
    have turn : ∀ index < events, Leads TestState.act stops (On (Exposed crates events))
        (On (Stage crate events index)) (On (Stage crate events (index + 1)))
        (pulse crate ++ [redirectOutput crate .cout]) 1 true := by
      intro index below
      have pulses : Leads TestState.act stops (On (Exposed crates events))
          (On (Stage crate events index)) (On fun checks streams =>
            (∃ bursts, checks = events * bursts + (index + 1)) ∧
              update streams crate.ccb .cout = fun _ => .cout) (pulse crate) 1 true := by
        refine leads_pulse crate (fun _ _ stage => stage_exposed member stage below) ?_
        rintro checks streams ⟨⟨bursts, rfl⟩, redirected, back⟩
        refine ⟨⟨bursts, Nat.add_assoc _ _ _⟩, ?_⟩
        rcases Nat.eq_zero_or_pos index with first | later
        · exact redirected_cout (redirected first)
        · exact update_cout (back (Nat.ne_of_gt later)) crate.ccb
      have putBack : Leads TestState.act stops (On (Exposed crates events))
          (On fun checks streams => (∃ bursts, checks = events * bursts + (index + 1)) ∧
            update streams crate.ccb .cout = fun _ => .cout)
          (On (Stage crate events (index + 1))) [redirectOutput crate .cout] 0 true :=
        leads_redirect fun _ _ done =>
          ⟨done.1, fun none_ => absurd none_ (Nat.succ_ne_zero index), fun _ => done.2⟩
      exact pulses.append putBack
    have whole := redirect.append (leads_range turn)
    rw [Nat.zero_add, Nat.mul_one] at whole
    refine whole.weaken (fun _ _ calm => calm) ?_
    rintro checks state ⟨⟨bursts, counted⟩, -, back⟩
    refine ⟨?_, fun _ => back (Nat.ne_of_gt positive)⟩
    rw [counted]
    exact Dvd.intro (bursts + 1) rfl

end

section

variable {stops : Nat → Bool} {atStop : Nat → TestState → Prop} {parameters : Parameters}
  {crates : List Crate} {between post : Nat → TestState → Prop}

variable {dmbs : List Dmb}

lemma leads_cfebs (all : (dmbs.any fun dmb => dmb.cfebs.isEmpty) = false) :
    Leads TestState.act stops atStop between between (dmbs.flatMap firstCfeb) 0 true := by
  have whole := @leads_firstCfeb stops atStop between dmbs
  rwa [all] at whole

lemma raises_cfebs (missing : (dmbs.any fun dmb => dmb.cfebs.isEmpty) = true) :
    Leads TestState.act stops atStop between between (dmbs.flatMap firstCfeb) 0 false := by
  have whole := @leads_firstCfeb stops atStop between dmbs
  rwa [missing] at whole

lemma leads_pulsing {tmbs : List Tmb} (all : (tmbs.any fun tmb => !hasPulseAmp parameters tmb) = false) :
    Leads TestState.act stops atStop between between (tmbs.flatMap (setUpPulsing parameters)) 0
      true := by
  have whole := @leads_setUpPulsing stops atStop parameters between tmbs
  rwa [all] at whole

lemma raises_pulsing {tmbs : List Tmb}
    (missing : (tmbs.any fun tmb => !hasPulseAmp parameters tmb) = true) (rest : Program) :
    Leads TestState.act stops atStop between between
      (tmbs.flatMap (setUpPulsing parameters) ++ rest) 0 false := by
  have whole := @leads_setUpPulsing stops atStop parameters between tmbs
  rw [missing] at whole
  exact whole.append_raised rest

lemma leads_strips {strips count} {rest : Program}
    (fit : (decide (0 < strips) && dmbs.any fun dmb => dmb.cfebs.isEmpty) = false)
    (turn : 0 < strips → (dmbs.any fun dmb => dmb.cfebs.isEmpty) = false →
      Leads TestState.act stops atStop between between rest count true) :
    Leads TestState.act stops atStop between between
      ((List.range strips).flatMap fun _ => dmbs.flatMap firstCfeb ++ rest) (strips * count) true := by
  refine leads_times strips fun some_ => ?_
  rw [decide_eq_true some_] at fit
  exact after (leads_cfebs fit) (turn some_ fit)

lemma raises_strips {strips} {rest : Program}
    (raises : (decide (0 < strips) && dmbs.any fun dmb => dmb.cfebs.isEmpty) = true) :
    Leads TestState.act stops atStop between between
      ((List.range strips).flatMap fun _ => dmbs.flatMap firstCfeb ++ rest) 0 false := by
  rw [Bool.and_eq_true, decide_eq_true_eq] at raises
  refine leads_flatMap_raises (range_ne_nil raises.1) fun _ _ => ?_
  have missing : Leads TestState.act stops atStop between between (dmbs.flatMap firstCfeb) 0 false :=
    raises_cfebs raises.2
  exact missing.append_raised rest

lemma leads_threshold {exposed crate} (member : crate ∈ crates) (events)
    (some_ : exposed ≠ 0) (all : (dmbs.any fun dmb => dmb.cfebs.isEmpty) = false) :
    Leads TestState.act stops (On (Exposed crates events)) (On (Calm events exposed))
      (On (Calm events exposed))
      (dmbs.flatMap firstCfeb ++ [redirectOutput crate .noBuffer] ++
        (List.range events).flatMap fun _ => pulse crate ++ [redirectOutput crate .cout])
      events true := by
  rw [append_assoc]
  exact after (leads_cfebs all) (leads_burst_within member events some_)

lemma recount {program : Program} {count more returns}
    (leads : Leads TestState.act stops atStop between post program count returns)
    (same : count = more) : Leads TestState.act stops atStop between post program more returns :=
  same ▸ leads

lemma program_leads (procedure) :
    Leads TestState.act stops (On (Exposed crates (spacing parameters procedure)))
      (On (Calm (spacing parameters procedure) (exposed parameters procedure)))
      (On (Calm (spacing parameters procedure) (exposed parameters procedure)))
      (procedure.program parameters crates).tail
      ((reached parameters procedure crates).length *
        (exposed parameters procedure * spacing parameters procedure))
      (!crates.any fun crate => procedure.raises parameters crate) := by
  cases procedure with
  | enable12 =>
    refine leads_flatMap_until (fun crate _ raises => ?_) fun crate member fit => ?_
    · refine leads_flatMap_raises (range_ne_nil (by decide)) fun _ _ => ?_
      rw [append_assoc, append_assoc]
      exact raises_pulsing raises _
    · refine recount (leads_times _ fun _ => ?_) (Nat.mul_one _).symm
      rw [append_assoc, append_assoc]
      exact after (leads_pulsing fit) (leads_burst member _)
  | enable13 =>
    refine leads_flatMap_until (fun _ _ raises => absurd raises Bool.false_ne_true)
      fun crate member _ => ?_
    exact recount (leads_times _ fun _ => leads_times _ fun _ => leads_burst member _)
      (Nat.mul_one _).symm
  | enable14 =>
    refine leads_flatMap_until (fun _ _ raises => absurd raises Bool.false_ne_true)
      fun crate member _ => ?_
    exact recount (leads_times _ fun _ => leads_burst member _) (Nat.mul_one _).symm
  | enable15 =>
    refine leads_flatMap_until (fun _ _ raises => absurd raises Bool.false_ne_true)
      fun crate member _ => ?_
    exact recount (leads_burst member _) (Nat.mul_one _).symm
  | enable16 =>
    refine leads_flatMap_until (fun _ _ raises => absurd raises Bool.false_ne_true)
      fun crate member _ => ?_
    exact recount (leads_times _ fun _ => leads_burst member _) (Nat.mul_one _).symm
  | enable17 =>
    refine leads_flatMap_until (fun crate _ raises => raises_strips raises)
      fun crate member fit => ?_
    refine recount (leads_strips fit fun _ all => leads_times _ fun _ => ?_) (Nat.mul_one _).symm
    rw [append_assoc, append_assoc]
    exact after (leads_cfebs all) (leads_burst member _)
  | enable17b =>
    refine leads_flatMap_until (fun crate _ raises => raises_strips raises)
      fun crate member fit => ?_
    refine recount (leads_strips fit fun _ all => leads_times _ fun _ => ?_) (Nat.mul_one _).symm
    rw [append_assoc, append_assoc]
    exact after (leads_cfebs all) (leads_burst member _)
  | enable19 =>
    refine leads_flatMap_until (fun crate _ raises => raises_strips raises)
      fun crate member fit => ?_
    refine recount (leads_strips fit fun strips all => leads_times _ fun amplitudes =>
      after (leads_cfebs all) (leads_times _ fun thresholds =>
        leads_threshold member _ ?_ all)) ?_
    · exact Nat.ne_of_gt (Nat.mul_pos strips (Nat.mul_pos amplitudes thresholds))
    · rw [exposed, Nat.mul_assoc, Nat.mul_assoc]
  | enable21 =>
    refine leads_flatMap_until (fun crate _ raises => ?_) fun crate member fit => ?_
    · split
      · exact leads_raise.append_raised _
      · next some_ =>
          have missing := (Bool.or_eq_true_iff.1 raises).resolve_left some_
          simp only [append_assoc, nil_append]
          exact raises_strips missing
    · obtain ⟨some_, fit⟩ := Bool.or_eq_false_iff.1 fit
      rw [some_, if_neg Bool.false_ne_true]
      simp only [append_assoc, nil_append]
      exact leads_strips fit fun strips _ => leads_burst_within member _ (Nat.ne_of_gt strips)
  | enable25 =>
    refine leads_flatMap_until (fun _ _ raises => absurd raises Bool.false_ne_true)
      fun crate member _ => ?_
    refine recount (leads_flatMap fun _ _ => leads_times _ fun _ => leads_one crate) ?_
    rfl
  | enable30 =>
    have depths : decide (parameter parameters "fromDepth" ≤ parameter parameters "toDepth") =
        decide (0 < parameter parameters "toDepth" + 1 - parameter parameters "fromDepth") :=
      decide_eq_decide.2 (by omega)
    refine leads_flatMap_until (fun crate _ raises => ?_) fun crate member fit => ?_
    · rw [Procedure.raises, depths] at raises
      exact raises_strips raises
    · rw [Procedure.raises, depths] at fit
      exact recount (leads_strips fit fun _ _ => leads_one crate) (by rw [Nat.mul_zero]; rfl)

lemma leads_turns {turns count} {turn : Program} (some_ : 0 < turns)
    (each : Leads TestState.act stops atStop (On fun _ _ => True) post turn count true) :
    Leads TestState.act stops atStop (On fun _ _ => True) post
      ((List.range turns).flatMap fun _ => turn) (turns * count) true := by
  have whole : Leads TestState.act stops atStop (On fun _ _ => True) post
      ((List.range turns).flatMap fun _ => turn) ((List.range turns).length * count) true :=
    leads_flatMap_some (range_ne_nil some_) (fun _ _ _ => trivial) fun _ _ => each
  rwa [length_range] at whole

lemma leads_no_pulse {crate} (member : crate ∈ crates)
    (all : (dmbs.any fun dmb => dmb.cfebs.isEmpty) = false) :
    Leads TestState.act stops atStop (On fun _ _ => True)
      (On fun _ streams => ∃ crate ∈ crates, streams crate.ccb = .noBuffer)
      (dmbs.flatMap firstCfeb ++ [redirectOutput crate .noBuffer] ++
        (List.range 0).flatMap fun _ => pulse crate ++ [redirectOutput crate .cout]) 0 true := by
  rw [append_assoc]
  refine after (leads_cfebs all) (leads_redirect fun _ streams _ => ⟨crate, member, ?_⟩)
  exact update_self _ _ _

lemma program_redirects {procedure} (none_ : spacing parameters procedure = 0)
    (some_ : exposed parameters procedure ≠ 0) (crates_ : crates ≠ [])
    (sound : ∀ crate ∈ crates, procedure.raises parameters crate = false) :
    Leads TestState.act stops atStop (On fun _ _ => True)
      (On fun _ streams => ∃ crate ∈ crates, streams crate.ccb = .noBuffer)
      (procedure.program parameters crates).tail 0 true := by
  cases procedure with
  | enable19 =>
    have events : parameter parameters "events_per_thresh" = 0 := none_
    obtain ⟨strips, inner⟩ := Nat.mul_ne_zero_iff.1 some_
    obtain ⟨amplitudes, thresholds⟩ := Nat.mul_ne_zero_iff.1 inner
    refine recount (leads_flatMap_some crates_ (fun _ _ _ => trivial) fun crate member => ?_)
      (Nat.mul_zero crates.length)
    have raises := sound crate member
    rw [Procedure.raises, decide_eq_true (Nat.pos_of_ne_zero strips)] at raises
    rw [events]
    exact recount (leads_turns (Nat.pos_of_ne_zero strips) (after (leads_cfebs raises)
      (leads_turns (Nat.pos_of_ne_zero amplitudes) (after (leads_cfebs raises)
        (leads_turns (Nat.pos_of_ne_zero thresholds) (leads_no_pulse member raises)))))) rfl
  | enable21 =>
    have events : parameter parameters "events_per_hstrip" = 0 := none_
    refine recount (leads_flatMap_some crates_ (fun _ _ _ => trivial) fun crate member => ?_)
      (Nat.mul_zero crates.length)
    obtain ⟨tmbs, raises⟩ := Bool.or_eq_false_iff.1 (sound crate member)
    have hstrips : 0 < parameter parameters "hstrips_per_run" := Nat.pos_of_ne_zero some_
    rw [decide_eq_true hstrips] at raises
    rw [tmbs, events]
    exact leads_turns hstrips (leads_no_pulse member raises)
  | _ => exact absurd none_ Nat.one_ne_zero

end

variable {stops : Nat → Bool} {parameters : Parameters} {crates : List Crate}
  {procedure : Procedure}

lemma runProcedure_tail (procedure) : ∃ begun : TestState,
    begun.streams = (fun _ => .cout) ∧
      runProcedure parameters crates stops procedure =
        run TestState.act stops 0 begun (procedure.program parameters crates).tail := by
  obtain ⟨first, head, is⟩ := @program_head parameters crates procedure
  refine ⟨configured.act first, ?_, ?_⟩
  · rcases is with rfl | ⟨-, rfl⟩
    · rfl
    · rfl
  · rw [runProcedure, head]
    rfl

lemma not_putsBack {ending looks final crate} (back : ending ≠ .raised) (member : crate ∈ crates)
    (noBuffer : final.streams crate.ccb = .noBuffer) : ¬ PutsBack crates (ending, looks, final) := by
  intro putsBack
  have cout := putsBack back crate member
  exact Stream.noConfusion (noBuffer.symm.trans cout)

lemma putsBack_stopped_iff {spacing look final}
    (exposure : Exposed crates spacing look final.streams) :
    PutsBack crates (.stopped, look, final) ↔ look % spacing ≠ 0 := by
  constructor
  · intro putsBack burst
    obtain ⟨crate, member, noBuffer⟩ := exposure.2 burst
    exact not_putsBack Ending.noConfusion member noBuffer putsBack
  · intro apart _ crate member
    cases known : final.streams crate.ccb with
    | cout => rfl
    | noBuffer => exact absurd (exposure.1 ⟨crate, member, known⟩) apart

lemma first_unique {look other} (sees : stops look = true)
    (first : ∀ earlier < look, stops earlier = false) (seen : stops other = true)
    (before : ∀ earlier < other, stops earlier = false) : other = look := by
  rcases Nat.lt_trichotomy other look with less | same | more
  · exact absurd ((first other less).symm.trans seen) Bool.false_ne_true
  · exact same
  · exact absurd ((before look more).symm.trans sees) Bool.false_ne_true

lemma seen_or_quiet (stops : Nat → Bool) (count) :
    (∃ look < count, stops look = true ∧ ∀ earlier < look, stops earlier = false) ∨
      ∀ look < count, stops look = false := by
  rw [or_iff_not_imp_left]
  intro unseen look
  induction look using Nat.strong_induction_on with
  | _ look ih =>
    intro below
    by_contra sees
    exact unseen ⟨look, below, Bool.not_eq_false _ ▸ sees,
      fun earlier less => ih earlier less (Nat.lt_trans less below)⟩

/-- The first request that is seen, if one is, comes while the output goes where it belongs. -/
theorem putsBack_iff : PutsBack crates (runProcedure parameters crates stops procedure) ↔
    (∀ look < (reached parameters procedure crates).length *
        (exposed parameters procedure * spacing parameters procedure),
      stops look = true → (∀ earlier < look, stops earlier = false) →
        look % spacing parameters procedure ≠ 0) ∧
      (spacing parameters procedure = 0 →
        (∃ crate ∈ crates, procedure.raises parameters crate = true) ∨ crates = [] ∨
          exposed parameters procedure = 0) := by
  obtain ⟨begun, streams, ran⟩ := @runProcedure_tail stops parameters crates procedure
  have calm : On (Calm (spacing parameters procedure) (exposed parameters procedure)) 0 begun :=
    ⟨Nat.dvd_zero _, fun _ => streams⟩
  obtain ⟨stopped, ends⟩ := @program_leads stops parameters crates procedure 0 begun calm
  simp only [Nat.zero_add] at stopped ends
  rw [ran]
  rcases seen_or_quiet stops ((reached parameters procedure crates).length *
      (exposed parameters procedure * spacing parameters procedure)) with
    ⟨look, below, sees, first⟩ | quiet
  · obtain ⟨final, done, exposure⟩ := stopped look below sees first
    have positive : spacing parameters procedure ≠ 0 := by
      intro zero
      rw [zero] at below
      exact Nat.not_lt_zero _ below
    rw [done, putsBack_stopped_iff exposure]
    constructor
    · intro apart
      refine ⟨fun other _ seen before => ?_, fun zero => absurd zero positive⟩
      rwa [first_unique sees first seen before]
    · rintro ⟨apart, -⟩
      exact apart look below sees first
  · have ended := ends quiet
    have noneSeen : ∀ look < (reached parameters procedure crates).length *
        (exposed parameters procedure * spacing parameters procedure), stops look = true →
        (∀ earlier < look, stops earlier = false) → look % spacing parameters procedure ≠ 0 :=
      fun look below sees => absurd ((quiet look below).symm.trans sees) Bool.false_ne_true
    cases raises : crates.any fun crate => procedure.raises parameters crate with
    | true =>
      rw [raises] at ended
      exact iff_of_true (fun returned => absurd ended returned)
        ⟨noneSeen, fun _ => Or.inl (any_eq_true.1 raises)⟩
    | false =>
      rw [raises] at ended
      obtain ⟨final, returned, -, back⟩ := ended
      rw [returned]
      by_cases fine : spacing parameters procedure ≠ 0 ∨ exposed parameters procedure = 0
      · refine iff_of_true (fun _ crate _ => ?_) ⟨noneSeen, fun zero => ?_⟩
        · rw [back fine]
        · exact Or.inr (Or.inr (fine.resolve_left fun other => other zero))
      · rw [not_or, not_not] at fine
        rcases eq_or_ne crates [] with rfl | some_
        · exact iff_of_true (fun _ crate member => absurd member not_mem_nil)
            ⟨noneSeen, fun _ => Or.inr (Or.inl rfl)⟩
        · have sound : ∀ crate ∈ crates, procedure.raises parameters crate = false :=
            fun crate member => Bool.eq_false_iff.2 (any_eq_false.1 raises crate member)
          obtain ⟨-, redirects⟩ := @program_redirects stops (fun _ _ => True) parameters crates
            procedure fine.1 fine.2 some_ sound 0 begun trivial
          obtain ⟨other, same, crate, member, noBuffer⟩ :=
            redirects fun _ none_ => absurd none_ (Nat.not_lt_zero _)
          rw [returned] at same
          obtain rfl := (Prod.mk.inj (Prod.mk.inj same).2).2
          refine iff_of_false (not_putsBack Ending.noConfusion member noBuffer) fun allowed => ?_
          · rcases allowed.2 fine.1 with ⟨crate, member, raised⟩ | empty | zero
            · exact Bool.false_ne_true ((sound crate member).symm.trans raised)
            · exact some_ empty
            · exact fine.2 zero

def onePulse : Parameters := fun name => if name = "events_total" then some 1 else none

theorem enable15_leaves_redirected :
    ¬ PutsBack [⟨0, [], []⟩] (runProcedure onePulse [⟨0, [], []⟩] (fun look => look == 0) .enable15) :=
  not_putsBack Ending.noConfusion mem_cons_self (by decide)

end EmuLib.Step.StoppedTests
