import EmuLib.Fed.FmmTotals

/-!
In every run of the interrupt threads the total that decides on a release of the FMMs is a number of
distinct fibers.
-/

namespace EmuLib.Fed.FmmRelease

open GuardedRun Function

def Entry.crate : Entry → Nat
  | .read crate _ _ | .counted crate | .restarted crate => crate

structure Agrees (setup : Setup) (system : System) : Prop where
  nErrors : ∀ crate slot, (system.thread crate).nErrors slot =
    inError setup crate slot (lastRead crate slot system.log)
  nIgnFibers : ∀ crate slot, (system.thread crate).nIgnFibers slot =
    inErrorIgnored setup crate slot (lastRead crate slot system.log)
  lastDDUError : ∀ crate slot, (system.thread crate).lastDDUError slot =
    lastHandled setup crate slot system.log
  lastL1A : ∀ crate, (system.thread crate).lastL1A = lastL1A crate system.log
  errorCount : ∀ crate, system.errorCount crate = ((setup.slots crate).map fun slot =>
    inError setup crate slot (lastCounted crate slot system.log)).sum
  ignErrCnt : ∀ crate, system.ignErrCnt crate = ((setup.slots crate).map fun slot =>
    inErrorIgnored setup crate slot (lastCounted crate slot system.log)).sum

structure FiberHistory.Chambers (history : FiberHistory) : Prop where
  current : history.current.getLsbD 15 = false
  first : history.first.getLsbD 15 = false
  second : history.second.getLsbD 15 = false

def OfChambers (system : System) : Prop :=
  ∀ crate slot, (system.errorHistory crate slot).Chambers

structure Handling (setup : Setup) (crate : Nat) (handled : Handled) (log newer older : List Entry)
    (reading : Reading) : Prop where
  last : log = newer ++ .read crate handled.slot reading :: older
  newer : ∀ entry ∈ newer, entry.crate ≠ crate
  fresh : combinedStatus setup crate handled.slot reading.status &&&
    ~~~(lastHandled setup crate handled.slot older) &&& 0x7fff ≠ 0
  doReset : handled.doReset = true ↔ WentBack setup crate handled.slot reading older

def Handles (setup : Setup) (system : System) : Prop :=
  ∀ crate handled, (system.thread crate).phase = .recording handled ∨
      (system.thread crate).phase = .counting handled →
    ∃ newer older reading, Handling setup crate handled system.log newer older reading

namespace System

variable (system : System) (crate other : Nat) (phase : Phase)

@[simp] lemma setThread_same (thread) :
    (system.setThread crate thread).thread crate = thread := update_self ..

@[simp] lemma setThread_other (thread) (different : other ≠ crate) :
    (system.setThread crate thread).thread other = system.thread other :=
  update_of_ne different ..

@[simp] lemma setPhase_phase : ((system.setPhase crate phase).thread crate).phase = phase := by
  simp [setPhase]

lemma setPhase_thread :
    (system.setPhase crate phase).thread other =
      { system.thread other with
        phase := ((system.setPhase crate phase).thread other).phase } := by
  by_cases same : other = crate
  · subst same
    simp [setPhase]
  · simp [setPhase, same]

end System

variable {setup : Setup}

lemma Agrees.setPhase {system} (agrees : Agrees setup system) (crate phase) : Agrees setup
    (system.setPhase crate phase):= by
  refine ⟨fun other => ?_, fun other => ?_, fun other => ?_, fun other => ?_,
    agrees.errorCount, agrees.ignErrCnt⟩
  · rw [System.setPhase_thread]
    exact agrees.nErrors other
  · rw [System.setPhase_thread]
    exact agrees.nIgnFibers other
  · rw [System.setPhase_thread]
    exact agrees.lastDDUError other
  · rw [System.setPhase_thread]
    exact agrees.lastL1A other

lemma initial_agrees (setup) : Agrees setup .initial := by
  refine ⟨fun _ _ => rfl, fun _ _ => rfl, fun _ _ => rfl, fun _ => rfl, fun crate => ?_,
    fun crate => ?_⟩
  · simp [System.initial, lastCounted, inError]
  · simp [System.initial, lastCounted, inErrorIgnored]

lemma xor_and_self (combined last : BitVec 16) :
    (combined ^^^ last) &&& combined = combined &&& ~~~last := by
  refine BitVec.eq_of_getLsbD_eq fun bit inside => ?_
  rw [BitVec.getLsbD_and, BitVec.getLsbD_xor, BitVec.getLsbD_and, BitVec.getLsbD_not,
    decide_eq_true inside]
  cases combined.getLsbD bit <;> cases last.getLsbD bit <;> rfl

lemma xor_and_not (combined last : BitVec 16) :
    (combined ^^^ last) &&& ~~~combined = last &&& ~~~combined := by
  refine BitVec.eq_of_getLsbD_eq fun bit inside => ?_
  rw [BitVec.getLsbD_and, BitVec.getLsbD_xor, BitVec.getLsbD_and, BitVec.getLsbD_not,
    decide_eq_true inside]
  cases combined.getLsbD bit <;> cases last.getLsbD bit <;> rfl

variable {reading : Reading} {older : List Entry}

lemma lastHandled_other {crate slot other otherSlot}
    (different : ¬ (other = crate ∧ otherSlot = slot)) :
    lastHandled setup crate slot (.read other otherSlot reading :: older) =
      lastHandled setup crate slot older := if_neg different

lemma lastHandled_same (setup crate slot reading older) :
    lastHandled setup crate slot (.read crate slot reading :: older) =
      if combinedStatus setup crate slot reading.status &&&
          ~~~(lastHandled setup crate slot older) &&& 0x7fff = 0 then
        lastHandled setup crate slot older
      else combinedStatus setup crate slot reading.status := if_pos ⟨rfl, rfl⟩

lemma Agrees.interrupt {system} (agrees : Agrees setup system) (chambers : OfChambers system)
    (crate irq) : Agrees setup (system.interrupt setup crate irq) := by
  unfold System.interrupt
  split
  · refine ⟨fun other slot => ?_, fun other slot => ?_, fun other slot => ?_, fun other => ?_,
      agrees.errorCount, agrees.ignErrCnt⟩
    · by_cases here : other = crate
      · subst here
        by_cases it : slot = irq.slot
        · subst it
          simp only [System.setThread_same, update_self, lastRead, and_self, ↓reduceIte]
          exact chamberErrors_combined setup other irq.slot ⟨_, _, _⟩
        · simp [lastRead, it, Ne.symm it, agrees.nErrors]
      · simp [lastRead, here, Ne.symm here, agrees.nErrors]
    · by_cases here : other = crate
      · subst here
        by_cases it : slot = irq.slot
        · subst it
          simp only [System.setThread_same, update_self, lastRead, and_self, ↓reduceIte]
          exact bitCount_ignored setup other irq.slot ⟨_, _, _⟩ (chambers other irq.slot).second
        · simp [lastRead, it, Ne.symm it, agrees.nIgnFibers]
      · simp [lastRead, here, Ne.symm here, agrees.nIgnFibers]
    · by_cases here : other = crate
      · subst here
        simp only [System.setThread_same, xor_and_self, agrees.lastDDUError]
        by_cases it : slot = irq.slot
        · subst it
          rw [lastHandled_same]
          split
          · exact agrees.lastDDUError other irq.slot
          · exact update_self ..
        · rw [lastHandled_other fun both => it both.2.symm]
          split
          · exact agrees.lastDDUError other slot
          · exact (update_of_ne it ..).trans (agrees.lastDDUError other slot)
      · rw [lastHandled_other fun both => here both.1.symm]
        simp [here, agrees.lastDDUError]
    · by_cases here : other = crate
      · subst here
        simp [FmmRelease.lastL1A]
      · simp [FmmRelease.lastL1A, here, Ne.symm here, agrees.lastL1A]
  · exact agrees

lemma Agrees.publish {system} (agrees : Agrees setup system)
    (crate) : Agrees setup (system.publish setup crate) := by
  refine ⟨agrees.nErrors, agrees.nIgnFibers, agrees.lastDDUError, agrees.lastL1A,
    fun other => ?_, fun other => ?_⟩
  · by_cases here : other = crate
    · subst here
      simp only [System.publish, update_self, lastCounted, ↓reduceIte]
      exact congrArg List.sum (List.map_congr_left fun slot _ => agrees.nErrors other slot)
    · simp [System.publish, lastCounted, here, Ne.symm here, agrees.errorCount]
  · by_cases here : other = crate
    · subst here
      simp only [System.publish, update_self, lastCounted, ↓reduceIte]
      exact congrArg List.sum (List.map_congr_left fun slot _ => agrees.nIgnFibers other slot)
    · simp [System.publish, lastCounted, here, Ne.symm here, agrees.ignErrCnt]

lemma Agrees.restart {system} (agrees : Agrees setup system)
    (crate) : Agrees setup (system.restart crate) := by
  refine ⟨fun other slot => ?_, fun other slot => ?_, fun other slot => ?_, fun other => ?_,
    fun other => ?_, fun other => ?_⟩
  all_goals
    by_cases here : other = crate
  · subst here
    simp [System.restart, lastRead, Thread.started, inError]
  · simp [System.restart, lastRead, here, Ne.symm here, agrees.nErrors]
  · subst here
    simp [System.restart, lastRead, Thread.started, inErrorIgnored]
  · simp [System.restart, lastRead, here, Ne.symm here, agrees.nIgnFibers]
  · subst here
    simp [System.restart, lastHandled, Thread.started]
  · simp [System.restart, lastHandled, here, Ne.symm here, agrees.lastDDUError]
  · subst here
    simp [System.restart, FmmRelease.lastL1A, Thread.started]
  · simp [System.restart, FmmRelease.lastL1A, here, Ne.symm here, agrees.lastL1A]
  · subst here
    simp [System.restart, lastCounted, inError]
  · simp [System.restart, lastCounted, here, Ne.symm here, agrees.errorCount]
  · subst here
    simp [System.restart, lastCounted, inErrorIgnored]
  · simp [System.restart, lastCounted, here, Ne.symm here, agrees.ignErrCnt]

lemma FiberHistory.Chambers.shift {history : FiberHistory} (chambers : history.Chambers) :
    history.shift.Chambers := by
  refine ⟨BitVec.getLsbD_zero, ?_, ?_⟩
  · rw [FiberHistory.shift, BitVec.getLsbD_or, chambers.first, chambers.current]
    rfl
  · rw [FiberHistory.shift, BitVec.getLsbD_or, BitVec.getLsbD_and, chambers.second,
      chambers.current]
    rfl

lemma OfChambers.record {system} (chambers : OfChambers system) (crate handled) : OfChambers
    (system.record crate handled) := by
  intro other slot
  simp only [System.record, update_apply]
  split
  · next here =>
      subst here
      rw [update_apply]
      split
      · refine ⟨?_, (chambers other _).first, (chambers other _).second⟩
        rw [BitVec.getLsbD_and]
        exact Bool.and_false _
      · exact chambers other slot
  · exact chambers other slot

lemma OfChambers.finish {system} (chambers : OfChambers system) (crate handled release) :
    OfChambers (system.finish crate handled release) := by
  intro other slot
  simp only [System.finish]
  split
  · exact chambers other slot
  · exact (chambers other slot).shift

lemma OfChambers.restart {system} (chambers : OfChambers system) (crate) :
    OfChambers (system.restart crate) := by
  intro other slot
  simp only [System.restart, update_apply]
  split
  · exact ⟨BitVec.getLsbD_zero, (chambers crate slot).first, (chambers crate slot).second⟩
  · exact chambers other slot

variable {handled : Handled}

lemma Handling.later {crate log newer}
    (handling : Handling setup crate handled log newer older reading) {entry}
    (different : entry.crate ≠ crate) :
    Handling setup crate handled (entry :: log) (entry :: newer) older reading := by
  refine ⟨?_, ?_, handling.fresh, handling.doReset⟩
  · rw [handling.last]
    rfl
  · intro other mem
    obtain rfl | old := List.mem_cons.1 mem
    · exact different
    · exact handling.newer other old

lemma Handles.step_of {system after} (handles : Handles setup system) (crate)
    (others : ∀ other, other ≠ crate → after.thread other = system.thread other)
    (log : after.log = system.log ∨ ∃ entry : Entry, entry.crate = crate ∧
      after.log = entry :: system.log)
    (own : ∀ handled, (after.thread crate).phase = .recording handled ∨
        (after.thread crate).phase = .counting handled →
      ∃ newer older reading, Handling setup crate handled after.log newer older reading) :
    Handles setup after := by
  intro other handled here
  by_cases same : other = crate
  · subst same
    exact own handled here
  · rw [others other same] at here
    obtain ⟨newer, older, reading, handling⟩ := handles other handled here
    obtain unchanged | ⟨entry, ofCrate, added⟩ := log
    · rw [unchanged]
      exact ⟨newer, older, reading, handling⟩
    · rw [added]
      refine ⟨entry :: newer, older, reading, handling.later ?_⟩
      rw [ofCrate]
      exact fun equal => same equal.symm

lemma System.setPhase_other (system : System) {crate other} (phase) (different : other ≠ crate) :
    (system.setPhase crate phase).thread other = system.thread other := by
  simp [System.setPhase, different]

lemma Handles.interrupt {system} (handles : Handles setup system) (agrees : Agrees setup system)
    {crate} (irq) : Handles setup (system.interrupt setup crate irq) := by
  unfold System.interrupt
  split
  · refine handles.step_of crate (fun other different => ?_) (Or.inr ⟨_, rfl, rfl⟩) ?_
    · simp [different]
    · intro handled here
      simp only [System.setThread_same, xor_and_self, xor_and_not] at here ⊢
      split at here
      · split at here <;> simp at here
      · next fresh =>
          obtain ⟨⟨⟩⟩ | ⟨⟨⟩⟩ := here
          refine ⟨[], _, _, rfl, fun _ mem => (nomatch mem), ?_, ?_⟩
          · rw [← agrees.lastDDUError]
            exact fresh
          · simp [WentBack, ← agrees.lastDDUError, ← agrees.lastL1A]
  · exact handles

structure Kept (setup : Setup) (system : System) : Prop where
  agrees : Agrees setup system
  chambers : OfChambers system
  handles : Handles setup system

lemma initial_kept (setup) : Kept setup .initial := by
  refine ⟨initial_agrees setup, fun _ _ => ⟨BitVec.getLsbD_zero, BitVec.getLsbD_zero,
    BitVec.getLsbD_zero⟩, fun crate handled here => ?_⟩
  obtain here | here := here <;> cases here

lemma Kept.setPhase {system} (kept : Kept setup system) (crate) {phase}
    (recording : ∀ handled, phase ≠ .recording handled)
    (counting : ∀ handled, phase ≠ .counting handled) :
    Kept setup (system.setPhase crate phase) := by
  refine ⟨kept.agrees.setPhase crate phase, kept.chambers, ?_⟩
  refine kept.handles.step_of crate (fun other => system.setPhase_other phase) (Or.inl rfl) ?_
  intro handled here
  rw [System.setPhase_phase] at here
  exact absurd here (not_or.2 ⟨recording handled, counting handled⟩)

lemma Kept.record {system} (kept : Kept setup system) {crate}
    (here : (system.thread crate).phase = .recording handled) :
    Kept setup (system.record crate handled) := by
  have agrees := kept.agrees.setPhase crate (.counting handled)
  refine ⟨⟨agrees.nErrors, agrees.nIgnFibers, agrees.lastDDUError, agrees.lastL1A,
    agrees.errorCount, agrees.ignErrCnt⟩, kept.chambers.record crate handled, ?_⟩
  refine kept.handles.step_of crate (fun other => system.setPhase_other _) (Or.inl rfl) ?_
  intro other now
  have phase : ((system.record crate handled).thread crate).phase = .counting handled :=
    system.setPhase_phase crate _
  rw [phase] at now
  obtain ⟨⟨⟩⟩ | ⟨⟨⟩⟩ := now
  exact kept.handles crate handled (Or.inl here)

lemma Kept.count {system} (kept : Kept setup system) (crate handled) : Kept setup
    (system.count setup crate handled) := by
  refine ⟨(kept.agrees.publish crate).setPhase crate _, kept.chambers, ?_⟩
  refine kept.handles.step_of crate (fun other different => ?_) (Or.inr ⟨_, rfl, rfl⟩) ?_
  · exact System.setPhase_other _ _ different
  · intro other now
    simp [System.count] at now

lemma Kept.finish {system} (kept : Kept setup system) (crate handled release) :
    Kept setup (system.finish crate handled release) := by
  have phase : Kept setup (system.setPhase crate
      (if handled.doReset then .resetting else .waiting)) := by
    refine kept.setPhase crate (fun _ => ?_) fun _ => ?_
    all_goals
      split <;> exact Phase.noConfusion
  have agrees := phase.agrees
  exact ⟨⟨agrees.nErrors, agrees.nIgnFibers, agrees.lastDDUError, agrees.lastL1A,
    agrees.errorCount, agrees.ignErrCnt⟩, kept.chambers.finish crate handled release,
    phase.handles⟩

lemma Kept.restart {system} (kept : Kept setup system) (crate) :
    Kept setup (system.restart crate) := by
  refine ⟨kept.agrees.restart crate, kept.chambers.restart crate, ?_⟩
  refine kept.handles.step_of crate (fun other different => ?_) (Or.inr ⟨_, rfl, rfl⟩) ?_
  · simp [System.restart, different]
  · intro other now
    simp [System.restart, Thread.started] at now

lemma Kept.step (system input) (kept : Kept setup system) :
    Kept setup (step setup system input) := by
  cases input with
  | interrupt crate irq =>
    unfold FmmRelease.step
    dsimp only
    split
    · exact ⟨kept.agrees.interrupt kept.chambers crate irq, by
        unfold System.interrupt
        split <;> exact kept.chambers, kept.handles.interrupt kept.agrees irq⟩
    · exact kept
  | poll crate =>
    unfold FmmRelease.step
    dsimp only
    split
    · exact kept.setPhase crate (fun _ => Phase.noConfusion) fun _ => Phase.noConfusion
    · exact kept
  | go crate =>
    unfold FmmRelease.step
    dsimp only
    split
    · exact kept.restart crate
    · exact kept.setPhase crate (fun _ => Phase.noConfusion) fun _ => Phase.noConfusion
    · next here => exact kept.record here
    · exact kept.count crate _
    · exact kept.finish crate _ _
    · exact kept
    · exact kept
  | fail crate => exact kept.setPhase crate (fun _ => Phase.noConfusion) fun _ => Phase.noConfusion

lemma run_kept (setup inputs) : Kept setup (run setup inputs) :=
  run_preserved Kept.step inputs (initial_kept setup)

lemma Handling.lastRead {crate log newer}
    (handling : Handling setup crate handled log newer older reading) :
    lastRead crate handled.slot log = some reading := by
  rw [handling.last]
  have others := handling.newer
  clear handling
  induction newer with
  | nil => exact if_pos ⟨rfl, rfl⟩
  | cons entry later ih =>
    have rest := ih fun other mem => others other (List.mem_cons_of_mem _ mem)
    have different := others entry List.mem_cons_self
    cases entry with
    | read other slot read => exact (if_neg fun both => different both.1).trans rest
    | counted other => exact rest
    | restarted other => exact (if_neg different).trans rest

/-- The fibers that the total counts: those of the interrupting DDU if it was reset, and otherwise
those in what all crates have given in their counts. -/
def fibersInTotal (setup : Setup) (crate slot : Nat) (reading : Reading) (older log : List Entry) :
    List (Nat × Nat × Nat) :=
  if WentBack setup crate slot reading older then fibersOfDdu setup crate slot (some reading)
  else fibersCounted setup log

lemma fibersInTotal_nodup (setup crate slot reading older log) :
    (fibersInTotal setup crate slot reading older log).Nodup := by
  unfold fibersInTotal
  split
  · exact fibersOfDdu_nodup setup crate slot _
  · exact fibersCounted_nodup setup log

lemma Agrees.totals {system} (agrees : Agrees setup system) :
    (setup.crates.map system.errorCount).sum =
      (setup.crates.map system.ignErrCnt).sum + (fibersCounted setup system.log).length := by
  have each : ∀ crate, system.errorCount crate = system.ignErrCnt crate +
      ((setup.slots crate).map fun slot =>
        (fibersOfDdu setup crate slot (lastCounted crate slot system.log)).length).sum := by
    intro crate
    rw [agrees.errorCount, agrees.ignErrCnt, ← List.sum_map_add]
    simp only [inError_split]
  rw [fibersCounted_length, ← List.sum_map_add]
  simp only [← each]

lemma totalErrors_eq {system crate} (agrees : Agrees setup system)
    (last : lastRead crate handled.slot system.log = some reading)
    (reset : handled.doReset = true ↔ WentBack setup crate handled.slot reading older) :
    system.totalErrors setup crate handled =
      (fibersInTotal setup crate handled.slot reading older system.log).length := by
  unfold System.totalErrors fibersInTotal
  by_cases back : WentBack setup crate handled.slot reading older
  · have split := inError_split setup crate handled.slot (some reading)
    simp only [reset.2 back, ↓reduceIte, if_pos back, agrees.nErrors, agrees.nIgnFibers, last]
    omega
  · have steady : handled.doReset = false := Bool.eq_false_iff.2 fun went => back (reset.1 went)
    have totals := agrees.totals
    simp only [steady, Bool.false_eq_true, ↓reduceIte, if_neg back]
    split
    · split <;> omega
    · omega

lemma System.releaseFor_none (setup crate handled total) :
    releaseFor setup crate handled total ≠ .none_ ↔
      setup.fmmErrorThreshold.toInt ≤ total ∧ setup.isTrackFinder crate = false := by
  unfold releaseFor
  split
  · next reached =>
      cases setup.isTrackFinder crate <;> cases handled.hardError <;> simp [reached]
  · next below => simp [below]

lemma System.releaseFor_enableFMM {crate total}
    (released : releaseFor setup crate handled total ≠ .none_) :
    releaseFor setup crate handled total = .enableFMM ↔ handled.hardError = true := by
  obtain ⟨reached, other⟩ := (System.releaseFor_none setup crate handled total).1 released
  simp [System.releaseFor, reached, other]

/-- Whenever an interrupt with a new chamber error is handled, the total is the number of the fibers
that are counted, all different, and it decides on the release. -/
theorem fmm_release (setup : Setup) (inputs : List Input) {crate : Nat} {handled : Handled}
    (here : ((run setup inputs).thread crate).phase = .counting handled) :
    ∃ newer older reading,
      Handling setup crate handled (run setup inputs).log newer older reading ∧
        (fibersInTotal setup crate handled.slot reading older
          (.counted crate :: (run setup inputs).log)).Nodup ∧
        ((run setup inputs).publish setup crate).totalErrors setup crate handled =
          (fibersInTotal setup crate handled.slot reading older
            (.counted crate :: (run setup inputs).log)).length ∧
        ∃ release,
          ((step setup (run setup inputs) (.go crate)).thread crate).phase =
              .released handled release ∧
            (release ≠ .none_ ↔
              setup.fmmErrorThreshold.toInt ≤ (fibersInTotal setup crate handled.slot reading older
                (.counted crate :: (run setup inputs).log)).length ∧
              setup.isTrackFinder crate = false) ∧
            (release ≠ .none_ → (release = .enableFMM ↔ handled.hardError = true)) := by
  have kept := run_kept setup inputs
  obtain ⟨newer, older, reading, handling⟩ := kept.handles crate handled (Or.inr here)
  have total := totalErrors_eq (kept.agrees.publish crate) handling.lastRead handling.doReset
  refine ⟨newer, older, reading, handling, fibersInTotal_nodup .., total,
    System.releaseFor setup crate handled
      (((run setup inputs).publish setup crate).totalErrors setup crate handled), ?_, ?_,
    System.releaseFor_enableFMM⟩
  · simp only [step, here]
    exact System.setPhase_phase ..
  · rw [System.releaseFor_none, total]
    rfl

def threeCrates : Setup where
  crates := [1, 2, 3]
  slots := fun crate => if crate = 3 then [4, 5] else [4]
  crates_nodup := by decide
  slots_nodup := fun crate => by split <;> decide
  ignoreErr := fun _ _ _ => false
  isTrackFinder := fun _ => false
  fmmErrorThreshold := 2

def started : List Input := [.go 1, .go 1, .go 2, .go 2, .go 3, .go 3]

def irqOfSlot (slot : BitVec 16) (l1a : Nat) : Interrupt := ⟨0x4000 ||| slot <<< 8, 1, 0, l1a⟩

def secondCrate : List Input :=
  started ++ [.interrupt 1 (irqOfSlot 4 7), .go 1, .go 1, .interrupt 2 (irqOfSlot 4 7), .go 2]

theorem fmm_release_secondCrate :
    ∃ newer older reading,
      Handling threeCrates 2 ⟨4, 1, false, false⟩ (run threeCrates secondCrate).log
          newer older reading ∧
        ((run threeCrates secondCrate).publish threeCrates 2).totalErrors threeCrates 2
            ⟨4, 1, false, false⟩ =
          (fibersInTotal threeCrates 2 4 reading older
            (.counted 2 :: (run threeCrates secondCrate).log)).length := by
  have here : ((run threeCrates secondCrate).thread 2).phase =
      .counting ⟨4, 1, false, false⟩ := by
    rfl
  obtain ⟨newer, older, reading, handling, -, total, -⟩ := fmm_release threeCrates secondCrate here
  exact ⟨newer, older, reading, handling, total⟩

/-- A bit of the DDU has gone off since its last reading, or its own L1A has gone back. -/
def DduWentBack (setup : Setup) (crate slot : Nat) (reading : Reading) (older : List Entry) : Prop :=
  ∃ before, lastRead crate slot older = some before ∧
    (combinedStatus setup crate slot before.status &&&
        ~~~(combinedStatus setup crate slot reading.status) ≠ 0 ∨
      reading.l1a < before.l1a)

def fibersRead (setup : Setup) (log : List Entry) : List (Nat × Nat × Nat) :=
  setup.crates.flatMap fun crate => (setup.slots crate).flatMap fun slot =>
    fibersOfDdu setup crate slot (lastRead crate slot log)

/-- The DDU in slot 5 interrupts for the first time, with a lower L1A than the one in slot 4 had. -/
def otherDdu : List Input :=
  started ++ [.interrupt 3 (irqOfSlot 4 7), .go 3, .go 3, .go 3, .interrupt 3 (irqOfSlot 5 6),
    .go 3]

def notYetCounted : List Input :=
  started ++ [.interrupt 1 (irqOfSlot 4 7), .go 1, .interrupt 2 (irqOfSlot 4 7), .go 2]

/-- Two fibers are in error in the last readings and no DDU went back, but one is counted and
nothing is released. -/
theorem fewer_counted :
    (((run threeCrates otherDdu).thread 3).phase = .counting ⟨5, 1, true, false⟩ ∧
        (∃ newer older reading,
          Handling threeCrates 3 ⟨5, 1, true, false⟩ (run threeCrates otherDdu).log
              newer older reading ∧
            ¬ DduWentBack threeCrates 3 5 reading older) ∧
        (fibersRead threeCrates (run threeCrates otherDdu).log).length = 2 ∧
        ((run threeCrates otherDdu).publish threeCrates 3).totalErrors threeCrates 3
          ⟨5, 1, true, false⟩ = 1 ∧
        ((step threeCrates (run threeCrates otherDdu) (.go 3)).thread 3).phase =
          .released ⟨5, 1, true, false⟩ .none_) ∧
      ((run threeCrates notYetCounted).thread 2).phase = .counting ⟨4, 1, false, false⟩ ∧
        (fibersRead threeCrates (run threeCrates notYetCounted).log).length = 2 ∧
        ((run threeCrates notYetCounted).publish threeCrates 2).totalErrors threeCrates 2
          ⟨4, 1, false, false⟩ = 1 := by
  refine ⟨⟨rfl, ⟨[], (run threeCrates (otherDdu.take 10)).log, ⟨1, 6, 0⟩, ⟨rfl, ?_, ?_, ?_⟩, ?_⟩,
    ?_, ?_, ?_⟩, rfl, ?_, ?_⟩
  · exact fun _ mem => (nomatch mem)
  · decide +kernel
  · decide +kernel
  · rintro ⟨before, known, -⟩
    cases known
  · decide +kernel
  · decide +kernel
  · rfl
  · decide +kernel
  · decide +kernel

end EmuLib.Fed.FmmRelease
