import Mathlib.Data.List.Induction
import EmuLib.X2p.Commands

/-!
An attempt to power up the crates that are prepared.
-/

namespace EmuLib.X2p

open Latest List

def Stopped (log : List Request) : Prop :=
  Since (fun _ request => request = .monitorStop) (fun request => request = .monitorStart) log

variable {relay : Relay}

structure Attempted (content : Nat → Text) (start : Relay) (crates : List Nat)
    (after : Relay × Nat) : Prop where
  frame : after.1.suspended = start.suspended ∧ after.1.threw = start.threw ∧
    after.1.crateName = start.crateName ∧ after.1.stray = false
  states : ∀ crate, after.1.crateState crate =
    if crate ∈ crates ∧ start.crateState crate = 1 ∧ Relay.isSuccessful (content crate) = true then 0
    else start.crateState crate
  log : ∃ made, after.1.log = start.log ++ made ∧ ∀ request ∈ made, ∃ crate ∈ crates,
    start.crateState crate = 1 ∧ (request = .powerUp (start.crateName crate) ∨
      request = .crateOn (start.crateName crate) ∨
      ∃ answer, request = .confirm answer (start.crateName crate))

lemma confirm_short (answer) {name} (short : name.length ≤ 66) :
    relay.confirm answer name = relay.request (.confirm answer name) := by
  have fits : (answer.text ++ name).length < confirmationSize := by
    have lengths : answer.text.length ≤ 13 := by cases answer <;> decide
    rw [length_append]
    unfold confirmationSize
    omega
  exact if_pos fits

lemma powerUpCrate_idle {content left crate} (idle : relay.crateState crate ≠ 1) :
    Relay.powerUpCrate content (relay, left) crate = (relay, left) := by
  exact if_pos (.inr idle)

lemma powerUpCrate_prepared {content left crate} (stray : relay.stray = false)
    (prepared : relay.crateState crate = 1) (short : (relay.crateName crate).length ≤ 66) :
    Relay.powerUpCrate content (relay, left) crate =
      if Relay.isSuccessful (content crate) = true then
        ({ relay with
          crateState := Function.update relay.crateState crate 0
          log := relay.log ++ [.confirm .initializing (relay.crateName crate),
            .powerUp (relay.crateName crate), .crateOn (relay.crateName crate),
            .confirm .initIsDone (relay.crateName crate)] }, left - 1)
      else ({ relay with
          log := relay.log ++ [.confirm .initializing (relay.crateName crate),
            .powerUp (relay.crateName crate), .confirm .initFailed (relay.crateName crate)] },
        left) := by
  have going : ¬ (relay.stray = true ∨ relay.crateState crate ≠ 1) := by
    rintro (lost | idle)
    · rw [stray] at lost
      cases lost
    · exact idle prepared
  unfold Relay.powerUpCrate
  dsimp only
  rw [if_neg going, confirm_short _ short, confirm_short _ short, confirm_short _ short]
  unfold Relay.request Relay.setState
  rw [if_neg (ne_true_of_eq_false stray)]
  cases Relay.isSuccessful (content crate) with
  | true => simp
  | false => simp

lemma Attempted.snoc {content start crates after}
    (attempted : Attempted content start crates after) {crate}
    (short : start.crateState crate = 1 → (start.crateName crate).length ≤ 66) :
    Attempted content start (crates ++ [crate]) (Relay.powerUpCrate content after crate) := by
  obtain ⟨current, left⟩ := after
  obtain ⟨⟨suspended, threw, names, stray⟩, states, made, log, sources⟩ := attempted
  dsimp only at suspended threw names stray states log
  have state := states crate
  have earlier : ∀ request ∈ made, ∃ other ∈ crates ++ [crate], start.crateState other = 1 ∧
      (request = .powerUp (start.crateName other) ∨ request = .crateOn (start.crateName other) ∨
        ∃ answer, request = .confirm answer (start.crateName other)) := by
    intro request inside
    obtain ⟨other, member, source⟩ := sources request inside
    exact ⟨other, mem_append_left _ member, source⟩
  by_cases prepared : current.crateState crate = 1
  · have first : start.crateState crate = 1 := by
      rw [prepared] at state
      split at state
      · cases state
      · exact state.symm
    have here : crate ∈ crates ++ [crate] := by simp
    rw [powerUpCrate_prepared stray prepared (names ▸ short first), names, log]
    by_cases success : Relay.isSuccessful (content crate) = true
    · rw [if_pos success]
      refine ⟨⟨suspended, threw, rfl, stray⟩, ?_, _, append_assoc .., ?_⟩
      · intro other
        dsimp only
        by_cases same : other = crate
        · rw [same, Function.update_self, if_pos ⟨here, first, success⟩]
        · rw [Function.update_of_ne same, states other]
          simp [same]
      · intro request inside
        rcases mem_append.mp inside with inside | inside
        · exact earlier request inside
        · refine ⟨crate, here, first, ?_⟩
          simp only [mem_cons, not_mem_nil, or_false] at inside
          rcases inside with rfl | rfl | rfl | rfl
          · exact .inr (.inr ⟨_, rfl⟩)
          · exact .inl rfl
          · exact .inr (.inl rfl)
          · exact .inr (.inr ⟨_, rfl⟩)
    · rw [if_neg success]
      refine ⟨⟨suspended, threw, rfl, stray⟩, ?_, _, append_assoc .., ?_⟩
      · intro other
        rw [states other]
        by_cases same : other = crate
        · rw [same]
          simp [success]
        · simp [same]
      · intro request inside
        rcases mem_append.mp inside with inside | inside
        · exact earlier request inside
        · refine ⟨crate, here, first, ?_⟩
          simp only [mem_cons, not_mem_nil, or_false] at inside
          rcases inside with rfl | rfl | rfl
          · exact .inr (.inr ⟨_, rfl⟩)
          · exact .inl rfl
          · exact .inr (.inr ⟨_, rfl⟩)
  · rw [powerUpCrate_idle prepared]
    refine ⟨⟨suspended, threw, names, stray⟩, ?_, made, log, earlier⟩
    intro other
    rw [states other]
    by_cases same : other = crate
    · rw [same]
      rw [state] at prepared
      by_cases tried : crate ∈ crates ∧ start.crateState crate = 1 ∧
          Relay.isSuccessful (content crate) = true
      · rw [if_pos tried, if_pos ⟨mem_append_left _ tried.1, tried.2⟩]
      · rw [if_neg tried] at prepared
        rw [if_neg tried, if_neg fun both => prepared both.2.1]
    · simp [same]

lemma attempted_all {content start crates left}
    (stray : start.stray = false)
    (short : ∀ crate ∈ crates, start.crateState crate = 1 →
      (start.crateName crate).length ≤ 66) :
    Attempted content start crates
      (crates.foldl (Relay.powerUpCrate content) (start, left)) := by
  induction crates using reverseRecOn with
  | nil =>
    refine ⟨⟨rfl, rfl, rfl, stray⟩, ?_, [], (append_nil _).symm, by simp⟩
    simp
  | append_singleton earlier crate ih =>
    rw [foldl_append]
    apply Attempted.snoc
    · exact ih fun other inside => short other (mem_append_left _ inside)
    · exact short crate (by simp)

lemma attempted_left {content start} {crates : List Nat} {left}
    (stray : start.stray = false) (apart : crates.Nodup)
    (short : ∀ crate ∈ crates, start.crateState crate = 1 →
      (start.crateName crate).length ≤ 66)
    (success : ∀ crate ∈ crates, start.crateState crate = 1 →
      Relay.isSuccessful (content crate) = true) :
    (crates.foldl (Relay.powerUpCrate content) (start, left)).2 =
      left - crates.countP fun crate => start.crateState crate = 1 := by
  induction crates using reverseRecOn with
  | nil => rfl
  | append_singleton earlier crate ih =>
    obtain ⟨apartBefore, _, differ⟩ := nodup_append.mp apart
    have within : ∀ other ∈ earlier, other ∈ earlier ++ [crate] := fun other =>
      mem_append_left _
    have before := ih apartBefore (fun other inside => short other (within other inside))
      fun other inside => success other (within other inside)
    have attempted := @attempted_all content start earlier left stray fun other inside =>
      short other (within other inside)
    have fresh : crate ∉ earlier := fun inside => differ crate inside crate (by simp) rfl
    rw [foldl_append, countP_append]
    generalize earlier.foldl (Relay.powerUpCrate content) (start, left) = after at *
    obtain ⟨current, count⟩ := after
    have state := attempted.states crate
    rw [if_neg fun both => fresh both.1] at state
    dsimp only at before state
    show (Relay.powerUpCrate content (current, count) crate).2 = _
    by_cases prepared : start.crateState crate = 1
    · have shortHere : (current.crateName crate).length ≤ 66 := by
        rw [attempted.frame.2.2.1]
        exact short crate (by simp) prepared
      rw [powerUpCrate_prepared attempted.frame.2.2.2 (state.trans prepared) shortHere,
        if_pos (success crate (by simp) prepared), before]
      simp only [prepared, decide_true, countP_singleton, if_true]
      omega
    · have idle : current.crateState crate ≠ 1 := fun set => prepared (state.symm.trans set)
      rw [powerUpCrate_idle idle, before]
      simp [prepared]

structure PoweredUp (content : Nat → Text) (start after : Relay) : Prop where
  frame : after.suspended = start.suspended ∧ after.threw = start.threw ∧
    after.crateName = start.crateName ∧ after.stray = false
  states : ∀ crate, after.crateState crate = 1 → start.crateState crate = 1
  log : ∃ made, after.log = start.log ++ made ∧ ∀ request ∈ made,
    request = .monitorStop ∨ request = .monitorStart ∨ ∃ crate,
      start.crateState crate = 1 ∧ (request = .powerUp (start.crateName crate) ∨
        request = .crateOn (start.crateName crate) ∨
        ∃ answer, request = .confirm answer (start.crateName crate))
  restarted : start.suspended = false → (∀ crate < totalCrates, start.crateState crate = 1 →
      Relay.isSuccessful (content crate) = true) →
    (Stopped start.log → ∃ crate < totalCrates, start.crateState crate = 1) → ¬ Stopped after.log

lemma not_stopped_started (log) : ¬ Stopped (log ++ [.monitorStart]) := by
  unfold Stopped
  rw [since_snoc]
  rintro (stops | ⟨_, goesOn⟩)
  · cases stops
  · exact goesOn rfl

lemma powerUp_poweredUp (content) (stray : relay.stray = false)
    (short : ∀ crate < totalCrates, relay.crateState crate = 1 →
      (relay.crateName crate).length ≤ 66) :
    PoweredUp content relay (relay.powerUp content) := by
  have shortToo : ∀ crate ∈ List.range totalCrates,
      (relay.request .monitorStop).crateState crate = 1 →
        ((relay.request .monitorStop).crateName crate).length ≤ 66 := by
    intro crate inside
    exact short crate (mem_range.mp inside)
  unfold Relay.powerUp
  by_cases nothing : ((List.range totalCrates).countP fun crate => relay.crateState crate = 1) = 0
  · rw [if_pos nothing]
    refine ⟨⟨rfl, rfl, rfl, stray⟩, fun _ set => set, ⟨[], (append_nil _).symm, by simp⟩, ?_⟩
    intro _ _ prepared stopped
    obtain ⟨crate, small, set⟩ := prepared stopped
    rw [countP_eq_zero] at nothing
    exact nothing crate (mem_range.mpr small) (decide_eq_true set)
  · rw [if_neg nothing]
    have attempted := @attempted_all content (relay.request .monitorStop) (List.range totalCrates)
      ((List.range totalCrates).countP fun crate => relay.crateState crate = 1) stray shortToo
    have counted := @attempted_left content (relay.request .monitorStop) (List.range totalCrates)
      ((List.range totalCrates).countP fun crate => relay.crateState crate = 1) stray
      nodup_range shortToo
    generalize (List.range totalCrates).foldl (Relay.powerUpCrate content) _ = after at *
    obtain ⟨⟨suspended, threw, names, fine⟩, states, made, log, sources⟩ := attempted
    have frame : after.1.suspended = relay.suspended ∧ after.1.threw = relay.threw ∧
        after.1.crateName = relay.crateName ∧ after.1.stray = false :=
      ⟨suspended, threw, names, fine⟩
    have statesBefore : ∀ crate, after.1.crateState crate = 1 → relay.crateState crate = 1 := by
      intro crate set
      rw [states crate] at set
      split at set
      · cases set
      · exact set
    have sourcesToo : ∀ request ∈ Request.monitorStop :: made,
        request = .monitorStop ∨ request = .monitorStart ∨ ∃ crate,
          relay.crateState crate = 1 ∧ (request = .powerUp (relay.crateName crate) ∨
            request = .crateOn (relay.crateName crate) ∨
            ∃ answer, request = .confirm answer (relay.crateName crate)) := by
      intro request inside
      rcases mem_cons.mp inside with same | inside
      · exact .inl same
      · obtain ⟨crate, _, source⟩ := sources request inside
        exact .inr (.inr ⟨crate, source⟩)
    have logToo : after.1.log = relay.log ++ .monitorStop :: made := by
      rw [log]
      exact append_assoc ..
    rw [if_neg (ne_true_of_eq_false fine)]
    by_cases all : after.2 = 0 ∧ after.1.suspended = false
    · rw [if_pos all]
      refine ⟨frame, statesBefore, ⟨(.monitorStop :: made) ++ [.monitorStart], ?_, ?_⟩, ?_⟩
      · rw [← append_assoc, ← logToo]
        rfl
      · intro request inside
        rcases mem_append.mp inside with inside | inside
        · exact sourcesToo request inside
        · exact .inr (.inl (mem_singleton.mp inside))
      · intro _ _ _
        exact not_stopped_started after.1.log
    · rw [if_neg all]
      refine ⟨frame, statesBefore, ⟨_, logToo, sourcesToo⟩, ?_⟩
      intro resumed success _
      refine absurd ⟨?_, suspended.trans resumed⟩ all
      rw [counted fun crate inside => success crate (mem_range.mp inside)]
      exact Nat.sub_self _

end EmuLib.X2p
