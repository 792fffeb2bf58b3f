import Mathlib.Data.List.Induction
import EmuLib.X2p.Commands

/-!
What is left of the commands when they have been read: the crates that are prepared, their names,
and whether there is an execution to be answered.
-/

namespace EmuLib.X2p

open Latest List Function

section

variable {setup : Setup} {relay : Relay} {text name : Text}

lemma Setup.IsCrate.some (known : setup.IsCrate name) : name ≠ [] := by
  rintro rfl
  exact absurd known.1 (by decide : ¬ (0 : Int) ≤ -1)

lemma Setup.IsCrate.toNat_lt (known : setup.IsCrate name) :
    (setup.crateNumber name).toNat < totalCrates := by
  obtain ⟨least, most⟩ := known
  omega

lemma crateToNumber_crate (known : setup.IsCrate name)
    (own : relay.crateName (setup.crateNumber name).toNat = [] ∨
      relay.crateName (setup.crateNumber name).toNat = name) :
    relay.crateToNumber setup name = { relay with
      crateName := update relay.crateName (setup.crateNumber name).toNat name } := by
  have small := known.toNat_lt
  unfold Relay.crateToNumber
  rw [if_neg (Int.not_lt.mpr known.1), if_neg (Nat.not_le.mpr small)]
  rcases own with empty | same
  · rw [if_pos empty]
  · have filled : relay.crateName (setup.crateNumber name).toNat ≠ [] := by
      rw [same]
      exact known.some
    have unchanged : update relay.crateName (setup.crateNumber name).toNat name =
        relay.crateName := update_eq_iff.mpr ⟨same.symm, fun _ _ => rfl⟩
    rw [if_neg filled, unchanged]

lemma crateToNumber_unknown (unknown : setup.crateNumber name < 0) :
    relay.crateToNumber setup name = relay := by
  exact if_pos unknown

inductive Turn (setup : Setup) (relay : Relay) (text : Text) : Relay → Prop where
  | stop (stops : StopsSlow text) : Turn setup relay text relay.stopSlow
  | resume (resumes : ResumesSlow text) : Turn setup relay text relay.resumeSlow
  | crateOff (name : Text) (off : TurnsCrateOff text name) :
      Turn setup relay text (relay.turnOff setup 16 .crateOff text)
  | prepare (name : Text) (prepares : Prepares text name) :
      Turn setup relay text (relay.preparePower setup text)
  | execute (executes : Executes text) : Turn setup relay text relay.executePower
  | ignored (stops : ¬ StopsSlow text) (resumes : ¬ ResumesSlow text) (executes : ¬ Executes text)
      (named : ∀ name, ¬ Named text name) : Turn setup relay text relay

lemma chamberOff_overlooked : text.take 15 ≠ "TURN_CHAMBER_OFF".toList := by
  intro same
  have short : (text.take 15).length ≤ 15 := length_take_le ..
  rw [same] at short
  exact absurd short (by decide)

lemma readCommand_turn (legible : Legible setup text) (threw : relay.threw = false)
    (stray : relay.stray = false) : Turn setup relay text (relay.readCommand setup text) := by
  have going : ¬ (relay.threw || relay.stray) = true := by
    rw [threw, stray]
    exact Bool.false_ne_true
  unfold Relay.readCommand
  rw [if_neg going]
  by_cases stops : text.take 10 = "STOP_SLOW_".toList
  · rw [if_pos stops]
    exact Turn.stop stops
  by_cases resumes : text.take 12 = "RESUME_SLOW_".toList
  · rw [if_neg stops, if_pos resumes]
    exact Turn.resume resumes
  have long : ¬ text.length < 8 := by
    rcases legible.long with stopping | resuming | long
    · exact absurd stopping stops
    · exact absurd resuming resumes
    · exact Nat.not_lt.mpr long
  rw [if_neg stops, if_neg resumes, if_neg long]
  by_cases data : text.drop (text.length - 8) = "get_data".toList
  · rw [if_pos data]
    exact Turn.ignored stops resumes (fun executes => executes.1 data)
      fun name named => named.elim (fun prepares => prepares.1 data) fun off => off.1 data
  rw [if_neg data, if_neg chamberOff_overlooked]
  by_cases off : text.take 15 = "CRATE_POWER_OFF".toList
  · rw [if_pos off]
    exact Turn.crateOff _ ⟨data, off, rfl⟩
  by_cases prepares : text.take 13 = "PREPARE_POWER".toList
  · rw [if_neg off, if_pos prepares]
    exact Turn.prepare _ ⟨data, prepares, rfl⟩
  by_cases executes : text.take 13 = "EXECUTE_POWER".toList
  · rw [if_neg off, if_neg prepares, if_pos executes]
    exact Turn.execute ⟨data, executes⟩
  · rw [if_neg off, if_neg prepares, if_neg executes]
    exact Turn.ignored stops resumes (fun execute => executes execute.2)
      fun name named => named.elim (fun prepare => prepares prepare.2.1) fun turns => off turns.2.1

lemma turnOff_crate {off} (turnsOff : TurnsCrateOff text name) (known : setup.IsCrate name)
    (own : relay.crateName (setup.crateNumber name).toNat = [] ∨
      relay.crateName (setup.crateNumber name).toNat = name) :
    relay.turnOff setup 16 off text = { relay with
      crateName := update relay.crateName (setup.crateNumber name).toNat name
      crateState := update relay.crateState (setup.crateNumber name).toNat (-1)
      log := relay.log ++ [off name] } := by
  obtain ⟨_, keyword, rfl⟩ := turnsOff
  have long : ¬ text.length < 16 := by
    intro short
    have empty : text.drop 16 = [] := drop_eq_nil_of_le (Nat.le_of_lt short)
    exact known.some empty
  unfold Relay.turnOff
  rw [if_neg long, crateToNumber_crate known own, if_pos ⟨known.1, known.2⟩]
  unfold Relay.request Relay.setState
  dsimp only
  rw [update_self]

lemma preparePower_crate (prepares : Prepares text name) (long : 17 ≤ text.length)
    (known : setup.IsCrate name)
    (own : relay.crateName (setup.crateNumber name).toNat = [] ∨
      relay.crateName (setup.crateNumber name).toNat = name) :
    relay.preparePower setup text = { relay with
      crateName := update relay.crateName (setup.crateNumber name).toNat name
      crateState := update relay.crateState (setup.crateNumber name).toNat 1
      log := relay.log ++ if relay.suspended then [] else [.monitorStop] } := by
  obtain ⟨_, keyword, rfl⟩ := prepares
  have inside : 0 ≤ setup.crateNumber (text.drop 17) ∧
      setup.crateNumber (text.drop 17) < totalCrates := known
  unfold Relay.preparePower Relay.request Relay.setState
  rw [if_neg (Nat.not_lt.mpr long), crateToNumber_crate known own]
  simp only [inside, and_self, if_true]
  cases relay.suspended with
  | true => simp
  | false => simp

lemma preparePower_unknown (prepares : Prepares text name) (long : 17 ≤ text.length)
    (unknown : setup.crateNumber name < 0) :
    relay.preparePower setup text = { relay with
      log := relay.log ++ if relay.suspended then [] else [.monitorStop] } := by
  obtain ⟨_, keyword, rfl⟩ := prepares
  have noCrate : ¬ (0 ≤ setup.crateNumber (text.drop 17) ∧
      setup.crateNumber (text.drop 17) < totalCrates) := fun both => by omega
  unfold Relay.preparePower
  dsimp only
  rw [if_neg (Nat.not_lt.mpr long), crateToNumber_unknown unknown, if_neg noCrate]
  by_cases suspended : relay.suspended = true
  · rw [if_pos suspended, if_pos suspended, append_nil]
  · rw [if_neg suspended, if_neg suspended]
    rfl

end

/-- Every crate that has a name has it from a command, and one that is prepared was prepared under
its name. -/
structure Kept (setup : Setup) (texts : List Text) (relay : Relay) : Prop where
  stray : relay.stray = false
  suspended : relay.suspended = true ↔ SuspendedBy texts
  names : ∀ crate, relay.crateName crate = [] ∨
    setup.crateNumber (relay.crateName crate) = crate ∧
      ∃ text ∈ texts, Named text (relay.crateName crate)
  prepared : ∀ crate, relay.crateState crate = 1 → setup.IsCrate (relay.crateName crate) ∧
    setup.crateNumber (relay.crateName crate) = crate ∧ Prepared texts (relay.crateName crate)

def ReadFrom (commands : List Text) : Request → Prop
  | .monitorStop | .monitorStart | .newData | .reload => True
  | .crateOff name => ∃ text ∈ commands, TurnsCrateOff text name
  | _ => False

structure Reading (setup : Setup) (history commands : List Text) (start : List Request)
    (relay : Relay) : Prop extends Kept setup (history ++ commands) relay where
  threw : relay.threw = false
  executing : relay.startPowerup = true ↔ Executing commands
  answered : relay.startPowerup = true → ∀ crate, relay.crateState crate = 1 →
    Answered history commands (relay.crateName crate) ∨ Late commands (relay.crateName crate)
  log : ∃ made, relay.log = start ++ made ∧ ∀ request ∈ made, ReadFrom commands request

section

variable {setup : Setup} {history commands : List Text} {start : List Request} {relay : Relay}
  {text name : Text}

lemma ReadFrom.more {request} (source : ReadFrom commands request) :
    ReadFrom (commands ++ [text]) request := by
  cases request with
  | crateOff crate =>
    obtain ⟨other, inside, off⟩ := source
    exact ⟨other, mem_append_left _ inside, off⟩
  | monitorStop => trivial
  | monitorStart => trivial
  | newData => trivial
  | reload => trivial
  | _ => exact source

lemma Kept.namesMore {texts} (kept : Kept setup texts relay) (crate) :
    relay.crateName crate = [] ∨ setup.crateNumber (relay.crateName crate) = crate ∧
      ∃ other ∈ texts ++ [text], Named other (relay.crateName crate) := by
  rcases kept.names crate with empty | ⟨number, other, inside, named⟩
  · exact .inl empty
  · exact .inr ⟨number, other, mem_append_left _ inside, named⟩

lemma resumeSlow_log (relay : Relay) : relay.resumeSlow.log =
    relay.log ++ .monitorStart :: if relay.suspended then [.newData] else [] := by
  unfold Relay.resumeSlow Relay.request
  cases relay.suspended with
  | true => exact append_assoc ..
  | false => rfl

lemma Kept.own {texts} (kept : Kept setup texts relay) (known : setup.IsCrate name)
    (single : ∀ other ∈ texts, ∀ second, Named other second →
      setup.crateNumber name = setup.crateNumber second → name = second) :
    relay.crateName (setup.crateNumber name).toNat = [] ∨
      relay.crateName (setup.crateNumber name).toNat = name := by
  rcases kept.names (setup.crateNumber name).toNat with empty | ⟨number, other, inside, named⟩
  · exact .inl empty
  · right
    rw [Int.toNat_of_nonneg known.1] at number
    exact (single other inside _ named number.symm).symm

lemma Prepares.apart (prepares : Prepares text name) :
    ¬ StopsSlow text ∧ ¬ ResumesSlow text ∧ ¬ Executes text := by
  refine ⟨fun stops => ?_, fun resumes => ?_, fun executes => ?_⟩
  · exact X2p.apart prepares.head stops.head (by decide)
  · exact X2p.apart prepares.head resumes.head (by decide)
  · exact X2p.apart prepares.head executes.head (by decide)

variable (reading : Reading setup history commands start relay)

include reading

lemma Reading.logged {requests}
    (sources : ∀ request ∈ requests, ReadFrom (commands ++ [text]) request) :
    ∃ made, relay.log ++ requests = start ++ made ∧
      ∀ request ∈ made, ReadFrom (commands ++ [text]) request := by
  obtain ⟨made, log, earlier⟩ := reading.log
  refine ⟨made ++ requests, by rw [log, append_assoc], ?_⟩
  intro request inside
  rcases mem_append.mp inside with inside | inside
  · exact (earlier request inside).more
  · exact sources request inside

lemma Reading.goesOn {after : Relay}
    (stops : ¬ StopsSlow text) (resumes : ¬ ResumesSlow text) (executes : ¬ Executes text)
    (frame : after.suspended = relay.suspended ∧ after.startPowerup = relay.startPowerup ∧
      after.stray = relay.stray ∧ after.threw = relay.threw)
    (names : ∀ crate, after.crateName crate = relay.crateName crate ∨
      setup.crateNumber (after.crateName crate) = crate ∧ Named text (after.crateName crate))
    (states : ∀ crate, after.crateState crate = 1 → setup.IsCrate (after.crateName crate) ∧
      setup.crateNumber (after.crateName crate) = crate ∧
      (Prepares text (after.crateName crate) ∨ relay.crateState crate = 1 ∧
        after.crateName crate = relay.crateName crate ∧ ¬ Cancels text (after.crateName crate)))
    (log : ∃ requests, after.log = relay.log ++ requests ∧
      ∀ request ∈ requests, ReadFrom (commands ++ [text]) request) :
    Reading setup history (commands ++ [text]) start after := by
  obtain ⟨suspended, startPowerup, stray, threw⟩ := frame
  have whole : history ++ (commands ++ [text]) = history ++ commands ++ [text] :=
    (append_assoc ..).symm
  refine ⟨⟨stray.trans reading.stray, ?_, ?_, ?_⟩, threw.trans reading.threw, ?_, ?_, ?_⟩
  · rw [whole, suspended, reading.suspended]
    unfold SuspendedBy
    rw [since_snoc]
    exact ⟨fun since => .inr ⟨since, resumes⟩, fun both => both.elim (absurd · stops) And.left⟩
  · intro crate
    rw [whole]
    rcases names crate with same | ⟨number, named⟩
    · rw [same]
      exact reading.namesMore crate
    · exact .inr ⟨number, text, by simp, named⟩
  · intro crate prepared
    obtain ⟨known, number, since⟩ := states crate prepared
    refine ⟨known, number, ?_⟩
    rw [whole]
    apply (since_snoc text).mpr
    rcases since with prepares | ⟨before, same, keeps⟩
    · exact .inl prepares
    · refine .inr ⟨?_, keeps⟩
      rw [same]
      exact (reading.prepared crate before).2.2
  · rw [startPowerup, reading.executing]
    unfold Executing
    rw [since_snoc]
    exact ⟨fun since => .inr ⟨since, fun either => either.elim stops resumes⟩,
      fun both => both.elim (absurd · executes) And.left⟩
  · intro starts crate prepared
    rw [startPowerup] at starts
    obtain ⟨known, number, since⟩ := states crate prepared
    rcases since with prepares | ⟨before, same, keeps⟩
    · right
      apply (since_snoc text).mpr
      exact .inl ⟨reading.executing.mp starts, prepares⟩
    · rw [same] at keeps ⊢
      rcases reading.answered starts crate before with answered | late
      · left
        exact (since_snoc text).mpr (.inr ⟨answered, not_false⟩)
      · right
        exact (since_snoc text).mpr (.inr ⟨late, fun either => either.elim executes keeps⟩)
  · obtain ⟨requests, log, sources⟩ := log
    rw [log]
    exact reading.logged sources

lemma Reading.cleared {after}
    (either : StopsSlow text ∨ ResumesSlow text)
    (suspended : after.suspended = true ↔ StopsSlow text)
    (frame : after.startPowerup = false ∧ after.stray = relay.stray ∧ after.threw = relay.threw ∧
      after.crateName = relay.crateName)
    (states : ∀ crate, after.crateState crate ≠ 1)
    (log : ∃ requests, after.log = relay.log ++ requests ∧
      ∀ request ∈ requests, ReadFrom (commands ++ [text]) request) :
    Reading setup history (commands ++ [text]) start after := by
  obtain ⟨startPowerup, stray, threw, names⟩ := frame
  have whole : history ++ (commands ++ [text]) = history ++ commands ++ [text] :=
    (append_assoc ..).symm
  have executes : ¬ Executes text := by
    intro executes
    rcases either with stops | resumes
    · exact apart executes.head stops.head (by decide)
    · exact apart executes.head resumes.head (by decide)
  refine ⟨⟨stray.trans reading.stray, ?_, ?_, ?_⟩, threw.trans reading.threw, ?_, ?_, ?_⟩
  · rw [whole, suspended]
    unfold SuspendedBy
    rw [since_snoc]
    constructor
    · exact .inl
    · rintro (stops | ⟨_, goesOn⟩)
      · exact stops
      · exact either.resolve_right goesOn
  · intro crate
    rw [whole, names]
    exact reading.namesMore crate
  · intro crate prepared
    exact absurd prepared (states crate)
  · rw [startPowerup]
    unfold Executing
    rw [since_snoc]
    constructor
    · intro starts
      cases starts
    · rintro (execute | ⟨_, goesOn⟩)
      · exact absurd execute executes
      · exact absurd either goesOn
  · intro starts
    rw [startPowerup] at starts
    cases starts
  · obtain ⟨requests, log, sources⟩ := log
    rw [log]
    exact reading.logged sources

lemma Reading.stop (stops : StopsSlow text) :
    Reading setup history (commands ++ [text]) start relay.stopSlow := by
  apply reading.cleared (.inl stops)
  · exact ⟨fun _ => stops, fun _ => rfl⟩
  · exact ⟨rfl, rfl, rfl, rfl⟩
  · intro crate
    exact (by decide : (0 : Int) ≠ 1)
  · refine ⟨[.monitorStop], rfl, ?_⟩
    intro request inside
    rw [mem_singleton.mp inside]
    trivial

lemma Reading.resume (resumes : ResumesSlow text) :
    Reading setup history (commands ++ [text]) start relay.resumeSlow := by
  apply reading.cleared (.inr resumes)
  · constructor
    · intro suspended
      cases suspended
    · intro stops
      exact (apart resumes.head stops.head (by decide)).elim
  · refine ⟨rfl, ?_, ?_, ?_⟩
    all_goals
      unfold Relay.resumeSlow
      split <;> rfl
  · intro crate
    exact (by decide : (0 : Int) ≠ 1)
  · refine ⟨_, resumeSlow_log relay, ?_⟩
    intro request inside
    rcases mem_cons.mp inside with rfl | inside
    · trivial
    · split at inside
      · rw [mem_singleton.mp inside]
        trivial
      · cases inside

lemma Reading.crateSet {state requests} (stops : ¬ StopsSlow text) (resumes : ¬ ResumesSlow text)
    (executes : ¬ Executes text) (named : Named text name) (known : setup.IsCrate name)
    (prepares : state = 1 → Prepares text name)
    (keeps : ∀ other, other ≠ name → ¬ Cancels text other)
    (sources : ∀ request ∈ requests, ReadFrom (commands ++ [text]) request) :
    Reading setup history (commands ++ [text]) start { relay with
      crateName := update relay.crateName (setup.crateNumber name).toNat name
      crateState := update relay.crateState (setup.crateNumber name).toNat state
      log := relay.log ++ requests } := by
  have number : setup.crateNumber name = ((setup.crateNumber name).toNat : Int) :=
    (Int.toNat_of_nonneg known.1).symm
  apply reading.goesOn stops resumes executes
  · exact ⟨rfl, rfl, rfl, rfl⟩
  · intro crate
    dsimp only
    by_cases here : crate = (setup.crateNumber name).toNat
    · right
      rw [here, update_self]
      exact ⟨number, named⟩
    · left
      rw [update_of_ne here]
  · intro crate set
    dsimp only at set ⊢
    by_cases here : crate = (setup.crateNumber name).toNat
    · rw [here, update_self] at set
      rw [here, update_self]
      exact ⟨known, number, .inl (prepares set)⟩
    · rw [update_of_ne here] at set
      rw [update_of_ne here]
      obtain ⟨knownToo, own, _⟩ := reading.prepared crate set
      refine ⟨knownToo, own, .inr ⟨set, rfl, keeps _ ?_⟩⟩
      intro same
      rw [same] at own
      omega
  · exact ⟨requests, rfl, sources⟩

lemma Reading.crateOff (turnsOff : TurnsCrateOff text name) (known : setup.IsCrate name)
    (own : relay.crateName (setup.crateNumber name).toNat = [] ∨
      relay.crateName (setup.crateNumber name).toNat = name) :
    Reading setup history (commands ++ [text]) start (relay.turnOff setup 16 .crateOff text) := by
  rw [turnOff_crate turnsOff known own]
  apply reading.crateSet _ _ _ (.inr turnsOff) known
  · intro set
    exact absurd set (by decide)
  · intro other
    exact turnsOff.keeps
  · intro request inside
    rw [mem_singleton.mp inside]
    exact ⟨text, by simp, turnsOff⟩
  · intro stops
    exact apart turnsOff.head stops.head (by decide)
  · intro resumes
    exact apart turnsOff.head resumes.head (by decide)
  · intro executes
    exact apart turnsOff.head executes.head (by decide)

lemma Reading.prepare (prepares : Prepares text name) (long : 17 ≤ text.length)
    (small : setup.crateNumber name < totalCrates)
    (own : setup.IsCrate name → relay.crateName (setup.crateNumber name).toNat = [] ∨
      relay.crateName (setup.crateNumber name).toNat = name) :
    Reading setup history (commands ++ [text]) start (relay.preparePower setup text) := by
  obtain ⟨stops, resumes, executes⟩ := prepares.apart
  have sources : ∀ request ∈ (if relay.suspended then [] else [Request.monitorStop]),
      ReadFrom (commands ++ [text]) request := by
    intro request inside
    split at inside
    · cases inside
    · rw [mem_singleton.mp inside]
      trivial
  by_cases known : 0 ≤ setup.crateNumber name
  · rw [preparePower_crate prepares long ⟨known, small⟩ (own ⟨known, small⟩)]
    exact reading.crateSet stops resumes executes (.inl prepares) ⟨known, small⟩
      (fun _ => prepares) (fun other _ => prepares.keeps) sources
  · rw [preparePower_unknown prepares long (Int.not_le.mp known)]
    apply reading.goesOn stops resumes executes
    · exact ⟨rfl, rfl, rfl, rfl⟩
    · intro crate
      exact .inl rfl
    · intro crate set
      obtain ⟨knownToo, number, _⟩ := reading.prepared crate set
      exact ⟨knownToo, number, .inr ⟨set, rfl, prepares.keeps⟩⟩
    · exact ⟨_, rfl, sources⟩

lemma Reading.ignored
    (legible : Legible setup text) (stops : ¬ StopsSlow text) (resumes : ¬ ResumesSlow text)
    (executes : ¬ Executes text) (named : ∀ name, ¬ Named text name) :
    Reading setup history (commands ++ [text]) start relay := by
  apply reading.goesOn stops resumes executes
  · exact ⟨rfl, rfl, rfl, rfl⟩
  · intro crate
    exact .inl rfl
  · intro crate set
    obtain ⟨known, number, _⟩ := reading.prepared crate set
    exact ⟨known, number, .inr ⟨set, rfl, keeps_ignored legible stops resumes named known⟩⟩
  · exact ⟨[], (append_nil _).symm, by simp⟩

lemma Reading.execute (executes : Executes text) :
    Reading setup history (commands ++ [text]) start relay.executePower := by
  have whole : history ++ (commands ++ [text]) = history ++ commands ++ [text] :=
    (append_assoc ..).symm
  refine ⟨⟨reading.stray, ?_, ?_, ?_⟩, reading.threw, ?_, ?_, ?_⟩
  · rw [whole]
    unfold SuspendedBy
    rw [since_snoc]
    have goesOn : ¬ ResumesSlow text := fun resumes =>
      apart executes.head resumes.head (by decide)
    have starts : ¬ StopsSlow text := fun stops => apart executes.head stops.head (by decide)
    refine reading.suspended.trans ?_
    exact ⟨fun since => .inr ⟨since, goesOn⟩, fun both => both.elim (absurd · starts) And.left⟩
  · intro crate
    rw [whole]
    exact reading.namesMore crate
  · intro crate set
    obtain ⟨known, number, since⟩ := reading.prepared crate set
    refine ⟨known, number, ?_⟩
    rw [whole]
    exact (since_snoc text).mpr (.inr ⟨since, executes.keeps⟩)
  · exact ⟨fun _ => (since_snoc text).mpr (.inl executes), fun _ => rfl⟩
  · intro _ crate set
    left
    apply (since_snoc text).mpr
    exact .inl ⟨executes, (reading.prepared crate set).2.2⟩
  · apply reading.logged
    intro request inside
    rw [mem_singleton.mp inside]
    trivial

lemma Reading.step (legible : Legible setup text)
    (own : ∀ name, Named text name → setup.IsCrate name →
      relay.crateName (setup.crateNumber name).toNat = [] ∨
        relay.crateName (setup.crateNumber name).toNat = name) :
    Reading setup history (commands ++ [text]) start (relay.readCommand setup text) := by
  have turn := readCommand_turn legible reading.threw reading.stray
  generalize relay.readCommand setup text = after at turn
  cases turn with
  | stop stops => exact reading.stop stops
  | resume resumes => exact reading.resume resumes
  | crateOff name off =>
    have known := legible.crateOff name off
    exact reading.crateOff off known (own name (.inr off) known)
  | prepare name prepares =>
    obtain ⟨long, small, _⟩ := legible.prepare name prepares
    exact reading.prepare prepares long small (own name (.inl prepares))
  | execute executes => exact reading.execute executes
  | ignored stops resumes executes named =>
    exact reading.ignored legible stops resumes executes named

end

variable {setup : Setup} {texts commands : List Text} {relay : Relay}

lemma read_snoc (setup) (relay : Relay) (commands text) :
    relay.read setup (commands ++ [text]) = (relay.read setup commands).readCommand setup text := by
  unfold Relay.read
  rw [foldl_append]
  rfl

lemma Kept.read (kept : Kept setup texts relay) (legible : ∀ text ∈ commands, Legible setup text)
    (single : OneName setup (texts ++ commands)) :
    Reading setup texts commands relay.log (relay.read setup commands) := by
  induction commands using reverseRecOn with
  | nil =>
    refine ⟨⟨kept.stray, ?_, ?_, ?_⟩, rfl, ?_, ?_, ?_⟩
    · rw [append_nil]
      exact kept.suspended
    · rw [append_nil]
      exact kept.names
    · rw [append_nil]
      exact kept.prepared
    · constructor
      · intro starts
        cases starts
      · intro executing
        exact absurd executing since_nil
    · intro starts
      cases starts
    · exact ⟨[], (append_nil _).symm, by simp⟩
  | append_singleton earlier text ih =>
    have within : ∀ other ∈ texts ++ earlier, other ∈ texts ++ (earlier ++ [text]) := by
      intro other inside
      rw [← append_assoc]
      exact mem_append_left _ inside
    have reading := ih (fun other inside => legible other (mem_append_left _ inside))
      fun other inside next insideToo =>
        single other (within other inside) next (within next insideToo)
    rw [read_snoc]
    apply reading.step (legible text (by simp))
    intro name named known
    apply reading.own known
    intro other inside second namedToo number
    exact single text (by simp) other (within other inside) name second named namedToo known number

end EmuLib.X2p
