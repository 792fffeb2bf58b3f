import EmuLib.X2p.PowerUp
import EmuLib.X2p.Reading

/-!
When a crate is powered up on the commands of the detector control system, and what becomes of the
other commands.
-/

namespace EmuLib.X2p

open Latest List

def history (calls : List Call) : List Text := calls.flatMap Call.commands

def requestsOf (setup : Setup) (relay : Relay) (call : Call) : List Request :=
  (relay.checkCommand setup call).log.drop relay.log.length

structure CarriedOut (setup : Setup) (before after : Relay) (text : Text) : Prop where
  stop : StopsSlow text → after.log = before.log ++ [.monitorStop] ∧ after.suspended = true ∧
    ∀ crate, after.crateState crate ≠ 1
  resume : ResumesSlow text → (∃ later, after.log = before.log ++ .monitorStart :: later) ∧
    after.suspended = false ∧ ∀ crate, after.crateState crate ≠ 1
  chamberOff : ∀ name, TurnsChamberOff text name → setup.IsCrate name →
    after.log = before.log ++ [.chamberOff name] ∧
      after.crateState (setup.crateNumber name).toNat ≠ 1
  crateOff : ∀ name, TurnsCrateOff text name → setup.IsCrate name →
    after.log = before.log ++ [.crateOff name] ∧
      after.crateState (setup.crateNumber name).toNat ≠ 1

def Asked (history commands : List Text) : Request → Prop
  | .chamberOff name => ∃ text ∈ commands, TurnsChamberOff text name
  | .crateOff name => ∃ text ∈ commands, TurnsCrateOff text name
  | .crateOn name | .powerUp name | .confirm _ name => ∃ text ∈ history ++ commands, Prepares text name
  | _ => True

structure Relays (setup : Setup) (calls : List Call) : Prop where
  powerUp : ∀ before call after name, calls = before ++ call :: after →
    .powerUp name ∈ requestsOf setup (Relay.checkCommands setup before) call →
      Answered (history before) call.commands name
  carriedOut : ∀ before call after first text rest, calls = before ++ call :: after →
    call.commands = first ++ text :: rest →
      CarriedOut setup ((Relay.checkCommands setup before).read setup first)
        ((Relay.checkCommands setup before).read setup (first ++ [text])) text
  named : ∀ before call after, calls = before ++ call :: after →
    ∀ request ∈ requestsOf setup (Relay.checkCommands setup before) call,
      Asked (history before) call.commands request
  sound : ∀ before after, calls = before ++ after →
    (Relay.checkCommands setup before).threw = false ∧
      (Relay.checkCommands setup before).stray = false
  restarted : ∀ before call after, calls = before ++ call :: after →
    Executing call.commands → ¬ SuspendedBy (history before ++ call.commands) →
      ¬ Stopped (Relay.checkCommands setup (before ++ [call])).log

/-- In `attempts` the relay is as it is when `PowerUp` is called. -/
structure Careful (setup : Setup) (calls : List Call) : Prop where
  legible : ∀ text ∈ history calls, Legible setup text
  oneName : OneName setup (history calls)
  inTime : ∀ call ∈ calls, ∀ name, setup.IsCrate name → ¬ Late call.commands name
  attempts : ∀ before call after, calls = before ++ call :: after → Executing call.commands →
    ¬ SuspendedBy (history before ++ call.commands) →
      let relay := (Relay.checkCommands setup before).read setup call.commands
      (∀ crate < totalCrates, relay.crateState crate = 1 →
        Relay.isSuccessful (call.content crate) = true) ∧
      (Stopped relay.log → ∃ crate < totalCrates, relay.crateState crate = 1)

section

variable {setup : Setup} {calls before after : List Call} {call : Call} {relay : Relay}
  {texts commands : List Text}

lemma Kept.poweredUp {content ended} (kept : Kept setup texts relay)
    (powered : PoweredUp content relay ended) : Kept setup texts ended := by
  obtain ⟨suspended, _, names, stray⟩ := powered.frame
  refine ⟨stray, ?_, ?_, ?_⟩
  · rw [suspended]
    exact kept.suspended
  · rw [names]
    exact kept.names
  · intro crate set
    rw [names]
    exact kept.prepared crate (powered.states crate set)

lemma Kept.short (kept : Kept setup texts relay) (legible : ∀ text ∈ texts, Legible setup text)
    (crate) (set : relay.crateState crate = 1) : (relay.crateName crate).length ≤ 66 := by
  obtain ⟨known, _, since⟩ := kept.prepared crate set
  obtain ⟨_, text, inside, prepares⟩ := since.starting
  exact ((legible text inside).prepare _ prepares).2.2 known

lemma Reading.ends {start}
    (reading : Reading setup texts call.commands start (relay.read setup call.commands))
    (legible : ∀ text ∈ texts ++ call.commands, Legible setup text) :
    (relay.read setup call.commands).startPowerup = true ∧
        PoweredUp call.content (relay.read setup call.commands) (relay.checkCommand setup call) ∨
      (relay.read setup call.commands).startPowerup = false ∧
        relay.checkCommand setup call = relay.read setup call.commands := by
  unfold Relay.checkCommand
  dsimp only
  rw [reading.threw, reading.stray]
  cases starts : (relay.read setup call.commands).startPowerup with
  | true =>
    left
    exact ⟨rfl, powerUp_poweredUp call.content reading.stray fun crate _ =>
      reading.toKept.short legible crate⟩
  | false =>
    right
    exact ⟨rfl, if_neg Bool.false_ne_true⟩

lemma history_snoc (before call) :
    history (before ++ [call]) = history before ++ call.commands := by
  unfold history
  rw [flatMap_append, flatMap_singleton]

lemma checkCommands_snoc (setup before call) :
    Relay.checkCommands setup (before ++ [call]) =
      (Relay.checkCommands setup before).checkCommand setup call := by
  unfold Relay.checkCommands
  rw [foldl_append]
  rfl

lemma kept_created (setup) : Kept setup [] Relay.created := by
  refine ⟨rfl, ?_, fun _ => .inl rfl, ?_⟩
  · constructor
    · intro suspended
      cases suspended
    · intro suspended
      exact absurd suspended since_nil
  · intro crate set
    cases set

lemma Careful.upTo (careful : Careful setup calls) (cut : calls = before ++ call :: after) :
    (∀ text ∈ history before ++ call.commands, Legible setup text) ∧
      OneName setup (history before ++ call.commands) := by
  have within : ∀ text ∈ history before ++ call.commands, text ∈ history calls := by
    intro text inside
    rw [cut]
    unfold history at inside ⊢
    rw [flatMap_append, flatMap_cons, ← append_assoc]
    exact mem_append_left _ inside
  constructor
  · intro text inside
    exact careful.legible text (within text inside)
  · intro text inside other insideToo
    exact careful.oneName text (within text inside) other (within other insideToo)

lemma Careful.kept (careful : Careful setup calls) (cut : calls = before ++ after) :
    Kept setup (history before) (Relay.checkCommands setup before) ∧
      (Relay.checkCommands setup before).threw = false := by
  induction before using reverseRecOn generalizing after with
  | nil => exact ⟨kept_created setup, rfl⟩
  | append_singleton before call ih =>
    have cutBefore : calls = before ++ call :: after := by
      rw [cut, append_assoc]
      rfl
    obtain ⟨legible, single⟩ := careful.upTo cutBefore
    have reading := (ih cutBefore).1.read
      (fun text inside => legible text (mem_append_right _ inside)) single
    rw [history_snoc, checkCommands_snoc]
    rcases reading.ends legible with ⟨_, powered⟩ | ⟨_, same⟩
    · exact ⟨reading.toKept.poweredUp powered, powered.frame.2.1.trans reading.threw⟩
    · rw [same]
      exact ⟨reading.toKept, reading.threw⟩

lemma Careful.reading (careful : Careful setup calls) (cut : calls = before ++ call :: after)
    {rest} (part : call.commands = commands ++ rest) :
    Reading setup (history before) commands (Relay.checkCommands setup before).log
      ((Relay.checkCommands setup before).read setup commands) := by
  obtain ⟨legible, single⟩ := careful.upTo cut
  have within : ∀ text ∈ history before ++ commands, text ∈ history before ++ call.commands := by
    intro text inside
    rw [part, ← append_assoc]
    exact mem_append_left _ inside
  apply (careful.kept cut).1.read
  · intro text inside
    exact legible text (within text (mem_append_right _ inside))
  · intro text inside other insideToo
    exact single text (within text inside) other (within other insideToo)

lemma Careful.ends (careful : Careful setup calls) (cut : calls = before ++ call :: after) :
    ((Relay.checkCommands setup before).read setup call.commands).startPowerup = true ∧
        PoweredUp call.content ((Relay.checkCommands setup before).read setup call.commands)
          ((Relay.checkCommands setup before).checkCommand setup call) ∨
      ((Relay.checkCommands setup before).read setup call.commands).startPowerup = false ∧
        (Relay.checkCommands setup before).checkCommand setup call =
          (Relay.checkCommands setup before).read setup call.commands :=
  (careful.reading cut (append_nil _).symm).ends (careful.upTo cut).1

lemma Careful.requests (careful : Careful setup calls) (cut : calls = before ++ call :: after)
    {request} (made : request ∈ requestsOf setup (Relay.checkCommands setup before) call) :
    let relay := (Relay.checkCommands setup before).read setup call.commands
    ReadFrom call.commands request ∨ relay.startPowerup = true ∧ ∃ crate,
      relay.crateState crate = 1 ∧ (request = .powerUp (relay.crateName crate) ∨
        request = .crateOn (relay.crateName crate) ∨
        ∃ answer, request = .confirm answer (relay.crateName crate)) := by
  obtain ⟨first, log, sources⟩ := (careful.reading cut (append_nil _).symm).log
  unfold requestsOf at made
  rcases careful.ends cut with ⟨starts, powered⟩ | ⟨_, same⟩
  · obtain ⟨second, logToo, sourcesToo⟩ := powered.log
    rw [logToo, log, append_assoc, drop_left] at made
    rcases mem_append.mp made with inside | inside
    · exact .inl (sources request inside)
    · rcases sourcesToo request inside with rfl | rfl | crate
      · exact .inl trivial
      · exact .inl trivial
      · exact .inr ⟨starts, crate⟩
  · rw [same, log, drop_left] at made
    exact .inl (sources request made)

lemma Reading.carriedOut {past start text} (reading : Reading setup past commands start relay)
    (legible : Legible setup text)
    (own : ∀ name, Named text name → setup.IsCrate name →
      relay.crateName (setup.crateNumber name).toNat = [] ∨
        relay.crateName (setup.crateNumber name).toNat = name) :
    CarriedOut setup relay (relay.readCommand setup text) text := by
  have turn := readCommand_turn legible reading.threw reading.stray
  have noChamberOff : ∀ name, TurnsChamberOff text name → setup.IsCrate name →
      (relay.readCommand setup text).log = relay.log ++ [.chamberOff name] ∧
        (relay.readCommand setup text).crateState (setup.crateNumber name).toNat ≠ 1 :=
    fun name off known => absurd known (legible.chamberOff name off)
  generalize relay.readCommand setup text = after at turn noChamberOff
  refine ⟨?_, ?_, noChamberOff, ?_⟩
  · intro stops
    cases turn with
    | stop _ => exact ⟨rfl, rfl, fun crate => (by decide : (0 : Int) ≠ 1)⟩
    | resume resumes => exact (apart resumes.head stops.head (by decide)).elim
    | crateOff name off => exact (apart off.head stops.head (by decide)).elim
    | prepare name prepares => exact (apart prepares.head stops.head (by decide)).elim
    | execute executes => exact (apart executes.head stops.head (by decide)).elim
    | ignored noStop _ _ _ => exact absurd stops noStop
  · intro resumes
    cases turn with
    | stop stops => exact (apart stops.head resumes.head (by decide)).elim
    | resume _ =>
      exact ⟨⟨_, resumeSlow_log relay⟩, rfl, fun crate => (by decide : (0 : Int) ≠ 1)⟩
    | crateOff name off => exact (apart off.head resumes.head (by decide)).elim
    | prepare name prepares => exact (apart prepares.head resumes.head (by decide)).elim
    | execute executes => exact (apart executes.head resumes.head (by decide)).elim
    | ignored _ noResume _ _ => exact absurd resumes noResume
  · intro name off known
    cases turn with
    | stop stops => exact (apart stops.head off.head (by decide)).elim
    | resume resumes => exact (apart resumes.head off.head (by decide)).elim
    | crateOff other _ =>
      rw [turnOff_crate off known (own name (.inr off) known)]
      refine ⟨rfl, ?_⟩
      dsimp only
      rw [Function.update_self]
      decide
    | prepare other prepares => exact (apart prepares.head off.head (by decide)).elim
    | execute executes => exact (apart executes.head off.head (by decide)).elim
    | ignored _ _ _ named => exact absurd (.inr off) (named name)

/-- In a run without the commands and the replies that the relay is not made for, crates are powered
up as they have been prepared, and every command is carried out. -/
theorem power_commands (setup : Setup) (calls : List Call) (careful : Careful setup calls) :
    Relays setup calls where
  powerUp := by
    intro before call after name cut made
    have reading := careful.reading cut (append_nil _).symm
    rcases careful.requests cut made with source | ⟨starts, crate, set, which⟩
    · exact source.elim
    · have same : name = ((Relay.checkCommands setup before).read setup call.commands).crateName
          crate := by
        rcases which with same | other | ⟨_, other⟩
        · exact Request.powerUp.inj same
        · cases other
        · cases other
      rw [same]
      rcases reading.answered starts crate set with answered | late
      · exact answered
      · have within : call ∈ calls := by
          rw [cut]
          simp
        exact absurd late (careful.inTime call within _ (reading.prepared crate set).1)
  carriedOut := by
    intro before call after first text rest cut part
    have reading := careful.reading cut part
    obtain ⟨legible, single⟩ := careful.upTo cut
    have here : text ∈ history before ++ call.commands := by
      rw [part]
      simp
    rw [read_snoc]
    apply reading.carriedOut (legible text here)
    intro name named known
    apply reading.own known
    intro other inside second namedToo number
    have insideToo : other ∈ history before ++ call.commands := by
      rw [part, ← append_assoc]
      exact mem_append_left _ inside
    exact single text here other insideToo name second named namedToo known number
  named := by
    intro before call after cut request made
    have reading := careful.reading cut (append_nil _).symm
    rcases careful.requests cut made with source | ⟨_, crate, set, which⟩
    · cases request with
      | crateOff name => exact source
      | monitorStop => trivial
      | monitorStart => trivial
      | newData => trivial
      | reload => trivial
      | _ => exact source.elim
    · obtain ⟨_, text, inside, prepares⟩ := (reading.prepared crate set).2.2.starting
      rcases which with rfl | rfl | ⟨answer, rfl⟩
      · exact ⟨text, inside, prepares⟩
      · exact ⟨text, inside, prepares⟩
      · exact ⟨text, inside, prepares⟩
  sound := by
    intro before after cut
    obtain ⟨kept, threw⟩ := careful.kept cut
    exact ⟨threw, kept.stray⟩
  restarted := by
    intro before call after cut executing resumed
    have reading := careful.reading cut (append_nil _).symm
    have going : ((Relay.checkCommands setup before).read setup call.commands).suspended = false :=
      Bool.eq_false_iff.mpr fun suspended => resumed (reading.suspended.mp suspended)
    obtain ⟨success, prepared⟩ := careful.attempts before call after cut executing resumed
    rw [checkCommands_snoc]
    rcases careful.ends cut with ⟨_, powered⟩ | ⟨idle, _⟩
    · exact powered.restarted going success prepared
    · rw [reading.executing.mpr executing] at idle
      cases idle

end

def plusEndcap : Setup := ⟨1, id⟩

def prepareFirst : Text := "PREPARE_POWER_ON_VMEp1_1".toList

def executeAll : Text := "EXECUTE_POWER_ON".toList

def success : Text := "Power Up Successful VMEp1_1\n".toList

theorem power_commands_oneCrate :
    Relays plusEndcap [⟨[prepareFirst, executeAll], fun _ => success⟩] := by
  have first : prepareFirst.head? = some 'P' := rfl
  have second : executeAll.head? = some 'E' := rfl
  have noOff : ∀ text ∈ [prepareFirst, executeAll], ∀ name, ¬ TurnsCrateOff text name := by
    intro text inside name off
    rcases mem_cons.mp inside with rfl | inside
    · exact apart first off.head (by decide)
    · rw [mem_singleton.mp inside] at off
      exact apart second off.head (by decide)
  have oneCrate : ∀ text ∈ [prepareFirst, executeAll], ∀ name, Prepares text name →
      text = prepareFirst ∧ name = "VMEp1_1".toList := by
    intro text inside name prepares
    rcases mem_cons.mp inside with rfl | inside
    · exact ⟨rfl, prepares.2.2.symm⟩
    · rw [mem_singleton.mp inside] at prepares
      exact (apart second prepares.head (by decide)).elim
  apply power_commands
  constructor
  · intro text inside
    refine ⟨?_, ?_, fun name off => absurd off (noOff text inside name), ?_⟩
    · rcases mem_cons.mp inside with rfl | inside
      · exact .inr (.inr (by decide))
      · rw [mem_singleton.mp inside]
        exact .inr (.inr (by decide))
    · intro name off
      rcases mem_cons.mp inside with rfl | inside
      · exact (apart first off.head (by decide)).elim
      · rw [mem_singleton.mp inside] at off
        exact (apart second off.head (by decide)).elim
    · intro name prepares
      obtain ⟨rfl, rfl⟩ := oneCrate text inside name prepares
      exact ⟨by decide, by decide, fun _ => by decide⟩
  · intro text inside other insideToo name alias_ named namedToo _ _
    have one := oneCrate text inside name (named.resolve_right (noOff text inside name))
    have two := oneCrate other insideToo alias_ (namedToo.resolve_right (noOff other insideToo _))
    exact one.2.trans two.2.symm
  · intro call inside name _ late
    rw [mem_singleton.mp inside] at late
    rcases (@since_snoc _ _ _ [prepareFirst] executeAll).mp late with ⟨_, prepares⟩ | ⟨_, goesOn⟩
    · exact apart second prepares.head (by decide)
    · exact goesOn (.inl ⟨by unfold AsksForData; decide, rfl⟩)
  · intro before call after cut _ _
    cases before with
    | nil =>
      cases cut
      exact ⟨fun _ _ _ => rfl, fun _ => ⟨0, by decide, by decide⟩⟩
    | cons earlier before =>
      have none : before ++ call :: after = [] := (List.cons.inj cut).2.symm
      simp at none

/-- The crate is powered up although its chambers were to be turned off since it was prepared. -/
theorem power_commands_overlooked : ¬ ∀ setup calls, Relays setup calls := by
  intro relays
  let off : Text := "TURN_CHAMBER_OFF_VMEp1_1".toList
  let before : List Call := [⟨[prepareFirst], fun _ => []⟩, ⟨[off], fun _ => []⟩]
  let call : Call := ⟨[executeAll], fun _ => success⟩
  have sent : .powerUp "VMEp1_1".toList ∈
      requestsOf plusEndcap (Relay.checkCommands plusEndcap before) call := by decide +kernel
  have answered := (relays plusEndcap (before ++ [call])).powerUp before call [] _ rfl sent
  have prepared : Prepared [prepareFirst, off] "VMEp1_1".toList := by
    rcases (@since_snoc _ _ _ [] executeAll).mp answered with ⟨_, prepared⟩ | ⟨earlier, _⟩
    · exact prepared
    · exact absurd earlier since_nil
  rcases (@since_snoc _ _ _ [prepareFirst] off).mp prepared with prepares | ⟨_, goesOn⟩
  · exact apart (rfl : off.head? = some 'T') prepares.head (by decide)
  · refine goesOn (.inr (.inr (.inl ⟨?_, rfl, .inr rfl⟩)))
    unfold AsksForData
    decide

end EmuLib.X2p
