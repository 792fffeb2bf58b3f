import EmuLib.VmeController.DirectCommands
import EmuLib.VmeController.Independence

/-!
What is left of the earlier calls after a call for which no data arrived.
-/

namespace EmuLib.VmeController

open Memory GuardedRun

namespace State

section

variable (state : State)

def turn (turn : Turn) : Outcome := state.vmeController turn.call turn.arriving

def run (turns : List Turn) : State := runFrom (fun state turn => (state.turn turn).state) state turns

def observe : State → List Turn → List Observation
  | _, [] => []
  | state, turn :: rest => (state.turn turn).observed :: observe (state.turn turn).state rest

lemma run_snoc (turns turn) : state.run (turns ++ [turn]) = ((state.run turns).turn turn).state :=
  runFrom_append state turns [turn]

def Recovered : Prop :=
  ∀ fresh : VMEController, state.controller.Receives fresh →
    ∀ later, state.observe later = (State.initial fresh).observe later

end

variable {state other : State}

lemma Same.observe (turns) :
    ∀ {state other : State}, state.Same other → state.observe turns = other.observe turns := by
  induction turns with
  | nil => intro state other same; rfl
  | cons turn rest ih =>
    intro state other same
    have alike := same.vmeController turn.call turn.arriving
    have observed : (state.turn turn).observed = (other.turn turn).observed := by
      simp only [State.turn, Outcome.observed, alike.sent, alike.returned, alike.rcv]
    exact congrArg₂ List.cons observed (ih alike.state)

lemma refused_value {call : Call} {value} (refused : call.refused = some value) :
    value = 0 ∨ value = -10 := by
  unfold Call.refused at refused
  split_ifs at refused <;> simp_all

lemma send_failed {forced rcv arriving} (failed : (state.send forced rcv arriving).returned = -100) :
    (state.send forced rcv arriving).state.statics = ⟨state.statics.lrgReadPnt, 0, 0, false⟩ := by
  simp only [State.send] at failed ⊢
  split at failed
  · rename_i reading
    rw [if_pos reading]
    simp only [State.readBack] at failed ⊢
    generalize state.ethWrite.controller.clearError.readEth 0 0 _ = read at failed ⊢
    cases count : read.count with
    | none => rfl
    | some rNum =>
      simp only [count] at failed
      cases forced with
      | false =>
        simp only [Bool.false_eq_true, if_false] at failed
        omega
      | true => simp at failed
  · simp at failed

lemma turn_failed {turn} (failed : (state.turn turn).returned = -100) :
    (state.turn turn).state.statics = ⟨state.statics.lrgReadPnt, 0, 0, false⟩ := by
  have lrgReadPnt : (state.start.fill turn.call).statics.lrgReadPnt = state.statics.lrgReadPnt :=
    start_lrgReadPnt state
  simp only [State.turn, State.vmeController] at failed ⊢
  cases refused : turn.call.refused with
  | some value =>
    simp only [refused] at failed
    have values := refused_value refused
    omega
  | none =>
    simp only [refused] at failed ⊢
    rw [← lrgReadPnt]
    split_ifs at failed ⊢
    · exact send_failed failed
    · exact send_failed failed

lemma send_even (even : state.statics.lrgReadPnt % 2 = 0) (forced rcv arriving) :
    (state.send forced rcv arriving).state.statics.lrgReadPnt % 2 = 0 := by
  simp only [State.send]
  split
  · simp only [State.readBack]
    cases (state.ethWrite.controller.clearError.readEth 0 0 _).count with
    | none => exact even
    | some rNum =>
      cases forced with
      | false => rfl
      | true =>
        simp only [State.ethWrite, if_true]
        omega
  · cases forced with
    | false => rfl
    | true => exact even

lemma turn_even (even : state.statics.lrgReadPnt % 2 = 0) (turn) :
    (state.turn turn).state.statics.lrgReadPnt % 2 = 0 := by
  have started : state.start.statics.lrgReadPnt % 2 = 0 := by
    rw [start_lrgReadPnt]
    exact even
  have filled : (state.start.fill turn.call).statics.lrgReadPnt % 2 = 0 := started
  simp only [State.turn, State.vmeController]
  cases turn.call.refused with
  | some value => exact started
  | none =>
    split_ifs
    · exact send_even filled false _ _
    · exact send_even filled true _ _
    · exact filled

lemma run_even (controller turns) :
    ((State.initial controller).run turns).statics.lrgReadPnt % 2 = 0 :=
  @run_preserved State Turn _ (fun state => state.statics.lrgReadPnt % 2 = 0)
    (fun _ turn even => turn_even even turn) (.initial controller) turns rfl

lemma write_returned (nread : state.statics.nread = 0) :
    (state.turn (writeTurn .bufwriteSnd)).returned = (state.statics.lrgReadPnt / 2 : Nat) := by
  have read : ¬0 < (state.start.fill (writeTurn .bufwriteSnd).call).ethWrite.statics.nread := by
    have unread : state.start.statics.nread = 0 := (start_nread state).trans nread
    simp only [State.ethWrite, State.fill, unread]
    decide
  have kept : (state.start.fill (writeTurn .bufwriteSnd).call).ethWrite.statics.lrgReadPnt =
      state.statics.lrgReadPnt := start_lrgReadPnt state
  have sent : state.turn (writeTurn .bufwriteSnd) =
      (state.start.fill (writeTurn .bufwriteSnd).call).send false none fun _ => [] := rfl
  rw [sent]
  simp only [State.send]
  rw [if_neg read]
  exact congrArg Int.ofNat (congrArg (· / 2) kept)

lemma recovered_iff (even : state.statics.lrgReadPnt % 2 = 0)
    (failed : state.statics.nvme = 0 ∧ state.statics.nread = 0 ∧ state.statics.istrt = false) :
    state.Recovered ↔ state.statics.lrgReadPnt = 0 := by
  obtain ⟨nvme, nread, istrt⟩ := failed
  constructor
  · intro recovered
    have same := recovered state.controller ⟨rfl, rfl⟩ [writeTurn .bufwriteSnd]
    have returned := congrArg Observation.returned (List.cons.inj same).1
    have first := write_returned nread
    have second := @write_returned (State.initial state.controller) rfl
    have words : (state.statics.lrgReadPnt / 2 : Nat) = ((0 / 2 : Nat) : Int) :=
      first.symm.trans (returned.trans second)
    omega
  · intro empty fresh receives later
    have idle : state.Idle := ⟨empty, nread, fun started => absurd started (by simp [istrt])⟩
    exact Same.observe later (idle.same (idle_initial fresh) receives)

end State

/-- A call for which no data arrive leaves the state of a new controller exactly if no data of
forced reads were kept before it. -/
theorem recovery (controller : VMEController) (turns : List Turn) (last : Turn)
    (failed : (((State.initial controller).run turns).turn last).returned = -100) :
    ((((State.initial controller).run turns).turn last).state.Idle ↔
      ((State.initial controller).run turns).statics.lrgReadPnt = 0) ∧
    ((((State.initial controller).run turns).turn last).state.Recovered ↔
      ((State.initial controller).run turns).statics.lrgReadPnt = 0) := by
  have statics := State.turn_failed failed
  have even := State.run_even controller turns
  have kept : (((State.initial controller).run turns).turn last).state.statics.lrgReadPnt =
      ((State.initial controller).run turns).statics.lrgReadPnt := by
    rw [statics]
  constructor
  · rw [State.Idle, statics]
    simp
  · rw [← kept]
    apply State.recovered_iff
    · rw [kept]
      exact even
    · rw [statics]
      exact ⟨rfl, rfl, rfl⟩

def lostRead : Turn := ⟨bufreadSnd, fun _ => []⟩

theorem recovery_second :
    ((((State.initial exampleController).run [writeTurn .bufwrite]).turn lostRead).state.Idle ↔
      ((State.initial exampleController).run [writeTurn .bufwrite]).statics.lrgReadPnt = 0) ∧
    ((((State.initial exampleController).run [writeTurn .bufwrite]).turn lostRead).state.Recovered ↔
      ((State.initial exampleController).run [writeTurn .bufwrite]).statics.lrgReadPnt = 0) :=
  recovery exampleController [writeTurn .bufwrite] lostRead (by decide)

def fullRead : Turn :=
  ⟨bufread, fun _ => exampleCrate.reply (List.replicate 1300 0x1234)⟩

lemma lostRead_returned (state : State) : (state.turn lostRead).returned = -100 := by
  rfl

structure Filling (state : State) (count : Nat) : Prop where
  nwbuf : state.start.controller.nwbuf = 4 + 6 * count
  nread : state.statics.nread = 2 * count
  lrgReadPnt : state.statics.lrgReadPnt = 0
  hwDestAddr : state.controller.hwDestAddr = exampleCrate.crateAddr

lemma Filling.more {state count} (filling : Filling state count)
    (room : count < 1299) : Filling (state.turn fullRead).state (count + 1) := by
  have nwbuf : (state.start.fill bufread).controller.nwbuf = 4 + 6 * (count + 1) := by
    change state.start.controller.nwbuf + 6 = _
    rw [filling.nwbuf]
    omega
  have waits : (state.turn fullRead).state = state.start.fill bufread := by
    have within : ¬maxData < (state.start.fill bufread).controller.nwbuf := by
      rw [maxData]
      omega
    exact congrArg Outcome.state (if_neg within)
  have started : (state.start.fill bufread).start = state.start.fill bufread :=
    State.start_of_istrt (State.start_istrt state)
  rw [waits]
  constructor
  · rw [started, nwbuf]
  · change state.start.statics.nread + 2 = _
    rw [State.start_nread, filling.nread]
    omega
  · exact (State.start_lrgReadPnt state).trans filling.lrgReadPnt
  · exact (start_hwDestAddr state).trans filling.hwDestAddr

lemma filling_run (count) (room : count ≤ 1299) :
    Filling ((State.initial exampleController).run (List.replicate count fullRead)) count := by
  induction count with
  | zero => exact ⟨rfl, rfl, rfl, rfl⟩
  | succ count ih =>
    have more := (ih (by omega)).more (by omega)
    rw [List.replicate_succ', State.run_snoc]
    exact more

lemma Filling.full {state} (filling : Filling state 1299) :
    (state.turn fullRead).state.statics.lrgReadPnt = 2600 := by
  have nwbuf : (state.start.fill bufread).controller.nwbuf = 7804 := by
    change state.start.controller.nwbuf + 6 = _
    rw [filling.nwbuf]
  have sent : state.turn fullRead =
      (state.start.fill bufread).send true none fullRead.arriving := by
    have beyond : maxData < (state.start.fill bufread).controller.nwbuf := by
      rw [maxData]
      omega
    exact if_pos beyond
  have read : 0 < (state.start.fill bufread).ethWrite.statics.nread := Nat.succ_pos _
  have here : (state.start.fill bufread).ethWrite.controller.hwDestAddr =
      exampleCrate.crateAddr := (start_hwDestAddr state).trans filling.hwDestAddr
  have none_ : state.start.statics.lrgReadPnt = 0 :=
    (State.start_lrgReadPnt state).trans filling.lrgReadPnt
  have arriving (packet : Packet) : fullRead.arriving packet =
      [some (exampleCrate.dataPacket (List.replicate 1300 0x1234))] := by
    have read : List.replicate 1300 (0x1234 : UInt16) ≠ [] := by
      rw [Ne, List.replicate_eq_nil_iff]
      omega
    rw [fullRead, Crate.reply, if_neg read]
  have counted : (List.replicate 1300 (0x1234 : UInt16)).length < 0x10000 := by
    rw [List.length_replicate]
    omega
  rw [sent]
  simp only [State.send]
  rw [arriving, State.readBack_reply here counted]
  change state.start.statics.lrgReadPnt + 2 * (List.replicate 1300 (0x1234 : UInt16)).length = _
  rw [none_, List.length_replicate]

theorem kept_data_left :
    (((State.initial exampleController).run (List.replicate 1299 fullRead ++ [fullRead])).turn
      lostRead).returned = -100 ∧
    ¬(((State.initial exampleController).run (List.replicate 1299 fullRead ++ [fullRead])).turn
      lostRead).state.Recovered := by
  have full := (filling_run 1299 (Nat.le_refl _)).full
  rw [State.run_snoc]
  generalize (((State.initial exampleController).run (List.replicate 1299 fullRead)).turn
    fullRead).state = state at full ⊢
  have statics := State.turn_failed (lostRead_returned state)
  rw [full] at statics
  refine ⟨lostRead_returned state, ?_⟩
  have even : (state.turn lostRead).state.statics.lrgReadPnt % 2 = 0 :=
    congrArg (·.lrgReadPnt % 2) statics
  rw [State.recovered_iff even (by rw [statics]; exact ⟨rfl, rfl, rfl⟩), statics]
  exact fun none_ => absurd none_ (by decide)

end EmuLib.VmeController
