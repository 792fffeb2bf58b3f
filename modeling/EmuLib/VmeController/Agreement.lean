import EmuLib.VmeController.Transactions
import Mathlib.Tactic.SplitIfs

/-!
States of which no later call of `VME_controller` sees a difference.
-/

namespace EmuLib.VmeController

open Memory

structure VMEController.Receives (controller other : VMEController) : Prop where
  rbuf : controller.rbuf = other.rbuf
  hwDestAddr : controller.hwDestAddr = other.hwDestAddr

namespace VMEController

variable {controller other : VMEController}

lemma Receives.take (same : controller.Receives other) (bytes) :
    (controller.take bytes).Receives (other.take bytes) :=
  ⟨congrArg (store · 0 bytes) same.rbuf, same.hwDestAddr⟩

lemma Receives.unexpected (same : controller.Receives other) :
    controller.unexpected = other.unexpected := by
  simp only [VMEController.unexpected, same.rbuf, same.hwDestAddr]

lemma Receives.returnType (same : controller.Receives other) :
    controller.returnType = other.returnType :=
  congrFun same.rbuf 15

lemma Receives.rNum (same : controller.Receives other) : controller.rNum = other.rNum := by
  simp only [VMEController.rNum, same.rbuf]

lemma Receives.swapped (same : controller.Receives other) (count) :
    controller.swapped count = other.swapped count := by
  simp only [VMEController.swapped, same.rbuf]

@[simp] lemma swapped_length (controller : VMEController) (count) :
    (controller.swapped count).length = 2 * count := by
  simp [VMEController.swapped, List.map_const', Nat.mul_comm]

@[simp] lemma discard_rbuf (controller : VMEController) :
    controller.discard.rbuf = controller.rbuf := by
  unfold discard
  split <;> rfl

@[simp] lemma discard_hwDestAddr (controller : VMEController) :
    controller.discard.hwDestAddr = controller.hwDestAddr := by
  unfold discard
  split <;> rfl

@[simp] lemma discard_spebuff (controller : VMEController) :
    controller.discard.spebuff = controller.spebuff := by
  unfold discard
  split <;> rfl

lemma Receives.setLife (same : controller.Receives other) (life) :
    (controller.setLife life).Receives (other.setLife life) :=
  ⟨same.rbuf, same.hwDestAddr⟩

lemma Receives.reset (same : controller.Receives other) : controller.reset.Receives other.reset :=
  ⟨same.rbuf, same.hwDestAddr⟩

lemma Receives.discard (same : controller.Receives other) :
    controller.discard.Receives other.discard where
  rbuf := by rw [discard_rbuf, discard_rbuf, same.rbuf]
  hwDestAddr := by rw [discard_hwDestAddr, discard_hwDestAddr, same.hwDestAddr]

lemma discard_error306 (controller : VMEController) :
    controller.discard.error306 =
      (controller.rbuf 15 == 0xff && (controller.rbuf 22 &&& 0x0c) >>> 2 == 2 &&
        (controller.rbuf 22 &&& 0x3).toNat * 256 + (controller.rbuf 23).toNat == 306) := by
  by_cases error : controller.rbuf 15 = 0xff
  · simp [VMEController.discard, VMEController.error306, VMEController.returnType, error]
  · have quiet : (controller.rbuf 15 == 0xff) = false := by simpa using error
    simp [VMEController.error306, VMEController.returnType, quiet]

lemma Receives.error306 (same : controller.Receives other) :
    controller.discard.error306 = other.discard.error306 := by
  rw [discard_error306, discard_error306, same.rbuf]

end VMEController

structure Reading.Alike (first second : Reading) : Prop where
  sent : first.sent = second.sent
  count : first.count = second.count
  controller : first.controller.Receives second.controller

namespace VMEController

lemma readEth_alike (arriving) :
    ∀ (controller other : VMEController) (loopcnt vccError306 : Nat),
      controller.Receives other →
        (controller.readEth loopcnt vccError306 arriving).Alike
          (other.readEth loopcnt vccError306 arriving) := by
  induction arriving with
  | nil =>
    intro controller other loopcnt vccError306 same
    exact ⟨rfl, rfl, same.rbuf, same.hwDestAddr⟩
  | cons arrival rest ih =>
    intro controller other loopcnt vccError306 same
    cases arrival with
    | none => exact ⟨rfl, rfl, same.rbuf, same.hwDestAddr⟩
    | some bytes =>
      have taken := same.take bytes
      have noted := (taken.setLife true).discard
      have error := (taken.setLife true).error306
      simp only [readEth]
      rw [← congrFun taken.rbuf 0, ← taken.unexpected, ← taken.returnType, ← error]
      split_ifs
      · exact ih _ _ _ _ taken
      · exact ⟨rfl, rfl, taken.rbuf, taken.hwDestAddr⟩
      · exact ih _ _ _ _ taken
      · exact ⟨rfl, congrArg some taken.rNum, taken.rbuf, taken.hwDestAddr⟩
      · have after := ih _ _ 0 1 noted.reset
        exact ⟨congrArg₂ List.cons rfl after.sent, after.count, after.controller⟩
      · exact ih _ _ _ _ noted
      · exact ih _ _ _ _ noted

lemma readEth_spebuff (arriving) :
    ∀ (controller : VMEController) (loopcnt vccError306 : Nat),
      (controller.readEth loopcnt vccError306 arriving).controller.spebuff =
        controller.spebuff := by
  induction arriving with
  | nil => intro controller loopcnt vccError306; rfl
  | cons arrival rest ih =>
    intro controller loopcnt vccError306
    cases arrival with
    | none => rfl
    | some bytes =>
      have noted : ((controller.take bytes).setLife true).discard.spebuff =
          controller.spebuff := discard_spebuff _
      simp only [readEth]
      split_ifs
      · exact ih _ _ _
      · rfl
      · exact ih _ _ _
      · rfl
      · exact (ih _ _ _).trans noted
      · exact (ih _ _ _).trans noted
      · exact (ih _ _ _).trans noted

end VMEController

namespace State

structure Agrees (state other : State) : Prop where
  lrgReadPnt : state.statics.lrgReadPnt = other.statics.lrgReadPnt
  nvme : state.statics.nvme = other.statics.nvme
  nread : state.statics.nread = other.statics.nread
  nwbuf : state.controller.nwbuf = other.controller.nwbuf
  commands : ∀ place, 4 ≤ place → place < state.controller.nwbuf →
    state.controller.wbuf place = other.controller.wbuf place
  spebuff : load state.controller.spebuff 0 state.statics.lrgReadPnt =
    load other.controller.spebuff 0 state.statics.lrgReadPnt
  receives : state.controller.Receives other.controller

/-- Before the first command of a packet `nvme` and `nwbuf` do not count either. -/
def Same (state other : State) : Prop := state.start.Agrees other.start

lemma Agrees.refl (state : State) : state.Agrees state where
  lrgReadPnt := rfl
  nvme := rfl
  nread := rfl
  nwbuf := rfl
  commands := fun _ _ _ => rfl
  spebuff := rfl
  receives := ⟨rfl, rfl⟩

lemma Agrees.symm {state other : State} (agrees : state.Agrees other) : other.Agrees state where
  lrgReadPnt := agrees.lrgReadPnt.symm
  nvme := agrees.nvme.symm
  nread := agrees.nread.symm
  nwbuf := agrees.nwbuf.symm
  commands := fun place behind within =>
    (agrees.commands place behind (agrees.nwbuf ▸ within)).symm
  spebuff := agrees.lrgReadPnt ▸ agrees.spebuff.symm
  receives := ⟨agrees.receives.rbuf.symm, agrees.receives.hwDestAddr.symm⟩

lemma Agrees.trans {first second third : State} (agrees : first.Agrees second)
    (also : second.Agrees third) : first.Agrees third where
  lrgReadPnt := agrees.lrgReadPnt.trans also.lrgReadPnt
  nvme := agrees.nvme.trans also.nvme
  nread := agrees.nread.trans also.nread
  nwbuf := agrees.nwbuf.trans also.nwbuf
  commands := fun place behind within =>
    (agrees.commands place behind within).trans
      (also.commands place behind (agrees.nwbuf ▸ within))
  spebuff := agrees.spebuff.trans (agrees.lrgReadPnt ▸ also.spebuff)
  receives := ⟨agrees.receives.rbuf.trans also.receives.rbuf,
    agrees.receives.hwDestAddr.trans also.receives.hwDestAddr⟩

@[simp] lemma start_istrt (state : State) : state.start.statics.istrt = true := by
  unfold start
  split
  · assumption
  · rfl

lemma start_of_istrt {state : State} (istrt : state.statics.istrt = true) :
    state.start = state := if_pos istrt

@[simp] lemma start_start (state : State) : state.start.start = state.start :=
  start_of_istrt (start_istrt state)

@[simp] lemma start_lrgReadPnt (state : State) :
    state.start.statics.lrgReadPnt = state.statics.lrgReadPnt := by
  unfold start
  split <;> rfl

@[simp] lemma start_nread (state : State) : state.start.statics.nread = state.statics.nread := by
  unfold start
  split <;> rfl

lemma start_receives (state : State) : state.start.controller.Receives state.controller := by
  unfold start
  split <;> exact ⟨rfl, rfl⟩

lemma Same.refl (state : State) : state.Same state := Agrees.refl _

lemma Same.symm {state other : State} (same : state.Same other) : other.Same state :=
  Agrees.symm same

lemma Same.trans {first second third : State} (same : first.Same second)
    (also : second.Same third) : first.Same third := Agrees.trans same also

lemma start_same (state : State) : state.start.Same state := by
  unfold Same
  rw [start_start]
  exact Agrees.refl _

lemma Same.receives {state other : State} (same : state.Same other) :
    state.controller.Receives other.controller := by
  have agree := Agrees.receives same
  have first := start_receives state
  have second := start_receives other
  exact ⟨first.rbuf.symm.trans (agree.rbuf.trans second.rbuf),
    first.hwDestAddr.symm.trans (agree.hwDestAddr.trans second.hwDestAddr)⟩

structure Filled (state other : State) : Prop extends state.Agrees other where
  header : ∀ place < 2, state.controller.wbuf place = other.controller.wbuf place

lemma counted_le_stored (call : Call) : call.counted ≤ call.stored.length := by
  cases call with
  | mk irdwr ptr data0 data1 rcv =>
    cases irdwr <;> simp [Call.counted, Call.stored, Call.tail]
    split <;> simp

variable {state other : State}

lemma Agrees.fill (agrees : state.Agrees other) (call) :
    (state.fill call).Filled (other.fill call) where
  lrgReadPnt := agrees.lrgReadPnt
  nvme := congrArg (· + 1) agrees.nvme
  nread := congrArg (· + if call.reads then tsSize else 0) agrees.nread
  nwbuf := congrArg (· + call.counted) agrees.nwbuf
  commands := by
    intro place behind within
    have counted := counted_le_stored call
    have bound : place < state.controller.nwbuf + call.counted := within
    simp only [State.fill, ← agrees.nwbuf]
    apply store_same
    by_cases before : place < state.controller.nwbuf
    · exact .inl (store_same (Or.inl (agrees.commands place behind before)))
    · exact .inr (by omega)
  spebuff := agrees.spebuff
  receives := ⟨agrees.receives.rbuf, agrees.receives.hwDestAddr⟩
  header := by
    intro place within
    simp only [State.fill, ← agrees.nwbuf]
    exact store_same (Or.inl (store_same (Or.inr (by simpa using within))))

lemma Filled.packet (filled : state.Filled other) :
    state.header.ethWrite = other.header.ethWrite := by
  have nwbuf : state.header.nwbuf = other.header.nwbuf := filled.nwbuf
  simp only [VMEController.ethWrite]
  rw [← nwbuf, load_congr]
  intro place within
  rw [Nat.zero_add]
  simp only [State.header, ← filled.nvme]
  apply store_same
  have part : place < 2 ∨ 2 ≤ place ∧ place < 4 ∨ 4 ≤ place := by omega
  rcases part with low | middle | high
  · exact .inl (filled.header place low)
  · exact .inr (by simpa using middle)
  · exact .inl (filled.commands place high within)

end State

structure Outcome.Alike (first second : Outcome) : Prop where
  sent : first.sent = second.sent
  returned : first.returned = second.returned
  rcv : first.rcv = second.rcv
  state : first.state.Same second.state

namespace State

variable {state other : State}

lemma readBack_istrt (forced rcv arriving) :
    (state.readBack forced rcv arriving).state.statics.istrt = state.statics.istrt := by
  simp only [State.readBack]
  cases (state.controller.clearError.readEth 0 0 arriving).count with
  | none => rfl
  | some rNum => cases forced <;> rfl

lemma send_istrt (forced rcv arriving) :
    (state.send forced rcv arriving).state.statics.istrt = false := by
  simp only [State.send]
  split
  · exact readBack_istrt forced rcv _
  · rfl

lemma same_of_sent (sent : state.statics.istrt = false) (also : other.statics.istrt = false)
    (lrgReadPnt : state.statics.lrgReadPnt = other.statics.lrgReadPnt)
    (nread : state.statics.nread = other.statics.nread)
    (spebuff : load state.controller.spebuff 0 state.statics.lrgReadPnt =
      load other.controller.spebuff 0 state.statics.lrgReadPnt)
    (receives : state.controller.Receives other.controller) : state.Same other := by
  unfold Same start
  rw [if_neg (by simp [sent]), if_neg (by simp [also])]
  exact ⟨lrgReadPnt, rfl, nread, rfl, fun place behind within => absurd within (by simpa using behind),
    spebuff, receives.rbuf, receives.hwDestAddr⟩

lemma Agrees.copied (agrees : state.Agrees other) (forced rcv) : state.copied forced rcv =
    other.copied forced rcv := by
  simp only [State.copied, ← agrees.lrgReadPnt, agrees.spebuff]

lemma Agrees.copiedWords (agrees : state.Agrees other) (forced) :
    state.copiedWords forced = other.copiedWords forced := by
  simp only [State.copiedWords, agrees.lrgReadPnt]

structure Sent (state other : State) : Prop extends state.Agrees other where
  first : state.statics.istrt = false
  second : other.statics.istrt = false

lemma Agrees.ethWrite (agrees : state.Agrees other) : state.ethWrite.Sent other.ethWrite where
  lrgReadPnt := agrees.lrgReadPnt
  nvme := rfl
  nread := agrees.nread
  nwbuf := rfl
  commands := fun place behind within => absurd within (by simpa [State.ethWrite] using behind)
  spebuff := agrees.spebuff
  receives := ⟨agrees.receives.rbuf, agrees.receives.hwDestAddr⟩
  first := rfl
  second := rfl

lemma Sent.readBack (sent : state.Sent other) (forced rcv arriving) :
    (state.readBack forced rcv arriving).Alike (other.readBack forced rcv arriving) := by
  have receives : state.controller.clearError.Receives other.controller.clearError :=
    ⟨sent.receives.rbuf, sent.receives.hwDestAddr⟩
  have alike := VMEController.readEth_alike arriving _ _ 0 0 receives
  have kept := VMEController.readEth_spebuff arriving state.controller.clearError 0 0
  have alsoKept := VMEController.readEth_spebuff arriving other.controller.clearError 0 0
  simp only [State.readBack]
  generalize state.controller.clearError.readEth 0 0 arriving = reading at alike kept ⊢
  generalize other.controller.clearError.readEth 0 0 arriving = also at alike alsoKept ⊢
  rw [← alike.count, ← sent.copied, ← sent.copied, ← sent.copiedWords, ← sent.lrgReadPnt]
  have stored : load reading.controller.spebuff 0 state.statics.lrgReadPnt =
      load also.controller.spebuff 0 state.statics.lrgReadPnt := by
    rw [kept, alsoKept]
    exact sent.spebuff
  cases reading.count with
  | none =>
    exact ⟨alike.sent, rfl, rfl,
      same_of_sent sent.first sent.second rfl rfl stored alike.controller⟩
  | some rNum =>
    have data := alike.controller.swapped rNum
    cases forced with
    | false =>
      refine ⟨alike.sent, rfl, ?_, same_of_sent sent.first sent.second rfl rfl rfl alike.controller⟩
      simp only [Bool.false_eq_true, if_false, data]
    | true =>
      refine ⟨alike.sent, rfl, rfl,
        same_of_sent sent.first sent.second rfl rfl ?_
          ⟨alike.controller.rbuf, alike.controller.hwDestAddr⟩⟩
      have length : (reading.controller.swapped rNum).length = 2 * rNum :=
        VMEController.swapped_length _ _
      have behind (memory : Nat → UInt8) :=
        load_store_append memory 0 state.statics.lrgReadPnt (reading.controller.swapped rNum)
      simp only [length, Nat.zero_add] at behind
      simp only [if_true, ← data]
      rw [behind, behind, stored]

lemma Filled.send (filled : state.Filled other) (forced rcv arriving) :
    (state.send forced rcv arriving).Alike (other.send forced rcv arriving) := by
  have sent := filled.toAgrees.ethWrite
  simp only [State.send]
  rw [← filled.packet, ← sent.nread]
  split
  · have read := sent.readBack forced rcv (arriving state.header.ethWrite)
    exact ⟨congrArg (_ :: ·) read.sent, read.returned, read.rcv, read.state⟩
  · refine ⟨rfl, congrArg Int.ofNat (sent.copiedWords forced), sent.copied forced rcv, ?_⟩
    cases forced with
    | false => exact same_of_sent sent.first sent.second rfl sent.nread rfl sent.receives
    | true =>
      exact same_of_sent sent.first sent.second sent.lrgReadPnt sent.nread sent.spebuff
        sent.receives

lemma Same.vmeController (same : state.Same other) (call arriving) :
    (state.vmeController call arriving).Alike (other.vmeController call arriving) := by
  simp only [State.vmeController]
  cases call.refused with
  | some value => exact ⟨rfl, rfl, rfl, (start_same state).trans (same.trans (start_same other).symm)⟩
  | none =>
    have filled := Agrees.fill same call
    have nwbuf := filled.nwbuf
    simp only [← nwbuf]
    split_ifs
    · exact filled.send false call.rcv arriving
    · exact filled.send true call.rcv arriving
    · have started : (state.start.fill call).start = state.start.fill call :=
        start_of_istrt (start_istrt state)
      have alsoStarted : (other.start.fill call).start = other.start.fill call :=
        start_of_istrt (start_istrt other)
      refine ⟨rfl, rfl, rfl, ?_⟩
      change (state.start.fill call).start.Agrees (other.start.fill call).start
      rw [started, alsoStarted]
      exact filled.toAgrees

end State

end EmuLib.VmeController
