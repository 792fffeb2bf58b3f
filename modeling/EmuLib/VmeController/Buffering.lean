import EmuLib.Lib.GuardedRun
import EmuLib.VmeController.Crate

/-!
The calls on one crate controller, against a crate in which every command is executed at once.
-/

namespace EmuLib.VmeController

open Memory GuardedRun List

section

namespace Call

variable (call : Call)

def command : Option Command :=
  match call.irdwr with
  | .bufread | .bufreadSnd => some (.read call.ptr.toNat)
  | .bufwrite | .bufwriteSnd => some (.write call.ptr.toNat call.data0)
  | .delay =>
    if call.data0 = 0 ∧ call.data1 = 0 then none else some (.delay call.data0 call.data1)
  | .flush | .loopBack => none

def Valid : Prop :=
  match call.irdwr with
  | .bufread | .bufreadSnd => 0x80000 ≤ call.ptr.toNat ∧ call.ptr.toNat < 0xc00000
  | .bufwrite | .bufwriteSnd => 0x80000 ≤ call.ptr.toNat ∧ call.ptr.toNat < 0x1000000
  | .delay => True
  | .flush | .loopBack => False

instance : Decidable call.Valid := by
  unfold Valid
  cases call.irdwr <;> infer_instance

def immediate : Bool := call.irdwr == .bufreadSnd || call.irdwr == .bufwriteSnd

def longDelay : Bool := call.irdwr == .delay && call.data1 != 0

end Call

variable {call : Call} {command : Command}

lemma refused_of_command (valid : call.Valid) (issued : call.command = some command) :
    call.refused = none := by
  obtain ⟨irdwr, ptr, data0, data1, rcv⟩ := call
  cases irdwr with
  | bufread | bufreadSnd =>
    have bounds : 0x80000 ≤ ptr.toNat ∧ ptr.toNat < 0xc00000 := valid
    simp only [Call.refused, reduceCtorEq, if_false, false_and, true_or, or_true, true_and,
      not_false_eq_true, ne_eq]
    rw [if_neg (by omega), if_neg (by omega)]
  | bufwrite | bufwriteSnd =>
    have bounds : 0x80000 ≤ ptr.toNat ∧ ptr.toNat < 0x1000000 := valid
    simp only [Call.refused, reduceCtorEq, if_false, false_and, or_self, true_and,
      not_false_eq_true, ne_eq]
    rw [if_neg (by omega)]
  | delay => simp_all [Call.command, Call.refused]
  | flush | loopBack => exact absurd valid id

lemma refused_of_no_command (valid : call.Valid) (nothing : call.command = none) :
    call.refused = some 0 ∧ call.immediate = false := by
  obtain ⟨irdwr, ptr, data0, data1, rcv⟩ := call
  cases irdwr with
  | bufread | bufreadSnd | bufwrite | bufwriteSnd => exact absurd nothing (Option.some_ne_none _)
  | delay => simp_all [Call.command, Call.refused, Call.immediate]
  | flush | loopBack => exact absurd valid id

lemma delay_command {ptr data0 data1 rcv}
    (issued : (Call.mk .delay ptr data0 data1 rcv).command = some command) :
    command = .delay data0 data1 := by
  simp only [Call.command] at issued
  split at issued
  · exact absurd issued.symm (Option.some_ne_none _)
  · exact (Option.some.inj issued).symm

lemma stored_command (issued : call.command = some command) :
    command.bytes <+: call.stored ∧ command.bytes.length = call.counted := by
  obtain ⟨irdwr, ptr, data0, data1, rcv⟩ := call
  cases irdwr with
  | bufread | bufreadSnd =>
    obtain rfl : Command.read ptr.toNat = command := Option.some.inj issued
    exact ⟨prefix_append _ _, rfl⟩
  | bufwrite | bufwriteSnd =>
    obtain rfl : Command.write ptr.toNat data0 = command := Option.some.inj issued
    exact ⟨prefix_append _ [], rfl⟩
  | delay =>
    obtain rfl := delay_command issued
    refine ⟨prefix_rfl, ?_⟩
    simp only [Command.bytes, Call.counted]
    split <;> rfl
  | flush | loopBack => exact absurd issued.symm (Option.some_ne_none _)

lemma command_fits (valid : call.Valid) (issued : call.command = some command) :
    command.Fits := by
  obtain ⟨irdwr, ptr, data0, data1, rcv⟩ := call
  cases irdwr with
  | bufread | bufreadSnd =>
    obtain rfl : Command.read ptr.toNat = command := Option.some.inj issued
    have bounds : 0x80000 ≤ ptr.toNat ∧ ptr.toNat < 0xc00000 := valid
    exact (by omega : ptr.toNat < 0x1000000)
  | bufwrite | bufwriteSnd =>
    obtain rfl : Command.write ptr.toNat data0 = command := Option.some.inj issued
    exact valid.2
  | delay =>
    obtain rfl := delay_command issued
    trivial
  | flush | loopBack => exact absurd valid id

lemma isRead_command (issued : call.command = some command) : command.isRead = call.reads := by
  obtain ⟨irdwr, ptr, data0, data1, rcv⟩ := call
  cases irdwr with
  | bufread | bufreadSnd | bufwrite | bufwriteSnd =>
    obtain rfl := Option.some.inj issued
    rfl
  | delay =>
    obtain rfl := delay_command issued
    rfl
  | flush | loopBack => exact absurd issued.symm (Option.some_ne_none _)

lemma sends_eq (call : Call) : call.sends = (call.immediate || call.longDelay) := rfl

end

namespace State

variable {state : State} {commands : List Command}

structure Carries (state : State) (commands : List Command) : Prop where
  nvme : state.statics.nvme = commands.length
  nread : state.statics.nread = 2 * commands.countP Command.isRead
  nwbuf : state.controller.nwbuf = 4 + (commands.flatMap Command.bytes).length
  stored : load state.controller.wbuf 4 (commands.flatMap Command.bytes).length =
    commands.flatMap Command.bytes

lemma Carries.fill (carries : state.Carries commands) {call command}
    (issued : call.command = some command) : (state.fill call).Carries (commands ++ [command]) := by
  obtain ⟨⟨behind, also⟩, counted⟩ := stored_command issued
  have bytes : (commands ++ [command]).flatMap Command.bytes =
      commands.flatMap Command.bytes ++ command.bytes := by
    simp
  constructor
  · simp [State.fill, carries.nvme]
  · simp only [State.fill, carries.nread, ← isRead_command issued, countP_append,
      countP_singleton, tsSize]
    split <;> omega
  · simp only [State.fill, carries.nwbuf, bytes, length_append, counted]
    omega
  · simp only [State.fill, carries.nwbuf]
    rw [bytes, length_append, ← also, store_append]
    rw [load_store_apart _ (Or.inl (Nat.le_of_eq (Nat.add_assoc _ _ _).symm)), load_store_append,
      load_store_apart _ (Or.inr (by simp)), carries.stored]

lemma fill_header (state : State) (call) (behind : 4 ≤ state.controller.nwbuf) :
    load (state.fill call).controller.wbuf 0 2 = [0x00, vmeCmds] := by
  simp only [State.fill]
  rw [load_store_apart _ (Or.inl (by omega))]
  exact load_store state.controller.wbuf 0 [0x00, vmeCmds]

lemma Carries.packet (carries : state.Carries commands)
    (header : load state.controller.wbuf 0 2 = [0x00, vmeCmds]) :
    state.header.ethWrite = packetOf commands := by
  have size : state.header.nwbuf = 2 + 2 + (commands.flatMap Command.bytes).length :=
    carries.nwbuf
  let wbuf := store state.controller.wbuf 2 [byteOf commands.length 1, byteOf commands.length 0]
  have kept : load wbuf 0 2 = [0x00, vmeCmds] :=
    (load_store_apart _ (Or.inl (Nat.le_refl 2))).trans header
  have count : load wbuf 2 2 = [byteOf commands.length 1, byteOf commands.length 0] :=
    load_store state.controller.wbuf 2 _
  have behind : load wbuf 4 (commands.flatMap Command.bytes).length =
      commands.flatMap Command.bytes :=
    (load_store_apart _ (Or.inr (Nat.le_refl 4))).trans carries.stored
  rw [VMEController.ethWrite, size, load_add]
  simp only [State.header, carries.nvme]
  exact congrArg₂ (· ++ ·) (congrArg₂ (· ++ ·) kept count) behind

lemma start_nwbuf_of_carries (carries : state.Carries commands) : 4 ≤ state.controller.nwbuf := by
  rw [carries.nwbuf]
  omega

end State

structure State.Keeps (state : State) (kept : List UInt16) : Prop where
  lrgReadPnt : state.statics.lrgReadPnt = 2 * kept.length
  spebuff : load state.controller.spebuff 0 (2 * kept.length) = kept.flatMap callerBytes

lemma callerBytes_length (words : List UInt16) :
    (words.flatMap callerBytes).length = 2 * words.length := by
  induction words with
  | nil => rfl
  | cons word rest ih =>
    simp only [flatMap_cons, length_append, ih, length_cons, callerBytes, length_nil]
    omega

variable {Boards : Type*} (crate : Crate Boards)

structure Outcome.Answers (outcome : Outcome) (commands : List Command) : Prop where
  sent : outcome.sent = [packetOf commands]
  nread : outcome.state.statics.nread = 0
  istrt : outcome.state.statics.istrt = false
  hwDestAddr : outcome.state.controller.hwDestAddr = crate.crateAddr

variable {crate} {state : State} {commands : List Command} {words kept : List UInt16}
  {arriving : Packet → List Arrival}

namespace State

lemma Keeps.copied (keeps : state.Keeps kept) (rcv) :
    state.copied false rcv = rcv.map fun memory => store memory 0 (kept.flatMap callerBytes) := by
  simp only [State.copied, keeps.lrgReadPnt, keeps.spebuff, Bool.false_eq_true, if_false]

lemma Keeps.copiedWords (keeps : state.Keeps kept) : state.copiedWords false = kept.length := by
  simp [State.copiedWords, keeps.lrgReadPnt]

lemma Keeps.ethWrite (keeps : state.Keeps kept) : state.ethWrite.Keeps kept :=
  ⟨keeps.lrgReadPnt, keeps.spebuff⟩

lemma readBack_reply (here : state.controller.hwDestAddr = crate.crateAddr)
    (counted : words.length < 0x10000) (forced rcv) :
    state.readBack forced rcv [some (crate.dataPacket words)] =
      let controller := (state.controller.clearError.take (crate.dataPacket words)).setLife true
      let statics := { state.statics with nread := 0 }
      let data := words.flatMap callerBytes
      if forced then
        ⟨⟨{ statics with lrgReadPnt := statics.lrgReadPnt + 2 * words.length },
          { controller with spebuff := store controller.spebuff statics.lrgReadPnt data }⟩,
          [], 0, rcv⟩
      else
        ⟨(State.mk statics controller).finish false, [], state.copiedWords false + words.length,
          (state.copied false rcv).map fun memory => store memory statics.lrgReadPnt data⟩ := by
  have address : state.controller.clearError.hwDestAddr = crate.crateAddr := here
  have swapped : ((state.controller.clearError.take (crate.dataPacket words)).setLife true).swapped
      words.length = words.flatMap callerBytes := crate.swapped_reply
  simp only [State.readBack, crate.readEth_reply address counted, swapped]

variable (carries : state.Carries commands)
  (header : load state.controller.wbuf 0 2 = [0x00, vmeCmds])
  (read : words.length = commands.countP Command.isRead)
  (replied : arriving (packetOf commands) = crate.reply words) (rcv : Option (Nat → UInt8))
include carries header read replied

lemma send_eq (forced) :
    state.send forced rcv arriving =
      let outcome :=
        if words = [] then
          ⟨state.ethWrite.finish forced, [], state.ethWrite.copiedWords forced,
            state.ethWrite.copied forced rcv⟩
        else state.ethWrite.readBack forced rcv [some (crate.dataPacket words)]
      { outcome with sent := packetOf commands :: outcome.sent } := by
  have nread : state.ethWrite.statics.nread = 2 * words.length := by
    rw [read]
    exact carries.nread
  simp only [State.send, carries.packet header, replied, nread]
  by_cases silent : words = []
  · rw [if_pos silent, silent, length_nil, if_neg (Nat.lt_irrefl _)]
  · have some_ : 0 < words.length := length_pos_iff.2 silent
    rw [if_neg silent, if_pos (by omega), Crate.reply, if_neg silent]

variable (here : state.controller.hwDestAddr = crate.crateAddr) (counted : words.length < 0x10000)
include here counted

lemma send_answers (forced) : (state.send forced rcv arriving).Answers crate commands := by
  have sent : state.ethWrite.controller.hwDestAddr = crate.crateAddr := here
  rw [send_eq carries header read replied]
  by_cases silent : words = []
  · have nread : state.ethWrite.statics.nread = 0 := by
      have size := carries.nread
      rw [← read, silent] at size
      exact size
    simp only [if_pos silent]
    exact ⟨rfl, nread, rfl, here⟩
  · simp only [if_neg silent, readBack_reply sent counted]
    cases forced with
    | false => exact ⟨rfl, rfl, rfl, here⟩
    | true => exact ⟨rfl, rfl, rfl, here⟩

variable (keeps : state.Keeps kept)
include keeps

lemma send_normal :
    (state.send false rcv arriving).state.statics.lrgReadPnt = 0 ∧
      (state.send false rcv arriving).returned = (kept ++ words).length ∧
      (state.send false rcv arriving).rcv =
        rcv.map fun memory => store memory 0 ((kept ++ words).flatMap callerBytes) := by
  have sent : state.ethWrite.controller.hwDestAddr = crate.crateAddr := here
  rw [send_eq carries header read replied]
  by_cases silent : words = []
  · rw [silent, append_nil]
    exact ⟨rfl, congrArg Int.ofNat keeps.ethWrite.copiedWords, keeps.ethWrite.copied rcv⟩
  · simp only [if_neg silent, readBack_reply sent counted]
    rw [keeps.ethWrite.copiedWords, keeps.ethWrite.copied]
    refine ⟨rfl, by simp, ?_⟩
    have size := callerBytes_length kept
    simp only [Bool.false_eq_true, if_false, Option.map_map, flatMap_append,
      keeps.ethWrite.lrgReadPnt]
    refine congrArg (Option.map · rcv) ?_
    funext memory
    rw [store_append, size, Nat.zero_add]
    rfl

lemma send_forced : (state.send true rcv arriving).state.Keeps (kept ++ words) := by
  have sent : state.ethWrite.controller.hwDestAddr = crate.crateAddr := here
  rw [send_eq carries header read replied]
  by_cases silent : words = []
  · rw [silent, append_nil]
    exact ⟨keeps.lrgReadPnt, keeps.spebuff⟩
  · simp only [if_neg silent, readBack_reply sent counted]
    have size : 2 * (kept ++ words).length =
        2 * kept.length + (words.flatMap callerBytes).length := by
      rw [callerBytes_length, length_append]
      omega
    have behind := load_store_append state.controller.spebuff 0 (2 * kept.length)
      (words.flatMap callerBytes)
    rw [Nat.zero_add, keeps.spebuff] at behind
    constructor
    · simp only [if_true, keeps.ethWrite.lrgReadPnt, length_append]
      omega
    · rw [size, flatMap_append]
      simp only [if_true, keeps.ethWrite.lrgReadPnt]
      exact behind

end State

end EmuLib.VmeController
