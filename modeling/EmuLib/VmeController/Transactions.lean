import EmuLib.Lib.Memory

/-!
`VME_controller` collects VME commands in one packet for the crate controller, sends the packet, and
reads back the data of the reads in it.
-/

namespace EmuLib.VmeController

open Memory

def maxData : Nat := 7800
def maxLine : Nat := 70000
def vmeCmds : UInt8 := 0x20

-- `a_mask[ATYPE]`, `ts_mask[TSIZE]` and `tt_mask[TTYPE]`
def aMask : UInt8 := 0x40
def rMask : UInt8 := 0x00
def wMask : UInt8 := 0x10
def tsMask : UInt8 := 0x04
def tsSize : Nat := 2
def ttMask : UInt8 := 0x00

def broadcastAddr : List UInt8 := [0xff, 0xff, 0xff, 0xff, 0xff, 0xff]

inductive Irdwr
  | bufread
  | bufwrite
  | bufreadSnd
  | bufwriteSnd
  | flush
  | loopBack
  | delay
deriving DecidableEq

structure Statics where
  lrgReadPnt : Nat
  nvme : Nat
  nread : Nat
  istrt : Bool
deriving DecidableEq

def Statics.initial : Statics := ⟨0, 0, 0, false⟩

structure VMEController where
  wbuf : Nat → UInt8
  nwbuf : Nat
  rbuf : Nat → UInt8
  spebuff : Nat → UInt8
  hwDestAddr : List UInt8
  alive : Bool
  errorCount : Nat
  errorType : Nat

def VMEController.zeroed (hwDestAddr : List UInt8) : VMEController where
  wbuf := fun _ => 0
  nwbuf := 4
  rbuf := fun _ => 0
  spebuff := fun _ => 0
  hwDestAddr := hwDestAddr
  alive := true
  errorCount := 0
  errorType := 0

structure State where
  statics : Statics
  controller : VMEController

def State.initial (controller : VMEController) : State := ⟨.initial, controller⟩

/-- `rcv` is the memory from there on. -/
structure Call where
  irdwr : Irdwr
  ptr : UInt32
  data0 : UInt16
  data1 : UInt16
  rcv : Option (Nat → UInt8)

abbrev Packet := List UInt8

abbrev Arrival := Option Packet

structure Outcome where
  state : State
  sent : List Packet
  returned : Int
  rcv : Option (Nat → UInt8)

namespace VMEController

variable (controller : VMEController)

def setLife (life : Bool) : VMEController := { controller with alive := life }

def clearError : VMEController := { controller with errorCount := 0, errorType := 0 }

def ethWrite : Packet := load controller.wbuf 0 controller.nwbuf

/-- `vcc_write_command(0xF9)`. -/
def reset : VMEController :=
  { controller with wbuf := store controller.wbuf 0 [0x00, 0xf9], nwbuf := 2 }

/-- `read` copies a packet to `rbuf`. -/
def take (bytes : Packet) : VMEController :=
  { controller with rbuf := store controller.rbuf 0 bytes }

def unexpected : Bool :=
  load controller.rbuf 0 6 == broadcastAddr ||
    load controller.rbuf 6 6 != controller.hwDestAddr && controller.hwDestAddr != broadcastAddr

def returnType : UInt8 := controller.rbuf 15

def rNum : Nat := 0x100 * (controller.rbuf 20).toNat + (controller.rbuf 21).toNat

def swapped (count : Nat) : List UInt8 :=
  (List.range count).flatMap fun i =>
    [controller.rbuf (22 + 2 * i + 1), controller.rbuf (22 + 2 * i)]

def noData : VMEController :=
  { controller.setLife false with errorCount := controller.errorCount + 1 }

def discard : VMEController :=
  if controller.returnType = 0xff ∨ controller.returnType = 0xfe ∨ controller.returnType = 0xfd then
    { controller with
      errorType := (controller.rbuf 22 &&& 0x3).toNat * 256 + (controller.rbuf 23).toNat
      errorCount :=
        controller.errorCount + if (controller.rbuf 22 &&& 0x0c) >>> 2 = 2 then 1 else 0 }
  else controller

def error306 : Bool :=
  controller.returnType == 0xff && (controller.rbuf 22 &&& 0x0c) >>> 2 == 2 &&
    controller.errorType == 306

end VMEController

structure Reading where
  controller : VMEController
  sent : List Packet
  /-- `r_num` of the packet with the data. -/
  count : Option Nat

def VMEController.readEth (controller : VMEController) (loopcnt : Nat) (vccError306 : Nat) :
    List Arrival → Reading
  | [] => ⟨controller.noData, [], none⟩
  | none :: _ => ⟨controller.noData, [], none⟩
  | some bytes :: rest =>
    let controller := controller.take bytes
    if bytes.length < 7 ∧ controller.rbuf 0 = 0x04 ∧ loopcnt < 2 then
      controller.readEth (loopcnt + 1) vccError306 rest
    else if bytes.length < 10 then ⟨controller.noData, [], none⟩
    else if controller.unexpected then controller.readEth 0 vccError306 rest
    else if controller.returnType = 5 then
      ⟨controller.setLife true, [], some controller.rNum⟩
    else
      let controller := (controller.setLife true).discard
      if controller.error306 then
        -- only the first one reloads the controller
        if vccError306 = 0 then
          let reading := controller.reset.readEth 0 1 rest
          { reading with sent := controller.reset.ethWrite :: reading.sent }
        else controller.readEth 0 (vccError306 + 1) rest
      else controller.readEth 0 vccError306 rest

def byteOf (value index : Nat) : UInt8 := UInt8.ofNat (value >>> (8 * index))

namespace Call

variable (call : Call)

def refused : Option Int :=
  if call.irdwr = .flush then some 0
  else if call.irdwr = .loopBack then some 0
  else if call.irdwr = .delay ∧ call.data0 = 0 ∧ call.data1 = 0 then some 0
  else if (call.irdwr = .bufread ∨ call.irdwr = .bufreadSnd) ∧ 0xc00000 ≤ call.ptr.toNat then some 0
  else if call.irdwr ≠ .delay ∧ call.ptr.toNat < 0x80000 then some (-10)
  else none

def reads : Bool := call.irdwr == .bufread || call.irdwr == .bufreadSnd

def tail : List UInt8 :=
  [0x00, byteOf call.ptr.toNat 2, byteOf call.ptr.toNat 1, byteOf call.ptr.toNat 0,
    byteOf call.data0.toNat 1, byteOf call.data0.toNat 0]

def stored : List UInt8 :=
  match call.irdwr with
  | .bufread | .bufreadSnd => [0x00, aMask ||| rMask ||| tsMask ||| ttMask] ++ call.tail
  | .bufwrite | .bufwriteSnd => [0x00, aMask ||| wMask ||| tsMask ||| ttMask] ++ call.tail
  | .delay =>
    if call.data1 = 0 then [2, 0x00, byteOf call.data0.toNat 1, byteOf call.data0.toNat 0]
    else
      [5, 0x00, byteOf call.data1.toNat 1, byteOf call.data1.toNat 0,
        byteOf call.data0.toNat 1, byteOf call.data0.toNat 0]
  | .flush | .loopBack => [0x00]

/-- `nwbuf` moves on by so much. -/
def counted : Nat :=
  match call.irdwr with
  | .bufread | .bufreadSnd => 6
  | .bufwrite | .bufwriteSnd => 8
  | .delay => if call.data1 = 0 then 4 else 6
  | .flush | .loopBack => 0

def sends : Bool :=
  call.irdwr == .bufreadSnd || call.irdwr == .bufwriteSnd ||
    call.irdwr == .delay && call.data1 != 0

end Call

namespace State

variable (state : State)

def start : State :=
  if state.statics.istrt then state
  else
    ⟨{ state.statics with nvme := 0, istrt := true }, { state.controller with nwbuf := 4 }⟩

def fill (call : Call) : State :=
  let wbuf := store state.controller.wbuf 0 [0x00, vmeCmds]
  ⟨{ state.statics with
      nvme := state.statics.nvme + 1
      nread := state.statics.nread + if call.reads then tsSize else 0 },
    { state.controller with
      wbuf := store wbuf state.controller.nwbuf call.stored
      nwbuf := state.controller.nwbuf + call.counted }⟩

def header : VMEController :=
  { state.controller with
    wbuf := store state.controller.wbuf 2
      [byteOf state.statics.nvme 1, byteOf state.statics.nvme 0] }

def ethWrite : State :=
  ⟨{ state.statics with nvme := 0, istrt := false }, { state.header with nwbuf := 4 }⟩

def copied (forced : Bool) (rcv : Option (Nat → UInt8)) : Option (Nat → UInt8) :=
  if forced then rcv
  else rcv.map fun memory =>
    store memory 0 (load state.controller.spebuff 0 state.statics.lrgReadPnt)

def copiedWords (forced : Bool) : Nat := if forced then 0 else state.statics.lrgReadPnt / 2

def finish (forced : Bool) : State :=
  { state with statics := { state.statics with
      lrgReadPnt := if forced then state.statics.lrgReadPnt else 0 } }

def readBack (forced : Bool) (rcv : Option (Nat → UInt8)) (arriving : List Arrival) : Outcome :=
  let reading := state.controller.clearError.readEth 0 0 arriving
  let controller := reading.controller
  let statics := { state.statics with nread := 0 }
  match reading.count with
  | none =>
    ⟨⟨statics, controller⟩, reading.sent, -100, state.copied forced rcv⟩
  | some rNum =>
    let data := controller.swapped rNum
    if forced then
      ⟨⟨{ statics with lrgReadPnt := statics.lrgReadPnt + 2 * rNum },
        { controller with spebuff := store controller.spebuff statics.lrgReadPnt data }⟩,
        reading.sent, 0, rcv⟩
    else
      ⟨(State.mk statics controller).finish false, reading.sent,
        state.copiedWords false + rNum,
        (state.copied false rcv).map fun memory => store memory statics.lrgReadPnt data⟩

def send (forced : Bool) (rcv : Option (Nat → UInt8)) (arriving : Packet → List Arrival) :
    Outcome :=
  let packet := state.header.ethWrite
  let state := state.ethWrite
  let outcome :=
    if 0 < state.statics.nread then state.readBack forced rcv (arriving packet)
    else ⟨state.finish forced, [], state.copiedWords forced, state.copied forced rcv⟩
  { outcome with sent := packet :: outcome.sent }

def vmeController (call : Call) (arriving : Packet → List Arrival) : Outcome :=
  match call.refused with
  | some value => ⟨state.start, [], value, call.rcv⟩
  | none =>
    let state := state.start.fill call
    if call.sends then state.send false call.rcv arriving
    else if maxData < state.controller.nwbuf then state.send true call.rcv arriving
    else ⟨state, [], 0, call.rcv⟩

end State

end EmuLib.VmeController
