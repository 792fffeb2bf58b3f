import EmuLib.Lib.TapController
import EmuLib.VmeController.DirectCommands

/-!
JTAG by single writes of the mode select, clock and data lines of a VME register.
-/

namespace EmuLib.VmeController

open TapController

structure Port where
  tck : Nat
  tms : Nat
  tdi : Nat
  tdo : Nat
  pvme : UInt16
  inside : tck < 16 ∧ tms < 16 ∧ tdi < 16 ∧ tdo < 8
  distinct : tck ≠ tms ∧ tck ≠ tdi ∧ tms ≠ tdi
  low : pvme.toNat.testBit tck = false ∧ pvme.toNat.testBit tms = false ∧
    pvme.toNat.testBit tdi = false

structure BitReader where
  bit : Nat
  k : Nat
  bdata : UInt8

namespace BitReader

variable (data : Nat → UInt8) (reader : BitReader)

def start : BitReader := ⟨0, 0, data 0⟩

def ival : UInt8 := reader.bdata &&& 0x01

def next : BitReader :=
  if reader.bit + 1 = 8 then ⟨0, reader.k + 1, data (reader.k + 1)⟩
  else ⟨reader.bit + 1, reader.k, reader.bdata >>> 1⟩

end BitReader

namespace Port

variable (port : Port) (ptr : UInt32)

def TCK : UInt16 := UInt16.ofNat (1 <<< port.tck)
def TMS : UInt16 := UInt16.ofNat (1 <<< port.tms)

def readCall : Call := ⟨.bufread, ptr, 0, 0, none⟩

def triple (d : UInt16) (irdwr : Irdwr) (rcv : Option (Nat → UInt8)) : List Call :=
  (List.range 3).map fun j =>
    ⟨if j = 2 then irdwr else .bufwrite, ptr, if j = 1 then d ||| port.TCK else d, 0, rcv⟩

def lineWord (tms : Bool) : UInt16 := if tms then port.pvme ||| port.TMS else port.pvme

def bitWord (ival : UInt8) (tms : Bool) : UInt16 :=
  let d := port.pvme ||| UInt16.ofNat (ival.toNat <<< port.tdi)
  if tms then d ||| port.TMS else d

def mytmp : Nat → UInt8 := fun _ => 0

/-- The loop over the bits: where the mode select line is raised, how the last of the three writes is
sent, and what follows the bit. -/
def shiftLoop (data : Nat → UInt8) (ird : Bool) (raised : Nat → Bool) (irdwr : Nat → Irdwr)
    (behind : Nat → List Call) : Nat → Nat → BitReader → List Call
  | 0, _, _ => []
  | remaining + 1, i, reader =>
    (if ird then [readCall ptr] else []) ++
      port.triple ptr (port.bitWord reader.ival (raised i)) (irdwr i) (some mytmp) ++ behind i ++
      shiftLoop data ird raised irdwr behind remaining (i + 1) (reader.next data)

def enterCalls (reg : Nat) : List Call :=
  (List.range' reg (4 - reg)).flatMap fun i =>
    port.triple ptr (port.lineWord (i < 2)) .bufwrite none

def idleCalls : List Call :=
  (List.range 2).flatMap fun i =>
    port.triple ptr (port.lineWord (i = 0)) (if i = 1 then .bufwriteSnd else .bufwrite) (some mytmp)

def scanJtagCalls (reg : Nat) (snd : Nat → UInt8) (cnt : Nat) (ird : Bool) : List Call :=
  if 1 < reg then []
  else
    port.enterCalls ptr reg ++
      port.shiftLoop ptr snd ird (fun i => i = cnt - 1) (fun _ => .bufwrite) (fun _ => []) cnt 0
        (.start snd) ++
      port.idleCalls ptr

def shiftBitsCalls (reg : Nat) (snd : Nat → UInt8) (cnt : Nat) (ird : Bool) : List Call :=
  if 1 < reg then []
  else
    port.shiftLoop ptr snd ird (fun i => reg = 1 ∧ i = cnt - 1)
      (fun i => if i = cnt - 1 then .bufwriteSnd else .bufwrite) (fun _ => []) cnt 0 (.start snd)

def extraCalls : List Call :=
  (List.range 5).flatMap fun m =>
    port.triple ptr (port.lineWord (m = 0 ∨ m = 2)) .bufwrite none

def scanWordCalls (reg : Nat) (snd : Nat → UInt8) (cnt : Nat) (ird : Bool) : List Call :=
  if 1 < reg then []
  else
    port.enterCalls ptr reg ++
      port.shiftLoop ptr snd ird (fun i => i = cnt - 1 ∨ i % 32 = 31) (fun _ => .bufwrite)
        (fun i => if i % 32 = 31 ∧ i < cnt - 1 then port.extraCalls ptr else []) cnt 0
        (.start snd) ++
      port.idleCalls ptr

def restoreIdleCalls : List Call :=
  ((List.range 5).flatMap fun _ => port.triple ptr (port.lineWord true) .bufwrite none) ++
    port.triple ptr (port.lineWord false) .bufwriteSnd none

def restoreResetCalls : List Call :=
  (List.range 5).flatMap fun k =>
    port.triple ptr (port.lineWord true) (if k = 4 then .bufwriteSnd else .bufwrite) none

def cycleIdleCalls (cycles : Nat) : List Call :=
  (List.range' 1 cycles).flatMap fun i =>
    port.triple ptr (port.lineWord false) (if i = cycles then .bufwriteSnd else .bufwrite) none

structure Combining where
  bit : Nat
  bdata : UInt8
  rcv : List UInt8

def combineBit (mytmp : Nat → UInt8) (cnt : Nat) (combining : Combining) (i : Nat) : Combining :=
  let bdata :=
    if i < cnt then
      combining.bdata ||| ((mytmp (2 * i + 1) &&& UInt8.ofNat (1 <<< port.tdo)) <<<
        UInt8.ofNat (7 - port.tdo))
    else combining.bdata
  if combining.bit = 7 then ⟨0, 0, combining.rcv ++ [bdata]⟩
  else ⟨combining.bit + 1, bdata >>> 1, combining.rcv⟩

def combine (mytmp : Nat → UInt8) (cnt : Nat) : List UInt8 :=
  ((List.range (8 * ((cnt + 7) / 8))).foldl (port.combineBit mytmp cnt) ⟨0, 0, []⟩).rcv

end Port

variable (port : Port) (ptr : UInt32) (loaded : Device → Register → List Bool)

def Port.wire (crate : Crate Device) : Crate Device :=
  { crate with
    execute := fun device command =>
      match command with
      | .write address data =>
        if address = ptr.toNat then
          device.drive loaded (data.toNat.testBit port.tck) (data.toNat.testBit port.tms)
            (data.toNat.testBit port.tdi)
        else device
      | _ => device }

def Port.tdoOf (word : UInt16) : Bool := (word.toNat >>> 8).testBit port.tdo

def System.scan (crate : Crate Device) (system : System Device) (calls : List Call) (cnt : Nat)
    (ird : Bool) : System Device × Option (List UInt8) :=
  let after := GuardedRun.runFrom (System.step crate) system calls
  let tmp := ((after.results.getLast?.bind Prod.snd).getD Port.mytmp)
  (after, if ird then some (port.combine tmp cnt) else none)

end EmuLib.VmeController
