import Mathlib.Data.List.Basic

/-!
The driver for the replies of the VME controllers: packets are packed into one buffer, each behind
its length, until they are read.
-/

namespace EmuLib.VmeDriver

def mmtBufSize : Nat := 131072

structure Skb where
  frame : List UInt8
  behind : Nat → UInt8
  headed : 14 ≤ frame.length

def Skb.len (skb : Skb) : Nat := skb.frame.length - 14

/-- From `skb->data - 14` on. -/
def Skb.byte (skb : Skb) (offset : Nat) : UInt8 :=
  if offset < skb.frame.length then skb.frame.getD offset 0
  else skb.behind (offset - skb.frame.length)

structure Driver where
  ring : Nat → UInt8
  packLeft : Nat
  bufw : Nat
  nbufw : Nat
  bufr : Nat
  error : Bool
  endcond : Bool
  wakecond : Bool
  wakestatus : Nat

structure Access where
  place : Nat
  size : Nat

def Access.Inside (access : Access) : Prop := access.place + access.size ≤ mmtBufSize

def initModule2 (kmalloc : Nat → UInt8) : Driver where
  ring := kmalloc
  packLeft := 0
  bufw := 0
  nbufw := 0
  bufr := 0
  error := false
  endcond := false
  wakecond := false
  wakestatus := 0

section

def storeBytes (ring : Nat → UInt8) (place size : Nat) (value : Nat → UInt8) : Nat → UInt8 :=
  fun address =>
    if place ≤ address ∧ address < place + size then value (address - place) else ring address

def intByte (value index : Nat) : UInt8 := UInt8.ofNat (value >>> (8 * index) % 0x100)

-- the size of an `unsigned long int`
variable (longSize : Nat)

def copyWords (skb : Skb) (bufw : Nat) (ring : Nat → UInt8) : Nat → Nat → UInt8
  | 0 => ring
  | icnt + 1 =>
    storeBytes (copyWords skb bufw ring icnt) (bufw + icnt * 4) longSize fun index =>
      skb.byte (icnt * 4 + index)

def Driver.wake (driver : Driver) : Driver :=
  if driver.wakecond = false ∧ 0 < driver.packLeft then
    { driver with wakecond := true, wakestatus := 2 }
  else driver

def Driver.rewind (driver : Driver) : Driver :=
  { driver with packLeft := 0, bufw := 0, nbufw := 0, bufr := 0 }

def Driver.netifRxHook (driver : Driver) (skb : Skb) : Driver × List Access :=
  if mmtBufSize < driver.nbufw + skb.len + 16 then ({ driver with error := true }, [])
  else
    let place := driver.bufw
    let ring := storeBytes driver.ring place 4 (intByte (skb.len + 14))
    let bufw := place + 2
    let icnt := (skb.len + 16) >>> 2
    let driver := { driver with
      ring := copyWords longSize skb bufw ring icnt
      nbufw := driver.nbufw + skb.len + 16
      bufw := bufw + (skb.len + 14)
      packLeft := driver.packLeft + 1 }
    let driver :=
      if mmtBufSize < driver.nbufw + 9000 then { driver.rewind with error := true } else driver
    (driver.wake, ⟨place, 4⟩ :: (List.range icnt).map fun i => ⟨bufw + i * 4, longSize⟩)

end

inductive Reply
  | interrupted
  | sent (bytes : List UInt8)
  | inquired (value : Nat)
deriving DecidableEq

def tbuf : List UInt8 := [4, 0, 0, 0, 0, 0]

def Driver.waitForPacket (driver : Driver) : Driver :=
  { driver with
    wakecond := if driver.packLeft = 0 ∧ driver.endcond = false then false else driver.wakecond
    wakestatus := 3 }

/-- With enough room behind `buf`. -/
def Driver.scharRead (driver : Driver) (signalPending : Bool) : Driver × Reply × List Access :=
  let driver := driver.waitForPacket
  if signalPending then (driver, .interrupted, [])
  else if 0 < driver.packLeft then
    let lsend := (driver.ring driver.bufr).toNat + 0x100 * (driver.ring (driver.bufr + 1)).toNat
    let bytes := (List.range lsend).map fun index => driver.ring (driver.bufr + 2 + index)
    let next :=
      if driver.packLeft - 1 = 0 then driver.rewind
      else { driver with bufr := driver.bufr + lsend + 2, packLeft := driver.packLeft - 1 }
    (next, .sent bytes, [⟨driver.bufr, 2⟩, ⟨driver.bufr + 2, lsend⟩])
  else (driver, .sent tbuf, [])

def Driver.scharReset (driver : Driver) : Driver := { driver.rewind with error := false }

def Driver.scharEnd (driver : Driver) : Driver :=
  if driver.wakecond = false then { driver with endcond := true, wakecond := true } else driver

def Driver.scharInqr (driver : Driver) : Nat :=
  (driver.packLeft &&& 0xffff) ||| driver.endcond.toNat <<< 16 ||| driver.wakecond.toNat <<< 20 |||
    driver.wakestatus <<< 24 ||| driver.error.toNat <<< 28

inductive Input
  | netifRxHook (skb : Skb)
  | scharRead (signalPending : Bool)
  | scharReset
  | scharEnd
  | scharInqr

structure State where
  driver : Driver
  replies : List Reply
  accesses : List Access

def State.step (longSize : Nat) (state : State) : Input → State
  | .netifRxHook skb =>
    let hooked := state.driver.netifRxHook longSize skb
    { state with driver := hooked.1, accesses := state.accesses ++ hooked.2 }
  | .scharRead signalPending =>
    let read := state.driver.scharRead signalPending
    ⟨read.1, state.replies ++ [read.2.1], state.accesses ++ read.2.2⟩
  | .scharReset => { state with driver := state.driver.scharReset }
  | .scharEnd => { state with driver := state.driver.scharEnd }
  | .scharInqr => { state with replies := state.replies ++ [.inquired state.driver.scharInqr] }

def State.start (kmalloc : Nat → UInt8) : State := ⟨initModule2 kmalloc, [], []⟩

end EmuLib.VmeDriver
