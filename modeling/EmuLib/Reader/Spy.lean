import EmuLib.Driver.EthHook

/-!
The reader of the big buffer.  It maps the buffer that the driver's hook fills and
follows the hook with pointers of its own.  `readDDU` polls the tail word in a loop;
one turn of that loop is one step here, so that packets may arrive between any two.
-/

namespace EmuLib.Reader

open RingCursor Driver

structure Status where
  endOfEventMissing : Bool
  timeout : Bool
  packetsMissing : Bool
  loopOverwrite : Bool
  bufferOverwrite : Bool
  oversized : Bool
  deriving DecidableEq

namespace Status

/-- `EndOfEventMissing` will be unset when the end of the event is found. -/
def initial : Status := ⟨true, false, false, false, false, false⟩

def clear : Status := ⟨false, false, false, false, false, false⟩

def word (status : Status) : Nat :=
  status.endOfEventMissing.toNat ||| status.timeout.toNat <<< 1 |||
    status.packetsMissing.toNat <<< 2 ||| status.loopOverwrite.toNat <<< 3 |||
    status.bufferOverwrite.toNat <<< 4 ||| status.oversized.toNat <<< 5

end Status

structure PacketNote where
  length : Nat
  endsEvent : Bool
  missing : Bool
  loopedBack : Bool
  deriving DecidableEq

structure Call where
  status : Status
  len : Nat
  packets : Nat
  iloop : Nat
  deriving DecidableEq

def Call.fresh : Call := ⟨Status.initial, 0, 0, 0⟩

structure Spy where
  bufPnt : Nat
  ringPnt : Nat
  ringLoop : Nat
  bufData : Nat
  insideEventWithMissingPackets : Bool
  call : Option Call

def Spy.opened : Spy := ⟨0, 0, 0, 0, false, none⟩

def Spy.cursor (spy : Spy) : Cursor := ⟨spy.bufPnt, spy.ringPnt, spy.ringLoop⟩

structure Result where
  len : Nat
  buf : Nat
  theErrorFlag : Nat
  theDataLength : Nat
  status : Status
  block : List UInt8

def isFiller (data : Nat → Nat) (iShort : Nat) : Bool :=
  (data iShort &&& 0xff00) == 0xff00 && data (iShort + 1) == 0xffff &&
    data (iShort + 2) == 0xffff && data (iShort + 3) == 0xffff

/-- The backward search of `dataLengthWithoutPadding`, over the first `limit` half words. -/
def withoutFiller (data : Nat → Nat) : Nat → Nat
  | iShort + 4 => if isFiller data iShort then withoutFiller data iShort else 2 * (iShort + 4)
  | _ => 0

def dataLengthWithoutPadding (data : Nat → Nat) (dataLength : Nat) : Nat :=
  if dataLength = 0 then 0 else withoutFiller data (dataLength / 2)

def halfWords (bytes : Nat → UInt8) (start : Nat) : Nat → Nat :=
  fun index => (bytes (start + 2 * index)).toNat + 256 * (bytes (start + 2 * index + 1)).toNat

def blockAt (data : Nat → UInt8) (start length : Nat) : List UInt8 :=
  (List.range length).map fun offset => data (start + offset)

structure Turn where
  spy : Spy
  call : Call
  took : Option PacketNote
  returns : Bool

def resynchronize (spy : Spy) (call : Call) (ringLoopKern2 : Nat) (status : Status) : Turn where
  spy := { spy with
    bufPnt := 0
    ringPnt := 0
    ringLoop := ringLoopKern2
    insideEventWithMissingPackets := false }
  call := { call with status := status, len := 0, iloop := 0 }
  took := none
  returns := true

def takePacket (spy : Spy) (call : Call) (entry : RingEntry) : Turn :=
  let pmissing := entry.info &&& 0x8000
  let endEvent := entry.info &&& 0x4000
  let len := call.len + entry.length
  let bufPnt := spy.bufPnt + entry.length
  let ringPnt := spy.ringPnt + 1
  let loopsBack : Bool := (endEvent = 0x4000 ∧ bufPnt > bufEend2) ∨ bufPnt > bufEnd2 ∨
    ringPnt ≥ ringSize2
  let inside := spy.insideEventWithMissingPackets || decide (pmissing ≠ 0)
  { spy := { spy with
      bufPnt := if loopsBack then 0 else bufPnt
      ringPnt := if loopsBack then 0 else ringPnt
      ringLoop := if loopsBack then (spy.ringLoop + 1) % 65536 else spy.ringLoop
      bufData := if call.packets = 0 then spy.bufPnt else spy.bufData
      insideEventWithMissingPackets := inside && decide (endEvent ≠ 0x4000) }
    call :=
      { status := { call.status with
          endOfEventMissing := call.status.endOfEventMissing && decide (endEvent ≠ 0x4000)
          packetsMissing := call.status.packetsMissing || decide (pmissing ≠ 0)
          oversized := call.status.oversized || decide (len > maxEvent2) }
        len := if inside then 0 else len
        packets := (call.packets + 1) % 65536
        iloop := 0 }
    took := some ⟨entry.length, decide (endEvent = 0x4000), decide (pmissing ≠ 0), loopsBack⟩
    returns := decide (endEvent = 0x4000) }

def readDDUTurn (shared : Shared) (spy : Spy) (call : Call) : Turn :=
  if call.iloop > 20000 then
    ⟨spy, { call with status := { call.status with timeout := true } }, none, true⟩
  else if spy.bufPnt = shared.tail then
    ⟨spy, { call with iloop := call.iloop + 1 }, none, false⟩
  else
    let entry := shared.ring spy.ringPnt
    let ringLoopKern := entry.info &&& 0x3fff
    let ringLoopKern2 := (shared.ring 0).info &&& 0x3fff
    if (ringLoopKern2 = spy.ringLoop + 1 ∧ spy.bufPnt ≤ shared.tail) ∨
        ringLoopKern2 > spy.ringLoop + 1 then
      resynchronize spy call ringLoopKern2 { call.status with bufferOverwrite := true }
    else if ringLoopKern ≠ spy.ringLoop then
      resynchronize spy call ringLoopKern2 { call.status with loopOverwrite := true }
    else
      takePacket spy call entry

def result (shared : Shared) (spy : Spy) (call : Call) : Result where
  len := call.len
  buf := spy.bufData
  theErrorFlag := call.status.word ||| (min call.packets 15) <<< 8
  theDataLength := dataLengthWithoutPadding (halfWords shared.data spy.bufData) call.len
  status := call.status
  block := blockAt shared.data spy.bufData call.len

def turn (shared : Shared) (spy : Spy) : Turn :=
  readDDUTurn shared spy (spy.call.getD Call.fresh)

def Turn.spyAfter (taken : Turn) : Spy :=
  { taken.spy with call := if taken.returns then none else some taken.call }

variable (shared : Shared) (spy : Spy) (call : Call)

lemma readDDUTurn_timeout (late : call.iloop > 20000) :
    readDDUTurn shared spy call =
      ⟨spy, { call with status := { call.status with timeout := true } }, none, true⟩ := by
  rw [readDDUTurn, if_pos late]

lemma readDDUTurn_idle (waits : call.iloop ≤ 20000) (nothing : spy.bufPnt = shared.tail) :
    readDDUTurn shared spy call = ⟨spy, { call with iloop := call.iloop + 1 }, none, false⟩ := by
  rw [readDDUTurn, if_neg (Nat.not_lt.mpr waits), if_pos nothing]

lemma readDDUTurn_take (waits : call.iloop ≤ 20000) (news : spy.bufPnt ≠ shared.tail)
    (notLapped : (shared.ring 0).info &&& 0x3fff = spy.ringLoop ∨
      ((shared.ring 0).info &&& 0x3fff = spy.ringLoop + 1 ∧ shared.tail < spy.bufPnt))
    (sameLoop : (shared.ring spy.ringPnt).info &&& 0x3fff = spy.ringLoop) :
    readDDUTurn shared spy call = takePacket spy call (shared.ring spy.ringPnt) := by
  have noOverwrite : ¬ (((shared.ring 0).info &&& 0x3fff = spy.ringLoop + 1 ∧
      spy.bufPnt ≤ shared.tail) ∨ (shared.ring 0).info &&& 0x3fff > spy.ringLoop + 1) := by
    omega
  rw [readDDUTurn, if_neg (Nat.not_lt.mpr waits), if_neg news]
  simp only [noOverwrite, sameLoop, if_false, ne_eq, not_true]

lemma readDDUTurn_loopOverwrite (waits : call.iloop ≤ 20000) (news : spy.bufPnt ≠ shared.tail)
    (notAhead : (shared.ring 0).info &&& 0x3fff ≤ spy.ringLoop)
    (otherLoop : (shared.ring spy.ringPnt).info &&& 0x3fff ≠ spy.ringLoop) :
    readDDUTurn shared spy call =
      resynchronize spy call ((shared.ring 0).info &&& 0x3fff)
        { call.status with loopOverwrite := true } := by
  have noOverwrite : ¬ (((shared.ring 0).info &&& 0x3fff = spy.ringLoop + 1 ∧
      spy.bufPnt ≤ shared.tail) ∨ (shared.ring 0).info &&& 0x3fff > spy.ringLoop + 1) := by
    omega
  rw [readDDUTurn, if_neg (Nat.not_lt.mpr waits), if_neg news]
  simp only [noOverwrite, otherLoop, if_false, ne_eq, not_false_eq_true, if_true]

end EmuLib.Reader
