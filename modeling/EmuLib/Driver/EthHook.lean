import EmuLib.Lib.GuardedRun
import EmuLib.Lib.RingCursor

/-!
The Ethernet hook of the driver: it copies every packet into the data area of the
big buffer, describes it in an entry of the packet info ring and tells the reader
in the tail word how far it has come.
-/

namespace EmuLib.Driver

open GuardedRun RingCursor

def pageSize : Nat := 4096
def bigphysPages2 : Nat := 5000
def ringPages2 : Nat := 1000
def ringEntryLength : Nat := 8
def maxPacket2 : Nat := 9100
def maxEvent2 : Nat := 180000
def tailMem : Nat := 100
def tailPos : Nat := 80
def skbExtra : Nat := 8

def dataAreaSize : Nat := (bigphysPages2 - ringPages2) * pageSize
def bufEnd2 : Nat := (bigphysPages2 - ringPages2) * pageSize - maxPacket2
def bufEend2 : Nat := (bigphysPages2 - ringPages2) * pageSize - tailPos - maxEvent2
def ringSize2 : Nat := (ringPages2 * pageSize - ringEntryLength - tailMem) / ringEntryLength

def layout2 : Layout := ⟨bufEnd2, bufEend2, ringSize2⟩

/-- A socket buffer: `byte` is the memory around the frame, counted from
`skb->data + SKB_OFFSET`, where the frame starts. -/
structure SkBuff where
  len : Nat
  byte : Int → UInt8

namespace SkBuff

def length (skb : SkBuff) : Nat := skb.len + skbExtra

def frame (skb : SkBuff) : List UInt8 :=
  (List.range skb.length).map fun offset : Nat => skb.byte offset

def halfWord (skb : SkBuff) (offset : Int) : Nat :=
  (skb.byte offset).toNat + 256 * (skb.byte (offset + 1)).toNat

def packetCount (skb : SkBuff) : Nat := skb.halfWord (skb.len + 8)

/-- The half word at a distance from `end_of_packet`, which may lie behind it. -/
def fromEnd (skb : SkBuff) (offset : Int) : Nat := skb.halfWord (skb.length + offset)

def hasDDUTrailer (skb : SkBuff) : Bool :=
  skb.fromEnd (-24) == 0x8000 && skb.fromEnd (-22) == 0x8000 &&
    skb.fromEnd (-20) == 0xffff && skb.fromEnd (-18) == 0x8000

def hasDCCTrailer (skb : SkBuff) : Bool :=
  (skb.fromEnd (-10) &&& 0xff00) == 0xef00 && (skb.fromEnd (-2) &&& 0xff00) == 0xaf00

def hasDMBTrailer (skb : SkBuff) : Bool :=
  (skb.fromEnd 8 &&& 0xf000) == 0xf000 && (skb.fromEnd 10 &&& 0xf000) == 0xe000

def endsEvent (skb : SkBuff) : Bool :=
  skb.length == 64 || skb.hasDDUTrailer || skb.hasDCCTrailer || skb.hasDMBTrailer

@[simp] lemma frame_length (skb : SkBuff) : skb.frame.length = skb.length := by
  simp [frame]

lemma frame_getElem (skb : SkBuff) (offset : Nat) (inside) :
    skb.frame[offset] = skb.byte offset := by
  simp [frame]

end SkBuff

structure RingEntry where
  info : Nat
  length : Nat
  deriving DecidableEq

/-- The part of the big buffer that the reader maps: data area, packet info ring and
tail word. -/
structure Shared where
  data : Nat → UInt8
  ring : Nat → RingEntry
  tail : Nat

structure EthHook where
  shared : Shared
  bufPnt2 : Nat
  ringPnt2 : Nat
  ringLoop2 : Nat
  procLastPmissing2 : Nat
  flagPmissing2 : Bool
  flagEevent2 : Bool

def scharReset2 (flagPmissing2 flagEevent2 : Bool) : EthHook where
  shared := ⟨fun _ => 0, fun _ => ⟨0, 0⟩, 0⟩
  bufPnt2 := 0
  ringPnt2 := 0
  ringLoop2 := 0
  procLastPmissing2 := 0
  flagPmissing2 := flagPmissing2
  flagEevent2 := flagEevent2

def initModule2 : EthHook := scharReset2 true true

def missingMask (hook : EthHook) (skb : SkBuff) : Nat :=
  if hook.flagPmissing2 then
    if hook.procLastPmissing2 + 1 ≠ skb.packetCount then
      if hook.ringPnt2 ≠ 0 ∨ hook.ringLoop2 ≠ 0 then
        if hook.procLastPmissing2 = 0xffff then
          if skb.packetCount ≠ 0 then 0x8000 else 0
        else 0x8000
      else 0
    else 0
  else 0

def eeventMask (flagEevent2 : Bool) (skb : SkBuff) : Nat :=
  if flagEevent2 && skb.endsEvent then 0x4000 else 0

def copyPacket (data : Nat → UInt8) (bufPnt2 : Nat) (skb : SkBuff) : Nat → UInt8 :=
  fun address =>
    if bufPnt2 ≤ address ∧ address < bufPnt2 + 8 * (skb.length / 8) then
      skb.byte (address - bufPnt2 : Nat)
    else data address

def ringEntry (hook : EthHook) (skb : SkBuff) : RingEntry :=
  ⟨hook.ringLoop2 ||| (missingMask hook skb ||| eeventMask hook.flagEevent2 skb),
    skb.length % 65536⟩

def netifRxHook2 (hook : EthHook) (skb : SkBuff) : EthHook :=
  let moved := { hook with
    shared.data := copyPacket hook.shared.data hook.bufPnt2 skb
    shared.ring := Function.update hook.shared.ring hook.ringPnt2 (ringEntry hook skb)
    procLastPmissing2 :=
      if hook.flagPmissing2 then skb.packetCount else hook.procLastPmissing2
    ringPnt2 := hook.ringPnt2 + 1
    bufPnt2 := hook.bufPnt2 + skb.length }
  let placed :=
    if (eeventMask hook.flagEevent2 skb = 0x4000 ∧ moved.bufPnt2 > bufEend2) ∨
        moved.bufPnt2 > bufEnd2 ∨ moved.ringPnt2 ≥ ringSize2 then
      { moved with
        ringPnt2 := 0
        ringLoop2 := (moved.ringLoop2 + 1) % 65536
        bufPnt2 := 0 }
    else moved
  { placed with shared.tail := placed.bufPnt2 }

def cursor (hook : EthHook) : Cursor := ⟨hook.bufPnt2, hook.ringPnt2, hook.ringLoop2⟩

def record (hook : EthHook) (skb : SkBuff) : Record :=
  ⟨skb.length, hook.flagEevent2 && skb.endsEvent⟩

def loopsBack (hook : EthHook) (skb : SkBuff) : Bool :=
  layout2.loopsBack (record hook skb).endsEvent (hook.bufPnt2 + skb.length) (hook.ringPnt2 + 1)

lemma eeventMask_eq (flagEevent2 skb) :
    eeventMask flagEevent2 skb = 0x4000 ↔ (flagEevent2 && skb.endsEvent) = true := by
  unfold eeventMask
  split <;> simp_all

lemma loopsBack_iff (hook skb) :
    loopsBack hook skb = true ↔
      ((hook.flagEevent2 && skb.endsEvent) = true ∧ hook.bufPnt2 + skb.length > bufEend2) ∨
        hook.bufPnt2 + skb.length > bufEnd2 ∨ hook.ringPnt2 + 1 ≥ ringSize2 :=
  RingCursor.loopsBack_iff _ _ _ _

lemma netifRxHook2_cases (hook skb) :
    netifRxHook2 hook skb =
      { hook with
        shared.data := copyPacket hook.shared.data hook.bufPnt2 skb
        shared.ring := Function.update hook.shared.ring hook.ringPnt2 (ringEntry hook skb)
        shared.tail := if loopsBack hook skb then 0 else hook.bufPnt2 + skb.length
        procLastPmissing2 :=
          if hook.flagPmissing2 then skb.packetCount else hook.procLastPmissing2
        ringPnt2 := if loopsBack hook skb then 0 else hook.ringPnt2 + 1
        ringLoop2 :=
          if loopsBack hook skb then (hook.ringLoop2 + 1) % 65536 else hook.ringLoop2
        bufPnt2 := if loopsBack hook skb then 0 else hook.bufPnt2 + skb.length } := by
  simp only [netifRxHook2, loopsBack_iff, eeventMask_eq]
  split <;> rfl

@[simp] lemma netifRxHook2_flagEevent2 (hook skb) :
    (netifRxHook2 hook skb).flagEevent2 = hook.flagEevent2 := by
  rw [netifRxHook2_cases]

@[simp] lemma netifRxHook2_data (hook skb) :
    (netifRxHook2 hook skb).shared.data = copyPacket hook.shared.data hook.bufPnt2 skb := by
  rw [netifRxHook2_cases]

@[simp] lemma netifRxHook2_ring (hook skb) :
    (netifRxHook2 hook skb).shared.ring =
      Function.update hook.shared.ring hook.ringPnt2 (ringEntry hook skb) := by
  rw [netifRxHook2_cases]

@[simp] lemma netifRxHook2_tail (hook skb) :
    (netifRxHook2 hook skb).shared.tail = (netifRxHook2 hook skb).bufPnt2 := by
  rw [netifRxHook2_cases]

lemma netifRxHook2_bufPnt2 (hook skb) :
    (netifRxHook2 hook skb).bufPnt2 =
      if loopsBack hook skb then 0 else hook.bufPnt2 + skb.length := by
  rw [netifRxHook2_cases]

lemma netifRxHook2_ringPnt2 (hook skb) :
    (netifRxHook2 hook skb).ringPnt2 =
      if loopsBack hook skb then 0 else hook.ringPnt2 + 1 := by
  rw [netifRxHook2_cases]

/-- The hook follows the ring buffer's rule as long as its loop count stays a 16-bit number. -/
lemma netifRxHook2_cursor (hook skb) (counts : hook.ringLoop2 + 1 < 65536) :
    cursor (netifRxHook2 hook skb) = advance layout2 (cursor hook) (record hook skb) := by
  have loop : (hook.ringLoop2 + 1) % 65536 = hook.ringLoop2 + 1 := Nat.mod_eq_of_lt counts
  have rule : layout2.loopsBack (record hook skb).endsEvent
      ((cursor hook).buf + (record hook skb).length) ((cursor hook).ring + 1) =
        loopsBack hook skb := rfl
  rw [netifRxHook2_cases, advance, rule]
  by_cases loops : loopsBack hook skb = true <;> simp [cursor, record, loops, loop]

end EmuLib.Driver
