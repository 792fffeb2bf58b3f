import Mathlib.Algebra.Ring.Nat
import Mathlib.Data.Nat.Bits
import EmuLib.Lib.Buffer

/-!
The unpacker of the FAST DAQ: an event's blocks, the chamber blocks of the DDU block that it
takes one at each call, and the samples of the cathode front-end boards in them.
-/

namespace EmuLib.FastDaq

open Buffer (seek)

abbrev Short := BitVec 16

abbrev Words := Nat → Short

def Words.behind (buf : Words) (place : Nat) : Words := fun index => buf (place + index)

def NCFEB : Nat := 7
def NLAYER : Nat := 6
def NCFEB_STRIP : Nat := 16
def NSTRIP : Nat := NCFEB_STRIP * NCFEB
def NCFEB_CHAN : Nat := NCFEB_STRIP * NCFEB * NLAYER
def NLCT_HEAD : Nat := 8

/-- The selected crate and chamber, and the cable map of the front-end boards. -/
structure Setup where
  crate : Int
  chamber : Int
  cfebMap : Nat → Nat → Short

abbrev Samples := Nat → Nat → Nat → Nat

def Samples.none : Samples := fun _ _ _ => 0

def Samples.put (samples : Samples) (layer strip time value : Nat) : Samples :=
  fun ilayer istrip itime =>
    if ilayer = layer ∧ istrip = strip ∧ itime = time then value else samples ilayer istrip itime

/-- The fields of the event for the front-end boards; `compared` are the checksums that were
compared, read and computed, with their board and time sample. -/
structure CscEvent where
  nscaSample : Nat
  activeFebs : List Nat
  sca : Samples
  adcOutOfRange : Samples
  scaBlock : Samples
  scaTrigTime : Samples
  scaClockPhase : Nat
  compared : List (Nat × Nat × Short × Short)

def CscEvent.zero : CscEvent := ⟨0, [], .none, .none, .none, .none, 0, []⟩

/-- Divides the bits above the remainder away, from the highest of `count` on. -/
def divide : Nat → Nat → Nat
  | 0, remainder => remainder
  | i + 1, remainder =>
    divide i (if remainder.testBit (i + 15) then remainder ^^^ (32771 <<< i) else remainder)

def crcdivide (datastream : Words) : Short :=
  let remainder := (List.range 96).foldl (fun remainder j =>
    divide 13 ((remainder <<< 13) + ((datastream j).toNat &&& 8191))) 0
  BitVec.ofNat 16 (divide 15 (remainder <<< 15) &&& 32767)

/-- Where the unpacking of the samples stands. `temp` is the controller data that comes one bit a
word. -/
structure Unpacking where
  event : CscEvent
  temp : Samples
  ibuf : Nat

/-- A channel of the cable map, with layer and strip from one on. The behaviour is not defined
outside the arrays, nor where the bit is shifted by the width of the integer. -/
def channel (setup : Setup) (buf : Words) (ifeb itime : Nat) (unpacking : Unpacking)
    (iddu : Nat) : Option Unpacking :=
  let ilayer := ((setup.cfebMap ifeb iddu &&& 0xff00) >>> 8).toNat
  let istrip := (setup.cfebMap ifeb iddu &&& 0x00ff).toNat
  let tempStrip := iddu / 6
  let word := (buf unpacking.ibuf).toNat
  if 1 ≤ ilayer ∧ ilayer ≤ NLAYER ∧ 1 ≤ istrip ∧ istrip ≤ NSTRIP ∧ tempStrip < 32 then
    let serial := unpacking.temp (ilayer - 1) ifeb itime
    some {
      event := { unpacking.event with
        adcOutOfRange := unpacking.event.adcOutOfRange.put (ilayer - 1) (istrip - 1) itime
          ((word &&& 0x1000) >>> 12)
        sca := unpacking.event.sca.put (ilayer - 1) (istrip - 1) itime (word &&& 0xfff) }
      temp := unpacking.temp.put (ilayer - 1) ifeb itime
        (serial ||| (((word &&& 0x2000) >>> 13) <<< tempStrip) % 2 ^ 16)
      ibuf := unpacking.ibuf + 1 }
  else none

def timeSample (setup : Setup) (buf : Words) (ifeb : Nat) (unpacking : Unpacking) (itime : Nat) :
    Option Unpacking := do
  let taken ← (List.range NCFEB_CHAN).foldlM (channel setup buf ifeb itime) unpacking
  let checksum := buf taken.ibuf
  let crc15 := crcdivide (buf.behind (taken.ibuf + 2 - NCFEB_CHAN - 2))
  return { taken with
    event := { taken.event with
      compared := taken.event.compared ++ [(ifeb, itime, checksum, crc15)] }
    ibuf := taken.ibuf + 4 }

def frontEndBoard (setup : Setup) (buf : Words) (cfebActive samples : Nat) (unpacking : Unpacking)
    (ifeb : Nat) : Option Unpacking :=
  if cfebActive.testBit ifeb then
    (List.range samples).foldlM (timeSample setup buf ifeb)
      { unpacking with
        event := { unpacking.event with activeFebs := unpacking.event.activeFebs ++ [ifeb] } }
  else some unpacking

def fillSca (temp : Samples) (samples : Nat) (event : CscEvent) : CscEvent :=
  let inside (ilayer istrip itime value before : Nat) : Nat :=
    if ilayer < NLAYER ∧ istrip < NSTRIP ∧ itime < samples then value else before
  { event with
    scaBlock := fun ilayer istrip itime => inside ilayer istrip itime
      ((temp ilayer (istrip / 16) itime &&& 0x0f00) >>> 8) (event.scaBlock ilayer istrip itime)
    scaTrigTime := fun ilayer istrip itime => inside ilayer istrip itime
      (temp ilayer (istrip / 16) itime &&& 0x00ff) (event.scaTrigTime ilayer istrip itime)
    scaClockPhase := (List.range NCFEB).foldl (fun phase ifeb =>
      phase ||| ((temp 0 ifeb 0 >>> 12) &&& 1) <<< ifeb) 0 }

def decodeCfeb2 (setup : Setup) (buf : Words) (ibuf cfebActive : Nat) (event : CscEvent) :
    Option CscEvent := do
  let samples := if (buf (ibuf + 95)).toNat.testBit 13 then 16 else 8
  let unpacked ← (List.range NCFEB).foldlM (frontEndBoard setup buf cfebActive samples)
    ⟨{ event with nscaSample := samples }, .none, ibuf⟩
  return fillSca unpacked.temp samples unpacked.event

def scanMarker (buf : Words) (ibuf : Nat) (marker : Short) : Option Nat :=
  (seek (fun index => buf index == marker) 10000 (ibuf + 1)).map (· - ibuf)

def bits (width mask : Nat) : Nat := ((List.range width).filter mask.testBit).length

/-- The words that an anode block of the older format takes; its fields are read by nothing here. -/
def decodeAlct3 (buf : Words) (ibuf : Nat) : Nat :=
  let nbucket := ((buf (ibuf + 1)).toNat &&& 0x007c) >>> 2
  let trMode := (buf (ibuf + 1)).toNat &&& 0x0003
  let febsRead := (buf (ibuf + 3)).toNat &&& 0x007f
  let expectedWc :=
    NLCT_HEAD + 2 + if 0 < trMode then 12 * nbucket * bits 7 febsRead else 0
  if buf (ibuf + expectedWc) &&& 0xfff ≠ 0xe0d then
    match scanMarker buf ibuf 0xde0d with
    | some marker => marker + 2
    | none => 0
  else if trMode = 0 then (buf (ibuf + 9)).toNat &&& 0x07ff
  else
    let dumped := expectedWc - 2
    -- the checksum, unless the end comes at once
    let trailer := if buf (ibuf + dumped) &&& 0xfff ≠ 0xe0d then dumped + 2 else dumped
    trailer + 2

/-- The words that an anode block of the newer format takes, with the lengths by its number of wire
groups. There is no entry for the number 7. -/
def decodeAlct4 (buf : Words) (ibuf : Nat) : Option Nat := do
  let wgn := (buf (ibuf + 6)).toNat &&& 7
  let rawbinLength ← [0, 18, 24, 36, 0, 48, 60][wgn]?
  let collmaskLength ← [0, 8, 12, 16, 0, 24, 28][wgn]?
  let header := (buf (ibuf + 4)).toNat
  let lctbucket := ((buf (ibuf + 7)).toNat >>> 5) &&& 0xf
  let nbucket := (buf (ibuf + 7)).toNat &&& 0x001f
  let lctw := 8 + if header.testBit 14 then 3 + 5 + collmaskLength + rawbinLength else 0
  let raww := lctw + if header.testBit 13 then 0 else 2 * lctbucket
  let trailer := raww + if header.testBit 12 then 0 else rawbinLength * nbucket
  return if buf (ibuf + trailer) &&& 0xfff ≠ 0xe0d then
      match scanMarker buf ibuf 0xde0d with
      | some marker => marker + 4
      | none => 0
    else trailer + 4

def decodeTmb2 (buf : Words) (ibuf : Nat) : Nat := (buf (ibuf + 4)).toNat &&& 0x1f

/-- The words of the cathode trigger block, with the buckets and the boards of the trigger board's
header. -/
def decodeClct2 (buf : Words) (header ibuf : Nat) : Nat :=
  let nbucket := (buf (header + 1)).toNat &&& 0x001f
  let febsRead := ((buf (header + 1)).toNat >>> 5) &&& 0x1f
  let dumped := 6 * nbucket * bits 5 febsRead
  let trailer := if buf (ibuf + dumped) ≠ 0x6b04 then dumped + 1 else dumped
  match scanMarker buf (ibuf + trailer) 0xde0f with
  | some marker => trailer + marker + 2
  | none => trailer + 10000 + 2

def marked (digit : Nat) (buf : Words) (index : Nat) : Bool :=
  (List.range 4).all fun ahead => (buf (index + ahead)).toNat >>> 12 == digit

def findDmbEnd (buf : Words) (index : Nat) : Nat :=
  (seek (marked 0xe buf) 30000 index).getD (index + 30000) + 4

def anodeWords (buf : Words) : Option (Option Nat) :=
  if (buf 2).toNat.testBit 10 then
    (if buf 8 = 0xdb0a then decodeAlct4 buf 8 else some (decodeAlct3 buf 8)).map some
  else some none

def cfebOffset (buf : Words) : Option (Option Nat) :=
  (anodeWords buf).map fun alctWc =>
    let offset := 8 + alctWc.getD 0
    let behindHeader := offset + decodeTmb2 buf offset + 1
    if alctWc = some 0 then none
    else if (buf 2).toNat.testBit 11 then
      some (behindHeader + decodeClct2 buf offset behindHeader)
    else some offset

def chamberBlock (setup : Setup) (buf : Words) (event : CscEvent) : Option (Nat × CscEvent) :=
  let dmbCrate := ((buf 5).toNat >>> 4) &&& 0xff
  let dmbId := (buf 5).toNat &&& 0xf
  let flags := (buf 2).toNat
  if 0 ≤ setup.crate ∧ 0 ≤ setup.chamber ∧ (setup.crate ≠ dmbCrate ∨ setup.chamber ≠ dmbId) then
    some (1, event)
  else if (buf 0).toNat >>> 12 = 8 then some (1, event)
  else if flags.testBit 11 = false ∧ flags.testBit 10 = false ∧ flags &&& 0x1f = 0 then
    some (1, event)
  else do
    match ← cfebOffset buf with
    | none => return (4, event)
    | some offset =>
      if flags &&& 0x1f = 0 then return (0, event)
      return (0, ← decodeCfeb2 setup buf offset (flags &&& 0x1f) event)

/-- Where the unpacking of the blocks stands: `index` is kept from call to call, and `visited` are
the places of the chamber blocks' headers that were looked for. -/
structure Call where
  result : Nat
  index : Nat
  event : CscEvent
  visited : List (Option Nat)

/-- The block at `start` of the buffer. Every way out of it looks for its end. -/
def decodeDmb (setup : Setup) (buf : Words) (start : Nat) (call : Call) : Option Call :=
  let block := buf.behind start
  match seek (marked 9 block) 16 call.index with
  | none => some { call with
      result := 0
      index := findDmbEnd block (call.index + 16)
      visited := call.visited ++ [none] }
  | some header => do
      let (result, event) ← chamberBlock setup (block.behind header) call.event
      return {
        result := result
        index := findDmbEnd block header
        event := event
        visited := call.visited ++ [some (start + header)] }

def decodeDdu2 (setup : Setup) (buf : Words) (start : Nat) (firstTime : Bool) (call : Call) :
    Option Call := do
  let dduWc := (buf start).toInt
  if firstTime ∧ dduWc ≤ 29 then return { call with result := 1 }
  let call := if firstTime then { call with index := 15 } else call
  if (call.index : Int) < dduWc - 20 then
    let taken ← decodeDmb setup buf start call
    return { taken with result := taken.result ||| 2 }
  return { call with result := 1 }

def HEAD_ID : BitVec 32 := 0x48454144
def DDU_ID : BitVec 32 := 0x44445531
def DDU2_ID : BitVec 32 := 0x44445532
def DATA : Short := 2

def moduleId (buf : Words) (j : Nat) : BitVec 32 := buf (j + 1) ++ buf (j + 2)

/-- The type in the event header, if there is one; nothing where the counts make no end or lead in
front of the buffer. -/
def eventHeader (buf : Words) (firstTime : Bool) : Nat → Nat → Option (Option Short)
  | 0, _ => none
  | fuel + 1, j =>
    let next := j + (buf j).toInt
    if (buf 0).toInt - 1 ≤ j then some none
    else if firstTime ∧ moduleId buf j = HEAD_ID then some (some (buf (j + 8)))
    else if next < 0 then none
    else eventHeader buf firstTime fuel next.toNat

/-- A block of the event. The decoders of the other modules, and the blocks of an event that begins
a run, leave what is here as it is. -/
def eventBlock (setup : Setup) (buf : Words) (firstTime : Bool) (eventType : Short) (j : Nat)
    (call : Call) : Option Call :=
  if firstTime then
    if eventType = DATA ∧ moduleId buf j = DDU2_ID then decodeDdu2 setup buf j true call
    else some call
  else decodeDdu2 setup buf j false call

def eventBlocks (setup : Setup) (buf : Words) (firstTime : Bool) (eventType : Short) :
    Nat → Nat → Call → Option Call
  | 0, _, _ => none
  | fuel + 1, j, call =>
    let next := j + (buf j).toInt
    if (buf 0).toInt - 1 ≤ j then some call
    else if next < 1 then none
    else if buf (next.toNat - 1) ≠ buf j then some { call with result := 4 }
    else do
      let taken ← eventBlock setup buf firstTime eventType j call
      eventBlocks setup buf firstTime eventType fuel next.toNat taken

def getNextEvent (setup : Setup) (buf : Words) (firstTime : Bool) (index : Nat) : Option Call := do
  let fuel := (buf 0).toInt.toNat + 1
  let begun : Call := ⟨0, index, .zero, []⟩
  match ← eventHeader buf firstTime fuel 1, firstTime with
  | none, true => return { begun with result := 4 }
  | eventType, _ => eventBlocks setup buf firstTime (eventType.getD 0) fuel 1 begun

/-- The first call, or the first of those that go on with the same buffer, and the calls that bit 1
of the results asks for. -/
def unpack (setup : Setup) (buf : Words) : Nat → Bool → Nat → Option (List Call)
  | 0, _, _ => none
  | fuel + 1, firstTime, index => do
      let call ← getNextEvent setup buf firstTime index
      if call.result.testBit 1 then
        return call :: (← unpack setup buf fuel false call.index)
      return [call]

end EmuLib.FastDaq
