import EmuLib.Lib.TextStream
import Mathlib.Algebra.Ring.Int.Defs
import Mathlib.Algebra.Ring.Nat

/-!
MCS files, as they are written and read for the PROMs.
-/

namespace EmuLib.Vme

open TextStream

def hexPadded (width value : Nat) : List Char :=
  let digits := (Nat.toDigits 16 value).map Char.toUpper
  List.replicate (width - digits.length) '0' ++ digits

def signedChar (byte : UInt8) : Int := if byte.toNat < 128 then byte.toNat else byte.toNat - 256

def lowByte (crc : Int) : Nat := (crc % 256).toNat

def recordBytes (buf : Nat → UInt8) (nbytes : Nat) : Nat → Nat → List UInt8 × Nat
  | 0, byteIndex => ([], byteIndex)
  | left + 1, byteIndex =>
    if nbytes ≤ byteIndex then
      let further := recordBytes buf nbytes left byteIndex
      (0xFF :: further.1, further.2)
    else
      let further := recordBytes buf nbytes left (byteIndex + 1)
      (buf byteIndex :: further.1, further.2)

def segmentRecord (segment : Nat) : List Char :=
  let crc : Int := 2 + 4 + segment + (segment >>> 8)
  [':', '0', '2', '0', '0', '0', '0', '0', '4'] ++ hexPadded 4 (segment % 0x10000) ++
    hexPadded 2 (lowByte (-crc)) ++ ['\n']

def dataRecord (byteIndex : Nat) (bytes : List UInt8) : List Char :=
  let crc : Int := 0x10 + byteIndex + (byteIndex >>> 8) + (bytes.map signedChar).sum
  [':', '1', '0'] ++ hexPadded 4 (byteIndex % 0x10000) ++ ['0', '0'] ++
    bytes.flatMap (fun byte => hexPadded 2 byte.toNat) ++ hexPadded 2 (lowByte (-crc)) ++ ['\n']

def endRecord : List Char := [':', '0', '0', '0', '0', '0', '0', '0', '1', 'F', 'F', '\n']

def MAXBLOCK : Nat := 4096

def writeBlocks (buf : Nat → UInt8) (nbytes : Nat) : Nat → Nat → Nat → Nat → List Char
  | 0, _, _, _ => []
  | left + 1, segment, block, byteIndex =>
    let head := if block = 0 then segmentRecord segment else []
    let record := recordBytes buf nbytes 16 byteIndex
    head ++ dataRecord byteIndex record.1 ++
      if nbytes ≤ record.2 then endRecord
      else if block + 1 = MAXBLOCK then writeBlocks buf nbytes left (segment + 1) 0 record.2
      else writeBlocks buf nbytes left segment (block + 1) record.2

def totalBlocks (nbytes : Nat) : Nat := if 0 < nbytes % 16 then nbytes / 16 + 1 else nbytes / 16

def writeMcs (buf : Nat → UInt8) (nbytes : Nat) : List Char :=
  writeBlocks buf nbytes (totalBlocks nbytes) 0 0 0

/-- The lines that `fgets` puts into its buffer one after the other, with `feof` after each. -/
def fgetsLines : List Char → List Char → List (List Char × Bool)
  | [], line => [(line, true)]
  | char :: rest, line =>
    if char = '\n' ∨ line.length + 1 = 1019 then (line ++ [char], false) :: fgetsLines rest []
    else fgetsLines rest (line ++ [char])

/-- With the end of the string. What is beyond it stays; nothing changes at the end of the file. -/
def fgets (buf : Nat → Char) (line : List Char) : Nat → Char := fun index =>
  if line = [] then buf index else if index ≤ line.length then line.getD index '\x00' else buf index

def strncpy (buf : Nat → Char) (start size : Nat) : List Char :=
  ((List.range size).map fun offset => buf (start + offset)).takeWhile (· ≠ '\x00')

/-- `sscanf` with `"%x"`. The variable stays as it is where there is no number. -/
def sscanfHex (text : List Char) (stored : Int) : Int :=
  match extractHex text with
  | none => stored
  | some (value, _) => value

def unsigned (value : Int) : Nat := (value % 0x100000000).toNat

structure McsReader where
  binbuf : Nat → UInt8
  currentExt : Nat
  segmented : Bool
  dsize : Nat
  locAdd : Nat
  extAdd : Nat
  c : Int
  crc : Int
  totalRead : Nat

inductive McsStep
  | next (reader : McsReader)
  | finish (reader : McsReader)
  | abort (reader : McsReader)

def readByte (buf : Nat → Char) (index : Nat) (reading : McsReader × Int) (i : Nat) :
    McsReader × Int :=
  let c := sscanfHex (strncpy buf (9 + i * 2) 2) reading.1.c
  ({ reading.1 with
     c := c
     binbuf := Function.update reading.1.binbuf ((index + i) % 0x100000000) (UInt8.ofNat (lowByte c))
     totalRead := reading.1.totalRead + 1 }, reading.2 + c)

def readData (buf : Nat → Char) (reader : McsReader) : McsStep :=
  let dsize := unsigned (sscanfHex (strncpy buf 1 2) reader.dsize)
  let locAdd := unsigned (sscanfHex (strncpy buf 3 4) reader.locAdd)
  let currentAdd := (locAdd + reader.currentExt <<< (if reader.segmented then 4 else 16)) % 0x100000000
  let read := (List.range dsize).foldl (readByte buf currentAdd)
    ({ reader with dsize := dsize, locAdd := locAdd }, (dsize : Int) + locAdd + (locAdd >>> 8))
  let crc := sscanfHex (strncpy buf (dsize * 2 + 9) 2) read.1.crc
  let reader := { read.1 with crc := crc }
  if lowByte (-read.2) ≠ lowByte crc then .abort reader else .next reader

def readExtended (buf : Nat → Char) (reader : McsReader) : McsStep :=
  if buf 1 ≠ '0' ∨ buf 2 ≠ '2' then .next reader
  else
    let extAdd := unsigned (sscanfHex (strncpy buf 9 4) reader.extAdd)
    -- the type is a digit, after a zero
    let chksum := sscanfHex (strncpy buf 7 2) 0 + 2 + extAdd + (extAdd >>> 8)
    let crc := sscanfHex (strncpy buf 13 2) reader.crc
    let reader := { reader with
      extAdd := extAdd
      currentExt := extAdd
      segmented := buf 8 = '2'
      crc := crc }
    if lowByte (-chksum) ≠ lowByte crc then .abort reader else .next reader

def readRecord (buf : Nat → Char) (reader : McsReader) : McsStep :=
  if buf 8 = '0' then readData buf reader
  else if buf 8 = '1' then .finish reader
  else if buf 8 = '2' ∨ buf 8 = '4' then readExtended buf reader
  else .next reader

inductive McsResult
    | returned (total : Nat) (reader : McsReader)
  /-- `-1`, after a wrong checksum. -/
  | aborted (reader : McsReader)
  /-- A line that is no record is looked at again and again. -/
  | hangs (reader : McsReader)

def readLines (buf : Nat → Char) (reader : McsReader) : List (List Char × Bool) → McsResult
  | [] => .returned reader.totalRead reader
  | (line, feof) :: rest =>
    let buf := fgets buf line
    if feof then .returned reader.totalRead reader
    else if buf 0 ≠ ':' ∨ buf 7 ≠ '0' then .hangs reader
    else
      match readRecord buf reader with
      | .finish reader => .returned reader.totalRead reader
      | .abort reader => .aborted reader
      | .next reader => readLines buf reader rest

/-- What the variables and the line buffer hold before they are set. -/
structure Unset where
  buf : Nat → Char
  dsize : Nat
  locAdd : Nat
  extAdd : Nat
  c : Int
  crc : Int

def readMcs (unset : Unset) (binbuf : Nat → UInt8) (finp : List Char) : McsResult :=
  readLines unset.buf
    { binbuf := binbuf
      currentExt := 0
      segmented := false
      dsize := unset.dsize
      locAdd := unset.locAdd
      extAdd := unset.extAdd
      c := unset.c
      crc := unset.crc
      totalRead := 0 }
    (fgetsLines finp [])

end EmuLib.Vme
