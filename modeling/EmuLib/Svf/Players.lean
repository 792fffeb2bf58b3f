import EmuLib.Lib.Lines
import EmuLib.Svf.Buffers

/-!
The two players of SVF files. A file is a text, in which there are no zero characters.
-/

namespace EmuLib.Svf

open Lines TapController VmeController

inductive Part
  | hdr
  | hir
  | tdr
  | tir
deriving DecidableEq

def Part.keyword : Part → List Char
  | hdr => ['H', 'D', 'R']
  | hir => ['H', 'I', 'R']
  | tdr => ['T', 'D', 'R']
  | tir => ['T', 'I', 'R']

def Part.all : List Part := [hdr, hir, tdr, tir]

inductive Field
  | tdi
  | smask
  | tdo
  | mask
deriving DecidableEq

def Field.keyword : Field → List Char
  | tdi => ['T', 'D', 'I']
  | smask => ['S', 'M', 'A', 'S', 'K']
  | tdo => ['T', 'D', 'O']
  | mask => ['M', 'A', 'S', 'K']

def Field.all : List Field := [tdi, smask, tdo, mask]

def scanKeyword : Register → List Char
  | .instruction => ['S', 'I', 'R']
  | .data => ['S', 'D', 'R']

def headerOf : Register → Part
  | .instruction => .hir
  | .data => .hdr

def trailerOf : Register → Part
  | .instruction => .tir
  | .data => .tdr

structure Scan where
  register : Register
  bits : List Bool
deriving DecidableEq

/-- What the chain shifts out during the last scan, and what was left in the line buffer. -/
structure Chain where
  shiftedOut : List Scan → Nat → Bool
  left : List Scan → Nat → Bool

/-- `svfLoad` of a `VMEModule`, with `verify`, and `SVFLoad` of `EMUjtag`. -/
inductive Player
  | svfLoad (verify : Int)
  | SVFLoad

namespace Player

variable (player : Player)

def bufSize : Nat :=
  match player with
  | svfLoad _ => 8400
  | SVFLoad => 8200

def joined : List (List Char) :=
  match player with
  | svfLoad _ =>
    [['S', 'D', 'R'], ['S', 'I', 'R'], ['S', 'W', 'R'], ['S', 'B', 'R'], ['S', 'E', 'R']]
  | SVFLoad => [['S', 'D', 'R'], ['S', 'I', 'R']]

def own : List (List Char) :=
  match player with
  | svfLoad _ =>
    [['R', 'E', 'A', 'D'], ['S', 'W', 'R'], ['S', 'B', 'R'], ['S', 'E', 'R'], ['S', 'S', 'T']]
  | SVFLoad => []

def readsBack (cmpflag : Bool) : Bool :=
  match player with
  | svfLoad verify => decide (0 < verify) && cmpflag
  | SVFLoad => false

def compares (cmpflag : Bool) : Bool :=
  match player with
  | svfLoad verify => decide (verify ≠ 0) && cmpflag
  | SVFLoad => cmpflag

end Player

def maxBufSize : Nat := 8200

section

structure Given where
  buffers : Field → Nat → UInt8
  cmpflag : Bool

structure Loading where
  parts : Part → Framing
  expect : Nat → UInt8
  rmask : Nat → UInt8
  rcv : Nat → UInt8
  errcntr : Nat
  sent : List Scan

/-- `"%d"`, where the text begins with a digit and the number is an `int`. -/
def scanNumber (text : List Char) : Option Nat :=
  let digits := text.takeWhile Char.isDigit
  let number := digits.foldl (fun number digit => 10 * number + (digit.toNat - '0'.toNat)) 0
  if digits = [] ∨ 2 ^ 31 ≤ number then none else some number

def fieldOf (word : List Char) : Option Field := Field.all.find? fun field => field.keyword = word

def readField (bytes : Nat) (given : Given) (word value : List Char) : Option Given :=
  match fieldOf word with
  | none => some given
  | some field => (readValue bytes value (given.buffers field)).map fun filled =>
    { buffers := Function.update given.buffers field filled
      cmpflag := given.cmpflag || decide (field = .tdo) }

def readFields (bytes : Nat) : List (List Char) → Given → Option Given
  | [], given => some given
  | [word], given => if (fieldOf word).isSome then none else some given
  | word :: value :: rest, given => (readField bytes given word value).bind (readFields bytes rest)

def Loading.given (loading : Loading) (tdi : Nat → UInt8) : Given where
  buffers field :=
    match field with
    | .tdi => tdi
    | .smask => fun _ => 0
    | .tdo => loading.expect
    | .mask => loading.rmask
  cmpflag := false

def readStatement (words : List (List Char)) (tdi : Nat → UInt8) (loading : Loading) :
    Option (Nat × Given) :=
  (words[1]?.bind scanNumber).bind fun nbits =>
    if maxBufSize < nbytes nbits + 3 then none
    else (readFields (nbytes nbits) (words.drop 2) (loading.given tdi)).map (nbits, ·)

def handlePart (part : Part) (words : List (List Char)) (loading : Loading) : Option Loading :=
  (readStatement words (loading.parts part).snd loading).map fun read =>
    { loading with
      parts := Function.update loading.parts part ⟨read.1, read.2.buffers .tdi⟩
      expect := read.2.buffers .tdo
      rmask := read.2.buffers .mask }

variable (player : Player) (chain : Chain)

def readBack (sent : List Scan) (cnt : Nat) (rcv : Nat → UInt8) : Nat → UInt8 := fun byte =>
  if byte < nbytes cnt then
    byteOfBits fun bit => decide (8 * byte + bit < cnt) && chain.shiftedOut sent (8 * byte + bit)
  else rcv byte

/-- What is compared. Only `svfLoad` removes the header; nothing is returned where that leaves the
line buffer. -/
def compared (sent : List Scan) (hdrbits nbits cnt : Nat) (rcv : Nat → UInt8) :
    Option (Nat → UInt8) :=
  match player with
  | .SVFLoad => some rcv
  | .svfLoad _ =>
    if hdrbits = 0 then some rcv
    else if player.bufSize < 8 * nbytes cnt ∨ player.bufSize < 8 * nbytes nbits + hdrbits then
      none
    else some (removeHeader hdrbits nbits (nbytes cnt) (chain.left sent) rcv)

def performScan (register : Register) (nbits : Nat) (given : Given) (loading : Loading) :
    Option Loading :=
  let header := loading.parts (headerOf register)
  let trailer := loading.parts (trailerOf register)
  let cnt := header.nbits + nbits + trailer.nbits
  if maxBufSize < nbytes cnt then none
  else
    let bits := bitsOf (realsnd header nbits (given.buffers .tdi) trailer) cnt
    let sent := loading.sent ++ [⟨register, bits⟩]
    let rcv :=
      if player.readsBack given.cmpflag then readBack chain sent cnt loading.rcv else loading.rcv
    let done : Loading :=
      { loading with
        expect := given.buffers .tdo
        rmask := given.buffers .mask
        rcv := rcv
        sent := sent }
    if player.compares given.cmpflag then
      (compared player chain sent header.nbits nbits cnt rcv).map fun rcv =>
        { done with
          rcv := rcv
          errcntr :=
            loading.errcntr + errors (nbytes nbits) rcv (given.buffers .tdo) (given.buffers .mask) }
    else some done

def handleScan (register : Register) (words : List (List Char)) (loading : Loading) :
    Option Loading :=
  (readStatement words (fun _ => 0) loading).bind fun read =>
    performScan player chain register read.1 read.2 loading

def handleStatement (words : List (List Char)) (loading : Loading) : Option Loading :=
  let word := words.headD []
  match Part.all.find? fun part => part.keyword = word with
  | some part => handlePart part words loading
  | none =>
    if word = scanKeyword .data then handleScan player chain .data words loading
    else if word = scanKeyword .instruction then
      handleScan player chain .instruction words loading
    else if word ∈ player.own then none
    else some loading

end

variable (player : Player) (chain : Chain)

def isBlank (char : Char) : Bool := char = ' ' || char = '\t' || char = '\n' || char = '"'

def parse (buf : List Char) : List (List Char) := words isBlank buf

def strip (buf : List Char) : List Char := cutLast '\n' (cutLast '\r' buf)

def isRemark (line : List Char) : Bool :=
  line.take 2 = ['/', '/'] || line.take 1 = ['!']

/-- A line of the file. A statement that is not complete waits in the buffer for the next one. -/
def turn (state : Option (List Char) × Loading) (line : List Char) :
    Option (Option (List Char) × Loading) :=
  match state.1 with
  | some buf =>
    let buf := strip buf ++ line
    if player.bufSize ≤ buf.length then none
    else if ';' ∈ buf then (handleStatement player chain (parse buf) state.2).map (none, ·)
    else some (some buf, state.2)
  | none =>
    if isRemark line then some state
    else if ';' ∈ line then (handleStatement player chain (parse line) state.2).map (none, ·)
    else
      let buf := strip line
      if (parse buf).headD [] ∈ player.joined then
        ((parse buf)[1]?.bind scanNumber).bind fun nbits =>
          if maxBufSize < nbits then
            (handleStatement player chain (parse buf) state.2).map (none, ·)
          else some (some buf, state.2)
      else (handleStatement player chain (parse buf) state.2).map (none, ·)

structure Stack where
  parts : Part → Nat → UInt8
  expect : Nat → UInt8
  rmask : Nat → UInt8
  rcv : Nat → UInt8

def Stack.start (stack : Stack) : Loading where
  parts := fun part => ⟨0, stack.parts part⟩
  expect := stack.expect
  rmask := stack.rmask
  rcv := stack.rcv
  errcntr := 0
  sent := []

structure Outcome where
  result : Int
  sent : List Scan

def load (stack : Stack) (file : List Char) : Option Outcome :=
  ((lines '\n' 255 file).foldlM (turn player chain) (none, stack.start)).map fun final =>
    ⟨if final.1.isSome then -1 else final.2.errcntr, final.2.sent⟩

def VMEModule.svfLoad (verify : Int) (chain : Chain) (stack : Stack) (file : List Char) :
    Option Outcome :=
  load (.svfLoad verify) chain stack file

def EMUjtag.SVFLoad (chain : Chain) (stack : Stack) (file : List Char) : Option Outcome :=
  load .SVFLoad chain stack file

end EmuLib.Svf
