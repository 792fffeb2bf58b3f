import EmuLib.Fed.VmeModule
import EmuLib.Lib.TextStream

/-!
PROM files: their commands, and how they are loaded.
-/

namespace EmuLib.Fed

open Operations TextStream

inductive PromCommand
  | sir (command : UInt16)
  | sdr (nBits : UInt32) (data : List UInt16)
  | stateResetIdle
  /-- The value has less digits than the bits need, so that `substr` throws. -/
  | outOfRange
  deriving DecidableEq

def find (text pattern : List Char) : Bool := text.tails.any pattern.isPrefixOf

def extractWord (stream : List Char) : List Char × List Char :=
  let started := stream.dropWhile isSpace
  (started.takeWhile fun char => !isSpace char, started.dropWhile fun char => !isSpace char)

def decimalDigits (text : List Char) : List Char := text.takeWhile Char.isDigit

/-- `>> std::dec >>` for an `unsigned long`, which a sign is accepted for. -/
def extractDecimal (stream : List Char) : Option (Nat × List Char) :=
  let signed := extractSign (stream.dropWhile isSpace)
  let digits := decimalDigits signed.2
  let value := digits.foldl (fun value digit => 10 * value + (digit.toNat - '0'.toNat)) 0
  if digits = [] ∨ 0xffffffffffffffff < value then none
  else
    some (if signed.1 then (0x10000000000000000 - value) % 0x10000000000000000 else value,
      signed.2.drop digits.length)

def isComment (line : List Char) : Bool := line.take 2 == ['/', '/'] || line.take 1 == ['!']

section

variable (bus : Bus)

/-- `sscanf` with `"%2x"`, which stores nothing where it finds no number. -/
def scanByte (value : List Char) (iByte : Nat) : UInt8 :=
  match extractHex ((value.drop (iByte * 2)).take 2) with
  | some (byte, _) => UInt8.ofNat (byte % 256).toNat
  | none => (bus.stray iByte).toUInt8

def joinBytes : List UInt8 → List UInt16
  | [] => []
  | [low] => [low.toUInt16]
  | low :: high :: rest => (low.toUInt16 ||| (high.toUInt16 <<< 8)) :: joinBytes rest

def parenthesized (value : List Char) : Option (List Char) :=
  if value.head? = some '(' ∧ value.getLast? = some ')' then some (value.drop 1).dropLast else none

def parseScan (isSir : Bool) (stream : List Char) : Option PromCommand :=
  match extractDecimal stream with
  | none => none
  | some (nBits, further) =>
    let nextCommand := extractWord further
    if nextCommand.1 ≠ ['T', 'D', 'I'] then none
    else
      match parenthesized (extractWord nextCommand.2).1 with
      | none => none
      | some value =>
        let nBytes := if nBits = 0 then 0 else (nBits - 1) / 8 + 1
        -- the last byte begins beyond the end of the value
        if value.length < (nBytes - 1) * 2 then some .outOfRange
        else
          let bogoData := (List.range nBytes).map (scanByte bus value)
          let myData := joinBytes bogoData.reverse
          if isSir then some (.sir (wordAt bus myData 0))
          else some (.sdr (UInt32.ofNat nBits) myData)

/-- A line that is complete, up to its semicolon. `RUNTEST` only sleeps. -/
def parseLine (myLine : List Char) : Option PromCommand :=
  let command := extractWord (myLine.takeWhile (· ≠ ';'))
  if command.1 = ['S', 'D', 'R'] then parseScan bus false command.2
  else if command.1 = ['S', 'I', 'R'] then parseScan bus true command.2
  else if command.1 = ['S', 'T', 'A', 'T', 'E'] then
    let reset := extractWord command.2
    let idle := extractWord reset.2
    if reset.1 = ['R', 'E', 'S', 'E', 'T'] ∧ idle.1 = ['I', 'D', 'L', 'E'] then
      some .stateResetIdle
    else none
  else none

end

variable (board : VmeModule) (bus : Bus)

def perform (dev : DevType) (element : JtagElement) : PromCommand → Vme Unit
  | .sir command => commandCycle board bus dev command
  | .sdr nBits data => (fun _ => ()) <$> jtagWrite board bus dev nBits data true
  | .stateResetIdle =>
    if dev = .RESET then writePattern board bus element.bitCode [1, 1, 1, 1, 1]
    else writeCycle board bus (element.bitCode ||| 0x18) element.cmdBits [0]
  | .outOfRange => throw .outOfRange

def performLine (dev : DevType) (element : JtagElement) (myLine : List Char) : Vme Unit :=
  match parseLine bus myLine with
  | none => pure ()
  | some command => perform board bus dev element command

def loadLines (dev : DevType) (element : JtagElement) (stopString : List Char) :
    List (List Char) → List Char → Option (List Char) → Vme (Exit × Unit)
  | [], _, none => pure (.ended, ())
  | [], _, some _ => do
      unlock
      pure (.returned, ())
  | line :: rest, myStartString, some unfinished =>
    let myLine := unfinished ++ line
    if ';' ∈ myLine then do
      performLine board bus dev element myLine
      loadLines dev element stopString rest myStartString none
    else loadLines dev element stopString rest myStartString (some myLine)
  | line :: rest, myStartString, none =>
    if myStartString ≠ [] then
      loadLines dev element stopString rest (if find line myStartString then [] else myStartString)
        none
    else if stopString ≠ [] ∧ find line stopString then do
      unlock
      pure (.returned, ())
    else if isComment line then loadLines dev element stopString rest myStartString none
    else if ';' ∈ line then do
      performLine board bus dev element line
      loadLines dev element stopString rest myStartString none
    else loadLines dev element stopString rest myStartString (some line)

def loadPromFile (dev : DevType) (data startString stopString : List Char) : Vme Unit :=
  match board.jtagMap dev with
  | none => throw .devType
  | some chain =>
    locked (loadLines board bus dev chain.element stopString (data.splitOn '\n') startString none)

def promCommands (stopString : List Char) :
    List (List Char) → List Char → Option (List Char) → List PromCommand
  | [], _, _ => []
  | line :: rest, myStartString, some unfinished =>
    if ';' ∈ unfinished ++ line then
      (parseLine bus (unfinished ++ line)).toList ++ promCommands stopString rest myStartString none
    else promCommands stopString rest myStartString (some (unfinished ++ line))
  | line :: rest, myStartString, none =>
    if myStartString ≠ [] then
      promCommands stopString rest (if find line myStartString then [] else myStartString) none
    else if stopString ≠ [] ∧ find line stopString then []
    else if isComment line then promCommands stopString rest myStartString none
    else if ';' ∈ line then
      (parseLine bus line).toList ++ promCommands stopString rest myStartString none
    else promCommands stopString rest myStartString (some line)

def promExit (stopString : List Char) :
    List (List Char) → List Char → Option (List Char) → Exit
  | [], _, none => .ended
  | [], _, some _ => .returned
  | line :: rest, myStartString, some unfinished =>
    if ';' ∈ unfinished ++ line then promExit stopString rest myStartString none
    else promExit stopString rest myStartString (some (unfinished ++ line))
  | line :: rest, myStartString, none =>
    if myStartString ≠ [] then
      promExit stopString rest (if find line myStartString then [] else myStartString) none
    else if stopString ≠ [] ∧ find line stopString then .returned
    else if isComment line then promExit stopString rest myStartString none
    else if ';' ∈ line then promExit stopString rest myStartString none
    else promExit stopString rest myStartString (some line)

end EmuLib.Fed
