import EmuLib.Lib.TapController

/-!
The program for the CFEBs that is put into the Buckeye flash of a DAQMB, and how their TAP
controllers take it.
-/

namespace EmuLib.Daqmb.BuckeyeFlash

open TapController List

/-- The settings of the CFEBs. The thresholds are converted elsewhere: `dthresh` is the number that
is made of one. -/
structure Settings (Threshold : Type*) where
  shiftArray : Nat → Nat → Nat → BitVec 32
  compMode : Nat → BitVec 32
  compTiming : Nat → BitVec 32
  preBlockEnd : Nat → BitVec 32
  l1aExtra : Nat → BitVec 32
  compThresh : Nat → Threshold

def tbits (line : Nat) : BitVec 8 := 1#8 <<< line

def flashByte (tms : Bool) (tdo : Nat → Bool) : BitVec 8 :=
  (if tms then tbits 0 else 0) ||| (if tdo 0 then tbits 1 else 0) |||
    (if tdo 1 then tbits 2 else 0) ||| (if tdo 2 then tbits 3 else 0) |||
    (if tdo 3 then tbits 4 else 0) ||| (if tdo 4 then tbits 5 else 0)

def jtagBuckflashEngine (n t d : Nat) : List (BitVec 8) :=
  (List.range n).map fun i => flashByte (t.testBit i) fun _ => d.testBit i

def jtagBuckflashEngine2 (n : Nat) (val : Nat → BitVec 32) : List (BitVec 8) :=
  (List.range n).map fun i => flashByte false fun cfeb => (val cfeb).getLsbD i

/-- `dt` of `set_comp_thresh`. For `i` of 7 the shift of the second byte is by a negative number,
and leaves nothing in it. -/
def compThreshBytes (dthresh : BitVec 32) : BitVec 8 × BitVec 8 :=
  let dt0 : BitVec 8 := (List.range 8).foldl (fun dt i =>
    dt ||| (((dthresh.sshiftRight (i + 7)) &&& 1) <<< (7 - i)).setWidth 8) 0
  let dt1 : BitVec 8 := (List.range 7).foldl (fun dt i =>
    dt ||| (((dthresh.sshiftRight i) &&& 1) <<< (6 - i)).setWidth 8) 0
  ((dt1 <<< 7 &&& 0x80) + (dt0.sshiftRight 1 &&& 0x7f), dt1.sshiftRight 1)

def setCompThresh (dthresh : BitVec 32) : List Bool :=
  let sndbuf := [(compThreshBytes dthresh).1, (compThreshBytes dthresh).2, 0x00]
  (List.range 15).map fun bit => (sndbuf.getD (bit / 8) 0).getLsbD (bit % 8)

def thresh (dthresh : BitVec 32) : BitVec 32 :=
  let dt := compThreshBytes dthresh
  (dt.2.signExtend 32 <<< 8 &&& 0xff00) ||| (dt.1.signExtend 32 &&& 0x00ff)

variable {Threshold : Type*} (dthresh : Threshold → BitVec 32) (settings : Settings Threshold)

def buckeyeShift : List (BitVec 8) :=
  (List.range 6).flatMap fun chip => (List.range 16).flatMap fun chan => (List.range 3).map fun bit =>
    flashByte false fun cfeb => (settings.shiftArray cfeb chip (16 - chan - 1)).getLsbD bit

def flashEndWord : List (BitVec 8) :=
  (List.range 5).map fun bit => flashByte (Nat.testBit 3 bit) fun _ => false

def instr : List (BitVec 8) := jtagBuckflashEngine 4 3 0

def data : List (BitVec 8) := jtagBuckflashEngine 4 3 0

def usr1 : List (BitVec 8) := jtagBuckflashEngine 5 0 2

def bypass : List (BitVec 8) := jtagBuckflashEngine 8 0x0080 0x00ff

def usr2 : List (BitVec 8) := jtagBuckflashEngine 5 0 3

def f7 : List (BitVec 8) := jtagBuckflashEngine 8 0 7

def xtra : List (BitVec 8) := jtagBuckflashEngine 1 1 0

def ladc : List (BitVec 8) := jtagBuckflashEngine 8 0 4

def eoi : List (BitVec 8) := jtagBuckflashEngine 1 1 0

def idle : List (BitVec 8) := jtagBuckflashEngine 3 1 0

def beforeSettings : List (BitVec 8) :=
  [flashEndWord, instr, usr1, bypass, instr, f7, xtra, eoi, instr, usr2, bypass, data].flatten

def compSettings : List (BitVec 8) :=
  jtagBuckflashEngine2 2 settings.compMode ++ jtagBuckflashEngine2 3 settings.compTiming ++
    jtagBuckflashEngine2 4 settings.preBlockEnd ++ jtagBuckflashEngine2 2 settings.l1aExtra

def beforeThresh : List (BitVec 8) :=
  [xtra, xtra, instr, usr1, bypass, instr, ladc, xtra, eoi, instr, usr2, bypass, instr].flatten

def compThresh : List (BitVec 8) :=
  jtagBuckflashEngine2 15 fun cfeb => thresh (dthresh (settings.compThresh cfeb))

def fillBuckFlashContents : List (BitVec 8) :=
  buckeyeShift settings ++ beforeSettings ++ compSettings settings ++ beforeThresh ++
    compThresh dthresh settings ++ [xtra, idle].flatten

/-- The lines of a CFEB: bit 0 is TMS, its own bit TDI. -/
def lines (cfeb : Nat) (contents : List (BitVec 8)) : List (Bool × Bool) :=
  contents.map fun byte => (byte.getLsbD 0, byte.getLsbD (cfeb + 1))

def lowBits (n : Nat) (value : BitVec 32) : List Bool := (List.range n).map value.getLsbD

def buckeyeBits (cfeb : Nat) : List Bool :=
  (List.range 6).flatMap fun chip => (List.range 16).reverse.flatMap fun chan =>
    lowBits 3 (settings.shiftArray cfeb chip chan)

def settingBits (cfeb : Nat) : List Bool :=
  lowBits 2 (settings.compMode cfeb) ++ lowBits 3 (settings.compTiming cfeb) ++
    lowBits 4 (settings.preBlockEnd cfeb) ++ lowBits 2 (settings.l1aExtra cfeb)

/-- An instruction of the CFEB, and the bypass of its PROM. -/
def withBypass (instruction : BitVec 32) : List Action :=
  scan .instruction (lowBits 5 instruction ++ List.replicate 8 true)

def withBypassBit (bits : List Bool) : List Action := scan .data (bits ++ [false])

def program (cfeb : Nat) : List Action :=
  (buckeyeBits settings cfeb ++ [false]).map (.shifted .data) ++ [.updated .data] ++
    withBypass 2 ++ withBypassBit (lowBits 8 7) ++
    withBypass 3 ++ withBypassBit (settingBits settings cfeb) ++
    withBypass 2 ++ withBypassBit (lowBits 8 4) ++
    withBypass 3 ++ withBypassBit (setCompThresh (dthresh (settings.compThresh cfeb)))

variable {cfeb : Nat}

lemma flashByte_line (tms tdo) (board : cfeb < 5) :
    ((flashByte tms tdo).getLsbD 0, (flashByte tms tdo).getLsbD (cfeb + 1)) = (tms, tdo cfeb) := by
  have each : ∀ tms first second third fourth fifth : Bool, ∀ cfeb : Fin 5,
      let tdo := fun cfeb => [first, second, third, fourth, fifth].getD cfeb false
      ((flashByte tms tdo).getLsbD 0, (flashByte tms tdo).getLsbD (cfeb + 1)) = (tms, tdo cfeb) := by
    decide
  have own : [tdo 0, tdo 1, tdo 2, tdo 3, tdo 4].getD cfeb false = tdo cfeb := by
    have boards : cfeb = 0 ∨ cfeb = 1 ∨ cfeb = 2 ∨ cfeb = 3 ∨ cfeb = 4 := by omega
    rcases boards with rfl | rfl | rfl | rfl | rfl <;> rfl
  exact (each tms (tdo 0) (tdo 1) (tdo 2) (tdo 3) (tdo 4) ⟨cfeb, board⟩).trans
    (congrArg (Prod.mk tms) own)

lemma lines_append (cfeb first second) :
    lines cfeb (first ++ second) = lines cfeb first ++ lines cfeb second := map_append

lemma lines_engine (board : cfeb < 5) (n t d) :
    lines cfeb (jtagBuckflashEngine n t d) =
      (List.range n).map fun i => (t.testBit i, d.testBit i) := by
  rw [lines, jtagBuckflashEngine, map_map]
  exact map_congr_left fun i _ => flashByte_line _ _ board

lemma lines_engine2 (board : cfeb < 5) (n val) :
    lines cfeb (jtagBuckflashEngine2 n val) = (lowBits n (val cfeb)).map fun tdi => (false, tdi) := by
  rw [lines, jtagBuckflashEngine2, lowBits, map_map, map_map]
  exact map_congr_left fun i _ => flashByte_line _ _ board

lemma lines_buckeyeShift (board : cfeb < 5) :
    lines cfeb (buckeyeShift settings) =
      (buckeyeBits settings cfeb).map fun tdi => (false, tdi) := by
  have channels : (List.range 16).reverse = (List.range 16).map fun chan => 16 - chan - 1 := by decide
  rw [lines, buckeyeShift, buckeyeBits, map_flatMap, map_flatMap, channels]
  refine flatMap_congr fun chip _ => ?_
  rw [map_flatMap, map_flatMap, flatMap_map]
  refine flatMap_congr fun chan _ => ?_
  rw [map_map]
  exact map_congr_left fun bit _ => flashByte_line _ _ board

lemma lines_compSettings (board : cfeb < 5) :
    lines cfeb (compSettings settings) =
      (settingBits settings cfeb).map fun tdi => (false, tdi) := by
  simp only [compSettings, settingBits, lines_append, lines_engine2 board, map_append]

lemma setCompThresh_eq (number) : setCompThresh number = lowBits 15 (thresh number) := by
  have word : ∀ low high : BitVec 8, ∀ bit < 15,
      ([low, high, 0x00].getD (bit / 8) 0).getLsbD (bit % 8) =
        ((high.signExtend 32 <<< 8 &&& 0xff00) ||| (low.signExtend 32 &&& 0x00ff)).getLsbD bit := by
    intro low high bit below
    have upper : ∀ bit : Fin 15, (0xff00 : BitVec 32).getLsbD bit = decide (8 ≤ bit.val) := by decide
    have lower : ∀ bit : Fin 15, (0x00ff : BitVec 32).getLsbD bit = decide (bit.val < 8) := by decide
    have within : bit < 32 := by omega
    rw [BitVec.getLsbD_or, BitVec.getLsbD_and, BitVec.getLsbD_and, upper ⟨bit, below⟩,
      lower ⟨bit, below⟩, BitVec.getLsbD_shiftLeft, BitVec.getLsbD_signExtend,
      BitVec.getLsbD_signExtend]
    rcases Nat.lt_or_ge bit 8 with first | second
    · have byte : bit / 8 = 0 := by omega
      simp [byte, Nat.mod_eq_of_lt first, first, within]
    · have byte : bit / 8 = 1 := by omega
      have place : bit % 8 = bit - 8 := by omega
      have inside : bit - 8 < 8 := by omega
      have wide : bit - 8 < 32 := by omega
      simp [byte, place, inside, wide, within, second, Nat.not_lt.2 second]
  exact map_congr_left fun bit among => word _ _ bit (mem_range.1 among)

lemma follow_log (tap log steps) :
    follow (tap, log) steps = ((follow (tap, []) steps).1, log ++ (follow (tap, []) steps).2) := by
  induction steps generalizing tap log with
  | nil => simp [follow]
  | cons line rest ih =>
    rw [follow, ih, follow, ih _ ([] ++ _)]
    simp

lemma follow_of {tap target actions steps} (alone : follow (tap, []) steps = (target, actions))
    (log) : follow (tap, log) steps = (target, log ++ actions) := by
  rw [follow_log, alone]

/-- The bytes that are the same for all CFEBs lead from data scan to data scan. -/
lemma lines_flatten (board : cfeb < 5) (parts : List (Nat × Nat × Nat)) :
    lines cfeb (parts.map fun part => jtagBuckflashEngine part.1 part.2.1 part.2.2).flatten =
      parts.flatMap fun part =>
        (List.range part.1).map fun i => (part.2.1.testBit i, part.2.2.testBit i) := by
  induction parts with
  | nil => rfl
  | cons part rest ih =>
    rw [map_cons, flatten_cons, lines_append, ih, lines_engine board, flatMap_cons]

lemma length_contents : (fillBuckFlashContents dthresh settings).length = 429 := by
  simp [fillBuckFlashContents, buckeyeShift, beforeSettings, compSettings, beforeThresh, compThresh,
    jtagBuckflashEngine2, jtagBuckflashEngine, flashEndWord, instr, usr1, bypass, f7, xtra, eoi, usr2, data, ladc, idle]

lemma follow_beforeSettings (board : cfeb < 5) (log) :
    follow (.shift .data, log) (lines cfeb beforeSettings) =
      (.shift .data, log ++ ([.shifted .data false, .updated .data] ++ withBypass 2 ++
        withBypassBit (lowBits 8 7) ++ withBypass 3 ++ [.captured .data])) := by
  have parts : beforeSettings =
      ([(5, 3, 0), (4, 3, 0), (5, 0, 2), (8, 0x80, 0xff), (4, 3, 0), (8, 0, 7), (1, 1, 0),
        (1, 1, 0), (4, 3, 0), (5, 0, 3), (8, 0x80, 0xff), (4, 3, 0)].map fun part =>
          jtagBuckflashEngine part.1 part.2.1 part.2.2).flatten := rfl
  rw [parts, lines_flatten board]
  exact follow_of (by decide +kernel) log

lemma follow_beforeThresh (board : cfeb < 5) (log) :
    follow (.shift .data, log) (lines cfeb beforeThresh) =
      (.shift .data, log ++ ([.shifted .data false, .updated .data] ++ withBypass 2 ++
        withBypassBit (lowBits 8 4) ++ withBypass 3 ++ [.captured .data])) := by
  have parts : beforeThresh =
      ([(1, 1, 0), (1, 1, 0), (4, 3, 0), (5, 0, 2), (8, 0x80, 0xff), (4, 3, 0), (8, 0, 4),
        (1, 1, 0), (1, 1, 0), (4, 3, 0), (5, 0, 3), (8, 0x80, 0xff), (4, 3, 0)].map fun part =>
          jtagBuckflashEngine part.1 part.2.1 part.2.2).flatten := rfl
  rw [parts, lines_flatten board]
  exact follow_of (by decide +kernel) log

lemma follow_end (board : cfeb < 5) (log) :
    follow (.shift .data, log) (lines cfeb [xtra, idle].flatten) =
      (.runTestIdle, log ++ [.shifted .data false, .updated .data]) := by
  have parts : [xtra, idle] =
      [(1, 1, 0), (3, 1, 0)].map fun part => jtagBuckflashEngine part.1 part.2.1 part.2.2 := rfl
  rw [parts, lines_flatten board]
  exact follow_of (by decide +kernel) log

/-- The image fits the buffer of 500 bytes, and every CFEB takes its own program from it. -/
theorem flash_programs :
    (fillBuckFlashContents dthresh settings).length ≤ 500 ∧
      ∀ cfeb < 5,
        follow (.shift .data, []) (lines cfeb (fillBuckFlashContents dthresh settings)) =
          (.runTestIdle, program dthresh settings cfeb) := by
  refine ⟨by rw [length_contents]; decide, fun cfeb board => ?_⟩
  have thresholds : lines cfeb (compThresh dthresh settings) =
      (setCompThresh (dthresh (settings.compThresh cfeb))).map fun tdi => (false, tdi) := by
    rw [compThresh, lines_engine2 board, setCompThresh_eq]
  simp only [fillBuckFlashContents, lines_append, follow_append]
  rw [lines_buckeyeShift settings board, follow_shift, follow_beforeSettings board,
    lines_compSettings settings board, follow_shift, follow_beforeThresh board, thresholds,
    follow_shift, follow_end board]
  simp [program, withBypassBit, scan]

end EmuLib.Daqmb.BuckeyeFlash
