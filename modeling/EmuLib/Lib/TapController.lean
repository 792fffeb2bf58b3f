import Mathlib.Data.List.Basic

/-!
A device behind a test access port: sixteen states that the mode select line leads through, and two
registers of any length that are captured, shifted and updated on the way.
-/

namespace EmuLib.TapController

inductive Register
  | instruction
  | data
deriving DecidableEq

inductive Tap
  | testLogicReset
  | runTestIdle
  | select (register : Register)
  | capture (register : Register)
  | shift (register : Register)
  | exit1 (register : Register)
  | pause (register : Register)
  | exit2 (register : Register)
  | update (register : Register)
deriving DecidableEq

def Tap.next : Tap → Bool → Tap
  | testLogicReset, tms => if tms then testLogicReset else runTestIdle
  | runTestIdle, tms => if tms then select .data else runTestIdle
  | select .data, tms => if tms then select .instruction else capture .data
  | select .instruction, tms => if tms then testLogicReset else capture .instruction
  | capture register, tms => if tms then exit1 register else shift register
  | shift register, tms => if tms then exit1 register else shift register
  | exit1 register, tms => if tms then update register else pause register
  | pause register, tms => if tms then exit2 register else pause register
  | exit2 register, tms => if tms then update register else shift register
  | update _, tms => if tms then select .data else runTestIdle

inductive Action
  | captured (register : Register)
  | shifted (register : Register) (tdi : Bool)
  | updated (register : Register)
deriving DecidableEq

structure Device where
  tap : Tap
  tck : Bool
  bits : Register → List Bool
  log : List Action

-- what a register is loaded with
variable (loaded : Device → Register → List Bool)

namespace Device

variable (device : Device)

def put (register : Register) (bits : List Bool) (action : Action) : Device :=
  { device with
    bits := fun other => if other = register then bits else device.bits other
    log := device.log ++ [action] }

def rise (tms tdi : Bool) : Device :=
  let acted :=
    match device.tap with
    | .capture register => device.put register (loaded device register) (.captured register)
    | .shift register =>
      device.put register ((device.bits register ++ [tdi]).drop 1) (.shifted register tdi)
    | _ => device
  { acted with tap := device.tap.next tms, tck := true }

def fall : Device :=
  let acted :=
    match device.tap with
    | .update register => { device with log := device.log ++ [Action.updated register] }
    | _ => device
  { acted with tck := false }

def drive (tck tms tdi : Bool) : Device :=
  if tck && !device.tck then device.rise loaded tms tdi
  else if !tck && device.tck then device.fall
  else device

def clock (line : Bool × Bool) : Device :=
  ((device.drive loaded false line.1 line.2).drive loaded true line.1 line.2).drive loaded false
    line.1 line.2

def clocks (lines : List (Bool × Bool)) : Device :=
  lines.foldl (fun device line => device.clock loaded line) device

end Device

section

variable {device : Device} {register : Register} {tms tdi : Bool}

lemma clock_low (low : device.tck = false) :
    device.clock loaded (tms, tdi) = (device.rise loaded tms tdi).fall := by
  have risen : (device.rise loaded tms tdi).tck = true := rfl
  simp [Device.clock, Device.drive, low, risen]

@[simp] lemma clock_tck (low : device.tck = false) (line) :
    (device.clock loaded line).tck = false := by
  rw [clock_low loaded low]
  rfl

lemma clock_tap (low : device.tck = false) :
    (device.clock loaded (tms, tdi)).tap = device.tap.next tms := by
  rw [clock_low loaded low]
  simp only [Device.fall, Device.rise]
  split <;> rfl

def risen (tap : Tap) (tdi : Bool) : List Action :=
  match tap with
  | .capture register => [.captured register]
  | .shift register => [.shifted register tdi]
  | _ => []

def fallen (tap : Tap) : List Action :=
  match tap with
  | .update register => [.updated register]
  | _ => []

def actions (tap : Tap) (tms tdi : Bool) : List Action := risen tap tdi ++ fallen (tap.next tms)

lemma rise_log : (device.rise loaded tms tdi).log = device.log ++ risen device.tap tdi := by
  unfold Device.rise risen
  cases device.tap <;> simp [Device.put]

lemma fall_log : device.fall.log = device.log ++ fallen device.tap := by
  unfold Device.fall fallen
  cases device.tap <;> simp

lemma clock_log (low : device.tck = false) :
    (device.clock loaded (tms, tdi)).log = device.log ++ actions device.tap tms tdi := by
  rw [clock_low loaded low, fall_log, rise_log, List.append_assoc]
  rfl

def follow : Tap × List Action → List (Bool × Bool) → Tap × List Action
  | place, [] => place
  | place, line :: rest => follow (place.1.next line.1, place.2 ++ actions place.1 line.1 line.2) rest

lemma clocks_follow (lines) :
    ∀ {device : Device}, device.tck = false →
      (device.clocks loaded lines).tck = false ∧
      ((device.clocks loaded lines).tap, (device.clocks loaded lines).log) =
        follow (device.tap, device.log) lines := by
  induction lines with
  | nil => intro device low; exact ⟨low, rfl⟩
  | cons line rest ih =>
    intro device low
    obtain ⟨tck, reached⟩ := ih (clock_tck loaded low line)
    refine ⟨tck, reached.trans ?_⟩
    rw [clock_tap loaded low, clock_log loaded low, follow]

end

lemma follow_append (place first second) :
    follow place (first ++ second) = follow (follow place first) second := by
  induction first generalizing place with
  | nil => rfl
  | cons line rest ih => exact ih _

def entry : Register → List (Bool × Bool)
  | .instruction => [(true, false), (true, false), (false, false), (false, false)]
  | .data => [(true, false), (false, false), (false, false)]

def leaving : List (Bool × Bool) := [(true, false), (false, false)]

variable (register : Register) (log : List Action)

lemma follow_entry :
    follow (.runTestIdle, log) (entry register) = (.shift register, log ++ [.captured register]) := by
  cases register <;> simp [entry, follow, Tap.next, actions, risen, fallen]

lemma follow_leaving :
    follow (.exit1 register, log) leaving = (.runTestIdle, log ++ [.updated register]) := by
  simp [leaving, follow, Tap.next, actions, risen, fallen]

lemma follow_shift (bits : List Bool) :
    follow (.shift register, log) (bits.map fun tdi => (false, tdi)) =
      (.shift register, log ++ bits.map (.shifted register)) := by
  induction bits generalizing log with
  | nil => simp [follow]
  | cons tdi rest ih =>
    rw [List.map_cons, follow]
    simp [Tap.next, actions, risen, fallen, ih]

def lastRaised : List Bool → List (Bool × Bool)
  | [] => []
  | [tdi] => [(true, tdi)]
  | tdi :: rest => (false, tdi) :: lastRaised rest

lemma follow_lastRaised (bits) (some_ : bits ≠ []) :
    follow (.shift register, log) (lastRaised bits) =
      (.exit1 register, log ++ bits.map (.shifted register)) := by
  induction bits generalizing log with
  | nil => exact absurd rfl some_
  | cons tdi rest ih =>
    cases rest with
    | nil => simp [lastRaised, follow, Tap.next, actions, risen, fallen]
    | cons next further =>
      have later := ih (log ++ [.shifted register tdi]) (List.cons_ne_nil next further)
      rw [lastRaised, follow]
      · simpa [Tap.next, actions, risen, fallen] using later
      · intro none_
        cases none_

def scan (bits : List Bool) : List Action :=
  [.captured register] ++ bits.map (.shifted register) ++ [.updated register]

lemma follow_scan (bits) (some_ : bits ≠ []) :
    follow (.runTestIdle, log) (entry register ++ lastRaised bits ++ leaving) =
      (.runTestIdle, log ++ scan register bits) := by
  rw [follow_append, follow_append, follow_entry, follow_lastRaised register _ bits some_,
    follow_leaving]
  simp [scan]

end EmuLib.TapController
