import EmuLib.Lib.TextStream

/-!
The relay between the DIM commands of the detector control system and the pages of the Yellow and
the Blue page: it stops and starts the monitoring, and has crates powered up and switched off.
-/

namespace EmuLib.X2p

open TextStream

abbrev Text := List Char

def totalCrates : Nat := 30

def confirmationSize : Nat := 80

/-- `overflow` is what `atoi` makes of a number that no `int` holds. -/
structure Setup where
  endCap : Int
  overflow : Int → Int

namespace Setup

def atoi (setup : Setup) (text : Text) : Int :=
  let signed := extractSign (text.dropWhile isSpace)
  let digits := signed.2.takeWhile Char.isDigit
  let magnitude := digits.foldl (fun value digit => 10 * value + (digit.toNat - '0'.toNat)) 0
  let value : Int := if signed.1 then -magnitude else magnitude
  if -0x80000000 ≤ value ∧ value < 0x80000000 then value else setup.overflow value

def crateLabel (setup : Setup) : Text :=
  if 0 < setup.endCap then "VMEp".toList
  else if setup.endCap < 0 then "VMEm".toList
  else "VME".toList

def crateNumber (setup : Setup) (chname : Text) : Int :=
  if chname.length < 7 then -1
  else if chname.take setup.crateLabel.length ≠ setup.crateLabel then -2
  else
    let station := setup.atoi (chname.drop 4)
    let chnumb := setup.atoi (chname.drop 6)
    if 12 < chnumb ∨ chnumb < 1 then -3
    else if 4 < station ∨ station < 1 then -4
    else if 1 < station then chnumb - 1 + station * 6
    else chnumb - 1

end Setup

inductive Answer where
  | initializing
  | initIsDone
  | initFailed
  deriving DecidableEq

def Answer.text : Answer → Text
  | .initializing => "INITIALIZING;".toList
  | .initIsDone => "INIT_IS_DONE;".toList
  | .initFailed => "INIT_FAILED;".toList

inductive Request where
  | monitorStop
  | monitorStart
  | newData
  | chamberOff (crate : Text)
  | crateOff (crate : Text)
  | crateOn (crate : Text)
  | reload
  | powerUp (crate : Text)
  | confirm (answer : Answer) (crate : Text)
  deriving DecidableEq

def Request.text (xmasRoot blueRoot : Text) : Request → Text
  | .monitorStop => xmasRoot ++ "/MonitorStop".toList
  | .monitorStart => xmasRoot ++ "/MonitorStart".toList
  | .newData => xmasRoot ++ "/SwitchBoard?NEWDATA".toList
  | .chamberOff crate => blueRoot ++ "/SwitchBoard?CHAMBEROFF=".toList ++ crate
  | .crateOff crate => xmasRoot ++ "/SwitchBoard?CRATEOFF=".toList ++ crate
  | .crateOn crate => xmasRoot ++ "/SwitchBoard?CRATEON=".toList ++ crate
  | .reload => blueRoot ++ "/SwitchBoard?RELOAD".toList
  | .powerUp crate => blueRoot ++ "/SwitchBoard?POWERUP=".toList ++ crate
  | .confirm answer crate => answer.text ++ crate

/-- `startPowerup` belongs to the call of `CheckCommand` that is running, which an exception may
have left. After an access behind an array nothing is known of the relay: it is `stray`. -/
structure Relay where
  suspended : Bool
  crateState : Nat → Int
  crateName : Nat → Text
  startPowerup : Bool
  threw : Bool
  stray : Bool
  log : List Request

namespace Relay

def created : Relay := ⟨false, fun _ => 0, fun _ => [], false, false, false, []⟩

def request (relay : Relay) (request : Request) : Relay :=
  { relay with log := relay.log ++ [request] }

def setState (relay : Relay) (crate : Nat) (state : Int) : Relay :=
  { relay with crateState := Function.update relay.crateState crate state }

def crateToNumber (setup : Setup) (relay : Relay) (chname : Text) : Relay :=
  let cr := setup.crateNumber chname
  if cr < 0 then relay
  else if totalCrates ≤ cr.toNat then { relay with stray := true }
  else if relay.crateName cr.toNat = [] then
    { relay with crateName := Function.update relay.crateName cr.toNat chname }
  else relay

def stopSlow (relay : Relay) : Relay :=
  { relay.request .monitorStop with
    suspended := true
    startPowerup := false
    crateState := fun _ => 0 }

def resumeSlow (relay : Relay) : Relay :=
  let started := relay.request .monitorStart
  { (if relay.suspended then started.request .newData else started) with
    suspended := false
    startPowerup := false
    crateState := fun _ => 0 }

/-- The name begins at `place`. The request is made for whatever number the name has. -/
def turnOff (setup : Setup) (place : Nat) (off : Text → Request) (relay : Relay)
    (cmnd : Text) : Relay :=
  if cmnd.length < place then { relay with threw := true }
  else
    let cr := setup.crateNumber (cmnd.drop place)
    let named := relay.crateToNumber setup (cmnd.drop place)
    if 0 ≤ cr ∧ cr < totalCrates then
      (named.setState cr.toNat (-1)).request (off (named.crateName cr.toNat))
    else { named with stray := true }

def preparePower (setup : Setup) (relay : Relay) (cmnd : Text) : Relay :=
  if cmnd.length < 17 then { relay with threw := true }
  else
    let cr := setup.crateNumber (cmnd.drop 17)
    let named := relay.crateToNumber setup (cmnd.drop 17)
    let prepared :=
      if 0 ≤ cr ∧ cr < totalCrates then named.setState cr.toNat 1 else named
    if prepared.suspended then prepared else prepared.request .monitorStop

def executePower (relay : Relay) : Relay :=
  { relay.request .reload with startPowerup := true }

/-- One turn of the loop of `CheckCommand`, if it gets that far. A position before the start of the
text throws. -/
def readCommand (setup : Setup) (relay : Relay) (cmnd : Text) : Relay :=
  if relay.threw || relay.stray then relay
  else if cmnd.take 10 = "STOP_SLOW_".toList then relay.stopSlow
  else if cmnd.take 12 = "RESUME_SLOW_".toList then relay.resumeSlow
  else if cmnd.length < 8 then { relay with threw := true }
  else if cmnd.drop (cmnd.length - 8) = "get_data".toList then relay
  else if cmnd.take 15 = "TURN_CHAMBER_OFF".toList then relay.turnOff setup 16 .chamberOff cmnd
  else if cmnd.take 15 = "CRATE_POWER_OFF".toList then relay.turnOff setup 16 .crateOff cmnd
  else if cmnd.take 13 = "PREPARE_POWER".toList then relay.preparePower setup cmnd
  else if cmnd.take 13 = "EXECUTE_POWER".toList then relay.executePower
  else relay

def confirm (relay : Relay) (answer : Answer) (crate : Text) : Relay :=
  if (answer.text ++ crate).length < confirmationSize then relay.request (.confirm answer crate)
  else { relay with stray := true }

def isSuccessful (content : Text) : Bool :=
  decide (27 < content.length) && decide (content.take 19 = "Power Up Successful".toList)

/-- The loop in `PowerUp` for one crate, with the number of crates that are left. -/
def powerUpCrate (content : Nat → Text) (relay : Relay × Nat) (crate : Nat) : Relay × Nat :=
  if relay.1.stray = true ∨ relay.1.crateState crate ≠ 1 then relay
  else
    let name := relay.1.crateName crate
    let asked := relay.1.confirm .initializing name
    if asked.stray then (asked, relay.2)
    else
      let tried := asked.request (.powerUp name)
      if isSuccessful (content crate) then
        (((tried.setState crate 0).request (.crateOn name)).confirm .initIsDone name, relay.2 - 1)
      else (tried.confirm .initFailed name, relay.2)

def powerUp (relay : Relay) (content : Nat → Text) : Relay :=
  let upcrates := (List.range totalCrates).countP fun crate => relay.crateState crate = 1
  if upcrates = 0 then relay
  else
    let tried := (List.range totalCrates).foldl (powerUpCrate content)
      (relay.request .monitorStop, upcrates)
    if tried.1.stray then tried.1
    else if tried.2 = 0 ∧ tried.1.suspended = false then tried.1.request .monitorStart
    else tried.1

end Relay

structure Call where
  commands : List Text
  content : Nat → Text

namespace Relay

/-- The loop of `CheckCommand`. -/
def read (setup : Setup) (relay : Relay) (commands : List Text) : Relay :=
  commands.foldl (readCommand setup) { relay with startPowerup := false, threw := false }

def checkCommand (setup : Setup) (relay : Relay) (call : Call) : Relay :=
  let last := relay.read setup call.commands
  if last.threw || last.stray then last
  else if last.startPowerup then last.powerUp call.content
  else last

def checkCommands (setup : Setup) (calls : List Call) : Relay :=
  calls.foldl (checkCommand setup) created

end Relay

end EmuLib.X2p
