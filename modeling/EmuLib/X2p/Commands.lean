import EmuLib.Lib.Latest
import EmuLib.X2p.EmuDim

/-!
The commands of the detector control system by their texts, and what they ask for.
-/

namespace EmuLib.X2p

open Latest

def StopsSlow (text : Text) : Prop := text.take 10 = "STOP_SLOW_".toList

def ResumesSlow (text : Text) : Prop := text.take 12 = "RESUME_SLOW_".toList

def AsksForData (text : Text) : Prop := text.drop (text.length - 8) = "get_data".toList

def TurnsChamberOff (text name : Text) : Prop :=
  ¬ AsksForData text ∧ text.take 16 = "TURN_CHAMBER_OFF".toList ∧
    (text.drop 16 = name ∨ text.drop 17 = name)

def TurnsCrateOff (text name : Text) : Prop :=
  ¬ AsksForData text ∧ text.take 15 = "CRATE_POWER_OFF".toList ∧ text.drop 16 = name

def Prepares (text name : Text) : Prop :=
  ¬ AsksForData text ∧ text.take 13 = "PREPARE_POWER".toList ∧ text.drop 17 = name

def Executes (text : Text) : Prop :=
  ¬ AsksForData text ∧ text.take 13 = "EXECUTE_POWER".toList

def Cancels (text name : Text) : Prop :=
  StopsSlow text ∨ ResumesSlow text ∨ TurnsChamberOff text name ∨ TurnsCrateOff text name

def Setup.IsCrate (setup : Setup) (name : Text) : Prop :=
  0 ≤ setup.crateNumber name ∧ setup.crateNumber name < totalCrates

def SuspendedBy (history : List Text) : Prop := Since (fun _ => StopsSlow) ResumesSlow history

def Executing (commands : List Text) : Prop :=
  Since (fun _ => Executes) (fun text => StopsSlow text ∨ ResumesSlow text) commands

def Prepared (history : List Text) (name : Text) : Prop :=
  Since (fun _ text => Prepares text name) (fun text => Cancels text name) history

def Answered (history commands : List Text) (name : Text) : Prop :=
  Since (fun earlier text => Executes text ∧ Prepared (history ++ earlier) name)
    (fun _ => False) commands

def Late (commands : List Text) (name : Text) : Prop :=
  Since (fun earlier text => Executing earlier ∧ Prepares text name)
    (fun text => Executes text ∨ Cancels text name) commands

structure Legible (setup : Setup) (text : Text) : Prop where
  long : StopsSlow text ∨ ResumesSlow text ∨ 8 ≤ text.length
  chamberOff : ∀ name, TurnsChamberOff text name → ¬ setup.IsCrate name
  crateOff : ∀ name, TurnsCrateOff text name → setup.IsCrate name
  prepare : ∀ name, Prepares text name → 17 ≤ text.length ∧
    setup.crateNumber name < totalCrates ∧ (setup.IsCrate name → name.length ≤ 66)

def Named (text name : Text) : Prop := Prepares text name ∨ TurnsCrateOff text name

def OneName (setup : Setup) (texts : List Text) : Prop :=
  ∀ text ∈ texts, ∀ other ∈ texts, ∀ name second, Named text name → Named other second →
    setup.IsCrate name → setup.crateNumber name = setup.crateNumber second → name = second

section

variable {text name : Text}

lemma head_of_take {first} {later : Text} {length}
    (starts : text.take length = first :: later) : text.head? = some first := by
  cases text with
  | nil =>
    rw [List.take_nil] at starts
    cases starts
  | cons char rest =>
    cases length with
    | zero => cases starts
    | succ length =>
      rw [(List.cons.inj starts).1]
      rfl

lemma StopsSlow.head (stops : StopsSlow text) : text.head? = some 'S' := head_of_take stops

lemma ResumesSlow.head (resumes : ResumesSlow text) : text.head? = some 'R' :=
  head_of_take resumes

lemma TurnsChamberOff.head (off : TurnsChamberOff text name) : text.head? = some 'T' :=
  head_of_take off.2.1

lemma TurnsCrateOff.head (off : TurnsCrateOff text name) : text.head? = some 'C' :=
  head_of_take off.2.1

lemma Prepares.head (prepares : Prepares text name) : text.head? = some 'P' :=
  head_of_take prepares.2.1

lemma Executes.head (executes : Executes text) : text.head? = some 'E' :=
  head_of_take executes.2

lemma apart {one other} (first : text.head? = some one) (second : text.head? = some other)
    (differ : one ≠ other) : False :=
  differ (Option.some.inj (first.symm.trans second))

end

variable {setup : Setup} {text name other : Text}

lemma Prepares.keeps (prepares : Prepares text name) : ¬ Cancels text other := by
  rintro (stops | resumes | off | off)
  · exact apart prepares.head stops.head (by decide)
  · exact apart prepares.head resumes.head (by decide)
  · exact apart prepares.head off.head (by decide)
  · exact apart prepares.head off.head (by decide)

lemma Executes.keeps (executes : Executes text) : ¬ Cancels text other := by
  rintro (stops | resumes | off | off)
  · exact apart executes.head stops.head (by decide)
  · exact apart executes.head resumes.head (by decide)
  · exact apart executes.head off.head (by decide)
  · exact apart executes.head off.head (by decide)

lemma TurnsCrateOff.keeps (turnsOff : TurnsCrateOff text name) (differ : other ≠ name) :
    ¬ Cancels text other := by
  rintro (stops | resumes | off | off)
  · exact apart turnsOff.head stops.head (by decide)
  · exact apart turnsOff.head resumes.head (by decide)
  · exact apart turnsOff.head off.head (by decide)
  · exact differ (off.2.2.symm.trans turnsOff.2.2)

lemma keeps_ignored (legible : Legible setup text) (stops : ¬ StopsSlow text)
    (resumes : ¬ ResumesSlow text) (named : ∀ name, ¬ Named text name)
    (known : setup.IsCrate other) : ¬ Cancels text other := by
  rintro (stopping | resuming | off | off)
  · exact stops stopping
  · exact resumes resuming
  · exact legible.chamberOff other off known
  · exact named other (.inr off)

end EmuLib.X2p
