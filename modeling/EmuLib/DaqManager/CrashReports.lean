import EmuLib.DaqManager.AppStates
import EmuLib.Lib.GuardedRun

/-!
The crashes of RUIs that the DAQ manager reports to the expert system.
-/

namespace EmuLib.DaqManager.CrashReports

open GuardedRun

/-- The applications by the addresses of their descriptors, in ascending order. -/
structure Setup where
  apps : List Nat
  ruis : List Nat
  getInstance : Nat → Nat

/-- The first one with the smallest instance. From 99999 on the iterator is not initialized. -/
def adOfSmallest (getInstance : Nat → Nat) (descriptors : List Nat) : Option Nat :=
  descriptors.foldl (fun smallest ad =>
    if getInstance ad < (smallest.map getInstance).getD 99999 then some ad else smallest) none

def getAppDescriptors (getInstance : Nat → Nat) : Nat → List Nat → List Nat
  | 0, _ => []
  | count + 1, descriptors =>
    match adOfSmallest getInstance descriptors with
    | none => []
    | some ad => ad :: getAppDescriptors getInstance count (descriptors.erase ad)

def Setup.ruiDescriptors (setup : Setup) : List Nat :=
  getAppDescriptors setup.getInstance setup.ruis.length setup.ruis

/-- The half that is left gets shorter in each turn. -/
def lowerBound (vector : List Nat) (value : Nat) : Nat → Nat → Nat → Nat
  | 0, first, _ => first
  | turns + 1, first, len =>
    if len = 0 then first
    else if vector.getD (first + len / 2) 0 < value then
      lowerBound vector value turns (first + len / 2 + 1) (len - len / 2 - 1)
    else lowerBound vector value turns first (len / 2)

def binarySearch (vector : List Nat) (value : Nat) : Bool :=
  let place := lowerBound vector value vector.length 0 vector.length
  decide (place < vector.length) && !decide (value < vector.getD place 0)

abbrev States := Nat → String

inductive Query
  | getDAQState (refresh : Option States)
  | queryAppStates (refresh : Option States)

/-- The states are kept with what was sent for each RUI, how often it has crashed, and how often of
that since the last call of `getDAQState`. -/
structure Reporting where
  currentAppStates : States
  previousAppStates : Option States
  sent : Nat → Nat
  crashes : Nat → Nat
  crashesSince : Nat → Nat

/-- As `createAllAppStates` leaves it. -/
def created : Reporting := ⟨fun _ => "", none, fun _ => 0, fun _ => 0, fun _ => 0⟩

section

variable (setup : Setup) (reporting : Reporting) (refresh : Option States)

def isEmpty (states : States) : Bool :=
  setup.apps.isEmpty || setup.apps.any fun app => states app = ""

def combined (states : States) : String :=
  getCombinedState (setup.apps.map fun app => (app, states app))

def refreshed : States := refresh.getD reporting.currentAppStates

def shifted : Option States :=
  if isEmpty setup reporting.currentAppStates then reporting.previousAppStates
  else some reporting.currentAppStates

/-- What `reportCrashedApps` sends for an RUI. -/
def announced (current : States) (previous : Option States) (rui : Nat) : Nat :=
  if isEmpty setup current then 0
  else if combined setup current = "UNKNOWN" ∧
      ¬ (previous.isSome ∧ ∀ app ∈ setup.apps, some (current app) = previous.map (· app)) then
    if rui ∈ setup.apps ∧ current rui = "UNKNOWN" ∧ previous.map (· rui) ≠ some "UNKNOWN" ∧
        binarySearch setup.ruiDescriptors rui = true then 1
    else 0
  else 0

/-- A state that is assigned and is not the unknown one becomes the unknown one. -/
def crash (rui : Nat) : Nat :=
  match refresh with
  | none => 0
  | some states =>
    if reporting.currentAppStates rui ≠ "" ∧ reporting.currentAppStates rui ≠ "UNKNOWN" ∧
        states rui = "UNKNOWN" then 1
    else 0

def step : Query → Reporting
  | .getDAQState refresh =>
    { currentAppStates := refreshed reporting refresh
      previousAppStates := shifted setup reporting
      sent := fun rui => reporting.sent rui +
        announced setup (refreshed reporting refresh) (shifted setup reporting) rui
      crashes := fun rui => reporting.crashes rui + crash reporting refresh rui
      crashesSince := fun _ => 0 }
  | .queryAppStates refresh =>
    { reporting with
      currentAppStates := refreshed reporting refresh
      crashes := fun rui => reporting.crashes rui + crash reporting refresh rui
      crashesSince := fun rui => reporting.crashesSince rui + crash reporting refresh rui }

/-- What has been sent for each RUI are its crashes, but for those after which `getDAQState` has not
been called. -/
def Accounted : Prop :=
  ∀ rui ∈ setup.ruis, reporting.crashes rui = reporting.sent rui + reporting.crashesSince rui

/-- An RUI is seen to have become unknown if all applications have a state, these are unknown
together, the RUI was not unknown at the last call and the search comes to its descriptor. -/
structure Seen (current : States) (previous : Option States) (rui : Nat) : Prop where
  listed : rui ∈ setup.apps
  assigned : ∀ app ∈ setup.apps, current app ≠ ""
  together : combined setup current = "UNKNOWN"
  unknown : current rui = "UNKNOWN"
  known : previous.map (· rui) ≠ some "UNKNOWN"
  found : binarySearch setup.ruiDescriptors rui = true

/-- Where an RUI has crashed, in this query or in one for facts since the last call, it was once and
it is seen; and no other RUI is. -/
def Timely : Query → Prop
  | .getDAQState refresh => ∀ rui ∈ setup.ruis,
    if reporting.crashesSince rui = 0 ∧ crash reporting refresh rui = 0 then
      ¬ Seen setup (refreshed reporting refresh) (shifted setup reporting) rui
    else
      reporting.crashesSince rui + crash reporting refresh rui = 1 ∧
        Seen setup (refreshed reporting refresh) (shifted setup reporting) rui
  | .queryAppStates _ => True

variable {setup reporting}

lemma announced_seen {current previous rui}
    (seen : Seen setup current previous rui) : announced setup current previous rui = 1 := by
  have listed : isEmpty setup current = false := by
    rw [isEmpty, Bool.or_eq_false_iff, List.isEmpty_eq_false_iff, List.any_eq_false]
    refine ⟨List.ne_nil_of_mem seen.listed, fun app member => ?_⟩
    simpa using seen.assigned app member
  have differs : ¬ (previous.isSome ∧
      ∀ app ∈ setup.apps, some (current app) = previous.map (· app)) := by
    rintro ⟨-, same⟩
    have here := same rui seen.listed
    rw [seen.unknown] at here
    exact seen.known here.symm
  rw [announced, listed, if_neg Bool.false_ne_true, if_pos ⟨seen.together, differs⟩,
    if_pos ⟨seen.listed, seen.unknown, seen.known, seen.found⟩]

lemma announced_unseen {current previous rui}
    (unseen : ¬ Seen setup current previous rui) : announced setup current previous rui = 0 := by
  rw [announced]
  split
  next => rfl
  next assigned =>
    split
    next together =>
      refine if_neg fun ⟨listed, unknown, known, found⟩ => unseen ?_
      refine ⟨listed, fun app member missing => assigned ?_, together.1, unknown, known, found⟩
      rw [isEmpty, Bool.or_eq_true, List.any_eq_true]
      exact .inr ⟨app, member, decide_eq_true missing⟩
    next => rfl

lemma step_accounted_iff (query) (accounted : Accounted setup reporting) :
    Accounted setup (step setup reporting query) ↔ Timely setup reporting query := by
  cases query with
  | getDAQState refresh =>
    refine forall₂_congr fun rui member => ?_
    have before := accounted rui member
    simp only [step, before]
    by_cases seen : Seen setup (refreshed reporting refresh) (shifted setup reporting) rui
    · rw [announced_seen seen]
      split
      next none_ => exact ⟨fun right => by omega, fun unseen => absurd seen unseen⟩
      next some_ => exact ⟨fun right => ⟨by omega, seen⟩, fun once => by omega⟩
    · rw [announced_unseen seen]
      split
      next none_ => exact ⟨fun _ => seen, fun _ => by omega⟩
      next some_ => exact ⟨fun right => absurd (by omega) some_, fun once => absurd once.2 seen⟩
  | queryAppStates refresh =>
    refine ⟨fun _ => trivial, fun _ rui member => ?_⟩
    have before := accounted rui member
    simp only [step, before]
    omega

end

theorem crashes_reported_iff (setup : Setup) (queries : List Query) :
    (∀ earlier, earlier <+: queries →
      Accounted setup (runFrom (step setup) created earlier)) ↔
      Guarded (step setup) (Timely setup) created queries :=
  always_iff_guarded (fun _ => step_accounted_iff) queries fun _ _ => rfl

theorem crash_unreported :
    let setup : Setup := ⟨[10], [10], fun _ => 0⟩
    let reported : States := fun _ => "Enabled"
    let crashed : States := fun _ => "UNKNOWN"
    ¬ Accounted setup (runFrom (step setup) created
      [.getDAQState (some reported), .queryAppStates (some crashed), .getDAQState none]) := by
  intro setup reported crashed accounted
  have missed := accounted 10 List.mem_cons_self
  revert missed
  decide

end EmuLib.DaqManager.CrashReports
