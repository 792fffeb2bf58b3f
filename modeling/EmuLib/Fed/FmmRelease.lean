import Mathlib.Algebra.Ring.Int.Defs
import Mathlib.Algebra.Ring.Nat
import Mathlib.Data.List.Nodup
import EmuLib.Lib.GuardedRun

/-!
How the interrupt threads of the FED crates count the fibers in error and decide to release the
FMMs, section by section.
-/

namespace EmuLib.Fed.FmmRelease

open GuardedRun Function

/-- The crates of the endcap by their numbers, the slots of their DDUs, and the fibers whose errors
are to be ignored. -/
structure Setup where
  crates : List Nat
  slots : Nat → List Nat
  crates_nodup : crates.Nodup
  slots_nodup : ∀ crate, (slots crate).Nodup
  ignoreErr : Nat → Nat → Nat → Bool
  isTrackFinder : Nat → Bool
  fmmErrorThreshold : BitVec 32

structure Interrupt where
  errorData : BitVec 16
  cscStatus : BitVec 16
  advStatus : BitVec 16
  l1a : Nat

namespace Interrupt

variable (irq : Interrupt)

def slot : Nat := ((irq.errorData &&& 0x1f00) >>> 8).toNat

def hardError : Bool := irq.errorData &&& 0x8000 != 0

end Interrupt

/-- `errorHistory` of a DDU: the fibers in error now, in error before a release of the FMMs, and in
error again before a later one. -/
structure FiberHistory where
  current : BitVec 16
  first : BitVec 16
  second : BitVec 16

def FiberHistory.shift (history : FiberHistory) : FiberHistory where
  second := history.second ||| (history.current &&& history.first)
  first := history.first ||| history.current
  current := 0

def FiberHistory.clearCurrent (history : FiberHistory) : FiberHistory :=
  { history with current := 0 }

structure Handled where
  slot : Nat
  combinedStatus : BitVec 16
  doReset : Bool
  hardError : Bool

inductive Release
  | none_
  | enableFMM
  | setDDUerr
deriving DecidableEq

inductive Phase
  | resetting
  | barrier
  | waiting
  | recording (handled : Handled)
  | counting (handled : Handled)
  | released (handled : Handled) (release : Release)
  | ended

structure Thread where
  phase : Phase
  nErrors : Nat → Nat
  nIgnFibers : Nat → Nat
  lastDDUError : Nat → BitVec 16
  lastL1A : Nat

/-- What is read of a DDU, with the dynamic ignore list of that moment. -/
structure Reading where
  status : BitVec 16
  l1a : Nat
  ignored : BitVec 16

/-- A record of the run, the last entry first: the interrupts, the sections in which a crate gives
its counts, and the resets of the crates. No thread looks at it. -/
inductive Entry
  | read (crate slot : Nat) (reading : Reading)
  | counted (crate : Nat)
  | restarted (crate : Nat)

structure System where
  thread : Nat → Thread
  errorCount : Nat → Nat
  ignErrCnt : Nat → Nat
  errorHistory : Nat → Nat → FiberHistory
  log : List Entry

section

variable (setup : Setup)

def ignBits (crate slot : Nat) : BitVec 16 :=
  (List.range 15).foldl
    (fun bits iFiber => if setup.ignoreErr crate slot iFiber then bits ||| (1#16 <<< iFiber) else bits) 0

def combinedStatus (crate slot : Nat) (status : BitVec 16) : BitVec 16 :=
  if ignBits setup crate slot ≠ 0 then status &&& ~~~(ignBits setup crate slot) else status

def bitCount (bits : BitVec 16) : Nat := (List.range 16).countP fun bit => bits.getLsbD bit

def chamberErrors (combined : BitVec 16) : Nat :=
  if 32768 ≤ combined.toNat ∧ 0 < bitCount combined then bitCount combined - 1
  else bitCount combined

end

def Thread.started (phase : Phase) : Thread := ⟨phase, fun _ => 0, fun _ => 0, fun _ => 0, 0⟩

def System.initial : System where
  thread := fun _ => .started .resetting
  errorCount := fun _ => 0
  ignErrCnt := fun _ => 0
  errorHistory := fun _ _ => ⟨0, 0, 0⟩
  log := []

namespace System

variable (setup : Setup) (system : System) (crate : Nat)

def setThread (thread : Thread) : System :=
  { system with thread := update system.thread crate thread }

def setPhase (phase : Phase) : System :=
  system.setThread crate { system.thread crate with phase := phase }

def interrupt (irq : Interrupt) : System :=
  if irq.slot ∈ setup.slots crate then
    let thread := system.thread crate
    let status := irq.cscStatus ||| irq.advStatus
    let combined := combinedStatus setup crate irq.slot status
    let xorStatus := combined ^^^ thread.lastDDUError irq.slot
    let ignored := (system.errorHistory crate irq.slot).second
    let doReset := decide (xorStatus &&& ~~~combined ≠ 0) ||
      (decide (0 < irq.l1a) && decide (irq.l1a < thread.lastL1A))
    let newErrors := xorStatus &&& combined &&& 0x7fff
    let handled : Handled := ⟨irq.slot, combined, doReset, irq.hardError⟩
    { system.setThread crate
        { phase :=
            if newErrors = 0 then if doReset then .resetting else .waiting else .recording handled
          nErrors := update thread.nErrors irq.slot (chamberErrors combined)
          nIgnFibers := update thread.nIgnFibers irq.slot (bitCount (ignored &&& combined))
          lastDDUError :=
            if newErrors = 0 then thread.lastDDUError
            else update thread.lastDDUError irq.slot combined
          lastL1A := irq.l1a } with
      log := .read crate irq.slot ⟨status, irq.l1a, ignored⟩ :: system.log }
  else system

def record (handled : Handled) : System :=
  { system.setPhase crate (.counting handled) with
    errorHistory := update system.errorHistory crate
      (update (system.errorHistory crate) handled.slot
        { system.errorHistory crate handled.slot with
          current := handled.combinedStatus &&& 0x7fff }) }

def publish : System :=
  { system with
    errorCount := update system.errorCount crate
      ((setup.slots crate).map (system.thread crate).nErrors).sum
    ignErrCnt := update system.ignErrCnt crate
      ((setup.slots crate).map (system.thread crate).nIgnFibers).sum
    log := .counted crate :: system.log }

def totalErrors (handled : Handled) : Int :=
  let thread := system.thread crate
  let totalErrors : Int := (setup.crates.map system.errorCount).sum
  let numIgnFibers : Int := (setup.crates.map system.ignErrCnt).sum
  if handled.doReset then (thread.nErrors handled.slot : Int) - thread.nIgnFibers handled.slot
  else if 0 < numIgnFibers then
    if totalErrors - numIgnFibers < 0 then 0 else totalErrors - numIgnFibers
  else totalErrors

def releaseFor (handled : Handled) (total : Int) : Release :=
  if setup.fmmErrorThreshold.toInt ≤ total then
    if setup.isTrackFinder crate then .none_
    else if handled.hardError then .enableFMM
    else .setDDUerr
  else .none_

def count (handled : Handled) : System :=
  let published := system.publish setup crate
  published.setPhase crate
    (.released handled (releaseFor setup crate handled (published.totalErrors setup crate handled)))

/-- The section in which the history goes on when the FMMs have been released, and the end of the
handling. -/
def finish (handled : Handled) (release : Release) : System :=
  { system.setPhase crate (if handled.doReset then .resetting else .waiting) with
    errorHistory := if release = .none_ then system.errorHistory
      else fun other slot => (system.errorHistory other slot).shift }

def restart : System :=
  { system.setThread crate (.started .barrier) with
    errorCount := update system.errorCount crate 0
    ignErrCnt := update system.ignErrCnt crate 0
    errorHistory := update system.errorHistory crate
      fun slot => (system.errorHistory crate slot).clearCurrent
    log := .restarted crate :: system.log }

end System

/-- `poll` is a pass of the inner loop without an interrupt, which may find that there was a reset;
`go` goes on to the next section; `fail` is an exception of a board access. -/
inductive Input
  | interrupt (crate : Nat) (irq : Interrupt)
  | poll (crate : Nat)
  | go (crate : Nat)
  | fail (crate : Nat)

def step (setup : Setup) (system : System) : Input → System
  | .interrupt crate irq =>
    match (system.thread crate).phase with
    | .waiting => system.interrupt setup crate irq
    | _ => system
  | .poll crate =>
    match (system.thread crate).phase with
    | .waiting => system.setPhase crate .resetting
    | _ => system
  | .go crate =>
    match (system.thread crate).phase with
    | .resetting => system.restart crate
    | .barrier => system.setPhase crate .waiting
    | .recording handled => system.record crate handled
    | .counting handled => system.count setup crate handled
    | .released handled release => system.finish crate handled release
    | .waiting | .ended => system
  | .fail crate => system.setPhase crate .ended

def run (setup : Setup) (inputs : List Input) : System :=
  runFrom (step setup) .initial inputs

end EmuLib.Fed.FmmRelease
