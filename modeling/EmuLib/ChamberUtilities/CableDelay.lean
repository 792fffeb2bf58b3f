import EmuLib.ChamberUtilities.WindowAnalysis
import EmuLib.Lib.Table
import Mathlib.Algebra.BigOperators.Ring.Finset

/-!
The measurement of a cable delay from histograms of the DMB's scopes.
-/

namespace EmuLib.ChamberUtilities

open List Option Function

open Table (entry enter Shows)

def noData : Rat := -999

structure TimingReading where
  counters : Fin 4 → BitVec 8
  scopes : Fin 4 → BitVec 8

namespace TimingReading

variable (reading : TimingReading)

def l1aLctCounter : Nat := (reading.counters 0).toNat
def cfebDavCounter : Nat := (reading.counters 1).toNat
def tmbDavCounter : Nat := (reading.counters 2).toNat
def alctDavCounter : Nat := (reading.counters 3).toNat

def cfebDavScope : Nat := (reading.scopes 0).toNat &&& 0x1f
def tmbDavScope : Nat :=
  (((reading.scopes 1).toNat <<< 3) &&& 0x18) + (((reading.scopes 0).toNat >>> 5) &&& 0x07)
def alctDavScope : Nat := ((reading.scopes 1).toNat >>> 2) &&& 0x1f
end TimingReading

structure DmbHistograms where
  affToL1aValue : List Nat
  cfebDavValue : List Nat
  tmbDavValue : List Nat
  alctDavValue : List Nat
  affToL1aScope : List Nat
  cfebDavScope : List Nat
  tmbDavScope : List Nat
  alctDavScope : List Nat

def increment (histogram : List Nat) (bin amount : Nat) : Option (List Nat) := do
  let count ← entry histogram bin
  enter histogram bin (count + amount)

inductive BoardCall
  | writeTrigger (mpcOutputEnable : Int)
  | setcbldly (cableDelay : Nat)
  deriving DecidableEq

structure Boards where
  mpcOutputEnable : Int
  cableDelay : Nat
  calls : List BoardCall
  deriving DecidableEq

namespace Boards

variable (boards : Boards)

def setcbldly : Boards := { boards with calls := boards.calls ++ [.setcbldly boards.cableDelay] }

end Boards

structure DelayScan where
  average : List Rat
  histo : List (List Nat)
  boards : Boards

section

open Table (foldlM_range')

variable {histogram : List Nat} {size : Nat} {values : Int → Nat} {minValue maxValue : Int}

end

section

open Table (foldlM_range')

variable {values : Int → Rat} {table : List Rat} {maxDelay : Nat}

end

section

open Table (foldlM_range' foldlM_turns)

variable {histogram next : List Nat} {size bin amount : Nat} {values : Int → Nat}
  {histograms after : DmbHistograms} {reading : TimingReading}

structure Sized (histograms : DmbHistograms) : Prop where
  affToL1aValue : histograms.affToL1aValue.length = 255
  cfebDavValue : histograms.cfebDavValue.length = 255
  tmbDavValue : histograms.tmbDavValue.length = 255
  alctDavValue : histograms.alctDavValue.length = 255
  affToL1aScope : histograms.affToL1aScope.length = 5
  cfebDavScope : histograms.cfebDavScope.length = 5
  tmbDavScope : histograms.tmbDavScope.length = 5
  alctDavScope : histograms.alctDavScope.length = 5

structure Counted (reading : TimingReading) : Prop where
  affToL1a : reading.l1aLctCounter < 255
  cfebDav : reading.cfebDavCounter < 255
  tmbDav : reading.tmbDavCounter < 255
  alctDav : reading.alctDavCounter < 255

def scopeBit (scope bin : Nat) : Nat := (scope >>> bin) &&& 1

def scopeCount (numberOfDataReads : Nat) (readings : Nat → TimingReading) (bin : Nat) : Nat :=
  ∑ i ∈ Finset.range numberOfDataReads, scopeBit (readings i).alctDavScope bin

end

open Table (foldlM_range' foldlM_turns)

variable {numberOfDataReads : Nat} {readings : Nat → Nat → TimingReading}

def scopeEntries (numberOfDataReads : Nat) (readings : Nat → TimingReading) : Nat :=
  ∑ bin ∈ Finset.range 5, scopeCount numberOfDataReads readings bin

structure AverageOf (entries : Nat) (average : Rat) : Prop where
  usable : 10 < entries → 0 ≤ average ∧ average ≤ 4
  none_ : entries ≤ 10 → average = noData

structure Scanning (numberOfDataReads : Nat) (readings : Nat → Nat → TimingReading) (count : Nat)
    (scan : DelayScan) (values : Int → Rat) : Prop where
  average : Shows scan.average 4 values
  measured : ∀ delay < count, AverageOf (scopeEntries numberOfDataReads (readings delay))
    (values (delay : Nat))
  histo : scan.histo.length = 4
  rows : ∀ row ∈ scan.histo, row.length = 5

lemma AverageOf.limits {entries average} (measured : AverageOf entries average) :
    average = noData ∨ 0 ≤ average ∧ average ≤ 4 := by
  rcases Nat.lt_or_ge 10 entries with several | few
  · exact .inr (measured.usable several)
  · exact .inl (measured.none_ few)

end EmuLib.ChamberUtilities
