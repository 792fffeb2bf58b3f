import EmuLib.Svf.Scans

/-!
The number of errors that the players return, and when it tells that the chain was as expected.
-/

namespace EmuLib.Svf

open Lines TapController VmeController List

def Chain.behind (chain : Chain) (sent : List Scan) (hdrbits i : Nat) : Bool :=
  chain.shiftedOut sent (i + hdrbits)

def Item.isScan : Item → Bool
  | .scan _ _ _ _ _ => true
  | .other _ => false
  | .part _ _ _ => false

def Item.answer (frames : Frames) : Item → Nat → Bool
  | .scan register statement _ _ _ => fun bit =>
    (statement.content .tdo).testBit (bit - (frames (headerOf register)).1)
  | .other _ => fun _ => false
  | .part _ _ _ => fun _ => false

def answers : List Item → Frames → List (Nat → Bool)
  | [], _ => []
  | item :: rest, frames =>
    (if item.isScan then [item.answer frames] else []) ++ answers rest (item.after frames)

lemma Item.Valid.more {item : Item} {bufSize more} (valid : item.Valid bufSize)
    (room : bufSize ≤ more) : item.Valid more := by
  cases item with
  | other line => exact valid
  | part kind statement lineEnd => exact valid
  | scan register statement broken last lineEnd =>
    exact ⟨valid.valid, valid.joined, valid.first, valid.goes_on,
      Nat.lt_of_lt_of_le valid.fits room⟩

end EmuLib.Svf
