import EmuLib.VmeController.BitBangScan
import Mathlib.Data.Nat.Bitwise

/-!
The bits for bypassed devices, put around the bits of a buffer and cut off again.
-/

namespace EmuLib.DaqmbJtag

open VmeController

structure BitPosition where
  bytepos : Nat
  bitpos : Nat

def BitPosition.next (position : BitPosition) : BitPosition :=
  if position.bitpos + 1 = 8 then ⟨position.bytepos + 1, 0⟩
  else ⟨position.bytepos, position.bitpos + 1⟩

def bitAt (data : Nat → UInt8) (position : BitPosition) : UInt8 :=
  (data position.bytepos >>> UInt8.ofNat position.bitpos) &&& 1

def orBit (buf : Nat → UInt8) (position : BitPosition) (bdata : UInt8) : Nat → UInt8 :=
  Function.update buf position.bytepos
    (buf position.bytepos ||| bdata <<< UInt8.ofNat position.bitpos)

structure Copying where
  buf : Nat → UInt8
  new : BitPosition
  old : BitPosition

def Copying.start : Copying := ⟨fun _ => 0, ⟨0, 0⟩, ⟨0, 0⟩⟩

def Copying.put (copying : Copying) (bdata : UInt8) : Copying :=
  { copying with buf := orBit copying.buf copying.new bdata, new := copying.new.next }

def Copying.skip (copying : Copying) : Copying := { copying with old := copying.old.next }

def copyBack (datain buf : Nat → UInt8) (nbytes : Nat) : Nat → UInt8 := fun byte =>
  if byte < nbytes then buf byte else datain byte

section

variable (datain : Nat → UInt8) (osize head tail : Nat)

def addStep (copying : Copying) (i : Nat) : Copying :=
  if i < tail ∨ tail + osize ≤ i then copying.put 1
  else (copying.put (bitAt datain copying.old)).skip

def addHeadtail : Nat → UInt8 :=
  if osize = 0 then datain
  else
    let nsize := osize + head + tail
    copyBack datain ((List.range nsize).foldl (addStep datain osize tail) .start).buf
      ((nsize + 7) / 8)

def cutStep (copying : Copying) (i : Nat) : Copying :=
  let bdata := bitAt datain copying.old
  if tail ≤ i ∧ i < osize - head then copying.skip.put bdata else copying.skip

def cutHeadtail : Nat → UInt8 :=
  if osize = 0 ∨ tail = 0 then datain
  else if osize < head + tail then datain
  else
    copyBack datain ((List.range osize).foldl (cutStep datain osize head tail) .start).buf
      ((osize - head - tail + 7) / 8)

end

def BitPosition.at (count : Nat) : BitPosition := ⟨count / 8, count % 8⟩

lemma next_at (count) : (BitPosition.at count).next = .at (count + 1) := by
  rw [BitPosition.next]
  by_cases full : count % 8 + 1 = 8
  · have byte : (count + 1) / 8 = count / 8 + 1 := by omega
    have bit : (count + 1) % 8 = 0 := by omega
    rw [BitPosition.at, BitPosition.at, if_pos full, byte, bit]
  · have byte : (count + 1) / 8 = count / 8 := by omega
    have bit : (count + 1) % 8 = count % 8 + 1 := by omega
    rw [BitPosition.at, BitPosition.at, if_neg full, byte, bit]

def bitByte (bit : Bool) : UInt8 := if bit then 1 else 0

lemma shiftAmount {place : Nat} (inside : place < 8) : (UInt8.ofNat place).toNat % 8 = place := by
  rw [UInt8.toNat_ofNat']
  omega

lemma bitAt_at (data count) : bitAt data (.at count) = bitByte (dataBit data count) := by
  have inside : count % 8 < 8 := Nat.mod_lt _ (by decide)
  apply UInt8.toNat_inj.1
  have bit : ((data (count / 8)).toNat >>> (count % 8)) % 2 = (dataBit data count).toNat := by
    rw [dataBit, Nat.testBit_eq_decide_div_mod_eq, Nat.shiftRight_eq_div_pow]
    rcases Nat.mod_two_eq_zero_or_one ((data (count / 8)).toNat / 2 ^ (count % 8)) with even | odd
    · simp [even]
    · simp [odd]
  simp only [bitAt, BitPosition.at, UInt8.toNat_and, UInt8.toNat_shiftRight, shiftAmount inside]
  change ((data (count / 8)).toNat >>> (count % 8)) &&& 1 = _
  rw [Nat.and_one_is_mod, bit]
  cases dataBit data count <;> rfl

lemma bitByte_shifted (bit) {place : Nat} (inside : place < 8) (other) :
    (bitByte bit <<< UInt8.ofNat place).toNat.testBit other = (bit && decide (other = place)) := by
  rw [UInt8.toNat_shiftLeft, shiftAmount inside]
  cases bit with
  | false => simp [bitByte]
  | true =>
    have power : (1 : Nat) <<< place < 256 := by
      rw [Nat.one_shiftLeft]
      exact Nat.pow_lt_pow_right (by decide) inside
    change ((1 : Nat) <<< place % 256).testBit other = _
    rw [Nat.mod_eq_of_lt power, Nat.one_shiftLeft, Nat.testBit_two_pow, Bool.true_and,
      decide_eq_decide]
    exact eq_comm

lemma dataBit_orBit (buf count bit i) :
    dataBit (orBit buf (.at count) (bitByte bit)) i =
      (dataBit buf i || (bit && decide (i = count))) := by
  have inside : count % 8 < 8 := Nat.mod_lt _ (by decide)
  by_cases byte : i / 8 = count / 8
  · have same : i = count ↔ i % 8 = count % 8 := by omega
    have changed : orBit buf (.at count) (bitByte bit) (i / 8) =
        buf (i / 8) ||| bitByte bit <<< UInt8.ofNat (count % 8) := by
      rw [byte]
      exact Function.update_self ..
    rw [dataBit, changed, UInt8.toNat_or, Nat.testBit_or, bitByte_shifted bit inside, dataBit]
    simp only [same]
  · have apart : i ≠ count := fun same => byte (congrArg (· / 8) same)
    have kept : orBit buf (.at count) (bitByte bit) (i / 8) = buf (i / 8) :=
      Function.update_of_ne byte ..
    rw [dataBit, kept, decide_eq_false apart, Bool.and_false, Bool.or_false, dataBit]

structure Copied (bits : Nat → Bool) (done taken : Nat) (copying : Copying) : Prop where
  new : copying.new = .at done
  old : copying.old = .at taken
  holds : ∀ i, dataBit copying.buf i = (decide (i < done) && bits i)

variable {bits : Nat → Bool} {done taken : Nat} {copying : Copying}

lemma copied_start : Copied bits 0 0 .start where
  new := rfl
  old := rfl
  holds := fun i => by simp [Copying.start, dataBit]

lemma Copied.put (copied : Copied bits done taken copying) :
    Copied bits (done + 1) taken (copying.put (bitByte (bits done))) where
  new := by
    change copying.new.next = _
    rw [copied.new, next_at]
  old := copied.old
  holds := by
    intro i
    change dataBit (orBit copying.buf copying.new (bitByte (bits done))) i = _
    rw [copied.new, dataBit_orBit, copied.holds]
    by_cases last : i = done
    · subst last
      simp
    · have range : i < done + 1 ↔ i < done := by omega
      simp [last, range]

lemma Copied.skip (copied : Copied bits done taken copying) :
    Copied bits done (taken + 1) copying.skip where
  new := copied.new
  old := by
    change copying.old.next = _
    rw [copied.old, next_at]
  holds := copied.holds

lemma copyBack_bit (datain buf) {nsize i} (inside : i < nsize) :
    dataBit (copyBack datain buf ((nsize + 7) / 8)) i = dataBit buf i := by
  have byte : i / 8 < (nsize + 7) / 8 := by omega
  rw [dataBit, copyBack, if_pos byte, dataBit]

variable (datain : Nat → UInt8) {osize head tail : Nat}

def surrounded (datain : Nat → UInt8) (osize tail i : Nat) : Bool :=
  if i < tail ∨ tail + osize ≤ i then true else dataBit datain (i - tail)

lemma addStep_copied (count) :
    Copied (surrounded datain osize tail) count (min (count - tail) osize)
      ((List.range count).foldl (addStep datain osize tail) .start) := by
  induction count with
  | zero => simpa using copied_start
  | succ count ih =>
    rw [List.range_succ, List.foldl_append, List.foldl_cons, addStep]
    by_cases around : count < tail ∨ tail + osize ≤ count
    · have one : (1 : UInt8) = bitByte (surrounded datain osize tail count) := by
        rw [surrounded, if_pos around]
        rfl
      have taken : min (count + 1 - tail) osize = min (count - tail) osize := by omega
      rw [if_pos around, one, taken]
      exact ih.put
    · have taken : min (count - tail) osize = count - tail := by omega
      have more : min (count + 1 - tail) osize = count - tail + 1 := by omega
      have bit : bitByte (dataBit datain (count - tail)) =
          bitByte (surrounded datain osize tail count) := by rw [surrounded, if_neg around]
      rw [taken] at ih
      rw [if_neg around, more, ih.old, bitAt_at, bit]
      exact ih.put.skip

lemma addHeadtail_bit (some_ : osize ≠ 0) {i} (inside : i < osize + head + tail) :
    dataBit (addHeadtail datain osize head tail) i = surrounded datain osize tail i := by
  rw [addHeadtail, if_neg some_]
  rw [copyBack_bit _ _ inside, (addStep_copied datain _).holds, decide_eq_true inside,
    Bool.true_and]

lemma cutStep_copied {count} (within : count ≤ osize) (enough : head + tail ≤ osize) :
    Copied (fun i => dataBit datain (i + tail)) (min (count - tail) (osize - head - tail)) count
      ((List.range count).foldl (cutStep datain osize head tail) .start) := by
  induction count with
  | zero => simpa using copied_start
  | succ count ih =>
    have before := ih (Nat.le_of_succ_le within)
    rw [List.range_succ, List.foldl_append, List.foldl_cons, cutStep]
    by_cases kept : tail ≤ count ∧ count < osize - head
    · have done : min (count - tail) (osize - head - tail) = count - tail := by omega
      have more : min (count + 1 - tail) (osize - head - tail) = count - tail + 1 := by omega
      have place : count - tail + tail = count := by omega
      have bit : bitByte (dataBit datain count) =
          bitByte (dataBit datain (count - tail + tail)) := by rw [place]
      rw [done] at before
      rw [if_pos kept, more, before.old, bitAt_at, bit]
      exact before.skip.put
    · have same : min (count + 1 - tail) (osize - head - tail) =
          min (count - tail) (osize - head - tail) := by omega
      rw [if_neg kept, same]
      exact before.skip

lemma cutHeadtail_bit (some_ : tail ≠ 0) (enough : head + tail ≤ osize) {i}
    (inside : i < osize - head - tail) :
    dataBit (cutHeadtail datain osize head tail) i = dataBit datain (i + tail) := by
  have neither : ¬ (osize = 0 ∨ tail = 0) := by omega
  have copied := cutStep_copied datain (Nat.le_refl osize) enough
  have all : min (osize - tail) (osize - head - tail) = osize - head - tail := by omega
  rw [all] at copied
  rw [cutHeadtail, if_neg neither, if_neg (by omega), copyBack_bit _ _ inside, copied.holds,
    decide_eq_true inside, Bool.true_and]

end EmuLib.DaqmbJtag
