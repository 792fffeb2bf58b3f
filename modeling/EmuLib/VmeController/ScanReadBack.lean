import EmuLib.VmeController.ScanStrokes
import Mathlib.Data.Nat.Bitwise

/-!
The bits that are read before the clocks, and the bytes they become.
-/

namespace EmuLib.VmeController

open Memory TapController List

section

variable (ptr : UInt32) (loaded : Device → Register → List Bool) (crate : Crate Device)

def shifting : Tap → Bool
  | .shift _ => true
  | _ => false

def presented : Device → List (Bool × Bool) → List UInt16
  | _, [] => []
  | device, line :: rest =>
    (if shifting device.tap then [crate.answer device ptr.toNat] else []) ++
      presented (device.clock loaded line) rest

def Reads (ird : Bool) : Tap → List Stroke → Prop
  | _, [] => True
  | tap, stroke :: rest =>
    stroke.sample = (ird && shifting tap) ∧ Reads ird (tap.next stroke.line.1) rest

lemma samples_presented {ird} (strokes) :
    ∀ {device : Device}, device.tck = false → Reads ird device.tap strokes →
      samples ptr loaded crate device strokes =
        if ird then presented ptr loaded crate device (strokes.map Stroke.line) else [] := by
  induction strokes with
  | nil => intro device low reads; cases ird <;> rfl
  | cons stroke rest ih =>
    intro device low reads
    obtain ⟨sample, later⟩ := reads
    have tap : (device.clock loaded stroke.line).tap = device.tap.next stroke.line.1 :=
      clock_tap loaded low
    have tail := ih (clock_tck loaded low stroke.line) (tap ▸ later)
    rw [samples, tail, Stroke.read, sample]
    cases ird with
    | false => simp
    | true => simp [presented]

def tapAfter (tap : Tap) (lines : List (Bool × Bool)) : Tap := (follow (tap, []) lines).1

lemma follow_tap (lines) : ∀ tap log, (follow (tap, log) lines).1 = tapAfter tap lines := by
  induction lines with
  | nil => intro tap log; rfl
  | cons line rest ih =>
    intro tap log
    exact (ih _ _).trans (ih _ _).symm

lemma tapAfter_cons (tap line rest) :
    tapAfter tap (line :: rest) = tapAfter (tap.next line.1) rest := by
  rw [tapAfter, follow, follow_tap]

lemma reads_append {ird} (first second) :
    ∀ {tap : Tap}, Reads ird tap first →
      Reads ird (tapAfter tap (first.map Stroke.line)) second →
      Reads ird tap (first ++ second) := by
  induction first with
  | nil => intro tap before behind; exact behind
  | cons stroke rest ih =>
    intro tap before behind
    rw [map_cons, tapAfter_cons] at behind
    exact ⟨before.1, ih before.2 behind⟩

lemma reads_entry (ird register rcv) :
    Reads ird .runTestIdle ((entry register).map (unread rcv)) := by
  cases register <;> simp [entry, Reads, unread, shifting, Tap.next]

lemma reads_leaving (ird register rcv) :
    Reads ird (.exit1 register) (leaving.map (unread rcv)) := by
  simp [leaving, Reads, unread, shifting, Tap.next]

lemma reads_lines (ird register) (bits : List Bool) :
    Reads ird (.shift register) (bits.map fun tdi => shiftStroke ird (false, tdi)) := by
  induction bits with
  | nil => trivial
  | cons tdi rest ih => exact ⟨by simp [shiftStroke, shifting], ih⟩

lemma reads_lastRaised (ird register bits) :
    Reads ird (.shift register) ((lastRaised bits).map (shiftStroke ird)) := by
  induction bits with
  | nil => trivial
  | cons tdi rest ih =>
    cases rest with
    | nil => exact ⟨by simp [shiftStroke, shifting], trivial⟩
    | cons next further =>
      rw [lastRaised]
      · exact ⟨by simp [shiftStroke, shifting], ih⟩
      · intro none_
        cases none_

end

variable (port : Port)

/-- The data out line of a word, in the byte that `combine` looks at. -/
def Port.sampleBit (mytmp : Nat → UInt8) (cnt i : Nat) : Bool :=
  decide (i < cnt) && (mytmp (2 * i + 1)).toNat.testBit port.tdo

lemma masked_top (byte) {place} (inside : place < 8) :
    (byte &&& UInt8.ofNat (1 <<< place)) <<< UInt8.ofNat (7 - place) =
      if byte.toNat.testBit place then 0x80 else 0 := by
  apply UInt8.toNat_inj.1
  have mask : (UInt8.ofNat (1 <<< place)).toNat = 2 ^ place := by
    have power : 2 ^ place < 2 ^ 8 := Nat.pow_lt_pow_right (by decide) inside
    rw [Nat.one_shiftLeft]
    exact Nat.mod_eq_of_lt power
  have amount : (UInt8.ofNat (7 - place)).toNat % 8 = 7 - place := by
    rw [UInt8.toNat_ofNat']
    omega
  have top : 2 ^ place <<< (7 - place) = 0x80 := by
    rw [Nat.shiftLeft_eq, ← Nat.pow_add]
    have sum : place + (7 - place) = 7 := by omega
    rw [sum]
  rw [UInt8.toNat_shiftLeft, UInt8.toNat_and, mask, amount, Nat.and_two_pow]
  cases byte.toNat.testBit place with
  | false => simp
  | true =>
    rw [Bool.toNat_true, Nat.one_mul, top]
    rfl

def gathered (bits : Nat → Bool) : Nat → UInt8
  | 0 => 0
  | count + 1 => (gathered bits count ||| if bits count then 0x80 else 0) >>> 1

lemma gathered_testBit (bits) : ∀ count ≤ 7, ∀ place,
    (gathered bits count).toNat.testBit place =
      (decide (7 - count ≤ place ∧ place < 7) && bits (place - (7 - count))) := by
  intro count
  induction count with
  | zero =>
    intro _ place
    have none_ : ¬(7 - 0 ≤ place ∧ place < 7) := by omega
    simp [gathered, none_]
  | succ count ih =>
    intro bound place
    have before := ih (by omega) (place + 1)
    have top : (if bits count then (0x80 : UInt8) else 0).toNat.testBit (place + 1) =
        (bits count && decide (place = 6)) := by
      cases bits count with
      | false => simp
      | true =>
        have power : (0x80 : UInt8).toNat = 2 ^ 7 := rfl
        rw [if_pos rfl, power, Nat.testBit_two_pow]
        simp only [Bool.true_and, decide_eq_decide]
        omega
    have shifted : (gathered bits (count + 1)).toNat.testBit place =
        ((gathered bits count).toNat.testBit (place + 1) ||
          (if bits count then (0x80 : UInt8) else 0).toNat.testBit (place + 1)) := by
      rw [gathered, UInt8.toNat_shiftRight, UInt8.toNat_or, Nat.testBit_shiftRight,
        Nat.testBit_or, Nat.add_comm place 1]
      rfl
    rw [shifted, before, top]
    by_cases last : place = 6
    · have outside : ¬(7 - count ≤ place + 1 ∧ place + 1 < 7) := by omega
      have inside : 7 - (count + 1) ≤ place ∧ place < 7 := by omega
      have index : place - (7 - (count + 1)) = count := by omega
      rw [decide_eq_false outside, decide_eq_true inside, decide_eq_true last, index]
      simp
    · have same : (7 - count ≤ place + 1 ∧ place + 1 < 7) ↔
          (7 - (count + 1) ≤ place ∧ place < 7) := by omega
      by_cases inside : 7 - (count + 1) ≤ place ∧ place < 7
      · have index : place + 1 - (7 - count) = place - (7 - (count + 1)) := by omega
        rw [decide_eq_true (same.2 inside), decide_eq_true inside, decide_eq_false last, index]
        simp
      · rw [decide_eq_false (fun also => inside (same.1 also)), decide_eq_false inside,
          decide_eq_false last]
        simp

def byteOfBits (bits : Nat → Bool) : UInt8 := gathered bits 7 ||| if bits 7 then 0x80 else 0

lemma byteOfBits_testBit (bits) {place} (inside : place < 8) :
    (byteOfBits bits).toNat.testBit place = bits place := by
  have lower := gathered_testBit bits 7 (Nat.le_refl _) place
  have top : (if bits 7 then (0x80 : UInt8) else 0).toNat.testBit place =
      (bits 7 && decide (place = 7)) := by
    cases bits 7 with
    | false => simp
    | true =>
      have power : (0x80 : UInt8).toNat = 2 ^ 7 := rfl
      rw [if_pos rfl, power, Nat.testBit_two_pow]
      simp only [Bool.true_and, decide_eq_decide]
      omega
  rw [byteOfBits, UInt8.toNat_or, Nat.testBit_or, lower, top]
  by_cases last : place = 7
  · simp [last]
  · have below : place < 7 := by omega
    simp [last, below]

lemma combineBit_eq (mytmp cnt combining i) :
    port.combineBit mytmp cnt combining i =
      let bdata := combining.bdata ||| if port.sampleBit mytmp cnt i then 0x80 else 0
      if combining.bit = 7 then ⟨0, 0, combining.rcv ++ [bdata]⟩
      else ⟨combining.bit + 1, bdata >>> 1, combining.rcv⟩ := by
  have top := masked_top (mytmp (2 * i + 1)) port.inside.2.2.2
  unfold Port.combineBit Port.sampleBit
  by_cases inside : i < cnt
  · simp only [if_pos inside, top, decide_eq_true inside, Bool.true_and]
  · have none_ : combining.bdata ||| (0 : UInt8) = combining.bdata := UInt8.or_zero
    simp only [if_neg inside, decide_eq_false inside, Bool.false_and, Bool.false_eq_true, if_false,
      none_]

variable (mytmp : Nat → UInt8) (cnt : Nat)

lemma combine_partial (start rcv) : ∀ count ≤ 7,
    ((List.range count).map (start + ·)).foldl (port.combineBit mytmp cnt) ⟨0, 0, rcv⟩ =
      ⟨count, gathered (fun b => port.sampleBit mytmp cnt (start + b)) count, rcv⟩ := by
  intro count
  induction count with
  | zero => intro _; rfl
  | succ count ih =>
    intro bound
    rw [range_succ, map_append, foldl_append, ih (by omega)]
    simp only [map_cons, map_nil, foldl_cons, foldl_nil, combineBit_eq, gathered]
    rw [if_neg (by omega)]

lemma combine_byte (start rcv) :
    ((List.range 8).map (start + ·)).foldl (port.combineBit mytmp cnt) ⟨0, 0, rcv⟩ =
      ⟨0, 0, rcv ++ [byteOfBits fun b => port.sampleBit mytmp cnt (start + b)]⟩ := by
  rw [range_succ, map_append, foldl_append,
    combine_partial port mytmp cnt start rcv 7 (Nat.le_refl _)]
  simp only [map_cons, map_nil, foldl_cons, foldl_nil, combineBit_eq, byteOfBits, if_true]

lemma combine_bytes (bytes) :
    (List.range (8 * bytes)).foldl (port.combineBit mytmp cnt) ⟨0, 0, []⟩ =
      ⟨0, 0, (List.range bytes).map fun j =>
        byteOfBits fun b => port.sampleBit mytmp cnt (8 * j + b)⟩ := by
  induction bytes with
  | zero => rfl
  | succ bytes ih =>
    rw [Nat.mul_succ, range_add, foldl_append, ih, combine_byte, range_succ, map_append]
    rfl

lemma combine_length : (port.combine mytmp cnt).length = (cnt + 7) / 8 := by
  rw [Port.combine, combine_bytes]
  simp

lemma combine_bit {i} (inside : i < 8 * ((cnt + 7) / 8)) :
    dataBit (fun k => (port.combine mytmp cnt).getD k 0) i = port.sampleBit mytmp cnt i := by
  have byte : i / 8 < (cnt + 7) / 8 := by omega
  have place : i % 8 < 8 := Nat.mod_lt _ (by decide)
  have whole : 8 * (i / 8) + i % 8 = i := by omega
  have found : (port.combine mytmp cnt).getD (i / 8) 0 =
      byteOfBits fun b => port.sampleBit mytmp cnt (8 * (i / 8) + b) := by
    rw [Port.combine, combine_bytes]
    simp [byte]
  rw [dataBit, found, byteOfBits_testBit _ place, whole]

end EmuLib.VmeController
