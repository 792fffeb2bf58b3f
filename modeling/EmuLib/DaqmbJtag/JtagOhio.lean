import EmuLib.DaqmbJtag.HeadTail
import EmuLib.VmeController.ScanStrokes

/-!
The JTAG engine of the data motherboard, where a write of up to sixteen bits shifts them, and the
chain behind it.
-/

namespace EmuLib.DaqmbJtag

open GuardedRun VmeController List

section

structure Access where
  irdwr : Irdwr
  ptr : Nat
  data : UInt16

structure Bus (Boards : Type) where
  write : Boards → Nat → UInt16 → Boards
  answer : Boards → Nat → UInt16

/-- What has been read waits for an immediate access and is delivered with it. -/
structure Driven (Boards : Type) where
  boards : Boards
  outstanding : List UInt16
  delivered : List UInt16

variable {Boards : Type} (bus : Bus Boards)

namespace Driven

variable (driven : Driven Boards)

def write (ptr : Nat) (data : UInt16) : Driven Boards :=
  { driven with boards := bus.write driven.boards ptr data }

def read (ptr : Nat) : Driven Boards :=
  { driven with outstanding := driven.outstanding ++ [bus.answer driven.boards ptr] }

def deliver : Driven Boards :=
  { driven with outstanding := [], delivered := driven.delivered ++ driven.outstanding }

def step (access : Access) : Driven Boards :=
  match access.irdwr with
  | .bufread => driven.read bus access.ptr
  | .bufwrite => driven.write bus access.ptr access.data
  | .bufreadSnd => (driven.read bus access.ptr).deliver
  | .bufwriteSnd => (driven.write bus access.ptr access.data).deliver
  | _ => driven

def run (accesses : List Access) : Driven Boards := runFrom (step bus) driven accesses

end Driven

end

structure Ohio where
  theSlot : Nat
  dev : Nat

namespace Ohio

variable (ohio : Ohio)

def vmeBase : Nat := (ohio.theSlot <<< 19) + (ohio.dev <<< 12)
def addDs : Nat := ohio.vmeBase
def addDh : Nat := ohio.vmeBase + 4
def addDt : Nat := ohio.vmeBase + 8
def addD : Nat := ohio.vmeBase + 0xC
def addR : Nat := ohio.vmeBase + 0x14
def addReset : Nat := ohio.vmeBase + 0x18
def addI : Nat := ohio.vmeBase + 0x1C

def tird (now : Bool) : Irdwr := if now then .bufreadSnd else .bufread

def tiwt (now reads : Bool) : Irdwr := if now && !reads then .bufwriteSnd else .bufwrite

def wordAt (snd : Nat → UInt8) (place : Nat) : UInt16 := wordOf (snd (2 * place + 1)) (snd (2 * place))

variable (snd : Nat → UInt8) (ird now : Bool)

def readAccess (now : Bool) : List Access := if ird then [⟨tird now, ohio.addR, 0⟩] else []

def lastWrite (ptr : Nat) (place : Nat) : List Access :=
  ⟨tiwt now ird, ptr, wordAt snd place⟩ :: ohio.readAccess ird now

def bufferedWrite (ptr : Nat) (place : Nat) : List Access :=
  ⟨.bufwrite, ptr, wordAt snd place⟩ :: ohio.readAccess ird false

def furtherWords (byte bit : Nat) : Nat → Nat → List Access
  | 0, i => ohio.lastWrite snd ird now (ohio.addDt ||| ((bit - 1) <<< 8)) (i + 1)
  | remaining + 1, i =>
    if i = byte - 2 ∧ bit = 0 then ohio.lastWrite snd ird now (ohio.addDt ||| 0x0f00) (i + 1)
    else
      ohio.bufferedWrite snd ird (ohio.addDs ||| 0x0f00) (i + 1) ++
        furtherWords byte bit remaining (i + 1)

def shiftData (cnt : Nat) : List Access :=
  let byte := cnt / 16
  let bit := cnt - byte * 16
  if byte = 0 ∨ (byte = 1 ∧ bit = 0) then
    ohio.lastWrite snd ird now (ohio.addD ||| ((cnt - 1) <<< 8)) 0
  else
    ohio.bufferedWrite snd ird (ohio.addDh ||| 0x0f00) 0 ++
      ohio.furtherWords snd ird now byte bit (byte - 1) 0

def emptyClocks (cnt : Nat) : List Access :=
  List.replicate (cnt / 16) ⟨.bufwriteSnd, ohio.addDs ||| 0x0f00, 0⟩ ++
    if 0 < cnt % 16 then [⟨.bufwriteSnd, ohio.addDs ||| ((cnt % 16 - 1) <<< 8), 0⟩] else []

/-- `Jtag_Ohio`: register 0 is the instruction, 1 the data, 2 stands for empty clocks. -/
def jtagOhio (reg : Nat) (cnt : Int) : List Access :=
  if 0xF < ohio.dev ∨ cnt = 0 then []
  else if reg = 0 then
    let ptr := if cnt < 0 then ohio.addReset else ohio.addI ||| ((cnt.toNat - 1) <<< 8)
    [⟨tiwt now false, ptr, wordAt snd 0⟩]
  else if reg = 1 then ohio.shiftData snd ird now cnt.toNat
  else if reg = 2 then ohio.emptyClocks cnt.toNat
  else []

end Ohio

structure ChainScan where
  device : Nat
  register : TapController.Register
  bits : List Bool
deriving DecidableEq

/-- The devices in a slot: the scans that have been made, the scan that is under way, the last
sixteen bits that have come out and those that will come out. -/
structure Chain where
  scans : List ChainScan
  shifting : Option (Nat × List Bool)
  shiftedOut : UInt16
  coming : Nat → Bool

def shiftIn (shiftedOut : UInt16) (bit : Bool) : UInt16 :=
  shiftedOut >>> 1 ||| if bit then 0x8000 else 0

def outAfter (chain : Chain) (count : Nat) : UInt16 :=
  (List.range count).foldl (fun shiftedOut bit => shiftIn shiftedOut (chain.coming bit))
    chain.shiftedOut

def lowBits (data : UInt16) (count : Nat) : List Bool :=
  (List.range count).map data.toNat.testBit

namespace Chain

variable (chain : Chain)

def clock (count : Nat) : Chain :=
  { chain with
    shiftedOut := outAfter chain count
    coming := fun bit => chain.coming (bit + count) }

def finish (scan : ChainScan) : Chain :=
  { chain with scans := chain.scans ++ [scan], shifting := none }

/-- A write shifts so many bits, the lowest one first; the low byte of the address says into which
register, and whether the shift state is entered before and left behind. -/
def write (theSlot : Nat) (ptr : Nat) (data : UInt16) : Chain :=
  if ptr >>> 19 ≠ theSlot then chain
  else
    let device := (ptr >>> 12) % 128
    let count := (ptr >>> 8) % 16 + 1
    let bits := lowBits data count
    match ptr % 256, chain.shifting with
    | 0x1C, _ => (chain.clock count).finish ⟨device, .instruction, bits⟩
    | 0x0C, _ => (chain.clock count).finish ⟨device, .data, bits⟩
    | 0x04, _ => { chain.clock count with shifting := some (device, bits) }
    | 0x00, some (same, before) =>
      if same = device then
        { chain.clock count with shifting := some (device, before ++ bits) }
      else chain
    | 0x08, some (same, before) =>
      if same = device then
        (chain.clock count).finish ⟨device, .data, before ++ bits⟩
      else chain
    | _, _ => chain

end Chain

def chainBus (theSlot : Nat) : Bus Chain where
  write := fun chain ptr data => chain.write theSlot ptr data
  answer := fun chain _ => chain.shiftedOut

section

variable (ohio : Ohio)

lemma address_sum {function count} (small : function < 256) (few : count < 16) :
    (ohio.vmeBase + function) ||| (count <<< 8) =
      (ohio.theSlot * 128 + ohio.dev) * 4096 + count * 256 + function := by
  have base : ohio.vmeBase = (ohio.theSlot * 128 + ohio.dev) <<< 12 := by
    simp only [Ohio.vmeBase, Nat.shiftLeft_eq]
    omega
  have inner : function ||| count <<< 8 = count <<< 8 + function := by
    rw [Nat.or_comm, Nat.shiftLeft_add_eq_or_of_lt small]
  have low : function < 2 ^ 12 := by omega
  have whole : count <<< 8 + function < 2 ^ 12 := by
    omega
  rw [base, Nat.shiftLeft_add_eq_or_of_lt low, Nat.or_assoc, inner,
    ← Nat.shiftLeft_add_eq_or_of_lt whole]
  omega

structure Decodes (ohio : Ohio) (function count ptr : Nat) : Prop where
  slot : ptr >>> 19 = ohio.theSlot
  device : (ptr >>> 12) % 128 = ohio.dev
  count : (ptr >>> 8) % 16 + 1 = count
  function : ptr % 256 = function

lemma decodes {function count} (valid : ohio.dev ≤ 0xF) (small : function < 256)
    (few : count < 16) :
    Decodes ohio function (count + 1) ((ohio.vmeBase + function) ||| (count <<< 8)) := by
  rw [address_sum ohio small few]
  refine ⟨?_, ?_, ?_, by omega⟩
  · omega
  · omega
  · omega

end

lemma wordAt_testBit (snd place) {bit} (inside : bit < 16) :
    (Ohio.wordAt snd place).toNat.testBit bit = dataBit snd (16 * place + bit) := by
  have value : (Ohio.wordAt snd place).toNat =
      2 ^ 8 * (snd (2 * place + 1)).toNat + (snd (2 * place)).toNat := by
    have high := (snd (2 * place + 1)).toNat_lt
    have low := (snd (2 * place)).toNat_lt
    rw [Ohio.wordAt, wordOf, UInt16.toNat_ofNat']
    omega
  have small : (snd (2 * place)).toNat < 2 ^ 8 := (snd (2 * place)).toNat_lt
  rw [value, Nat.testBit_two_pow_mul_add _ small, dataBit]
  by_cases low : bit < 8
  · have byte : (16 * place + bit) / 8 = 2 * place := by omega
    have rest : (16 * place + bit) % 8 = bit := by omega
    rw [if_pos low, byte, rest]
  · have byte : (16 * place + bit) / 8 = 2 * place + 1 := by omega
    have rest : (16 * place + bit) % 8 = bit - 8 := by omega
    rw [if_neg low, byte, rest]

lemma bitsOf_word (snd place) {count} (few : count ≤ 16) :
    bitsOf snd (16 * place) ++ lowBits (Ohio.wordAt snd place) count =
      bitsOf snd (16 * place + count) := by
  rw [bitsOf, bitsOf, range_add, map_append, map_map]
  refine congrArg _ (map_congr_left fun bit inside => ?_)
  exact wordAt_testBit snd place (Nat.lt_of_lt_of_le (mem_range.1 inside) few)

lemma outAfter_add (chain first second) :
    outAfter (chain.clock first) second = outAfter chain (first + second) := by
  rw [outAfter, outAfter, range_add, foldl_append, foldl_map]
  simp only [Chain.clock, outAfter, Nat.add_comm]

lemma clock_add (chain : Chain) (first second) :
    (chain.clock first).clock second = chain.clock (first + second) := by
  have coming : (fun bit => chain.coming (bit + second + first)) =
      fun bit => chain.coming (bit + (first + second)) := by
    funext bit
    rw [Nat.add_assoc, Nat.add_comm second]
  rw [Chain.clock, outAfter_add]
  simp only [Chain.clock, coming]

section

variable {ohio : Ohio} {chain : Chain} {count ptr : Nat} {data : UInt16}

lemma write_instruction (decodes : Decodes ohio 0x1C count ptr) :
    chain.write ohio.theSlot ptr data =
      (chain.clock count).finish ⟨ohio.dev, .instruction, lowBits data count⟩ := by
  simp [Chain.write, decodes.slot, decodes.device, decodes.count, decodes.function]

lemma write_only (decodes : Decodes ohio 0x0C count ptr) :
    chain.write ohio.theSlot ptr data =
      (chain.clock count).finish ⟨ohio.dev, .data, lowBits data count⟩ := by
  simp [Chain.write, decodes.slot, decodes.device, decodes.count, decodes.function]

lemma write_first (decodes : Decodes ohio 0x04 count ptr) :
    chain.write ohio.theSlot ptr data =
      { chain.clock count with shifting := some (ohio.dev, lowBits data count) } := by
  simp [Chain.write, decodes.slot, decodes.device, decodes.count, decodes.function]

lemma write_middle (decodes : Decodes ohio 0x00 count ptr) {before}
    (shifting : chain.shifting = some (ohio.dev, before)) :
    chain.write ohio.theSlot ptr data =
      { chain.clock count with shifting := some (ohio.dev, before ++ lowBits data count) } := by
  simp [Chain.write, decodes.slot, decodes.device, decodes.count, decodes.function, shifting]

lemma write_last (decodes : Decodes ohio 0x08 count ptr) {before}
    (shifting : chain.shifting = some (ohio.dev, before)) :
    chain.write ohio.theSlot ptr data =
      (chain.clock count).finish ⟨ohio.dev, .data, before ++ lowBits data count⟩ := by
  simp [Chain.write, decodes.slot, decodes.device, decodes.count, decodes.function, shifting]

end

section

def Driven.collect {Boards : Type} (driven : Driven Boards) (words : List UInt16) (now : Bool) :
    Driven Boards :=
  let driven := { driven with outstanding := driven.outstanding ++ words }
  if now then driven.deliver else driven

variable {ohio : Ohio} {snd : Nat → UInt8} {ird now : Bool} {driven : Driven Chain} {chain : Chain}

abbrev Driven.shift (driven : Driven Chain) (ohio : Ohio) (accesses : List Access) : Driven Chain :=
  driven.run (chainBus ohio.theSlot) accesses

def chainWord (ird : Bool) (chain : Chain) : List UInt16 := if ird then [chain.shiftedOut] else []

lemma shift_lastWrite (ptr place) :
    driven.shift ohio (ohio.lastWrite snd ird now ptr place) =
      let written := driven.boards.write ohio.theSlot ptr (Ohio.wordAt snd place)
      Driven.collect { driven with boards := written } (chainWord ird written) now := by
  cases ird <;> cases now <;>
    simp [Driven.shift, Driven.run, Ohio.lastWrite, Ohio.readAccess, Ohio.tiwt, Ohio.tird,
      Driven.step, Driven.write, Driven.read, Driven.deliver, Driven.collect, chainWord, chainBus]

lemma shift_bufferedWrite (ptr place) :
    driven.shift ohio (ohio.bufferedWrite snd ird ptr place) =
      let written := driven.boards.write ohio.theSlot ptr (Ohio.wordAt snd place)
      Driven.collect { driven with boards := written } (chainWord ird written) false := by
  cases ird <;>
    simp [Driven.shift, Driven.run, Ohio.bufferedWrite, Ohio.readAccess, Ohio.tird, Driven.step,
      Driven.write, Driven.read, Driven.collect, chainWord, chainBus]

def chainWords (ird : Bool) (chain : Chain) (words : Nat) : List UInt16 :=
  if ird then (List.range words).map fun word => outAfter chain (16 * (word + 1)) else []

def under (ohio : Ohio) (snd : Nat → UInt8) (ird : Bool) (start : Driven Chain) (words : Nat) :
    Driven Chain where
  boards :=
    { start.boards.clock (16 * words) with
      shifting := some (ohio.dev, bitsOf snd (16 * words)) }
  outstanding := start.outstanding ++ chainWords ird start.boards words
  delivered := start.delivered

def afterShift (ohio : Ohio) (snd : Nat → UInt8) (ird now : Bool) (cnt : Nat) (start : Driven Chain) :
    Driven Chain :=
  let before : Driven Chain :=
    { boards := (start.boards.clock cnt).finish ⟨ohio.dev, .data, bitsOf snd cnt⟩
      outstanding := start.outstanding ++ chainWords ird start.boards ((cnt - 1) / 16)
      delivered := start.delivered }
  before.collect (chainWord ird (start.boards.clock cnt)) now

lemma run_append (first second) :
    driven.shift ohio (first ++ second) = (driven.shift ohio first).shift ohio second :=
  runFrom_append driven first second

lemma readWords_succ (words) :
    chainWords ird chain words ++ chainWord ird (chain.clock (16 * (words + 1))) =
      chainWords ird chain (words + 1) := by
  cases ird with
  | false => rfl
  | true => simp [chainWords, chainWord, range_succ, Chain.clock]

lemma under_last (words) {bits ptr} (few : 0 < bits ∧ bits ≤ 16)
    (decodes : Decodes ohio 0x08 bits ptr) :
    (under ohio snd ird driven words).shift ohio (ohio.lastWrite snd ird now ptr words) =
      afterShift ohio snd ird now (16 * words + bits) driven := by
  have written : (under ohio snd ird driven words).boards.write ohio.theSlot ptr
      (Ohio.wordAt snd words) =
        (driven.boards.clock (16 * words + bits)).finish
          ⟨ohio.dev, .data, bitsOf snd (16 * words + bits)⟩ := by
    rw [write_last decodes rfl, bitsOf_word snd words few.2, ← clock_add]
    rfl
  have counted : (16 * words + bits - 1) / 16 = words := by omega
  rw [shift_lastWrite]
  rw [written, afterShift, counted]
  rfl

lemma under_middle (words) {ptr} (decodes : Decodes ohio 0x00 16 ptr) :
    (under ohio snd ird driven words).shift ohio (ohio.bufferedWrite snd ird ptr words) =
      under ohio snd ird driven (words + 1) := by
  have more : 16 * words + 16 = 16 * (words + 1) := by omega
  have written : (under ohio snd ird driven words).boards.write ohio.theSlot ptr
      (Ohio.wordAt snd words) =
        { driven.boards.clock (16 * (words + 1)) with
          shifting := some (ohio.dev, bitsOf snd (16 * (words + 1))) } := by
    rw [write_middle decodes rfl, bitsOf_word snd words (Nat.le_refl _), ← more, ← clock_add]
    rfl
  rw [shift_bufferedWrite]
  rw [written, Driven.collect, under, append_assoc]
  have read := @readWords_succ ird driven.boards words
  refine congrArg (fun waiting => Driven.mk _ (driven.outstanding ++ waiting) driven.delivered) ?_
  exact read

lemma under_first {ptr} (decodes : Decodes ohio 0x04 16 ptr) :
    driven.shift ohio (ohio.bufferedWrite snd ird ptr 0) = under ohio snd ird driven 1 := by
  have word := bitsOf_word snd 0 (Nat.le_refl 16)
  have written : driven.boards.write ohio.theSlot ptr (Ohio.wordAt snd 0) =
      { driven.boards.clock (16 * 1) with
        shifting := some (ohio.dev, bitsOf snd (16 * 1)) } := by
    rw [write_first decodes]
    exact congrArg (fun bits => Chain.mk _ (some (ohio.dev, bits)) _ _) word
  rw [shift_bufferedWrite]
  rw [written]
  have read := @readWords_succ ird driven.boards 0
  refine congrArg (fun waiting => Driven.mk _ (driven.outstanding ++ waiting) driven.delivered) ?_
  rw [← read]
  cases ird <;> rfl

lemma fullWord : (0x0f00 : Nat) = 15 <<< 8 := by decide

variable (valid : ohio.dev ≤ 0xF)
include valid

lemma under_further (byte bit) (few : bit < 16) (remaining) :
    ∀ i, i + remaining = byte - 1 → (bit = 0 → i + 2 ≤ byte) → 1 ≤ byte →
      (under ohio snd ird driven (i + 1)).shift ohio
          (ohio.furtherWords snd ird now byte bit remaining i) =
        afterShift ohio snd ird now (16 * byte + bit) driven := by
  induction remaining with
  | zero =>
    intro i place room some_
    have last : bit = bit - 1 + 1 := by omega
    have there : i + 1 = byte := by omega
    have decoded := decodes ohio valid (by decide : 0x08 < 256) (by omega : bit - 1 < 16)
    rw [← last] at decoded
    rw [← there]
    exact under_last (i + 1) ⟨by omega, by omega⟩ decoded
  | succ remaining ih =>
    intro i place room some_
    rw [Ohio.furtherWords]
    by_cases ends : i = byte - 2 ∧ bit = 0
    · have decoded := decodes ohio valid (by decide : 0x08 < 256) (by decide : 15 < 16)
      have whole : 16 * byte + bit = 16 * (i + 1) + 16 := by omega
      rw [if_pos ends, fullWord, whole]
      exact under_last (i + 1) ⟨by decide, Nat.le_refl _⟩ decoded
    · have base : ohio.addDs = ohio.vmeBase + 0 := (Nat.add_zero ohio.vmeBase).symm
      have decoded := decodes ohio valid (by decide : 0x00 < 256) (by decide : 15 < 16)
      rw [← base] at decoded
      rw [if_neg ends, run_append, fullWord, under_middle (i + 1) decoded]
      exact ih (i + 1) (by omega) (by omega) some_

lemma shift_shiftData {cnt} (some_ : 0 < cnt) :
    driven.shift ohio (ohio.shiftData snd ird now cnt) = afterShift ohio snd ird now cnt driven := by
  rw [Ohio.shiftData]
  by_cases short : cnt / 16 = 0 ∨ (cnt / 16 = 1 ∧ cnt - cnt / 16 * 16 = 0)
  · have last : cnt - 1 + 1 = cnt := by omega
    have decoded := decodes ohio valid (by decide : 0x0C < 256) (by omega : cnt - 1 < 16)
    rw [last] at decoded
    have word := bitsOf_word snd 0 (by omega : cnt ≤ 16)
    rw [Nat.zero_add] at word
    have written : driven.boards.write ohio.theSlot (ohio.addD ||| ((cnt - 1) <<< 8))
        (Ohio.wordAt snd 0) =
          (driven.boards.clock cnt).finish ⟨ohio.dev, .data, bitsOf snd cnt⟩ := by
      rw [Ohio.addD, write_only decoded]
      exact congrArg (fun bits => Chain.finish _ ⟨ohio.dev, .data, bits⟩) word
    have none_ : (cnt - 1) / 16 = 0 := by omega
    rw [if_pos short, shift_lastWrite]
    dsimp only
    rw [written, afterShift, none_]
    cases ird <;> simp [chainWords, Driven.collect, chainWord, Chain.finish]
  · have decoded := decodes ohio valid (by decide : 0x04 < 256) (by decide : 15 < 16)
    have parts : cnt = 16 * (cnt / 16) + (cnt - cnt / 16 * 16) := by omega
    rw [if_neg short, run_append, fullWord, Ohio.addDh, under_first decoded]
    refine (under_further valid (cnt / 16) _ (by omega) (cnt / 16 - 1) 0 (by omega) (by omega)
      (by omega)).trans ?_
    rw [← parts]

end

section

variable (chain : Chain)

lemma shiftIn_testBit (shiftedOut bit) {place} (inside : place < 16) :
    (shiftIn shiftedOut bit).toNat.testBit place =
      if place = 15 then bit else shiftedOut.toNat.testBit (place + 1) := by
  have top : (if bit then (0x8000 : UInt16) else 0).toNat.testBit place =
      (bit && decide (place = 15)) := by
    cases bit with
    | false => simp
    | true =>
      have power : (0x8000 : UInt16).toNat = 2 ^ 15 := rfl
      rw [if_pos rfl, power, Nat.testBit_two_pow, Bool.true_and, decide_eq_decide]
      exact eq_comm
  have shifted : (shiftedOut >>> 1).toNat = shiftedOut.toNat >>> 1 := rfl
  rw [shiftIn, UInt16.toNat_or, Nat.testBit_or, top, shifted, Nat.testBit_shiftRight,
    Nat.add_comm 1 place]
  by_cases last : place = 15
  · subst last
    have high : shiftedOut.toNat.testBit (15 + 1) = false :=
      Nat.testBit_lt_two_pow shiftedOut.toNat_lt
    rw [high]
    simp
  · simp [last]

lemma outAfter_testBit (count) {place} (inside : place < 16) :
    (outAfter chain count).toNat.testBit place =
      if 16 ≤ place + count then chain.coming (place + count - 16)
      else chain.shiftedOut.toNat.testBit (place + count) := by
  induction count generalizing place with
  | zero =>
    rw [if_neg (by omega)]
    rfl
  | succ count ih =>
    have next : outAfter chain (count + 1) =
        shiftIn (outAfter chain count) (chain.coming count) := by
      rw [outAfter, range_succ, foldl_append]
      rfl
    rw [next, shiftIn_testBit _ _ inside]
    by_cases last : place = 15
    · have newest : place + (count + 1) - 16 = count := by omega
      rw [if_pos last, if_pos (by omega), newest]
    · have same : place + 1 + count = place + (count + 1) := by omega
      rw [if_neg last, ih (by omega), same]

end

open Memory

lemma callerBytes_byte (words : List UInt16) (byte) (inside : byte < 2 * words.length) :
    (words.flatMap callerBytes)[byte]? =
      some (byteOf (words.getD (byte / 2) 0).toNat (byte % 2)) := by
  induction words generalizing byte with
  | nil => simp at inside
  | cons word rest ih =>
    match byte with
    | 0 => rfl
    | 1 => rfl
    | byte + 2 =>
      have half : (byte + 2) / 2 = byte / 2 + 1 := by omega
      have parity : (byte + 2) % 2 = byte % 2 := by omega
      have fewer : byte < 2 * rest.length := by
        rw [length_cons] at inside
        omega
      rw [half, parity, getD_cons_succ, ← ih byte fewer]
      rfl

lemma dataBit_delivered (outbuf) (words : List UInt16) {i} (inside : i < 16 * words.length) :
    dataBit (store outbuf 0 (words.flatMap callerBytes)) i =
      (words.getD (i / 16) 0).toNat.testBit (i % 16) := by
  have found := callerBytes_byte words (i / 8) (by omega)
  have stored : store outbuf 0 (words.flatMap callerBytes) (i / 8) =
      byteOf (words.getD (i / 8 / 2) 0).toNat (i / 8 % 2) := by
    simp [store, getD_eq_getElem?_getD, found]
  have word : i / 8 / 2 = i / 16 := by omega
  have place : 8 * (i / 8 % 2) + i % 8 = i % 16 := by omega
  have byte : i % 8 < 8 := Nat.mod_lt _ (by decide)
  have power : (0x100 : Nat) = 2 ^ 8 := rfl
  rw [dataBit, stored, word, byteOf_toNat, power, Nat.testBit_mod_two_pow, decide_eq_true byte,
    Bool.true_and, Nat.testBit_shiftRight, place]

end EmuLib.DaqmbJtag
