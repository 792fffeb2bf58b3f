import EmuLib.VmeController.Buffering
import Mathlib.Algebra.Ring.Nat

/-!
How a data scan is cut into VME shift commands of up to 16 bits.
-/

namespace EmuLib.VmeController

open List

def mskClr : UInt32 := 0xfffff0ff
def mskI : UInt32 := 0x0000001c
def mskD : UInt32 := 0x0000000c
def mskDh : UInt32 := 0x00000004
def mskDs : UInt32 := 0x00000000
def mskDt : UInt32 := 0x00000008
def mskR : UInt32 := 0x00000014

/-- The addresses of the shift commands, with the bit count of the last one of each in them. -/
structure AddressRegisters where
  addI : UInt32
  addD : UInt32
  addDh : UInt32
  addDs : UInt32
  addDt : UInt32
  addR : UInt32
deriving DecidableEq

def AddressRegisters.select (vmeadd msk : UInt32) : AddressRegisters where
  addI := vmeadd ||| msk ||| mskI
  addD := vmeadd ||| msk ||| mskD
  addDh := vmeadd ||| msk ||| mskDh
  addDs := vmeadd ||| msk ||| mskDs
  addDt := vmeadd ||| msk ||| mskDt
  addR := vmeadd ||| msk ||| mskR

def withCount (register field : UInt32) : UInt32 := (register &&& mskClr) ||| field

lemma withCount_congr {first second} (same : first &&& mskClr = second &&& mskClr)
    (field) : withCount first field = withCount second field := by
  rw [withCount, withCount, same]

section

variable (snd : Nat → UInt8) (rcv : Option (Nat → UInt8))

def sndWord (k : Nat) : UInt16 := wordOf (snd (2 * k + 1)) (snd (2 * k))

structure Shifting where
  registers : AddressRegisters
  data : Nat
  calls : List Call

namespace Shifting

variable (shifting : Shifting)

def send (irdwr : Irdwr) (ptr : UInt32) : Shifting :=
  { shifting with
    calls := shifting.calls ++
      [⟨irdwr, ptr, sndWord snd shifting.data, sndWord snd (shifting.data + 1), rcv⟩] }

/-- A read, where the data are read back; `data0` and `data1` come from `tmp` or from `data`. -/
def receive (reading : Bool) (irdwr : Irdwr) (data0 data1 : UInt16) : Shifting :=
  if reading then
    { shifting with
      calls := shifting.calls ++ [⟨irdwr, shifting.registers.addR, data0, data1, rcv⟩] }
  else shifting

def setI (field : UInt32) : Shifting :=
  { shifting with
    registers := { shifting.registers with addI := withCount shifting.registers.addI field } }

def setD (field : UInt32) : Shifting :=
  { shifting with
    registers := { shifting.registers with addD := withCount shifting.registers.addD field } }

def setDh (field : UInt32) : Shifting :=
  { shifting with
    registers := { shifting.registers with addDh := withCount shifting.registers.addDh field } }

def clearDs : Shifting :=
  { shifting with
    registers := { shifting.registers with addDs := shifting.registers.addDs &&& mskClr } }

def setDs (field : UInt32) : Shifting :=
  { shifting with
    registers := { shifting.registers with addDs := withCount shifting.registers.addDs field } }

def setDt (field : UInt32) : Shifting :=
  { shifting with
    registers := { shifting.registers with addDt := withCount shifting.registers.addDt field } }

def advance : Shifting := { shifting with data := shifting.data + 1 }

end Shifting

variable (reading : Bool) (write read : Irdwr)

def shiftHead (shifting : Shifting) : Shifting :=
  let shifting := shifting.setDh 0x0f00
  ((shifting.send snd rcv .bufwrite shifting.registers.addDh).advance).receive rcv reading
    .bufread 0 0

def shiftMiddle (shifting : Shifting) : Shifting :=
  let shifting := shifting.setDs 0x0f00
  ((shifting.send snd rcv .bufwrite shifting.registers.addDs).advance).receive rcv reading
    .bufread 0 0

/-- The last 16 bits; here the read is given `data` in place of `tmp`. -/
def shiftFullTail (shifting : Shifting) : Shifting :=
  let shifting := shifting.setDt 0x0f00
  (shifting.send snd rcv write shifting.registers.addDt).receive rcv reading read
    (sndWord snd shifting.data) (sndWord snd (shifting.data + 1))

def shiftTail (cnt2 : Nat) (shifting : Shifting) : Shifting :=
  let shifting := shifting.setDt (UInt32.ofNat cnt2 <<< 8)
  (shifting.send snd rcv write shifting.registers.addDt).receive rcv reading read 0 0

def shiftWhole (cnt2 : Nat) (shifting : Shifting) : Shifting :=
  let shifting := shifting.setD (UInt32.ofNat cnt2 <<< 8)
  (shifting.send snd rcv write shifting.registers.addD).receive rcv reading read 0 0

def shiftWords (bit : Nat) : Nat → Shifting → Shifting
  | 0, shifting => shiftTail snd rcv reading write read (bit - 1) shifting
  | remaining + 1, shifting =>
    if remaining = 0 ∧ bit = 0 then shiftFullTail snd rcv reading write read shifting
    else shiftWords bit remaining (shiftMiddle snd rcv reading shifting)

/-- The part for the data register; `write` and `read` are the codes of the last command. -/
def shiftData (cnt : Nat) (shifting : Shifting) : Shifting :=
  let byte := cnt / 16
  let bit := cnt - byte * 16
  if byte = 0 ∨ (byte = 1 ∧ bit = 0) then
    shiftWhole snd rcv reading write read (cnt - 1) shifting
  else
    shiftWords snd rcv reading write read bit (byte - 1)
      (shiftHead snd rcv reading shifting).clearDs

def shiftInstruction (cnt2 : Nat) (shifting : Shifting) : Shifting :=
  let shifting := shifting.setI (UInt32.ofNat cnt2 <<< 8)
  shifting.send snd rcv write shifting.registers.addI

namespace AddressRegisters

variable (registers : AddressRegisters) (reg : Nat) (cnt : Nat)

def tird : Fin 3 → Irdwr
  | 0 => .bufwriteSnd
  | 1 => .bufwrite
  | 2 => .bufwriteSnd

def scan (ird : Fin 3) : Shifting :=
  let shifting : Shifting := ⟨registers, 0, []⟩
  if cnt = 0 then shifting
  else if reg = 0 then shiftInstruction snd rcv (tird ird) (cnt - 1) shifting
  else if reg = 1 then shiftData snd rcv (ird = 1) (tird ird) .bufreadSnd cnt shifting
  else shifting

def tiwt (now : Bool) : Irdwr := if now then .bufwriteSnd else .bufwrite
def tirdDmb (now : Bool) : Irdwr := if now then .bufreadSnd else .bufread

def scanDmb (ird : Fin 3) (when_ : Int) : Shifting :=
  let shifting : Shifting := ⟨registers, 0, []⟩
  let now := decide (when_ ≠ 0)
  let write := if ird = 1 ∧ reg = 1 then .bufwrite else tiwt now
  if cnt = 0 then shifting
  else if reg = 0 then shiftInstruction snd rcv write (cnt - 1) shifting
  else if reg = 1 then shiftData snd rcv (ird = 1) write (tirdDmb now) cnt shifting
  else shifting

end AddressRegisters

end

lemma or_and_distrib (a b c : UInt32) : (a ||| b) &&& c = (a &&& c) ||| (b &&& c) :=
  UInt32.toBitVec_inj.1 BitVec.and_or_distrib_right

variable {cnt2 : Nat}

lemma countField_clear (inside : cnt2 < 16) : (UInt32.ofNat cnt2 <<< 8) &&& mskClr = 0 := by
  have all : ∀ count : Fin 16, (UInt32.ofNat count <<< 8) &&& mskClr = 0 := by decide
  exact all ⟨cnt2, inside⟩

lemma countField_read (inside : cnt2 < 16) :
    (((UInt32.ofNat cnt2 <<< 8) >>> 8) &&& 0xf).toNat = cnt2 := by
  have all : ∀ count : Fin 16,
      (((UInt32.ofNat count <<< 8) >>> 8) &&& 0xf).toNat = count := by decide
  exact all ⟨cnt2, inside⟩

lemma withCount_masked (register) {field} (clear : field &&& mskClr = 0) :
    withCount register field &&& mskClr = register &&& mskClr := by
  rw [withCount, or_and_distrib, clear, UInt32.or_zero, UInt32.and_assoc, UInt32.and_self]

def Call.bitCount (call : Call) : Nat := ((call.ptr >>> 8) &&& 0xf).toNat + 1

lemma withCount_read (register) (inside : cnt2 < 16) :
    ((withCount register (UInt32.ofNat cnt2 <<< 8) >>> 8) &&& 0xf).toNat = cnt2 := by
  have outside : ((register &&& mskClr) >>> 8) &&& 0xf = 0 := by
    rw [UInt32.shiftRight_and, UInt32.and_assoc]
    have none_ : mskClr >>> 8 &&& 0xf = 0 := by decide
    rw [none_, UInt32.and_zero]
  rw [withCount, UInt32.shiftRight_or, or_and_distrib, outside, UInt32.zero_or]
  exact countField_read inside

def Call.header (call : Call) : Bool := call.ptr &&& mskDh != 0
def Call.trailer (call : Call) : Bool := call.ptr &&& mskDt != 0

lemma withCount_flag (register) (inside : cnt2 < 16) {flag} (kept : mskClr &&& flag = flag) :
    withCount register (UInt32.ofNat cnt2 <<< 8) &&& flag = (register &&& mskClr) &&& flag := by
  have clear : (UInt32.ofNat cnt2 <<< 8) &&& flag = 0 := by
    rw [← kept, ← UInt32.and_assoc, countField_clear inside, UInt32.zero_and]
  rw [withCount, or_and_distrib, clear, UInt32.or_zero]

variable {i : Nat}

section

structure AddressRegisters.Agrees (registers other : AddressRegisters) : Prop where
  i : other.addI &&& mskClr = registers.addI &&& mskClr
  d : other.addD &&& mskClr = registers.addD &&& mskClr
  dh : other.addDh &&& mskClr = registers.addDh &&& mskClr
  ds : other.addDs &&& mskClr = registers.addDs &&& mskClr
  dt : other.addDt &&& mskClr = registers.addDt &&& mskClr
  r : other.addR = registers.addR

def pieces (cnt : Nat) : Nat := (cnt + 15) / 16

def pieceBits (cnt i : Nat) : Nat := if i + 1 = pieces cnt then cnt - 16 * i else 16

def AddressRegisters.at (registers : AddressRegisters) (cnt i : Nat) : UInt32 :=
  if pieces cnt = 1 then registers.addD
  else if i = 0 then registers.addDh
  else if i + 1 = pieces cnt then registers.addDt
  else registers.addDs

variable (snd : Nat → UInt8) (rcv : Option (Nat → UInt8)) (reading : Bool) (write read : Irdwr)
  (registers : AddressRegisters) (cnt : Nat)

def pieceWrite (i : Nat) : Call :=
  ⟨if i + 1 = pieces cnt then write else .bufwrite,
    withCount (registers.at cnt i) (UInt32.ofNat (pieceBits cnt i - 1) <<< 8),
    sndWord snd i, sndWord snd (i + 1), rcv⟩

def readOperand (i word : Nat) : UInt16 :=
  if pieces cnt ≠ 1 ∧ cnt % 16 = 0 ∧ i + 1 = pieces cnt then sndWord snd word else 0

def pieceRead (i : Nat) : Call :=
  ⟨if i + 1 = pieces cnt then read else .bufread, registers.addR, readOperand snd cnt i i,
    readOperand snd cnt i (i + 1), rcv⟩

def piece (i : Nat) : List Call :=
  pieceWrite snd rcv write registers cnt i ::
    if reading then [pieceRead snd rcv read registers cnt i] else []

variable {registers}

lemma piece_calls {before : Shifting} {k} (at_ : before.data = k)
    (agrees : before.registers.addR = registers.addR) (codes)
    (coded : codes = if k + 1 = pieces cnt then (write, read) else (.bufwrite, .bufread))
    {ptr} (address : ptr =
      withCount (registers.at cnt k) (UInt32.ofNat (pieceBits cnt k - 1) <<< 8)) :
    before.calls ++ [⟨codes.1, ptr, sndWord snd before.data, sndWord snd (before.data + 1), rcv⟩] ++
        (if reading then [⟨codes.2, before.registers.addR, readOperand snd cnt k k,
          readOperand snd cnt k (k + 1), rcv⟩] else []) =
      before.calls ++ piece snd rcv reading write read registers cnt k := by
  rw [piece, pieceWrite, pieceRead, address, coded, at_, agrees, append_assoc]
  by_cases last : k + 1 = pieces cnt
  · simp only [if_pos last, singleton_append]
  · simp only [if_neg last, singleton_append]

lemma Shifting.receive_calls (shifting : Shifting) (irdwr data0 data1) :
    (shifting.receive rcv reading irdwr data0 data1).calls =
      shifting.calls ++
        if reading then [⟨irdwr, shifting.registers.addR, data0, data1, rcv⟩] else [] := by
  cases reading with
  | false => exact (append_nil _).symm
  | true => rfl

@[simp] lemma Shifting.receive_registers (shifting : Shifting) (irdwr data0 data1) :
    (shifting.receive rcv reading irdwr data0 data1).registers = shifting.registers := by
  cases reading <;> rfl

@[simp] lemma Shifting.receive_data (shifting : Shifting) (irdwr data0 data1) :
    (shifting.receive rcv reading irdwr data0 data1).data = shifting.data := by
  cases reading <;> rfl

lemma readOperand_tmp (other : pieces cnt = 1 ∨ cnt % 16 ≠ 0 ∨ i + 1 ≠ pieces cnt)
    (word) : readOperand snd cnt i word = 0 := by
  rw [readOperand, if_neg]
  rintro ⟨more, full, last⟩
  rcases other with one | part | before
  · exact more one
  · exact part full
  · exact before last

lemma pieceBits_last (last : i + 1 = pieces cnt) : pieceBits cnt i = cnt - 16 * i := if_pos last

lemma pieceBits_full (before : i + 1 < pieces cnt) : pieceBits cnt i = 16 :=
  if_neg (Nat.ne_of_lt before)

lemma at_head (more : pieces cnt ≠ 1) : registers.at cnt 0 = registers.addDh := by
  rw [AddressRegisters.at, if_neg more, if_pos rfl]

lemma at_tail (behind : i ≠ 0) (last : i + 1 = pieces cnt) :
    registers.at cnt i = registers.addDt := by
  rw [AddressRegisters.at, if_neg (by omega), if_neg behind, if_pos last]

lemma at_middle (behind : i ≠ 0) (before : i + 1 < pieces cnt) :
    registers.at cnt i = registers.addDs := by
  rw [AddressRegisters.at, if_neg (by omega), if_neg behind, if_neg (by omega)]

structure Sent (registers : AddressRegisters) (before after : Shifting) (k : Nat) : Prop where
  agrees : registers.Agrees after.registers
  calls : after.calls = before.calls ++ piece snd rcv reading write read registers cnt k

lemma shiftHead_sent {shifting} (agrees : registers.Agrees shifting.registers)
    (at_ : shifting.data = 0) (more : 1 < pieces cnt) :
    Sent snd rcv reading write read cnt registers shifting
        (shiftHead snd rcv reading shifting) 0 ∧
      (shiftHead snd rcv reading shifting).data = 1 := by
  refine ⟨⟨?_, ?_⟩, ?_⟩
  · rw [shiftHead, Shifting.receive_registers]
    exact ⟨agrees.i, agrees.d, (withCount_masked _ (by decide)).trans agrees.dh, agrees.ds,
      agrees.dt, agrees.r⟩
  · rw [shiftHead, Shifting.receive_calls]
    have address : withCount shifting.registers.addDh 0x0f00 =
        withCount (registers.at cnt 0) (UInt32.ofNat (pieceBits cnt 0 - 1) <<< 8) := by
      rw [at_head cnt (by omega), pieceBits_full cnt more]
      exact withCount_congr agrees.dh _
    have calls := piece_calls snd rcv reading write read cnt at_ agrees.r
      (.bufwrite, .bufread) (if_neg (by omega)).symm address
    rw [readOperand_tmp snd cnt (by omega), readOperand_tmp snd cnt (by omega)] at calls
    exact calls
  · rw [shiftHead, Shifting.receive_data]
    exact congrArg (· + 1) at_

lemma shiftMiddle_sent {shifting} (agrees : registers.Agrees shifting.registers)
    {k} (at_ : shifting.data = k) (behind : k ≠ 0) (before : k + 1 < pieces cnt) :
    Sent snd rcv reading write read cnt registers shifting
        (shiftMiddle snd rcv reading shifting) k ∧
      (shiftMiddle snd rcv reading shifting).data = k + 1 := by
  refine ⟨⟨?_, ?_⟩, ?_⟩
  · rw [shiftMiddle, Shifting.receive_registers]
    exact ⟨agrees.i, agrees.d, agrees.dh, (withCount_masked _ (by decide)).trans agrees.ds,
      agrees.dt, agrees.r⟩
  · rw [shiftMiddle, Shifting.receive_calls]
    have address : withCount shifting.registers.addDs 0x0f00 =
        withCount (registers.at cnt k) (UInt32.ofNat (pieceBits cnt k - 1) <<< 8) := by
      rw [at_middle cnt behind before, pieceBits_full cnt before]
      exact withCount_congr agrees.ds _
    have calls := piece_calls snd rcv reading write read cnt at_ agrees.r
      (.bufwrite, .bufread) (if_neg (by omega)).symm address
    rw [readOperand_tmp snd cnt (by omega), readOperand_tmp snd cnt (by omega)] at calls
    exact calls
  · rw [shiftMiddle, Shifting.receive_data]
    exact congrArg (· + 1) at_

lemma shiftTail_sent {shifting} (agrees : registers.Agrees shifting.registers)
    {k bit} (at_ : shifting.data = k) (behind : k ≠ 0) (some_ : bit ≠ 0) (part : bit < 16)
    (size : cnt = 16 * k + bit) :
    Sent snd rcv reading write read cnt registers shifting
      (shiftTail snd rcv reading write read (bit - 1) shifting) k := by
  have last : k + 1 = pieces cnt := by
    rw [pieces]
    omega
  constructor
  · rw [shiftTail, Shifting.receive_registers]
    exact ⟨agrees.i, agrees.d, agrees.dh, agrees.ds,
      (withCount_masked _ (countField_clear (by omega))).trans agrees.dt, agrees.r⟩
  · rw [shiftTail, Shifting.receive_calls]
    have address : withCount shifting.registers.addDt (UInt32.ofNat (bit - 1) <<< 8) =
        withCount (registers.at cnt k) (UInt32.ofNat (pieceBits cnt k - 1) <<< 8) := by
      have bits : pieceBits cnt k = bit := by
        rw [pieceBits_last cnt last]
        omega
      rw [at_tail cnt behind last, bits]
      exact withCount_congr agrees.dt _
    have calls := piece_calls snd rcv reading write read cnt at_ agrees.r (write, read)
      (if_pos last).symm address
    rw [readOperand_tmp snd cnt (by omega), readOperand_tmp snd cnt (by omega)] at calls
    exact calls

lemma shiftFullTail_sent {shifting} (agrees : registers.Agrees shifting.registers)
    {k} (at_ : shifting.data = k) (behind : k ≠ 0) (size : cnt = 16 * (k + 1)) :
    Sent snd rcv reading write read cnt registers shifting
      (shiftFullTail snd rcv reading write read shifting) k := by
  have last : k + 1 = pieces cnt := by
    rw [pieces]
    omega
  constructor
  · rw [shiftFullTail, Shifting.receive_registers]
    exact ⟨agrees.i, agrees.d, agrees.dh, agrees.ds,
      (withCount_masked _ (by decide)).trans agrees.dt, agrees.r⟩
  · rw [shiftFullTail, Shifting.receive_calls]
    have address : withCount shifting.registers.addDt 0x0f00 =
        withCount (registers.at cnt k) (UInt32.ofNat (pieceBits cnt k - 1) <<< 8) := by
      have bits : pieceBits cnt k = 16 := by
        rw [pieceBits_last cnt last]
        omega
      rw [at_tail cnt behind last, bits]
      exact withCount_congr agrees.dt _
    have calls := piece_calls snd rcv reading write read cnt at_ agrees.r (write, read)
      (if_pos last).symm address
    have operand (word : Nat) : readOperand snd cnt k word = sndWord snd word :=
      if_pos ⟨by omega, by omega, last⟩
    rw [operand, operand] at calls
    subst at_
    exact calls

lemma shiftWhole_sent {shifting} (agrees : registers.Agrees shifting.registers)
    (at_ : shifting.data = 0) (one : pieces cnt = 1) :
    Sent snd rcv reading write read cnt registers shifting
      (shiftWhole snd rcv reading write read (cnt - 1) shifting) 0 := by
  have few : 0 < cnt ∧ cnt ≤ 16 := by
    rw [pieces] at one
    omega
  constructor
  · rw [shiftWhole, Shifting.receive_registers]
    exact ⟨agrees.i, (withCount_masked _ (countField_clear (by omega))).trans agrees.d, agrees.dh,
      agrees.ds, agrees.dt, agrees.r⟩
  · rw [shiftWhole, Shifting.receive_calls]
    have address : withCount shifting.registers.addD (UInt32.ofNat (cnt - 1) <<< 8) =
        withCount (registers.at cnt 0) (UInt32.ofNat (pieceBits cnt 0 - 1) <<< 8) := by
      rw [pieceBits_last cnt one.symm, AddressRegisters.at, if_pos one]
      exact withCount_congr agrees.d _
    have calls := piece_calls snd rcv reading write read cnt at_ agrees.r (write, read)
      (if_pos one.symm).symm address
    rw [readOperand_tmp snd cnt (.inl one), readOperand_tmp snd cnt (.inl one)] at calls
    exact calls

lemma shiftWords_sent {bit} (part : bit < 16) (remaining) :
    ∀ {shifting : Shifting} {k : Nat}, registers.Agrees shifting.registers → shifting.data = k →
      k ≠ 0 → cnt = 16 * (k + remaining) + bit → (remaining = 0 → bit ≠ 0) →
      registers.Agrees (shiftWords snd rcv reading write read bit remaining shifting).registers ∧
        (shiftWords snd rcv reading write read bit remaining shifting).calls =
          shifting.calls ++ (range' k (pieces cnt - k)).flatMap
            (piece snd rcv reading write read registers cnt) := by
  induction remaining with
  | zero =>
    intro shifting k agrees at_ behind size some_
    have one : pieces cnt - k = 1 := by
      rw [pieces]
      omega
    obtain ⟨still, calls⟩ := shiftTail_sent snd rcv reading write read cnt agrees at_ behind
      (some_ rfl) part size
    refine ⟨still, ?_⟩
    rw [one, range'_one, flatMap_singleton]
    exact calls
  | succ remaining ih =>
    intro shifting k agrees at_ behind size some_
    rw [shiftWords]
    by_cases full : remaining = 0 ∧ bit = 0
    · obtain ⟨rfl, rfl⟩ := full
      have one : pieces cnt - k = 1 := by
        rw [pieces]
        omega
      rw [one, range'_one, flatMap_singleton]
      obtain ⟨still, calls⟩ := shiftFullTail_sent snd rcv reading write read cnt agrees at_
        behind size
      exact ⟨still, calls⟩
    · have before : k + 1 < pieces cnt := by
        rw [pieces]
        omega
      have more : pieces cnt - k = pieces cnt - (k + 1) + 1 := by omega
      obtain ⟨⟨kept, calls⟩, next⟩ := shiftMiddle_sent snd rcv reading write read cnt agrees at_
        behind before
      obtain ⟨still, others⟩ := ih kept next (Nat.succ_ne_zero k) (by omega) (by omega)
      rw [if_neg full]
      refine ⟨still, ?_⟩
      rw [others, calls, more, range'_succ, flatMap_cons, append_assoc]

lemma clearDs_agrees {shifting : Shifting} (agrees : registers.Agrees shifting.registers) :
    registers.Agrees shifting.clearDs.registers := by
  refine ⟨agrees.i, agrees.d, agrees.dh, ?_, agrees.dt, agrees.r⟩
  change shifting.registers.addDs &&& mskClr &&& mskClr = _
  rw [UInt32.and_assoc, UInt32.and_self, agrees.ds]

lemma shiftData_sent {shifting} (agrees : registers.Agrees shifting.registers)
    (at_ : shifting.data = 0) (some_ : 1 ≤ cnt) :
    registers.Agrees (shiftData snd rcv reading write read cnt shifting).registers ∧
      (shiftData snd rcv reading write read cnt shifting).calls =
        shifting.calls ++ (List.range (pieces cnt)).flatMap
          (piece snd rcv reading write read registers cnt) := by
  rw [shiftData]
  by_cases single : cnt / 16 = 0 ∨ cnt / 16 = 1 ∧ cnt - cnt / 16 * 16 = 0
  · have one : pieces cnt = 1 := by
      rw [pieces]
      omega
    obtain ⟨still, calls⟩ := shiftWhole_sent snd rcv reading write read cnt agrees at_ one
    rw [if_pos single, one, range_one, flatMap_singleton]
    exact ⟨still, calls⟩
  · have more : 1 < pieces cnt := by
      rw [pieces]
      omega
    have first : pieces cnt = pieces cnt - 1 + 1 := by omega
    obtain ⟨⟨kept, calls⟩, next⟩ := shiftHead_sent snd rcv reading write read cnt agrees at_ more
    have part : cnt - cnt / 16 * 16 < 16 := by omega
    obtain ⟨still, others⟩ := shiftWords_sent snd rcv reading write read cnt part (cnt / 16 - 1)
      (clearDs_agrees kept) next Nat.one_ne_zero (by omega) (by omega)
    rw [if_neg single]
    refine ⟨still, ?_⟩
    have begun : (shiftHead snd rcv reading shifting).clearDs.calls =
        (shiftHead snd rcv reading shifting).calls := rfl
    rw [others, begun, calls, range_eq_range', first, append_assoc]
    rfl

end

def Call.writes (call : Call) : Bool := call.irdwr == .bufwrite || call.irdwr == .bufwriteSnd

/-- As `devdo` has set them, but for the counts of the scans since then. -/
structure AddressRegisters.Selected (registers : AddressRegisters) (vmeadd msk : UInt32) :
    Prop where
  flags : (vmeadd ||| msk) &&& mskD = 0
  agrees : (select vmeadd msk).Agrees registers

structure SplitScan (registers : AddressRegisters) (snd : Nat → UInt8) (cnt : Nat)
    (reading : Bool) (calls : List Call) : Prop where
  kinds : ∀ call ∈ calls, call.writes = !call.reads
  counts : ((calls.filter Call.writes).map Call.bitCount).sum = cnt
  words : (calls.filter Call.writes).map Call.data0 =
    (List.range (calls.filter Call.writes).length).map (sndWord snd)
  single : cnt ≤ 16 → (calls.filter Call.writes).length = 1
  ends : ∀ vmeadd msk, registers.Selected vmeadd msk →
    ∀ i (inside : i < (calls.filter Call.writes).length),
      ((calls.filter Call.writes)[i].header = decide (i = 0)) ∧
        ((calls.filter Call.writes)[i].trailer =
          decide (i + 1 = (calls.filter Call.writes).length))
  answered : calls.map Call.reads =
    (calls.filter Call.writes).flatMap fun _ => if reading then [false, true] else [false]
  answers : ∀ call ∈ calls, call.reads = true → call.ptr = registers.addR
  last : calls.map Call.immediate = List.replicate (calls.length - 1) false ++ [true]

variable (snd : Nat → UInt8) (rcv : Option (Nat → UInt8)) (reading : Bool)
  (registers : AddressRegisters) (cnt : Nat)

def lastWrite : Irdwr := if reading then .bufwrite else .bufwriteSnd

def pieceCalls : List Call :=
  (List.range (pieces cnt)).flatMap
    (piece snd rcv reading (lastWrite reading) .bufreadSnd registers cnt)

lemma pieceWrite_writes (i) :
    (pieceWrite snd rcv (lastWrite reading) registers cnt i).writes = true := by
  rw [pieceWrite]
  cases reading <;> split <;> rfl

lemma pieceWrite_reads (i) :
    (pieceWrite snd rcv (lastWrite reading) registers cnt i).reads = false := by
  rw [pieceWrite]
  cases reading <;> split <;> rfl

lemma pieceRead_writes (i) : (pieceRead snd rcv .bufreadSnd registers cnt i).writes = false := by
  rw [pieceRead]
  split <;> rfl

lemma pieceRead_reads (i) : (pieceRead snd rcv .bufreadSnd registers cnt i).reads = true := by
  rw [pieceRead]
  split <;> rfl

lemma filter_pieceCalls :
    (pieceCalls snd rcv reading registers cnt).filter Call.writes =
      (List.range (pieces cnt)).map
        (pieceWrite snd rcv (lastWrite reading) registers cnt) := by
  rw [pieceCalls, filter_flatMap, map_eq_flatMap]
  apply flatMap_congr
  intro i _
  rw [piece, filter_cons_of_pos (pieceWrite_writes snd rcv reading registers cnt i)]
  cases reading with
  | false => rfl
  | true =>
    rw [if_pos rfl, filter_cons_of_neg]
    · rfl
    · rw [pieceRead_writes]
      exact Bool.false_ne_true

lemma pieceBits_bounds (inside : i < pieces cnt) :
    1 ≤ pieceBits cnt i ∧ pieceBits cnt i ≤ 16 := by
  have bound : i < (cnt + 15) / 16 := inside
  rw [pieceBits, pieces]
  split <;> omega

lemma sum_pieceBits (done) (few : done ≤ pieces cnt) :
    ((List.range done).map (pieceBits cnt)).sum = min (16 * done) cnt := by
  induction done with
  | zero => rw [range_zero, map_nil, sum_nil, Nat.zero_min]
  | succ done ih =>
    rw [range_succ, map_append, sum_append, ih (by omega), map_singleton,
      sum_singleton]
    rw [pieces] at few
    rw [pieceBits, pieces]
    split <;> omega

lemma pieceWrite_bitCount (inside : i < pieces cnt) (write) :
    (pieceWrite snd rcv write registers cnt i).bitCount = pieceBits cnt i := by
  have bounds := pieceBits_bounds cnt inside
  rw [Call.bitCount, pieceWrite, withCount_read _ (by omega)]
  omega

lemma select_flag {vmeadd msk} (none_ : (vmeadd ||| msk) &&& mskD = 0)
    {flag} (part : mskD &&& flag = flag) (kept : mskClr &&& flag = flag)
    (kind) : ((vmeadd ||| msk ||| kind) &&& mskClr) &&& flag = kind &&& flag := by
  have clear : (vmeadd ||| msk) &&& flag = 0 := by
    rw [← part, ← UInt32.and_assoc, none_, UInt32.zero_and]
  rw [UInt32.and_assoc, kept, or_and_distrib, clear, UInt32.zero_or]

variable {registers}

lemma at_flag {vmeadd msk} (selected : registers.Selected vmeadd msk) {flag}
    (part : mskD &&& flag = flag) (kept : mskClr &&& flag = flag) (i) :
    (registers.at cnt i &&& mskClr) &&& flag =
      (if pieces cnt = 1 then mskD else if i = 0 then mskDh
        else if i + 1 = pieces cnt then mskDt else mskDs) &&& flag := by
  have flags := select_flag selected.flags part kept
  have agrees := selected.agrees
  rw [AddressRegisters.at]
  split
  · rw [agrees.d]
    exact flags mskD
  · split
    · rw [agrees.dh]
      exact flags mskDh
    · split
      · rw [agrees.dt]
        exact flags mskDt
      · rw [agrees.ds]
        exact flags mskDs

lemma pieceWrite_ends {vmeadd msk} (selected : registers.Selected vmeadd msk)
    (write) (inside : i < pieces cnt) :
    (pieceWrite snd rcv write registers cnt i).header = decide (i = 0) ∧
      (pieceWrite snd rcv write registers cnt i).trailer = decide (i + 1 = pieces cnt) := by
  have bounds := pieceBits_bounds cnt inside
  have few : pieceBits cnt i - 1 < 16 := by omega
  rw [Call.header, Call.trailer, pieceWrite, withCount_flag _ few (by decide),
    withCount_flag _ few (by decide), at_flag cnt selected (by decide) (by decide),
    at_flag cnt selected (by decide) (by decide)]
  by_cases one : pieces cnt = 1
  · have first : i = 0 := by omega
    have last : i + 1 = pieces cnt := by omega
    rw [if_pos one, decide_eq_true first, decide_eq_true last]
    exact ⟨by decide, by decide⟩
  · rw [if_neg one]
    by_cases first : i = 0
    · have more : i + 1 ≠ pieces cnt := by omega
      rw [if_pos first, decide_eq_true first, decide_eq_false more]
      exact ⟨by decide, by decide⟩
    · rw [if_neg first, decide_eq_false first]
      by_cases last : i + 1 = pieces cnt
      · rw [if_pos last, decide_eq_true last]
        exact ⟨by decide, by decide⟩
      · rw [if_neg last, decide_eq_false last]
        exact ⟨by decide, by decide⟩

lemma piece_reads (i) :
    (piece snd rcv reading (lastWrite reading) .bufreadSnd registers cnt i).map Call.reads =
      if reading then [false, true] else [false] := by
  rw [piece, map_cons, pieceWrite_reads]
  cases reading with
  | false => rfl
  | true => rw [if_pos rfl, map_singleton, pieceRead_reads, if_pos rfl]

lemma mem_pieceCalls {call} (member : call ∈ pieceCalls snd rcv reading registers cnt) :
    ∃ i, call = pieceWrite snd rcv (lastWrite reading) registers cnt i ∨
      call = pieceRead snd rcv .bufreadSnd registers cnt i := by
  obtain ⟨i, -, inside⟩ := mem_flatMap.1 member
  refine ⟨i, ?_⟩
  rcases mem_cons.1 inside with first | second
  · exact .inl first
  · cases reading with
    | false => exact absurd second not_mem_nil
    | true => exact .inr (mem_singleton.1 second)

lemma piece_buffered (before : i + 1 < pieces cnt) :
    ∀ call ∈ piece snd rcv reading (lastWrite reading) .bufreadSnd registers cnt i,
      call.immediate = false := by
  intro call member
  rcases mem_cons.1 member with rfl | second
  · rw [pieceWrite, if_neg (by omega)]
    rfl
  · cases reading with
    | false => exact absurd second not_mem_nil
    | true =>
      obtain rfl := mem_singleton.1 second
      rw [pieceRead, if_neg (by omega)]
      rfl

lemma piece_immediate (last : i + 1 = pieces cnt) :
    (piece snd rcv reading (lastWrite reading) .bufreadSnd registers cnt i).map Call.immediate =
      if reading then [false, true] else [true] := by
  rw [piece, pieceWrite, if_pos last]
  cases reading with
  | false => rfl
  | true =>
    rw [pieceRead, if_pos last]
    rfl

lemma pieceCalls_immediate (some_ : 1 ≤ cnt) :
    (pieceCalls snd rcv reading registers cnt).map Call.immediate =
      replicate ((pieceCalls snd rcv reading registers cnt).length - 1) false ++ [true] := by
  obtain ⟨before, last⟩ : ∃ before, pieces cnt = before + 1 :=
    ⟨pieces cnt - 1, by rw [pieces]; omega⟩
  have buffered : ((List.range before).flatMap
      (piece snd rcv reading (lastWrite reading) .bufreadSnd registers cnt)).map Call.immediate =
        replicate ((List.range before).flatMap
          (piece snd rcv reading (lastWrite reading) .bufreadSnd registers cnt)).length false := by
    refine eq_replicate_iff.2 ⟨length_map _, ?_⟩
    intro flag member
    obtain ⟨call, inside, rfl⟩ := mem_map.1 member
    obtain ⟨i, range, of⟩ := mem_flatMap.1 inside
    have earlier : i + 1 < pieces cnt := by
      have bound := mem_range.1 range
      omega
    exact piece_buffered snd rcv reading cnt earlier call of
  have final : (piece snd rcv reading (lastWrite reading) .bufreadSnd registers cnt before).map
      Call.immediate = if reading then [false, true] else [true] :=
    piece_immediate snd rcv reading cnt last.symm
  have size := congrArg List.length final
  rw [length_map] at size
  rw [pieceCalls, last, range_succ, flatMap_append, flatMap_singleton,
    map_append, length_append, buffered, final, size]
  cases reading with
  | false => rfl
  | true =>
    simp only [if_true, length_cons, length_nil]
    rw [show [false, true] = [false] ++ [true] from rfl, ← append_assoc,
      ← replicate_succ']
    rfl

lemma split_pieceCalls (some_ : 1 ≤ cnt) :
    SplitScan registers snd cnt reading (pieceCalls snd rcv reading registers cnt) := by
  have writes := filter_pieceCalls snd rcv reading registers cnt
  have number : ((pieceCalls snd rcv reading registers cnt).filter Call.writes).length =
      pieces cnt := by
    rw [writes, length_map, length_range]
  constructor
  · intro call member
    obtain ⟨i, rfl | rfl⟩ := mem_pieceCalls snd rcv reading cnt member
    · rw [pieceWrite_writes, pieceWrite_reads]
      rfl
    · rw [pieceRead_writes, pieceRead_reads]
      rfl
  · have bits : (List.range (pieces cnt)).map
        (Call.bitCount ∘ pieceWrite snd rcv (lastWrite reading) registers cnt) =
          (List.range (pieces cnt)).map (pieceBits cnt) := by
      apply map_congr_left
      intro i member
      exact pieceWrite_bitCount snd rcv registers cnt (mem_range.1 member) _
    rw [writes, map_map, bits, sum_pieceBits cnt _ (Nat.le_refl _), pieces]
    omega
  · rw [number, writes, map_map]
    rfl
  · rw [number, pieces]
    omega
  · intro vmeadd msk selected i inside
    have inside' : i < pieces cnt := number ▸ inside
    have piece_ : ((pieceCalls snd rcv reading registers cnt).filter Call.writes)[i] =
        pieceWrite snd rcv (lastWrite reading) registers cnt i := by
      simp only [writes, getElem_map, getElem_range]
    rw [piece_, number]
    exact pieceWrite_ends snd rcv cnt selected _ inside'
  · rw [writes, pieceCalls, map_flatMap, flatMap_map]
    apply flatMap_congr
    intro i _
    exact piece_reads snd rcv reading cnt i
  · intro call member reads
    obtain ⟨i, rfl | rfl⟩ := mem_pieceCalls snd rcv reading cnt member
    · rw [pieceWrite_reads] at reads
      exact absurd reads Bool.false_ne_true
    · rfl
  · exact pieceCalls_immediate snd rcv reading cnt some_

lemma AddressRegisters.Selected.of_agrees {registers other : AddressRegisters} {vmeadd msk}
    (selected : registers.Selected vmeadd msk) (agrees : registers.Agrees other) :
    other.Selected vmeadd msk := by
  obtain ⟨flags, i, d, dh, ds, dt, r⟩ := selected
  exact ⟨flags, agrees.i.trans i, agrees.d.trans d, agrees.dh.trans dh, agrees.ds.trans ds,
    agrees.dt.trans dt, agrees.r.trans r⟩

lemma scan_sent (registers) (some_ : 1 ≤ cnt) (ird) :
    registers.Agrees (registers.scan snd rcv 1 cnt ird).registers ∧
      (registers.scan snd rcv 1 cnt ird).calls =
        pieceCalls snd rcv (ird = 1) registers cnt := by
  have codes : ∀ ird, AddressRegisters.tird ird = lastWrite (ird = 1) := by decide
  have same : registers.Agrees registers := ⟨rfl, rfl, rfl, rfl, rfl, rfl⟩
  have none_ : cnt ≠ 0 := by omega
  rw [AddressRegisters.scan, if_neg none_, codes]
  exact shiftData_sent snd rcv (ird = 1) _ _ cnt same rfl some_

/-- The two copies of the loop, and what they send. -/
theorem scans_split (registers : AddressRegisters) (ird : Fin 3) {when_ : Int} (some_ : 1 ≤ cnt)
    (immediate : when_ ≠ 0) :
    registers.scanDmb snd rcv 1 cnt ird when_ = registers.scan snd rcv 1 cnt ird ∧
      SplitScan registers snd cnt (ird = 1) (registers.scan snd rcv 1 cnt ird).calls ∧
      ∀ vmeadd msk, registers.Selected vmeadd msk →
        (registers.scan snd rcv 1 cnt ird).registers.Selected vmeadd msk := by
  obtain ⟨agrees, calls⟩ := scan_sent snd rcv cnt registers some_ ird
  refine ⟨?_, ?_, fun vmeadd msk selected => selected.of_agrees agrees⟩
  · have none_ : cnt ≠ 0 := by omega
    have codes : ∀ ird : Fin 3,
        (if ird = 1 ∧ (1 : Nat) = 1 then .bufwrite else AddressRegisters.tiwt true) =
          AddressRegisters.tird ird := by
      decide
    rw [AddressRegisters.scanDmb, AddressRegisters.scan, if_neg none_, if_neg none_,
      decide_eq_true immediate, codes]
    rfl
  · rw [calls]
    exact split_pieceCalls snd rcv _ cnt some_

theorem scans_split_33 :
    let registers := AddressRegisters.select (0x280000) 0x1000
    1 ≤ 33 ∧ (2 : Int) ≠ 0 ∧
      registers.scanDmb (fun _ => 0xa5) none 1 33 1 2 =
        registers.scan (fun _ => 0xa5) none 1 33 1 ∧
      SplitScan registers (fun _ => 0xa5) 33 true
        (registers.scan (fun _ => 0xa5) none 1 33 1).calls :=
  have split := scans_split (fun _ => 0xa5) none 33 (AddressRegisters.select (0x280000) 0x1000) 1
    (by decide) (show (2 : Int) ≠ 0 by decide)
  ⟨by decide, by decide, split.1, split.2.1⟩

end EmuLib.VmeController
