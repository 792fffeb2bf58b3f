import EmuLib.Jtag.Chain

/-!
An ideal anode trigger board behind the instruction and data scans of its fast control chain.
-/

namespace EmuLib.AlctController

open List

open Jtag (EMUjtag Chip noChip maxNumFrames opcodeInstruction)

/-- The registers that are written and read back, other than the one of the triggers. -/
inductive Register
  | hotchanMask
  | configReg
  | asicDelayLines
  | collisionMaskReg
  | delaylineCtrlReg
deriving DecidableEq, Repr

inductive Access
  | rd
  | wrt
deriving DecidableEq, Repr

/-- The opcodes `ALCT_FAST_RD_…` and `ALCT_FAST_WRT_…`. -/
def opcode : Access → Register → BitVec 32
  | .rd, .hotchanMask => 0x1
  | .wrt, .hotchanMask => 0x2
  | .rd, .configReg => 0x6
  | .wrt, .configReg => 0x7
  | .wrt, .asicDelayLines => 0xd
  | .rd, .asicDelayLines => 0xe
  | .rd, .collisionMaskReg => 0x13
  | .wrt, .collisionMaskReg => 0x14
  | .rd, .delaylineCtrlReg => 0x15
  | .wrt, .delaylineCtrlReg => 0x16

def opcodeSizeAlctFastFpga : Nat := 5

def regSizeWrtAsicDelayLines : Nat := 120
def regSizeRdAsicDelayLines : Nat := 121

structure Alct where
  hotchanMask : List Bool
  configReg : List Bool
  delayLines : Nat → List Bool
  collisionMaskReg : List Bool
  delaylineCtrlReg : List Bool

/-- What nothing is said about: the junk bit, what comes out of a register that is written to, and
what is left in a register after a read has destroyed it. -/
structure Unknown where
  junk : Alct → Bool
  shown : Alct → Nat → Bool
  left : Alct → Nat → Bool

namespace Alct

/-- A group is selected by a bit that is not set, behind the two other bits of the register. -/
def selected (alct : Alct) (group : Nat) : Bool :=
  decide (group + 2 < alct.delaylineCtrlReg.length) && !alct.delaylineCtrlReg.getD (group + 2) true

def selectedGroup (alct : Alct) : Option Nat :=
  (List.range alct.delaylineCtrlReg.length).find? alct.selected

variable (unknown : Unknown)

def path (alct : Alct) (access : Access) (register : Register) (size : Nat) : List Bool :=
  match access, register with
  | .wrt, _ => (List.range size).map (unknown.shown alct)
  | .rd, .hotchanMask => alct.hotchanMask
  | .rd, .configReg => alct.configReg
  | .rd, .asicDelayLines =>
    match alct.selectedGroup with
    | none => (List.range size).map (unknown.shown alct)
    | some group => unknown.junk alct :: alct.delayLines group
  | .rd, .collisionMaskReg => alct.collisionMaskReg
  | .rd, .delaylineCtrlReg => alct.delaylineCtrlReg

def loaded (alct : Alct) (register : Register) (data : List Bool) : Alct :=
  match register with
  | .hotchanMask => { alct with hotchanMask := data }
  | .configReg => { alct with configReg := data }
  | .asicDelayLines =>
    { alct with delayLines := fun group =>
        if alct.selected group then data else alct.delayLines group }
  | .collisionMaskReg => { alct with collisionMaskReg := data }
  | .delaylineCtrlReg => { alct with delaylineCtrlReg := data }

def afterRead (alct : Alct) (register : Register) : Alct :=
  match register with
  | .hotchanMask | .collisionMaskReg | .asicDelayLines =>
    alct.loaded register ((List.range regSizeRdAsicDelayLines).map (unknown.left alct))
  | .configReg | .delaylineCtrlReg => alct

def exchanged (alct : Alct) (access : Access) (register : Register) (data : List Bool) : Alct :=
  match access with
  | .wrt => alct.loaded register data
  | .rd => alct.afterRead unknown register

def fastChain : EMUjtag := ⟨0x2, [opcodeSizeAlctFastFpga], true, 0, [], [], [], []⟩

def fastFpga (path : List Bool) : Chip := ⟨List.replicate opcodeSizeAlctFastFpga true, false, path⟩

def vector (data : Nat → Int) (size : Nat) : List Nat :=
  (List.range size).map fun bit => (data bit % 256).toNat

def shfIRShfDR (alct : Alct) (access : Access) (register : Register) (size : Nat)
    (data : Nat → Int) : Option (Alct × (Nat → Int)) :=
  (fastChain.shfIRShfDR [fastFpga (alct.path unknown access register size)] 0
      (opcode access register) size (vector data size)).map fun scanned =>
    (alct.exchanged unknown access register
        ((scanned.2.map Chip.dataRegister).headD []),
      fun bit => (scanned.1.chipTdoInBits.getD bit 0 : Nat))

end Alct

def ofBits (bits : List Bool) (bit : Nat) : Int := ((bits.getD bit false).toNat : Int)

def toBits (data : Nat → Int) (size : Nat) : List Bool :=
  (List.range size).map fun bit => decide (data bit = 1)

def AreBits (data : Nat → Int) (size : Nat) : Prop := ∀ bit < size, data bit = 0 ∨ data bit = 1

lemma toBits_length (data size) : (toBits data size).length = size := by
  rw [toBits, length_map, length_range]

variable {data : Nat → Int} {size : Nat}

lemma ofBits_toBits (bits : AreBits data size) {bit}
    (inside : bit < size) : ofBits (toBits data size) bit = data bit := by
  rw [ofBits, toBits]
  rcases bits bit inside with zero | one
  · simp [inside, zero]
  · simp [inside, one]

lemma toBits_ofBits (bits) : toBits (ofBits bits) bits.length = bits := by
  apply ext_getElem
  · exact toBits_length _ _
  · intro bit _ inside
    cases value : bits[bit] <;> simp [toBits, ofBits, inside, value]

lemma toBits_congr {one other}
    (same : ∀ bit < size, one bit = other bit) : toBits one size = toBits other size := by
  apply map_congr_left
  intro bit member
  rw [same bit (mem_range.1 member)]

lemma vector_bits (bits : AreBits data size) :
    Alct.vector data size = (toBits data size).map Bool.toNat := by
  rw [toBits, map_map]
  apply map_congr_left
  intro bit member
  rcases bits bit (mem_range.1 member) with zero | one
  · simp [zero]
  · simp [one]

variable {unknown : Unknown} {alct : Alct}

lemma not_bypassed (access register bypass path) :
    (Chip.mk (opcodeInstruction (opcode access register) opcodeSizeAlctFastFpga) bypass path
      ).isBypassed = false := by
  change (opcodeInstruction (opcode access register) opcodeSizeAlctFastFpga).all id = false
  cases access <;> cases register <;> decide

lemma selectedFor_path (access register path) :
    (EMUjtag.selectedFor [Alct.fastFpga path] 0 (opcode access register)).dataPath = path :=
  if_neg (by
    have plain := not_bypassed access register false path
    exact fun bypassed => Bool.false_ne_true (plain.symm.trans bypassed))

lemma exchanged_path (access register path data) :
    ((Jtag.exchanged (Jtag.instructed [Alct.fastFpga path] 0 (opcode access register)) 0
      data).map Chip.dataRegister).headD [] = data := by
  have plain := not_bypassed access register false path
  have set (chip : Chip) (active : chip.isBypassed = false) :
      (chip.setDataPath data).dataRegister = data := by
    rw [Chip.setDataPath, active]
    rfl
  exact set _ plain

lemma shfIRShfDR_some {access register} (bits : AreBits data size) (room : size ≤ maxNumFrames)
    (long : (alct.path unknown access register size).length = size) :
    ∃ read, alct.shfIRShfDR unknown access register size data =
        some (alct.exchanged unknown access register (toBits data size), read) ∧
      ∀ bit < size, read bit = ofBits (alct.path unknown access register size) bit := by
  have describes : EMUjtag.Describes { Alct.fastChain with writeToDevice := true }
      [Alct.fastFpga (alct.path unknown access register size)] := ⟨by decide, rfl⟩
  obtain ⟨ready, instructs, chain, sizes, writes⟩ := @EMUjtag.shfIR_some _ _ describes rfl 0
    (opcode access register) (show (Alct.fastChain.bitsInOpcode.getD 0 0) ≤ 32 by decide)
    (show Alct.fastChain.bitsInOpcode.sum ≤ maxNumFrames by decide)
  have selects : EMUjtag.Selects (Jtag.instructed
      [Alct.fastFpga (alct.path unknown access register size)] 0 (opcode access register)) 0
      (toBits data size) :=
    EMUjtag.selects_instructed Nat.one_pos (by rw [selectedFor_path, long, toBits_length])
  have setUp : 0 ≤ ready.jtagChain := by
    rw [chain]
    decide
  obtain ⟨after, exchanges, returned⟩ := EMUjtag.shfDR_some setUp (by rw [sizes]; rfl) writes
    selects (by rw [toBits_length]; exact room)
  rw [toBits_length, ← vector_bits bits] at exchanges
  rw [toBits_length] at returned
  rw [Alct.shfIRShfDR, EMUjtag.shfIRShfDR, instructs, Option.bind_some]
  have instructed : (Jtag.instructed
      [Alct.fastFpga (alct.path unknown access register size)] 0 (opcode access register)).getD 0
      noChip = EMUjtag.selectedFor [Alct.fastFpga (alct.path unknown access register size)] 0
        (opcode access register) := rfl
  rw [instructed, selectedFor_path] at returned
  refine ⟨_, by
    dsimp only
    rw [exchanges, Option.map_some, exchanged_path], ?_⟩
  intro bit inside
  have taken : after.chipTdoInBits.getD bit 0 =
      ((alct.path unknown access register size).map Bool.toNat).getD bit 0 := by
    rw [← returned, getD_eq_getElem?_getD, getD_eq_getElem?_getD, getElem?_take_of_lt inside]
  rw [taken, ofBits, getD_eq_getElem?_getD, getD_eq_getElem?_getD, getElem?_map]
  cases (alct.path unknown access register size)[bit]? <;> rfl

end EmuLib.AlctController
