import Mathlib.Data.Int.ModEq
import Mathlib.Data.List.Basic

/-!
Half-strips of a chamber that are pulsed: where they are on the boards, which capacitors are set for
them and which inputs of the trigger are enabled.
-/

namespace EmuLib.ChamberUtilities

inductive CompileType
  | a | b | c | d
deriving DecidableEq, Repr

def CompileType.isMe11 : CompileType → Bool
  | .a => false
  | .b => false
  | .c => true
  | .d => true

def toSize (value : Int) : Int := value % 18446744073709551616

/-- A `size_t` as an `int`. -/
def toInt (size : Int) : Int :=
  if size % 4294967296 < 2147483648 then size % 4294967296 else size % 4294967296 - 4294967296

def badHs : Int := -1

def getOutputXStrip (xsPerCfeb : Int) (type : CompileType) (cfeb inputXstrip : Int) : Int :=
  let minNonMe11 : Int := 0
  let maxNonMe11 : Int := 5 * xsPerCfeb - 1
  let minRegionA : Int := 0
  let maxRegionA : Int := 4 * xsPerCfeb - 1
  let minRegionB : Int := 4 * xsPerCfeb
  let maxRegionB : Int := 7 * xsPerCfeb - 1
  let offset (minCfeb : Int) : Int := toSize (xsPerCfeb * toSize (cfeb - minCfeb) + toSize inputXstrip)
  match type with
  | .a =>
    let outputXs :=
      if 0 ≤ cfeb ∧ cfeb ≤ 4 then toInt (toSize (minNonMe11 + offset 0)) else badHs
    if ¬ (minNonMe11 ≤ outputXs ∧ outputXs ≤ maxNonMe11) then badHs else outputXs
  | .b =>
    let outputXs :=
      if 0 ≤ cfeb ∧ cfeb ≤ 4 then toInt (toSize (maxNonMe11 - offset 0)) else badHs
    if ¬ (minNonMe11 ≤ outputXs ∧ outputXs ≤ maxNonMe11) then badHs else outputXs
  | .c =>
    let outputXs :=
      if 0 ≤ cfeb ∧ cfeb ≤ 3 then toInt (toSize (minRegionA + offset 0))
      else if 4 ≤ cfeb ∧ cfeb ≤ 6 then toInt (toSize (maxRegionB - offset 4))
      else badHs
    if ¬ (minRegionA ≤ outputXs ∧ outputXs ≤ maxRegionB) then badHs else outputXs
  | .d =>
    let outputXs :=
      if 0 ≤ cfeb ∧ cfeb ≤ 3 then toInt (toSize (maxRegionA - offset 0))
      else if 4 ≤ cfeb ∧ cfeb ≤ 6 then toInt (toSize (minRegionB + offset 4))
      else badHs
    if ¬ (minRegionA ≤ outputXs ∧ outputXs ≤ maxRegionB) then badHs else outputXs

def getOutputHalfStrip (type : CompileType) (cfeb inputHalfstrip : Int) : Int :=
  getOutputXStrip 32 type cfeb inputHalfstrip

def getOutputStrip (type : CompileType) (cfeb inputStrip : Int) : Int :=
  getOutputXStrip 16 type cfeb inputStrip

def getInputXStrip (xsPerCfeb : Int) (type : CompileType) (outputXstrip : Int) : Int :=
  let maxXsInCfeb := xsPerCfeb - 1
  let region := toInt (toSize outputXstrip / xsPerCfeb)
  let phase := toInt (toSize outputXstrip % xsPerCfeb)
  match type with
  | .a => if 0 ≤ region ∧ region ≤ 4 then phase else -1
  | .b => if 0 ≤ region ∧ region ≤ 4 then maxXsInCfeb - phase else -1
  | .c =>
    if 0 ≤ region ∧ region ≤ 3 then phase
    else if 4 ≤ region ∧ region ≤ 6 then maxXsInCfeb - phase
    else -1
  | .d =>
    if 0 ≤ region ∧ region ≤ 3 then maxXsInCfeb - phase
    else if 4 ≤ region ∧ region ≤ 6 then phase
    else -1

def getInputHalfStrip (type : CompileType) (outputHalfstrip : Int) : Int :=
  getInputXStrip 32 type outputHalfstrip

def getInputStrip (type : CompileType) (outputStrip : Int) : Int :=
  getInputXStrip 16 type outputStrip

def getInputCFEBByX (xsPerCfeb : Int) (type : CompileType) (outputXstrip : Int) : Int :=
  let region := toInt (toSize outputXstrip / xsPerCfeb)
  match type with
  | .a => if 0 ≤ region ∧ region ≤ 4 then region else -1
  | .b => if 0 ≤ region ∧ region ≤ 4 then 4 - region else -1
  | .c =>
    if 0 ≤ region ∧ region ≤ 3 then region
    else if 4 ≤ region ∧ region ≤ 6 then 4 + (6 - region)
    else -1
  | .d =>
    if 0 ≤ region ∧ region ≤ 3 then 0 + (3 - region)
    else if 4 ≤ region ∧ region ≤ 6 then region
    else -1

def getInputCFEBByHalfStrip (type : CompileType) (outputHalfstrip : Int) : Int :=
  getInputCFEBByX 32 type outputHalfstrip

def getInputCFEBByStrip (type : CompileType) (outputStrip : Int) : Int :=
  getInputCFEBByX 16 type outputStrip

inductive ChannelMode
  | normRun | smallCap | mediumCap | largeCap
deriving DecidableEq, Repr

abbrev ChannelTable := Int → Fin 6 → Int → ChannelMode

def setChannel (chan : ChannelTable) (cfeb : Int) (layer : Fin 6) (strip : Int) (mode : ChannelMode) :
    ChannelTable :=
  fun otherCfeb otherLayer otherStrip =>
    if otherCfeb = cfeb ∧ otherLayer = layer ∧ otherStrip = strip then mode
    else chan otherCfeb otherLayer otherStrip

def setStrip (type : CompileType) (layer : Fin 6) (chan : ChannelTable)
    (strip : Int × ChannelMode) : ChannelTable :=
  let inputCfeb := getInputCFEBByStrip type strip.1
  let inputStrip := getInputStrip type strip.1
  if 0 ≤ inputCfeb ∧ 0 ≤ inputStrip then setChannel chan inputCfeb layer inputStrip strip.2
  else chan

def halfset (type : CompileType) (cfeb : Int) (layer : Fin 6) (halfstrip : Int)
    (chan : ChannelTable) : ChannelTable :=
  if halfstrip < 0 ∨ halfstrip > 31 then chan
  else
    let strip := halfstrip / 2
    let side := halfstrip % 2
    let chans : List ChannelMode :=
      if side ≠ 0 then [.smallCap, .largeCap, .mediumCap] else [.mediumCap, .largeCap, .smallCap]
    let strips := [getOutputStrip type cfeb (strip - 1), getOutputStrip type cfeb strip,
      getOutputStrip type cfeb (strip + 1)]
    (strips.zip chans).foldl (setStrip type layer) chan

/-- `0x1 << cfeb`; what it is for a negative `cfeb` the language leaves open. -/
def shiftOne (undefinedShift : BitVec 32) (cfeb : Int) : BitVec 32 :=
  if cfeb < 0 then undefinedShift else 1 <<< cfeb.toNat

structure ClctInputs where
  hardwareVersion : Int
  cfebInj : BitVec 16
  extend : BitVec 16

def disableCLCTInputs (tmb : ClctInputs) : ClctInputs :=
  { tmb with
    cfebInj := tmb.cfebInj &&& 0xffe0
    extend := if tmb.hardwareVersion = 2 then tmb.extend &&& 0xfffc else tmb.extend }

def enableCLCTInputs (tmb : ClctInputs) (clctInputs : BitVec 32) : ClctInputs :=
  { tmb with
    cfebInj := (tmb.cfebInj &&& 0xffe0) ||| (clctInputs &&& 0x1f).setWidth 16
    extend :=
      if tmb.hardwareVersion = 2 then
        (tmb.extend &&& 0xfffc) ||| (clctInputs.sshiftRight 5 &&& 0x3).setWidth 16
      else tmb.extend }

def ClctInputs.enabled (tmb : ClctInputs) (cfeb : Nat) : Bool :=
  if cfeb < 5 then tmb.cfebInj.getLsbD cfeb
  else decide (cfeb < 7 ∧ tmb.hardwareVersion = 2) && tmb.extend.getLsbD (cfeb - 5)

structure Pulsed where
  chan : ChannelTable
  tmb : ClctInputs

def shiftedHalfstrips (type : CompileType) (hsNormal : Fin 6 → Int32) (layer : Fin 6) : Int32 :=
  if type.isMe11 then hsNormal layer
  else if (layer : Nat) % 2 = 1 then hsNormal layer + 1
  else hsNormal layer

def pulseLayer (undefinedShift : BitVec 32) (type : CompileType) (hs : Fin 6 → Int32)
    (pulse : BitVec 32 × ChannelTable) (layer : Fin 6) : BitVec 32 × ChannelTable :=
  let inputCfeb := getInputCFEBByHalfStrip type (hs layer).toInt
  let inputHs := getInputHalfStrip type (hs layer).toInt
  (pulse.1 ||| shiftOne undefinedShift inputCfeb,
    halfset type inputCfeb layer inputHs pulse.2)

def pulseHalfstrips (undefinedShift : BitVec 32) (type : CompileType) (tmb : ClctInputs)
    (hsNormal : Fin 6 → Int32) : Pulsed :=
  let tmb := disableCLCTInputs tmb
  let hs := shiftedHalfstrips type hsNormal
  let pulse := (List.finRange 6).foldl (pulseLayer undefinedShift type hs)
    (0, fun _ _ _ => .normRun)
  ⟨pulse.2, enableCLCTInputs tmb pulse.1⟩

section

def CompileType.boards : CompileType → Int
  | .a => 5
  | .b => 5
  | .c => 7
  | .d => 7

def chamberXStrip (xsPerCfeb : Int) (type : CompileType) (cfeb xstrip : Int) : Int :=
  match type with
  | .a => xsPerCfeb * cfeb + xstrip
  | .b => 5 * xsPerCfeb - 1 - (xsPerCfeb * cfeb + xstrip)
  | .c =>
    if cfeb < 4 then xsPerCfeb * cfeb + xstrip
    else 7 * xsPerCfeb - 1 - (xsPerCfeb * (cfeb - 4) + xstrip)
  | .d =>
    if cfeb < 4 then 4 * xsPerCfeb - 1 - (xsPerCfeb * cfeb + xstrip)
    else 4 * xsPerCfeb + (xsPerCfeb * (cfeb - 4) + xstrip)

lemma boards_le (type : CompileType) : type.boards ≤ 7 := by
  cases type <;> simp only [CompileType.boards] <;> omega

variable {type : CompileType} {width cfeb xstrip output : Int}

lemma toInt_toSize {value} (low : -2147483648 ≤ value) (high : value < 2147483648) :
    toInt (toSize value) = value := by
  rw [toInt, toSize]
  split <;> omega

lemma toSize_offset (first width cfeb xstrip) :
    toSize (first + toSize (width * toSize cfeb + toSize xstrip)) =
        toSize (first + (width * cfeb + xstrip)) ∧
      toSize (first - toSize (width * toSize cfeb + toSize xstrip)) =
        toSize (first - (width * cfeb + xstrip)) := by
  have inner : toSize (width * toSize cfeb + toSize xstrip) ≡ width * cfeb + xstrip
      [ZMOD 18446744073709551616] :=
    (Int.mod_modEq _ _).trans (((Int.mod_modEq cfeb _).mul_left width).add (Int.mod_modEq xstrip _))
  exact ⟨inner.add_left first, (Int.ModEq.refl first).sub inner⟩

lemma offset_eq {first} (width cfeb xstrip) (small : 0 ≤ first ∧ first ≤ 1000)
    (near : -1000 ≤ width * cfeb + xstrip ∧ width * cfeb + xstrip ≤ 1000) :
    toInt (toSize (first + toSize (width * toSize cfeb + toSize xstrip))) =
        first + (width * cfeb + xstrip) ∧
      toInt (toSize (first - toSize (width * toSize cfeb + toSize xstrip))) =
        first - (width * cfeb + xstrip) := by
  rw [(toSize_offset first width cfeb xstrip).1, (toSize_offset first width cfeb xstrip).2]
  exact ⟨toInt_toSize (by omega) (by omega), toInt_toSize (by omega) (by omega)⟩

lemma toInt_small {size} (low : -2147483648 ≤ size) (high : size < 2147483648) :
    toInt size = size := by
  rw [toInt]
  split <;> omega

lemma region_eq (known : width = 16 ∨ width = 32) (low : -2147483648 ≤ output)
    (high : output < 2147483648) :
    toInt (toSize output / width) = output / width ∧
      toInt (toSize output % width) = output % width := by
  have size : toSize output = output ∨ toSize output = output + 18446744073709551616 := by
    rw [toSize]
    omega
  rcases known with rfl | rfl
  · refine ⟨?_, ?_⟩
    · rw [toInt]
      rcases size with positive | negative
      · split <;> omega
      · split <;> omega
    · rw [toInt_small (by omega) (by omega)]
      omega
  · refine ⟨?_, ?_⟩
    · rw [toInt]
      rcases size with positive | negative
      · rw [positive]
        split <;> omega
      · split <;> omega
    · rw [toInt_small (by omega) (by omega)]
      omega

lemma checked_eq {found place top} (is : found = place) :
    (0 ≤ place ∧ place < top →
        (if ¬ (0 ≤ found ∧ found ≤ top - 1) then badHs else found) = place) ∧
      (¬ (0 ≤ place ∧ place < top) →
        (if ¬ (0 ≤ found ∧ found ≤ top - 1) then badHs else found) = -1) := by
  subst is
  rw [badHs]
  constructor
  · intro inside
    rw [if_neg (by omega)]
  · intro outside
    rw [if_pos (by omega)]

lemma getOutputXStrip_eq (known : width = 16 ∨ width = 32)
    (onBoard : 0 ≤ cfeb ∧ cfeb < type.boards) (near : -1 ≤ xstrip ∧ xstrip ≤ width) :
    (0 ≤ chamberXStrip width type cfeb xstrip ∧
        chamberXStrip width type cfeb xstrip < type.boards * width →
      getOutputXStrip width type cfeb xstrip = chamberXStrip width type cfeb xstrip) ∧
    (¬ (0 ≤ chamberXStrip width type cfeb xstrip ∧
        chamberXStrip width type cfeb xstrip < type.boards * width) →
      getOutputXStrip width type cfeb xstrip = -1) := by
  have few : 0 ≤ cfeb ∧ cfeb ≤ 6 := by
    cases type <;> simp only [CompileType.boards] at onBoard <;> omega
  have from0 (first : Int) (small : 0 ≤ first ∧ first ≤ 1000) :=
    @offset_eq first width (cfeb - 0) xstrip small (by rcases known with rfl | rfl <;> omega)
  have from4 (first : Int) (small : 0 ≤ first ∧ first ≤ 1000) :=
    @offset_eq first width (cfeb - 4) xstrip small (by rcases known with rfl | rfl <;> omega)
  rw [sub_zero] at from0
  cases type with
  | a =>
    simp only [CompileType.boards] at onBoard ⊢
    simp only [getOutputXStrip, chamberXStrip, sub_zero]
    rw [if_pos (show 0 ≤ cfeb ∧ cfeb ≤ 4 by omega)]
    exact checked_eq ((from0 0 (by omega)).1.trans (zero_add _))
  | b =>
    simp only [CompileType.boards] at onBoard ⊢
    simp only [getOutputXStrip, chamberXStrip, sub_zero]
    rw [if_pos (show 0 ≤ cfeb ∧ cfeb ≤ 4 by omega)]
    exact checked_eq (from0 _ (by omega)).2
  | c =>
    simp only [getOutputXStrip, chamberXStrip, sub_zero]
    by_cases first : cfeb < 4
    · rw [if_pos (show 0 ≤ cfeb ∧ cfeb ≤ 3 by omega), if_pos first]
      exact checked_eq ((from0 0 (by omega)).1.trans (zero_add _))
    · rw [if_neg (show ¬ (0 ≤ cfeb ∧ cfeb ≤ 3) by omega),
        if_pos (show 4 ≤ cfeb ∧ cfeb ≤ 6 by omega), if_neg first]
      exact checked_eq (from4 _ (by omega)).2
  | d =>
    simp only [getOutputXStrip, chamberXStrip, sub_zero]
    by_cases first : cfeb < 4
    · rw [if_pos (show 0 ≤ cfeb ∧ cfeb ≤ 3 by omega), if_pos first]
      exact checked_eq (from0 _ (by omega)).2
    · rw [if_neg (show ¬ (0 ≤ cfeb ∧ cfeb ≤ 3) by omega),
        if_pos (show 4 ≤ cfeb ∧ cfeb ≤ 6 by omega), if_neg first]
      exact checked_eq (from4 _ (by omega)).1

lemma chamberXStrip_inside (known : width = 16 ∨ width = 32)
    (onBoard : 0 ≤ cfeb ∧ cfeb < type.boards) (inside : 0 ≤ xstrip ∧ xstrip < width) :
    0 ≤ chamberXStrip width type cfeb xstrip ∧
      chamberXStrip width type cfeb xstrip < type.boards * width := by
  cases type with
  | a =>
    simp only [CompileType.boards, chamberXStrip] at onBoard ⊢
    rcases known with rfl | rfl <;> omega
  | b =>
    simp only [CompileType.boards, chamberXStrip] at onBoard ⊢
    rcases known with rfl | rfl <;> omega
  | c =>
    simp only [CompileType.boards, chamberXStrip] at onBoard ⊢
    rcases known with rfl | rfl <;> split <;> omega
  | d =>
    simp only [CompileType.boards, chamberXStrip] at onBoard ⊢
    rcases known with rfl | rfl <;> split <;> omega

lemma getInput_eq (known : width = 16 ∨ width = 32) (low : -2147483648 ≤ output)
    (high : output < 2147483648) :
    (0 ≤ output ∧ output < type.boards * width →
      (0 ≤ getInputCFEBByX width type output ∧ getInputCFEBByX width type output < type.boards) ∧
        (0 ≤ getInputXStrip width type output ∧ getInputXStrip width type output < width) ∧
        chamberXStrip width type (getInputCFEBByX width type output)
          (getInputXStrip width type output) = output) ∧
      (¬ (0 ≤ output ∧ output < type.boards * width) →
        getInputCFEBByX width type output = -1 ∧ getInputXStrip width type output = -1) := by
  obtain ⟨region, phase⟩ := region_eq known low high
  cases type with
  | a =>
    simp only [CompileType.boards, chamberXStrip, getInputCFEBByX, getInputXStrip, region, phase]
    rcases known with rfl | rfl <;> split <;> omega
  | b =>
    simp only [CompileType.boards, chamberXStrip, getInputCFEBByX, getInputXStrip, region, phase]
    rcases known with rfl | rfl <;> split <;> omega
  | c =>
    simp only [CompileType.boards, chamberXStrip, getInputCFEBByX, getInputXStrip, region, phase]
    rcases known with rfl | rfl <;> repeat' split <;> omega
  | d =>
    simp only [CompileType.boards, chamberXStrip, getInputCFEBByX, getInputXStrip, region, phase]
    rcases known with rfl | rfl <;> repeat' split <;> omega

lemma chamberXStrip_injective (known : width = 16 ∨ width = 32) {other otherStrip}
    (onBoard : 0 ≤ cfeb ∧ cfeb < type.boards) (inside : 0 ≤ xstrip ∧ xstrip < width)
    (onOther : 0 ≤ other ∧ other < type.boards) (insideOther : 0 ≤ otherStrip ∧ otherStrip < width)
    (same : chamberXStrip width type cfeb xstrip = chamberXStrip width type other otherStrip) :
    cfeb = other ∧ xstrip = otherStrip := by
  cases type with
  | a =>
    simp only [CompileType.boards, chamberXStrip] at onBoard onOther same
    rcases known with rfl | rfl <;> omega
  | b =>
    simp only [CompileType.boards, chamberXStrip] at onBoard onOther same
    rcases known with rfl | rfl <;> omega
  | c =>
    simp only [CompileType.boards, chamberXStrip] at onBoard onOther same
    rcases known with rfl | rfl <;> split at same <;> split at same <;> omega
  | d =>
    simp only [CompileType.boards, chamberXStrip] at onBoard onOther same
    rcases known with rfl | rfl <;> split at same <;> split at same <;> omega

lemma getInput_chamberXStrip (known : width = 16 ∨ width = 32)
    (onBoard : 0 ≤ cfeb ∧ cfeb < type.boards) (inside : 0 ≤ xstrip ∧ xstrip < width) :
    getInputCFEBByX width type (chamberXStrip width type cfeb xstrip) = cfeb ∧
      getInputXStrip width type (chamberXStrip width type cfeb xstrip) = xstrip := by
  have within := chamberXStrip_inside known onBoard inside
  have few : type.boards * width ≤ 224 := by
    cases type <;> simp only [CompileType.boards] <;> omega
  obtain ⟨onOther, insideOther, same⟩ :=
    (@getInput_eq type width (chamberXStrip width type cfeb xstrip) known (by omega) (by omega)).1
      within
  exact chamberXStrip_injective known onOther insideOther onBoard inside same

lemma board_order (type cfeb) :
    (∀ strip, chamberXStrip 16 type cfeb (strip + 1) = chamberXStrip 16 type cfeb strip + 1) ∧
        (∀ halfstrip,
          chamberXStrip 32 type cfeb halfstrip / 2 = chamberXStrip 16 type cfeb (halfstrip / 2) ∧
            chamberXStrip 32 type cfeb halfstrip % 2 = halfstrip % 2) ∨
      (∀ strip, chamberXStrip 16 type cfeb (strip + 1) = chamberXStrip 16 type cfeb strip - 1) ∧
        ∀ halfstrip,
          chamberXStrip 32 type cfeb halfstrip / 2 = chamberXStrip 16 type cfeb (halfstrip / 2) ∧
            chamberXStrip 32 type cfeb halfstrip % 2 = 1 - halfstrip % 2 := by
  cases type with
  | a =>
    simp only [chamberXStrip]
    exact .inl ⟨fun strip => by omega, fun halfstrip => by omega⟩
  | b =>
    simp only [chamberXStrip]
    exact .inr ⟨fun strip => by omega, fun halfstrip => by omega⟩
  | c =>
    simp only [chamberXStrip]
    by_cases first : cfeb < 4
    · simp only [first, if_true]
      exact .inl ⟨fun strip => by omega, fun halfstrip => by omega⟩
    · simp only [first, if_false]
      exact .inr ⟨fun strip => by omega, fun halfstrip => by omega⟩
  | d =>
    simp only [chamberXStrip]
    by_cases first : cfeb < 4
    · exact .inr ⟨fun strip => by omega, fun halfstrip => by omega⟩
    · exact .inl ⟨fun strip => by omega, fun halfstrip => by omega⟩

end

section

def OnBoard (type : CompileType) (cfeb strip : Int) : Prop :=
  (0 ≤ cfeb ∧ cfeb < type.boards) ∧ 0 ≤ strip ∧ strip < 16

instance (type : CompileType) (cfeb strip : Int) : Decidable (OnBoard type cfeb strip) :=
  inferInstanceAs (Decidable (_ ∧ _))

def InChamber (type : CompileType) (halfstrip : Int) : Prop :=
  0 ≤ halfstrip ∧ halfstrip < type.boards * 32

instance (type : CompileType) (halfstrip : Int) : Decidable (InChamber type halfstrip) :=
  inferInstanceAs (Decidable (_ ∧ _))

def nearby (halfstrip strip : Int) : Option ChannelMode :=
  if strip = halfstrip / 2 then some .largeCap
  else if strip = halfstrip / 2 - 1 then
    some (if halfstrip % 2 = 0 then .mediumCap else .smallCap)
  else if strip = halfstrip / 2 + 1 then
    some (if halfstrip % 2 = 0 then .smallCap else .mediumCap)
  else none

variable {type : CompileType} {cfeb strip halfstrip : Int}

lemma setStrip_at (onBoard : 0 ≤ cfeb ∧ cfeb < type.boards) (near : -1 ≤ strip ∧ strip ≤ 16)
    (layer chan mode otherCfeb otherLayer otherStrip) :
    setStrip type layer chan (getOutputStrip type cfeb strip, mode) otherCfeb otherLayer otherStrip =
      if otherLayer = layer ∧ OnBoard type otherCfeb otherStrip ∧
          chamberXStrip 16 type otherCfeb otherStrip = chamberXStrip 16 type cfeb strip
        then mode else chan otherCfeb otherLayer otherStrip := by
  obtain ⟨found, missing⟩ := @getOutputXStrip_eq type 16 cfeb strip (Or.inl rfl) onBoard near
  have few := boards_le type
  by_cases inside : 0 ≤ chamberXStrip 16 type cfeb strip ∧
      chamberXStrip 16 type cfeb strip < type.boards * 16
  · obtain ⟨onFound, insideFound, same⟩ := (@getInput_eq type 16 (chamberXStrip 16 type cfeb strip)
      (Or.inl rfl) (by omega) (by omega)).1 inside
    rw [getOutputStrip, found inside, setStrip]
    dsimp only
    rw [if_pos ⟨onFound.1, insideFound.1⟩]
    refine if_congr ⟨?_, ?_⟩ rfl rfl
    · rintro ⟨rfl, is, rfl⟩
      exact ⟨is, ⟨onFound, insideFound⟩, same⟩
    · rintro ⟨is, ⟨onOther, insideOther⟩, equal⟩
      obtain ⟨here, there⟩ := chamberXStrip_injective (Or.inl rfl) onOther insideOther onFound
        insideFound (equal.trans same.symm)
      exact ⟨here, is, there⟩
  · obtain ⟨none_, -⟩ := (@getInput_eq type 16 (-1) (Or.inl rfl) (by omega) (by omega)).2 (by omega)
    rw [getOutputStrip, missing inside, setStrip, getInputCFEBByStrip]
    dsimp only
    rw [if_neg (by omega), if_neg]
    rintro ⟨-, ⟨onOther, insideOther⟩, equal⟩
    exact inside (equal ▸ chamberXStrip_inside (Or.inl rfl) onOther insideOther)

lemma halfset_inChamber (inside : InChamber type halfstrip)
    (layer chan otherCfeb otherLayer otherStrip) :
    halfset type (getInputCFEBByHalfStrip type halfstrip) layer (getInputHalfStrip type halfstrip)
        chan otherCfeb otherLayer otherStrip =
      if otherLayer = layer ∧ OnBoard type otherCfeb otherStrip then
        (nearby halfstrip (chamberXStrip 16 type otherCfeb otherStrip)).getD
          (chan otherCfeb otherLayer otherStrip)
      else chan otherCfeb otherLayer otherStrip := by
  have few := boards_le type
  obtain ⟨onBoard, within, is⟩ := (@getInput_eq type 32 halfstrip (Or.inr rfl)
    (by have := inside.1; omega) (by have := inside.2; omega)).1 inside
  rw [getInputCFEBByHalfStrip, getInputHalfStrip]
  obtain ⟨cfeb, cfeb_eq⟩ : ∃ cfeb, cfeb = getInputCFEBByX 32 type halfstrip := ⟨_, rfl⟩
  obtain ⟨input, input_eq⟩ : ∃ input, input = getInputXStrip 32 type halfstrip := ⟨_, rfl⟩
  rw [← cfeb_eq] at onBoard is ⊢
  rw [← input_eq] at within is ⊢
  rw [halfset, if_neg (by omega)]
  by_cases here : otherLayer = layer ∧ OnBoard type otherCfeb otherStrip
  · have at_ (chan : ChannelTable) (strip : Int) (near : -1 ≤ strip ∧ strip ≤ 16)
        (mode : ChannelMode) : setStrip type layer chan (getOutputStrip type cfeb strip, mode)
          otherCfeb otherLayer otherStrip =
        if chamberXStrip 16 type otherCfeb otherStrip = chamberXStrip 16 type cfeb strip then mode
          else chan otherCfeb otherLayer otherStrip := by
      rw [setStrip_at onBoard near]
      exact if_congr (by simp only [here, true_and]) rfl rfl
    rw [if_pos here, nearby]
    generalize chamberXStrip 16 type otherCfeb otherStrip = other at at_ ⊢
    have order : (chamberXStrip 16 type cfeb (input / 2) = halfstrip / 2) ∧
        (chamberXStrip 16 type cfeb (input / 2 + 1) = halfstrip / 2 + 1 ∧
            chamberXStrip 16 type cfeb (input / 2 - 1) = halfstrip / 2 - 1 ∧
            halfstrip % 2 = input % 2 ∨
          chamberXStrip 16 type cfeb (input / 2 + 1) = halfstrip / 2 - 1 ∧
            chamberXStrip 16 type cfeb (input / 2 - 1) = halfstrip / 2 + 1 ∧
            halfstrip % 2 = 1 - input % 2) := by
      rcases board_order type cfeb with ⟨next, halves⟩ | ⟨next, halves⟩
      · obtain ⟨half, parity⟩ := halves input
        have below := next (input / 2 - 1)
        have above := next (input / 2)
        rw [is] at half parity
        rw [sub_add_cancel] at below
        omega
      · obtain ⟨half, parity⟩ := halves input
        have below := next (input / 2 - 1)
        have above := next (input / 2)
        rw [is] at half parity
        rw [sub_add_cancel] at below
        omega
    by_cases side : input % 2 ≠ 0
    · simp only [if_pos side, List.zip, List.zipWith, List.foldl]
      rw [at_ _ _ (by omega), at_ _ _ (by omega), at_ _ _ (by omega)]
      repeat' split
      all_goals first | rfl | omega
    · simp only [if_neg side, List.zip, List.zipWith, List.foldl]
      rw [at_ _ _ (by omega), at_ _ _ (by omega), at_ _ _ (by omega)]
      repeat' split
      all_goals first | rfl | omega
  · have kept (chan : ChannelTable) (strip : Int) (near : -1 ≤ strip ∧ strip ≤ 16)
        (mode : ChannelMode) : setStrip type layer chan (getOutputStrip type cfeb strip, mode)
          otherCfeb otherLayer otherStrip = chan otherCfeb otherLayer otherStrip := by
      rw [setStrip_at onBoard near, if_neg]
      exact fun there => here ⟨there.1, there.2.1⟩
    rw [if_neg here]
    by_cases side : input % 2 ≠ 0
    · simp only [if_pos side, List.zip, List.zipWith, List.foldl]
      rw [kept _ _ (by omega), kept _ _ (by omega), kept _ _ (by omega)]
    · simp only [if_neg side, List.zip, List.zipWith, List.foldl]
      rw [kept _ _ (by omega), kept _ _ (by omega), kept _ _ (by omega)]

lemma halfset_outside {halfstrip : Int32} (outside : ¬ InChamber type halfstrip.toInt)
    (layer chan) :
    halfset type (getInputCFEBByHalfStrip type halfstrip.toInt) layer
      (getInputHalfStrip type halfstrip.toInt) chan = chan := by
  have none_ := ((@getInput_eq type 32 halfstrip.toInt (Or.inr rfl) halfstrip.le_toInt
    halfstrip.toInt_lt).2 outside).2
  rw [getInputHalfStrip, halfset, if_pos (by omega)]

def layerMode (type : CompileType) (halfstrip cfeb strip : Int) (before : ChannelMode) :
    ChannelMode :=
  if InChamber type halfstrip ∧ OnBoard type cfeb strip then
    (nearby halfstrip (chamberXStrip 16 type cfeb strip)).getD before
  else before

end

section

variable {undefinedShift : BitVec 32} {type : CompileType} {hs : Fin 6 → Int32}

lemma pulseLayer_chan (pulse layer cfeb otherLayer strip) :
    (pulseLayer undefinedShift type hs pulse layer).2 cfeb otherLayer strip =
      if otherLayer = layer then
        layerMode type (hs layer).toInt cfeb strip (pulse.2 cfeb otherLayer strip)
      else pulse.2 cfeb otherLayer strip := by
  rw [pulseLayer]
  dsimp only
  by_cases inside : InChamber type (hs layer).toInt
  · rw [halfset_inChamber inside, layerMode, ite_and]
    simp only [inside, true_and]
  · rw [halfset_outside inside, layerMode]
    simp only [inside, false_and, if_false, ite_self]

lemma layerMode_again (halfstrip cfeb strip before) :
    layerMode type halfstrip cfeb strip (layerMode type halfstrip cfeb strip before) =
      layerMode type halfstrip cfeb strip before := by
  simp only [layerMode]
  split
  · cases nearby halfstrip (chamberXStrip 16 type cfeb strip) <;> rfl
  · rfl

lemma layers_chan (layers : List (Fin 6)) (pulse cfeb layer strip) :
    (layer ∈ layers → (layers.foldl (pulseLayer undefinedShift type hs) pulse).2 cfeb layer strip =
      layerMode type (hs layer).toInt cfeb strip (pulse.2 cfeb layer strip)) ∧
    (layer ∉ layers → (layers.foldl (pulseLayer undefinedShift type hs) pulse).2 cfeb layer strip =
      pulse.2 cfeb layer strip) := by
  induction layers generalizing pulse with
  | nil => exact ⟨fun member => absurd member List.not_mem_nil, fun _ => rfl⟩
  | cons first rest ih =>
    obtain ⟨inside, outside⟩ := ih (pulseLayer undefinedShift type hs pulse first)
    rw [pulseLayer_chan] at inside outside
    rw [List.foldl_cons, List.mem_cons]
    rcases Classical.em (layer = first) with same | other
    · rw [if_pos same] at inside outside
      rw [same] at inside outside ⊢
      refine ⟨fun _ => ?_, fun absent => absurd (Or.inl rfl) absent⟩
      rcases Classical.em (first ∈ rest) with again | once
      · rw [inside again, layerMode_again]
      · exact outside once
    · rw [if_neg other] at inside outside
      exact ⟨fun member => inside (member.resolve_left other),
        fun absent => outside fun later => absent (Or.inr later)⟩

lemma layers_inputs (layers : List (Fin 6)) (pulse bit) :
    (layers.foldl (pulseLayer undefinedShift type hs) pulse).1.getLsbD bit = true ↔
      pulse.1.getLsbD bit = true ∨ ∃ layer ∈ layers,
        (shiftOne undefinedShift (getInputCFEBByHalfStrip type (hs layer).toInt)).getLsbD bit =
          true := by
  induction layers generalizing pulse with
  | nil => simp
  | cons first rest ih =>
    rw [List.foldl_cons, ih, pulseLayer, BitVec.getLsbD_or, Bool.or_eq_true,
      List.exists_mem_cons_iff, or_assoc]

lemma enabled_iff (tmb inputs) {cfeb} (known : cfeb < 7) :
    (enableCLCTInputs tmb inputs).enabled cfeb = true ↔
      (cfeb < 5 ∨ tmb.hardwareVersion = 2) ∧ inputs.getLsbD cfeb = true := by
  rcases (by omega : cfeb = 0 ∨ cfeb = 1 ∨ cfeb = 2 ∨ cfeb = 3 ∨ cfeb = 4 ∨ cfeb = 5 ∨ cfeb = 6)
    with rfl | rfl | rfl | rfl | rfl | rfl | rfl
  all_goals
    by_cases new : tmb.hardwareVersion = 2
    · simp [enableCLCTInputs, ClctInputs.enabled, new, BitVec.getElem_sshiftRight]
    · simp [enableCLCTInputs, ClctInputs.enabled, new]

end

section

variable (undefinedShift : BitVec 32) (type : CompileType) (tmb : ClctInputs)
  (hsNormal : Fin 6 → Int32)

def SameGroup (strip other : Int) : Prop :=
  type.isMe11 = true → (strip < 64 ↔ other < 64)

instance (strip other : Int) : Decidable (SameGroup type strip other) :=
  inferInstanceAs (Decidable (_ → _))

def chosenMode (halfstrip cfeb strip : Int) : ChannelMode :=
  if InChamber type halfstrip ∧ OnBoard type cfeb strip ∧
      SameGroup type (halfstrip / 2) (chamberXStrip 16 type cfeb strip) then
    (nearby halfstrip (chamberXStrip 16 type cfeb strip)).getD .normRun
  else .normRun

def Chosen (cfeb : Nat) : Prop :=
  (cfeb : Int) < type.boards ∧ ∃ layer, ∃ halfstrip : Int, (0 ≤ halfstrip ∧ halfstrip < 32) ∧
    (shiftedHalfstrips type hsNormal layer).toInt = chamberXStrip 32 type cfeb halfstrip

/-- The maps of half-strips and of strips are inverted, each channel has the mode it is to have, and
the inputs enabled are those of the boards with a chosen half-strip. -/
structure PulsesChosen : Prop where
  halfstrips : ∀ cfeb halfstrip : Int, 0 ≤ cfeb ∧ cfeb < type.boards →
    0 ≤ halfstrip ∧ halfstrip < 32 →
    getInputCFEBByHalfStrip type (getOutputHalfStrip type cfeb halfstrip) = cfeb ∧
      getInputHalfStrip type (getOutputHalfStrip type cfeb halfstrip) = halfstrip
  strips : ∀ cfeb strip : Int, OnBoard type cfeb strip →
    getInputCFEBByStrip type (getOutputStrip type cfeb strip) = cfeb ∧
      getInputStrip type (getOutputStrip type cfeb strip) = strip
  channels : ∀ cfeb layer strip,
    (pulseHalfstrips undefinedShift type tmb hsNormal).chan cfeb layer strip =
      chosenMode type (shiftedHalfstrips type hsNormal layer).toInt cfeb strip
  inputs : ∀ cfeb < 7, (pulseHalfstrips undefinedShift type tmb hsNormal).tmb.enabled cfeb = true ↔
    Chosen type hsNormal cfeb

/-- No chosen half-strip lies in a strip at the border of the groups of ME1/1; a TMB whose hardware is
older has no chosen half-strip on the last two boards; and if one lies outside of the chamber, the
shift by a negative number sets no bit for a board without one. -/
def WellChosen : Prop :=
  (type.isMe11 = true → ∀ layer, (shiftedHalfstrips type hsNormal layer).toInt < 126 ∨
      129 < (shiftedHalfstrips type hsNormal layer).toInt) ∧
    (tmb.hardwareVersion ≠ 2 → ∀ cfeb < 7, 5 ≤ cfeb → ¬ Chosen type hsNormal cfeb) ∧
    ((∃ layer, ¬ InChamber type (shiftedHalfstrips type hsNormal layer).toInt) →
      ∀ cfeb < 7, cfeb < 5 ∨ tmb.hardwareVersion = 2 → undefinedShift.getLsbD cfeb = true →
        Chosen type hsNormal cfeb)

end

variable {undefinedShift : BitVec 32} {type : CompileType} {tmb : ClctInputs}
  {hsNormal : Fin 6 → Int32}

lemma chosen_iff (cfeb) :
    Chosen type hsNormal cfeb ↔ ∃ layer,
      InChamber type (shiftedHalfstrips type hsNormal layer).toInt ∧
        getInputCFEBByHalfStrip type (shiftedHalfstrips type hsNormal layer).toInt = cfeb := by
  constructor
  · rintro ⟨below, layer, halfstrip, inside, is⟩
    have onBoard : (0 : Int) ≤ cfeb ∧ (cfeb : Int) < type.boards := ⟨Int.natCast_nonneg cfeb, below⟩
    refine ⟨layer, ?_⟩
    rw [is]
    exact ⟨chamberXStrip_inside (Or.inr rfl) onBoard inside,
      (getInput_chamberXStrip (Or.inr rfl) onBoard inside).1⟩
  · rintro ⟨layer, inside, is⟩
    obtain ⟨onBoard, within, same⟩ :=
      (@getInput_eq type 32 (shiftedHalfstrips type hsNormal layer).toInt (Or.inr rfl)
        (Int32.le_toInt _) (Int32.toInt_lt _)).1 inside
    rw [getInputCFEBByHalfStrip] at is
    rw [is] at onBoard same
    exact ⟨onBoard.2, layer, _, within, same.symm⟩

lemma pulse_chan (cfeb layer strip) :
    (pulseHalfstrips undefinedShift type tmb hsNormal).chan cfeb layer strip =
      layerMode type (shiftedHalfstrips type hsNormal layer).toInt cfeb strip .normRun := by
  exact (layers_chan _ _ cfeb layer strip).1 (List.mem_finRange layer)

lemma border_neighbour (me11 : type.isMe11 = true) {halfstrip}
    (border : 126 ≤ halfstrip ∧ halfstrip ≤ 129) :
    ∃ cfeb strip : Int, layerMode type halfstrip cfeb strip .normRun ≠
      chosenMode type halfstrip cfeb strip := by
  have boards : type.boards = 7 := by cases type <;> first | rfl | exact absurd me11 (by decide)
  have inside : InChamber type halfstrip := by
    rw [InChamber]
    omega
  obtain ⟨other, other_eq⟩ : ∃ other : Int, other = 127 - halfstrip / 2 := ⟨_, rfl⟩
  obtain ⟨onBoard, within, same⟩ :=
    (@getInput_eq type 16 other (Or.inl rfl) (by omega) (by omega)).1 (by rw [boards]; omega)
  refine ⟨getInputCFEBByX 16 type other, getInputXStrip 16 type other, ?_⟩
  have apart : ¬ SameGroup type (halfstrip / 2) other := by
    intro group
    have := group me11
    omega
  rw [layerMode, if_pos ⟨inside, onBoard, within⟩, chosenMode, same,
    if_neg fun both => apart both.2.2, nearby, if_neg (by omega)]
  by_cases left : other = halfstrip / 2 - 1
  · rw [if_pos left]
    split <;> decide
  · rw [if_neg left, if_pos (by omega)]
    split <;> decide

lemma pulse_channels_iff :
    (∀ cfeb layer strip,
      (pulseHalfstrips undefinedShift type tmb hsNormal).chan cfeb layer strip =
        chosenMode type (shiftedHalfstrips type hsNormal layer).toInt cfeb strip) ↔
      (type.isMe11 = true → ∀ layer, (shiftedHalfstrips type hsNormal layer).toInt < 126 ∨
        129 < (shiftedHalfstrips type hsNormal layer).toInt) := by
  constructor
  · intro right me11 layer
    by_contra border
    obtain ⟨cfeb, strip, differ⟩ := @border_neighbour type me11
      (shiftedHalfstrips type hsNormal layer).toInt (by omega)
    exact differ ((pulse_chan cfeb layer strip).symm.trans (right cfeb layer strip))
  · intro apart cfeb layer strip
    rw [pulse_chan, layerMode, chosenMode]
    by_cases here : InChamber type (shiftedHalfstrips type hsNormal layer).toInt ∧
        OnBoard type cfeb strip
    · rw [if_pos here]
      by_cases group : SameGroup type ((shiftedHalfstrips type hsNormal layer).toInt / 2)
          (chamberXStrip 16 type cfeb strip)
      · rw [if_pos ⟨here.1, here.2, group⟩]
      · rw [if_neg fun both => group both.2.2]
        rw [SameGroup, Classical.not_imp] at group
        have far := apart group.1 layer
        rw [nearby, if_neg (by omega), if_neg (by omega), if_neg (by omega)]
        rfl
    · rw [if_neg here, if_neg fun both => here ⟨both.1, both.2.1⟩]

lemma pulse_bit_iff {cfeb} (known : cfeb < 7) :
    (∃ layer ∈ List.finRange 6, (shiftOne undefinedShift (getInputCFEBByHalfStrip type
        (shiftedHalfstrips type hsNormal layer).toInt)).getLsbD cfeb = true) ↔
      Chosen type hsNormal cfeb ∨
        (∃ layer, ¬ InChamber type (shiftedHalfstrips type hsNormal layer).toInt) ∧
          undefinedShift.getLsbD cfeb = true := by
  have bit (layer : Fin 6) : (shiftOne undefinedShift (getInputCFEBByHalfStrip type
        (shiftedHalfstrips type hsNormal layer).toInt)).getLsbD cfeb = true ↔
      InChamber type (shiftedHalfstrips type hsNormal layer).toInt ∧
          getInputCFEBByHalfStrip type (shiftedHalfstrips type hsNormal layer).toInt = cfeb ∨
        ¬ InChamber type (shiftedHalfstrips type hsNormal layer).toInt ∧
          undefinedShift.getLsbD cfeb = true := by
    have input := @getInput_eq type 32 (shiftedHalfstrips type hsNormal layer).toInt (Or.inr rfl)
        (Int32.le_toInt _) (Int32.toInt_lt _)
    rw [getInputCFEBByHalfStrip]
    by_cases inside : InChamber type (shiftedHalfstrips type hsNormal layer).toInt
    · have onBoard := (input.1 inside).1
      simp only [inside, true_and, not_true_eq_false, false_and, or_false]
      rw [shiftOne, if_neg (by omega)]
      change ((1#32) <<< (getInputCFEBByX 32 type _).toNat).getLsbD cfeb = true ↔ _
      rw [BitVec.getLsbD_shiftLeft, BitVec.getLsbD_one]
      simp only [Bool.and_eq_true, Bool.not_eq_true', decide_eq_true_eq, decide_eq_false_iff_not]
      omega
    · rw [(input.2 inside).1, shiftOne, if_pos (by omega)]
      simp only [inside, false_and, not_false_eq_true, true_and, false_or]
  simp only [bit, List.mem_finRange, true_and, chosen_iff, exists_or, exists_and_right]

lemma pulse_inputs_iff :
    (∀ cfeb < 7, (pulseHalfstrips undefinedShift type tmb hsNormal).tmb.enabled cfeb = true ↔
        Chosen type hsNormal cfeb) ↔
      (tmb.hardwareVersion ≠ 2 → ∀ cfeb < 7, 5 ≤ cfeb → ¬ Chosen type hsNormal cfeb) ∧
        ((∃ layer, ¬ InChamber type (shiftedHalfstrips type hsNormal layer).toInt) →
          ∀ cfeb < 7, cfeb < 5 ∨ tmb.hardwareVersion = 2 → undefinedShift.getLsbD cfeb = true →
            Chosen type hsNormal cfeb) := by
  have enabled (cfeb : Nat) (known : cfeb < 7) :
      (pulseHalfstrips undefinedShift type tmb hsNormal).tmb.enabled cfeb = true ↔
        (cfeb < 5 ∨ tmb.hardwareVersion = 2) ∧ (Chosen type hsNormal cfeb ∨
          (∃ layer, ¬ InChamber type (shiftedHalfstrips type hsNormal layer).toInt) ∧
            undefinedShift.getLsbD cfeb = true) := by
    rw [pulseHalfstrips]
    rw [enabled_iff _ _ known, layers_inputs, pulse_bit_iff known]
    simp [disableCLCTInputs]
  constructor
  · intro right
    refine ⟨fun old cfeb known last chosen => ?_, fun outside cfeb known reach bit => ?_⟩
    · rcases ((enabled cfeb known).1 ((right cfeb known).2 chosen)).1 with first | new
      · omega
      · exact old new
    · exact (right cfeb known).1 ((enabled cfeb known).2 ⟨reach, .inr ⟨outside, bit⟩⟩)
  · rintro ⟨old, outside⟩ cfeb known
    rw [enabled cfeb known]
    constructor
    · rintro ⟨reach, chosen | ⟨some_, bit⟩⟩
      · exact chosen
      · exact outside some_ cfeb known reach bit
    · intro chosen
      refine ⟨?_, .inl chosen⟩
      by_contra beyond
      rw [not_or] at beyond
      exact old beyond.2 cfeb known (by omega) chosen

theorem pulseHalfstrips_right_iff (undefinedShift : BitVec 32) (type : CompileType)
    (tmb : ClctInputs) (hsNormal : Fin 6 → Int32) :
    PulsesChosen undefinedShift type tmb hsNormal ↔
      WellChosen undefinedShift type tmb hsNormal := by
  constructor
  · intro right
    exact ⟨pulse_channels_iff.1 right.channels, pulse_inputs_iff.1 right.inputs⟩
  · rintro ⟨apart, reached⟩
    refine ⟨fun cfeb halfstrip onBoard inside => ?_, fun cfeb strip onBoard => ?_,
      pulse_channels_iff.2 apart, pulse_inputs_iff.2 reached⟩
    · rw [getOutputHalfStrip, (getOutputXStrip_eq (Or.inr rfl) onBoard (by omega)).1
        (chamberXStrip_inside (Or.inr rfl) onBoard inside)]
      exact getInput_chamberXStrip (Or.inr rfl) onBoard inside
    · rw [getOutputStrip, (getOutputXStrip_eq (Or.inl rfl) onBoard.1
        (by have := onBoard.2; omega)).1 (chamberXStrip_inside (Or.inl rfl) onBoard.1 onBoard.2)]
      exact getInput_chamberXStrip (Or.inl rfl) onBoard.1 onBoard.2

/-- On a chamber of type c the second neighbour of half-strip 126 lies on a board of the other group.
-/
theorem pulseHalfstrips_crosses : ¬ PulsesChosen 0x80000000 .c ⟨2, 0, 0⟩ fun _ => 126 :=
  fun right => absurd (right.channels 6 0 15) (by decide +kernel)

end EmuLib.ChamberUtilities
