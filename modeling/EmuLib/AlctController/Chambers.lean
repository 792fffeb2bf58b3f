import Mathlib.Data.Int.Basic

/-!
What an anode trigger board is told about the chamber that it serves.
-/

namespace EmuLib.AlctController

def maxNumLayers : Nat := 6
def maxNumAfebs : Nat := 42
def maxNumWiresPerLayer : Nat := 112
def numberOfChipsPerGroup : Nat := 6
def numberOfLinesPerChip : Nat := 16
def numberOfBitsInCollisionMaskPerGroup : Nat := 28

inductive ChamberType
  | me11
  | me12
  | me13
  | me21
  | me22
  | me31
  | me32
  | me41
  | me42
deriving DecidableEq, Repr

namespace ChamberType

def numberOfWireGroups : ChamberType → Nat
  | me11 => 288
  | me12 => 384
  | me13 => 192
  | me21 => 672
  | me22 => 384
  | me31 => 576
  | me32 => 384
  | me41 => 576
  | me42 => 384

def fastControlAlctType : ChamberType → Nat
  | me11 => 288
  | me12 => 384
  | me13 => 192
  | me21 => 672
  | me22 => 384
  | me31 => 576
  | me32 => 384
  | me41 => 576
  | me42 => 384

def slowControlAlctType : ChamberType → Nat
  | me11 => 288
  | me12 => 384
  | me13 => 288
  | me21 => 672
  | me22 => 384
  | me31 => 672
  | me32 => 384
  | me41 => 672
  | me42 => 384

end ChamberType

structure RegSizes where
  rdHotchanMask : Nat
  wrtHotchanMask : Nat
  rdCollisionMaskReg : Nat
  wrtCollisionMaskReg : Nat
  rdDelaylineCtrlReg : Nat
  wrtDelaylineCtrlReg : Nat

def regSizes (channelsInAlct : Nat) : RegSizes :=
  if channelsInAlct = 192 then ⟨192, 192, 112, 112, 5, 5⟩
  else if channelsInAlct = 288 then ⟨288, 288, 168, 168, 5, 5⟩
  else if channelsInAlct = 384 then ⟨384, 384, 224, 224, 6, 6⟩
  else if channelsInAlct = 576 then ⟨576, 576, 336, 336, 9, 9⟩
  else if channelsInAlct = 672 then ⟨672, 672, 392, 392, 9, 9⟩
  else ⟨0, 0, 0, 0, 0, 0⟩

structure Characteristics where
  chamberType : ChamberType
  numberOfWireGroupsInChamber : Nat
  numberOfChannelsInAlct : Nat
  numberOfGroupsOfDelayChips : Nat
  numberOfCollisionPatternGroups : Nat
  numberOfChannelsPerLayer : Nat
  numberOfAfebs : Nat
  lowestAfebIndex : Nat
  highestAfebIndex : Nat
  sizes : RegSizes

def setChamberCharacteristics (chamberType : ChamberType) : Characteristics :=
  let fast := chamberType.fastControlAlctType
  let afebs := chamberType.slowControlAlctType / numberOfLinesPerChip
  { chamberType
    numberOfWireGroupsInChamber := chamberType.numberOfWireGroups
    numberOfChannelsInAlct := fast
    numberOfGroupsOfDelayChips := (regSizes fast).wrtDelaylineCtrlReg - 2
    numberOfCollisionPatternGroups := fast / maxNumLayers / 8
    numberOfChannelsPerLayer := fast / maxNumLayers
    numberOfAfebs := afebs
    lowestAfebIndex := afebs - chamberType.numberOfWireGroups / numberOfLinesPerChip
    highestAfebIndex := afebs - 1
    sizes := regSizes fast }

inductive BackwardForward
  | backward
  | forward
  | doNotCare
deriving DecidableEq, Repr

inductive NegativePositive
  | negative
  | positive
  | doNotCare
deriving DecidableEq, Repr

structure Board where
  chamberType : ChamberType
  backwardForward : BackwardForward
  negativePositive : NegativePositive

namespace Board

variable (board : Board)

def characteristics : Characteristics := setChamberCharacteristics board.chamberType

def maximumUserIndex : Nat :=
  board.characteristics.highestAfebIndex - board.characteristics.lowestAfebIndex

def inverted : Bool :=
  board.chamberType = .me11 &&
    (board.negativePositive = .positive && board.backwardForward = .forward ||
      board.negativePositive = .negative && board.backwardForward = .backward)

def userIndexToHardwareIndex (index : Nat) : Nat :=
  if board.inverted then ((index : Int) - 17).natAbs
  else index + board.characteristics.lowestAfebIndex

end Board

structure Characteristics.Fits (characteristics : Characteristics) : Prop where
  hotchanMask : characteristics.sizes.rdHotchanMask = characteristics.sizes.wrtHotchanMask
  collisionMaskReg :
    characteristics.sizes.rdCollisionMaskReg = characteristics.sizes.wrtCollisionMaskReg
  delaylineCtrlReg :
    characteristics.sizes.rdDelaylineCtrlReg = characteristics.sizes.wrtDelaylineCtrlReg
  channels : characteristics.sizes.wrtHotchanMask =
    maxNumLayers * characteristics.numberOfChannelsPerLayer
  hotChannels : characteristics.sizes.wrtHotchanMask ≤ 672
  patternBits : characteristics.sizes.wrtCollisionMaskReg =
    characteristics.numberOfCollisionPatternGroups * numberOfBitsInCollisionMaskPerGroup
  collisionBits : characteristics.sizes.wrtCollisionMaskReg ≤ 392
  groups : characteristics.sizes.wrtDelaylineCtrlReg =
    characteristics.numberOfGroupsOfDelayChips + 2
  lines : characteristics.numberOfChannelsPerLayer ≤
    characteristics.numberOfGroupsOfDelayChips * numberOfLinesPerChip
  chips : characteristics.highestAfebIndex <
    characteristics.numberOfGroupsOfDelayChips * numberOfChipsPerGroup
  few : characteristics.numberOfGroupsOfDelayChips ≤ 7
  ordered : characteristics.lowestAfebIndex ≤ characteristics.highestAfebIndex

lemma setChamberCharacteristics_fits (chamberType) :
    (setChamberCharacteristics chamberType).Fits := by
  cases chamberType <;> constructor <;> decide

variable {board : Board}

lemma Board.fits (board : Board) : board.characteristics.Fits :=
  setChamberCharacteristics_fits board.chamberType

lemma inverted_highest (inverted : board.inverted = true) :
    board.characteristics.highestAfebIndex = 17 := by
  rw [Board.inverted, Bool.and_eq_true] at inverted
  rw [Board.characteristics, of_decide_eq_true inverted.1]
  decide

lemma userIndexToHardwareIndex_bound {index} (accepted : index ≤ board.maximumUserIndex) :
    board.userIndexToHardwareIndex index ≤ board.characteristics.highestAfebIndex := by
  have ordered := board.fits.ordered
  rw [Board.maximumUserIndex] at accepted
  rw [Board.userIndexToHardwareIndex]
  split
  · rename_i inverted
    rw [inverted_highest inverted] at accepted ⊢
    omega
  · omega

lemma userIndexToHardwareIndex_injective {one other} (first : one ≤ board.maximumUserIndex)
    (second : other ≤ board.maximumUserIndex)
    (same : board.userIndexToHardwareIndex one = board.userIndexToHardwareIndex other) :
    one = other := by
  rw [Board.maximumUserIndex] at first second
  rw [Board.userIndexToHardwareIndex, Board.userIndexToHardwareIndex] at same
  by_cases inverted : board.inverted = true
  · rw [if_pos inverted, if_pos inverted] at same
    rw [inverted_highest inverted] at first second
    omega
  · rw [if_neg inverted, if_neg inverted] at same
    exact Nat.add_right_cancel same

end EmuLib.AlctController
