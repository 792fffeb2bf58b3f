import EmuLib.AlctController.Transfers
import EmuLib.Lib.Assignments

/-!
The settings of an anode trigger board, from the setters through the board to the getters.
-/

namespace EmuLib.AlctController

open Assignments Controller

inductive Setting
  | asicDelay (afebChannel : Int)
  | asicPattern (layer channel : Int)
  | hotChannelMask (layer channel : Int)
  | collisionPatternMask (group bitInEnvelope : Int)
  | configField (field : ConfigField)
deriving DecidableEq

namespace Setting

variable (board : Board)

def set : Setting → Int → Controller → Controller
  | asicDelay afebChannel, delay => setAsicDelay board afebChannel delay
  | asicPattern layer channel, onOrOff => setAsicPattern board layer channel onOrOff
  | hotChannelMask layer channel, onOrOff => setHotChannelMask board layer channel onOrOff
  | collisionPatternMask group bitInEnvelope, onOrOff =>
    setCollisionPatternMask board group bitInEnvelope onOrOff
  | configField field, value => setConfigField field value

def get (controller : Controller) : Setting → Int
  | asicDelay afebChannel => controller.getAsicDelay board afebChannel
  | asicPattern layer channel => controller.getAsicPattern board layer channel
  | hotChannelMask layer channel => controller.getHotChannelMask board layer channel
  | collisionPatternMask group bitInEnvelope =>
    controller.getCollisionPatternMask board group bitInEnvelope
  | configField field => controller.getConfigField field

def Accepted : Setting → Prop
  | asicDelay afebChannel => ¬(afebChannel < 0 ∨ (board.maximumUserIndex : Int) < afebChannel)
  | asicPattern layer channel => ¬OutOfLayers board layer channel
  | hotChannelMask layer channel => ¬OutOfLayers board layer channel
  | collisionPatternMask group bitInEnvelope => ¬OutOfGroups board group bitInEnvelope
  | configField _ => True

def Valid : Setting → Int → Prop
  | asicDelay _, delay => 0 ≤ delay ∧ delay ≤ 15
  | configField field, value => 0 ≤ value ∧ value < 2 ^ field.width
  | _, onOrOff => onOrOff = off ∨ onOrOff = on

def stored (controller : Controller) : Setting → Int
  | asicDelay afebChannel =>
    controller.asics.writeDelay (board.userIndexToHardwareIndex afebChannel.toNat)
  | asicPattern layer channel => controller.asics.writePattern layer.toNat channel.toNat
  | hotChannelMask layer channel =>
    controller.hotChannelMask.write (hotChannelIndex board layer channel)
  | collisionPatternMask group bitInEnvelope =>
    controller.collisionPatternMask.write (collisionPatternIndex group bitInEnvelope)
  | configField field => controller.configuration.write field

def setAll (calls : List (Setting × Int)) (controller : Controller) : Controller :=
  calls.foldl (fun controller call => call.1.set board call.2 controller) controller

end Setting

structure Sound (controller : Controller) : Prop where
  delay : ∀ afeb < maxNumAfebs,
    0 ≤ controller.asics.writeDelay afeb ∧ controller.asics.writeDelay afeb ≤ 15
  pattern : ∀ layer < maxNumLayers, ∀ channel < maxNumWiresPerLayer,
    controller.asics.writePattern layer channel = 0 ∨
      controller.asics.writePattern layer channel = 1
  config : ∀ field, 0 ≤ controller.configuration.write field ∧
    controller.configuration.write field < 2 ^ field.width
  configReg : AreBits controller.configuration.writeConfigReg regSizeConfigReg
  hotChannels : AreBits controller.hotChannelMask.write 672
  collisions : AreBits controller.collisionPatternMask.write 392

variable {setting : Setting} {value : Int}

section

variable {board : Board} {controller : Controller}

lemma sound_powerUp (controller : Controller) : Sound controller.setPowerUp where
  delay afeb inside := by
    change 0 ≤ (if afeb < maxNumAfebs then (10 : Int) else _) ∧
      (if afeb < maxNumAfebs then (10 : Int) else _) ≤ 15
    rw [if_pos inside]
    decide
  pattern layer few channel short := Or.inl (if_pos ⟨few, short⟩)
  config field := by
    change 0 ≤ field.default ∧ field.default < _
    cases field <;> decide
  configReg bit inside := Or.inl (if_pos inside)
  hotChannels bit inside := Or.inr (if_pos inside)
  collisions bit inside := Or.inr (if_pos inside)

lemma mod_two_bit (value : Int) : value % 2 = 0 ∨ value % 2 = 1 := Int.emod_two_eq_zero_or_one _

lemma Sound.set (sound : Sound controller)
    (valid : setting.Valid value) : Sound (setting.set board value controller) := by
  cases setting with
  | asicDelay afebChannel =>
    change Sound (setAsicDelay board afebChannel value controller)
    rw [setAsicDelay]
    split_ifs
    · exact sound
    · exact sound
    · refine { sound with delay := fun afeb inside => ?_ }
      dsimp only
      by_cases same : afeb = board.userIndexToHardwareIndex afebChannel.toNat
      · rw [same, Function.update_self]
        omega
      · rw [Function.update_of_ne same]
        exact sound.delay afeb inside
  | asicPattern layer channel =>
    change Sound (setAsicPattern board layer channel value controller)
    rw [setAsicPattern]
    split_ifs
    · exact sound
    · refine { sound with pattern := fun one few other short => ?_ }
      dsimp only
      by_cases sameLayer : one = layer.toNat
      · rw [sameLayer, Function.update_self]
        by_cases same : other = channel.toNat
        · rw [same, Function.update_self]
          exact mod_two_bit value
        · rw [Function.update_of_ne same]
          exact sound.pattern _ (sameLayer ▸ few) other short
      · rw [Function.update_of_ne sameLayer]
        exact sound.pattern one few other short
  | hotChannelMask layer channel =>
    change Sound (setHotChannelMask board layer channel value controller)
    rw [setHotChannelMask]
    split_ifs
    · exact sound
    · refine { sound with hotChannels := fun index inside => ?_ }
      dsimp only
      by_cases same : index = hotChannelIndex board layer channel
      · rw [same, Function.update_self]
        exact valid
      · rw [Function.update_of_ne same]
        exact sound.hotChannels index inside
  | collisionPatternMask group bitInEnvelope =>
    change Sound (setCollisionPatternMask board group bitInEnvelope value controller)
    rw [setCollisionPatternMask]
    split_ifs
    · exact sound
    · refine { sound with collisions := fun index inside => ?_ }
      dsimp only
      by_cases same : index = collisionPatternIndex group bitInEnvelope
      · rw [same, Function.update_self]
        exact mod_two_bit value
      · rw [Function.update_of_ne same]
        exact sound.collisions index inside
  | configField field =>
    refine { sound with config := fun other => ?_ }
    change 0 ≤ Function.update controller.configuration.write field value other ∧
      Function.update controller.configuration.write field value other < _
    by_cases same : other = field
    · rw [same, Function.update_self]
      exact valid
    · rw [Function.update_of_ne same]
      exact sound.config other

end

variable {board : Board}

lemma layers_accepted {board layer channel} (accepted : ¬OutOfLayers board layer channel) :
    0 ≤ layer ∧ 0 ≤ channel ∧ layer.toNat < maxNumLayers ∧
      channel.toNat < board.characteristics.numberOfChannelsPerLayer := by
  rw [OutOfLayers] at accepted
  omega

lemma groups_accepted {board group bitInEnvelope}
    (accepted : ¬OutOfGroups board group bitInEnvelope) :
    0 ≤ group ∧ 0 ≤ bitInEnvelope ∧
      group.toNat < board.characteristics.numberOfCollisionPatternGroups ∧
      bitInEnvelope.toNat < numberOfBitsInCollisionMaskPerGroup := by
  rw [OutOfGroups] at accepted
  omega

lemma row_injective {width one other first second : Nat} (inside : first < width)
    (within : second < width) (same : one * width + first = other * width + second) :
    one = other ∧ first = second := by
  have positive : 0 < width := Nat.lt_of_le_of_lt (Nat.zero_le _) inside
  have rows := congrArg (· / width) same
  have columns := congrArg (· % width) same
  simp only [Nat.add_comm _ first, Nat.add_comm _ second, Nat.add_mul_div_right _ _ positive,
    Nat.add_mul_mod_self_right, Nat.div_eq_of_lt inside, Nat.div_eq_of_lt within,
    Nat.mod_eq_of_lt inside, Nat.mod_eq_of_lt within, Nat.zero_add] at rows columns
  exact ⟨rows, columns⟩

lemma stored_set {board} (accepted : setting.Accepted board) (valid : setting.Valid value)
    (controller) : setting.stored board (setting.set board value controller) = value := by
  have bit (two : value = off ∨ value = on) : value % 2 = value := by
    rcases two with rfl | rfl <;> rfl
  cases setting with
  | asicDelay afebChannel =>
    change (setAsicDelay board afebChannel value controller).asics.writeDelay _ = value
    have inside : ¬(value < 0 ∨ 15 < value) := by
      have bounds := valid
      rw [Setting.Valid] at bounds
      omega
    rw [setAsicDelay, if_neg inside, if_neg accepted]
    dsimp only
    rw [Function.update_self]
    omega
  | asicPattern layer channel =>
    change (setAsicPattern board layer channel value controller).asics.writePattern _ _ = value
    rw [setAsicPattern, if_neg accepted]
    dsimp only
    rw [Function.update_self, Function.update_self, bit valid]
  | hotChannelMask layer channel =>
    change (setHotChannelMask board layer channel value controller).hotChannelMask.write _ = value
    rw [setHotChannelMask, if_neg accepted]
    exact Function.update_self _ _ _
  | collisionPatternMask group bitInEnvelope =>
    change (setCollisionPatternMask board group bitInEnvelope value
      controller).collisionPatternMask.write _ = value
    rw [setCollisionPatternMask, if_neg accepted]
    dsimp only
    rw [Function.update_self, bit valid]
  | configField field => exact Function.update_self _ _ _

lemma setAsicDelay_stored {one other} (value controller)
    (accepted : (Setting.asicDelay other).Accepted
      board) (different : other ≠ one) :
    (setAsicDelay board one value
        controller).asics.writeDelay
      (board.userIndexToHardwareIndex
        other.toNat) =
    controller.asics.writeDelay
      (board.userIndexToHardwareIndex
        other.toNat) := by
  rw [Setting.Accepted] at accepted
  rw [setAsicDelay]
  split_ifs with bad turnedDown
  · rfl
  · rfl
  · refine Function.update_of_ne (fun same => different ?_) _ _
    have equal := userIndexToHardwareIndex_injective (by omega) (by omega) same
    omega

lemma stored_other {other} (accepted : other.Accepted board) (different : other ≠ setting)
    (value controller) :
    other.stored board
        (setting.set board value controller) =
      other.stored board controller := by
  generalize sameBoard : board = board at accepted ⊢
  cases setting with
  | asicDelay one =>
    cases other with
    | asicDelay channel =>
      refine setAsicDelay_stored value controller accepted ?_
      exact fun same => different (congrArg _ same)
    | asicPattern _ _ | hotChannelMask _ _ | collisionPatternMask _ _ | configField _ =>
      simp only [Setting.set, Setting.stored, setAsicDelay]
      split_ifs <;> rfl
  | asicPattern layer channel =>
    cases other with
    | asicPattern row column =>
      change (setAsicPattern board layer channel value controller).asics.writePattern _ _ = _
      rw [setAsicPattern]
      split_ifs with turnedDown
      · rfl
      · dsimp only [Setting.stored]
        by_cases sameLayer : row.toNat = layer.toNat
        · rw [sameLayer, Function.update_self]
          refine Function.update_of_ne (fun same => different ?_) _ _
          have here := layers_accepted turnedDown
          have there := layers_accepted accepted
          obtain rfl : row = layer := by omega
          obtain rfl : column = channel := by omega
          rfl
        · rw [Function.update_of_ne sameLayer]
    | asicDelay _ | hotChannelMask _ _ | collisionPatternMask _ _ | configField _ =>
      simp only [Setting.set, Setting.stored, setAsicPattern]
      split_ifs <;> rfl
  | hotChannelMask layer channel =>
    cases other with
    | hotChannelMask row column =>
      change (setHotChannelMask board layer channel value controller).hotChannelMask.write _ = _
      rw [setHotChannelMask]
      split_ifs with turnedDown
      · rfl
      · refine Function.update_of_ne (fun same => different ?_) _ _
        obtain ⟨low, left, -, short⟩ := layers_accepted turnedDown
        obtain ⟨below, beside, -, within⟩ := layers_accepted accepted
        obtain ⟨rows, columns⟩ := row_injective within short same
        obtain rfl : row = layer := by omega
        obtain rfl : column = channel := by omega
        rfl
    | asicDelay _ | asicPattern _ _ | collisionPatternMask _ _ | configField _ =>
      simp only [Setting.set, Setting.stored, setHotChannelMask]
      split_ifs <;> rfl
  | collisionPatternMask group bitInEnvelope =>
    cases other with
    | collisionPatternMask row column =>
      change (setCollisionPatternMask board group bitInEnvelope value
        controller).collisionPatternMask.write _ = _
      rw [setCollisionPatternMask]
      split_ifs with turnedDown
      · rfl
      · refine Function.update_of_ne (fun same => different ?_) _ _
        obtain ⟨low, left, -, short⟩ := groups_accepted turnedDown
        obtain ⟨below, beside, -, within⟩ := groups_accepted accepted
        obtain ⟨rows, columns⟩ := row_injective within short same
        obtain rfl : row = group := by omega
        obtain rfl : column = bitInEnvelope := by omega
        rfl
    | asicDelay _ | asicPattern _ _ | hotChannelMask _ _ | configField _ =>
      simp only [Setting.set, Setting.stored, setCollisionPatternMask]
      split_ifs <;> rfl
  | configField field =>
    cases other with
    | configField another =>
      exact Function.update_of_ne (fun same => different (congrArg _ same)) _ _
    | asicDelay _ | asicPattern _ _ | hotChannelMask _ _ | collisionPatternMask _ _ => rfl

end EmuLib.AlctController
