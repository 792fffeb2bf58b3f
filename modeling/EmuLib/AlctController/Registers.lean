import EmuLib.AlctController.Chambers
import EmuLib.AlctController.FastFpga
import Mathlib.Algebra.Ring.Int.Defs
import Mathlib.Algebra.BigOperators.Group.List.Basic

/-!
The values that are written to the registers of an anode trigger board and read from them.
-/

namespace EmuLib.AlctController

def off : Int := 0
def on : Int := 1

inductive BitOrder
  | lsbFirst
  | msbFirst
deriving DecidableEq

def BitOrder.place (order : BitOrder) (length ibit : Nat) : Nat :=
  match order with
  | .lsbFirst => ibit
  | .msbFirst => length - ibit - 1

def bitOf (value : Int) (ibit : Nat) : Int := value / 2 ^ ibit % 2

def intToBits (order : BitOrder) (value : Int) (length start : Nat) (bits : Nat → Int) :
    Nat → Int :=
  fun bit =>
    if start ≤ bit ∧ bit < start + length then bitOf value (order.place length (bit - start))
    else bits bit

def bitsToInt (order : BitOrder) (bits : Nat → Int) (start length : Nat) : Int :=
  ((List.range length).map fun ibit =>
    bits (start + order.place length ibit) % 2 * 2 ^ ibit).sum

def copied (size : Nat) (read old : Nat → Int) : Nat → Int := fun bit =>
  if bit < size then read bit else old bit

def inverse (mask : Int) : Int := (-mask - 1) % 2

inductive ConfigField
  | triggerMode
  | extTrigEnable
  | sendEmpty
  | inject
  | bxcOffset
  | nphThresh
  | nphPattern
  | driftDelay
  | fifoTbins
  | fifoPretrig
  | fifoMode
  | acceleratorPretrigThresh
  | l1aDelay
  | l1aWindow
  | l1aOffset
  | l1aInternal
  | boardId
  | acceleratorPatternThresh
  | ccbEnable
  | configInReadout
  | alctAmode
  | alctZeroSuppress
  | triggerInfoEn
  | snSelect
deriving DecidableEq, Repr

namespace ConfigField

def bitlo : ConfigField → Nat
  | triggerMode => 0
  | extTrigEnable => 2
  | sendEmpty => 3
  | inject => 4
  | bxcOffset => 5
  | nphThresh => 13
  | nphPattern => 16
  | driftDelay => 19
  | fifoTbins => 21
  | fifoPretrig => 26
  | fifoMode => 31
  | acceleratorPretrigThresh => 33
  | l1aDelay => 36
  | l1aWindow => 44
  | l1aOffset => 48
  | l1aInternal => 52
  | boardId => 53
  | acceleratorPatternThresh => 56
  | ccbEnable => 60
  | configInReadout => 64
  | alctAmode => 65
  | alctZeroSuppress => 66
  | triggerInfoEn => 67
  | snSelect => 68

def bithi : ConfigField → Nat
  | triggerMode => 1
  | extTrigEnable => 2
  | sendEmpty => 3
  | inject => 4
  | bxcOffset => 12
  | nphThresh => 15
  | nphPattern => 18
  | driftDelay => 20
  | fifoTbins => 25
  | fifoPretrig => 30
  | fifoMode => 32
  | acceleratorPretrigThresh => 35
  | l1aDelay => 43
  | l1aWindow => 47
  | l1aOffset => 51
  | l1aInternal => 52
  | boardId => 55
  | acceleratorPatternThresh => 58
  | ccbEnable => 60
  | configInReadout => 64
  | alctAmode => 65
  | alctZeroSuppress => 66
  | triggerInfoEn => 67
  | snSelect => 68

def default : ConfigField → Int
  | triggerMode => 0
  | extTrigEnable => off
  | sendEmpty => off
  | inject => 0
  | bxcOffset => 1
  | nphThresh => 2
  | nphPattern => 4
  | driftDelay => 3
  | fifoTbins => 7
  | fifoPretrig => 1
  | fifoMode => 1
  | acceleratorPretrigThresh => 0
  | l1aDelay => 0x78
  | l1aWindow => 3
  | l1aOffset => 1
  | l1aInternal => off
  | boardId => 5
  | acceleratorPatternThresh => 0
  | ccbEnable => 0
  | configInReadout => off
  | alctAmode => 0
  | alctZeroSuppress => 0
  | triggerInfoEn => on
  | snSelect => 0

def width (field : ConfigField) : Nat := field.bithi - field.bitlo + 1

def all : List ConfigField :=
  [triggerMode, extTrigEnable, sendEmpty, inject, bxcOffset, nphThresh, nphPattern, driftDelay,
    fifoTbins, fifoPretrig, fifoMode, acceleratorPretrigThresh, l1aDelay, l1aWindow, l1aOffset,
    l1aInternal, boardId, acceleratorPatternThresh, ccbEnable, configInReadout, alctAmode,
    alctZeroSuppress, triggerInfoEn, snSelect]

end ConfigField

def regSizeConfigReg : Nat := 69

def numberOfAsicBits : Nat := 20
def asicDelayBits : Nat := 4
def asicPatternBitlo : Nat := 4

def asicLayerMap (asicIndex : Nat) : Nat :=
  [1, 0, 3, 2, 5, 4, 1, 0, 3, 2, 5, 4].getD (asicIndex / 8) 0

def asicWiregroupMap (asicIndex : Nat) : Nat :=
  [7, 6, 5, 4, 3, 2, 1, 0,
   0, 1, 2, 3, 4, 5, 6, 7,
   7, 6, 5, 4, 3, 2, 1, 0,
   0, 1, 2, 3, 4, 5, 6, 7,
   7, 6, 5, 4, 3, 2, 1, 0,
   0, 1, 2, 3, 4, 5, 6, 7,
   15, 14, 13, 12, 11, 10, 9, 8,
   8, 9, 10, 11, 12, 13, 14, 15,
   15, 14, 13, 12, 11, 10, 9, 8,
   8, 9, 10, 11, 12, 13, 14, 15,
   15, 14, 13, 12, 11, 10, 9, 8,
   8, 9, 10, 11, 12, 13, 14, 15].getD asicIndex 0

def getChannelFromAsicMap (group asicIndex : Nat) : Nat :=
  asicWiregroupMap asicIndex + group * numberOfLinesPerChip

structure DelayLine where
  writeReset : Int
  writeSettst : Int
  writeGroupSelect : Nat → Int
  writeControlReg : Nat → Int
  readReset : Int
  readSettst : Int
  readGroupSelect : Nat → Int
  readControlReg : Nat → Int

structure Asics where
  writeDelay : Nat → Int
  writePattern : Nat → Nat → Int
  writeDelaysAndPatterns : Nat → Int
  readDelay : Nat → Int
  readPattern : Nat → Nat → Int
  readDelaysAndPatterns : Nat → Int

structure Configuration where
  write : ConfigField → Int
  writeConfigReg : Nat → Int
  read : ConfigField → Int
  readConfigReg : Nat → Int

structure Mask where
  write : Nat → Int
  read : Nat → Int

structure Controller where
  delayLine : DelayLine
  asics : Asics
  configuration : Configuration
  hotChannelMask : Mask
  collisionPatternMask : Mask
  alct : Alct

namespace DelayLine

def fillControlReg (groups : Nat) (delayLine : DelayLine) : DelayLine :=
  { delayLine with
    writeControlReg := (List.range groups).foldl
      (fun reg index => Function.update reg (index + 2) (delayLine.writeGroupSelect index))
      (intToBits .lsbFirst delayLine.writeSettst 1 1
        (intToBits .lsbFirst delayLine.writeReset 1 0 delayLine.writeControlReg)) }

def decodeControlReg (groups : Nat) (delayLine : DelayLine) : DelayLine :=
  { delayLine with
    readReset := bitsToInt .lsbFirst delayLine.readControlReg 0 1
    readSettst := bitsToInt .lsbFirst delayLine.readControlReg 1 1
    readGroupSelect := (List.range groups).foldl
      (fun select index => Function.update select index (delayLine.readControlReg (index + 2)))
      delayLine.readGroupSelect }

def setGroupSelect (groups group : Nat) (mask : Int) (delayLine : DelayLine) : DelayLine :=
  if groups ≤ group then delayLine
  else
    { delayLine with
      writeGroupSelect := Function.update delayLine.writeGroupSelect group (inverse mask) }

def setPowerUp (delayLine : DelayLine) : DelayLine :=
  { delayLine with
    writeReset := inverse off
    writeSettst := inverse on
    writeGroupSelect := fun group =>
      if group < 7 then inverse off else delayLine.writeGroupSelect group }

end DelayLine

namespace Asics

/-- The delay and the pattern of one chip. The second component counts the lines of the group. -/
def fillChip (asics : Asics) (group : Nat) (filled : (Nat → Int) × Nat) (afebCounter : Nat) :
    (Nat → Int) × Nat :=
  (List.range' (afebCounter * numberOfAsicBits + asicPatternBitlo) numberOfLinesPerChip).foldl
    (fun filled bit =>
      (Function.update filled.1 bit
        (asics.writePattern (asicLayerMap filled.2) (getChannelFromAsicMap group filled.2)),
        filled.2 + 1))
    (intToBits .msbFirst (asics.writeDelay (group * numberOfChipsPerGroup + afebCounter))
      asicDelayBits (afebCounter * numberOfAsicBits) filled.1, filled.2)

def fillDelaysAndPatterns (asics : Asics) (group : Nat) : Asics :=
  { asics with
    writeDelaysAndPatterns :=
      ((List.range numberOfChipsPerGroup).foldl (asics.fillChip group)
        (asics.writeDelaysAndPatterns, 0)).1 }

def decodeChip (group : Nat) (decoded : Asics × Nat) (afebCounter : Nat) : Asics × Nat :=
  (List.range' (afebCounter * numberOfAsicBits + asicPatternBitlo) numberOfLinesPerChip).foldl
    (fun decoded bit =>
      ({ decoded.1 with
          readPattern := Function.update decoded.1.readPattern (asicLayerMap decoded.2)
            (Function.update (decoded.1.readPattern (asicLayerMap decoded.2))
              (getChannelFromAsicMap group decoded.2) (decoded.1.readDelaysAndPatterns bit)) },
        decoded.2 + 1))
    ({ decoded.1 with
        readDelay := Function.update decoded.1.readDelay
          (group * numberOfChipsPerGroup + afebCounter)
          (bitsToInt .msbFirst decoded.1.readDelaysAndPatterns (afebCounter * numberOfAsicBits)
            asicDelayBits) }, decoded.2)

def decodeDelaysAndPatterns (asics : Asics) (group : Nat) : Asics :=
  ((List.range numberOfChipsPerGroup).foldl (decodeChip group) (asics, 0)).1

def setPowerUpDelays (asics : Asics) : Asics :=
  { asics with writeDelay := fun afeb => if afeb < maxNumAfebs then 10 else asics.writeDelay afeb }

def setPowerUpPatterns (asics : Asics) : Asics :=
  { asics with writePattern := fun layer channel =>
      if layer < maxNumLayers ∧ channel < maxNumWiresPerLayer then off
      else asics.writePattern layer channel }

end Asics

namespace Configuration

def fillConfigurationReg (configuration : Configuration) : Configuration :=
  { configuration with
    writeConfigReg := ConfigField.all.foldl
      (fun reg field => intToBits .lsbFirst (configuration.write field) field.width field.bitlo reg)
      configuration.writeConfigReg }

def decodeConfigurationReg (configuration : Configuration) : Configuration :=
  { configuration with
    read := fun field => bitsToInt .lsbFirst configuration.readConfigReg field.bitlo field.width }

def setPowerUp (configuration : Configuration) : Configuration :=
  { configuration with
    writeConfigReg := fun bit =>
      if bit < regSizeConfigReg then 0 else configuration.writeConfigReg bit
    write := ConfigField.default }

end Configuration

def Mask.setPowerUp (mask : Mask) (longest : Nat) : Mask :=
  { mask with write := fun index => if index < longest then on else mask.write index }

namespace Controller

variable (board : Board) (unknown : Unknown) (check : Bool)

def groups : Nat := board.characteristics.numberOfGroupsOfDelayChips

def readDelayLineControlReg (controller : Controller) : Option Controller :=
  (controller.alct.shfIRShfDR unknown .rd .delaylineCtrlReg
      board.characteristics.sizes.rdDelaylineCtrlReg fun _ => 0).map fun scanned =>
    { controller with
      delayLine := DelayLine.decodeControlReg (groups board)
        { controller.delayLine with
          readControlReg := copied board.characteristics.sizes.rdDelaylineCtrlReg scanned.2
            controller.delayLine.readControlReg }
      alct := scanned.1 }

/-- With `check` what has been written is read again; the comparison only reports. -/
def writeDelayLineControlReg (controller : Controller) : Option Controller :=
  let delayLine := controller.delayLine.fillControlReg (groups board)
  (controller.alct.shfIRShfDR unknown .wrt .delaylineCtrlReg
      board.characteristics.sizes.wrtDelaylineCtrlReg delayLine.writeControlReg).bind fun scanned =>
    if check then
      readDelayLineControlReg board unknown { controller with delayLine, alct := scanned.1 }
    else some { controller with delayLine, alct := scanned.1 }

def setDelayLineGroupSelect (group : Nat) (mask : Int) (controller : Controller) : Controller :=
  { controller with delayLine := controller.delayLine.setGroupSelect (groups board) group mask }

def readAsicGroup (group : Nat) (controller : Controller) : Option Controller :=
  (controller.alct.shfIRShfDR unknown .rd .asicDelayLines regSizeRdAsicDelayLines
      fun _ => 0).bind fun scanned =>
    let asics := { controller.asics with
      readDelaysAndPatterns := copied regSizeWrtAsicDelayLines (fun bit => scanned.2 (bit + 1))
        controller.asics.readDelaysAndPatterns }
    (scanned.1.shfIRShfDR unknown .wrt .asicDelayLines regSizeWrtAsicDelayLines
        asics.readDelaysAndPatterns).map fun reloaded =>
      { controller with asics := asics.decodeDelaysAndPatterns group, alct := reloaded.1 }

def writeAsicGroup (group : Nat) (controller : Controller) : Option Controller :=
  (writeDelayLineControlReg board unknown check
      (controller.setDelayLineGroupSelect board group on)).bind fun selected =>
    let asics := selected.asics.fillDelaysAndPatterns group
    (selected.alct.shfIRShfDR unknown .wrt .asicDelayLines regSizeWrtAsicDelayLines
        asics.writeDelaysAndPatterns).bind fun scanned =>
      let written := { selected with asics, alct := scanned.1 }
      (if check then readAsicGroup unknown group written else some written).bind fun checked =>
        writeDelayLineControlReg board unknown check
          (checked.setDelayLineGroupSelect board group off)

def writeAsicDelaysAndPatterns (controller : Controller) : Option Controller :=
  (List.range (groups board)).foldlM (fun controller group =>
      writeAsicGroup board unknown check group controller)
    { controller with delayLine := controller.delayLine.setPowerUp }

def readSelectedGroup (group : Nat) (controller : Controller) : Option Controller :=
  (writeDelayLineControlReg board unknown check
      (controller.setDelayLineGroupSelect board group on)).bind fun selected =>
    (readAsicGroup unknown group selected).bind fun read =>
      writeDelayLineControlReg board unknown check (read.setDelayLineGroupSelect board group off)

def readAsicDelaysAndPatterns (controller : Controller) : Option Controller :=
  (List.range (groups board)).foldlM (fun controller group =>
      readSelectedGroup board unknown check group controller)
    { controller with delayLine := controller.delayLine.setPowerUp }

def readConfigurationReg (controller : Controller) : Option Controller :=
  (controller.alct.shfIRShfDR unknown .rd .configReg regSizeConfigReg fun _ => 0).map fun scanned =>
    { controller with
      configuration := Configuration.decodeConfigurationReg
        { controller.configuration with
          readConfigReg := copied regSizeConfigReg scanned.2
            controller.configuration.readConfigReg }
      alct := scanned.1 }

def writeConfigurationReg (controller : Controller) : Option Controller :=
  let configuration := controller.configuration.fillConfigurationReg
  (controller.alct.shfIRShfDR unknown .wrt .configReg regSizeConfigReg
      configuration.writeConfigReg).bind fun scanned =>
    if check then readConfigurationReg unknown { controller with configuration, alct := scanned.1 }
    else some { controller with configuration, alct := scanned.1 }

def readMask (register : Register) (rdSize wrtSize : Nat) (mask : Mask) (alct : Alct) :
    Option (Mask × Alct) :=
  (alct.shfIRShfDR unknown .rd register rdSize fun _ => 0).bind fun scanned =>
    let mask := { mask with read := copied rdSize scanned.2 mask.read }
    (scanned.1.shfIRShfDR unknown .wrt register wrtSize mask.read).map fun reloaded =>
      (mask, reloaded.1)

def writeMask (register : Register) (rdSize wrtSize : Nat) (mask : Mask) (alct : Alct) :
    Option (Mask × Alct) :=
  (alct.shfIRShfDR unknown .wrt register wrtSize mask.write).bind fun scanned =>
    if check then readMask unknown register rdSize wrtSize mask scanned.1
    else some (mask, scanned.1)

def readHotChannelMask (controller : Controller) : Option Controller :=
  (readMask unknown .hotchanMask board.characteristics.sizes.rdHotchanMask
      board.characteristics.sizes.wrtHotchanMask controller.hotChannelMask controller.alct).map
    fun read => { controller with hotChannelMask := read.1, alct := read.2 }

def writeHotChannelMask (controller : Controller) : Option Controller :=
  (writeMask unknown check .hotchanMask board.characteristics.sizes.rdHotchanMask
      board.characteristics.sizes.wrtHotchanMask controller.hotChannelMask controller.alct).map
    fun written => { controller with hotChannelMask := written.1, alct := written.2 }

def readCollisionPatternMask (controller : Controller) : Option Controller :=
  (readMask unknown .collisionMaskReg board.characteristics.sizes.rdCollisionMaskReg
      board.characteristics.sizes.wrtCollisionMaskReg controller.collisionPatternMask
      controller.alct).map
    fun read => { controller with collisionPatternMask := read.1, alct := read.2 }

def writeCollisionPatternMask (controller : Controller) : Option Controller :=
  (writeMask unknown check .collisionMaskReg board.characteristics.sizes.rdCollisionMaskReg
      board.characteristics.sizes.wrtCollisionMaskReg controller.collisionPatternMask
      controller.alct).map
    fun written => { controller with collisionPatternMask := written.1, alct := written.2 }

def setPowerUp (controller : Controller) : Controller :=
  { controller with
    delayLine := controller.delayLine.setPowerUp
    asics := controller.asics.setPowerUpDelays.setPowerUpPatterns
    configuration := controller.configuration.setPowerUp
    hotChannelMask := controller.hotChannelMask.setPowerUp 672
    collisionPatternMask := controller.collisionPatternMask.setPowerUp 392 }

def setAsicDelay (afebChannel delay : Int) (controller : Controller) : Controller :=
  if delay < 0 ∨ 15 < delay then controller
  else if afebChannel < 0 ∨ (board.maximumUserIndex : Int) < afebChannel then controller
  else
    { controller with
      asics.writeDelay := Function.update controller.asics.writeDelay
        (board.userIndexToHardwareIndex afebChannel.toNat) (delay % 16) }

def getWriteAsicDelay (controller : Controller) (afebChannel : Int) : Int :=
  if afebChannel < 0 ∨ (board.maximumUserIndex : Int) < afebChannel then 999
  else controller.asics.writeDelay (board.userIndexToHardwareIndex afebChannel.toNat)

def getAsicDelay (controller : Controller) (afebChannel : Int) : Int :=
  if afebChannel < 0 ∨ (board.maximumUserIndex : Int) < afebChannel then 999
  else controller.asics.readDelay (board.userIndexToHardwareIndex afebChannel.toNat)

def OutOfLayers (layer channel : Int) : Prop :=
  layer < 0 ∨ (maxNumLayers : Int) ≤ layer ∨
    channel < 0 ∨ (board.characteristics.numberOfChannelsPerLayer : Int) ≤ channel

instance (layer channel : Int) : Decidable (OutOfLayers board layer channel) :=
  inferInstanceAs (Decidable (_ ∨ _))

def setAsicPattern (layer channel onOrOff : Int) (controller : Controller) : Controller :=
  if OutOfLayers board layer channel then controller
  else
    { controller with
      asics.writePattern := Function.update controller.asics.writePattern layer.toNat
        (Function.update (controller.asics.writePattern layer.toNat) channel.toNat (onOrOff % 2)) }

def getAsicPattern (controller : Controller) (layer channel : Int) : Int :=
  if OutOfLayers board layer channel then 999
  else controller.asics.readPattern layer.toNat channel.toNat

def hotChannelIndex (layer channel : Int) : Nat :=
  layer.toNat * board.characteristics.numberOfChannelsPerLayer + channel.toNat

def setHotChannelMask (layer channel onOrOff : Int) (controller : Controller) : Controller :=
  if OutOfLayers board layer channel then controller
  else
    { controller with
      hotChannelMask.write := Function.update controller.hotChannelMask.write
        (hotChannelIndex board layer channel) onOrOff }

def getHotChannelMask (controller : Controller) (layer channel : Int) : Int :=
  if OutOfLayers board layer channel then -1
  else controller.hotChannelMask.read (hotChannelIndex board layer channel)

def OutOfGroups (group bitInEnvelope : Int) : Prop :=
  group < 0 ∨ (board.characteristics.numberOfCollisionPatternGroups : Int) ≤ group ∨
    bitInEnvelope < 0 ∨ (numberOfBitsInCollisionMaskPerGroup : Int) ≤ bitInEnvelope

instance (group bitInEnvelope : Int) : Decidable (OutOfGroups board group bitInEnvelope) :=
  inferInstanceAs (Decidable (_ ∨ _))

def collisionPatternIndex (group bitInEnvelope : Int) : Nat :=
  group.toNat * numberOfBitsInCollisionMaskPerGroup + bitInEnvelope.toNat

def setCollisionPatternMask (group bitInEnvelope onOrOff : Int) (controller : Controller) :
    Controller :=
  if OutOfGroups board group bitInEnvelope then controller
  else
    { controller with
      collisionPatternMask.write := Function.update controller.collisionPatternMask.write
        (collisionPatternIndex group bitInEnvelope) (onOrOff % 2) }

def getCollisionPatternMask (controller : Controller) (group bitInEnvelope : Int) : Int :=
  if OutOfGroups board group bitInEnvelope then -1
  else controller.collisionPatternMask.read (collisionPatternIndex group bitInEnvelope)

/-- `SetTriggerMode`, `SetExtTrigEnable` and so on, which check nothing. -/
def setConfigField (field : ConfigField) (value : Int) (controller : Controller) : Controller :=
  { controller with
    configuration.write := Function.update controller.configuration.write field value }

def getConfigField (controller : Controller) (field : ConfigField) : Int :=
  controller.configuration.read field

end Controller

end EmuLib.AlctController
