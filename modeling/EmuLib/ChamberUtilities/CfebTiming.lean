import EmuLib.Tmb.RegisterPrograms

/-!
The configuration of a chamber for the timing scan of its CFEBs, level by level, and the check that
reads the configuration back.
-/

namespace EmuLib.ChamberUtilities.CfebTiming

open List

open Tmb (TMB Member Field Register Phaser Contents Device Step knownAfter knownAfter_of settingIn)

section

structure Configuration where
  cfebPipelineDepth : BitVec 32
  dac : Rat
  compThresh : Rat
  clctPatternTrigEn : BitVec 32
  clctExtTrigEn : BitVec 32
  tmbAllowClct : BitVec 32
  hsPretrigHitThresh : BitVec 32
  minHitsPattern : BitVec 32
  ignoreCcbStartstop : BitVec 32
  layerTriggerEn : BitVec 32
  fifoMode : BitVec 32
  fifoTbins : BitVec 32
  fifoPretrig : BitVec 32
  fifoNoHitsRaw : BitVec 32
  tmbInternalL1a : BitVec 32
  ccbExtTrigDelay : BitVec 32
  tmbL1aDelay : BitVec 32
  cfebRxPosneg : BitVec 32
  cfebRxClockDelay : BitVec 32
  cfebMask : BitVec 32
  cfebClockPhase : BitVec 32

def Configuration.new : Configuration where
  cfebPipelineDepth := 0
  dac := 0
  compThresh := 0
  clctPatternTrigEn := 1
  clctExtTrigEn := 1
  tmbAllowClct := 1
  hsPretrigHitThresh := 5
  minHitsPattern := 1
  ignoreCcbStartstop := 0
  layerTriggerEn := 0
  fifoMode := 1
  fifoTbins := 30
  fifoPretrig := 5
  fifoNoHitsRaw := 0
  tmbInternalL1a := 0
  ccbExtTrigDelay := 0
  tmbL1aDelay := 0
  cfebRxPosneg := 0
  cfebRxClockDelay := 0
  cfebMask := 0x7f
  cfebClockPhase := 0

inductive CcbMode
  | vmeFpga
  | dlog
deriving DecidableEq

inductive Call
  | setCCBMode (mode : CcbMode)
  | hardReset
  | setDCFEBsPipelineDepth (depth : BitVec 32)
  | tmbHardResetTmbFpga
  | configureODMB
  | l1aReset
  | resyncDCFEBs
  | enableL1aFromDmbCfebCalibX
  | setDac (dac : Rat)
  | setCompThresh (threshold : Rat)
  | settrgsrc
  | writeCSRB5 (word : BitVec 16)
  | setCompClockPhaseCfeb (cfeb : Nat) (phase : BitVec 32)
  | dcfebConfigure (cfeb : Nat)
deriving DecidableEq

/-- What a hard reset of the crate, and of the TMB, makes of the registers. -/
structure Resets where
  crate : Contents → Contents
  csrb5 : BitVec 16 → BitVec 16
  tmb : Contents → Contents

structure Chamber where
  isMe11 : Bool
  dmbHardwareVersion : Int
  cfebs : List Nat
  device : Device
  csrb5 : BitVec 16
  calls : List Call

def ccbCmdAdr : Nat := 0x9C

def startTTC : List Step :=
  [0x0001, 0x0603, 0x0001, 0x0303, 0x0001, 0x0103, 0x0001, 0x0000].map (.writeWord ccbCmdAdr)

def fireDDDStateMachine : List Step :=
  [.writeWord Register.vmeDddsm.adr 0x20, .writeWord Register.vmeDddsm.adr 0x21,
    .writeWord Register.vmeDddsm.adr 0x20, .read .vmeDddsm,
    .readReady .vmeDddsm .dddStateMachineBusy 11]

def firePhaser (shifter : Phaser) : List Step :=
  [.set (.own .firePhaser) 0, .write (.phaser shifter), .set (.own .firePhaser) 1,
    .write (.phaser shifter), .set (.own .firePhaser) 0, .write (.phaser shifter),
    .read (.phaser shifter), .readWhile (.phaser shifter) .phaserBusy 999]

variable (config : Configuration)

lemma zero_lt_cfebs : 0 < 5 := by decide
lemma one_lt_cfebs : 1 < 5 := by decide
lemma two_lt_cfebs : 2 < 5 := by decide
lemma three_lt_cfebs : 3 < 5 := by decide
lemma four_lt_cfebs : 4 < 5 := by decide

def configureTMB (isMe11 : Bool) (cfebTofDelay : Fin 5 → BitVec 32) : List Step :=
  let pattern : List Step :=
    if isMe11 then [.set (.own .clctPatTrigEn) config.clctPatternTrigEn] else []
  let trigger : List Step :=
    [.set (.own .clctExtTrigEn) config.clctExtTrigEn, .write .seqTrigEn,
      .set (.own .tmbAllowClct) config.tmbAllowClct, .write .tmbTrig,
      .set (.own .hitThresh) config.hsPretrigHitThresh,
      .set (.own .minHitsPattern) config.minHitsPattern, .write .seqClct,
      .set (.own .ignoreCcbStartstop) config.ignoreCcbStartstop, .write .ccbTrig,
      .set (.own .layerTriggerEn) config.layerTriggerEn, .write .layerTrgMode]
  let delays : List Step :=
    [.set (.own .cfeb0TofDelay) (cfebTofDelay ⟨0, zero_lt_cfebs⟩),
      .set (.own .cfeb1TofDelay) (cfebTofDelay ⟨1, one_lt_cfebs⟩),
      .set (.own .cfeb2TofDelay) (cfebTofDelay ⟨2, two_lt_cfebs⟩),
      .set (.own .cfeb3TofDelay) (cfebTofDelay ⟨3, three_lt_cfebs⟩),
      .set (.own .cfeb4TofDelay) (cfebTofDelay ⟨4, four_lt_cfebs⟩),
      .write .vmeDdd1, .write .vmeDdd2]
  let fifo : List Step :=
    if isMe11 then
      [.set (.own .fifoMode) config.fifoMode, .set (.own .fifoTbins) config.fifoTbins,
        .set (.own .fifoPretrig) config.fifoPretrig,
        .set (.own .fifoNoRawHits) config.fifoNoHitsRaw, .write .seqFifo]
    else []
  pattern ++ trigger ++ delays ++ fifo ++ [.write .vmeDddoe] ++ fireDDDStateMachine ++ startTTC

def setTMBInternalL1A (delay : BitVec 32) : List Step :=
  [.read .seqL1a, .set (.read .tmbL1aInternal) delay, .write .seqL1a]

def setTMBL1ADelay (delay : BitVec 32) : List Step :=
  [.read .seqL1a, .set (.read .l1adelay) delay, .write .seqL1a]

def enableClctExtTrig : List Step := [.set (.own .clctExtTrigEn) 1, .fill .seqTrigEn]

def setCfebRxPosNeg (posneg : BitVec 32) : List Step :=
  let shifters : List Phaser :=
    [.cfeb0Rxd, .cfeb1Rxd, .cfeb2Rxd, .cfeb3Rxd, .cfeb4Rxd, .cfeb5Rxd, .cfeb6Rxd]
  shifters.map fun shifter => .set (.posneg shifter) posneg

def setCfebRxClockDelay (hardwareVersion delay : BitVec 32) : List Step :=
  let shifters : List Phaser := [.cfeb0Rxd, .cfeb1Rxd, .cfeb2Rxd, .cfeb3Rxd, .cfeb4Rxd] ++
    if hardwareVersion = 2 then [.cfeb5Rxd, .cfeb6Rxd] else []
  shifters.flatMap fun shifter =>
    [.set (.clockDelay shifter) delay, .write (.phaser shifter)] ++ firePhaser shifter

def timing (isMe11 : Bool) (hardwareVersion : BitVec 32) : List Step :=
  (if isMe11 then
    setTMBInternalL1A config.tmbInternalL1a ++
      (if config.clctExtTrigEn = 0 then [] else enableClctExtTrig) ++
      setTMBL1ADelay config.tmbL1aDelay ++ setTMBL1ADelay config.tmbL1aDelay
  else []) ++
  setCfebRxPosNeg config.cfebRxPosneg ++
  setCfebRxClockDelay hardwareVersion config.cfebRxClockDelay

namespace Chamber

variable (chamber : Chamber)

def call (calls : List Call) : Chamber := { chamber with calls := chamber.calls ++ calls }

def configureBoards (resets : Resets) : Option Chamber :=
  if chamber.cfebs.isEmpty then none
  else some
    { chamber with
      device := { chamber.device with
        contents := resets.tmb (resets.crate chamber.device.contents) }
      csrb5 := resets.csrb5 chamber.csrb5
      calls := chamber.calls ++
        [.setCCBMode .vmeFpga, .hardReset, .setCCBMode .dlog,
          .setDCFEBsPipelineDepth config.cfebPipelineDepth, .tmbHardResetTmbFpga, .configureODMB,
          .l1aReset, .resyncDCFEBs, .enableL1aFromDmbCfebCalibX, .setDac config.dac,
          .setCompThresh config.compThresh] ++
        if chamber.dmbHardwareVersion < 2 then [.settrgsrc] else [] }

def cfebTofDelay (cfeb : Fin 5) : BitVec 32 :=
  chamber.device.tmb.value (.own
    ([Field.cfeb0TofDelay, .cfeb1TofDelay, .cfeb2TofDelay, .cfeb3TofDelay,
      .cfeb4TofDelay].get cfeb))

def configureTrigger : Chamber :=
  { chamber.call [.setCCBMode .dlog] with
    device := chamber.device.run (configureTMB config chamber.isMe11 chamber.cfebTofDelay) }

def configuresCfeb (number : Nat) : Bool :=
  (config.cfebMask &&& (0x7f : BitVec 32)).sshiftRight number != 0

def configureCfebs : Chamber :=
  if chamber.isMe11 then
    chamber.call (chamber.cfebs.flatMap fun number =>
      if configuresCfeb config number then
        [.setCompClockPhaseCfeb number config.cfebClockPhase, .dcfebConfigure number]
      else [])
  else chamber

def setExtTrigDelay (delay : BitVec 32) : Chamber :=
  let word := ((chamber.csrb5.setWidth 32 &&& (0xff : BitVec 32)) ||| delay <<< 8).setWidth 16
  { chamber.call [.writeCSRB5 word] with csrb5 := word }

def configureTiming : Chamber :=
  let chamber := if chamber.isMe11 then chamber.setExtTrigDelay config.ccbExtTrigDelay else chamber
  { chamber with
    device := chamber.device.run
      (timing config chamber.isMe11 (chamber.device.tmb.value .hardwareVersion)) }

def due (level after part : Int) : Bool :=
  level < 0 || level = part || (after % 2 = 1 && level ≤ part)

def configureLevel (resets : Resets) (level after : Int) : Option Chamber :=
  (if due level after 0 then chamber.configureBoards config resets else some chamber).map
    fun chamber =>
      let chamber := if due level after 1 then chamber.configureTrigger config else chamber
      let chamber := if due level after 2 then chamber.configureCfebs config else chamber
      if due level after 3 then chamber.configureTiming config else chamber

end Chamber

def readConfiguration (chamber : Chamber) : Configuration × Chamber :=
  let device := chamber.device
  let (config, device) :=
    if chamber.isMe11 then
      let l1a := device.readRegister Register.seqL1a.adr
      let trigger := l1a.readRegister Register.seqTrigEn.adr
      ({ config with
          tmbInternalL1a := l1a.tmb.value (.read .tmbL1aInternal)
          clctPatternTrigEn := trigger.tmb.value (.read .clctPatTrigEn)
          clctExtTrigEn := trigger.tmb.value (.read .clctExtTrigEn) }, trigger)
    else (config, device)
  let device := device.readRegister Register.tmbTrig.adr
  let config := { config with tmbAllowClct := device.tmb.value (.read .tmbAllowClct) }
  let device := device.readRegister Register.seqClct.adr
  let config := { config with
    hsPretrigHitThresh := device.tmb.value (.read .hitThresh)
    minHitsPattern := device.tmb.value (.read .minHitsPattern) }
  let device := device.readRegister Register.ccbTrig.adr
  let config := { config with ignoreCcbStartstop := device.tmb.value (.read .ignoreCcbStartstop) }
  let device := device.readRegister Register.layerTrgMode.adr
  let config := { config with layerTriggerEn := device.tmb.value (.read .layerTriggerEn) }
  let device := device.readRegister Register.seqFifo.adr
  let config := { config with
    fifoMode := device.tmb.value (.read .fifoMode)
    fifoTbins := device.tmb.value (.read .fifoTbins)
    fifoPretrig := device.tmb.value (.read .fifoPretrig)
    fifoNoHitsRaw := device.tmb.value (.read .fifoNoRawHits) }
  let (config, device) :=
    if chamber.isMe11 then
      let l1a := device.readRegister Register.seqL1a.adr
      ({ config with
          ccbExtTrigDelay := (chamber.csrb5.setWidth 32 >>> 8) &&& (0xff : BitVec 32)
          tmbL1aDelay := l1a.tmb.value (.read .l1adelay) }, l1a)
    else (config, device)
  let device := device.readRegister (Register.phaser .cfeb0Rxd).adr
  ({ config with
      cfebRxPosneg := device.tmb.value (.readPosneg .cfeb0Rxd)
      cfebRxClockDelay := device.tmb.value (.readClockDelay .cfeb0Rxd) },
    { chamber with device })

def sameConfiguration (isMe11 : Bool) (read orig : Configuration) : Bool :=
  (!isMe11 || read.tmbInternalL1a == orig.tmbInternalL1a) &&
  (!isMe11 || read.clctPatternTrigEn == orig.clctPatternTrigEn) &&
  (!isMe11 || read.clctExtTrigEn == orig.clctExtTrigEn) &&
  read.tmbAllowClct == orig.tmbAllowClct &&
  read.hsPretrigHitThresh == orig.hsPretrigHitThresh &&
  read.minHitsPattern == orig.minHitsPattern &&
  read.ignoreCcbStartstop == orig.ignoreCcbStartstop &&
  read.layerTriggerEn == orig.layerTriggerEn &&
  read.fifoMode == orig.fifoMode &&
  read.fifoTbins == orig.fifoTbins &&
  read.fifoPretrig == orig.fifoPretrig &&
  read.fifoNoHitsRaw == orig.fifoNoHitsRaw &&
  (!isMe11 || read.ccbExtTrigDelay == orig.ccbExtTrigDelay) &&
  (!isMe11 || read.tmbL1aDelay == orig.tmbL1aDelay) &&
  read.cfebRxPosneg == orig.cfebRxPosneg &&
  read.cfebRxClockDelay == orig.cfebRxClockDelay

def checkConfiguration (orig : Configuration) (chamber : Chamber) : Bool × Chamber :=
  let (read, chamber) := readConfiguration orig chamber
  (sameConfiguration chamber.isMe11 read orig, chamber)

end

section

/-- A value of the configuration, with the register and the member of the TMB that carry it. -/
structure Setting where
  register : Register
  member : Member
  value : Configuration → BitVec 32

def settings : List Setting :=
  [⟨.tmbTrig, .own .tmbAllowClct, Configuration.tmbAllowClct⟩,
    ⟨.seqClct, .own .hitThresh, Configuration.hsPretrigHitThresh⟩,
    ⟨.seqClct, .own .minHitsPattern, Configuration.minHitsPattern⟩,
    ⟨.ccbTrig, .own .ignoreCcbStartstop, Configuration.ignoreCcbStartstop⟩,
    ⟨.layerTrgMode, .own .layerTriggerEn, Configuration.layerTriggerEn⟩,
    ⟨.phaser .cfeb0Rxd, .posneg .cfeb0Rxd, Configuration.cfebRxPosneg⟩,
    ⟨.phaser .cfeb0Rxd, .clockDelay .cfeb0Rxd, Configuration.cfebRxClockDelay⟩]

def fifoSettings : List Setting :=
  [⟨.seqFifo, .own .fifoMode, Configuration.fifoMode⟩,
    ⟨.seqFifo, .own .fifoTbins, Configuration.fifoTbins⟩,
    ⟨.seqFifo, .own .fifoPretrig, Configuration.fifoPretrig⟩,
    ⟨.seqFifo, .own .fifoNoRawHits, Configuration.fifoNoHitsRaw⟩]

def me11Settings : List Setting :=
  [⟨.seqL1a, .read .tmbL1aInternal, Configuration.tmbInternalL1a⟩,
    ⟨.seqTrigEn, .own .clctPatTrigEn, Configuration.clctPatternTrigEn⟩,
    ⟨.seqTrigEn, .own .clctExtTrigEn, Configuration.clctExtTrigEn⟩,
    ⟨.seqL1a, .read .l1adelay, Configuration.tmbL1aDelay⟩]

variable (config : Configuration)

def Setting.Held (contents : Contents) (setting : Setting) : Prop :=
  settingIn (contents.data setting.register.adr) setting.member = setting.value config

variable {config} {device : Device} {register : Register} {field : Field} {shifter : Phaser}

lemma readRegister_contents (address) :
    (device.readRegister address).contents = device.contents := rfl

lemma read_value (among : field ∈ register.extracted) :
    (device.readRegister register.adr).tmb.value (.read field) =
      settingIn (device.contents.data register.adr) (.own field) :=
  (Tmb.readRegister_value register Member.noConfusion).trans (Tmb.decodeFields_extracted among _)

lemma read_posneg :
    (device.readRegister (Register.phaser shifter).adr).tmb.value (.readPosneg shifter) =
      settingIn (device.contents.data (Register.phaser shifter).adr) (.posneg shifter) :=
  (Tmb.readRegister_value _ Member.noConfusion).trans (Tmb.decodeFields_posneg _)

lemma read_clockDelay :
    (device.readRegister (Register.phaser shifter).adr).tmb.value (.readClockDelay shifter) =
      settingIn (device.contents.data (Register.phaser shifter).adr) (.clockDelay shifter) :=
  (Tmb.readRegister_value _ Member.noConfusion).trans (Tmb.decodeFields_clockDelay _)

lemma settingIn_own (data field) :
    settingIn data (.own field) = settingIn data (.read field) := rfl

lemma checkConfiguration_iff (chamber) :
    (checkConfiguration config chamber).1 = true ↔
      (∀ setting ∈ settings, setting.Held config chamber.device.contents) ∧
      (∀ setting ∈ fifoSettings, setting.Held config chamber.device.contents) ∧
      (chamber.isMe11 = true →
        (∀ setting ∈ me11Settings, setting.Held config chamber.device.contents) ∧
          (chamber.csrb5.setWidth 32 >>> 8) &&& (0xff : BitVec 32) = config.ccbExtTrigDelay) := by
  cases me11 : chamber.isMe11 with
  | true =>
    simp (disch := decide) only [checkConfiguration, readConfiguration, me11, if_true,
      sameConfiguration, read_value, read_posneg, read_clockDelay, readRegister_contents,
      Bool.and_eq_true, beq_iff_eq, Bool.not_true, Bool.false_or, settings, fifoSettings,
      me11Settings, forall_mem_cons, Setting.Held, settingIn_own]
    simp only [not_mem_nil, false_imp_iff, implies_true, and_true, true_imp_iff]
    tauto
  | false =>
    simp (disch := decide) only [checkConfiguration, readConfiguration, me11, Bool.false_eq_true,
      if_false, sameConfiguration, read_value, read_posneg, read_clockDelay,
      readRegister_contents, Bool.and_eq_true, beq_iff_eq, Bool.not_false, Bool.true_or, settings,
      fifoSettings, forall_mem_cons, Setting.Held, settingIn_own]
    simp only [not_mem_nil, false_imp_iff, implies_true, and_true, true_and]
    tauto

end

section

variable (config : Configuration) (isMe11 enable more : Bool) (tof : Fin 5 → BitVec 32)

def program : List Step :=
  configureTMB config isMe11 tof ++
    ((if isMe11 then
      setTMBInternalL1A config.tmbInternalL1a ++
        (if enable then enableClctExtTrig else []) ++
        setTMBL1ADelay config.tmbL1aDelay ++ setTMBL1ADelay config.tmbL1aDelay
    else []) ++
    setCfebRxPosNeg config.cfebRxPosneg ++
    setCfebRxClockDelay (if more then 2 else 0) config.cfebRxClockDelay)

lemma timing_program (hardwareVersion) :
    configureTMB config isMe11 tof ++ timing config isMe11 hardwareVersion =
      program config isMe11 (config.clctExtTrigEn != 0) (hardwareVersion == 2) tof := by
  have version :
      setCfebRxClockDelay (if (hardwareVersion == 2) then 2 else 0) config.cfebRxClockDelay =
        setCfebRxClockDelay hardwareVersion config.cfebRxClockDelay := by
    rw [setCfebRxClockDelay, setCfebRxClockDelay]
    by_cases two : hardwareVersion = 2
    · rw [two]
      rfl
    · rw [beq_eq_false_iff_ne.2 two, if_neg two]
      rfl
  rw [program, timing, version]
  by_cases zero : config.clctExtTrigEn = 0
  · rw [zero]
    rfl
  · simp only [bne_iff_ne, ne_eq, zero, not_false_eq_true, if_true, if_false]

variable {config isMe11 enable more tof}

lemma one_of_fits {value} (fits : Tmb.fitsIn value Field.clctExtTrigEn.bits)
    (some_ : value ≠ 0) : value = 1 := by
  have small : value >>> 1 = 0 := fits
  apply BitVec.eq_of_toNat_eq
  have halved := congrArg BitVec.toNat small
  rw [BitVec.toNat_ushiftRight] at halved
  have positive : value.toNat ≠ 0 := fun zero => some_ (BitVec.eq_of_toNat_eq zero)
  have zero : (0 : BitVec 32).toNat = 0 := rfl
  show value.toNat = 1
  omega

lemma placed_settings : ∀ setting ∈ settings ++ fifoSettings ++ me11Settings,
    setting.member ∈ Tmb.places setting.register := by
  decide

lemma program_settings : ∀ setting ∈ settings,
    (knownAfter setting.register setting.member (program config isMe11 enable more tof)).held =
      some (setting.value config) := by
  simp only [settings, forall_mem_cons, not_mem_nil, false_imp_iff, implies_true, and_true]
  cases isMe11 <;> cases enable <;> cases more <;>
    exact ⟨rfl, rfl, rfl, rfl, rfl, rfl, rfl⟩

lemma program_fifo : ∀ setting ∈ fifoSettings,
    (knownAfter setting.register setting.member (program config true enable more tof)).held =
      some (setting.value config) := by
  simp only [fifoSettings, forall_mem_cons, not_mem_nil, false_imp_iff, implies_true, and_true]
  cases enable <;> cases more <;> exact ⟨rfl, rfl, rfl, rfl⟩

lemma program_me11 (one : enable = true → config.clctExtTrigEn = 1) :
    ∀ setting ∈ me11Settings,
      (knownAfter setting.register setting.member (program config true enable more tof)).held =
        some (setting.value config) := by
  simp only [me11Settings, forall_mem_cons, not_mem_nil, false_imp_iff, implies_true, and_true]
  cases enable with
  | true =>
    rw [one rfl]
    cases more <;> exact ⟨rfl, rfl, rfl, rfl⟩
  | false => cases more <;> exact ⟨rfl, rfl, rfl, rfl⟩

end

section

variable {config : Configuration} {resets : Resets} {chamber : Chamber}

structure Configuration.Within (config : Configuration) : Prop where
  settings : ∀ setting ∈ settings ++ fifoSettings ++ me11Settings,
    setting.member.Within (setting.value config)
  ccbExtTrigDelay : config.ccbExtTrigDelay.toNat < 256

lemma delay_held {delay : BitVec 32} (small : delay.toNat < 256) (csrb5 : BitVec 16) :
    ((((csrb5.setWidth 32 &&& (0xff : BitVec 32)) ||| delay <<< 8).setWidth 16).setWidth 32 >>>
      8) &&& (0xff : BitVec 32) = delay := by
  have mask : ∀ bit < 32, (0xff : BitVec 32).getLsbD bit = decide (bit < 8) := by decide
  apply BitVec.eq_of_getLsbD_eq
  intro bit short
  rw [BitVec.getLsbD_and, mask bit short, BitVec.getLsbD_ushiftRight]
  by_cases low : bit < 8
  · have high : (0xff : BitVec 32).getLsbD (8 + bit) = false := by
      rw [mask _ (by omega)]
      exact decide_eq_false (by omega)
    rw [decide_eq_true low, BitVec.getLsbD_setWidth, BitVec.getLsbD_setWidth,
      BitVec.getLsbD_or, BitVec.getLsbD_and, high, BitVec.getLsbD_shiftLeft]
    have places : 8 + bit < 32 ∧ 8 + bit < 16 ∧ ¬ 8 + bit < 8 := by omega
    simp [places]
  · have none_ : delay.getLsbD bit = false :=
      Nat.testBit_lt_two_pow (Nat.lt_of_lt_of_le small
        (Nat.pow_le_pow_right Nat.two_pos (Nat.le_of_not_lt low)))
    rw [decide_eq_false low, Bool.and_false, none_]

lemma configureCfebs_kept : (chamber.configureCfebs config).device = chamber.device ∧
    (chamber.configureCfebs config).isMe11 = chamber.isMe11 := by
  rw [Chamber.configureCfebs]
  split
  · exact ⟨rfl, rfl⟩
  · exact ⟨rfl, rfl⟩

lemma configureTiming_device : (chamber.configureTiming config).device =
    chamber.device.run
      (timing config chamber.isMe11 (chamber.device.tmb.value .hardwareVersion)) := by
  rw [Chamber.configureTiming]
  split
  · rfl
  · rfl

lemma configureTiming_csrb5 (me11 : chamber.isMe11 = true) :
    (chamber.configureTiming config).csrb5 =
      ((chamber.csrb5.setWidth 32 &&& (0xff : BitVec 32)) ||| config.ccbExtTrigDelay <<< 8).setWidth
        16 := by
  rw [Chamber.configureTiming]
  simp only [me11, if_true]
  rfl

lemma configureLevel_all (some_ : chamber.cfebs.isEmpty = false) : ∃ begun,
    chamber.configureBoards config resets = some begun ∧ begun.isMe11 = chamber.isMe11 ∧
      chamber.configureLevel config resets (-1) 0 = some
        (((begun.configureTrigger config).configureCfebs config).configureTiming config) := by
  have all : ∀ part, Chamber.due (-1) 0 part = true := fun part => rfl
  rw [Chamber.configureLevel]
  simp only [all, if_true, Chamber.configureBoards, some_, Bool.false_eq_true, if_false]
  exact ⟨_, rfl, rfl, rfl⟩

lemma configured_device (begun : Chamber) : ∃ (more : Bool) (tof : Fin 5 → BitVec 32),
    (((begun.configureTrigger config).configureCfebs config).configureTiming config).device =
      begun.device.run (program config begun.isMe11 (config.clctExtTrigEn != 0) more tof) := by
  obtain ⟨device, isMe11⟩ := @configureCfebs_kept config (begun.configureTrigger config)
  refine ⟨(begun.configureTrigger config).device.tmb.value .hardwareVersion == 2,
    begun.cfebTofDelay, ?_⟩
  rw [configureTiming_device, device, isMe11, ← timing_program, Device.run, Device.run,
    foldl_append]
  rfl

lemma configured_held (within : config.Within) (begun : Chamber) :
    let after := ((begun.configureTrigger config).configureCfebs config).configureTiming config
    (∀ setting ∈ settings, setting.Held config after.device.contents) ∧
      (begun.isMe11 = true →
        (∀ setting ∈ fifoSettings, setting.Held config after.device.contents) ∧
          ∀ setting ∈ me11Settings, setting.Held config after.device.contents) := by
  obtain ⟨more, tof, device⟩ := @configured_device config begun
  intro after
  have held : ∀ setting ∈ settings ++ fifoSettings ++ me11Settings,
      (knownAfter setting.register setting.member
        (program config begun.isMe11 (config.clctExtTrigEn != 0) more tof)).held =
          some (setting.value config) → setting.Held config after.device.contents := by
    intro setting among known
    rw [device]
    exact (knownAfter_of (placed_settings setting among) _ begun.device).held _ known
      (within.settings setting among)
  constructor
  · exact fun setting among => held setting
      (mem_append_left _ (mem_append_left _ among)) (program_settings setting among)
  · intro me11
    rw [me11] at held
    refine ⟨fun setting among => held setting
      (mem_append_left _ (mem_append_right _ among)) (program_fifo setting among),
      fun setting among => held setting (mem_append_right _ among)
        (program_me11 (fun enabled => ?_) setting among)⟩
    have fits := within.settings ⟨.seqTrigEn, .own .clctExtTrigEn, Configuration.clctExtTrigEn⟩
      (by simp [settings, fifoSettings, me11Settings])
    exact one_of_fits fits (bne_iff_ne.1 enabled)

end

section

variable {config : Configuration} {resets : Resets} {chamber : Chamber} {level after : Int}

def Call.ofCfeb : Call → Bool
  | .setCompClockPhaseCfeb _ _ | .dcfebConfigure _ => true
  | _ => false

def cfebCalls (config : Configuration) (chamber : Chamber) : List Call :=
  if chamber.isMe11 then
    chamber.cfebs.flatMap fun number =>
      if Chamber.configuresCfeb config number then
        [.setCompClockPhaseCfeb number config.cfebClockPhase, .dcfebConfigure number]
      else []
  else []

def Adds (before after : Chamber) (level : List Call) : Prop :=
  ∃ calls, after.calls = before.calls ++ calls ∧ calls.filter Call.ofCfeb = level

lemma Adds.nothing (chamber) : Adds chamber chamber [] :=
  ⟨[], (append_nil _).symm, rfl⟩

lemma Adds.trans {before between after first second} (early : Adds before between first)
    (late : Adds between after second) : Adds before after (first ++ second) := by
  obtain ⟨calls, begun, rfl⟩ := early
  obtain ⟨more, ended, rfl⟩ := late
  refine ⟨calls ++ more, ?_, filter_append _ _⟩
  rw [ended, begun, append_assoc]

lemma configureBoards_adds {begun}
    (boards : chamber.configureBoards config resets = some begun) : Adds chamber begun [] := by
  rw [Chamber.configureBoards] at boards
  split at boards
  · cases boards
  · rw [← Option.some.inj boards]
    refine ⟨_, append_assoc _ _ _, ?_⟩
    split
    · rfl
    · rfl

lemma configureBoards_kept {begun} (boards : chamber.configureBoards config resets = some begun) :
    begun.isMe11 = chamber.isMe11 ∧ begun.cfebs = chamber.cfebs := by
  rw [Chamber.configureBoards] at boards
  split at boards
  · cases boards
  · rw [← Option.some.inj boards]
    exact ⟨rfl, rfl⟩

lemma configureTrigger_adds : Adds chamber (chamber.configureTrigger config) [] :=
  ⟨[.setCCBMode .dlog], rfl, rfl⟩

lemma configureTiming_adds : Adds chamber (chamber.configureTiming config) [] := by
  rw [Chamber.configureTiming]
  split
  · exact ⟨_, rfl, rfl⟩
  · exact Adds.nothing chamber

lemma cfebCalls_filter :
    (cfebCalls config chamber).filter Call.ofCfeb = cfebCalls config chamber := by
  refine filter_eq_self.2 fun call among => ?_
  rw [cfebCalls] at among
  split at among
  · obtain ⟨number, _, made⟩ := mem_flatMap.1 among
    split at made
    · rcases mem_cons.1 made with rfl | second
      · rfl
      · rw [mem_singleton.1 second]
        rfl
    · exact absurd made not_mem_nil
  · exact absurd among not_mem_nil

lemma configureCfebs_adds :
    Adds chamber (chamber.configureCfebs config) (cfebCalls config chamber) := by
  refine ⟨cfebCalls config chamber, ?_, cfebCalls_filter⟩
  rw [Chamber.configureCfebs, cfebCalls]
  split
  · rfl
  · exact (append_nil _).symm

lemma configureLevel_adds {final}
    (returned : chamber.configureLevel config resets level after = some final) :
    Adds chamber final (if Chamber.due level after 2 then cfebCalls config chamber else []) := by
  obtain ⟨begun, boards, rfl⟩ := Option.map_eq_some_iff.1 returned
  dsimp only
  have first : Adds chamber begun [] ∧
      begun.isMe11 = chamber.isMe11 ∧ begun.cfebs = chamber.cfebs := by
    split at boards
    · exact ⟨configureBoards_adds boards, configureBoards_kept boards⟩
    · rw [← Option.some.inj boards]
      exact ⟨Adds.nothing chamber, rfl, rfl⟩
  obtain ⟨adds, me11, cfebs⟩ := first
  have second : Adds begun
      (if Chamber.due level after 1 then begun.configureTrigger config else begun) [] := by
    split
    · exact configureTrigger_adds
    · exact Adds.nothing begun
  have same : cfebCalls config
      (if Chamber.due level after 1 then begun.configureTrigger config else begun) =
        cfebCalls config chamber := by
    have kept : cfebCalls config begun = cfebCalls config chamber := by
      rw [cfebCalls, cfebCalls, me11, cfebs]
    split
    · exact kept
    · exact kept
  generalize (if Chamber.due level after 1 then begun.configureTrigger config else begun) =
    triggered at second same
  have third : Adds triggered
      (if Chamber.due level after 2 then triggered.configureCfebs config else triggered)
      (if Chamber.due level after 2 then cfebCalls config chamber else []) := by
    rw [← same]
    split
    · exact configureCfebs_adds
    · exact Adds.nothing triggered
  generalize (if Chamber.due level after 2 then triggered.configureCfebs config else triggered) =
    configured at third
  have fourth : Adds configured
      (if Chamber.due level after 3 then configured.configureTiming config else configured) [] := by
    split
    · exact configureTiming_adds
    · exact Adds.nothing configured
  have all := ((adds.trans second).trans third).trans fourth
  rw [append_nil] at all
  exact all

lemma due_single (level part) (least : 0 ≤ level) :
    Chamber.due level 0 part = decide (level = part) := by
  have apart : ¬ level < 0 := by omega
  simp [Chamber.due, apart]

lemma configure_boards :
    chamber.configureLevel config resets 0 0 = chamber.configureBoards config resets := by
  simp [Chamber.configureLevel, due_single]

lemma configure_trigger :
    chamber.configureLevel config resets 1 0 = some (chamber.configureTrigger config) := by
  simp [Chamber.configureLevel, due_single]

lemma configure_cfebs :
    chamber.configureLevel config resets 2 0 = some (chamber.configureCfebs config) := by
  simp [Chamber.configureLevel, due_single]

lemma configure_timing :
    chamber.configureLevel config resets 3 0 = some (chamber.configureTiming config) := by
  simp [Chamber.configureLevel, due_single]

def levelsInTurn (config : Configuration) (resets : Resets) (levels : List Int)
    (chamber : Chamber) : Option Chamber :=
  levels.foldlM (fun chamber level => chamber.configureLevel config resets level 0) chamber

lemma configureLevel_inTurn :
    chamber.configureLevel config resets level after =
      levelsInTurn config resets ([0, 1, 2, 3].filter (Chamber.due level after)) chamber := by
  rw [levelsInTurn, Chamber.configureLevel]
  cases boards : Chamber.due level after 0 <;> cases trigger : Chamber.due level after 1 <;>
    cases cfebs : Chamber.due level after 2 <;> cases timing : Chamber.due level after 3 <;>
    simp only [filter_cons, filter_nil, boards, trigger, cfebs, timing, if_true,
      Bool.false_eq_true, if_false, foldlM_cons, foldlM_nil, configure_boards,
      configure_trigger, configure_cfebs, configure_timing, Option.map_some] <;>
    cases chamber.configureBoards config resets <;> rfl

lemma due_all (negative : level < 0) (part) : Chamber.due level after part = true := by
  rw [Chamber.due, decide_eq_true negative]
  rfl

lemma levelsInTurn_all (negative : level < 0) :
    chamber.configureLevel config resets level after =
      levelsInTurn config resets [0, 1, 2, 3] chamber := by
  rw [configureLevel_inTurn, filter_eq_self.2 fun part _ => due_all negative part]

lemma levelsInTurn_after (least : 0 ≤ level) (odd : after % 2 = 1) :
    chamber.configureLevel config resets level after =
      levelsInTurn config resets ([0, 1, 2, 3].filter (level ≤ ·)) chamber := by
  have due : ∀ part, Chamber.due level after part = decide (level ≤ part) := by
    intro part
    have apart : ¬ level < 0 := by omega
    rw [Chamber.due, decide_eq_false apart, decide_eq_true odd, Bool.false_or, Bool.true_and,
      ← Bool.decide_or]
    exact decide_eq_decide.2 ⟨fun either => by omega, .inr⟩
  rw [configureLevel_inTurn, funext due]

lemma due_iff (part) :
    Chamber.due level after part = true ↔
      level < 0 ∨ level = part ∨ after % 2 = 1 ∧ level ≤ part := by
  simp [Chamber.due, or_assoc]

lemma mem_cfebCalls {call} : call ∈ cfebCalls config chamber ↔
    chamber.isMe11 = true ∧ ∃ number ∈ chamber.cfebs,
      Chamber.configuresCfeb config number = true ∧
        (call = .setCompClockPhaseCfeb number config.cfebClockPhase ∨
          call = .dcfebConfigure number) := by
  rw [cfebCalls]
  split
  · next me11 =>
    rw [mem_flatMap]
    constructor
    · rintro ⟨number, among, made⟩
      split at made
      · next configures =>
        simp only [mem_cons, not_mem_nil, or_false] at made
        exact ⟨me11, number, among, configures, made⟩
      · exact absurd made not_mem_nil
    · rintro ⟨-, number, among, configures, made⟩
      refine ⟨number, among, ?_⟩
      rw [if_pos configures]
      simp only [mem_cons, not_mem_nil, or_false]
      exact made
  · next other =>
    exact ⟨fun none_ => absurd none_ not_mem_nil, fun some_ => absurd some_.1 other⟩

lemma masked_bit (mask bit) :
    (mask &&& (0x7f : BitVec 32)).getLsbD bit = (mask.getLsbD bit && decide (bit < 7)) := by
  have ones : (0x7f : BitVec 32).getLsbD bit = decide (bit < 7) := by
    by_cases short : bit < 32
    · revert bit
      decide
    · rw [BitVec.getLsbD_of_ge _ _ (Nat.le_of_not_lt short)]
      exact (decide_eq_false (by omega)).symm
  rw [BitVec.getLsbD_and, ones]

lemma configuresCfeb_iff (number) : Chamber.configuresCfeb config number = true ↔
    ∃ bit, number ≤ bit ∧ bit < 7 ∧ config.cfebMask.getLsbD bit = true := by
  have shifted : ∀ bit,
      ((config.cfebMask &&& (0x7f : BitVec 32)).sshiftRight number).getLsbD bit =
        (config.cfebMask.getLsbD (number + bit) && decide (number + bit < 7)) := by
    intro bit
    have positive : (config.cfebMask &&& (0x7f : BitVec 32)).msb = false := by
      rw [BitVec.msb_eq_getLsbD_last, masked_bit]
      exact Bool.and_false _
    rw [BitVec.getLsbD_sshiftRight, positive, masked_bit]
    by_cases low : number + bit < 32
    · have short : ¬ 32 ≤ bit := by omega
      simp [low, short]
    · have high : ¬ number + bit < 7 := by omega
      simp [low, high]
  rw [Chamber.configuresCfeb, bne_iff_ne]
  constructor
  · intro some_
    by_contra none_
    refine some_ (BitVec.eq_of_getLsbD_eq fun bit _ => ?_)
    rw [shifted, show (0 : BitVec 32).getLsbD bit = false from BitVec.getLsbD_zero]
    refine Bool.eq_false_iff.2 fun set => none_ ⟨number + bit, Nat.le_add_right _ _, ?_⟩
    rw [Bool.and_eq_true, decide_eq_true_iff] at set
    exact ⟨set.2, set.1⟩
  · rintro ⟨bit, least, short, set⟩ zero
    have cleared := shifted (bit - number)
    rw [zero, show (0 : BitVec 32).getLsbD (bit - number) = false from BitVec.getLsbD_zero,
      Nat.add_sub_cancel' least, set, decide_eq_true short] at cleared
    exact Bool.noConfusion cleared

end

variable {config : Configuration} {resets : Resets}

structure CallsOfCfebs (config : Configuration) (chamber : Chamber) (level after : Int)
    (calls : List Call) : Prop where
  masked : chamber.isMe11 = true → level < 0 ∨ level = 2 ∨ after % 2 = 1 ∧ level ≤ 2 →
    ∀ number ∈ chamber.cfebs, number < 7 → config.cfebMask.getLsbD number = true →
      .setCompClockPhaseCfeb number config.cfebClockPhase ∈ calls ∧
        .dcfebConfigure number ∈ calls
  others : ∀ call ∈ calls, call.ofCfeb = true → chamber.isMe11 = true ∧
    ∃ number ∈ chamber.cfebs,
      (call = .setCompClockPhaseCfeb number config.cfebClockPhase ∨
        call = .dcfebConfigure number) ∧
      ∃ bit, number ≤ bit ∧ bit < 7 ∧ config.cfebMask.getLsbD bit = true

/-- What a configuration for the scan does, whatever has been in the registers before. -/
structure ConfiguresRight (config : Configuration) (resets : Resets) : Prop where
  reads : ∀ chamber : Chamber, chamber.cfebs ≠ [] → ∃ final,
    chamber.configureLevel config resets (-1) 0 = some final ∧
      (∀ setting ∈ settings, setting.Held config final.device.contents) ∧
      (chamber.isMe11 = true → (checkConfiguration config final).1 = true)
  checks : ∀ chamber : Chamber, (checkConfiguration config chamber).1 = true ↔
    (∀ setting ∈ settings ++ fifoSettings, setting.Held config chamber.device.contents) ∧
      (chamber.isMe11 = true →
        (∀ setting ∈ me11Settings, setting.Held config chamber.device.contents) ∧
          (chamber.csrb5.setWidth 32 >>> 8) &&& (0xff : BitVec 32) = config.ccbExtTrigDelay)
  levels : ∀ (chamber : Chamber) (level after : Int), level < 0 →
    chamber.configureLevel config resets level after =
      levelsInTurn config resets [0, 1, 2, 3] chamber
  levelsAfter : ∀ (chamber : Chamber) (level after : Int), 0 ≤ level → after % 2 = 1 →
    chamber.configureLevel config resets level after =
      levelsInTurn config resets ([0, 1, 2, 3].filter (level ≤ ·)) chamber
  cfebs : ∀ (chamber final : Chamber) (level after : Int),
    chamber.configureLevel config resets level after = some final → ∃ calls,
      final.calls = chamber.calls ++ calls ∧ CallsOfCfebs config chamber level after calls

lemma configured_checked (within : config.Within) {chamber : Chamber}
    (some_ : chamber.cfebs ≠ []) : ∃ final,
      chamber.configureLevel config resets (-1) 0 = some final ∧
        (∀ setting ∈ settings, setting.Held config final.device.contents) ∧
        (chamber.isMe11 = true → (checkConfiguration config final).1 = true) := by
  have listed : chamber.cfebs.isEmpty = false := by
    rw [isEmpty_eq_false_iff]
    exact some_
  obtain ⟨begun, -, me11, returned⟩ := @configureLevel_all config resets chamber listed
  obtain ⟨held, more⟩ := configured_held within begun
  refine ⟨_, returned, held, fun isMe11 => checkConfiguration_iff _ |>.2 ⟨held, ?_⟩⟩
  rw [isMe11] at me11
  obtain ⟨fifo, me11Held⟩ := more me11
  have kind : ((begun.configureTrigger config).configureCfebs config).isMe11 = true :=
    configureCfebs_kept.2.trans me11
  refine ⟨fifo, fun _ => ⟨me11Held, ?_⟩⟩
  rw [configureTiming_csrb5 kind]
  exact delay_held within.ccbExtTrigDelay _

lemma configureLevel_cfebs {chamber final level after}
    (returned : chamber.configureLevel config resets level after = some final) : ∃ calls,
      final.calls = chamber.calls ++ calls ∧ CallsOfCfebs config chamber level after calls := by
  obtain ⟨calls, added, ofCfeb⟩ := configureLevel_adds returned
  refine ⟨calls, added, fun me11 due number among short set => ?_, fun call among about => ?_⟩
  · rw [if_pos ((due_iff 2).2 due)] at ofCfeb
    have configures := (configuresCfeb_iff number).2 ⟨number, Nat.le_refl number, short, set⟩
    have called : ∀ call : Call, call = .setCompClockPhaseCfeb number config.cfebClockPhase ∨
        call = .dcfebConfigure number → call ∈ calls := by
      intro call made
      have level : call ∈ calls.filter Call.ofCfeb := by
        rw [ofCfeb]
        exact mem_cfebCalls.2 ⟨me11, number, among, configures, made⟩
      exact (mem_filter.1 level).1
    exact ⟨called _ (.inl rfl), called _ (.inr rfl)⟩
  · have level : call ∈ calls.filter Call.ofCfeb := mem_filter.2 ⟨among, about⟩
    rw [ofCfeb] at level
    split at level
    · obtain ⟨me11, number, listed, configures, made⟩ := mem_cfebCalls.1 level
      exact ⟨me11, number, listed, made, (configuresCfeb_iff number).1 configures⟩
    · exact absurd level not_mem_nil

theorem configuresRight (within : config.Within) (resets : Resets) :
    ConfiguresRight config resets where
  reads _ some_ := configured_checked within some_
  checks chamber := by
    rw [checkConfiguration_iff, forall_mem_append, and_assoc]
  levels _ _ _ negative := levelsInTurn_all negative
  levelsAfter _ _ _ least odd := levelsInTurn_after least odd
  cfebs _ _ _ _ returned := configureLevel_cfebs returned

lemma new_within : Configuration.new.Within where
  settings := by
    simp only [settings, fifoSettings, me11Settings, cons_append, nil_append,
      forall_mem_cons, not_mem_nil, false_imp_iff, implies_true, and_true]
    exact ⟨rfl, rfl, rfl, rfl, rfl, rfl, Nat.zero_le 24, rfl, rfl, rfl, rfl, rfl, rfl, rfl, rfl⟩
  ccbExtTrigDelay := by decide

def keeping : Resets where
  crate contents := contents
  csrb5 word := word
  tmb contents := contents

theorem new_configuresRight : ConfiguresRight Configuration.new keeping :=
  configuresRight new_within keeping

def otherChamber : Chamber where
  isMe11 := false
  dmbHardwareVersion := 1
  cfebs := [0]
  device := { tmb := ⟨fun _ => 0⟩, contents := fun _ => 0, sent := [] }
  csrb5 := 0
  calls := []

/-- Its CFEB is in the mask, but is not configured, and a check finds the values of the FIFO
different; and without CFEBs nothing is configured. -/
theorem otherChamber_unlike :
    Configuration.new.cfebMask.getLsbD 0 = true ∧
      (otherChamber.configureLevel .new keeping (-1) 0).map
        (fun final => ((checkConfiguration .new final).1,
          decide (Call.dcfebConfigure 0 ∈ final.calls))) = some (false, false) ∧
      ({ otherChamber with cfebs := [] } : Chamber).configureLevel .new keeping (-1) 0 =
        none := by
  refine ⟨by decide, by decide +kernel, rfl⟩

end EmuLib.ChamberUtilities.CfebTiming
