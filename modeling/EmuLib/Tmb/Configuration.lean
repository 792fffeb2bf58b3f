import EmuLib.Tmb.RegisterAccess

/-!
Reading the configuration of a TMB back and comparing it with the configured one.
-/

namespace EmuLib.Tmb

open BitFields

abbrev Contents := Nat → BitVec 16

def vmeIdreg0Adr : Nat := 0x00
def vmeIdreg1Adr : Nat := 0x02
def vmeIdreg2Adr : Nat := 0x04
def vmeIdreg3Adr : Nat := 0x06
def vmeUsrJtagAdr : Nat := 0x10

def Contents.data (contents : Contents) (address : Nat) : BitVec 32 :=
  (contents address).setWidth 32

def tmbConfigurationRegister : List Register :=
  [.vmeLoopbk, .alctInj, .alctStat, .cfebInj, .rpcCfg, .rpcInj, .seqTrigDly0, .rpcRawDelay,
    .seqTrigEn, .seqClct, .seqmod, .layerTrgMode, .patternFindPretrg, .clctSeparation, .tmbtim,
    .tmbTrig, .seqFifo, .rpcTbins, .nonTrigReadout, .l1aLookback, .miniscope, .seqL1a, .seqOffset,
    .bx0Delay, .ccbTrig, .alctCfg, .vmeDdd0, .vmeDdd1, .vmeDdd2, .rat3dDelays, .phaser .alctRxd,
    .phaser .alctTxd, .phaser .cfeb0Rxd, .phaser .cfeb1Rxd, .phaser .cfeb2Rxd, .phaser .cfeb3Rxd,
    .phaser .cfeb4Rxd, .cfeb03Interstage, .cfeb4Interstage, .hcm .cfeb0 .layer01,
    .hcm .cfeb0 .layer23, .hcm .cfeb0 .layer45, .hcm .cfeb1 .layer01, .hcm .cfeb1 .layer23,
    .hcm .cfeb1 .layer45, .hcm .cfeb2 .layer01, .hcm .cfeb2 .layer23, .hcm .cfeb2 .layer45,
    .hcm .cfeb3 .layer01, .hcm .cfeb3 .layer23, .hcm .cfeb3 .layer45, .hcm .cfeb4 .layer01,
    .hcm .cfeb4 .layer23, .hcm .cfeb4 .layer45, .cfebBadbitsCtrl]

def bootFields : List Field :=
  [.bootTdi, .bootTms, .bootTck, .bootJtagChainSelect, .bootControlJtagChain, .bootHardResetAlct,
    .bootHardResetTmb, .bootDisableHardResetAlct, .bootDisableVME, .bootDisableMezzClock,
    .bootHardResetRat, .bootVmeReady, .bootTdo]

def realDecimal (digits : BitVec 32) : BitVec 32 := (digits >>> 4) * 10 + (digits &&& 0xF)

def firmwareDay (data : BitVec 32) : BitVec 32 := realDecimal (data &&& 0xff)

def firmwareMonth (data : BitVec 32) : BitVec 32 := realDecimal ((data >>> 8) &&& 0xff)

def firmwareYear (data : BitVec 32) : BitVec 32 :=
  ((data >>> 12) &&& 0xF) * 1000 + ((data >>> 8) &&& 0xF) * 1000 + ((data >>> 4) &&& 0xF) * 10 +
    (data &&& 0xF)

def firmwareVersion (data : BitVec 32) : BitVec 32 := (data >>> 4) &&& 0xf

def firmwareType (data : BitVec 32) : BitVec 32 := data &&& 0xf

def firmwareRevcode (data : BitVec 32) : BitVec 32 := (data >>> 12) &&& 0x000f

namespace TMB

variable (tmb : TMB) (contents : Contents)

def readRegister (address : Nat) : TMB := tmb.decodeTMBRegister address (contents.data address)

def readFirmwareDate : TMB :=
  let data := contents.data vmeIdreg1Adr
  (tmb.readRegister contents vmeIdreg1Adr).assignAll
    [(.readFirmware .day, firmwareDay data), (.readFirmware .month, firmwareMonth data)]

def readFirmwareYear : TMB :=
  tmb.assignAll [(.readFirmware .year, firmwareYear (contents.data vmeIdreg2Adr))]

def readFirmwareVersion : TMB :=
  let data := contents.data vmeIdreg0Adr
  tmb.assignAll
    [(.readFirmware .type, firmwareType data), (.readFirmware .version, firmwareVersion data)]

def readFirmwareRevCode : TMB :=
  tmb.assignAll [(.readFirmware .revcode, firmwareRevcode (contents.data vmeIdreg3Adr))]

def getBootReg : TMB := tmb.assignAll (extractFields (contents.data tmbAdrBoot) bootFields)

def readRegisters (registers : List Register) : TMB :=
  registers.foldl
    (fun tmb register =>
      if register.adr = vmeUsrJtagAdr then tmb else tmb.readRegister contents register.adr) tmb

def readTMBConfiguration : TMB :=
  let tmb := tmb.readFirmwareDate contents
  let tmb := tmb.readFirmwareYear contents
  let tmb := tmb.readFirmwareVersion contents
  let tmb := tmb.readFirmwareRevCode contents
  (tmb.getBootReg contents).readRegisters contents tmbConfigurationRegister

end TMB

inductive Operand
  | member (holder : Member)
  | cfebsEnabledExpected
  | bootControlJtagChainExpected
  | allCFEBs (holder : Member)
deriving DecidableEq

def allCFEBs (block : BitVec 32) : BitVec 32 :=
  (List.range 5).foldl
    (fun returnValue cfeb => returnValue &&& (block.sshiftRight cfeb &&& 0x1)) 1

def Operand.eval (values : Member → BitVec 32) : Operand → BitVec 32
  | .member holder => values holder
  | .cfebsEnabledExpected =>
    if values (.own .cfebEnableSource) = 1 then values (.own .enableCLCTInputs)
    else values (.own .cfebsEnabled)
  | .bootControlJtagChainExpected => 0
  | .allCFEBs holder => Tmb.allCFEBs (values holder)

structure Comparison where
  typeOfTest : String
  testval : Operand
  compareval : Operand

def Comparison.equal (values : Member → BitVec 32) (comparison : Comparison) : Bool :=
  comparison.testval.eval values = comparison.compareval.eval values

def inHex (value : BitVec 32) : String := String.ofList (Nat.toDigits 16 value.toNat)

def Comparison.failure (values : Member → BitVec 32) (comparison : Comparison) : String :=
  comparison.typeOfTest ++ " FAIL -> expected value = 0x" ++
    inHex (comparison.compareval.eval values) ++ ", returned value = 0x" ++
    inHex (comparison.testval.eval values)

def same (typeOfTest : String) (field : Field) : Comparison :=
  ⟨typeOfTest, .member (.read field), .member (.own field)⟩

def comparisonsBeforeMasks : List Comparison :=
  [⟨"TMB tmb_firmware_month", .member (.readFirmware .month), .member (.firmware .month)⟩,
    ⟨"TMB tmb_firmware_day", .member (.readFirmware .day), .member (.firmware .day)⟩,
    ⟨"TMB tmb_firmware_year", .member (.readFirmware .year), .member (.firmware .year)⟩,
    ⟨"TMB tmb_firmware_version", .member (.readFirmware .version), .member (.firmware .version)⟩,
    ⟨"TMB tmb_firmware_revcode", .member (.readFirmware .revcode), .member (.firmware .revcode)⟩,
    ⟨"TMB tmb_firmware_type", .member (.readFirmware .type), .member (.firmware .type)⟩,
    ⟨"TMB Boot register control JTAG chain (not in xml)",
      .member (.read .bootControlJtagChain), .bootControlJtagChainExpected⟩,
    same "TMB enable_alct_tx" .enableAlctTx,
    same "TMB enable_alct_rx" .enableAlctRx,
    same "TMB alct_tof_delay" .alctTofDelay,
    same "TMB dmb_tx_delay" .dmbTxDelay,
    same "TMB rat_tmb_delay" .ratTmbDelay,
    same "TMB TMB1 phase (not in xml)" .tmb1Phase,
    same "TMB cfeb_tof_delay" .cfebTofDelay,
    same "TMB cfeb0_tof_delay" .cfeb0TofDelay,
    same "TMB cfeb1_tof_delay" .cfeb1TofDelay,
    same "TMB cfeb2_tof_delay" .cfeb2TofDelay,
    same "TMB cfeb3_tof_delay" .cfeb3TofDelay,
    same "TMB cfeb4_tof_delay" .cfeb4TofDelay,
    same "TMB Request CCB L1a on ALCT ext trig (not in xml)" .alctExtTrigL1aen,
    same "TMB Request CCB L1a on CLCT ext trig (not in xml)" .clctExtTrigL1aen,
    same "TMB request_l1a" .requestL1a,
    same "TMB Fire ALCT ext trig one-shot (not in xml)" .alctExtTrigVme,
    same "TMB Fire CLCT ext trig one-shot (not in xml)" .clctExtTrigVme,
    same "TMB CLCText fire ALCT + ALCText fire CLCT (not in xml)" .extTrigBoth,
    same "TMB allow CLCTextCCB when ccb_ignore_rx=1 (not in xml)" .ccbAllowBypass,
    same "TMB ignore_ccb_startstop" .ignoreCcbStartstop,
    same "TMB Internal L1A delay (not in xml)" .internalL1aDelayVme,
    same "TMB Enable alct_ext_trig from CCB (not in xml)" .cfgAlctExtTrigEn,
    same "TMB Enable alct_ext_inject from CCB (not in xml)" .cfgAlctExtInjectEn,
    same "TMB Assert alct_ext_trig (not in xml)" .cfgAlctExtTrig,
    same "TMB Assert alct_ext_inject (not in xml)" .cfgAlctExtInject,
    same "TMB ALCT sequencer command (not in xml)" .alctSeqCmd,
    same "TMB alct_clock_en_use_ccb" .alctClockEnUseCcb,
    same "TMB set alct_clock_en scsi signal if above=0 (not in xml)" .alctClockEnUseVme,
    same "TMB alct_clear" .alctClear,
    same "TMB start ALCT injector state machine (not in xml)" .alctInjectMux,
    same "TMB sync ALCT injector with CLCT (not in xml)" .alctSyncClct,
    same "TMB ALCT injector delay (not in xml)" .alctInjDelay,
    same "TMB alct_ecc_enable (not in xml)" .alctEccEn,
    same "TMB alct_ecc_error_blank (not in xml)" .alctEccErrBlank,
    same "TMB tmb_to_alct_data_delay" .alctTxdataDelay,
    same "TMB enableCLCTInputs_reg42" .enableCLCTInputs,
    same "TMB Select CFEB n for RAM read/write (not in xml)" .cfebRamSel,
    same "TMB Enable CFEB n for injector trigger (not in xml)" .cfebInjEnSel,
    same "TMB Start CLCT pattern injector (not in xml)" .startPatternInj]

def maxNumLayers : Nat := 6

def maxNumDistripsPerLayer : Nat := 40

def maskComparisons : List Comparison :=
  (List.range maxNumLayers).flatMap fun layer : Nat =>
    (List.range maxNumDistripsPerLayer).map fun distrip : Nat =>
      ⟨"TMB layer" ++ toString layer ++ "_distrip_hot_chann_mask" ++ toString distrip,
        .member (.readHotChannelMask layer distrip), .member (.hotChannelMask layer distrip)⟩

def comparisonsAfterMasks : List Comparison :=
  [same "TMB clct_pretrig_enable" .clctPatTrigEn,
    same "TMB alct_pretrig_enable" .alctPatTrigEn,
    same "TMB match_pretrig_enable" .matchPatTrigEn,
    same "TMB Allow ADB ext trig (CCB) for pretrigger (not in xml)" .adbExtTrigEn,
    same "TMB Allow DMB ext trig for pretrigger (not in xml)" .dmbExtTrigEn,
    same "TMB clct_ext_pretrig_enable" .clctExtTrigEn,
    same "TMB Allow ALCT ext trig (CCB) for pretrigger (not in xml)" .alctExtTrigEn,
    same "TMB Initiate sequencer trigger from VME (not in xml)" .vmeExtTrig,
    same "TMB Make clct_ext_trig fire pattern injector (not in xml)" .extTrigInject,
    same "TMB all_cfeb_active" .allCfebActive,
    ⟨"TMB enableCLCTInputs_reg68", .member (.read .cfebsEnabled), .cfebsEnabledExpected⟩,
    same "TMB cfeb_enable_source" .cfebEnableSource,
    same "TMB match_pretrig_window_size" .alctPretrigWidth,
    same "TMB match_pretrig_alct_delay" .alctPretrigDelay,
    same "TMB Active FEB Flag delay (not in xml)" .alctPatternDelay,
    same "TMB Delay adb_ext_trig from CCB (not in xml)" .adbExtTrigDelay,
    same "TMB clct_hit_persist" .triadPersist,
    same "TMB clct_nplanes_hit_pretrig" .hitThresh,
    same "TMB aff_thresh" .affThresh,
    same "TMB clct_nplanes_hit_pattern" .minHitsPattern,
    same "TMB clct_drift_delay" .driftDelay,
    same "TMB halt and wait (not in xml)" .pretriggerHalt,
    same "TMB tmb_fifo_mode" .fifoMode,
    same "TMB clct_fifo_tbins" .fifoTbins,
    same "TMB clct_fifo_pretrig" .fifoPretrig,
    same "TMB tmb_fifo_no_raw_hits" .fifoNoRawHits,
    same "TMB cfeb_badbits_readout" .cfebBadbitsReadout,
    ⟨"TMB tmb_l1a_delay", .member (.read .l1adelay), .member (.read .l1adelay)⟩,
    ⟨"TMB tmb_l1a_window_size", .member (.read .l1aWindowSize), .member (.read .l1aWindowSize)⟩,
    ⟨"TMB Generate internal L1a (overrides external)",
      .member (.read .tmbL1aInternal), .member (.read .tmbL1aInternal)⟩,
    same "TMB tmb_l1a_offset" .l1aOffset,
    same "TMB tmb_bxn_offset" .bxnOffset,
    same "TMB mpc_sync_err_enable" .tmbSyncErrEnable,
    same "TMB alct_trig_enable" .tmbAllowAlct,
    same "TMB clct_trig_enable" .tmbAllowClct,
    same "TMB match_trig_enable" .tmbAllowMatch,
    same "TMB mpc_rx_delay" .mpcRxDelay,
    same "TMB MPC gets TTC BX0 (not in xml)" .mpcSelTtcBx0,
    same "TMB mpc_idle_blank" .mpcIdleBlank,
    same "TMB mpc_output_enable" .mpcOutputEnable,
    same "TMB Trigger seq flush state timer (not in xml)" .clctFlushDelay,
    same "TMB write_buffer_autoclear" .wrBufferAutoclear,
    same "TMB write_continuous_enable" .clctWriteContinuousEnable,
    same "TMB write_buffer_required" .wrtBufRequired,
    same "TMB valid_clct_required" .validClctRequired,
    same "TMB l1a_allow_match" .l1aAllowMatch,
    same "TMB l1a_allow_notmb" .l1aAllowNotmb,
    same "TMB l1a_allow_nol1a" .l1aAllowNol1a,
    same "TMB l1a_allow_alct_only" .l1aAllowAlctOnly,
    same "TMB Clear scintillator veto (not in xml)" .scintVetoClr,
    same "TMB match_trig_alct_delay" .alctVpfDelay,
    same "TMB match_trig_window_size" .alctMatchWindowSize,
    same "TMB mpc_tx_delay" .mpcTxDelay,
    same "TMB rpc_exists" .rpcExists,
    same "TMB rpc_read_enable" .rpcReadEnable,
    same "TMB rpc_bxn_offset" .rpcBxnOffset,
    same "TMB RPC Bank address (for reading sync mode) (not in xml)" .rpcBank,
    same "TMB rpc0_raw_delay" .rpc0RawDelay,
    same "TMB rpc1_raw_delay" .rpc1RawDelay,
    same "TMB rpc_mask_all" .rpcMaskAll,
    same "TMB Enable RAT for injector fire (not in xml)" .injMaskRat,
    same "TMB Enable RPC inj RAM for injector fire (not in xml)" .injMaskRpc,
    same "TMB CFEB/RPC injectors wait for RAT (not in xml)" .injDelayRat,
    same "TMB Enable injector RAM write (not in xml)" .rpcInjSel,
    same "TMB rpc_fifo_tbins" .fifoTbinsRpc,
    same "TMB rpc_fifo_pretrig" .fifoPretrigRpc,
    same "TMB rpc_fifo_decouple" .rpcDecouple,
    same "TMB alct_bx0_delay" .alctBx0Delay,
    same "TMB clct_bx0_delay" .clctBx0Delay,
    same "TMB alct_bx0_enable" .alctBx0Enable,
    same "TMB bx0_vpf_test (not in xml)" .bx0VpfTest,
    same "TMB alct_readout_without_trig" .tmbAllowAlctNontrigReadout,
    same "TMB clct_readout_without_trig" .tmbAllowClctNontrigReadout,
    same "TMB match_readout_without_trig" .tmbAllowMatchNontrigReadout,
    same "TMB mpc_block_me1a" .mpcBlockMe1a,
    same "TMB csc_me11 (not in xml)" .cscMe11,
    same "TMB clct_stagger (not in xml)" .clctStagger,
    same "TMB reverse_stagger (not in xml)" .reverseStagger,
    same "TMB reverse_me1a (not in xml)" .reverseMe1a,
    same "TMB reverse_me1b (not in xml)" .reverseMe1b,
    ⟨"TMB tmb_firmware_compile_type",
      .member (.read .tmbFirmwareCompileType), .member (.own .tmbFirmwareCompileType)⟩,
    same "TMB rpc0_rat_delay" .rpc0RatDelay,
    same "TMB rpc1_rat_delay" .rpc1RatDelay,
    same "TMB layer_trig_enable" .layerTriggerEn,
    same "TMB layer_trig_thresh" .layerTrigThresh,
    same "TMB clct_throttle" .clctThrottle,
    same "TMB clct_blanking" .clctBlanking,
    same "TMB clct_pid_thresh_pretrig" .clctPatternIdThresh,
    same "TMB clct_pid_thresh_pattern" .clctPatternIdThreshPostdrift,
    same "TMB adjacent_cfeb_distance" .adjacentCfebDistance,
    same "TMB CLCT separation source is VME (not in xml)" .clctSeparationSrc,
    same "TMB clct_min_separation" .minClctSeparation,
    same "TMB Lookback distance for non-TMB readout (not in xml)" .l1aAllowNotmbLookback,
    same "TMB l1a_priority_enable" .l1aPriorityEnable,
    same "TMB miniscope_enable" .miniscopeEnable,
    same "TMB mini_tbins_test (not in xml)" .miniTbinsTest,
    same "TMB mini_tbins_word (not in xml)" .miniTbinsWord,
    same "TMB fifo_tbins_mini (not in xml)" .fifoTbinsMini,
    same "TMB fifo_pretrig_mini (not in xml)" .fifoPretrigMini,
    ⟨"TMB alct_rx_clock_delay",
      .member (.readClockDelay .alctRxd), .member (.clockDelay .alctRxd)⟩,
    ⟨"TMB alct_posneg", .member (.readPosneg .alctRxd), .member (.posneg .alctRxd)⟩,
    ⟨"TMB alct_tx_clock_delay",
      .member (.readClockDelay .alctTxd), .member (.clockDelay .alctTxd)⟩,
    ⟨"TMB alct_tx_posneg", .member (.readPosneg .alctTxd), .member (.posneg .alctTxd)⟩,
    ⟨"TMB cfeb0delay", .member (.readClockDelay .cfeb0Rxd), .member (.clockDelay .cfeb0Rxd)⟩,
    ⟨"TMB cfeb0_rx_posneg", .member (.readPosneg .cfeb0Rxd), .member (.posneg .cfeb0Rxd)⟩,
    ⟨"TMB cfeb1delay", .member (.readClockDelay .cfeb1Rxd), .member (.clockDelay .cfeb1Rxd)⟩,
    ⟨"TMB cfeb1_rx_posneg", .member (.readPosneg .cfeb1Rxd), .member (.posneg .cfeb1Rxd)⟩,
    ⟨"TMB cfeb2delay", .member (.readClockDelay .cfeb2Rxd), .member (.clockDelay .cfeb2Rxd)⟩,
    ⟨"TMB cfeb2_rx_posneg", .member (.readPosneg .cfeb2Rxd), .member (.posneg .cfeb2Rxd)⟩,
    ⟨"TMB cfeb3delay", .member (.readClockDelay .cfeb3Rxd), .member (.clockDelay .cfeb3Rxd)⟩,
    ⟨"TMB cfeb3_rx_posneg", .member (.readPosneg .cfeb3Rxd), .member (.posneg .cfeb3Rxd)⟩,
    ⟨"TMB cfeb4delay", .member (.readClockDelay .cfeb4Rxd), .member (.clockDelay .cfeb4Rxd)⟩,
    ⟨"TMB cfeb4_rx_posneg", .member (.readPosneg .cfeb4Rxd), .member (.posneg .cfeb4Rxd)⟩,
    same "TMB cfeb0_rxd_int_delay" .cfeb0RxdIntDelay,
    same "TMB cfeb1_rxd_int_delay" .cfeb1RxdIntDelay,
    same "TMB cfeb2_rxd_int_delay" .cfeb2RxdIntDelay,
    same "TMB cfeb3_rxd_int_delay" .cfeb3RxdIntDelay,
    same "TMB cfeb4_rxd_int_delay" .cfeb4RxdIntDelay,
    ⟨"TMB cfeb_badbits_block",
      .allCFEBs (.read .cfebBadbitsBlock), .allCFEBs (.own .cfebBadbitsBlock)⟩]

def comparisons : List Comparison :=
  comparisonsBeforeMasks ++ maskComparisons ++ comparisonsAfterMasks

structure Check where
  tmb : TMB
  numberOfConfigurationReads : Nat
  configOk : Bool
  printed : List String

def Check.tmbConfigurationStatus (check : Check) : BitVec 32 := if check.configOk then 1 else 0

def Check.start (tmb : TMB) : Check := ⟨tmb, 0, false, []⟩

def Check.read (check : Check) (maxNumberOfReads : Nat) (contents : Contents) : Check :=
  let numberOfConfigurationReads := check.numberOfConfigurationReads + 1
  let printErrors := decide (numberOfConfigurationReads = maxNumberOfReads - 1)
  let tmb := check.tmb.readTMBConfiguration contents
  let failures := comparisons.filter fun comparison => !comparison.equal tmb.value
  { tmb, numberOfConfigurationReads
    configOk := comparisons.all (Comparison.equal tmb.value)
    printed := check.printed ++
      if printErrors then failures.map (Comparison.failure tmb.value) else [] }

def Check.loop (contents : Nat → Contents) (maxNumberOfReads : Nat) : Nat → Check → Check
  | 0, check => check
  | turns + 1, check =>
    if !check.configOk && decide (check.numberOfConfigurationReads < maxNumberOfReads) then
      Check.loop contents maxNumberOfReads turns
        (check.read maxNumberOfReads (contents check.numberOfConfigurationReads))
    else check

/-- The check with the contents that its successive readings see; every turn of its loop reads. -/
def TMB.checkTMBConfiguration (tmb : TMB) (contents : Nat → Contents) (maxNumberOfReads : Nat) :
    Check :=
  Check.loop contents maxNumberOfReads maxNumberOfReads (.start tmb)

end EmuLib.Tmb
