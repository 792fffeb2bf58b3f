import EmuLib.Lib.BitFields
import EmuLib.Tmb.Registers

/-!
The bit fields of the TMB registers, with the constants that say where they lie.
-/

namespace EmuLib.Tmb

open BitFields

inductive Field
  | cfebOe | alctLoop | enableAlctRx | enableAlctTx | rpcLoopRat | rpcLoopTmb | dmbLoop | dmbOe
  | gtlLoop | gtlOe
  | dddStateMachineStart | dddStateMachineManual | dddStateMachineLatch | dddStateMachineSerialIn
  | dddStateMachineSerialOut | dddStateMachineAutostart | dddStateMachineBusy
  | dddStateMachineVerifyOk | dddStateMachineClock0Lock | dddStateMachineClock0dLock
  | dddStateMachineClock1Lock | dddStateMachineClockAlctLock | dddStateMachineClockdAlctLock
  | dddStateMachineClockCfebLock | dddStateMachineClockDccLock | dddStateMachineClockRpcLock
  | alctTofDelay | dmbTxDelay | ratTmbDelay
  | tmb1Phase | cfebTofDelay | cfeb0TofDelay
  | cfeb1TofDelay | cfeb2TofDelay | cfeb3TofDelay | cfeb4TofDelay
  | rpcSync | shiftRpc | ratDsnEn
  | adcVstat5p0v | adcVstat3p3v | adcVstat1p8v | adcVstat1p5v | tempNotCritical
  | voltageAdcDataOut | voltageAdcSerialClock | voltageAdcDataIn | voltageAdcChipSelect
  | temperatureAdcSerialClock | temperatureAdcSerialData
  | ignoreCcbRx | disableCcbTx | enableInternalL1a | enableAlctclctStatusToCcb
  | enableAlctStatusToCcb | enableClctStatusToCcb | fireL1aOneshot
  | alctExtTrigL1aen | clctExtTrigL1aen | requestL1a | alctExtTrigVme | clctExtTrigVme
  | extTrigBoth | ccbAllowBypass | ignoreCcbStartstop | internalL1aDelayVme
  | cfgAlctExtTrigEn | cfgAlctExtInjectEn | cfgAlctExtTrig | cfgAlctExtInject | alctSeqCmd
  | alctClockEnUseCcb | alctClockEnUseVme | alctMuonic | cfebMuonic
  | alctClear | alctInjectMux | alctSyncClct | alctInjDelay
  | alctCfgDone | alctEccEn | alctEccErrBlank | alctSyncEccErr | alctTxdataDelay
  | alct0Valid | alct0Quality | alct0Amu | alct0KeyWg | alct0Bxn
  | alct1Valid | alct1Quality | alct1Amu | alct1KeyWg | alct1Bxn
  | alctRawBusy | alctRawDone | alctRawWordCount | alctRawMsbs
  | enableCLCTInputs | cfebRamSel | cfebInjEnSel | startPatternInj
  | clctPatTrigEn | alctPatTrigEn | matchPatTrigEn | adbExtTrigEn | dmbExtTrigEn | clctExtTrigEn
  | alctExtTrigEn | vmeExtTrig | extTrigInject | allCfebActive | cfebsEnabled | cfebEnableSource
  | alctPretrigWidth | alctPretrigDelay | alctPatternDelay | adbExtTrigDelay
  | dmbExtTrigDelay | clctExtTrigDelay | alctExtTrigDelay
  | tmbSlot | cscId | runId
  | triadPersist | hitThresh | affThresh | minHitsPattern | driftDelay | pretriggerHalt
  | fifoMode | fifoTbins | fifoPretrig | fifoNoRawHits | cfebBadbitsReadout
  | l1adelay | l1aWindowSize | tmbL1aInternal
  | l1aOffset | bxnOffset
  | clct0Valid | clct0Nhit | clct0Pattern | clct0KeyHalfStrip
  | clct1Valid | clct1Nhit | clct1Pattern | clct1KeyHalfStrip
  | tmbSyncErrEnable | tmbAllowAlct | tmbAllowClct | tmbAllowMatch | mpcRxDelay | mpcAccept
  | mpcReserved | mpcSelTtcBx0 | mpcIdleBlank | mpcOutputEnable
  | scopeInReadout
  | alctRawReset | alctRawReadAddress | alctDemuxMode
  | alctRawLsbs
  | clctFlushDelay | wrBufferAutoclear | clctWriteContinuousEnable | wrtBufRequired
  | validClctRequired | l1aAllowMatch | l1aAllowNotmb | l1aAllowNol1a | l1aAllowAlctOnly
  | scintVetoClr | scintVetoVme
  | clctStateMachine | readoutStateMachine | bufferQueueFull | bufferQueueEmpty
  | bufferQueueOverflow | bufferQueueUnderflow
  | clctBxn | clctSyncErr
  | alctVpfDelay | alctMatchWindowSize | mpcTxDelay
  | rpcExists | rpcReadEnable | rpcBxnOffset | rpcBank | rpcRbxn | rpcDone
  | rpc0RawDelay | rpc1RawDelay
  | rpcMaskAll | injMaskRat | injMaskRpc | injDelayRat | rpcInjSel | rpcInjWdata | rpcInjRdata
  | fifoTbinsRpc | fifoPretrigRpc | rpcDecouple
  | alctBx0Delay | clctBx0Delay | alctBx0Enable | bx0VpfTest | bx0Match
  | tmbAllowAlctNontrigReadout | tmbAllowClctNontrigReadout | tmbAllowMatchNontrigReadout
  | mpcBlockMe1a | clctPretriggerCounterNonMe11 | cscMe11 | clctStagger | reverseStagger
  | reverseMe1a | reverseMe1b | tmbFirmwareCompileType
  | jtagStateMachineStart | jtagStateMachineSreset | jtagStateMachineAutostart
  | jtagStateMachineBusy | jtagStateMachineAborted | jtagStateMachineCksumOk
  | jtagStateMachineWdcntOk | jtagStateMachineTckFpgaOk | jtagStateMachineVmeReady
  | jtagStateMachineOk | jtagStateMachineOe | jtagDisableWriteToAdr10 | jtagStateMachineThrottle
  | jtagStateMachineWordCount
  | jtagStateMachineCheckSum | jtagStateMachineTckFpga
  | vmeStateMachineStart | vmeStateMachineSreset | vmeStateMachineAutostart | vmeStateMachineBusy
  | vmeStateMachineAborted | vmeStateMachineCksumOk | vmeStateMachineWdcntOk
  | vmeStateMachineJtagAuto | vmeStateMachineVmeReady | vmeStateMachineOk | vmeStateMachinePathOk
  | phaseShifterAuto | vmeStateMachineThrottle
  | vmeStateMachineWordCount
  | vmeStateMachineCheckSum | vmeStateMachineErrorMissingHeaderStart
  | vmeStateMachineErrorMissingHeaderEnd | vmeStateMachineErrorMissingDataEndMarker
  | vmeStateMachineErrorMissingTrailerEnd | vmeStateMachineErrorWordCountOverflow
  | vmeStateMachineNumberOfVmeWrites
  | rpc0RatDelay | rpc1RatDelay
  | bdstatusOk | vstat5p0v | vstat3p3v | vstat1p8v | vstat1p5v | ntCrit | vsmOk | vsmAborted
  | vsmCksumOk | vsmWdcntOk | jsmOk | jsmAborted | jsmCksumOk | jsmWdcntOk | jsmTckFpgaOk
  | layerTriggerEn | layerTrigThresh | numberLayersHit | clctThrottle
  | clctBlanking | clctPatternIdThresh | clctPatternIdThreshPostdrift | adjacentCfebDistance
  | clctSeparationSrc | clctSeparationRamWriteEnable | clctSeparationRamAdr | minClctSeparation
  | ccbTtcrxLockNever | ccbTtcrxLostEver | ccbQpllLockNever | ccbQpllLostEver
  | l1aAllowNotmbLookback | injWrdataMsb | injRdataMsb | l1aPriorityEnable
  | alctSyncRxdataDly | alctSyncTxRandom | alctSyncClearErrors | alctSync1stError
  | alctSync2ndError | alctSync1stErrorLatched | alctSync2ndErrorLatched
  | alctSyncTxdata1st
  | alctSyncTxdata2nd
  | miniscopeEnable | miniTbinsTest | miniTbinsWord | fifoTbinsMini | fifoPretrigMini
  | firePhaser | resetPhase | phaserBusy | digitalClockManagerLocked | phaseShifterState
  | phaserPosneg | phaseValueWithinQuadrant | quarterCycleQuadrantSelect
  | halfCycleQuadrantSelect
  | cfeb0RxdIntDelay | cfeb1RxdIntDelay | cfeb2RxdIntDelay | cfeb3RxdIntDelay
  | cfeb4RxdIntDelay
  | syncErrReset | clctBx0SyncErrEnable | alctEccRxSyncErrEnable | alctEccTxSyncErrEnable
  | bx0MatchSyncErrEnable | clockLockLostSyncErrEnable | syncErrBlanksMpcEnable
  | syncErrStopsPretrigEnable | syncErrStopsReadoutEnable | syncErr | clctBx0SyncErr
  | alctEccRxSyncErr | alctEccTxSyncErr | bx0MatchSyncErr | clockLockLostSyncErr
  | cfebBadbitsReset | cfebBadbitsBlock | cfebBadbitsFound | cfebBadbitsBlocked
  | cfebBadbitsNbx
  | bootTdi | bootTms | bootTck | bootJtagChainSelect | bootControlJtagChain | bootHardResetAlct
  | bootHardResetTmb | bootDisableHardResetAlct | bootDisableVME | bootDisableMezzClock
  | bootHardResetRat | bootVmeReady | bootTdo
deriving DecidableEq, Repr

def tmbAdrBoot : Nat := 0x700000

namespace Field

def bits : Field → BitField
  | .cfebOe => ⟨0, 0⟩ | .alctLoop => ⟨1, 1⟩ | .enableAlctRx => ⟨2, 2⟩ | .enableAlctTx => ⟨3, 3⟩
  | .rpcLoopRat => ⟨4, 4⟩ | .rpcLoopTmb => ⟨5, 5⟩ | .dmbLoop => ⟨6, 6⟩ | .dmbOe => ⟨7, 7⟩
  | .gtlLoop => ⟨8, 8⟩ | .gtlOe => ⟨9, 9⟩
  | .dddStateMachineStart => ⟨0, 0⟩ | .dddStateMachineManual => ⟨1, 1⟩
  | .dddStateMachineLatch => ⟨2, 2⟩ | .dddStateMachineSerialIn => ⟨3, 3⟩
  | .dddStateMachineSerialOut => ⟨4, 4⟩ | .dddStateMachineAutostart => ⟨5, 5⟩
  | .dddStateMachineBusy => ⟨6, 6⟩ | .dddStateMachineVerifyOk => ⟨7, 7⟩
  | .dddStateMachineClock0Lock => ⟨8, 8⟩ | .dddStateMachineClock0dLock => ⟨9, 9⟩
  | .dddStateMachineClock1Lock => ⟨10, 10⟩ | .dddStateMachineClockAlctLock => ⟨11, 11⟩
  | .dddStateMachineClockdAlctLock => ⟨12, 12⟩ | .dddStateMachineClockCfebLock => ⟨13, 13⟩
  | .dddStateMachineClockDccLock => ⟨14, 14⟩ | .dddStateMachineClockRpcLock => ⟨15, 15⟩
  | .alctTofDelay => ⟨0, 3⟩ | .dmbTxDelay => ⟨8, 11⟩ | .ratTmbDelay => ⟨12, 15⟩
  | .tmb1Phase => ⟨4, 7⟩ | .cfebTofDelay => ⟨8, 11⟩ | .cfeb0TofDelay => ⟨12, 15⟩
  | .cfeb1TofDelay => ⟨0, 3⟩ | .cfeb2TofDelay => ⟨4, 7⟩ | .cfeb3TofDelay => ⟨8, 11⟩
  | .cfeb4TofDelay => ⟨12, 15⟩
  | .rpcSync => ⟨0, 0⟩ | .shiftRpc => ⟨1, 1⟩ | .ratDsnEn => ⟨4, 4⟩
  | .adcVstat5p0v => ⟨0, 0⟩ | .adcVstat3p3v => ⟨1, 1⟩ | .adcVstat1p8v => ⟨2, 2⟩
  | .adcVstat1p5v => ⟨3, 3⟩ | .tempNotCritical => ⟨4, 4⟩ | .voltageAdcDataOut => ⟨5, 5⟩
  | .voltageAdcSerialClock => ⟨6, 6⟩ | .voltageAdcDataIn => ⟨7, 7⟩
  | .voltageAdcChipSelect => ⟨8, 8⟩ | .temperatureAdcSerialClock => ⟨9, 9⟩
  | .temperatureAdcSerialData => ⟨10, 10⟩
  | .ignoreCcbRx => ⟨0, 0⟩ | .disableCcbTx => ⟨1, 1⟩ | .enableInternalL1a => ⟨2, 2⟩
  | .enableAlctclctStatusToCcb => ⟨3, 3⟩ | .enableAlctStatusToCcb => ⟨4, 4⟩
  | .enableClctStatusToCcb => ⟨5, 5⟩ | .fireL1aOneshot => ⟨6, 6⟩
  | .alctExtTrigL1aen => ⟨0, 0⟩ | .clctExtTrigL1aen => ⟨1, 1⟩ | .requestL1a => ⟨2, 2⟩
  | .alctExtTrigVme => ⟨3, 3⟩ | .clctExtTrigVme => ⟨4, 4⟩ | .extTrigBoth => ⟨5, 5⟩
  | .ccbAllowBypass => ⟨6, 6⟩ | .ignoreCcbStartstop => ⟨7, 7⟩ | .internalL1aDelayVme => ⟨8, 15⟩
  | .cfgAlctExtTrigEn => ⟨0, 0⟩ | .cfgAlctExtInjectEn => ⟨1, 1⟩ | .cfgAlctExtTrig => ⟨2, 2⟩
  | .cfgAlctExtInject => ⟨3, 3⟩ | .alctSeqCmd => ⟨4, 7⟩ | .alctClockEnUseCcb => ⟨8, 8⟩
  | .alctClockEnUseVme => ⟨9, 9⟩ | .alctMuonic => ⟨10, 10⟩ | .cfebMuonic => ⟨11, 11⟩
  | .alctClear => ⟨0, 0⟩ | .alctInjectMux => ⟨1, 1⟩ | .alctSyncClct => ⟨2, 2⟩
  | .alctInjDelay => ⟨3, 7⟩
  | .alctCfgDone => ⟨0, 0⟩ | .alctEccEn => ⟨1, 1⟩ | .alctEccErrBlank => ⟨2, 2⟩
  | .alctSyncEccErr => ⟨3, 4⟩ | .alctTxdataDelay => ⟨12, 15⟩
  | .alct0Valid => ⟨0, 0⟩ | .alct0Quality => ⟨1, 2⟩ | .alct0Amu => ⟨3, 3⟩
  | .alct0KeyWg => ⟨4, 10⟩ | .alct0Bxn => ⟨11, 12⟩
  | .alct1Valid => ⟨0, 0⟩ | .alct1Quality => ⟨1, 2⟩ | .alct1Amu => ⟨3, 3⟩
  | .alct1KeyWg => ⟨4, 10⟩ | .alct1Bxn => ⟨11, 12⟩
  | .alctRawBusy => ⟨0, 0⟩ | .alctRawDone => ⟨1, 1⟩ | .alctRawWordCount => ⟨2, 12⟩
  | .alctRawMsbs => ⟨13, 14⟩
  | .enableCLCTInputs => ⟨0, 4⟩ | .cfebRamSel => ⟨5, 9⟩ | .cfebInjEnSel => ⟨10, 14⟩
  | .startPatternInj => ⟨15, 15⟩
  | .clctPatTrigEn => ⟨0, 0⟩ | .alctPatTrigEn => ⟨1, 1⟩ | .matchPatTrigEn => ⟨2, 2⟩
  | .adbExtTrigEn => ⟨3, 3⟩ | .dmbExtTrigEn => ⟨4, 4⟩ | .clctExtTrigEn => ⟨5, 5⟩
  | .alctExtTrigEn => ⟨6, 6⟩ | .vmeExtTrig => ⟨7, 7⟩ | .extTrigInject => ⟨8, 8⟩
  | .allCfebActive => ⟨9, 9⟩ | .cfebsEnabled => ⟨10, 14⟩ | .cfebEnableSource => ⟨15, 15⟩
  | .alctPretrigWidth => ⟨0, 3⟩ | .alctPretrigDelay => ⟨4, 7⟩ | .alctPatternDelay => ⟨8, 11⟩
  | .adbExtTrigDelay => ⟨12, 15⟩
  | .dmbExtTrigDelay => ⟨0, 3⟩ | .clctExtTrigDelay => ⟨4, 7⟩ | .alctExtTrigDelay => ⟨8, 11⟩
  | .tmbSlot => ⟨0, 4⟩ | .cscId => ⟨5, 8⟩ | .runId => ⟨9, 12⟩
  | .triadPersist => ⟨0, 3⟩ | .hitThresh => ⟨4, 6⟩ | .affThresh => ⟨7, 9⟩
  | .minHitsPattern => ⟨10, 12⟩ | .driftDelay => ⟨13, 14⟩ | .pretriggerHalt => ⟨15, 15⟩
  | .fifoMode => ⟨0, 2⟩ | .fifoTbins => ⟨3, 7⟩ | .fifoPretrig => ⟨8, 12⟩
  | .fifoNoRawHits => ⟨13, 13⟩ | .cfebBadbitsReadout => ⟨15, 15⟩
  | .l1adelay => ⟨0, 7⟩ | .l1aWindowSize => ⟨8, 11⟩ | .tmbL1aInternal => ⟨12, 12⟩
  | .l1aOffset => ⟨0, 3⟩ | .bxnOffset => ⟨4, 15⟩
  | .clct0Valid => ⟨0, 0⟩ | .clct0Nhit => ⟨1, 3⟩ | .clct0Pattern => ⟨4, 7⟩
  | .clct0KeyHalfStrip => ⟨8, 15⟩
  | .clct1Valid => ⟨0, 0⟩ | .clct1Nhit => ⟨1, 3⟩ | .clct1Pattern => ⟨4, 7⟩
  | .clct1KeyHalfStrip => ⟨8, 15⟩
  | .tmbSyncErrEnable => ⟨0, 1⟩ | .tmbAllowAlct => ⟨2, 2⟩ | .tmbAllowClct => ⟨3, 3⟩
  | .tmbAllowMatch => ⟨4, 4⟩ | .mpcRxDelay => ⟨5, 8⟩ | .mpcAccept => ⟨9, 10⟩
  | .mpcReserved => ⟨11, 12⟩ | .mpcSelTtcBx0 => ⟨13, 13⟩ | .mpcIdleBlank => ⟨14, 14⟩
  | .mpcOutputEnable => ⟨15, 15⟩
  | .scopeInReadout => ⟨3, 3⟩
  | .alctRawReset => ⟨0, 0⟩ | .alctRawReadAddress => ⟨1, 11⟩ | .alctDemuxMode => ⟨13, 13⟩
  | .alctRawLsbs => ⟨0, 15⟩
  | .clctFlushDelay => ⟨0, 3⟩ | .wrBufferAutoclear => ⟨4, 4⟩
  | .clctWriteContinuousEnable => ⟨5, 5⟩ | .wrtBufRequired => ⟨6, 6⟩
  | .validClctRequired => ⟨7, 7⟩ | .l1aAllowMatch => ⟨8, 8⟩ | .l1aAllowNotmb => ⟨9, 9⟩
  | .l1aAllowNol1a => ⟨10, 10⟩ | .l1aAllowAlctOnly => ⟨11, 11⟩ | .scintVetoClr => ⟨12, 12⟩
  | .scintVetoVme => ⟨13, 13⟩
  | .clctStateMachine => ⟨0, 2⟩ | .readoutStateMachine => ⟨3, 7⟩ | .bufferQueueFull => ⟨8, 8⟩
  | .bufferQueueEmpty => ⟨9, 9⟩ | .bufferQueueOverflow => ⟨10, 10⟩
  | .bufferQueueUnderflow => ⟨11, 11⟩
  | .clctBxn => ⟨0, 1⟩ | .clctSyncErr => ⟨2, 2⟩
  | .alctVpfDelay => ⟨0, 3⟩ | .alctMatchWindowSize => ⟨4, 7⟩ | .mpcTxDelay => ⟨8, 11⟩
  | .rpcExists => ⟨0, 1⟩ | .rpcReadEnable => ⟨4, 4⟩ | .rpcBxnOffset => ⟨5, 8⟩
  | .rpcBank => ⟨9, 10⟩ | .rpcRbxn => ⟨11, 13⟩ | .rpcDone => ⟨14, 14⟩
  | .rpc0RawDelay => ⟨0, 3⟩ | .rpc1RawDelay => ⟨4, 7⟩
  | .rpcMaskAll => ⟨0, 0⟩ | .injMaskRat => ⟨1, 1⟩ | .injMaskRpc => ⟨2, 2⟩
  | .injDelayRat => ⟨3, 6⟩ | .rpcInjSel => ⟨7, 7⟩ | .rpcInjWdata => ⟨8, 10⟩
  | .rpcInjRdata => ⟨11, 13⟩
  | .fifoTbinsRpc => ⟨0, 4⟩ | .fifoPretrigRpc => ⟨5, 9⟩ | .rpcDecouple => ⟨10, 10⟩
  | .alctBx0Delay => ⟨0, 3⟩ | .clctBx0Delay => ⟨4, 7⟩ | .alctBx0Enable => ⟨8, 8⟩
  | .bx0VpfTest => ⟨9, 9⟩ | .bx0Match => ⟨10, 10⟩
  | .tmbAllowAlctNontrigReadout => ⟨0, 0⟩ | .tmbAllowClctNontrigReadout => ⟨1, 1⟩
  | .tmbAllowMatchNontrigReadout => ⟨2, 2⟩ | .mpcBlockMe1a => ⟨3, 3⟩
  | .clctPretriggerCounterNonMe11 => ⟨4, 4⟩ | .cscMe11 => ⟨5, 5⟩ | .clctStagger => ⟨6, 6⟩
  | .reverseStagger => ⟨7, 7⟩ | .reverseMe1a => ⟨8, 8⟩ | .reverseMe1b => ⟨9, 9⟩
  | .tmbFirmwareCompileType => ⟨12, 15⟩
  | .jtagStateMachineStart => ⟨0, 0⟩ | .jtagStateMachineSreset => ⟨1, 1⟩
  | .jtagStateMachineAutostart => ⟨2, 2⟩ | .jtagStateMachineBusy => ⟨3, 3⟩
  | .jtagStateMachineAborted => ⟨4, 4⟩ | .jtagStateMachineCksumOk => ⟨5, 5⟩
  | .jtagStateMachineWdcntOk => ⟨6, 6⟩ | .jtagStateMachineTckFpgaOk => ⟨7, 7⟩
  | .jtagStateMachineVmeReady => ⟨8, 8⟩ | .jtagStateMachineOk => ⟨9, 9⟩
  | .jtagStateMachineOe => ⟨10, 10⟩ | .jtagDisableWriteToAdr10 => ⟨11, 11⟩
  | .jtagStateMachineThrottle => ⟨12, 15⟩
  | .jtagStateMachineWordCount => ⟨0, 15⟩
  | .jtagStateMachineCheckSum => ⟨0, 7⟩ | .jtagStateMachineTckFpga => ⟨8, 11⟩
  | .vmeStateMachineStart => ⟨0, 0⟩ | .vmeStateMachineSreset => ⟨1, 1⟩
  | .vmeStateMachineAutostart => ⟨2, 2⟩ | .vmeStateMachineBusy => ⟨3, 3⟩
  | .vmeStateMachineAborted => ⟨4, 4⟩ | .vmeStateMachineCksumOk => ⟨5, 5⟩
  | .vmeStateMachineWdcntOk => ⟨6, 6⟩ | .vmeStateMachineJtagAuto => ⟨7, 7⟩
  | .vmeStateMachineVmeReady => ⟨8, 8⟩ | .vmeStateMachineOk => ⟨9, 9⟩
  | .vmeStateMachinePathOk => ⟨10, 10⟩ | .phaseShifterAuto => ⟨11, 11⟩
  | .vmeStateMachineThrottle => ⟨12, 15⟩
  | .vmeStateMachineWordCount => ⟨0, 15⟩
  | .vmeStateMachineCheckSum => ⟨0, 7⟩ | .vmeStateMachineErrorMissingHeaderStart => ⟨8, 8⟩
  | .vmeStateMachineErrorMissingHeaderEnd => ⟨9, 9⟩
  | .vmeStateMachineErrorMissingDataEndMarker => ⟨10, 10⟩
  | .vmeStateMachineErrorMissingTrailerEnd => ⟨11, 11⟩
  | .vmeStateMachineErrorWordCountOverflow => ⟨12, 12⟩
  | .vmeStateMachineNumberOfVmeWrites => ⟨0, 15⟩
  | .rpc0RatDelay => ⟨0, 3⟩ | .rpc1RatDelay => ⟨4, 7⟩
  | .bdstatusOk => ⟨0, 0⟩ | .vstat5p0v => ⟨1, 1⟩ | .vstat3p3v => ⟨2, 2⟩ | .vstat1p8v => ⟨3, 3⟩
  | .vstat1p5v => ⟨4, 4⟩ | .ntCrit => ⟨5, 5⟩ | .vsmOk => ⟨6, 6⟩ | .vsmAborted => ⟨7, 7⟩
  | .vsmCksumOk => ⟨8, 8⟩ | .vsmWdcntOk => ⟨9, 9⟩ | .jsmOk => ⟨10, 10⟩ | .jsmAborted => ⟨11, 11⟩
  | .jsmCksumOk => ⟨12, 12⟩ | .jsmWdcntOk => ⟨13, 13⟩ | .jsmTckFpgaOk => ⟨14, 14⟩
  | .layerTriggerEn => ⟨0, 0⟩ | .layerTrigThresh => ⟨1, 3⟩ | .numberLayersHit => ⟨4, 6⟩
  | .clctThrottle => ⟨8, 15⟩
  | .clctBlanking => ⟨0, 0⟩ | .clctPatternIdThresh => ⟨2, 5⟩
  | .clctPatternIdThreshPostdrift => ⟨6, 9⟩ | .adjacentCfebDistance => ⟨10, 15⟩
  | .clctSeparationSrc => ⟨0, 0⟩ | .clctSeparationRamWriteEnable => ⟨1, 1⟩
  | .clctSeparationRamAdr => ⟨2, 5⟩ | .minClctSeparation => ⟨8, 15⟩
  | .ccbTtcrxLockNever => ⟨0, 0⟩ | .ccbTtcrxLostEver => ⟨1, 1⟩ | .ccbQpllLockNever => ⟨2, 2⟩
  | .ccbQpllLostEver => ⟨3, 3⟩
  | .l1aAllowNotmbLookback => ⟨0, 10⟩ | .injWrdataMsb => ⟨11, 12⟩ | .injRdataMsb => ⟨13, 14⟩
  | .l1aPriorityEnable => ⟨15, 15⟩
  | .alctSyncRxdataDly => ⟨0, 3⟩ | .alctSyncTxRandom => ⟨4, 4⟩ | .alctSyncClearErrors => ⟨5, 5⟩
  | .alctSync1stError => ⟨6, 6⟩ | .alctSync2ndError => ⟨7, 7⟩
  | .alctSync1stErrorLatched => ⟨8, 8⟩ | .alctSync2ndErrorLatched => ⟨9, 9⟩
  | .alctSyncTxdata1st => ⟨0, 9⟩
  | .alctSyncTxdata2nd => ⟨0, 9⟩
  | .miniscopeEnable => ⟨0, 0⟩ | .miniTbinsTest => ⟨1, 1⟩ | .miniTbinsWord => ⟨2, 2⟩
  | .fifoTbinsMini => ⟨3, 7⟩ | .fifoPretrigMini => ⟨8, 12⟩
  | .firePhaser => ⟨0, 0⟩ | .resetPhase => ⟨1, 1⟩ | .phaserBusy => ⟨2, 2⟩
  | .digitalClockManagerLocked => ⟨3, 3⟩ | .phaseShifterState => ⟨4, 6⟩ | .phaserPosneg => ⟨7, 7⟩
  | .phaseValueWithinQuadrant => ⟨8, 13⟩ | .quarterCycleQuadrantSelect => ⟨14, 14⟩
  | .halfCycleQuadrantSelect => ⟨15, 15⟩
  | .cfeb0RxdIntDelay => ⟨0, 3⟩ | .cfeb1RxdIntDelay => ⟨4, 7⟩ | .cfeb2RxdIntDelay => ⟨8, 11⟩
  | .cfeb3RxdIntDelay => ⟨12, 15⟩
  | .cfeb4RxdIntDelay => ⟨0, 3⟩
  | .syncErrReset => ⟨0, 0⟩ | .clctBx0SyncErrEnable => ⟨1, 1⟩ | .alctEccRxSyncErrEnable => ⟨2, 2⟩
  | .alctEccTxSyncErrEnable => ⟨3, 3⟩ | .bx0MatchSyncErrEnable => ⟨4, 4⟩
  | .clockLockLostSyncErrEnable => ⟨5, 5⟩ | .syncErrBlanksMpcEnable => ⟨6, 6⟩
  | .syncErrStopsPretrigEnable => ⟨7, 7⟩ | .syncErrStopsReadoutEnable => ⟨8, 8⟩
  | .syncErr => ⟨9, 9⟩ | .clctBx0SyncErr => ⟨10, 10⟩ | .alctEccRxSyncErr => ⟨11, 11⟩
  | .alctEccTxSyncErr => ⟨12, 12⟩ | .bx0MatchSyncErr => ⟨13, 13⟩
  | .clockLockLostSyncErr => ⟨14, 14⟩
  | .cfebBadbitsReset => ⟨0, 4⟩ | .cfebBadbitsBlock => ⟨5, 9⟩ | .cfebBadbitsFound => ⟨10, 14⟩
  | .cfebBadbitsBlocked => ⟨15, 15⟩
  | .cfebBadbitsNbx => ⟨0, 15⟩
  | .bootTdi => ⟨0, 0⟩ | .bootTms => ⟨1, 1⟩ | .bootTck => ⟨2, 2⟩ | .bootJtagChainSelect => ⟨3, 6⟩
  | .bootControlJtagChain => ⟨7, 7⟩ | .bootHardResetAlct => ⟨8, 8⟩ | .bootHardResetTmb => ⟨9, 9⟩
  | .bootDisableHardResetAlct => ⟨10, 10⟩ | .bootDisableVME => ⟨11, 11⟩
  | .bootDisableMezzClock => ⟨12, 12⟩ | .bootHardResetRat => ⟨13, 13⟩ | .bootVmeReady => ⟨14, 14⟩
  | .bootTdo => ⟨15, 15⟩

/-- The register that `x_vmereg` names; the fields that all phase shifters have name none. -/
def vmereg : Field → Option Nat
  | .cfebOe | .alctLoop | .enableAlctRx | .enableAlctTx | .rpcLoopRat | .rpcLoopTmb | .dmbLoop
  | .dmbOe | .gtlLoop | .gtlOe => some Register.vmeLoopbk.adr
  | .dddStateMachineStart | .dddStateMachineManual | .dddStateMachineLatch
  | .dddStateMachineSerialIn | .dddStateMachineSerialOut | .dddStateMachineAutostart
  | .dddStateMachineBusy | .dddStateMachineVerifyOk | .dddStateMachineClock0Lock
  | .dddStateMachineClock0dLock | .dddStateMachineClock1Lock | .dddStateMachineClockAlctLock
  | .dddStateMachineClockdAlctLock | .dddStateMachineClockCfebLock | .dddStateMachineClockDccLock
  | .dddStateMachineClockRpcLock => some Register.vmeDddsm.adr
  | .alctTofDelay | .dmbTxDelay | .ratTmbDelay => some Register.vmeDdd0.adr
  | .tmb1Phase | .cfebTofDelay | .cfeb0TofDelay => some Register.vmeDdd1.adr
  | .cfeb1TofDelay | .cfeb2TofDelay | .cfeb3TofDelay | .cfeb4TofDelay => some Register.vmeDdd2.adr
  | .rpcSync | .shiftRpc | .ratDsnEn => some Register.vmeRatctrl.adr
  | .adcVstat5p0v | .adcVstat3p3v | .adcVstat1p8v | .adcVstat1p5v | .tempNotCritical
  | .voltageAdcDataOut | .voltageAdcSerialClock | .voltageAdcDataIn | .voltageAdcChipSelect
  | .temperatureAdcSerialClock | .temperatureAdcSerialData => some Register.vmeAdc.adr
  | .ignoreCcbRx | .disableCcbTx | .enableInternalL1a | .enableAlctclctStatusToCcb
  | .enableAlctStatusToCcb | .enableClctStatusToCcb | .fireL1aOneshot => some Register.ccbCfg.adr
  | .alctExtTrigL1aen | .clctExtTrigL1aen | .requestL1a | .alctExtTrigVme | .clctExtTrigVme
  | .extTrigBoth | .ccbAllowBypass | .ignoreCcbStartstop | .internalL1aDelayVme =>
    some Register.ccbTrig.adr
  | .cfgAlctExtTrigEn | .cfgAlctExtInjectEn | .cfgAlctExtTrig | .cfgAlctExtInject | .alctSeqCmd
  | .alctClockEnUseCcb | .alctClockEnUseVme | .alctMuonic | .cfebMuonic =>
    some Register.alctCfg.adr
  | .alctClear | .alctInjectMux | .alctSyncClct | .alctInjDelay => some Register.alctInj.adr
  | .alctCfgDone | .alctEccEn | .alctEccErrBlank | .alctSyncEccErr | .alctTxdataDelay =>
    some Register.alctStat.adr
  | .alct0Valid | .alct0Quality | .alct0Amu | .alct0KeyWg | .alct0Bxn =>
    some Register.alctAlct0.adr
  | .alct1Valid | .alct1Quality | .alct1Amu | .alct1KeyWg | .alct1Bxn =>
    some Register.alctAlct1.adr
  | .alctRawBusy | .alctRawDone | .alctRawWordCount | .alctRawMsbs => some Register.alctFifo.adr
  | .enableCLCTInputs | .cfebRamSel | .cfebInjEnSel | .startPatternInj =>
    some Register.cfebInj.adr
  | .clctPatTrigEn | .alctPatTrigEn | .matchPatTrigEn | .adbExtTrigEn | .dmbExtTrigEn
  | .clctExtTrigEn | .alctExtTrigEn | .vmeExtTrig | .extTrigInject | .allCfebActive
  | .cfebsEnabled | .cfebEnableSource => some Register.seqTrigEn.adr
  | .alctPretrigWidth | .alctPretrigDelay | .alctPatternDelay | .adbExtTrigDelay =>
    some Register.seqTrigDly0.adr
  | .dmbExtTrigDelay | .clctExtTrigDelay | .alctExtTrigDelay => some Register.seqTrigDly1.adr
  | .tmbSlot | .cscId | .runId => some Register.seqId.adr
  | .triadPersist | .hitThresh | .affThresh | .minHitsPattern | .driftDelay | .pretriggerHalt =>
    some Register.seqClct.adr
  | .fifoMode | .fifoTbins | .fifoPretrig | .fifoNoRawHits | .cfebBadbitsReadout =>
    some Register.seqFifo.adr
  | .l1adelay | .l1aWindowSize | .tmbL1aInternal => some Register.seqL1a.adr
  | .l1aOffset | .bxnOffset => some Register.seqOffset.adr
  | .clct0Valid | .clct0Nhit | .clct0Pattern | .clct0KeyHalfStrip => some Register.seqClct0.adr
  | .clct1Valid | .clct1Nhit | .clct1Pattern | .clct1KeyHalfStrip => some Register.seqClct1.adr
  | .tmbSyncErrEnable | .tmbAllowAlct | .tmbAllowClct | .tmbAllowMatch | .mpcRxDelay | .mpcAccept
  | .mpcReserved | .mpcSelTtcBx0 | .mpcIdleBlank | .mpcOutputEnable => some Register.tmbTrig.adr
  | .scopeInReadout => some Register.scpCtrl.adr
  | .alctRawReset | .alctRawReadAddress | .alctDemuxMode => some Register.alctfifo1.adr
  | .alctRawLsbs => some Register.alctfifo2.adr
  | .clctFlushDelay | .wrBufferAutoclear | .clctWriteContinuousEnable | .wrtBufRequired
  | .validClctRequired | .l1aAllowMatch | .l1aAllowNotmb | .l1aAllowNol1a | .l1aAllowAlctOnly
  | .scintVetoClr | .scintVetoVme => some Register.seqmod.adr
  | .clctStateMachine | .readoutStateMachine | .bufferQueueFull | .bufferQueueEmpty
  | .bufferQueueOverflow | .bufferQueueUnderflow => some Register.seqsm.adr
  | .clctBxn | .clctSyncErr => some Register.seqClctm.adr
  | .alctVpfDelay | .alctMatchWindowSize | .mpcTxDelay => some Register.tmbtim.adr
  | .rpcExists | .rpcReadEnable | .rpcBxnOffset | .rpcBank | .rpcRbxn | .rpcDone =>
    some Register.rpcCfg.adr
  | .rpc0RawDelay | .rpc1RawDelay => some Register.rpcRawDelay.adr
  | .rpcMaskAll | .injMaskRat | .injMaskRpc | .injDelayRat | .rpcInjSel | .rpcInjWdata
  | .rpcInjRdata => some Register.rpcInj.adr
  | .fifoTbinsRpc | .fifoPretrigRpc | .rpcDecouple => some Register.rpcTbins.adr
  | .alctBx0Delay | .clctBx0Delay | .alctBx0Enable | .bx0VpfTest | .bx0Match =>
    some Register.bx0Delay.adr
  | .tmbAllowAlctNontrigReadout | .tmbAllowClctNontrigReadout | .tmbAllowMatchNontrigReadout
  | .mpcBlockMe1a | .clctPretriggerCounterNonMe11 | .cscMe11 | .clctStagger | .reverseStagger
  | .reverseMe1a | .reverseMe1b | .tmbFirmwareCompileType => some Register.nonTrigReadout.adr
  | .jtagStateMachineStart | .jtagStateMachineSreset | .jtagStateMachineAutostart
  | .jtagStateMachineBusy | .jtagStateMachineAborted | .jtagStateMachineCksumOk
  | .jtagStateMachineWdcntOk | .jtagStateMachineTckFpgaOk | .jtagStateMachineVmeReady
  | .jtagStateMachineOk | .jtagStateMachineOe | .jtagDisableWriteToAdr10
  | .jtagStateMachineThrottle => some Register.jtagSmCtrl.adr
  | .jtagStateMachineWordCount => some Register.jtagSmWdcnt.adr
  | .jtagStateMachineCheckSum | .jtagStateMachineTckFpga => some Register.jtagSmCksum.adr
  | .vmeStateMachineStart | .vmeStateMachineSreset | .vmeStateMachineAutostart
  | .vmeStateMachineBusy | .vmeStateMachineAborted | .vmeStateMachineCksumOk
  | .vmeStateMachineWdcntOk | .vmeStateMachineJtagAuto | .vmeStateMachineVmeReady
  | .vmeStateMachineOk | .vmeStateMachinePathOk | .phaseShifterAuto | .vmeStateMachineThrottle =>
    some Register.vmeSmCtrl.adr
  | .vmeStateMachineWordCount => some Register.vmeSmWdcnt.adr
  | .vmeStateMachineCheckSum | .vmeStateMachineErrorMissingHeaderStart
  | .vmeStateMachineErrorMissingHeaderEnd | .vmeStateMachineErrorMissingDataEndMarker
  | .vmeStateMachineErrorMissingTrailerEnd | .vmeStateMachineErrorWordCountOverflow =>
    some Register.vmeSmCksum.adr
  | .vmeStateMachineNumberOfVmeWrites => some Register.numVmeSmAdr.adr
  | .rpc0RatDelay | .rpc1RatDelay => some Register.rat3dDelays.adr
  | .bdstatusOk | .vstat5p0v | .vstat3p3v | .vstat1p8v | .vstat1p5v | .ntCrit | .vsmOk
  | .vsmAborted | .vsmCksumOk | .vsmWdcntOk | .jsmOk | .jsmAborted | .jsmCksumOk | .jsmWdcntOk
  | .jsmTckFpgaOk => some Register.tmbStat.adr
  | .layerTriggerEn | .layerTrigThresh | .numberLayersHit | .clctThrottle =>
    some Register.layerTrgMode.adr
  | .clctBlanking | .clctPatternIdThresh | .clctPatternIdThreshPostdrift | .adjacentCfebDistance =>
    some Register.patternFindPretrg.adr
  | .clctSeparationSrc | .clctSeparationRamWriteEnable | .clctSeparationRamAdr
  | .minClctSeparation => some Register.clctSeparation.adr
  | .ccbTtcrxLockNever | .ccbTtcrxLostEver | .ccbQpllLockNever | .ccbQpllLostEver =>
    some Register.clockStatus.adr
  | .l1aAllowNotmbLookback | .injWrdataMsb | .injRdataMsb | .l1aPriorityEnable =>
    some Register.l1aLookback.adr
  | .alctSyncRxdataDly | .alctSyncTxRandom | .alctSyncClearErrors | .alctSync1stError
  | .alctSync2ndError | .alctSync1stErrorLatched | .alctSync2ndErrorLatched =>
    some Register.alctSyncCtrl.adr
  | .alctSyncTxdata1st => some Register.alctSyncTxdata1st.adr
  | .alctSyncTxdata2nd => some Register.alctSyncTxdata2nd.adr
  | .miniscopeEnable | .miniTbinsTest | .miniTbinsWord | .fifoTbinsMini | .fifoPretrigMini =>
    some Register.miniscope.adr
  | .firePhaser | .resetPhase | .phaserBusy | .digitalClockManagerLocked | .phaseShifterState
  | .phaserPosneg | .phaseValueWithinQuadrant | .quarterCycleQuadrantSelect
  | .halfCycleQuadrantSelect => none
  | .cfeb0RxdIntDelay | .cfeb1RxdIntDelay | .cfeb2RxdIntDelay | .cfeb3RxdIntDelay =>
    some Register.cfeb03Interstage.adr
  | .cfeb4RxdIntDelay => some Register.cfeb4Interstage.adr
  | .syncErrReset | .clctBx0SyncErrEnable | .alctEccRxSyncErrEnable | .alctEccTxSyncErrEnable
  | .bx0MatchSyncErrEnable | .clockLockLostSyncErrEnable | .syncErrBlanksMpcEnable
  | .syncErrStopsPretrigEnable | .syncErrStopsReadoutEnable | .syncErr | .clctBx0SyncErr
  | .alctEccRxSyncErr | .alctEccTxSyncErr | .bx0MatchSyncErr | .clockLockLostSyncErr =>
    some Register.syncErrControl.adr
  | .cfebBadbitsReset | .cfebBadbitsBlock | .cfebBadbitsFound | .cfebBadbitsBlocked =>
    some Register.cfebBadbitsCtrl.adr
  | .cfebBadbitsNbx => some Register.cfebBadbitsTimer.adr
  | .bootTdi | .bootTms | .bootTck | .bootJtagChainSelect | .bootControlJtagChain
  | .bootHardResetAlct | .bootHardResetTmb | .bootDisableHardResetAlct | .bootDisableVME
  | .bootDisableMezzClock | .bootHardResetRat | .bootVmeReady | .bootTdo => some tmbAdrBoot

end Field

end EmuLib.Tmb
