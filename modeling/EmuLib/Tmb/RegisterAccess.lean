import EmuLib.Lib.Assignments
import EmuLib.Tmb.DataWord
import EmuLib.Tmb.Fields

/-!
The configuration members of a TMB and the registers that they are written to and read from.
-/

namespace EmuLib.Tmb

open Assignments BitFields

inductive FirmwarePart
  | month | day | year | version | revcode | type
deriving DecidableEq, Repr

/-- The members of a TMB: a member `x_` stands beside the member `read_x_` that is read back. -/
inductive Member
  | own (field : Field)
  | read (field : Field)
  | hotChannelMask (layer distrip : Int)
  | readHotChannelMask (layer distrip : Int)
  | readBadbits (layer distrip : Int)
  | clockDelay (shifter : Phaser)
  | posneg (shifter : Phaser)
  | readClockDelay (shifter : Phaser)
  | readPosneg (shifter : Phaser)
  | firmware (part : FirmwarePart)
  | readFirmware (part : FirmwarePart)
  | hardwareVersion
  | readTrgmode
deriving DecidableEq

structure TMB where
  value : Member → BitVec 32

namespace TMB

variable (tmb : TMB)

def assign (member : Member) (value : BitVec 32) : TMB where
  value := Function.update tmb.value member value

def assignAll (assignments : List (Member × BitVec 32)) : TMB where
  value := Assignments.assignAll assignments tmb.value

end TMB

inductive Filling
  | own (fields : List Field)
  | read (fields : List Field)
  | hotChannelMask
  | outputEnables
  | phase (shifter : Phaser)
  | notSupported
deriving DecidableEq

def filling : Register → Filling
  | .hcm _ _ => .hotChannelMask
  | .phaser shifter => .phase shifter
  | .vmeDddoe => .outputEnables
  | .vmeLoopbk => .own [.enableAlctRx, .enableAlctTx]
  | .vmeDddsm => .own
      [.dddStateMachineStart, .dddStateMachineManual, .dddStateMachineLatch,
       .dddStateMachineSerialIn, .dddStateMachineSerialOut, .dddStateMachineAutostart]
  | .vmeDdd0 => .own [.alctTofDelay, .dmbTxDelay, .ratTmbDelay]
  | .vmeDdd1 => .own [.tmb1Phase, .cfebTofDelay, .cfeb0TofDelay]
  | .vmeDdd2 => .own [.cfeb1TofDelay, .cfeb2TofDelay, .cfeb3TofDelay, .cfeb4TofDelay]
  | .vmeRatctrl => .own [.rpcSync, .shiftRpc, .ratDsnEn]
  | .vmeAdc => .own
      [.voltageAdcDataOut, .voltageAdcSerialClock, .voltageAdcDataIn, .voltageAdcChipSelect,
       .temperatureAdcSerialClock, .temperatureAdcSerialData]
  | .ccbCfg => .own
      [.ignoreCcbRx, .disableCcbTx, .enableInternalL1a, .enableAlctclctStatusToCcb,
       .enableAlctStatusToCcb, .enableClctStatusToCcb, .fireL1aOneshot]
  | .ccbTrig => .own
      [.alctExtTrigL1aen, .clctExtTrigL1aen, .requestL1a, .alctExtTrigVme, .clctExtTrigVme,
       .extTrigBoth, .ccbAllowBypass, .ignoreCcbStartstop, .internalL1aDelayVme]
  | .alctCfg => .own
      [.cfgAlctExtTrigEn, .cfgAlctExtInjectEn, .cfgAlctExtTrig, .cfgAlctExtInject, .alctSeqCmd,
       .alctClockEnUseCcb, .alctClockEnUseVme]
  | .alctInj => .own [.alctClear, .alctInjectMux, .alctSyncClct, .alctInjDelay]
  | .alctStat => .own [.alctEccEn, .alctEccErrBlank, .alctTxdataDelay]
  | .cfebInj => .own [.enableCLCTInputs, .cfebRamSel, .cfebInjEnSel, .startPatternInj]
  | .seqTrigEn => .own
      [.clctPatTrigEn, .alctPatTrigEn, .matchPatTrigEn, .adbExtTrigEn, .dmbExtTrigEn,
       .clctExtTrigEn, .alctExtTrigEn, .vmeExtTrig, .extTrigInject, .allCfebActive, .cfebsEnabled,
       .cfebEnableSource]
  | .seqTrigDly0 => .own
      [.alctPretrigWidth, .alctPretrigDelay, .alctPatternDelay, .adbExtTrigDelay]
  | .seqTrigDly1 => .own [.dmbExtTrigDelay, .clctExtTrigDelay, .alctExtTrigDelay]
  | .seqId => .own [.tmbSlot, .cscId, .runId]
  | .seqClct => .own
      [.triadPersist, .hitThresh, .affThresh, .minHitsPattern, .driftDelay, .pretriggerHalt]
  | .seqFifo => .own [.fifoMode, .fifoTbins, .fifoPretrig, .fifoNoRawHits, .cfebBadbitsReadout]
  -- `SetL1aDelay` and its like write the members that are read back
  | .seqL1a => .read [.l1adelay, .l1aWindowSize, .tmbL1aInternal]
  | .seqOffset => .own [.l1aOffset, .bxnOffset]
  | .tmbTrig => .own
      [.tmbSyncErrEnable, .tmbAllowAlct, .tmbAllowClct, .tmbAllowMatch, .mpcRxDelay,
       .mpcSelTtcBx0, .mpcIdleBlank, .mpcOutputEnable]
  | .scpCtrl => .own [.scopeInReadout]
  | .alctfifo1 => .own [.alctRawReset, .alctRawReadAddress, .alctDemuxMode]
  | .seqmod => .own
      [.clctFlushDelay, .wrBufferAutoclear, .clctWriteContinuousEnable, .wrtBufRequired,
       .validClctRequired, .l1aAllowMatch, .l1aAllowNotmb, .l1aAllowNol1a, .l1aAllowAlctOnly,
       .scintVetoClr]
  | .tmbtim => .own [.alctVpfDelay, .alctMatchWindowSize, .mpcTxDelay]
  | .rpcCfg => .own [.rpcExists, .rpcReadEnable, .rpcBxnOffset, .rpcBank]
  | .rpcRawDelay => .own [.rpc0RawDelay, .rpc1RawDelay]
  | .rpcInj => .own
      [.rpcMaskAll, .injMaskRat, .injMaskRpc, .injDelayRat, .rpcInjSel, .rpcInjWdata]
  | .rpcTbins => .own [.fifoTbinsRpc, .fifoPretrigRpc, .rpcDecouple]
  | .bx0Delay => .own [.alctBx0Delay, .clctBx0Delay, .alctBx0Enable, .bx0VpfTest]
  | .nonTrigReadout => .own
      [.tmbAllowAlctNontrigReadout, .tmbAllowClctNontrigReadout, .tmbAllowMatchNontrigReadout,
       .mpcBlockMe1a, .clctPretriggerCounterNonMe11]
  | .jtagSmCtrl => .own
      [.jtagStateMachineStart, .jtagStateMachineSreset, .jtagDisableWriteToAdr10,
       .jtagStateMachineThrottle]
  | .vmeSmCtrl => .own
      [.vmeStateMachineStart, .vmeStateMachineSreset, .vmeStateMachineJtagAuto, .phaseShifterAuto,
       .vmeStateMachineThrottle]
  | .rat3dDelays => .own [.rpc0RatDelay, .rpc1RatDelay]
  | .layerTrgMode => .own [.layerTriggerEn, .layerTrigThresh, .clctThrottle]
  | .patternFindPretrg => .own
      [.clctBlanking, .clctPatternIdThresh, .clctPatternIdThreshPostdrift, .adjacentCfebDistance]
  | .clctSeparation => .own
      [.clctSeparationSrc, .clctSeparationRamWriteEnable, .clctSeparationRamAdr,
       .minClctSeparation]
  | .l1aLookback => .own [.l1aAllowNotmbLookback, .injWrdataMsb, .l1aPriorityEnable]
  | .alctSyncCtrl => .own [.alctSyncRxdataDly, .alctSyncTxRandom, .alctSyncClearErrors]
  | .alctSyncTxdata1st => .own [.alctSyncTxdata1st]
  | .alctSyncTxdata2nd => .own [.alctSyncTxdata2nd]
  | .miniscope => .own
      [.miniscopeEnable, .miniTbinsTest, .miniTbinsWord, .fifoTbinsMini, .fifoPretrigMini]
  | .cfeb03Interstage => .own
      [.cfeb0RxdIntDelay, .cfeb1RxdIntDelay, .cfeb2RxdIntDelay, .cfeb3RxdIntDelay]
  | .cfeb4Interstage => .own [.cfeb4RxdIntDelay]
  | .syncErrControl => .own
      [.syncErrReset, .clctBx0SyncErrEnable, .alctEccRxSyncErrEnable, .alctEccTxSyncErrEnable,
       .bx0MatchSyncErrEnable, .clockLockLostSyncErrEnable, .syncErrBlanksMpcEnable,
       .syncErrStopsPretrigEnable, .syncErrStopsReadoutEnable]
  | .cfebBadbitsCtrl => .own [.cfebBadbitsReset, .cfebBadbitsBlock]
  | .cfebBadbitsTimer => .own [.cfebBadbitsNbx]
  | _ => .notSupported

def numberOfAvailableBinsPerClockCycle : Int := 256

def maximumNumberOfPhaseDelayValues : Int := 25

def scaled (phase : BitVec 32) (count per : Int) : Int :=
  (2 * phase.toInt * count + per).tdiv (2 * per)

def phaseToWrite (digitalPhase : BitVec 32) : BitVec 32 :=
  BitVec.ofInt 32 (scaled digitalPhase numberOfAvailableBinsPerClockCycle
    maximumNumberOfPhaseDelayValues) &&& 0xff

namespace TMB

variable (tmb : TMB)

def phaseInsertions (digitalPhase posneg : BitVec 32) : List Insertion :=
  let phase := phaseToWrite digitalPhase
  [(tmb.value (.own .firePhaser), Field.firePhaser.bits),
    (tmb.value (.own .resetPhase), Field.resetPhase.bits),
    (posneg, Field.phaserPosneg.bits),
    (phase &&& 0x3f, Field.phaseValueWithinQuadrant.bits),
    (phase.sshiftRight 6 &&& 0x1, Field.quarterCycleQuadrantSelect.bits),
    (phase.sshiftRight 7 &&& 0x1, Field.halfCycleQuadrantSelect.bits)]

def convertDigitalPhaseToVMERegisterValues (digitalPhase posneg : BitVec 32) : BitVec 32 :=
  insertAll (tmb.phaseInsertions digitalPhase posneg) 0

def insertions (register : Register) : List Insertion :=
  match filling register with
  | .own fields => fields.map fun field => (tmb.value (.own field), field.bits)
  | .read fields => fields.map fun field => (tmb.value (.read field), field.bits)
  | .hotChannelMask =>
    (List.range 16).map fun bit =>
      (tmb.value (.hotChannelMask (getHotChannelLayerFromMap register bit)
        (getHotChannelDistripFromMap register bit)), ⟨bit, bit⟩)
  | .phase shifter =>
    tmb.phaseInsertions (tmb.value (.clockDelay shifter)) (tmb.value (.posneg shifter))
  | .outputEnables | .notSupported => []

def fillTMBRegister (address : Nat) : BitVec 32 :=
  match Register.atAddress address with
  | none => 0xf0000
  | some register =>
    match filling register with
    | .outputEnables => if tmb.value .hardwareVersion = 2 then 0x005 else 0xfff
    | .notSupported => 0xf0000
    | _ => insertAll (tmb.insertions register) 0

def writeRegister (address : Nat) : Option (BitVec 32) :=
  let dataToWrite := tmb.fillTMBRegister address
  if dataToWrite.toInt < 0x10000 then some dataToWrite else none

def setL1aDelay (l1adelay : BitVec 32) : TMB := tmb.assign (.read .l1adelay) l1adelay

def setL1aWindowSize (l1aWindowSize : BitVec 32) : TMB :=
  tmb.assign (.read .l1aWindowSize) l1aWindowSize

def setInternalL1a (tmbL1aInternal : BitVec 32) : TMB :=
  tmb.assign (.read .tmbL1aInternal) tmbL1aInternal

end TMB

inductive Decoding
  | fields (fields : List Field)
  | hotChannelMask
  | badbits
  | phase
  | nothing

def phaserFields : List Field :=
  [.firePhaser, .resetPhase, .phaserBusy, .digitalClockManagerLocked, .phaseShifterState,
    .phaserPosneg, .phaseValueWithinQuadrant, .quarterCycleQuadrantSelect,
    .halfCycleQuadrantSelect]

def decoding : Register → Decoding
  | .hcm _ _ => .hotChannelMask
  | .badbits _ _ => .badbits
  | .phaser _ => .phase
  | .vmeLoopbk => .fields
      [.cfebOe, .alctLoop, .enableAlctRx, .enableAlctTx, .rpcLoopRat, .rpcLoopTmb, .dmbLoop,
       .dmbOe, .gtlLoop, .gtlOe]
  | .vmeDddsm => .fields
      [.dddStateMachineStart, .dddStateMachineManual, .dddStateMachineLatch,
       .dddStateMachineSerialIn, .dddStateMachineSerialOut, .dddStateMachineAutostart,
       .dddStateMachineBusy, .dddStateMachineVerifyOk, .dddStateMachineClock0Lock,
       .dddStateMachineClock0dLock, .dddStateMachineClock1Lock, .dddStateMachineClockAlctLock,
       .dddStateMachineClockdAlctLock, .dddStateMachineClockCfebLock,
       .dddStateMachineClockDccLock, .dddStateMachineClockRpcLock]
  | .vmeDdd0 => .fields [.alctTofDelay, .dmbTxDelay, .ratTmbDelay]
  | .vmeDdd1 => .fields [.tmb1Phase, .cfebTofDelay, .cfeb0TofDelay]
  | .vmeDdd2 => .fields [.cfeb1TofDelay, .cfeb2TofDelay, .cfeb3TofDelay, .cfeb4TofDelay]
  | .vmeRatctrl => .fields [.rpcSync, .shiftRpc, .ratDsnEn]
  | .vmeAdc => .fields
      [.adcVstat5p0v, .adcVstat3p3v, .adcVstat1p8v, .adcVstat1p5v, .tempNotCritical,
       .voltageAdcDataOut, .voltageAdcSerialClock, .voltageAdcDataIn, .voltageAdcChipSelect,
       .temperatureAdcSerialClock, .temperatureAdcSerialData]
  | .ccbCfg => .fields
      [.ignoreCcbRx, .disableCcbTx, .enableInternalL1a, .enableAlctclctStatusToCcb,
       .enableAlctStatusToCcb, .enableClctStatusToCcb, .fireL1aOneshot]
  | .ccbTrig => .fields
      [.alctExtTrigL1aen, .clctExtTrigL1aen, .requestL1a, .alctExtTrigVme, .clctExtTrigVme,
       .extTrigBoth, .ccbAllowBypass, .ignoreCcbStartstop, .internalL1aDelayVme]
  | .alctCfg => .fields
      [.cfgAlctExtTrigEn, .cfgAlctExtInjectEn, .cfgAlctExtTrig, .cfgAlctExtInject, .alctSeqCmd,
       .alctClockEnUseCcb, .alctClockEnUseVme, .alctMuonic, .cfebMuonic]
  | .alctInj => .fields [.alctClear, .alctInjectMux, .alctSyncClct, .alctInjDelay]
  | .alctStat => .fields
      [.alctCfgDone, .alctEccEn, .alctEccErrBlank, .alctSyncEccErr, .alctTxdataDelay]
  | .alctAlct0 => .fields [.alct0Valid, .alct0Quality, .alct0Amu, .alct0KeyWg, .alct0Bxn]
  | .alctAlct1 => .fields [.alct1Valid, .alct1Quality, .alct1Amu, .alct1KeyWg, .alct1Bxn]
  | .alctFifo => .fields [.alctRawBusy, .alctRawDone, .alctRawWordCount, .alctRawMsbs]
  | .cfebInj => .fields [.enableCLCTInputs, .cfebRamSel, .cfebInjEnSel, .startPatternInj]
  | .seqTrigEn => .fields
      [.clctPatTrigEn, .alctPatTrigEn, .matchPatTrigEn, .adbExtTrigEn, .dmbExtTrigEn,
       .clctExtTrigEn, .alctExtTrigEn, .vmeExtTrig, .extTrigInject, .allCfebActive, .cfebsEnabled,
       .cfebEnableSource]
  | .seqTrigDly0 => .fields
      [.alctPretrigWidth, .alctPretrigDelay, .alctPatternDelay, .adbExtTrigDelay]
  | .seqTrigDly1 => .fields [.dmbExtTrigDelay, .clctExtTrigDelay, .alctExtTrigDelay]
  | .seqId => .fields [.tmbSlot, .cscId, .runId]
  | .seqClct => .fields
      [.triadPersist, .hitThresh, .affThresh, .minHitsPattern, .driftDelay, .pretriggerHalt]
  | .seqFifo => .fields [.fifoMode, .fifoTbins, .fifoPretrig, .fifoNoRawHits, .cfebBadbitsReadout]
  | .seqL1a => .fields [.l1adelay, .l1aWindowSize, .tmbL1aInternal]
  | .seqOffset => .fields [.l1aOffset, .bxnOffset]
  | .seqClct0 => .fields [.clct0Valid, .clct0Nhit, .clct0Pattern, .clct0KeyHalfStrip]
  | .seqClct1 => .fields [.clct1Valid, .clct1Nhit, .clct1Pattern, .clct1KeyHalfStrip]
  | .tmbTrig => .fields
      [.tmbSyncErrEnable, .tmbAllowAlct, .tmbAllowClct, .tmbAllowMatch, .mpcRxDelay, .mpcAccept,
       .mpcReserved, .mpcSelTtcBx0, .mpcIdleBlank, .mpcOutputEnable]
  | .scpCtrl => .fields [.scopeInReadout]
  | .alctfifo1 => .fields [.alctRawReset, .alctRawReadAddress, .alctDemuxMode]
  | .alctfifo2 => .fields [.alctRawLsbs]
  | .seqmod => .fields
      [.clctFlushDelay, .wrBufferAutoclear, .clctWriteContinuousEnable, .wrtBufRequired,
       .validClctRequired, .l1aAllowMatch, .l1aAllowNotmb, .l1aAllowNol1a, .l1aAllowAlctOnly,
       .scintVetoClr, .scintVetoVme]
  | .seqsm => .fields
      [.clctStateMachine, .readoutStateMachine, .bufferQueueFull, .bufferQueueEmpty,
       .bufferQueueOverflow, .bufferQueueUnderflow]
  | .seqClctm => .fields [.clctBxn, .clctSyncErr]
  | .tmbtim => .fields [.alctVpfDelay, .alctMatchWindowSize, .mpcTxDelay]
  | .rpcCfg => .fields [.rpcExists, .rpcReadEnable, .rpcBxnOffset, .rpcBank, .rpcRbxn, .rpcDone]
  | .rpcRawDelay => .fields [.rpc0RawDelay, .rpc1RawDelay]
  | .rpcInj => .fields
      [.rpcMaskAll, .injMaskRat, .injMaskRpc, .injDelayRat, .rpcInjSel, .rpcInjWdata,
       .rpcInjRdata]
  | .rpcTbins => .fields [.fifoTbinsRpc, .fifoPretrigRpc, .rpcDecouple]
  | .bx0Delay => .fields [.alctBx0Delay, .clctBx0Delay, .alctBx0Enable, .bx0VpfTest, .bx0Match]
  | .nonTrigReadout => .fields
      [.tmbAllowAlctNontrigReadout, .tmbAllowClctNontrigReadout, .tmbAllowMatchNontrigReadout,
       .mpcBlockMe1a, .clctPretriggerCounterNonMe11, .cscMe11, .clctStagger, .reverseStagger,
       .reverseMe1a, .reverseMe1b, .tmbFirmwareCompileType]
  | .jtagSmCtrl => .fields
      [.jtagStateMachineStart, .jtagStateMachineSreset, .jtagStateMachineAutostart,
       .jtagStateMachineBusy, .jtagStateMachineAborted, .jtagStateMachineCksumOk,
       .jtagStateMachineWdcntOk, .jtagStateMachineTckFpgaOk, .jtagStateMachineVmeReady,
       .jtagStateMachineOk, .jtagStateMachineOe, .jtagDisableWriteToAdr10,
       .jtagStateMachineThrottle]
  | .jtagSmWdcnt => .fields [.jtagStateMachineWordCount]
  | .jtagSmCksum => .fields [.jtagStateMachineCheckSum, .jtagStateMachineTckFpga]
  | .vmeSmCtrl => .fields
      [.vmeStateMachineStart, .vmeStateMachineSreset, .vmeStateMachineAutostart,
       .vmeStateMachineBusy, .vmeStateMachineAborted, .vmeStateMachineCksumOk,
       .vmeStateMachineWdcntOk, .vmeStateMachineJtagAuto, .vmeStateMachineVmeReady,
       .vmeStateMachineOk, .vmeStateMachinePathOk, .phaseShifterAuto, .vmeStateMachineThrottle]
  | .vmeSmWdcnt => .fields [.vmeStateMachineWordCount]
  | .vmeSmCksum => .fields
      [.vmeStateMachineCheckSum, .vmeStateMachineErrorMissingHeaderStart,
       .vmeStateMachineErrorMissingHeaderEnd, .vmeStateMachineErrorMissingDataEndMarker,
       .vmeStateMachineErrorMissingTrailerEnd, .vmeStateMachineErrorWordCountOverflow]
  | .numVmeSmAdr => .fields [.vmeStateMachineNumberOfVmeWrites]
  | .rat3dDelays => .fields [.rpc0RatDelay, .rpc1RatDelay]
  | .tmbStat => .fields
      [.bdstatusOk, .vstat5p0v, .vstat3p3v, .vstat1p8v, .vstat1p5v, .ntCrit, .vsmOk, .vsmAborted,
       .vsmCksumOk, .vsmWdcntOk, .jsmOk, .jsmAborted, .jsmCksumOk, .jsmWdcntOk, .jsmTckFpgaOk]
  | .layerTrgMode => .fields [.layerTriggerEn, .layerTrigThresh, .numberLayersHit, .clctThrottle]
  | .patternFindPretrg => .fields
      [.clctBlanking, .clctStagger, .clctPatternIdThresh, .clctPatternIdThreshPostdrift,
       .adjacentCfebDistance]
  | .clctSeparation => .fields
      [.clctSeparationSrc, .clctSeparationRamWriteEnable, .clctSeparationRamAdr,
       .minClctSeparation]
  | .clockStatus => .fields
      [.ccbTtcrxLockNever, .ccbTtcrxLostEver, .ccbQpllLockNever, .ccbQpllLostEver]
  | .l1aLookback => .fields
      [.l1aAllowNotmbLookback, .injWrdataMsb, .injRdataMsb, .l1aPriorityEnable]
  | .alctSyncCtrl => .fields
      [.alctSyncRxdataDly, .alctSyncTxRandom, .alctSyncClearErrors, .alctSync1stError,
       .alctSync2ndError, .alctSync1stErrorLatched, .alctSync2ndErrorLatched]
  | .alctSyncTxdata1st => .fields [.alctSyncTxdata1st]
  | .alctSyncTxdata2nd => .fields [.alctSyncTxdata2nd]
  | .miniscope => .fields
      [.miniscopeEnable, .miniTbinsTest, .miniTbinsWord, .fifoTbinsMini, .fifoPretrigMini]
  | .cfeb03Interstage => .fields
      [.cfeb0RxdIntDelay, .cfeb1RxdIntDelay, .cfeb2RxdIntDelay, .cfeb3RxdIntDelay]
  | .cfeb4Interstage => .fields [.cfeb4RxdIntDelay]
  | .syncErrControl => .fields
      [.syncErrReset, .clctBx0SyncErrEnable, .alctEccRxSyncErrEnable, .alctEccTxSyncErrEnable,
       .bx0MatchSyncErrEnable, .clockLockLostSyncErrEnable, .syncErrBlanksMpcEnable,
       .syncErrStopsPretrigEnable, .syncErrStopsReadoutEnable, .syncErr, .clctBx0SyncErr,
       .alctEccRxSyncErr, .alctEccTxSyncErr, .bx0MatchSyncErr, .clockLockLostSyncErr]
  | .cfebBadbitsCtrl => .fields
      [.cfebBadbitsReset, .cfebBadbitsBlock, .cfebBadbitsFound, .cfebBadbitsBlocked]
  | .cfebBadbitsTimer => .fields [.cfebBadbitsNbx]
  | .vmeDddoe | .extend => .nothing

def digitalPhase (withinQuadrant quarterCycle halfCycle : BitVec 32) : BitVec 32 :=
  let fullDigitalPhase :=
    withinQuadrant &&& 0x3f ||| (quarterCycle &&& 0x1) <<< 6 ||| (halfCycle &&& 0x1) <<< 7
  BitVec.ofInt 32 (scaled fullDigitalPhase maximumNumberOfPhaseDelayValues
    numberOfAvailableBinsPerClockCycle) &&& 0xff

namespace TMB

variable (tmb : TMB)

def extractFields (data : BitVec 32) (fields : List Field) : List (Member × BitVec 32) :=
  fields.map fun field => (.read field, extractValueFromData data field.bits.lo field.bits.hi)

def extractMasks (register : Register) (data : BitVec 32) (mask : Int → Int → Member) :
    List (Member × BitVec 32) :=
  (List.range 16).map fun bit =>
    (mask (getHotChannelLayerFromMap register bit) (getHotChannelDistripFromMap register bit),
      extractValueFromData data bit bit)

def readDigitalPhase : BitVec 32 :=
  digitalPhase (tmb.value (.read .phaseValueWithinQuadrant))
    (tmb.value (.read .quarterCycleQuadrantSelect)) (tmb.value (.read .halfCycleQuadrantSelect))

def convertVMERegisterValuesToDigitalPhases (register : Register) : TMB :=
  match register with
  | .phaser shifter =>
    tmb.assignAll
      [(.readPosneg shifter, tmb.value (.read .phaserPosneg)),
        (.readClockDelay shifter, tmb.readDigitalPhase)]
  | _ => tmb

def decodeTrgmode : TMB :=
  let readCLCTtriggerSetting :=
    tmb.value (.read .tmbAllowClct) &&& tmb.value (.read .clctPatTrigEn)
  let readALCTCLCTtriggerSetting :=
    tmb.value (.read .tmbAllowMatch) &&& tmb.value (.read .matchPatTrigEn)
  let tmb := if readCLCTtriggerSetting ≠ 0 then tmb.assign .readTrgmode 1 else tmb
  if readALCTCLCTtriggerSetting ≠ 0 then tmb.assign .readTrgmode 5 else tmb

def decodeFields (register : Register) (data : BitVec 32) : TMB :=
  match decoding register with
  | .fields fields => tmb.assignAll (extractFields data fields)
  | .hotChannelMask => tmb.assignAll (extractMasks register data .readHotChannelMask)
  | .badbits => tmb.assignAll (extractMasks register data .readBadbits)
  | .phase =>
    (tmb.assignAll (extractFields data phaserFields)).convertVMERegisterValuesToDigitalPhases
      register
  | .nothing => tmb

def decodeTMBRegister (address : Nat) (data : BitVec 32) : TMB :=
  match Register.atAddress address with
  | none => tmb.decodeTrgmode
  | some register => (tmb.decodeFields register data).decodeTrgmode

end TMB

end EmuLib.Tmb
