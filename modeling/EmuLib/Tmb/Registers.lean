/-!
The VME registers of a TMB that its software decodes, and the mask bits that are held in
the registers of the hot channels.
-/

namespace EmuLib.Tmb

inductive Cfeb
  | cfeb0 | cfeb1 | cfeb2 | cfeb3 | cfeb4
deriving DecidableEq, Repr

inductive LayerPair
  | layer01 | layer23 | layer45
deriving DecidableEq, Repr

inductive Phaser
  | alctRxd | alctTxd | cfeb0Rxd | cfeb1Rxd | cfeb2Rxd | cfeb3Rxd | cfeb4Rxd | cfeb5Rxd | cfeb6Rxd
deriving DecidableEq, Repr

/-- The registers that `DecodeTMBRegister_` or `FillTMBRegister` has a branch for. -/
inductive Register
  | hcm (cfeb : Cfeb) (layers : LayerPair)
  | badbits (cfeb : Cfeb) (layers : LayerPair)
  | phaser (shifter : Phaser)
  | vmeLoopbk | vmeDddsm | vmeDdd0 | vmeDdd1 | vmeDdd2 | vmeDddoe | vmeRatctrl | vmeAdc | ccbCfg
  | ccbTrig | alctCfg | alctInj | alctStat | alctAlct0 | alctAlct1 | alctFifo | cfebInj
  | seqTrigEn | seqTrigDly0 | seqTrigDly1 | seqId | seqClct | seqFifo | seqL1a | seqOffset
  | seqClct0 | seqClct1 | tmbTrig | scpCtrl | alctfifo1 | alctfifo2 | seqmod | seqsm | seqClctm
  | tmbtim | rpcCfg | rpcRawDelay | rpcInj | rpcTbins | bx0Delay | nonTrigReadout | jtagSmCtrl
  | jtagSmWdcnt | jtagSmCksum | vmeSmCtrl | vmeSmWdcnt | vmeSmCksum | numVmeSmAdr | rat3dDelays
  | tmbStat | layerTrgMode | patternFindPretrg | clctSeparation | clockStatus | l1aLookback
  | alctSyncCtrl | alctSyncTxdata1st | alctSyncTxdata2nd | miniscope | cfeb03Interstage
  | cfeb4Interstage | syncErrControl | cfebBadbitsCtrl | cfebBadbitsTimer | extend
deriving DecidableEq, Repr

namespace Register

def hcmAdr : Cfeb → LayerPair → Nat
  | .cfeb0, .layer01 => 0x4A | .cfeb0, .layer23 => 0x4C | .cfeb0, .layer45 => 0x4E
  | .cfeb1, .layer01 => 0x50 | .cfeb1, .layer23 => 0x52 | .cfeb1, .layer45 => 0x54
  | .cfeb2, .layer01 => 0x56 | .cfeb2, .layer23 => 0x58 | .cfeb2, .layer45 => 0x5A
  | .cfeb3, .layer01 => 0x5C | .cfeb3, .layer23 => 0x5E | .cfeb3, .layer45 => 0x60
  | .cfeb4, .layer01 => 0x62 | .cfeb4, .layer23 => 0x64 | .cfeb4, .layer45 => 0x66

def badbitsAdr : Cfeb → LayerPair → Nat
  | .cfeb0, .layer01 => 0x126 | .cfeb0, .layer23 => 0x128 | .cfeb0, .layer45 => 0x12A
  | .cfeb1, .layer01 => 0x12C | .cfeb1, .layer23 => 0x12E | .cfeb1, .layer45 => 0x130
  | .cfeb2, .layer01 => 0x132 | .cfeb2, .layer23 => 0x134 | .cfeb2, .layer45 => 0x136
  | .cfeb3, .layer01 => 0x138 | .cfeb3, .layer23 => 0x13A | .cfeb3, .layer45 => 0x13C
  | .cfeb4, .layer01 => 0x13E | .cfeb4, .layer23 => 0x140 | .cfeb4, .layer45 => 0x142

def phaserAdr : Phaser → Nat
  | .alctRxd => 0x10E | .alctTxd => 0x110 | .cfeb0Rxd => 0x112 | .cfeb1Rxd => 0x114
  | .cfeb2Rxd => 0x116 | .cfeb3Rxd => 0x118 | .cfeb4Rxd => 0x11A | .cfeb5Rxd => 0x16A
  | .cfeb6Rxd => 0x16C

def adr : Register → Nat
  | .hcm cfeb layers => hcmAdr cfeb layers
  | .badbits cfeb layers => badbitsAdr cfeb layers
  | .phaser shifter => phaserAdr shifter
  | .vmeLoopbk => 0xE | .vmeDddsm => 0x14 | .vmeDdd0 => 0x16 | .vmeDdd1 => 0x18
  | .vmeDdd2 => 0x1A | .vmeDddoe => 0x1C | .vmeRatctrl => 0x1E | .vmeAdc => 0x24
  | .ccbCfg => 0x2A | .ccbTrig => 0x2C | .alctCfg => 0x30 | .alctInj => 0x32 | .alctStat => 0x38
  | .alctAlct0 => 0x3A | .alctAlct1 => 0x3C | .alctFifo => 0x3E | .cfebInj => 0x42
  | .seqTrigEn => 0x68 | .seqTrigDly0 => 0x6A | .seqTrigDly1 => 0x6C | .seqId => 0x6E
  | .seqClct => 0x70 | .seqFifo => 0x72 | .seqL1a => 0x74 | .seqOffset => 0x76
  | .seqClct0 => 0x78 | .seqClct1 => 0x7A | .tmbTrig => 0x86 | .scpCtrl => 0x98
  | .alctfifo1 => 0xA8 | .alctfifo2 => 0xAA | .seqmod => 0xAC | .seqsm => 0xAE
  | .seqClctm => 0xB0 | .tmbtim => 0xB2 | .rpcCfg => 0xB6 | .rpcRawDelay => 0xBA
  | .rpcInj => 0xBC | .rpcTbins => 0xC4 | .bx0Delay => 0xCA | .nonTrigReadout => 0xCC
  | .jtagSmCtrl => 0xD4 | .jtagSmWdcnt => 0xD6 | .jtagSmCksum => 0xD8 | .vmeSmCtrl => 0xDA
  | .vmeSmWdcnt => 0xDC | .vmeSmCksum => 0xDE | .numVmeSmAdr => 0xE0 | .rat3dDelays => 0xE6
  | .tmbStat => 0xEA | .layerTrgMode => 0xF0 | .patternFindPretrg => 0xF4
  | .clctSeparation => 0xF6 | .clockStatus => 0xFC | .l1aLookback => 0x100
  | .alctSyncCtrl => 0x104 | .alctSyncTxdata1st => 0x106 | .alctSyncTxdata2nd => 0x108
  | .miniscope => 0x10C | .cfeb03Interstage => 0x11C | .cfeb4Interstage => 0x11E
  | .syncErrControl => 0x120 | .cfebBadbitsCtrl => 0x122 | .cfebBadbitsTimer => 0x124
  | .extend => 0x17A

end Register

namespace Cfeb

def all : List Cfeb := [.cfeb0, .cfeb1, .cfeb2, .cfeb3, .cfeb4]

end Cfeb

namespace LayerPair

def all : List LayerPair := [.layer01, .layer23, .layer45]

end LayerPair

namespace Phaser

def all : List Phaser :=
  [.alctRxd, .alctTxd, .cfeb0Rxd, .cfeb1Rxd, .cfeb2Rxd, .cfeb3Rxd,
    .cfeb4Rxd, .cfeb5Rxd, .cfeb6Rxd]

end Phaser

namespace Register

def masks : List (Cfeb × LayerPair) := Cfeb.all.flatMap fun cfeb => LayerPair.all.map (cfeb, ·)

def single : List Register :=
  [.vmeLoopbk, .vmeDddsm, .vmeDdd0, .vmeDdd1, .vmeDdd2, .vmeDddoe,
    .vmeRatctrl, .vmeAdc, .ccbCfg, .ccbTrig, .alctCfg, .alctInj, .alctStat, .alctAlct0,
    .alctAlct1, .alctFifo, .cfebInj, .seqTrigEn, .seqTrigDly0, .seqTrigDly1, .seqId, .seqClct,
    .seqFifo, .seqL1a, .seqOffset, .seqClct0, .seqClct1, .tmbTrig, .scpCtrl, .alctfifo1,
    .alctfifo2, .seqmod, .seqsm, .seqClctm, .tmbtim, .rpcCfg, .rpcRawDelay, .rpcInj, .rpcTbins,
    .bx0Delay, .nonTrigReadout, .jtagSmCtrl, .jtagSmWdcnt, .jtagSmCksum, .vmeSmCtrl, .vmeSmWdcnt,
    .vmeSmCksum, .numVmeSmAdr, .rat3dDelays, .tmbStat, .layerTrgMode, .patternFindPretrg,
    .clctSeparation, .clockStatus, .l1aLookback, .alctSyncCtrl, .alctSyncTxdata1st,
    .alctSyncTxdata2nd, .miniscope, .cfeb03Interstage, .cfeb4Interstage, .syncErrControl,
    .cfebBadbitsCtrl, .cfebBadbitsTimer, .extend]

def all : List Register :=
  masks.map (fun place => .hcm place.1 place.2) ++
    masks.map (fun place => .badbits place.1 place.2) ++ Phaser.all.map .phaser ++ single

def atAddress (address : Nat) : Option Register := all.find? fun register => register.adr = address

end Register

def hotchannelmaskLayerMap : Cfeb → LayerPair → List Int
  | .cfeb0, .layer01 => [0, 0, 0, 0, 0, 0, 0, 0, 1, 1, 1, 1, 1, 1, 1, 1]
  | .cfeb0, .layer23 => [2, 2, 2, 2, 2, 2, 2, 2, 3, 3, 3, 3, 3, 3, 3, 3]
  | .cfeb0, .layer45 => [4, 4, 4, 4, 4, 4, 4, 4, 5, 5, 5, 5, 5, 5, 5, 5]
  | .cfeb1, .layer01 => [0, 0, 0, 0, 0, 0, 0, 0, 1, 1, 1, 1, 1, 1, 1, 1]
  | .cfeb1, .layer23 => [2, 2, 2, 2, 2, 2, 2, 2, 3, 3, 3, 3, 3, 3, 3, 3]
  | .cfeb1, .layer45 => [4, 4, 4, 4, 4, 4, 4, 4, 5, 5, 5, 5, 5, 5, 5, 5]
  | .cfeb2, .layer01 => [0, 0, 0, 0, 0, 0, 0, 0, 1, 1, 1, 1, 1, 1, 1, 1]
  | .cfeb2, .layer23 => [2, 2, 2, 2, 2, 2, 2, 2, 3, 3, 3, 3, 3, 3, 3, 3]
  | .cfeb2, .layer45 => [4, 4, 4, 4, 4, 4, 4, 4, 5, 5, 5, 5, 5, 5, 5, 5]
  | .cfeb3, .layer01 => [0, 0, 0, 0, 0, 0, 0, 0, 1, 1, 1, 1, 1, 1, 1, 1]
  | .cfeb3, .layer23 => [2, 2, 2, 2, 2, 2, 2, 2, 3, 3, 3, 3, 3, 3, 3, 3]
  | .cfeb3, .layer45 => [4, 4, 4, 4, 4, 4, 4, 4, 5, 5, 5, 5, 5, 5, 5, 5]
  | .cfeb4, .layer01 => [0, 0, 0, 0, 0, 0, 0, 0, 1, 1, 1, 1, 1, 1, 1, 1]
  | .cfeb4, .layer23 => [2, 2, 2, 2, 2, 2, 2, 2, 3, 3, 3, 3, 3, 3, 3, 3]
  | .cfeb4, .layer45 => [4, 4, 4, 4, 4, 4, 4, 4, 5, 5, 5, 5, 5, 5, 5, 5]

def hotchannelmaskDistripMap : Cfeb → LayerPair → List Int
  | .cfeb0, .layer01 => [0, 1, 2, 3, 4, 5, 6, 7, 0, 1, 2, 3, 4, 5, 6, 7]
  | .cfeb0, .layer23 => [0, 1, 2, 3, 4, 5, 6, 7, 0, 1, 2, 3, 4, 5, 6, 7]
  | .cfeb0, .layer45 => [0, 1, 2, 3, 4, 5, 6, 7, 0, 1, 2, 3, 4, 5, 6, 7]
  | .cfeb1, .layer01 => [8, 9, 10, 11, 12, 13, 14, 15, 8, 9, 10, 11, 12, 13, 14, 15]
  | .cfeb1, .layer23 => [8, 9, 10, 11, 12, 13, 14, 15, 8, 9, 10, 11, 12, 13, 14, 15]
  | .cfeb1, .layer45 => [8, 9, 10, 11, 12, 13, 14, 15, 8, 9, 10, 11, 12, 13, 14, 15]
  | .cfeb2, .layer01 => [16, 17, 18, 19, 20, 21, 22, 23, 16, 17, 18, 19, 20, 21, 22, 23]
  | .cfeb2, .layer23 => [16, 17, 18, 19, 20, 21, 22, 23, 16, 17, 18, 19, 20, 21, 22, 23]
  | .cfeb2, .layer45 => [16, 17, 18, 19, 20, 21, 22, 23, 16, 17, 18, 19, 20, 21, 22, 23]
  | .cfeb3, .layer01 => [24, 25, 26, 27, 28, 29, 30, 31, 24, 25, 26, 27, 28, 29, 30, 31]
  | .cfeb3, .layer23 => [24, 25, 26, 27, 28, 29, 30, 31, 24, 25, 26, 27, 28, 29, 30, 31]
  | .cfeb3, .layer45 => [24, 25, 26, 27, 28, 29, 30, 31, 24, 25, 26, 27, 28, 29, 30, 31]
  | .cfeb4, .layer01 => [32, 33, 34, 35, 36, 37, 38, 39, 32, 33, 34, 35, 36, 37, 38, 39]
  | .cfeb4, .layer23 => [32, 33, 34, 35, 36, 37, 38, 39, 32, 33, 34, 35, 36, 37, 38, 39]
  | .cfeb4, .layer45 => [32, 33, 34, 35, 36, 37, 38, 39, 32, 33, 34, 35, 36, 37, 38, 39]

def getHotChannelLayerFromMap (register : Register) (bitInRegister : Nat) : Int :=
  match register with
  | .hcm cfeb layers | .badbits cfeb layers =>
    (hotchannelmaskLayerMap cfeb layers).getD bitInRegister 0
  | _ => -999

def getHotChannelDistripFromMap (register : Register) (bitInRegister : Nat) : Int :=
  match register with
  | .hcm cfeb layers | .badbits cfeb layers =>
    (hotchannelmaskDistripMap cfeb layers).getD bitInRegister 0
  | _ => -999

end EmuLib.Tmb
