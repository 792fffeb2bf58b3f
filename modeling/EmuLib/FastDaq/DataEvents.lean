import Mathlib.Data.List.Flatten
import EmuLib.FastDaq.Unpacker

/-!
Well-formed events with one DDU block, and what the calls for such an event are for.
-/

namespace EmuLib.FastDaq

open Buffer (seek)

structure Sample where
  channels : List Short
  checksum : Short
  rest : List Short

def Sample.words (sample : Sample) : List Short :=
  sample.channels ++ sample.checksum :: sample.rest

structure Dmb where
  header : List Short
  alct : List Short
  trigger : List Short
  boards : List (List Sample)
  trailer : List Short

namespace Dmb

def words (dmb : Dmb) : List Short :=
  dmb.header ++ (dmb.alct ++ dmb.trigger ++ dmb.boards.flatten.flatMap Sample.words ++
    dmb.trailer)

def flags (dmb : Dmb) : Nat := (dmb.header.getD 2 0).toNat

def crate (dmb : Dmb) : Nat := ((dmb.header.getD 5 0).toNat >>> 4) &&& 0xff

def number (dmb : Dmb) : Nat := (dmb.header.getD 5 0).toNat &&& 0xf

def present (dmb : Dmb) : List Nat := (List.range 5).filter dmb.flags.testBit

def HoldsData (dmb : Dmb) : Prop :=
  dmb.flags.testBit 10 = true ∨ dmb.flags.testBit 11 = true ∨ dmb.present ≠ []

def samples (dmb : Dmb) : Nat :=
  match dmb.boards.flatten with
  | sample :: _ => if (sample.channels.getD 95 0).toNat.testBit 13 then 16 else 8
  | [] => 8

structure WellFormed (dmb : Dmb) : Prop where
  header_length : dmb.header.length = 8
  header_digits : ∀ word ∈ dmb.header.take 4, word.toNat >>> 12 = 9
  header_rest : ∀ word ∈ dmb.header.drop 4, word.toNat >>> 12 = 0xa
  trailer_length : dmb.trailer.length = 8
  trailer_first : ∀ word ∈ dmb.trailer.take 4, word.toNat >>> 12 = 0xf
  trailer_digits : ∀ word ∈ dmb.trailer.drop 4, word.toNat >>> 12 = 0xe
  alct_given : dmb.alct = [] ↔ dmb.flags.testBit 10 = false
  trigger_given : dmb.trigger = [] ↔ dmb.flags.testBit 11 = false
  alct_kind : dmb.alct[0]? = some 0xdb0a →
    ∃ word, dmb.alct[6]? = some word ∧ word.toNat &&& 7 < 7
  boards_given : dmb.boards.length = dmb.present.length
  boards_samples : ∀ board ∈ dmb.boards, board.length = dmb.samples
  samples_words : ∀ board ∈ dmb.boards, ∀ sample ∈ board,
    sample.channels.length = 96 ∧ sample.rest.length = 3

end Dmb

structure Module where
  high : Short
  low : Short
  data : List Short

namespace Module

def id (block : Module) : BitVec 32 := block.high ++ block.low

def length (block : Module) : Nat := block.data.length + 4

def words (block : Module) : List Short :=
  BitVec.ofNat 16 block.length :: block.high :: block.low :: block.data ++
    [BitVec.ofNat 16 block.length]

end Module

structure DataEvent where
  before : List Module
  head : List Short
  dmbs : List Dmb
  tail : List Short
  after : List Module

namespace DataEvent

def ddu (event : DataEvent) : Module :=
  ⟨0x4444, 0x5532, event.head ++ event.dmbs.flatMap Dmb.words ++ event.tail⟩

def modules (event : DataEvent) : List Module := event.before ++ event.ddu :: event.after

def size (event : DataEvent) : Nat := (event.modules.map Module.length).sum + 2

def words (event : DataEvent) : List Short :=
  BitVec.ofNat 16 event.size :: event.modules.flatMap Module.words ++ [BitVec.ofNat 16 event.size]

def place (event : DataEvent) : Nat := 1 + (event.before.map Module.length).sum

structure WellFormed (event : DataEvent) : Prop where
  size_bound : event.size < 2 ^ 15
  head_length : event.head.length = 12
  tail_length : event.tail.length = 12
  dmbs_wellFormed : ∀ dmb ∈ event.dmbs, dmb.WellFormed
  others : ∀ block ∈ event.before ++ event.after, block.id ≠ DDU_ID ∧ block.id ≠ DDU2_ID
  header : ∃ block, (event.before ++ event.after).find? (fun block => block.id == HEAD_ID) =
    some block ∧ block.data[5]? = some DATA

end DataEvent

def Setup.Selects (setup : Setup) (dmb : Dmb) : Prop :=
  setup.crate < 0 ∨ setup.chamber < 0 ∨ setup.crate = dmb.crate ∧ setup.chamber = dmb.number

def Setup.wiring (setup : Setup) (ifeb channel : Nat) : Nat × Nat :=
  (((setup.cfebMap ifeb channel).toNat >>> 8) - 1, (setup.cfebMap ifeb channel).toNat % 256 - 1)

def serialWord (setup : Setup) (ifeb layer : Nat) (channels : List Short) : Nat :=
  (List.range 96).foldl (fun serial channel =>
    if (setup.wiring ifeb channel).1 = layer ∧ (channels.getD channel 0).toNat.testBit 13 then
      serial ||| 1 <<< (channel / 6) else serial) 0

structure Stored (setup : Setup) (event : CscEvent) (ifeb itime : Nat) (sample : Sample) :
    Prop where
  charges : ∀ channel word, sample.channels[channel]? = some word →
    let (layer, strip) := setup.wiring ifeb channel
    event.sca layer strip itime = word.toNat &&& 0xfff ∧
      event.adcOutOfRange layer strip itime = (word.toNat >>> 12) &&& 1
  controller : ∀ layer < NLAYER, ∀ strip, strip / 16 = ifeb →
    let serial := serialWord setup ifeb layer sample.channels
    event.scaBlock layer strip itime = (serial >>> 8) &&& 0xf ∧
      event.scaTrigTime layer strip itime = serial &&& 0xff
  checked : (ifeb, itime, sample.checksum, crcdivide fun channel => sample.channels.getD channel 0)
    ∈ event.compared

structure LeftEmpty (event : CscEvent) (ifeb : Nat) : Prop where
  inactive : ifeb ∉ event.activeFebs
  samples : ∀ layer strip itime, strip / 16 = ifeb →
    event.sca layer strip itime = 0 ∧ event.adcOutOfRange layer strip itime = 0 ∧
      event.scaBlock layer strip itime = 0 ∧ event.scaTrigTime layer strip itime = 0

structure BoardsRight (setup : Setup) (dmb : Dmb) (event : CscEvent) : Prop where
  stored : ∀ ifeb board, (ifeb, board) ∈ dmb.present.zip dmb.boards →
    ∀ itime sample, board[itime]? = some sample → Stored setup event ifeb itime sample
  empty : ∀ ifeb < NCFEB, ifeb ∉ dmb.present → LeftEmpty event ifeb

structure BlockRight (setup : Setup) (place : Nat) (dmb : Dmb) (call : Call) : Prop where
  visited : call.visited = [some place]
  result : call.result.testBit 0 = false ↔ setup.Selects dmb ∧ dmb.HoldsData
  boards : setup.Selects dmb → dmb.HoldsData → BoardsRight setup dmb call.event

def CallsRight (setup : Setup) : Nat → List Dmb → List Call → Prop
  | _, [], calls => ∀ call ∈ calls, call.visited = [] ∧ call.result.testBit 0 = true
  | place, dmb :: rest, calls => ∃ call others, calls = call :: others ∧
      BlockRight setup place dmb call ∧ CallsRight setup (place + dmb.words.length) rest others

def UnpacksRight (setup : Setup) (event : DataEvent) (buf : Words) (index : Nat) : Prop :=
  ∃ fuel calls, unpack setup buf fuel true index = some calls ∧
    CallsRight setup (event.place + 15) event.dmbs calls

namespace Dmb

/-- The words of the block up to the first four that look like its end, or those that are searched
for them and four more. -/
def cut (dmb : Dmb) : Nat :=
  (seek (marked 0xe fun index => dmb.words.getD index 0) 30000 0).getD 30000 + 4

def Leads (dmb next : Dmb) : Prop :=
  seek (marked 9 fun index => (dmb.words.drop dmb.cut ++ next.header).getD index 0) 16 0 =
    some (dmb.words.length - dmb.cut)

end Dmb

def PassedOver (blocks : List Module) (index : Nat) : Prop :=
  ∀ block ∈ blocks, block.length ≤ index + 20

def Dmb.Ends (dmb : Dmb) : Prop := dmb.words.length ≤ dmb.cut + 7

def BehindFits (setup : Setup) (after : List Module) : List Dmb → Prop
  | [] => True
  | [only] => only.Ends ∧ PassedOver after (15 + only.cut)
  | [first, second] =>
    PassedOver after (15 + first.words.length + second.cut) ∧
      ¬ (setup.Selects second ∧ second.HoldsData)
  | _ => False

structure Fits (setup : Setup) (event : DataEvent) : Prop where
  boards : ∀ dmb ∈ event.dmbs, setup.Selects dmb → dmb.present = []
  leads : event.dmbs.IsChain Dmb.Leads
  before : ∀ first ∈ event.dmbs.head?, PassedOver event.before (15 + first.cut)
  ends : event.after = [] → ∀ last ∈ event.dmbs.getLast?, last.Ends
  behind : event.after ≠ [] → BehindFits setup event.after event.dmbs

end EmuLib.FastDaq
