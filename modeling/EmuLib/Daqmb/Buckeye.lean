import Mathlib.Data.List.Basic
import Mathlib.Data.Fin.Basic
import Mathlib.Tactic.IntervalCases

/-!
The shift patterns of the Buckeye chips: a mode of three bits for each channel, packed by hand
for a layer, and the broadcasts of one pattern to all front-end boards.
-/

namespace EmuLib.Daqmb.Buckeye

def normRun : BitVec 3 := 0

def smallCap : BitVec 3 := 1

def mediumCap : BitVec 3 := 2

def largeCap : BitVec 3 := 3

def extCap : BitVec 3 := 4

abbrev Channels := Nat → BitVec 3

/-- By board, layer and channel. -/
abbrev Table := Int → Nat → Channels

def layers (chip : Fin 6) : Nat := [2, 0, 4, 5, 3, 1].getD chip 0

structure Cfeb where
  number : Nat
  hardwareVersion : Int
  chips : List (Fin 6)

def Cfeb.chipMask (cfeb : Cfeb) : BitVec 8 :=
  cfeb.chips.foldl (fun mask chip => mask ||| (1#8 <<< (5 - chip.val))) 0

def shftBits (chan : Channels) : List (BitVec 8) :=
  let at_ (channel : Nat) : BitVec 32 := (chan channel).setWidth 32
  [at_ 13 <<< 6 ||| at_ 14 <<< 3 ||| at_ 15,
    at_ 10 <<< 7 ||| at_ 11 <<< 4 ||| at_ 12 <<< 1 ||| at_ 13 >>> 2,
    at_ 8 <<< 5 ||| at_ 9 <<< 2 ||| at_ 10 >>> 1,
    at_ 5 <<< 6 ||| at_ 6 <<< 3 ||| at_ 7,
    at_ 2 <<< 7 ||| at_ 3 <<< 4 ||| at_ 4 <<< 1 ||| at_ 5 >>> 2,
    at_ 0 <<< 5 ||| at_ 1 <<< 2 ||| at_ 2 >>> 1].map fun word => (word &&& 0xff).setWidth 8

/-- `chan2shift` of 16 channels. -/
def shiftWords (chan : Channels) : List (BitVec 16) :=
  let at_ (channel : Nat) : BitVec 32 := (chan channel).setWidth 32
  [at_ 10 <<< 15 ||| at_ 11 <<< 12 ||| at_ 12 <<< 9 ||| at_ 13 <<< 6 ||| at_ 14 <<< 3 ||| at_ 15,
    at_ 5 <<< 14 ||| at_ 6 <<< 11 ||| at_ 7 <<< 8 ||| at_ 8 <<< 5 ||| at_ 9 <<< 2 ||| at_ 10 >>> 1,
    at_ 0 <<< 13 ||| at_ 1 <<< 10 ||| at_ 2 <<< 7 ||| at_ 3 <<< 4 ||| at_ 4 <<< 1 |||
      at_ 5 >>> 2].map fun word => (word &&& 0xffff).setWidth 16

/-- Whom the shift is for: a device of its own, or the boards of a selector. -/
inductive Target where
  | device (board : Nat)
  | fascam
  | selector (mask : Nat)
  deriving DecidableEq

/-- `CHIP_MASK` with six bits of the mask, and `CHIP_SHFT` with `count` bits of the data. -/
structure Shift where
  target : Target
  chipMask : BitVec 8
  count : Nat
  data : List (BitVec 8)
  deriving DecidableEq

def buckeyeShift (selectorBit : Nat) (chipMask : BitVec 8) (shftBits : Nat → List (BitVec 8)) :
    Shift :=
  ⟨.selector selectorBit, chipMask, 288,
    (List.finRange 6).reverse.flatMap fun chip => shftBits (layers chip)⟩

def byVersion (hversion : Int) (old new : Shift) : Option Shift :=
  if hversion ≤ 1 then some old else if hversion = 2 then some new else none

def buckShift (shiftArray : Table) (cfebs : List Cfeb) : List Shift :=
  cfebs.filterMap fun cfeb =>
    let shft (layer : Nat) := shftBits (shiftArray cfeb.number layer)
    byVersion cfeb.hardwareVersion
      ⟨.device cfeb.number, cfeb.chipMask, cfeb.chips.length * 48,
        cfeb.chips.reverse.flatMap fun chip => shft (layers chip)⟩
      (buckeyeShift (1 <<< cfeb.number) cfeb.chipMask shft)

def chan2shift (chan : Table) (cfebs : List Cfeb) : List Shift :=
  cfebs.filterMap fun cfeb =>
    let shft (layer : Nat) := shftBits (chan cfeb.number layer)
    let chipMask := (List.range 6).foldl (fun mask i => mask ||| (1#8 <<< (5 - i))) 0
    byVersion cfeb.hardwareVersion
      ⟨.device cfeb.number, chipMask, 6 * 48,
        (List.finRange 6).reverse.flatMap fun chip => shft (layers chip)⟩
      (buckeyeShift (1 <<< cfeb.number) chipMask shft)

def broadcast (hversion : Int) (chipMask : BitVec 8) (count : Nat) (data : List (BitVec 8)) :
    Option Shift :=
  byVersion hversion ⟨.fascam, chipMask, count, data⟩ ⟨.selector 0x7f, chipMask, count, data⟩

def buckShiftExtBc (hversion : Int) (nstrip : Int) : Option Shift :=
  let i := ((15 - nstrip) * 3 + 2).toNat
  broadcast hversion 0 48 ((List.range 6).map fun j =>
    if (0 ≤ nstrip ∧ nstrip < 16) ∧ j = i / 8 then 1#8 <<< (i % 8) else 0)

def compPattern (pattern : BitVec 64) (i : Nat) : BitVec 64 :=
  (pattern <<< i).sshiftRight 3 ||| (if i = 0 then pattern <<< 45 else 0) |||
    (if i = 45 then pattern.sshiftRight 6 else 0)

def buckShiftCompBc (hversion : Int) (nstrip : Int) : Option Shift :=
  let i := ((15 - nstrip) * 3).toNat
  let bits (pattern : BitVec 64) (j : Nat) : BitVec 8 :=
    if 0 ≤ nstrip ∧ nstrip < 16 then
      ((compPattern pattern i).sshiftRight (j * 8) &&& 0xff).setWidth 8
    else 0
  broadcast hversion 0x3f 288 ((List.range 18).map (fun j => bits 0x5a (j % 6)) ++
    (List.range' 18 18).map fun j => bits 0x99 (j % 6))

def set (table : Table) (board : Int) (layer : Nat) (channel : Int) (mode : BitVec 3) : Table :=
  fun board' layer' channel' =>
    if board' = board ∧ layer' = layer ∧ (channel' : Int) = channel then mode
    else table board' layer' channel'

def halfset (icrd : Int) (ipln : Nat) (ihalf : Int) (chan : Table) : Table :=
  let borrows := ihalf < 0 ∧ 0 ≤ icrd - 1
  let ihalf := if borrows then ihalf + 32 else ihalf
  let icrd := if borrows then icrd - 1 else icrd
  let ichan := ihalf.tdiv 2
  let iside := ihalf - 2 * ichan
  let around (before after : BitVec 3) : Table :=
    let chan := if 0 ≤ ichan - 1 then set chan icrd ipln (ichan - 1) before
      else if 0 ≤ icrd - 1 then set chan (icrd - 1) ipln 15 before else chan
    let chan := if 0 ≤ ichan ∧ ichan ≤ 15 then set chan icrd ipln ichan largeCap else chan
    if ichan + 1 ≤ 15 then set chan icrd ipln (ichan + 1) after
    else if icrd + 1 < 7 then set chan (icrd + 1) ipln 0 after else chan
  if iside = 0 then around mediumCap smallCap
  else if iside = 1 then around smallCap mediumCap else chan

/-- The bits in the order in which they are shifted, as strings of 48. -/
def Shift.strings (shift : Shift) : List (List Bool) :=
  let bits := shift.data.flatMap fun byte => (List.range 8).map byte.getLsbD
  (List.range (shift.count / 48)).map fun k => (bits.drop (k * 48)).take 48

def channelBits (chan : Channels) : List Bool :=
  (List.range 16).reverse.flatMap fun channel => (List.range 3).map (chan channel).getLsbD

/-- A channel that is set beyond the board is the one at its other end. -/
def wrapped (chan : Table) (board : Int) (layer : Nat) : Channels :=
  fun channel => chan (board - 1) layer channel ||| chan board layer channel |||
    chan (board + 1) layer channel

def pulsed (n : Nat) (layer : Nat) : Channels :=
  wrapped (halfset 3 layer (2 * n + layer % 2 : Nat) fun _ _ _ => normRun) 3 layer

def external (n : Nat) : Channels := fun channel => if channel = n then extCap else normRun

def wanted (table : Table) (cfeb : Cfeb) (chips : List (Fin 6)) : List (List Bool) :=
  chips.reverse.map fun chip => channelBits (table cfeb.number (layers chip))

def perBoard (cfebs : List Cfeb) (patterns : Cfeb → List (List Bool)) : List (List (List Bool)) :=
  cfebs.filterMap fun cfeb => if cfeb.hardwareVersion ≤ 2 then some (patterns cfeb) else none

structure Right (cfebs : List Cfeb) (table : Table) : Prop where
  buckShift : (buckShift table cfebs).map Shift.strings =
    perBoard cfebs fun cfeb => wanted table cfeb cfeb.chips
  chan2shift : (chan2shift table cfebs).map Shift.strings =
    perBoard cfebs fun cfeb => wanted table cfeb (List.finRange 6)
  words : ∀ board layer, ((shiftWords (table board layer)).flatMap
    fun word => (List.range 16).map word.getLsbD) = channelBits (table board layer)
  comp : ∀ hversion ≤ 2, ∀ n : Nat, n < 16 → (buckShiftCompBc hversion n).map Shift.strings =
    some ((List.finRange 6).reverse.map fun chip => channelBits (pulsed n (layers chip)))
  ext : ∀ hversion ≤ 2, ∀ n : Nat, n < 16 → (buckShiftExtBc hversion n).map Shift.strings =
    some [channelBits (external n)]

lemma shftBits_bits (chan) :
    ((shftBits chan).flatMap fun byte => (List.range 8).map byte.getLsbD) = channelBits chan := by
  simp [shftBits, channelBits, List.range_succ]

lemma shiftWords_bits (chan) :
    ((shiftWords chan).flatMap fun word => (List.range 16).map word.getLsbD) =
      channelBits chan := by
  simp [shiftWords, channelBits, List.range_succ]

lemma strings_of {shift : Shift} {patterns}
    (long : ∀ pattern ∈ patterns, pattern.length = 48)
    (bits : (shift.data.flatMap fun byte => (List.range 8).map byte.getLsbD) = patterns.flatten)
    (count : shift.count = patterns.length * 48) : shift.strings = patterns := by
  unfold Shift.strings
  dsimp only
  rw [bits, count, Nat.mul_div_cancel _ (by decide)]
  clear bits count
  induction patterns with
  | nil => rfl
  | cons pattern rest ih =>
    obtain ⟨size, others⟩ := List.forall_mem_cons.1 long
    rw [List.length_cons, List.range_succ_eq_map, List.map_cons, List.map_map, List.flatten_cons]
    refine congrArg₂ List.cons (by simp [← size]) (Eq.trans ?_ (ih others))
    refine List.map_congr_left fun k _ => ?_
    have past : (k + 1) * 48 = pattern.length + k * 48 := by omega
    rw [Function.comp_apply, Nat.succ_eq_add_one, past, List.drop_append,
      List.drop_eq_nil_of_le (Nat.le_add_right _ _), List.nil_append, Nat.add_sub_cancel_left]

lemma channelBits_length (chan) : (channelBits chan).length = 48 := by
  simp [channelBits, List.range_succ]

lemma strings_chips (target mask) (chan : Nat → Channels)
    (chips : List (Fin 6)) :
    Shift.strings ⟨target, mask, chips.length * 48,
      chips.reverse.flatMap fun chip => shftBits (chan (layers chip))⟩ =
      chips.reverse.map fun chip => channelBits (chan (layers chip)) := by
  apply strings_of
  · intro pattern member
    obtain ⟨chip, _, rfl⟩ := List.mem_map.1 member
    exact channelBits_length _
  · rw [List.flatMap_assoc]
    simp only [shftBits_bits]
    exact List.flatMap_def
  · simp

lemma buckeyeShift_strings (selectorBit mask) (chan : Nat → Channels) :
    (buckeyeShift selectorBit mask fun layer => shftBits (chan layer)).strings =
      (List.finRange 6).reverse.map fun chip => channelBits (chan (layers chip)) :=
  strings_chips (.selector selectorBit) mask chan (List.finRange 6)

lemma perBoard_iff {sent patterns cfebs}
    (known : ∀ cfeb, (sent cfeb).isSome = decide (cfeb.hardwareVersion ≤ 2)) :
    (cfebs.filterMap sent).map Shift.strings = perBoard cfebs patterns ↔
      ∀ cfeb ∈ cfebs, ∀ shift, sent cfeb = some shift → shift.strings = patterns cfeb := by
  unfold perBoard
  induction cfebs with
  | nil => simp
  | cons cfeb rest ih =>
    have shape := known cfeb
    cases some_ : sent cfeb with
    | none =>
      have beyond : ¬cfeb.hardwareVersion ≤ 2 := by simpa [some_] using shape
      simp only [List.filterMap_cons, some_, if_neg beyond, ih, List.forall_mem_cons]
      simp
    | some shift =>
      have old : cfeb.hardwareVersion ≤ 2 := by simpa [some_] using shape
      simp only [List.filterMap_cons, some_, if_pos old, List.map_cons, List.cons.injEq, ih,
        List.forall_mem_cons]
      simp

lemma byVersion_known (hversion old new) :
    (byVersion hversion old new).isSome = decide (hversion ≤ 2) := by
  unfold byVersion
  split
  · simp; omega
  · split <;> simp <;> omega

lemma broadcast_strings {hversion} (known : hversion ≤ 2) (chipMask count data) :
    (broadcast hversion chipMask count data).map Shift.strings =
      (broadcast 0 chipMask count data).map Shift.strings := by
  unfold broadcast byVersion
  split
  · rfl
  · rw [if_pos (by omega)]
    rfl

lemma comp_bits : ∀ n : Nat, n < 16 → (buckShiftCompBc 0 n).map Shift.strings =
    some ((List.finRange 6).reverse.map fun chip => channelBits (pulsed n (layers chip))) := by
  decide +kernel

lemma ext_bits : ∀ n : Nat, n < 16 → (buckShiftExtBc 0 n).map Shift.strings =
    some [channelBits (external n)] := by
  decide +kernel

lemma byVersion_cases {hversion old new shift}
    (sent : byVersion hversion old new = some shift) :
    hversion ≠ 2 ∧ shift = old ∨ hversion = 2 ∧ shift = new := by
  unfold byVersion at sent
  split at sent
  · exact .inl ⟨by omega, (Option.some.inj sent).symm⟩
  · split at sent
    · exact .inr ⟨‹_›, (Option.some.inj sent).symm⟩
    · cases sent

lemma layers_injective : Function.Injective fun chip : Fin 6 =>
    channelBits fun _ => BitVec.ofNat 3 (layers chip) := by
  intro one other
  revert one other
  decide +kernel

theorem buckeye_shift_right_iff (cfebs : List Cfeb) : (∀ table, Right cfebs table) ↔
    ∀ cfeb ∈ cfebs, cfeb.hardwareVersion = 2 → cfeb.chips = List.finRange 6 := by
  constructor
  · intro right cfeb member new
    have sent := (perBoard_iff fun _ => byVersion_known ..).1
      (right fun _ layer _ => BitVec.ofNat 3 layer).buckShift cfeb member
    rw [new] at sent
    have strings := sent _ rfl
    rw [buckeyeShift_strings] at strings
    exact (List.reverse_injective ((List.map_injective_iff.2 layers_injective) strings)).symm
  · intro all table
    refine ⟨?_, ?_, fun board layer => shiftWords_bits _, ?_, ?_⟩
    · refine (perBoard_iff fun _ => byVersion_known ..).2 fun cfeb member shift sent => ?_
      rcases byVersion_cases sent with ⟨_, rfl⟩ | ⟨new, rfl⟩
      · exact strings_chips _ _ (table cfeb.number) cfeb.chips
      · rw [all cfeb member new]
        exact buckeyeShift_strings _ _ (table cfeb.number)
    · refine (perBoard_iff fun _ => byVersion_known ..).2 fun cfeb member shift sent => ?_
      rcases byVersion_cases sent with ⟨_, rfl⟩ | ⟨_, rfl⟩
      · exact strings_chips _ _ (table cfeb.number) (List.finRange 6)
      · exact buckeyeShift_strings _ _ (table cfeb.number)
    · intro hversion known n strip
      rw [← comp_bits n strip, buckShiftCompBc, broadcast_strings known]
      rfl
    · intro hversion known n strip
      rw [← ext_bits n strip, buckShiftExtBc, broadcast_strings known]
      rfl

theorem patterns_apart (one other : Channels) :
    shftBits one = shftBits other ↔ ∀ channel < 16, one channel = other channel := by
  constructor
  · intro same
    have bits : channelBits one = channelBits other := by
      rw [← shftBits_bits, ← shftBits_bits, same]
    simp only [channelBits, List.range_succ, List.range_zero, List.nil_append, List.cons_append,
      List.reverse_cons, List.reverse_nil, List.flatMap_cons, List.flatMap_nil, List.map_cons,
      List.map_nil, List.append_nil, List.cons.injEq] at bits
    intro channel inside
    apply BitVec.eq_of_getLsbD_eq
    intro bit low
    interval_cases channel <;> interval_cases bit <;> simp only [bits]
  · intro same
    simp (disch := decide) only [shftBits, same]

/-- A board of the new type with one chip is sent the strings of six. -/
theorem buckeye_shift_mask_ignored : ¬ ∀ cfebs table, Right cfebs table := by
  intro right
  have sent := (right [⟨0, 2, [⟨0, by decide⟩]⟩] fun _ _ _ => normRun).buckShift
  revert sent
  decide +kernel

end EmuLib.Daqmb.Buckeye
