import EmuLib.Lib.GuardedRun
import Mathlib.Data.List.Nodup

/-!
The kill-fiber mask of a DDU and the FIFO-in-use mask of a DCC, the flags of their inputs, and when
they agree.
-/

namespace EmuLib.Fed.InputMasks

open GuardedRun List

inductive Board
  | ddu
  | dcc

structure Input where
  number : Nat
  flag : Bool

/-- `mask` is `killfiber_` or `fifoinuse_`; `last` is the mask last written or set up. -/
structure State where
  inputs : List Input
  mask : BitVec 32
  last : BitVec 32

namespace Board

variable (board : Board) (state : State)

def limit : Board → Nat
  | ddu => 15
  | dcc => 10

def bit : Board → Bool → Bool
  | ddu, isKilled => !isKilled
  | dcc, isUsed => isUsed

def start : Board → State
  | ddu => ⟨[], 0xf7fff, 0xf7fff⟩
  | dcc => ⟨[], 0x3fe, 0x3fe⟩

/-- What a rebuilt mask keeps, what is written to the board, and the bits of the inputs in it. -/
def kept : Board → BitVec 32
  | ddu => ~~~0x7fff
  | dcc => 0

def written : Board → BitVec 32
  | ddu => 0xfffff
  | dcc => 0x7ff

def ofInputs : Board → BitVec 32
  | ddu => 0x7fff
  | dcc => 0x3ff

/-- `addFiber`, `addFIFO`. A full board throws an exception. -/
def add (input : Input) : State :=
  if state.inputs.length = board.limit then state
  else
    let mask :=
      if board.bit input.flag then state.mask ||| (1#32 <<< input.number)
      else state.mask &&& ~~~(1#32 <<< input.number)
    ⟨state.inputs ++ [input], mask, mask⟩

/-- `reloadKillFiber`, `reloadFIFOInUse`. -/
def reload (mask : BitVec 32) (inputs : List Input) : BitVec 32 :=
  inputs.foldl
    (fun mask input => if board.bit input.flag then mask ||| (1#32 <<< input.number) else mask)
    (mask &&& board.kept)

/-- `setFibers`, `setFIFOs`. -/
def set (inputs : List Input) : State :=
  if board.limit < inputs.length then state
  else
    let mask := board.reload state.mask inputs
    ⟨inputs, mask, mask⟩

/-- `reloadFiberKillBits`, `reloadFIFOUsedBits`. -/
def reloadFlags (value : BitVec 32) (inputs : List Input) : List Input :=
  inputs.mapIdx fun iInput input => { input with flag := value.getLsbD iInput }

/-- `writeKillFiber`, `writeFIFOInUse`. -/
def write (value : BitVec 32) : State :=
  { state with
    inputs := reloadFlags (value &&& board.ofInputs) state.inputs
    last := value &&& board.written }

def configure : State := board.write state state.mask

end Board

inductive Call
  | add (input : Input)
  | set (inputs : List Input)
  | write (value : BitVec 32)
  | configure

def step (board : Board) (state : State) : Call → State
  | .add input => board.add state input
  | .set inputs => board.set state inputs
  | .write value => board.write state value
  | .configure => board.configure state

def Distinct (board : Board) (inputs : List Input) : Prop :=
  (inputs.map (·.number)).Nodup ∧ ∀ input ∈ inputs, input.number < board.limit

def DistinctAfter (board : Board) (state : State) : Call → Prop
  | .add input => Distinct board (state.inputs ++ [input])
  | .set inputs => Distinct board inputs
  | .write _ | .configure => True

/-- The flag that an input gets by its place is that of its number. -/
def Fits (board : Board) (inputs : List Input) (value : BitVec 32) : Prop :=
  ∀ (place : Nat) (input : Input), inputs[place]? = some input →
    value.getLsbD input.number = board.bit (value.getLsbD place)

/-- Masks are written that fit; an input is added where the mask that is set up agrees with the last
one about the others. -/
def FitsCall (board : Board) (state : State) : Call → Prop
  | .add _ => ∀ input ∈ state.inputs,
      state.mask.getLsbD input.number = state.last.getLsbD input.number
  | .set _ => True
  | .write value => Fits board state.inputs value
  | .configure => Fits board state.inputs state.mask

def Agrees (board : Board) (state : State) : Prop :=
  ∀ input ∈ state.inputs, state.last.getLsbD input.number = board.bit input.flag

/-- A mask is written, rebuilt from the inputs and written again. -/
def Rewrites (board : Board) (state : State) (value : BitVec 32) : Prop :=
  let once := board.write state value
  let twice := board.configure { once with mask := board.reload once.mask once.inputs }
  ∀ input ∈ state.inputs, twice.last.getLsbD input.number = once.last.getLsbD input.number

variable {board : Board} {state : State} {inputs : List Input} {value : BitVec 32} {number : Nat}

lemma limit_small (inside : number < board.limit) : number < 15 := by
  cases board with
  | ddu => exact inside
  | dcc => exact Nat.lt_trans inside (by decide)

lemma shifted_bit (small : number < 15) (place) :
    (1#32 <<< place).getLsbD number = decide (number = place) := by
  by_cases here : number = place
  · simp [← here, Nat.lt_trans small (show 15 < 32 by decide)]
  · simp [here]
    omega

lemma masked_bit (inside : number < board.limit) (value) :
    (value &&& board.written).getLsbD number = value.getLsbD number ∧
      (value &&& board.ofInputs).getLsbD number = value.getLsbD number ∧
      (value &&& board.kept).getLsbD number = false := by
  have bits : board.written.getLsbD number = true ∧ board.ofInputs.getLsbD number = true ∧
      board.kept.getLsbD number = false := by
    cases board with
    | ddu =>
      have all : ∀ bit : Fin 15, Board.ddu.written.getLsbD bit = true ∧
          Board.ddu.ofInputs.getLsbD bit = true ∧ Board.ddu.kept.getLsbD bit = false := by decide
      exact all ⟨number, inside⟩
    | dcc =>
      have all : ∀ bit : Fin 10, Board.dcc.written.getLsbD bit = true ∧
          Board.dcc.ofInputs.getLsbD bit = true ∧ Board.dcc.kept.getLsbD bit = false := by decide
      exact all ⟨number, inside⟩
  obtain ⟨written, ofInputs, kept⟩ := bits
  simp [BitVec.getLsbD_and, written, ofInputs, kept]

lemma Distinct.few (distinct : Distinct board inputs) : inputs.length ≤ board.limit := by
  have within : inputs.map (·.number) ⊆ List.range board.limit := by
    intro number among
    obtain ⟨input, listed, rfl⟩ := mem_map.1 among
    exact mem_range.2 (distinct.2 input listed)
  have length := distinct.1.length_le_of_subset within
  rwa [length_map, length_range] at length

lemma foldl_bit (small : number < 15) (mask : BitVec 32) (inputs : List Input) :
    (inputs.foldl
        (fun mask input => if board.bit input.flag then mask ||| (1#32 <<< input.number) else mask)
        mask).getLsbD number =
      (mask.getLsbD number ||
        inputs.any fun input => decide (number = input.number) && board.bit input.flag) := by
  induction inputs generalizing mask with
  | nil => simp
  | cons input inputs ih =>
    rw [foldl_cons, ih, any_cons]
    cases bit : board.bit input.flag with
    | false => simp
    | true => simp [BitVec.getLsbD_or, shifted_bit small, Bool.or_assoc]

lemma reload_bit (distinct : Distinct board inputs) (mask) {input} (among : input ∈ inputs) :
    (board.reload mask inputs).getLsbD input.number = board.bit input.flag := by
  have inside := distinct.2 input among
  rw [Board.reload, foldl_bit (limit_small inside), (masked_bit inside mask).2.2, Bool.false_or,
    Bool.eq_iff_iff, any_eq_true]
  constructor
  · rintro ⟨other, listed, both⟩
    obtain ⟨same, bit⟩ := Bool.and_eq_true_iff.1 both
    rwa [inj_on_of_nodup_map distinct.1 among listed (of_decide_eq_true same)]
  · exact fun bit => ⟨input, among, by simp [bit]⟩

lemma reloadFlags_getElem? (value inputs) (place : Nat) :
    (Board.reloadFlags value inputs)[place]? =
      inputs[place]?.map fun input => { input with flag := value.getLsbD place } :=
  getElem?_mapIdx

lemma reloadFlags_distinct (distinct : Distinct board inputs) (value) :
    Distinct board (Board.reloadFlags value inputs) := by
  have numbers : (Board.reloadFlags value inputs).map (·.number) = inputs.map (·.number) := by
    refine ext_getElem? fun place => ?_
    rw [getElem?_map, getElem?_map, reloadFlags_getElem?, Option.map_map]
    rfl
  refine ⟨numbers ▸ distinct.1, fun input among => ?_⟩
  have listed : input.number ∈ (Board.reloadFlags value inputs).map (·.number) :=
    mem_map_of_mem among
  rw [numbers] at listed
  obtain ⟨other, among, same⟩ := mem_map.1 listed
  exact same ▸ distinct.2 other among

lemma forall_mem_iff {property : Input → Prop} :
    (∀ input ∈ inputs, property input) ↔
      ∀ (place : Nat) (input : Input), inputs[place]? = some input → property input := by
  constructor
  · exact fun all place input there => all input (mem_of_getElem? there)
  · intro all input among
    obtain ⟨place, there⟩ := mem_iff_getElem?.1 among
    exact all place input there

lemma Distinct.at_place (distinct : Distinct board inputs) {place input}
    (there : inputs[place]? = some input) : place < board.limit ∧ input.number < board.limit :=
  ⟨Nat.lt_of_lt_of_le (List.getElem?_eq_some_iff.1 there).1 distinct.few,
    distinct.2 input (mem_of_getElem? there)⟩

lemma agrees_write_iff (distinct : Distinct board state.inputs) :
    Agrees board (board.write state value) ↔ Fits board state.inputs value := by
  rw [Agrees, forall_mem_iff]
  dsimp only [Board.write]
  simp only [reloadFlags_getElem?]
  constructor
  · intro agrees place input there
    obtain ⟨low, inside⟩ := distinct.at_place there
    have agree := agrees place _ (by rw [there]; rfl)
    rwa [(masked_bit inside value).1, (masked_bit low value).2.1] at agree
  · intro fits place flagged there
    obtain ⟨input, here, rfl⟩ := Option.map_eq_some_iff.1 there
    obtain ⟨low, inside⟩ := distinct.at_place here
    rw [(masked_bit inside value).1, (masked_bit low value).2.1]
    exact fits place input here

lemma rewrites_iff (distinct : Distinct board state.inputs) :
    Rewrites board state value ↔ Fits board state.inputs value := by
  have bits : ∀ place input, state.inputs[place]? = some input →
      ((board.reload (board.write state value).mask (board.write state value).inputs) &&&
          board.written).getLsbD input.number = board.bit (value.getLsbD place) ∧
        (value &&& board.written).getLsbD input.number = value.getLsbD input.number := by
    intro place input there
    obtain ⟨low, inside⟩ := distinct.at_place there
    have flagged : (board.write state value).inputs[place]? =
        some { input with flag := value.getLsbD place } := by
      rw [Board.write, reloadFlags_getElem?, there, (masked_bit low value).2.1]
      rfl
    have again := reload_bit (reloadFlags_distinct distinct (value &&& board.ofInputs))
      (board.write state value).mask (mem_of_getElem? flagged)
    exact ⟨(masked_bit inside _).1.trans again, (masked_bit inside value).1⟩
  rw [Rewrites, forall_mem_iff]
  dsimp only [Board.configure, Board.write]
  refine forall_congr' fun place => forall_congr' fun input => forall_congr' fun there => ?_
  obtain ⟨twice, once⟩ := bits place input there
  dsimp only [Board.write] at twice
  rw [twice, once]
  exact eq_comm

lemma step_sound (state call) (sound : Distinct board state.inputs ∧ Agrees board state)
    (fits : DistinctAfter board state call ∧ FitsCall board state call) :
    Distinct board (step board state call).inputs ∧ Agrees board (step board state call) := by
  obtain ⟨distinct, agrees⟩ := sound
  obtain ⟨distinctAfter, fits⟩ := fits
  cases call with
  | add input =>
    have few := Distinct.few distinctAfter
    rw [length_append] at few
    have small := limit_small (distinctAfter.2 input (mem_append_right _ mem_cons_self))
    rw [step, Board.add, if_neg (Nat.ne_of_lt few)]
    refine ⟨distinctAfter, fun other among => ?_⟩
    have inside := limit_small (distinctAfter.2 other among)
    have bits : ((if board.bit input.flag then state.mask ||| (1#32 <<< input.number)
        else state.mask &&& ~~~(1#32 <<< input.number)) : BitVec 32).getLsbD other.number =
          if other.number = input.number then board.bit input.flag
          else state.mask.getLsbD other.number := by
      cases bit : board.bit input.flag with
      | false =>
        have low : other.number < 32 := Nat.lt_trans inside (by decide)
        rw [if_neg Bool.false_ne_true, BitVec.getLsbD_and, BitVec.getLsbD_not, shifted_bit inside]
        by_cases same : other.number = input.number
        · simp [same]
        · simp [same, low]
      | true =>
        rw [if_pos rfl, BitVec.getLsbD_or, shifted_bit inside]
        by_cases same : other.number = input.number
        · simp [same]
        · simp [same]
    refine bits.trans ?_
    rcases mem_append.1 among with earlier | last
    · have apart : other.number ≠ input.number := by
        have nodup := distinctAfter.1
        rw [map_append, nodup_append] at nodup
        exact nodup.2.2 _ (mem_map_of_mem earlier) _ mem_cons_self
      rw [if_neg apart, fits other earlier, agrees other earlier]
    · rw [mem_singleton.1 last, if_pos rfl]
  | set inputs =>
    have few := Nat.not_lt.2 (Distinct.few distinctAfter)
    rw [step, Board.set, if_neg few]
    exact ⟨distinctAfter, fun input among => reload_bit distinctAfter state.mask among⟩
  | write value =>
    exact ⟨reloadFlags_distinct distinct _, (agrees_write_iff distinct).2 fits⟩
  | configure =>
    exact ⟨reloadFlags_distinct distinct _, (agrees_write_iff distinct).2 fits⟩

theorem masks_agree (board : Board) {calls : List Call}
    (fit : Guarded (step board)
      (fun state call => DistinctAfter board state call ∧ FitsCall board state call) board.start
      calls) :
    let state := runFrom (step board) board.start calls
    Agrees board state ∧ ∀ value, Rewrites board state value ↔ Fits board state.inputs value := by
  have start : Distinct board board.start.inputs ∧ Agrees board board.start := by
    have none_ : board.start.inputs = [] := by cases board <;> rfl
    rw [Agrees, none_]
    exact ⟨⟨.nil, fun _ never => absurd never not_mem_nil⟩, fun _ never => absurd never not_mem_nil⟩
  obtain ⟨distinct, agrees⟩ := run_invariant step_sound start fit
  exact ⟨agrees, fun value => rewrites_iff distinct⟩

theorem masks_agree_firstFifo :
    let state := runFrom (step .dcc) Board.dcc.start [.set [⟨0, true⟩], .write 0, .configure]
    Agrees .dcc state ∧ ∀ value, Rewrites .dcc state value ↔ Fits .dcc state.inputs value := by
  have first : ∀ inputs : List Input, inputs.map (·.number) = [0] → ∀ value,
      Fits .dcc inputs value := by
    intro inputs numbers value place input there
    have number : (inputs.map (·.number))[place]? = some input.number := by
      rw [List.getElem?_map, there]
      rfl
    rw [numbers] at number
    cases place with
    | zero =>
      have zero : 0 = input.number := Option.some.inj number
      rw [← zero]
      rfl
    | succ place => cases number
  exact masks_agree .dcc ⟨⟨⟨by decide, by simp [Board.limit]⟩, trivial⟩,
    ⟨trivial, first _ rfl 0⟩, ⟨trivial, first _ rfl _⟩, trivial⟩

/-- Two live fibers are configured, and marked as killed; a FIFO that is in use is alone on its
board, and marked as not used. -/
theorem configured_disagrees :
    let ddu := runFrom (step .ddu) Board.ddu.start [.add ⟨0, false⟩, .add ⟨1, false⟩, .configure]
    let dcc := runFrom (step .dcc) Board.dcc.start [.set [⟨3, true⟩], .configure]
    ddu.inputs.map (·.flag) = [true, true] ∧ ddu.last.getLsbD 0 = true ∧
      dcc.inputs.map (·.flag) = [false] ∧ dcc.last.getLsbD 3 = true ∧
      ¬ Agrees .ddu ddu ∧ ¬ Agrees .dcc dcc := by
  refine ⟨by decide, by decide, by decide, by decide, fun agrees => ?_, fun agrees => ?_⟩
  · exact absurd (agrees ⟨0, true⟩ mem_cons_self) (by decide)
  · exact absurd (agrees ⟨3, false⟩ mem_cons_self) (by decide)

end EmuLib.Fed.InputMasks
