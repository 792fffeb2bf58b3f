import EmuLib.AlctController.Registers
import Mathlib.Tactic.Ring

/-!
What the vectors of bits hold that values are projected into, and what is extracted from them.
-/

namespace EmuLib.AlctController

open List

lemma bitOf_bit (value ibit) : bitOf value ibit = 0 ∨ bitOf value ibit = 1 :=
  Int.emod_two_eq_zero_or_one _

variable {value : Int}

lemma sum_bits (nonneg : 0 ≤ value) (length) :
    ((List.range length).map fun ibit => bitOf value ibit % 2 * 2 ^ ibit).sum =
      value % 2 ^ length := by
  obtain ⟨number, rfl⟩ := Int.eq_ofNat_of_zero_le nonneg
  induction length with
  | zero => simp
  | succ length ih =>
    rw [range_succ, map_append, sum_append, ih]
    have last : (number : Int) % 2 ^ length + (number : Int) / 2 ^ length % 2 * 2 ^ length =
        (number : Int) % 2 ^ (length + 1) := by
      have cut : number % 2 ^ length + number / 2 ^ length % 2 * 2 ^ length =
          number % 2 ^ (length + 1) := by
        rw [Nat.mod_pow_succ, Nat.mul_comm]
      exact_mod_cast cut
    simp only [map_cons, map_nil, sum_cons, sum_nil, add_zero, bitOf,
      Int.emod_emod_of_dvd _ (dvd_refl (2 : Int))]
    exact last

variable {order : BitOrder} {bits : Nat → Int} {start length : Nat}

lemma bitsToInt_value
    (held : ∀ bit, start ≤ bit → bit < start + length →
      bits bit = bitOf value (order.place length (bit - start)))
    (nonneg : 0 ≤ value) (small : value < 2 ^ length) :
    bitsToInt order bits start length = value := by
  have each : ∀ ibit ∈ List.range length,
      bits (start + order.place length ibit) % 2 * 2 ^ ibit = bitOf value ibit % 2 * 2 ^ ibit := by
    intro ibit member
    have inside := mem_range.1 member
    have place : order.place length ibit < length ∧
        order.place length (order.place length ibit) = ibit := by
      cases order with
      | lsbFirst => exact ⟨inside, rfl⟩
      | msbFirst =>
        simp only [BitOrder.place]
        omega
    rw [held _ (Nat.le_add_right _ _) (by omega), Nat.add_sub_cancel_left, place.2]
  rw [bitsToInt, map_congr_left each, sum_bits nonneg, Int.emod_eq_of_lt nonneg small]

variable {bit : Nat}

lemma intToBits_inside (low : start ≤ bit) (high : bit < start + length) :
    intToBits order value length start bits bit =
      bitOf value (order.place length (bit - start)) := if_pos ⟨low, high⟩

lemma intToBits_outside (outside : bit < start ∨ start + length ≤ bit) :
    intToBits order value length start bits bit = bits bit := if_neg (by omega)

lemma intToBits_bits {size} (old : AreBits bits size) :
    AreBits (intToBits order value length start bits) size := by
  intro bit inside
  by_cases covered : start ≤ bit ∧ bit < start + length
  · rw [intToBits_inside covered.1 covered.2]
    exact bitOf_bit _ _
  · rw [intToBits_outside (by omega)]
    exact old bit inside

lemma copied_inside {size read old} (inside : bit < size) :
    copied size read old bit = read bit := if_pos inside

section

variable (write : ConfigField → Int)

lemma bitlo_le_bithi (field : ConfigField) : field.bitlo ≤ field.bithi := by
  cases field <;> decide

lemma bithi_inside (field : ConfigField) : field.bithi < regSizeConfigReg := by
  cases field <;> decide

lemma all_ordered : ConfigField.all.Pairwise fun one other => one.bithi < other.bitlo := by decide

lemma mem_all (field) : field ∈ ConfigField.all := by
  cases field <;> decide

def fillFields (fields : List ConfigField) (reg : Nat → Int) : Nat → Int :=
  fields.foldl (fun reg field => intToBits .lsbFirst (write field) field.width field.bitlo reg) reg

lemma place_end (field : ConfigField) : field.bitlo + field.width = field.bithi + 1 := by
  have ordered := bitlo_le_bithi field
  rw [ConfigField.width]
  omega

lemma fillFields_outside {fields}
    (outside : ∀ field ∈ fields, bit < field.bitlo ∨ field.bithi < bit) (reg) :
    fillFields write fields reg bit = reg bit := by
  induction fields generalizing reg with
  | nil => rfl
  | cons field rest ih =>
    obtain ⟨first, others⟩ := forall_mem_cons.1 outside
    refine (ih others _).trans (intToBits_outside ?_)
    rw [place_end]
    exact first

lemma fillFields_inside {fields}
    (ordered : fields.Pairwise fun one other => one.bithi < other.bitlo) (reg) {field}
    (member : field ∈ fields) (low : field.bitlo ≤ bit) (high : bit ≤ field.bithi) :
    fillFields write fields reg bit = bitOf (write field) (bit - field.bitlo) := by
  induction fields generalizing reg with
  | nil => exact absurd member not_mem_nil
  | cons first rest ih =>
    obtain ⟨ahead, others⟩ := pairwise_cons.1 ordered
    change fillFields write rest (intToBits .lsbFirst (write first) first.width first.bitlo reg)
      bit = _
    rcases mem_cons.1 member with rfl | later
    · refine (fillFields_outside write ?_ _).trans (intToBits_inside low ?_)
      · intro other behind
        exact .inl (Nat.lt_of_le_of_lt high (ahead other behind))
      · rw [place_end]
        exact Nat.lt_succ_of_le high
    · exact ih others _ later

lemma fillFields_bits {reg size} (bits : AreBits reg size)
    (fields) : AreBits (fillFields write fields reg) size := by
  induction fields generalizing reg with
  | nil => exact bits
  | cons field rest ih =>
    exact ih (intToBits_bits bits)

end

lemma foldl_select (values : Nat → Int) (count reg bit) :
    (List.range count).foldl (fun reg index => Function.update reg (index + 2) (values index)) reg
        bit =
      if 2 ≤ bit ∧ bit < count + 2 then values (bit - 2) else reg bit := by
  induction count with
  | zero => exact (if_neg (by omega)).symm
  | succ count ih =>
    rw [range_succ, foldl_append, foldl_cons, foldl_nil]
    by_cases last : bit = count + 2
    · rw [last, Function.update_self, if_pos (by omega), Nat.add_sub_cancel]
    · rw [Function.update_of_ne last, ih]
      exact if_congr (by omega) rfl rfl

variable {groups : Nat} {delayLine : DelayLine}

lemma fillControlReg_bits (selects : AreBits delayLine.writeGroupSelect groups) :
    AreBits (delayLine.fillControlReg groups).writeControlReg (groups + 2) := by
  intro bit inside
  rw [DelayLine.fillControlReg]
  dsimp only
  rw [foldl_select]
  split
  · exact selects _ (by omega)
  · have control : bit = 0 ∨ bit = 1 := by omega
    rcases control with rfl | rfl
    · exact bitOf_bit _ _
    · exact bitOf_bit _ _

lemma fillControlReg_group {group} (inside : group < groups) :
    (delayLine.fillControlReg groups).writeControlReg (group + 2) =
      delayLine.writeGroupSelect group := by
  rw [DelayLine.fillControlReg]
  dsimp only
  rw [foldl_select, if_pos (by omega), Nat.add_sub_cancel]

end EmuLib.AlctController
