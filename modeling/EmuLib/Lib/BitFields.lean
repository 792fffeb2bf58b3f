/-!
Bit fields of a word.

A word and a value are the functions that give their bits.  Values are put into
the fields of a word one after the other; where the fields lie apart, each one
holds at the end what has been put into it, whatever the order, and a value that
the field has room for is got back from it.
-/

namespace EmuLib.BitFields

structure BitField where
  lo : Nat
  hi : Nat
deriving DecidableEq, Repr

abbrev Bits := Nat → Bool

variable {field : BitField} {value : Bits}

namespace BitField

def Covers (field : BitField) (bit : Nat) : Prop := field.lo ≤ bit ∧ bit ≤ field.hi

instance (field : BitField) (bit : Nat) : Decidable (field.Covers bit) :=
  inferInstanceAs (Decidable (_ ∧ _))

def Apart (field other : BitField) : Prop := field.hi < other.lo ∨ other.hi < field.lo

instance (field other : BitField) : Decidable (field.Apart other) :=
  inferInstanceAs (Decidable (_ ∨ _))

def Fits (field : BitField) (value : Bits) : Prop :=
  ∀ bit, field.hi < field.lo + bit → value bit = false

def put (field : BitField) (value word : Bits) : Bits := fun bit =>
  if field.Covers bit then value (bit - field.lo) else word bit

def get (field : BitField) (word : Bits) : Bits := fun bit =>
  decide (field.lo + bit ≤ field.hi) && word (field.lo + bit)

def Holds (field : BitField) (value word : Bits) : Prop :=
  ∀ bit, field.Covers bit → word bit = value (bit - field.lo)

theorem Apart.uncovered {other} (apart : field.Apart other) {bit}
    (covered : field.Covers bit) : ¬ other.Covers bit := by
  intro both
  rcases apart with before | behind
  · exact absurd (Nat.le_trans both.1 covered.2) (Nat.not_le.2 before)
  · exact absurd (Nat.le_trans covered.1 both.2) (Nat.not_le.2 behind)

theorem put_holds (field : BitField) (value word) : field.Holds value (field.put value word) := by
  intro bit covered
  exact if_pos covered

theorem Holds.put {other word} (holds : field.Holds value word) (apart : field.Apart other)
    (another) : field.Holds value (other.put another word) := by
  intro bit covered
  exact (if_neg (apart.uncovered covered)).trans (holds bit covered)

theorem Holds.get {word} (holds : field.Holds value word)
    (fits : field.Fits value) : field.get word = value := by
  funext bit
  by_cases inside : field.lo + bit ≤ field.hi
  · rw [BitField.get, decide_eq_true inside, Bool.true_and,
      holds _ ⟨Nat.le_add_right _ _, inside⟩, Nat.add_sub_cancel_left]
  · rw [BitField.get, decide_eq_false inside, Bool.false_and, fits bit (Nat.not_le.1 inside)]

end BitField

def putAll : List (BitField × Bits) → Bits → Bits
  | [], word => word
  | (field, value) :: rest, word => putAll rest (field.put value word)

def SetApart (entries : List (BitField × Bits)) : Prop :=
  entries.Pairwise fun one other => one.1.Apart other.1

theorem Holds.putAll :
    ∀ (entries : List (BitField × Bits)) (word : Bits), field.Holds value word →
      (∀ entry ∈ entries, field.Apart entry.1) → field.Holds value (putAll entries word) := by
  intro entries
  induction entries with
  | nil => intro word holds _; exact holds
  | cons entry rest ih =>
    intro word holds apart
    obtain ⟨first, others⟩ := List.forall_mem_cons.1 apart
    exact ih _ (holds.put first entry.2) others

theorem putAll_holds {entries} (apart : SetApart entries) (word) :
    ∀ entry ∈ entries, entry.1.Holds entry.2 (putAll entries word) := by
  induction entries generalizing word with
  | nil => intro entry member; exact absurd member List.not_mem_nil
  | cons first rest ih =>
    obtain ⟨ahead, others⟩ := List.pairwise_cons.1 apart
    intro entry member
    rcases List.mem_cons.1 member with rfl | later
    · exact Holds.putAll rest _ (entry.1.put_holds entry.2 word) ahead
    · exact ih others _ entry later

end EmuLib.BitFields
