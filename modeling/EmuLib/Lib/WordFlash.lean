import Mathlib.Logic.Function.Basic

/-!
A flash memory of words that is erased in blocks, with the history of all that was done to it.
-/

namespace EmuLib.WordFlash

open List

inductive Event
  | erase (block : Nat)
  | program (address word : Nat)
deriving DecidableEq

def Event.block (blockSize : Nat) : Event → Nat
  | .erase block => block
  | .program address _ => address / blockSize

def Event.programs (address : Nat) : Event → Bool
  | .erase _ => false
  | .program place _ => place == address

structure Flash where
  memory : Nat → Nat
  pointer : Nat
  history : List Event

namespace Flash

variable (blockSize ones : Nat) (flash : Flash)

def load (address : Nat) : Flash := { flash with pointer := address }

def erase : Flash :=
  { flash with
    memory := fun address =>
      if address / blockSize = flash.pointer / blockSize then ones else flash.memory address
    history := flash.history ++ [.erase (flash.pointer / blockSize)] }

def program (word : Nat) : Flash where
  memory := Function.update flash.memory flash.pointer word
  pointer := flash.pointer + 1
  history := flash.history ++ [.program flash.pointer word]

def programAll (words : List Nat) : Flash := words.foldl program flash

def skip (count : Nat) : Flash := { flash with pointer := flash.pointer + count }

def words (count : Nat) : List Nat :=
  (List.range count).map fun offset => flash.memory (flash.pointer + offset)

end Flash

section

variable (blockSize : Nat)

def erases (blocks : Nat) : List Event := (List.range blocks).map .erase

def programs (word : Nat → Nat) (start count : Nat) : List Event :=
  (List.range count).map fun offset => .program (start + offset) (word (start + offset))

lemma erases_succ (blocks) : erases (blocks + 1) = erases blocks ++ [.erase blocks] := by
  simp [erases, range_succ]

lemma programs_add (word start count more) :
    programs word start (count + more) =
      programs word start count ++ programs word (start + count) more := by
  simp only [programs, range_add, map_append, map_map]
  congr 1
  apply map_congr_left
  intro offset _
  simp only [Function.comp_apply]
  rw [Nat.add_assoc]

lemma programs_succ (word start count) :
    programs word start (count + 1) =
      programs word start count ++ [.program (start + count) (word (start + count))] := by
  rw [programs_add]
  rfl

lemma erases_unprogrammed (address blocks) :
    (erases blocks).countP (Event.programs address) = 0 := by
  rw [countP_eq_zero]
  intro event member
  obtain ⟨block, _, rfl⟩ := mem_map.mp member
  exact Bool.false_ne_true

lemma programs_once (word start count address) :
    (programs word start count).countP (Event.programs address) =
      if start ≤ address ∧ address < start + count then 1 else 0 := by
  induction count with
  | zero => simp [programs]
  | succ count ih =>
    rw [programs_succ, countP_append, ih, countP_singleton]
    simp only [Event.programs, beq_iff_eq]
    by_cases last : start + count = address
    · have before : ¬(start ≤ address ∧ address < start + count) := by omega
      have after : start ≤ address ∧ address < start + (count + 1) := by omega
      rw [if_neg before, if_pos last, if_pos after]
    · rw [if_neg last]
      by_cases inside : start ≤ address ∧ address < start + count
      · have after : start ≤ address ∧ address < start + (count + 1) := by omega
        rw [if_pos inside, if_pos after]
      · have after : ¬(start ≤ address ∧ address < start + (count + 1)) := by omega
        rw [if_neg inside, if_neg after]

variable {blockSize}

def ErasedFirst (blockSize : Nat) (history : List Event) : Prop :=
  ∀ before address word after, history = before ++ .program address word :: after →
    .erase (address / blockSize) ∈ before

lemma erases_programs_erasedFirst {blocks count} (word) (positive : 0 < blockSize)
    (fits : count ≤ blocks * blockSize) :
    ErasedFirst blockSize (erases blocks ++ programs word 0 count) := by
  intro before address value after parts
  have covered : address / blockSize < blocks := by
    have member : Event.program address value ∈ erases blocks ++ programs word 0 count := by
      rw [parts]
      simp
    rcases mem_append.mp member with erased | programmed
    · obtain ⟨block, _, same⟩ := mem_map.mp erased
      cases same
    · obtain ⟨offset, within, same⟩ := mem_map.mp programmed
      have below := mem_range.mp within
      injection same with place _
      rw [Nat.div_lt_iff_lt_mul positive]
      omega
  have split := append_eq_append_iff.mp parts
  rcases split with ⟨between, whole, _⟩ | ⟨between, erased, rest⟩
  · rw [whole]
    exact mem_append_left between (mem_map.mpr ⟨_, mem_range.mpr covered, rfl⟩)
  · cases between with
    | nil =>
      rw [append_nil] at erased
      rw [← erased]
      exact mem_map.mpr ⟨_, mem_range.mpr covered, rfl⟩
    | cons event others =>
      injection rest with first _
      have inside : Event.program address value ∈ erases blocks := by
        rw [erased, first]
        simp
      obtain ⟨block, _, same⟩ := mem_map.mp inside
      cases same

lemma erases_programs_block {blocks count} (word) (positive : 0 < blockSize)
    (fits : count ≤ blocks * blockSize) :
    ∀ event ∈ erases blocks ++ programs word 0 count, event.block blockSize < blocks := by
  intro event member
  rcases mem_append.mp member with erased | programmed
  · obtain ⟨block, within, rfl⟩ := mem_map.mp erased
    exact mem_range.mp within
  · obtain ⟨offset, within, rfl⟩ := mem_map.mp programmed
    have below := mem_range.mp within
    rw [Event.block, Nat.div_lt_iff_lt_mul positive]
    omega

end

variable {flash : Flash}

lemma programAll_append (flash : Flash) (first second) :
    flash.programAll (first ++ second) = (flash.programAll first).programAll second :=
  foldl_append

lemma programAll_range (word count) :
    flash.programAll ((List.range count).map fun offset => word (flash.pointer + offset)) =
      { memory := fun address =>
          if flash.pointer ≤ address ∧ address < flash.pointer + count then word address
          else flash.memory address
        pointer := flash.pointer + count
        history := flash.history ++ programs word flash.pointer count } := by
  induction count with
  | zero =>
    have nowhere : ∀ address, ¬(flash.pointer ≤ address ∧ address < flash.pointer + 0) := by
      omega
    simp only [nowhere, if_false]
    simp [Flash.programAll, programs]
  | succ count ih =>
    rw [range_succ, map_append, programAll_append, ih, programs_succ]
    simp only [Flash.programAll, map_cons, map_nil, foldl_cons, foldl_nil,
      Flash.program, Flash.mk.injEq, append_assoc, and_true]
    refine ⟨?_, by omega⟩
    funext address
    by_cases last : address = flash.pointer + count
    · rw [last, Function.update_self, if_pos (by omega)]
    · rw [Function.update_of_ne last]
      by_cases inside : flash.pointer ≤ address ∧ address < flash.pointer + count
      · rw [if_pos inside, if_pos (by omega)]
      · rw [if_neg inside, if_neg (by omega)]

lemma words_add (flash : Flash) (count more) :
    flash.words (count + more) = flash.words count ++ (flash.skip count).words more := by
  simp only [Flash.words, Flash.skip, range_add, map_append, map_map]
  congr 1
  apply map_congr_left
  intro offset _
  simp only [Function.comp_apply]
  rw [Nat.add_assoc]

lemma skip_skip (flash : Flash) (count more) :
    (flash.skip count).skip more = flash.skip (count + more) := by
  simp only [Flash.skip, Nat.add_assoc]

end EmuLib.WordFlash
