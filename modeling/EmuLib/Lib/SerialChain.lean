import Mathlib.Algebra.Ring.Nat
import Mathlib.Data.List.Basic

/-!
Shift registers in series: at every clock a bit enters the first of them and one leaves the last.
-/

namespace EmuLib.SerialChain

open List

variable {Bit : Type*}

def shiftRegister (tdi : Bit) : List Bit → List Bit × Bit
  | [] => ([], tdi)
  | first :: rest => (rest ++ [tdi], first)

def clock (tdi : Bit) : List (List Bit) → List (List Bit) × Bit
  | [] => ([], tdi)
  | register :: further =>
    let shifted := shiftRegister tdi register
    let clocked := clock shifted.2 further
    (shifted.1 :: clocked.1, clocked.2)

def shift : List (List Bit) → List Bit → List (List Bit) × List Bit
  | chain, [] => (chain, [])
  | chain, tdi :: rest =>
    let clocked := clock tdi chain
    let shifted := shift clocked.1 rest
    (shifted.1, clocked.2 :: shifted.2)

def stream (chain : List (List Bit)) : List Bit := chain.reverse.flatten

variable {chain loaded : List (List Bit)}

@[simp] lemma stream_nil : stream ([] : List (List Bit)) = [] := rfl

@[simp] lemma stream_cons (register : List Bit) (further) :
    stream (register :: further) = stream further ++ register := by
  simp [stream]

lemma stream_append (first second : List (List Bit)) :
    stream (first ++ second) = stream second ++ stream first := by
  simp [stream]

lemma shiftRegister_stream (tdi : Bit) (register) :
    register ++ [tdi] = (shiftRegister tdi register).2 :: (shiftRegister tdi register).1 := by
  cases register <;> rfl

lemma clock_stream (tdi : Bit) (chain) :
    stream chain ++ [tdi] = (clock tdi chain).2 :: stream (clock tdi chain).1 := by
  induction chain generalizing tdi with
  | nil => rfl
  | cons register further ih =>
    have passed := ih (shiftRegister tdi register).2
    rw [stream_cons, append_assoc, shiftRegister_stream, append_cons, passed]
    simp [clock]

lemma shift_stream (chain : List (List Bit)) (bits) :
    stream chain ++ bits = (shift chain bits).2 ++ stream (shift chain bits).1 := by
  induction bits generalizing chain with
  | nil => simp [shift]
  | cons tdi rest ih =>
    rw [append_cons, clock_stream, cons_append, ih]
    rfl

lemma clock_shape (tdi : Bit) (chain) :
    (clock tdi chain).1.map List.length = chain.map List.length := by
  induction chain generalizing tdi with
  | nil => rfl
  | cons register further ih =>
    simp only [clock, map_cons, ih]
    cases register <;> simp [shiftRegister]

lemma shift_shape (chain : List (List Bit)) (bits) :
    (shift chain bits).1.map List.length = chain.map List.length := by
  induction bits generalizing chain with
  | nil => rfl
  | cons tdi rest ih => exact (ih (clock tdi chain).1).trans (clock_shape tdi chain)

lemma shift_length (chain : List (List Bit)) (bits) :
    (shift chain bits).2.length = bits.length := by
  induction bits generalizing chain with
  | nil => rfl
  | cons tdi rest ih => exact congrArg (· + 1) (ih (clock tdi chain).1)

lemma stream_length (shape : loaded.map List.length = chain.map List.length) :
    (stream loaded).length = (stream chain).length := by
  simp only [stream, length_flatten, map_reverse, shape]

lemma stream_sum (chain : List (List Bit)) :
    (stream chain).length = (chain.map List.length).sum := by
  induction chain with
  | nil => rfl
  | cons register further ih =>
    rw [stream_cons, length_append, ih, map_cons, sum_cons, Nat.add_comm]

lemma stream_injective (shape : loaded.map List.length = chain.map List.length)
    (same : stream loaded = stream chain) : loaded = chain := by
  induction loaded generalizing chain with
  | nil =>
    cases chain with
    | nil => rfl
    | cons register further => cases shape
  | cons register further ih =>
    cases chain with
    | nil => cases shape
    | cons other others =>
      obtain ⟨long, rest⟩ := List.cons.inj shape
      rw [stream_cons, stream_cons] at same
      obtain ⟨sameRest, sameFirst⟩ := append_inj' same long
      rw [sameFirst, ih rest sameRest]

/-- As many bits as the chain holds drive out all that was in it, and take its place. -/
lemma shift_eq (shape : loaded.map List.length = chain.map List.length) :
    shift chain (stream loaded) = (loaded, stream chain) := by
  have long : (stream chain).length = (shift chain (stream loaded)).2.length := by
    rw [shift_length, stream_length shape]
  obtain ⟨left, inside⟩ := append_inj (shift_stream chain (stream loaded)) long
  have entered := stream_injective (shape.trans (shift_shape chain (stream loaded)).symm) inside
  exact Prod.ext entered.symm left.symm

end EmuLib.SerialChain
