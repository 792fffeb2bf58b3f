import Mathlib.Data.List.Basic

/-!
A first-in first-out queue with limited room, which is given back only when the queue is drained.
An error is remembered until the queue is reset.
-/

namespace EmuLib.PacketQueue

open List

structure Queue (α : Type) where
  unread : List α
  used : Nat
  error : Bool

inductive Operation (α : Type)
  | arrive (packet : α)
  | read
  | reset

def empty {α : Type} : Queue α := ⟨[], 0, false⟩

section

variable {α : Type} (cost : α → Nat) (capacity reserve : Nat) (queue : Queue α)

/-- A packet for which there is no room is left out; all packets are given up where less than the
reserve is left. -/
def Queue.arrive (packet : α) : Queue α :=
  if capacity < queue.used + cost packet then { queue with error := true }
  else if capacity < queue.used + cost packet + reserve then ⟨[], 0, true⟩
  else ⟨queue.unread ++ [packet], queue.used + cost packet, queue.error⟩

def Queue.read : Option α × Queue α :=
  match queue.unread with
  | [] => (none, queue)
  | packet :: rest => (some packet, ⟨rest, if rest.isEmpty then 0 else queue.used, queue.error⟩)

def Queue.step : Operation α → Option α × Queue α
  | .arrive packet => (none, queue.arrive cost capacity reserve packet)
  | .read => queue.read
  | .reset => (none, empty)

def Queue.exceeds (packet : α) : Bool := capacity < queue.used + cost packet + reserve

end

/-- A queue with what arrived at it and what was read from it, at all and since the last reset. -/
structure History (α : Type) where
  queue : Queue α
  arrived : List α
  delivered : List α
  arrivedSince : List α
  deliveredSince : List α
  exceededSince : Bool

variable {α : Type} (cost : α → Nat) (capacity reserve : Nat)

def History.step (history : History α) (operation : Operation α) : History α :=
  let next := history.queue.step cost capacity reserve operation
  match operation with
  | .arrive packet =>
    { history with
      queue := next.2
      arrived := history.arrived ++ [packet]
      arrivedSince := history.arrivedSince ++ [packet]
      exceededSince := history.exceededSince ||
        history.queue.exceeds cost capacity reserve packet }
  | .read =>
    { history with
      queue := next.2
      delivered := history.delivered ++ next.1.toList
      deliveredSince := history.deliveredSince ++ next.1.toList }
  | .reset =>
    { history with
      queue := next.2
      arrivedSince := []
      deliveredSince := []
      exceededSince := false }

def History.start : History α := ⟨empty, [], [], [], [], false⟩

/-- Every packet is read once at most, in the order of arrival. None is lost without error, and there
is an error where one of the limits was exceeded since the last reset. -/
structure History.Fair (history : History α) : Prop where
  order : (history.delivered ++ history.queue.unread).Sublist history.arrived
  complete : history.queue.error = false →
    history.deliveredSince ++ history.queue.unread = history.arrivedSince
  error : history.queue.error = history.exceededSince

variable {cost capacity reserve}

lemma arrive_error {queue : Queue α} {packet}
    (fine : (queue.arrive cost capacity reserve packet).error = false) :
    queue.arrive cost capacity reserve packet =
      ⟨queue.unread ++ [packet], queue.used + cost packet, queue.error⟩ := by
  unfold Queue.arrive at fine ⊢
  split at fine
  · cases fine
  · split at fine
    · cases fine
    · rename_i within enough
      rw [if_neg within, if_neg enough]

lemma arrive_exceeds (queue : Queue α) (packet) :
    (queue.arrive cost capacity reserve packet).error =
      (queue.error || queue.exceeds cost capacity reserve packet) := by
  unfold Queue.arrive Queue.exceeds
  by_cases beyond : capacity < queue.used + cost packet + reserve
  · rw [decide_eq_true beyond, Bool.or_true]
    split
    · rfl
    · rfl
  · have room : ¬capacity < queue.used + cost packet := by omega
    rw [if_neg room, if_neg beyond, decide_eq_false beyond, Bool.or_false]

lemma arrive_unread (queue : Queue α) (packet) :
    (queue.arrive cost capacity reserve packet).unread = queue.unread ∨
      (queue.arrive cost capacity reserve packet).unread = [] ∨
      (queue.arrive cost capacity reserve packet).unread = queue.unread ++ [packet] := by
  unfold Queue.arrive
  split
  · exact .inl rfl
  · split
    · exact .inr (.inl rfl)
    · exact .inr (.inr rfl)

lemma read_unread (queue : Queue α) :
    queue.read.1.toList ++ queue.read.2.unread = queue.unread ∧
      queue.read.2.error = queue.error := by
  rcases queue with ⟨_ | ⟨packet, rest⟩, used, error⟩
  · exact ⟨rfl, rfl⟩
  · exact ⟨rfl, rfl⟩

lemma History.Fair.step {history : History α} (fair : history.Fair) (operation) :
    (history.step cost capacity reserve operation).Fair := by
  cases operation with
  | arrive packet =>
    constructor
    · have before : (history.delivered ++ history.queue.unread ++ [packet]).Sublist
          (history.arrived ++ [packet]) := fair.order.append (List.Sublist.refl [packet])
      have kinds := @arrive_unread α cost capacity reserve history.queue packet
      change (history.delivered ++ (history.queue.arrive cost capacity reserve packet).unread).Sublist
        (history.arrived ++ [packet])
      rcases kinds with same | lost | added
      · rw [same]
        exact fair.order.trans (sublist_append_left _ _)
      · rw [lost, append_nil]
        exact (sublist_append_left _ _).trans (fair.order.trans (sublist_append_left _ _))
      · rw [added, ← append_assoc]
        exact before
    · intro fine
      have added := arrive_error fine
      have quiet : history.queue.error = false := by
        change (history.queue.arrive cost capacity reserve packet).error = false at fine
        rw [added] at fine
        exact fine
      change history.deliveredSince ++ (history.queue.arrive cost capacity reserve packet).unread =
        history.arrivedSince ++ [packet]
      rw [added, ← fair.complete quiet, append_assoc]
    · change (history.queue.arrive cost capacity reserve packet).error = _
      rw [arrive_exceeds, fair.error]
      rfl
  | read =>
    obtain ⟨unread, error⟩ := read_unread history.queue
    constructor
    · change (history.delivered ++ history.queue.read.1.toList ++
        history.queue.read.2.unread).Sublist history.arrived
      rw [append_assoc, unread]
      exact fair.order
    · intro fine
      change history.deliveredSince ++ history.queue.read.1.toList ++
        history.queue.read.2.unread = history.arrivedSince
      rw [append_assoc, unread]
      exact fair.complete (error.symm.trans fine)
    · exact error.trans fair.error
  | reset =>
    constructor
    · change (history.delivered ++ []).Sublist history.arrived
      rw [append_nil]
      exact (sublist_append_left _ _).trans fair.order
    · exact fun _ => rfl
    · rfl

lemma fair_start : (History.start : History α).Fair :=
  ⟨List.Sublist.refl [], fun _ => rfl, rfl⟩

end EmuLib.PacketQueue
