import Mathlib.Data.List.Basic

/-!
The lifetime of objects that are allocated, used and deleted through pointers. A pointer that has
never been set is `none`.
-/

namespace EmuLib.ObjectLifetime

inductive Access
  | new (object : Nat)
  | delete (pointer : Option Nat)
  | use (pointer : Option Nat)
  deriving DecidableEq

def PointsTo (alive : List Nat) (pointer : Option Nat) : Prop := ∃ object ∈ pointer, object ∈ alive

instance (alive : List Nat) : ∀ pointer, Decidable (PointsTo alive pointer)
  | none => isFalse (by rintro ⟨object, found, _⟩; cases found)
  | some object => decidable_of_iff (object ∈ alive) (by simp [PointsTo])

def Access.perform (alive : List Nat) : Access → List Nat
  | .new object => object :: alive
  | .delete pointer => alive.filter fun object => pointer != some object
  | .use _ => alive

def Access.Legal (alive : List Nat) : Access → Prop
  | .new _ => True
  | .delete pointer => PointsTo alive pointer
  | .use pointer => PointsTo alive pointer

instance (alive : List Nat) : ∀ access : Access, Decidable (access.Legal alive)
  | .new _ => inferInstanceAs (Decidable True)
  | .delete pointer => inferInstanceAs (Decidable (PointsTo alive pointer))
  | .use pointer => inferInstanceAs (Decidable (PointsTo alive pointer))

def aliveAfter (alive : List Nat) (trace : List Access) : List Nat :=
  trace.foldl Access.perform alive

def LegalFrom : List Nat → List Access → Prop
  | _, [] => True
  | alive, access :: rest => access.Legal alive ∧ LegalFrom (access.perform alive) rest

instance : ∀ alive trace, Decidable (LegalFrom alive trace)
  | _, [] => inferInstanceAs (Decidable True)
  | alive, access :: rest =>
    have : Decidable (LegalFrom (access.perform alive) rest) :=
      instDecidableLegalFrom (access.perform alive) rest
    inferInstanceAs (Decidable (access.Legal alive ∧ LegalFrom (access.perform alive) rest))

lemma legalFrom_append (alive first second) :
    LegalFrom alive (first ++ second) ↔
      LegalFrom alive first ∧ LegalFrom (aliveAfter alive first) second := by
  induction first generalizing alive with
  | nil => simp [LegalFrom, aliveAfter]
  | cons access rest ih =>
    simp only [List.cons_append, LegalFrom, ih, and_assoc]
    rfl

lemma aliveAfter_append (alive first second) :
    aliveAfter alive (first ++ second) = aliveAfter (aliveAfter alive first) second :=
  List.foldl_append

lemma uses_legal {alive pointer} (pointsTo : PointsTo alive pointer) {uses}
    (all : ∀ access ∈ uses, access = .use pointer) :
    LegalFrom alive uses ∧ aliveAfter alive uses = alive := by
  induction uses with
  | nil => exact ⟨trivial, rfl⟩
  | cons access rest ih =>
    have first := all access List.mem_cons_self
    obtain ⟨legal, unchanged⟩ := ih fun other member => all other (List.mem_cons_of_mem _ member)
    subst first
    exact ⟨⟨pointsTo, legal⟩, unchanged⟩

end EmuLib.ObjectLifetime
