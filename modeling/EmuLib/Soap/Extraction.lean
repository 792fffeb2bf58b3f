import EmuLib.Soap.ToolBox
import Mathlib.Data.List.Forall2

/-!
What is extracted from a message: the first element with the name of a parameter, wherever it is.
-/

namespace EmuLib.Soap

open Document

section

variable {Entry : Type} {read : Entry → Entry × Option String}

lemma readEach_done (entries) :
    (readEach read entries).2 = none ↔ ∀ entry ∈ entries, (read entry).2 = none := by
  induction entries with
  | nil => simp [readEach]
  | cons entry rest ih =>
    rw [List.forall_mem_cons, ← ih, readEach]
    split
    · rename_i next what result
      simp [result]
    · rename_i next result
      simp [result]

lemma readEach_reads {Reads} (entries)
    (reads : ∀ entry ∈ entries, (read entry).2 = none → Reads entry (read entry).1)
    (done : (readEach read entries).2 = none) :
    List.Forall₂ Reads entries (readEach read entries).1 := by
  induction entries with
  | nil => exact .nil
  | cons entry rest ih =>
    obtain ⟨first, others⟩ := List.forall_mem_cons.1 reads
    rw [readEach] at done ⊢
    split at done
    · cases done
    · rename_i next result
      rw [result] at first
      exact .cons (first rfl) (ih others done)

end

section

variable {Value : Type}

def QualifiedName.Meets (name : QualifiedName) (tag : Tag) : Prop :=
  tag.MatchedBy (if name.namespaceURI ≠ "" then name.namespaceURI else "*") name.name

instance (name : QualifiedName) (tag : Tag) : Decidable (name.Meets tag) :=
  inferInstanceAs (Decidable (Tag.MatchedBy ..))

lemma soughtElement_eq (document name) :
    soughtElement document name =
      document.preorder.find? fun element => name.Meets element.tag := by
  rw [soughtElement, Element.getElementsByTagNameNS, List.head?_filter]
  rfl

def QualifiedName.HeardIn (name : QualifiedName) (element tag : Tag) : Prop :=
  if name.namespaceURI ≠ "" then tag.uri = name.namespaceURI ∧ tag.name = name.name
  else if element.uri ≠ "" then tag.uri = element.uri ∧ tag.name = name.name
  else tag.qualified = name.name

instance (name : QualifiedName) (element tag : Tag) : Decidable (name.HeardIn element tag) := by
  unfold QualifiedName.HeardIn
  infer_instance

lemma soughtAttribute_eq (element name) :
    soughtAttribute element name =
      (element.attributes.find? fun one => name.HeardIn element.tag one.1).map Prod.snd := by
  rw [soughtAttribute]
  by_cases explicit : name.namespaceURI ≠ ""
  · rw [AttributeMap.getNamedItemNS]
    simp only [QualifiedName.HeardIn, if_pos explicit]
  · rw [if_neg explicit]
    by_cases inside : element.tag.uri ≠ ""
    · rw [AttributeMap.getNamedItemNS]
      simp only [QualifiedName.HeardIn, if_neg explicit, if_pos inside]
    · rw [AttributeMap.getNamedItem]
      simp only [QualifiedName.HeardIn, if_neg explicit, if_neg inside]

end

section

variable {Value : Type} (xdata : Xdata Value)

def Parameter.attributeList (parameter : Parameter Value) : List (QualifiedName × Value) :=
  parameter.attributes.elim [] Attributes.entries

structure Readable (element : Element) (sought : Parameter Value) : Prop where
  value : ∃ value, xdata.importFrom sought.value element = .ok value
  attributes : ∀ entry ∈ sought.attributeList, ∃ text,
    soughtAttribute element entry.1 = some text ∧ ∃ value, xdata.fromText entry.2 text = .ok value

structure Reads (element : Element) (sought read : Parameter Value) : Prop where
  name : read.name = sought.name
  value : xdata.importFrom sought.value element = .ok read.value
  attributes : List.Forall₂ (fun entry found => found.1 = entry.1 ∧ ∃ text,
      soughtAttribute element entry.1 = some text ∧ xdata.fromText entry.2 text = .ok found.2)
    sought.attributeList read.attributeList

variable {xdata} {document element : Element} {sought : Parameter Value}
variable {parameter : QualifiedName} {entry : QualifiedName × Value}

lemma extractAttribute_read :
    (extractAttribute xdata parameter element entry).2 = none ↔ ∃ text,
      soughtAttribute element entry.1 = some text ∧
        ∃ value, xdata.fromText entry.2 text = .ok value := by
  rw [extractAttribute]
  split
  · rename_i missing
    rw [missing]
    simp
  · rename_i text found
    rw [found]
    split
    · rename_i what threw
      simp [threw]
    · rename_i value result
      simp [result]

lemma extractAttribute_reads (done : (extractAttribute xdata parameter element entry).2 = none) :
    (extractAttribute xdata parameter element entry).1.1 = entry.1 ∧ ∃ text,
      soughtAttribute element entry.1 = some text ∧
        xdata.fromText entry.2 text =
          .ok (extractAttribute xdata parameter element entry).1.2 := by
  refine ⟨extractAttribute_name .., ?_⟩
  obtain ⟨text, found, value, result⟩ := extractAttribute_read.1 done
  refine ⟨text, found, ?_⟩
  rw [extractAttribute]
  simp only [found, result]

lemma extractParameter_read :
    (extractParameter xdata document sought).2 = none ↔ ∃ element,
      soughtElement document sought.name = some element ∧ Readable xdata element sought := by
  rw [extractParameter]
  split
  · rename_i missing
    rw [missing]
    simp
  · rename_i element found
    rw [found]
    simp only [Option.some.injEq, exists_eq_left']
    split
    · rename_i what threw
      refine iff_of_false (by simp) fun readable => ?_
      obtain ⟨value, result⟩ := readable.value
      rw [threw] at result
      cases result
    · rename_i value result
      split
      · rename_i alone
        refine iff_of_true rfl ⟨⟨value, result⟩, fun entry member => ?_⟩
        rw [Parameter.attributeList, alone] at member
        exact absurd member List.not_mem_nil
      · rename_i attributes some_
        have list : sought.attributeList = attributes.entries := by
          rw [Parameter.attributeList, some_]
          rfl
        have done : (extractAttributes xdata sought.name element attributes).2 = none ↔
            ∀ entry ∈ attributes.entries,
              (extractAttribute xdata sought.name element entry).2 = none :=
          readEach_done attributes.entries
        rw [done]
        constructor
        · intro each
          refine ⟨⟨value, result⟩, fun entry member => ?_⟩
          rw [list] at member
          exact extractAttribute_read.1 (each entry member)
        · intro readable entry member
          exact extractAttribute_read.2 (readable.attributes entry (list ▸ member))

lemma extractParameter_reads (found : soughtElement document sought.name = some element)
    (done : (extractParameter xdata document sought).2 = none) :
    Reads xdata element sought (extractParameter xdata document sought).1 := by
  obtain ⟨other, same, readable⟩ := extractParameter_read.1 done
  obtain rfl := Option.some.inj (found.symm.trans same)
  obtain ⟨value, result⟩ := readable.value
  have each : ∀ entry ∈ sought.attributeList,
      (extractAttribute xdata sought.name element entry).2 = none := fun entry member =>
    extractAttribute_read.2 (readable.attributes entry member)
  rw [extractParameter]
  simp only [found, result]
  split
  · rename_i alone
    refine ⟨rfl, result, ?_⟩
    rw [Parameter.attributeList, alone]
    exact .nil
  · rename_i attributes some_
    refine ⟨rfl, result, ?_⟩
    rw [Parameter.attributeList, some_] at each ⊢
    have done : (readEach (extractAttribute xdata sought.name element)
        attributes.entries).2 = none := (readEach_done _).2 each
    exact readEach_reads attributes.entries (fun entry _ => extractAttribute_reads) done

end

variable {Value : Type} {xdata : Xdata Value} {transfer : Element → Except String Element}
  {message document : Element}

lemma extractParameters_throws (parsed : transfer message = .ok document) (sought) :
    (∃ thrown, extractParameters xdata transfer message sought = .error thrown) ↔
      ∃ one ∈ sought.entries, ¬ ∃ element,
        document.preorder.find? (fun element => one.name.Meets element.tag) = some element ∧
          Readable xdata element one := by
  have done : (readEach (extractParameter xdata document) sought.entries).2 = none ↔
      ∀ one ∈ sought.entries, ∃ element,
        document.preorder.find? (fun element => one.name.Meets element.tag) = some element ∧
          Readable xdata element one := by
    rw [readEach_done]
    refine forall₂_congr fun one _ => ?_
    rw [extractParameter_read, soughtElement_eq]
  have throws := not_congr done
  simp only [not_forall, exists_prop] at throws
  rw [← throws, extractParameters, parsed]
  dsimp only
  split
  · rename_i entries result
    rw [result]
    simp
  · rename_i entries what result
    rw [result]
    simp

lemma extractParameters_reads (parsed : transfer message = .ok document) {sought read}
    (done : extractParameters xdata transfer message sought = .ok read) :
    List.Forall₂ (fun one found => ∃ element,
        document.preorder.find? (fun element => one.name.Meets element.tag) = some element ∧
          Reads xdata element one found) sought.entries read.entries := by
  rw [extractParameters, parsed] at done
  dsimp only at done
  split at done
  · rename_i entries result
    obtain rfl := Except.ok.inj done
    have all := @readEach_reads _ (extractParameter xdata document)
      (fun one found => ∃ element,
        document.preorder.find? (fun element => one.name.Meets element.tag) = some element ∧
          Reads xdata element one found) sought.entries ?_ (by rw [result])
    · rw [result] at all
      exact all
    · intro one _ fine
      obtain ⟨element, found, _⟩ := extractParameter_read.1 fine
      exact ⟨element, soughtElement_eq .. ▸ found, extractParameter_reads found fine⟩
  · cases done

end EmuLib.Soap
