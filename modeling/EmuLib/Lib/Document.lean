/-!
Documents of elements whose names are in namespaces.

A name is kept with its namespace, so the declarations of the namespaces are
not among the attributes.  A search by name goes through the elements in the
order of the document; an attribute that is set replaces one of that name.
-/

namespace EmuLib.Document

structure Tag where
  uri : String
  nsPrefix : String
  name : String
deriving DecidableEq

namespace Tag

variable (tag : Tag)

def qualified : String := if tag.nsPrefix = "" then tag.name else tag.nsPrefix ++ ":" ++ tag.name

def Same (other : Tag) : Prop := tag.uri = other.uri ∧ tag.name = other.name

instance (other : Tag) : Decidable (tag.Same other) := inferInstanceAs (Decidable (_ ∧ _))

def MatchedBy (uri name : String) : Prop := (uri = "*" ∨ uri = tag.uri) ∧ (name = "*" ∨ name = tag.name)

instance (uri name : String) : Decidable (tag.MatchedBy uri name) :=
  inferInstanceAs (Decidable (_ ∧ _))

end Tag

abbrev AttributeMap := List (Tag × String)

namespace AttributeMap

def setNamedItem (attributes : AttributeMap) (tag : Tag) (value : String) : AttributeMap :=
  (tag, value) :: attributes.filter fun other => ¬ other.1.Same tag

def getNamedItemNS (attributes : AttributeMap) (uri name : String) : Option String :=
  (attributes.find? fun one => one.1.uri = uri ∧ one.1.name = name).map Prod.snd

def getNamedItem (attributes : AttributeMap) (name : String) : Option String :=
  (attributes.find? fun one => one.1.qualified = name).map Prod.snd

def setAll (attributes : AttributeMap) (entries : List (Tag × String)) : AttributeMap :=
  entries.foldl (fun attributes entry => attributes.setNamedItem entry.1 entry.2) attributes

def Leads (sought : Tag → Bool) (entry : Tag × String) (attributes : AttributeMap) : Prop :=
  attributes.find? (fun one => sought one.1) = some entry

variable {sought : Tag → Bool} {entry : Tag × String} {attributes : AttributeMap}

theorem leads_set (found : sought entry.1 = true) :
    (attributes.setNamedItem entry.1 entry.2).Leads sought entry :=
  List.find?_cons_of_pos found

theorem Leads.kept (leads : attributes.Leads sought entry) {tag} (apart : ¬ entry.1.Same tag)
    (missed : sought tag = false) (value) :
    (attributes.setNamedItem tag value).Leads sought entry := by
  obtain ⟨found, before, after, split, missedBefore⟩ := List.find?_eq_some_iff_append.1 leads
  have skipped : (attributes.setNamedItem tag value).find? (fun one => sought one.1) =
      (attributes.filter fun other => ¬ other.1.Same tag).find? fun one => sought one.1 :=
    List.find?_cons_of_neg (by simp [missed])
  rw [Leads, skipped, split, List.filter_append,
    List.filter_cons_of_pos (by simpa using apart), List.find?_append]
  have none_ : (before.filter fun other => ¬ other.1.Same tag).find? (fun one => sought one.1) =
      none := by
    rw [List.find?_eq_none]
    intro one member
    have before_ := missedBefore one (List.mem_filter.1 member).1
    simpa using before_
  rw [none_, Option.none_or]
  exact List.find?_cons_of_pos found

theorem leads_setAll {before after} (found : sought entry.1 = true)
    (later : ∀ other ∈ after, ¬ entry.1.Same other.1 ∧ sought other.1 = false) :
    (attributes.setAll (before ++ entry :: after)).Leads sought entry := by
  rw [setAll, List.foldl_append, List.foldl_cons]
  have leads := @leads_set sought entry (attributes.setAll before) found
  rw [setAll] at leads
  generalize (before.foldl (fun attributes entry => attributes.setNamedItem entry.1 entry.2)
    attributes).setNamedItem entry.1 entry.2 = current at leads
  induction after generalizing current with
  | nil => exact leads
  | cons other rest ih =>
    obtain ⟨⟨apart, missed⟩, others⟩ := List.forall_mem_cons.1 later
    exact ih others _ (leads.kept apart missed other.2)

end AttributeMap

structure Element where
  tag : Tag
  attributes : AttributeMap
  text : String
  children : List Element

namespace Element

mutual

def preorder : Element → List Element
  | ⟨tag, attributes, text, children⟩ =>
    ⟨tag, attributes, text, children⟩ :: preorderAll children

def preorderAll : List Element → List Element
  | [] => []
  | child :: rest => child.preorder ++ preorderAll rest

end

variable (document : Element)

def getElementsByTagNameNS (uri name : String) : List Element :=
  document.preorder.filter fun element => element.tag.MatchedBy uri name

theorem preorder_eq : document.preorder = document :: preorderAll document.children := by
  cases document
  rfl

theorem preorderAll_eq (elements) : preorderAll elements = elements.flatMap preorder := by
  induction elements with
  | nil => rfl
  | cons element rest ih => rw [preorderAll, ih, List.flatMap_cons]

end Element

end EmuLib.Document
