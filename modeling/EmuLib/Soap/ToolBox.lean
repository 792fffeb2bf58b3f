import EmuLib.Lib.Document

/-!
Messages with parameters and their attributes.
-/

namespace EmuLib.Soap

open Document List

structure QualifiedName where
  name : String
  namespaceURI : String
  nsPrefix : String
deriving DecidableEq

namespace QualifiedName

variable (name other : QualifiedName)

def Same : Prop := name.name = other.name ∧ name.namespaceURI = other.namespaceURI

instance : Decidable (name.Same other) := inferInstanceAs (Decidable (_ ∧ _))

def Less : Prop :=
  name.name < other.name ∨ name.name = other.name ∧ name.namespaceURI < other.namespaceURI

instance : Decidable (name.Less other) := inferInstanceAs (Decidable (_ ∨ _))

def toText : String :=
  (if name.nsPrefix = "" then "" else name.nsPrefix ++ ":") ++ name.name ++
    if name.namespaceURI = "" then ""
    else " xmlns" ++ (if name.nsPrefix = "" then "" else ":" ++ name.nsPrefix) ++
      "=\"" ++ name.namespaceURI ++ "\""

theorem Less.trans {name other third : QualifiedName} (first : name.Less other)
    (second : other.Less third) : name.Less third := by
  rcases first with first | ⟨first, firstURI⟩
  · rcases second with second | ⟨second, _⟩
    · exact .inl (String.lt_trans first second)
    · exact .inl (second ▸ first)
  · rcases second with second | ⟨second, secondURI⟩
    · exact .inl (first ▸ second)
    · exact .inr ⟨first.trans second, String.lt_trans firstURI secondURI⟩

theorem Less.apart {name other : QualifiedName} (less : name.Less other) : ¬ name.Same other := by
  rintro ⟨same, sameURI⟩
  rcases less with less | ⟨_, less⟩
  · exact String.lt_irrefl _ (same ▸ less)
  · exact String.lt_irrefl _ (sameURI ▸ less)

end QualifiedName

/-- The types of the values: how a value is written into an element or as the text of an attribute,
and how an object of its type reads one, or throws. -/
structure Xdata (Value : Type) where
  type : Value → String
  toText : Value → String
  fromText : Value → String → Except String Value
  exportAll : Value → Element → Element
  importFrom : Value → Element → Except String Value
  keepsTag : ∀ value element, (exportAll value element).tag = element.tag

section

variable {Value : Type}

/-- A map from the names, and whether those without a namespace get that of the element. -/
structure Attributes (Value : Type) where
  entries : List (QualifiedName × Value)
  usePrefixOfParent : Bool
  sorted : (entries.map Prod.fst).Pairwise QualifiedName.Less

structure Parameter (Value : Type) where
  name : QualifiedName
  value : Value
  attributes : Option (Attributes Value)

structure Parameters (Value : Type) where
  entries : List (Parameter Value)
  usePrefixOfParent : Bool

def Attributes.none_ : Attributes Value := ⟨[], true, .nil⟩

def insertEntry (name : QualifiedName) (value : Value) :
    List (QualifiedName × Value) → List (QualifiedName × Value)
  | [] => [(name, value)]
  | entry :: rest =>
    if name.Less entry.1 then (name, value) :: entry :: rest
    else if entry.1.Less name then entry :: insertEntry name value rest
    else entry :: rest

variable {value : Value} {entries : List (QualifiedName × Value)}

theorem mem_insertEntry {name found}
    (member : found ∈ (insertEntry name value entries).map Prod.fst) :
    found = name ∨ found ∈ entries.map Prod.fst := by
  induction entries with
  | nil => exact .inl (mem_singleton.1 member)
  | cons entry rest ih =>
    rw [insertEntry] at member
    split at member
    · exact mem_cons.1 member
    · split at member
      · rcases mem_cons.1 member with rfl | later
        · exact .inr mem_cons_self
        · exact (ih later).imp_right (mem_cons_of_mem _)
      · exact .inr member

theorem insertEntry_sorted {name} (sorted : (entries.map Prod.fst).Pairwise QualifiedName.Less) :
    ((insertEntry name value entries).map Prod.fst).Pairwise QualifiedName.Less := by
  induction entries with
  | nil => exact pairwise_singleton ..
  | cons entry rest ih =>
    obtain ⟨first, others⟩ := pairwise_cons.1 sorted
    rw [insertEntry]
    split
    · rename_i before
      refine pairwise_cons.2 ⟨fun other member => ?_, sorted⟩
      rcases mem_cons.1 member with rfl | later
      · exact before
      · exact before.trans (first other later)
    · split
      · rename_i behind
        refine pairwise_cons.2 ⟨fun other member => ?_, ih others⟩
        rcases mem_insertEntry member with rfl | old
        · exact behind
        · exact first other old
      · exact sorted

namespace Attributes

variable (attributes : Attributes Value)

def setUsePrefixOfParent (usePrefixOfParent : Bool) : Attributes Value :=
  { attributes with usePrefixOfParent }

def add (name : QualifiedName) (value : Value) : Attributes Value :=
  { attributes with
    entries := insertEntry name value attributes.entries
    sorted := insertEntry_sorted attributes.sorted }

end Attributes

namespace Parameters

def none_ : Parameters Value := ⟨[], true⟩

variable (parameters : Parameters Value)

def setUsePrefixOfParent (usePrefixOfParent : Bool) : Parameters Value :=
  { parameters with usePrefixOfParent }

def add (name : QualifiedName) (value : Value) (attributes : Option (Attributes Value)) :
    Parameters Value :=
  { parameters with entries := parameters.entries ++ [⟨name, value, attributes⟩] }

end Parameters

end

section

variable {Value : Type} (xdata : Xdata Value)

def listText (texts : List String) : String :=
  if texts = [] then "" else "[" ++ ", ".intercalate texts ++ "]"

def valueText (name : QualifiedName) (value : Value) : String :=
  "(name:'" ++ name.toText ++ "' type:'" ++ xdata.type value ++ "' value:'" ++
    xdata.toText value ++ "'"

def attributesText (entries : List (QualifiedName × Value)) : String :=
  listText (entries.map fun entry => valueText xdata entry.1 entry.2 ++ ")")

def parametersText (parameters : List (Parameter Value)) : String :=
  listText (parameters.map fun parameter =>
    valueText xdata parameter.name parameter.value ++
      (parameter.attributes.elim "" fun attributes =>
        " attributes:" ++ attributesText xdata attributes.entries) ++ ")")

end

section

variable {Value : Type} (xdata : Xdata Value)

def XDAQ_NS_URI : String := "urn:xdaq-soap:3.0"
def SOAPENV_NAMESPACE_URI : String := "http://schemas.xmlsoap.org/soap/envelope/"
def SOAPENC_NAMESPACE_URI : String := "http://schemas.xmlsoap.org/soap/encoding/"

def emptyElement (tag : Tag) : Element := ⟨tag, [], "", []⟩

def soapEnv (name : String) : Tag := ⟨SOAPENV_NAMESPACE_URI, "soap-env", name⟩

def nameIn (parent : Tag) (usePrefixOfParent : Bool) (name : QualifiedName) : Tag :=
  if name.namespaceURI ≠ "" then ⟨name.namespaceURI, name.nsPrefix, name.name⟩
  else if usePrefixOfParent then ⟨parent.uri, parent.nsPrefix, name.name⟩
  else ⟨"", "", name.name⟩

def attributeEntries (tag : Tag) (attributes : Attributes Value) : List (Tag × String) :=
  attributes.entries.map fun entry =>
    (nameIn tag attributes.usePrefixOfParent entry.1, xdata.toText entry.2)

def addAttributes (element : Element) (attributes : Attributes Value) : Element :=
  { element with
    attributes := element.attributes.setAll (attributeEntries xdata element.tag attributes) }

def propertyElement (parent : Tag) (usePrefixOfParent : Bool) (parameter : Parameter Value) :
    Element :=
  let element :=
    xdata.exportAll parameter.value (emptyElement (nameIn parent usePrefixOfParent parameter.name))
  parameter.attributes.elim element (addAttributes xdata element)

def includeParameters (parent : Element) (parameters : Parameters Value) : Element :=
  { parent with
    children := parent.children ++
      parameters.entries.map (propertyElement xdata parent.tag parameters.usePrefixOfParent) }

def commandTag (command : QualifiedName) : Tag where
  uri := if command.namespaceURI ≠ "" then command.namespaceURI else XDAQ_NS_URI
  nsPrefix := if command.nsPrefix ≠ "" then command.nsPrefix else "xdaq"
  name := command.name

def envelope (body : List Element) : Element where
  tag := soapEnv "Envelope"
  attributes := [(soapEnv "encodingStyle", SOAPENC_NAMESPACE_URI)]
  text := ""
  children := [emptyElement (soapEnv "Header"), { emptyElement (soapEnv "Body") with children := body }]

def createMessage (command : QualifiedName) (parameters : Parameters Value)
    (attributes : Attributes Value) : Element :=
  let cmdElement := addAttributes xdata (emptyElement (commandTag command)) attributes
  envelope [includeParameters xdata cmdElement parameters]

end

variable {Value : Type} (xdata : Xdata Value)

def readEach {Entry : Type} (read : Entry → Entry × Option String) :
    List Entry → List Entry × Option String
  | [] => ([], none)
  | entry :: rest =>
    match read entry with
    | (next, some what) => (next :: rest, some what)
    | (next, none) => (next :: (readEach read rest).1, (readEach read rest).2)

theorem readEach_keeps {Entry Key : Type} {read} {key : Entry → Key}
    (keeps : ∀ entry, key (read entry).1 = key entry) (entries) :
    (readEach read entries).1.map key = entries.map key := by
  induction entries with
  | nil => rfl
  | cons entry rest ih =>
    have first := keeps entry
    rw [readEach]
    split
    · rename_i next what result
      rw [result] at first
      exact congrArg (· :: _) first
    · rename_i next result
      rw [result] at first
      exact (congrArg (· :: _) first).trans (congrArg (key entry :: ·) ih)

def soughtAttribute (element : Element) (name : QualifiedName) : Option String :=
  if name.namespaceURI ≠ "" then element.attributes.getNamedItemNS name.namespaceURI name.name
  else if element.tag.uri ≠ "" then element.attributes.getNamedItemNS element.tag.uri name.name
  else element.attributes.getNamedItem name.name

def extractAttribute (parameter : QualifiedName) (element : Element)
    (entry : QualifiedName × Value) : (QualifiedName × Value) × Option String :=
  match soughtAttribute element entry.1 with
  | none => (entry, some ("Failed to extract attribute '" ++ entry.1.toText ++
      "' of parameter '" ++ parameter.toText ++ "' from SOAP message."))
  | some text =>
    match xdata.fromText entry.2 text with
    | .error what => (entry, some what)
    | .ok value => ((entry.1, value), none)

theorem extractAttribute_name (parameter element entry) :
    (extractAttribute xdata parameter element entry).1.1 = entry.1 := by
  rw [extractAttribute]
  split
  · rfl
  · split <;> rfl

def extractAttributes (parameter : QualifiedName) (element : Element)
    (attributes : Attributes Value) : Attributes Value × Option String :=
  let read := readEach (extractAttribute xdata parameter element) attributes.entries
  ({ attributes with
      entries := read.1
      sorted := by
        have keeps := readEach_keeps (extractAttribute_name xdata parameter element)
          attributes.entries
        rw [keeps]
        exact attributes.sorted }, read.2)

def soughtElement (document : Element) (name : QualifiedName) : Option Element :=
  (document.getElementsByTagNameNS (if name.namespaceURI ≠ "" then name.namespaceURI else "*")
    name.name).head?

def extractParameter (document : Element) (parameter : Parameter Value) :
    Parameter Value × Option String :=
  match soughtElement document parameter.name with
  | none => (parameter, some ("Failed to extract parameter '" ++ parameter.name.toText ++
      "' from SOAP message."))
  | some element =>
    match xdata.importFrom parameter.value element with
    | .error what => (parameter, some what)
    | .ok value =>
      match parameter.attributes with
      | none => ({ parameter with value }, none)
      | some attributes =>
        let (read, failure) := extractAttributes xdata parameter.name element attributes
        ({ parameter with value, attributes := some read }, failure)

structure Thrown where
  message : String
  cause : String

/-- `transfer` stands for writing the message as text and parsing that. -/
def extractParameters (transfer : Element → Except String Element) (message : Element)
    (parameters : Parameters Value) : Except Thrown (Parameters Value) :=
  match transfer message with
  | .error what =>
    .error ⟨"Failed to extract parameters " ++ parametersText xdata parameters.entries, what⟩
  | .ok document =>
    match readEach (extractParameter xdata document) parameters.entries with
    | (entries, none) => .ok { parameters with entries }
    | (entries, some what) =>
      .error ⟨"Failed to extract parameters " ++ parametersText xdata entries, what⟩

end EmuLib.Soap
