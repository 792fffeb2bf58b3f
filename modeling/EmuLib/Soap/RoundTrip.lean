import EmuLib.Soap.Extraction

/-!
A message that has been created, and what is extracted from it.
-/

namespace EmuLib.Soap

open Document AttributeMap List

section

variable {Value : Type} (xdata : Xdata Value) (command : QualifiedName)
  (parameters : Parameters Value) (attributes : Attributes Value)

def ownElement (parameter : Parameter Value) : Element :=
  propertyElement xdata (commandTag command) parameters.usePrefixOfParent parameter

def commandElement : Element :=
  includeParameters xdata (addAttributes xdata (emptyElement (commandTag command)) attributes)
    parameters

def outerElements : List Element :=
  let message := createMessage xdata command parameters attributes
  [message, emptyElement (soapEnv "Header"),
    { emptyElement (soapEnv "Body") with
      children := [commandElement xdata command parameters attributes] },
    commandElement xdata command parameters attributes]

def listing : List Element :=
  outerElements xdata command parameters attributes ++
    parameters.entries.flatMap fun parameter => (ownElement xdata command parameters parameter).preorder

lemma preorder_message :
    (createMessage xdata command parameters attributes).preorder =
      listing xdata command parameters attributes := by
  have inner : Element.preorderAll
      (parameters.entries.map (propertyElement xdata (commandTag command)
        parameters.usePrefixOfParent)) =
      parameters.entries.flatMap fun parameter =>
        (ownElement xdata command parameters parameter).preorder := by
    rw [Element.preorderAll_eq, flatMap_map]
    rfl
  have below : (commandElement xdata command parameters attributes).preorder =
      commandElement xdata command parameters attributes ::
        parameters.entries.flatMap fun parameter =>
          (ownElement xdata command parameters parameter).preorder := by
    rw [← inner]
    rfl
  rw [listing]
  refine congrArg (List.cons _) (congrArg (List.cons _) (congrArg (List.cons _) ?_))
  refine (append_nil _).trans ?_
  refine (append_nil _).trans below

def outerTags : List Tag :=
  [soapEnv "Envelope", soapEnv "Header", soapEnv "Body", commandTag command]

def tagsOf (parameter : Parameter Value) : List Tag :=
  (ownElement xdata command parameters parameter).preorder.map Element.tag

def First (parameter : Parameter Value) : Prop :=
  ∃ earlier later, parameters.entries = earlier ++ parameter :: later ∧
    ∀ tag ∈ outerTags command ++ earlier.flatMap (tagsOf xdata command parameters),
      ¬ parameter.name.Meets tag

end

section

variable {Value : Type} {xdata : Xdata Value} {command : QualifiedName}
  {parameters : Parameters Value} {parameter : Parameter Value}

lemma ownElement_tag :
    (ownElement xdata command parameters parameter).tag =
      nameIn (commandTag command) parameters.usePrefixOfParent parameter.name := by
  rw [ownElement, propertyElement]
  cases parameter.attributes <;> exact xdata.keepsTag ..

lemma own_meets (parent usePrefixOfParent) (name : QualifiedName) :
    name.Meets (nameIn parent usePrefixOfParent name) := by
  rw [QualifiedName.Meets, nameIn]
  by_cases explicit : name.namespaceURI ≠ ""
  · rw [if_pos explicit, if_pos explicit]
    exact ⟨.inr rfl, .inr rfl⟩
  · rw [if_neg explicit, if_neg explicit]
    refine ⟨.inl rfl, .inr ?_⟩
    split <;> rfl

lemma meets_congr {name other : QualifiedName} (same : name.Same other) (tag) :
    name.Meets tag ↔ other.Meets tag := by
  rw [QualifiedName.Meets, QualifiedName.Meets, same.1, same.2]

lemma found_first {attributes} {name : QualifiedName}
    (first : First xdata command parameters parameter) (same : name.Same parameter.name) :
    (listing xdata command parameters attributes).find? (fun element => name.Meets element.tag) =
      some (ownElement xdata command parameters parameter) := by
  obtain ⟨earlier, later, entries, ahead⟩ := first
  have own : parameter.name.Meets (ownElement xdata command parameters parameter).tag := by
    rw [ownElement_tag]
    exact own_meets ..
  obtain ⟨rest, split⟩ : ∃ rest, (ownElement xdata command parameters parameter).preorder =
      ownElement xdata command parameters parameter :: rest := ⟨_, Element.preorder_eq _⟩
  rw [find?_eq_some_iff_append]
  refine ⟨decide_eq_true ((meets_congr same _).2 own),
    outerElements xdata command parameters attributes ++ earlier.flatMap fun parameter =>
      (ownElement xdata command parameters parameter).preorder,
    rest ++ later.flatMap fun parameter => (ownElement xdata command parameters parameter).preorder,
    ?_, ?_⟩
  · rw [listing, entries, flatMap_append, flatMap_cons, split]
    simp
  · intro element member
    have missed : ¬ parameter.name.Meets element.tag := by
      refine ahead _ ?_
      rcases mem_append.1 member with outer | inner
      · refine mem_append_left _ ?_
        have tags := mem_map_of_mem (f := Element.tag) outer
        exact tags
      · refine mem_append_right _ ?_
        obtain ⟨before, there, inside⟩ := mem_flatMap.1 inner
        exact mem_flatMap.2 ⟨before, there, mem_map_of_mem (f := Element.tag) inside⟩
    have other : ¬ name.Meets element.tag := fun meets => missed ((meets_congr same _).1 meets)
    simpa using other

end

section

variable {Value : Type} {xdata : Xdata Value}

/-- An attribute without a namespace is where one is looked for: in the namespace of the element,
or without one in an element that has none; and no attribute of a given namespace is in its way. -/
def Inherited (element : Tag) (attributes : Attributes Value) : Prop :=
  ∀ entry ∈ attributes.entries, entry.1.namespaceURI = "" →
    (element.uri = "" ∨ attributes.usePrefixOfParent = true) ∧
    ∀ other ∈ attributes.entries, other.1.namespaceURI ≠ "" →
      ¬ entry.1.HeardIn element (nameIn element attributes.usePrefixOfParent other.1)

lemma nameIn_explicit {element usePrefixOfParent name} (explicit : name.namespaceURI ≠ "") :
    nameIn element usePrefixOfParent name = ⟨name.namespaceURI, name.nsPrefix, name.name⟩ :=
  if_pos explicit

lemma nameIn_inherited {element usePrefixOfParent name}
    (bare : element.uri = "" → element.nsPrefix = "") (inherits : name.namespaceURI = "")
    (heard : element.uri = "" ∨ usePrefixOfParent = true) :
    nameIn element usePrefixOfParent name = ⟨element.uri, element.nsPrefix, name.name⟩ := by
  rw [nameIn, if_neg (not_not.2 inherits)]
  split
  · rfl
  · rename_i without
    have none_ := heard.resolve_right without
    rw [none_, bare none_]

lemma qualified_bare (name) : (⟨"", "", name⟩ : Tag).qualified = name := if_pos rfl

lemma heard_inherited {element} {name : QualifiedName} {other}
    (bare : element.uri = "" → element.nsPrefix = "") (inherits : name.namespaceURI = "") :
    name.HeardIn element ⟨element.uri, element.nsPrefix, other⟩ ↔ other = name.name := by
  rw [QualifiedName.HeardIn, if_neg (not_not.2 inherits)]
  by_cases inside : element.uri ≠ ""
  · rw [if_pos inside]
    exact and_iff_right rfl
  · have none_ := not_not.1 inside
    rw [if_neg inside, none_, bare none_, qualified_bare]

variable {element : Tag} {attributes : Attributes Value}

lemma heard_own (bare : element.uri = "" → element.nsPrefix = "")
    (inherited : Inherited element attributes) {entry} (member : entry ∈ attributes.entries) :
    entry.1.HeardIn element (nameIn element attributes.usePrefixOfParent entry.1) := by
  by_cases inherits : entry.1.namespaceURI = ""
  · rw [nameIn_inherited bare inherits (inherited entry member inherits).1,
      heard_inherited bare inherits]
  · rw [nameIn_explicit inherits, QualifiedName.HeardIn, if_pos inherits]
    exact ⟨rfl, rfl⟩

lemma heard_apart (bare : element.uri = "" → element.nsPrefix = "")
    (inherited : Inherited element attributes) {entry other} (member : entry ∈ attributes.entries)
    (there : other ∈ attributes.entries) (apart : ¬ entry.1.Same other.1) :
    ¬ (nameIn element attributes.usePrefixOfParent entry.1).Same
        (nameIn element attributes.usePrefixOfParent other.1) ∧
      ¬ entry.1.HeardIn element (nameIn element attributes.usePrefixOfParent other.1) := by
  by_cases inherits : entry.1.namespaceURI = ""
  · obtain ⟨heard, clear⟩ := inherited entry member inherits
    have own := nameIn_inherited bare inherits heard
    by_cases inheritsToo : other.1.namespaceURI = ""
    · have different : ¬ other.1.name = entry.1.name := fun same =>
        apart ⟨same.symm, inherits.trans inheritsToo.symm⟩
      rw [own, nameIn_inherited bare inheritsToo heard, heard_inherited bare inherits]
      exact ⟨fun same => different same.2.symm, different⟩
    · have missed := clear other there inheritsToo
      refine ⟨fun same => missed ?_, missed⟩
      rw [own, nameIn_explicit inheritsToo] at same
      rw [nameIn_explicit inheritsToo, QualifiedName.HeardIn, if_neg (not_not.2 inherits),
        if_pos (fun none_ => inheritsToo (same.1.symm.trans none_))]
      exact ⟨same.1.symm, same.2.symm⟩
  · rw [nameIn_explicit inherits, QualifiedName.HeardIn, if_pos inherits]
    by_cases inheritsToo : other.1.namespaceURI = ""
    · obtain ⟨heard, clear⟩ := inherited other there inheritsToo
      have missed := clear entry member inherits
      rw [nameIn_explicit inherits] at missed
      rw [nameIn_inherited bare inheritsToo heard]
      have different : ¬ (element.uri = entry.1.namespaceURI ∧ other.1.name = entry.1.name) := by
        rintro ⟨uri, name⟩
        refine missed ?_
        rw [QualifiedName.HeardIn, if_neg (not_not.2 inheritsToo),
          if_pos (fun none_ => inherits (uri.symm.trans none_))]
        exact ⟨uri.symm, name.symm⟩
      exact ⟨fun same => different ⟨same.1.symm, same.2.symm⟩, different⟩
    · rw [nameIn_explicit inheritsToo]
      exact ⟨fun same => apart ⟨same.2, same.1⟩, fun same => apart ⟨same.2.symm, same.1.symm⟩⟩

lemma heardIn_congr {name other : QualifiedName} (same : name.Same other) (element tag) :
    name.HeardIn element tag ↔ other.HeardIn element tag := by
  rw [QualifiedName.HeardIn, QualifiedName.HeardIn, same.1, same.2]

lemma addAttributes_found {start} (bare : start.tag.uri = "" → start.tag.nsPrefix = "")
    (inherited : Inherited start.tag attributes) {entry}
    (member : entry ∈ attributes.entries) {name} (same : name.Same entry.1) :
    soughtAttribute (addAttributes xdata start attributes) name = some (xdata.toText entry.2) := by
  obtain ⟨before, after, split⟩ := append_of_mem member
  have sorted := attributes.sorted
  rw [split, map_append, map_cons, pairwise_append, pairwise_cons] at sorted
  have apart : ∀ other ∈ after, ¬ entry.1.Same other.1 := fun other there =>
    (sorted.2.1.1 other.1 (mem_map_of_mem (f := Prod.fst) there)).apart
  have leads := @leads_setAll (fun tag => decide (name.HeardIn start.tag tag))
    (nameIn start.tag attributes.usePrefixOfParent entry.1, xdata.toText entry.2) start.attributes
    (before.map fun entry =>
      (nameIn start.tag attributes.usePrefixOfParent entry.1, xdata.toText entry.2))
    (after.map fun entry =>
      (nameIn start.tag attributes.usePrefixOfParent entry.1, xdata.toText entry.2))
    (decide_eq_true ((heardIn_congr same _ _).2 (heard_own bare inherited member))) (by
      intro tagged there
      obtain ⟨other, inside, rfl⟩ := mem_map.1 there
      have within : other ∈ attributes.entries := by
        rw [split]
        exact mem_append_right _ (mem_cons_of_mem _ inside)
      obtain ⟨kept, missed⟩ := heard_apart bare inherited member within (apart other inside)
      exact ⟨kept, decide_eq_false fun heard => missed ((heardIn_congr same _ _).1 heard)⟩)
  have entries : attributeEntries xdata start.tag attributes =
      (before.map fun entry =>
        (nameIn start.tag attributes.usePrefixOfParent entry.1, xdata.toText entry.2)) ++
      (nameIn start.tag attributes.usePrefixOfParent entry.1, xdata.toText entry.2) ::
        after.map fun entry =>
          (nameIn start.tag attributes.usePrefixOfParent entry.1, xdata.toText entry.2) := by
    rw [attributeEntries, split, map_append, map_cons]
  rw [soughtAttribute_eq, addAttributes, entries]
  exact congrArg (Option.map Prod.snd) leads

end

section

variable {Sought Own Read : Type} {Blanks : Sought → Own → Prop}

lemma matched {sought own} (blanks : List.Forall₂ Blanks sought own)
    {one} (member : one ∈ sought) : ∃ other ∈ own, Blanks one other := by
  induction blanks with
  | nil => exact absurd member not_mem_nil
  | cons first _ ih =>
    rcases mem_cons.1 member with rfl | later
    · exact ⟨_, mem_cons_self, first⟩
    · obtain ⟨other, inside, both⟩ := ih later
      exact ⟨other, mem_cons_of_mem _ inside, both⟩

lemma matched_read {Reads : Sought → Read → Prop} {Gives sought own read}
    (blanks : List.Forall₂ Blanks sought own) (reads : List.Forall₂ Reads sought read)
    (gives : ∀ other ∈ own, ∀ one found, Blanks one other → Reads one found → Gives found other) :
    List.Forall₂ Gives read own := by
  induction blanks generalizing read with
  | nil =>
    cases reads
    exact .nil
  | cons first _ ih =>
    obtain ⟨here, others⟩ := forall_mem_cons.1 gives
    cases reads with
    | cons result rest => exact .cons (here _ _ first result) (ih rest others)

end

section

variable {Value : Type} {xdata : Xdata Value} {command : QualifiedName}
  {parameters : Parameters Value} {parameter sought : Parameter Value}

/-- Each value is read back from its own element, and that of an attribute from its text. -/
structure RoundTrips (xdata : Xdata Value) (command : QualifiedName)
    (parameters : Parameters Value) : Prop where
  value : ∀ parameter ∈ parameters.entries, ∀ current,
    xdata.type current = xdata.type parameter.value →
      xdata.importFrom current (ownElement xdata command parameters parameter) =
        .ok parameter.value
  text : ∀ parameter ∈ parameters.entries, ∀ entry ∈ parameter.attributeList, ∀ current,
    xdata.type current = xdata.type entry.2 →
      xdata.fromText current (xdata.toText entry.2) = .ok entry.2

structure Blank (xdata : Xdata Value) (sought own : Parameter Value) : Prop where
  name : sought.name.Same own.name
  type : xdata.type sought.value = xdata.type own.value
  attributes : List.Forall₂ (fun one other => one.1.Same other.1 ∧
    xdata.type one.2 = xdata.type other.2) sought.attributeList own.attributeList

structure Restored (read own : Parameter Value) : Prop where
  name : read.name.Same own.name
  value : read.value = own.value
  attributes : List.Forall₂ (fun one other => one.1.Same other.1 ∧ one.2 = other.2)
    read.attributeList own.attributeList

/-- The parameter's own element is the first of its name, and its attributes have the names they are
looked for by. -/
structure Clear (xdata : Xdata Value) (command : QualifiedName) (parameters : Parameters Value)
    (parameter : Parameter Value) : Prop where
  first : First xdata command parameters parameter
  inherited : ∀ attributes, parameter.attributes = some attributes →
    Inherited (nameIn (commandTag command) parameters.usePrefixOfParent parameter.name) attributes

lemma commandTag_uri (command) : (commandTag command).uri ≠ "" := by
  rw [commandTag]
  dsimp only
  split
  · assumption
  · decide

lemma nameIn_bare {usePrefixOfParent name}
    (none_ : (nameIn (commandTag command) usePrefixOfParent name).uri = "") :
    (nameIn (commandTag command) usePrefixOfParent name).nsPrefix = "" := by
  rw [nameIn] at none_ ⊢
  split at none_
  · rename_i explicit
    exact absurd none_ explicit
  · rename_i inherits
    rw [if_neg inherits]
    split at none_
    · exact absurd none_ (commandTag_uri command)
    · rename_i without
      rw [if_neg without]

lemma own_attribute (clear : Clear xdata command parameters parameter) {entry}
    (member : entry ∈ parameter.attributeList) {name} (same : name.Same entry.1) :
    soughtAttribute (ownElement xdata command parameters parameter) name =
      some (xdata.toText entry.2) := by
  cases some_ : parameter.attributes with
  | none =>
    rw [Parameter.attributeList, some_] at member
    exact absurd member not_mem_nil
  | some attributes =>
    rw [Parameter.attributeList, some_] at member
    have tag := xdata.keepsTag parameter.value
      (emptyElement (nameIn (commandTag command) parameters.usePrefixOfParent parameter.name))
    have inherited := clear.inherited attributes some_
    have own : ownElement xdata command parameters parameter =
        addAttributes xdata (xdata.exportAll parameter.value (emptyElement
          (nameIn (commandTag command) parameters.usePrefixOfParent parameter.name)))
          attributes := by
      rw [ownElement, propertyElement, some_]
      rfl
    rw [own]
    refine addAttributes_found ?_ ?_ member same
    · rw [tag]
      exact nameIn_bare
    · rw [tag]
      exact inherited

lemma own_readable (roundTrips : RoundTrips xdata command parameters)
    (clear : Clear xdata command parameters parameter) (member : parameter ∈ parameters.entries)
    (blank : Blank xdata sought parameter) :
    Readable xdata (ownElement xdata command parameters parameter) sought := by
  refine ⟨⟨_, roundTrips.value parameter member sought.value blank.type⟩, fun entry there => ?_⟩
  obtain ⟨other, inside, same, type⟩ := matched blank.attributes there
  exact ⟨_, own_attribute clear inside same, other.2,
    roundTrips.text parameter member other inside entry.2 type⟩

lemma own_restored (roundTrips : RoundTrips xdata command parameters)
    (clear : Clear xdata command parameters parameter) (member : parameter ∈ parameters.entries)
    (blank : Blank xdata sought parameter) {read}
    (reads : Reads xdata (ownElement xdata command parameters parameter) sought read) :
    Restored read parameter := by
  refine ⟨reads.name ▸ blank.name, ?_, ?_⟩
  · have value := roundTrips.value parameter member sought.value blank.type
    exact Except.ok.inj (reads.value.symm.trans value)
  · refine matched_read blank.attributes reads.attributes ?_
    rintro other inside entry found ⟨same, type⟩ ⟨name, text, there, value⟩
    rw [own_attribute clear inside same] at there
    obtain rfl := Option.some.inj there
    have own := roundTrips.text parameter member other inside entry.2 type
    exact ⟨name ▸ same, Except.ok.inj (value.symm.trans own)⟩

end

variable {Value : Type} {xdata : Xdata Value} {transfer : Element → Except String Element}
  {command : QualifiedName} {parameters : Parameters Value} {attributes : Attributes Value}

lemma own_extracted
    (parsed : transfer (createMessage xdata command parameters attributes) =
      .ok (createMessage xdata command parameters attributes))
    (roundTrips : RoundTrips xdata command parameters) {sought own}
    (clear : ∀ parameter ∈ own,
      parameter ∈ parameters.entries ∧ Clear xdata command parameters parameter)
    (blank : List.Forall₂ (Blank xdata) sought.entries own) :
    ∃ read, extractParameters xdata transfer
        (createMessage xdata command parameters attributes) sought = .ok read ∧
      List.Forall₂ Restored read.entries own := by
  have listed := preorder_message xdata command parameters attributes
  have throws := @extractParameters_throws _ xdata _ _ _ parsed sought
  rw [listed] at throws
  have found := @found_first _ xdata command parameters
  cases result : extractParameters xdata transfer
      (createMessage xdata command parameters attributes) sought with
  | error thrown =>
    obtain ⟨one, member, unreadable⟩ := throws.1 ⟨thrown, result⟩
    obtain ⟨parameter, inside, same⟩ := matched blank member
    obtain ⟨there, free⟩ := clear parameter inside
    exact absurd ⟨_, found free.first same.name, own_readable roundTrips free there same⟩ unreadable
  | ok read =>
    have reads := extractParameters_reads parsed result
    rw [listed] at reads
    refine ⟨read, rfl, matched_read blank reads ?_⟩
    rintro parameter inside one restored same ⟨element, first, readFirst⟩
    obtain ⟨there, free⟩ := clear parameter inside
    rw [found free.first same.name] at first
    obtain rfl := Option.some.inj first
    exact own_restored roundTrips free there same readFirst

/-- For each parameter that is sought the first element of its name is read, and it throws exactly
when there is none for one of them or it cannot be read. What has been put in is got back, in any
order, where each own element is the first of its name and the attributes have the names that they
are looked for by. -/
theorem extract_message
    (parsed : transfer (createMessage xdata command parameters attributes) =
      .ok (createMessage xdata command parameters attributes))
    (roundTrips : RoundTrips xdata command parameters) (sought : Parameters Value) :
    (∀ own : List (Parameter Value),
      (∀ parameter ∈ own,
        parameter ∈ parameters.entries ∧ Clear xdata command parameters parameter) →
      List.Forall₂ (Blank xdata) sought.entries own →
      ∃ read, extractParameters xdata transfer
          (createMessage xdata command parameters attributes) sought = .ok read ∧
        List.Forall₂ Restored read.entries own) ∧
    ((∃ thrown, extractParameters xdata transfer
        (createMessage xdata command parameters attributes) sought = .error thrown) ↔
      ∃ one ∈ sought.entries, ¬ ∃ element,
        (listing xdata command parameters attributes).find?
          (fun element => one.name.Meets element.tag) = some element ∧
        Readable xdata element one) ∧
    ∀ read, extractParameters xdata transfer
        (createMessage xdata command parameters attributes) sought = .ok read →
      List.Forall₂ (fun one found => ∃ element,
        (listing xdata command parameters attributes).find?
          (fun element => one.name.Meets element.tag) = some element ∧
        Reads xdata element one found) sought.entries read.entries := by
  have listed := preorder_message xdata command parameters attributes
  refine ⟨fun own => own_extracted parsed roundTrips, ?_, fun read done => ?_⟩
  · have throws := @extractParameters_throws _ xdata _ _ _ parsed sought
    rw [listed] at throws
    exact throws
  · have reads := extractParameters_reads parsed done
    rw [listed] at reads
    exact reads

def XSI_NAMESPACE_URI : String := "http://www.w3.org/2001/XMLSchema-instance"

def stringXdata : Xdata String where
  type := fun _ => "string"
  toText := fun value => value
  fromText := fun _ text => .ok text
  exportAll := fun value element =>
    { element with
      attributes := element.attributes.setNamedItem ⟨XSI_NAMESPACE_URI, "xsi", "type"⟩ "xsd:string"
      text := value }
  importFrom := fun _ element =>
    if element.attributes.getNamedItemNS XSI_NAMESPACE_URI "type" = some "xsd:string" then
      .ok element.text
    else .error "not a string"
  keepsTag := fun _ _ => rfl

def haltedState : Parameters String :=
  Parameters.none_.add ⟨"stateName", "", ""⟩ "Halted"
    (some (Attributes.none_.add ⟨"run", "", ""⟩ "7"))

def setState : QualifiedName := ⟨"SetState", "", ""⟩

lemma haltedState_clear : ∀ parameter ∈ haltedState.entries,
    parameter ∈ haltedState.entries ∧ Clear stringXdata setState haltedState parameter := by
  intro parameter member
  refine ⟨member, ?_⟩
  obtain rfl := mem_singleton.1 member
  refine ⟨⟨[], [], rfl, by decide⟩, fun attributes same => ?_⟩
  obtain rfl := Option.some.inj same
  intro entry there inherits
  refine ⟨.inr rfl, fun other inside explicit => ?_⟩
  obtain rfl := mem_singleton.1 inside
  exact absurd rfl explicit

lemma haltedState_roundTrips : RoundTrips stringXdata setState haltedState := by
  refine ⟨fun parameter member current _ => ?_, fun _ _ _ _ _ _ => rfl⟩
  obtain rfl := mem_singleton.1 member
  rfl

lemma haltedState_blank :
    List.Forall₂ (Blank stringXdata) haltedState.entries haltedState.entries :=
  .cons ⟨⟨rfl, rfl⟩, rfl, .cons ⟨⟨rfl, rfl⟩, rfl⟩ .nil⟩ .nil

theorem extract_message_haltedState :
    ∃ read, extractParameters stringXdata .ok
        (createMessage stringXdata setState haltedState .none_) haltedState = .ok read ∧
      List.Forall₂ Restored read.entries haltedState.entries :=
  (extract_message rfl haltedState_roundTrips haltedState).1 haltedState.entries
    haltedState_clear haltedState_blank

def runNumbers : Parameters String :=
  (Parameters.none_.add ⟨"runNumber", "urn:other", "other"⟩ "1" none).add
    ⟨"runNumber", "", ""⟩ "2" none

/-- The name without a namespace is met by the element in the other one. -/
theorem other_namespace_read : ¬ ∀ (command : QualifiedName) (parameters : Parameters String)
    (attributes : Attributes String), RoundTrips stringXdata command parameters →
    (parameters.entries.Pairwise fun one other => ¬ one.name.Same other.name) →
    ∀ (sought : Parameters String) (own : List (Parameter String)),
      own.Perm parameters.entries → List.Forall₂ (Blank stringXdata) sought.entries own →
      ∃ read, extractParameters stringXdata .ok
          (createMessage stringXdata command parameters attributes) sought = .ok read ∧
        List.Forall₂ Restored read.entries own := by
  intro always
  have roundTrips : RoundTrips stringXdata setState runNumbers := by
    refine ⟨fun parameter member current _ => ?_, fun _ _ _ _ _ _ => rfl⟩
    rcases mem_cons.1 member with rfl | second
    · rfl
    · obtain rfl := mem_singleton.1 second
      rfl
  have distinct : runNumbers.entries.Pairwise fun one other => ¬ one.name.Same other.name := by
    decide
  have blank : List.Forall₂ (Blank stringXdata) runNumbers.entries runNumbers.entries :=
    .cons ⟨⟨rfl, rfl⟩, rfl, .nil⟩ (.cons ⟨⟨rfl, rfl⟩, rfl, .nil⟩ .nil)
  obtain ⟨read, done, restored⟩ := always setState runNumbers .none_ roundTrips distinct
    runNumbers runNumbers.entries (.refl _) blank
  have both : extractParameters stringXdata .ok
      (createMessage stringXdata setState runNumbers .none_) runNumbers =
        .ok ⟨[⟨⟨"runNumber", "urn:other", "other"⟩, "1", none⟩,
          ⟨⟨"runNumber", "", ""⟩, "1", none⟩], true⟩ := rfl
  obtain rfl := Except.ok.inj (both.symm.trans done)
  cases restored with
  | cons _ rest =>
    cases rest with
    | cons second _ => exact absurd second.value (by decide)

end EmuLib.Soap
