import ReactiveForm.Document.Element
import ReactiveForm.Document.Listeners

/-!
# `ReactiveForm.Document.Basic` — documents and their edits

A document is a tree with an element at every node and the listeners attached to them. An edit that
fails answers with an error and no document, so there is nothing half done.

## Contents
- `DocumentError`, the causes for which an edit or a look-up fails.
- `Document`, with the queries `element?`, `select`, `withAttribute`, `withTag`, `named`, `controlNamed`.
- The edits `append`, `setAttribute`, `addClass`, `removeClass`, `toggleClass`, `setText`, `setValue`,
  `setChecked`, `addListener` and `removeListener`.
-/

namespace ReactiveForm

/-! ## Errors -/

/-- Why an edit of a document or a look-up in it fails. -/
inductive DocumentError where
  | unknownNode (node : NodeId)
  | noControl (name : String)
  | noElementWithId (id : String)
  | notCheckable (control : String)
  | noSuchRadio (name value : String)
  | invalidClass (name : String)
  deriving DecidableEq, Repr

/-- The text of an error. -/
def DocumentError.message : DocumentError → String
  | unknownNode node => "node " ++ node.text ++ " does not exist"
  | noControl name => "no form control named '" ++ name ++ "'"
  | noElementWithId id => "no element with id '" ++ id ++ "'"
  | notCheckable control => "control '" ++ control ++ "' is not a checkbox or radio"
  | noSuchRadio name value =>
    "radio group '" ++ name ++ "' has no member with value '" ++ value ++ "'"
  | invalidClass name => "invalid class name '" ++ name ++ "'"

/-! ## Documents -/

/-- A tree of elements with its listeners. -/
structure Document where
  tree : Tree
  elements : List Element
  listeners : Listeners
  complete : elements.length = tree.size

namespace Document

/-- The document of a root alone. -/
def ofRoot (root : Element) : Document := ⟨.singleton, [root], .none, rfl⟩

/-! ## Queries -/

/-- The element of a node. -/
def element? (d : Document) (node : NodeId) : Option Element := d.elements[node.index]?

/-- All nodes in document order. -/
def descendants (d : Document) : List NodeId := d.tree.descendants

/-- The nodes whose elements have a property, in document order. -/
def select (d : Document) (p : Element → Bool) : List NodeId :=
  d.descendants.filter fun node => (d.element? node).any p

/-- The nodes with an attribute; with `class`, those that have a class. -/
def withAttribute (d : Document) (name : String) : List NodeId :=
  if name = "class" then d.select (!·.classes.isEmpty) else d.select (·.attributes.contains name)

/-- The nodes with a tag, whose case does not matter. -/
def withTag (d : Document) (tag : String) : List NodeId :=
  let tag := tag.map Char.toLower
  d.select (·.tag == tag)

/-- The nodes whose `name` is the given one. -/
def named (d : Document) (name : String) : List NodeId := d.select (·.attribute? "name" == some name)

/-- The first node whose `id` is the given one. -/
def byId? (d : Document) (id : String) : Option NodeId :=
  (d.select (·.attribute? "id" == some id)).head?

/-- The value of an attribute of a node, if both exist. -/
def attribute? (d : Document) (node : NodeId) (name : String) : Option String :=
  (d.element? node).bind (·.attribute? name)

/-- The kind of control at a node. -/
def control? (d : Document) (node : NodeId) : Option ControlKind :=
  (d.element? node).bind Element.control?

/-- Whether the element of a node has a class. -/
def hasClass (d : Document) (node : NodeId) (c : String) : Bool :=
  (d.element? node).any (·.hasClass c)

/-- The state of a checkbox or a radio button. -/
def isChecked (d : Document) (node : NodeId) : Bool := (d.element? node).any (·.checked)

/-- The first control with a name. -/
def controlNamed (d : Document) (name : String) : Except DocumentError NodeId :=
  match (d.named name).find? fun node => (d.control? node).isSome with
  | some node => .ok node
  | none => .error (.noControl name)

/-! ## Edits of one element -/

/-- The document with the element of a node changed. -/
def modify (d : Document) (node : NodeId) (f : Element → Element) : Document where
  tree := d.tree
  elements := d.elements.modify node.index f
  listeners := d.listeners
  complete := by rw [List.length_modify, d.complete]

/-- The document with the element of an existing node changed. -/
def edit (d : Document) (node : NodeId) (f : Element → Element) : Except DocumentError Document :=
  if node.index < d.tree.size then .ok (d.modify node f) else .error (.unknownNode node)

@[simp] theorem element?_modify (d : Document) (node : NodeId) (f : Element → Element)
    (other : NodeId) :
    (d.modify node f).element? other =
      if node = other then (d.element? other).map f else d.element? other := by
  unfold element? modify
  rw [List.getElem?_modify]
  by_cases h : node = other
  · simp [h]
  · have hi : node.index ≠ other.index := fun he => h (congrArg NodeId.mk he)
    simp [h, hi]

/-- Sets the text of an element. -/
def setText (d : Document) (node : NodeId) (text : String) : Except DocumentError Document :=
  d.edit node (·.withText text)

/-- Sets the value of a control. -/
def setValue (d : Document) (node : NodeId) (value : String) : Except DocumentError Document :=
  d.edit node ({ · with value })

/-- Whether a class name can be added to an element and removed from it. -/
def isClassName (c : String) : Bool := !c.isEmpty && !Text.hasBlank c

/-- Edits an element with the help of a class name. -/
def editClass (d : Document) (node : NodeId) (c : String) (f : Element → Element) :
    Except DocumentError Document :=
  if isClassName c then d.edit node f else .error (.invalidClass c)

/-- Adds a class to an element. -/
def addClass (d : Document) (node : NodeId) (c : String) : Except DocumentError Document :=
  d.editClass node c (·.withClass c)

/-- Removes a class from an element. -/
def removeClass (d : Document) (node : NodeId) (c : String) : Except DocumentError Document :=
  d.editClass node c (·.withoutClass c)

/-- Makes a class of an element present or absent. -/
def setClass (d : Document) (node : NodeId) (c : String) (present : Bool) :
    Except DocumentError Document :=
  if present then d.addClass node c else d.removeClass node c

/-- Flips a class of an element, and tells whether it is present afterwards. -/
def toggleClass (d : Document) (node : NodeId) (c : String) :
    Except DocumentError (Document × Bool) := do
  let present := !d.hasClass node c
  return (← d.setClass node c present, present)

/-! ## Checkboxes and radio buttons -/

/-- The other radio buttons of the group that a node belongs to by its name. -/
def otherRadios (d : Document) (node : NodeId) : List NodeId :=
  match d.attribute? node "name" with
  | none => []
  | some name => (d.named name).filter fun n => n != node && d.control? n == some .radio

/-- Sets the state of a checkbox or a radio button. Checking a radio button unchecks the rest of its
group. -/
def setChecked (d : Document) (node : NodeId) (checked : Bool) : Except DocumentError Document :=
  match d.control? node with
  | some .checkbox => d.edit node (·.withChecked checked)
  | some .radio =>
    let others := if checked then d.otherRadios node else []
    (others.foldl (fun d other => d.modify other (·.withChecked false)) d).edit node
      (·.withChecked checked)
  | _ => .error (.notCheckable ((d.attribute? node "name").getD (node.text)))

/-! ## Attributes -/

/-- Sets an attribute. The classes follow `class`, the value of a control follows `value`, and its
state follows `checked`, which unchecks when it is `false`. -/
def setAttribute (d : Document) (node : NodeId) (name value : String) :
    Except DocumentError Document := do
  if name = "class" then d.edit node ({ · with classes := Text.wordsOf value })
  else
    let d ←
      if name = "value" then d.setValue node value
      else if name = "checked" then
        let checked := value != "false"
        match d.control? node with
        | some .checkbox => d.setChecked node checked
        | some .radio => d.setChecked node checked
        | _ => d.edit node (·.withChecked checked)
      else pure d
    d.edit node fun e => { e with attributes := e.attributes.insert name value }

/-! ## Nodes and listeners -/

/-- Appends an element as the last child of a node; its number is `d.tree.size`. -/
def append (d : Document) (parent : NodeId) (e : Element) : Except DocumentError Document :=
  if h : parent.index < d.tree.size then
    .ok ⟨d.tree.append parent h, d.elements ++ [e], d.listeners, by simp [d.complete]⟩
  else .error (.unknownNode parent)

/-- Attaches a listener, and tells its number. -/
def addListener (d : Document) (node : NodeId) (event : Event) :
    Except DocumentError (Document × ListenerId) :=
  if node.index < d.tree.size then
    .ok ({ d with listeners := d.listeners.attach node event }, ⟨d.listeners.next⟩)
  else .error (.unknownNode node)

/-- Detaches a listener, and tells whether it was attached. -/
def removeListener (d : Document) (id : ListenerId) : Document × Bool :=
  ({ d with listeners := d.listeners.detach id }, d.listeners.isLive id)

end Document

end ReactiveForm
