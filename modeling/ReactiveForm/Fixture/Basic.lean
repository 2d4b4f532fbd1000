import ReactiveForm.Document.Basic

/-!
# `ReactiveForm.Fixture.Basic` — documents as written down

A fixture is the description of a document: a tree of tags, attributes and texts.

## Contents
- `NodeSpec` and `Fixture`.
- `FixtureError`, why a description makes no document.
- `Fixture.document`, the document that is described. Nodes are created depth first, so their numbers
  follow document order.
-/

namespace ReactiveForm

/-- The description of an element and its children. -/
inductive NodeSpec where
  | mk (tag : String) (attributes : StringMap String) (text : Option String)
      (children : List NodeSpec)

namespace NodeSpec

/-- The tag, perhaps with white space around it. -/
def tag : NodeSpec → String
  | mk tag _ _ _ => tag

/-- The attributes, `class` among them. -/
def attributes : NodeSpec → StringMap String
  | mk _ attributes _ _ => attributes

/-- The text. -/
def text : NodeSpec → Option String
  | mk _ _ text _ => text

/-- The descriptions of the children. -/
def children : NodeSpec → List NodeSpec
  | mk _ _ _ children => children

/-- The element that is described. -/
def element (spec : NodeSpec) : Element :=
  let plain := Element.ofTag (Text.trim spec.tag)
  let full := spec.attributes.entries.foldl (fun e (name, value) => e.withAttribute name value) plain
  match spec.text with
  | some text => full.withText text
  | none => full

end NodeSpec

/-- The description of a document. -/
structure Fixture where
  root : NodeSpec

/-- Why a description makes no document. -/
inductive FixtureError where
  | emptyTag (path : String)
  | document (error : DocumentError)
  deriving DecidableEq, Repr

/-- The text of an error. -/
def FixtureError.message : FixtureError → String
  | emptyTag path => "fixture node at " ++ path ++ " has an empty tag"
  | document error => error.message

/-! ## Building -/

/-- The path of the root. -/
def rootPath : String := "root"

/-- The path of a child. -/
def childPath (path : String) (index : Nat) : String :=
  path ++ ".children[" ++ toString index ++ "]"

namespace NodeSpec

/-- The element that is described at a path; its tag must not be blank. -/
def elementAt (spec : NodeSpec) (path : String) : Except FixtureError Element :=
  if Text.isBlankText spec.tag then .error (.emptyTag path) else .ok spec.element

mutual

/-- Appends the described element and all below it to a node. -/
def appendTo (d : Document) (parent : NodeId) (path : String) :
    NodeSpec → Except FixtureError Document
  | mk tag attributes text children => do
    let e ← (mk tag attributes text children).elementAt path
    let node : NodeId := ⟨d.tree.size⟩
    let d ← (d.append parent e).mapError .document
    appendAllTo d node path 0 children

/-- Appends the described children to a node; the first of them has the given index. -/
def appendAllTo (d : Document) (parent : NodeId) (path : String) (index : Nat) :
    List NodeSpec → Except FixtureError Document
  | [] => .ok d
  | spec :: rest => do
    let d ← spec.appendTo d parent (childPath path index)
    appendAllTo d parent path (index + 1) rest

end

end NodeSpec

/-- The document that is described. -/
def Fixture.document (f : Fixture) : Except FixtureError Document := do
  let root ← f.root.elementAt rootPath
  NodeSpec.appendAllTo (.ofRoot root) Tree.root rootPath 0 f.root.children

end ReactiveForm
