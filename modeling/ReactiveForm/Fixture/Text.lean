import ReactiveForm.Fixture.Basic
import ReactiveForm.Json.Basic
import ReactiveForm.Json5.Decode

/-!
# `ReactiveForm.Fixture.Text` — fixtures in JSON5 and in JSON

Fixtures are read from JSON5 and written as JSON. Only the tag of a node and the root of a fixture are
required.

## Contents
- `Fixture.decode`, from a JSON5 value, and `Fixture.read`, from a text.
- `Fixture.json`, as a JSON value.
-/

namespace ReactiveForm

open Json5 (Value Key Decoded DataError)

/-! ## Reading -/

namespace NodeSpec

/-- The fields of a node that have been read. -/
structure Fields where
  tag : Option String := none
  attributes : Option (StringMap String) := none
  text : Option (Option String) := none
  children : Option (List NodeSpec) := none

/-- The node with some fields, of which the tag is required. -/
def ofFields (f : Fields) (missing : DataError) : Decoded NodeSpec :=
  match f.tag with
  | some tag =>
    .ok (mk tag (f.attributes.getD .empty) (f.text.getD none) (f.children.getD []))
  | none => .error missing

mutual

/-- The node that a value describes. -/
def decode : Value → Decoded NodeSpec
  | .object r members => do
    ofFields (← decodeMembers r {} members) ⟨.missingField "tag", r⟩
  | .array r items => do
    ofFields (← decodeItems items) ⟨.tooShort 0 "struct NodeSpec with 4 elements", r⟩
  | v => v.mismatch "struct NodeSpec"

/-- The fields that the members of an object give, in order; each field may come once. -/
def decodeMembers (start : Nat) (f : Fields) : List (Key × Value) → Decoded Fields
  | [] => .ok f
  | (key, value) :: rest => do
    let name ← key.text
    let once (given : Bool) : Decoded Unit :=
      if given then .error ⟨.duplicateField name, start⟩ else .ok ()
    if name = "tag" then
      once f.tag.isSome
      decodeMembers start { f with tag := some (← value.asText) } rest
    else if name = "attrs" then
      once f.attributes.isSome
      decodeMembers start { f with attributes := some (← value.asTextMap) } rest
    else if name = "text" then
      once f.text.isSome
      decodeMembers start { f with text := some (← value.asOptionalText) } rest
    else if name = "children" then
      once f.children.isSome
      decodeMembers start { f with children := some (← decodeChildren value) } rest
    else
      value.check
      decodeMembers start f rest

/-- The fields that the items of an array give; items beyond the last field are not looked at. -/
def decodeItems : List Value → Decoded Fields
  | [] => .ok {}
  | [tag] => do return { tag := some (← tag.asText) }
  | [tag, attributes] => do
    return { tag := some (← tag.asText), attributes := some (← attributes.asTextMap) }
  | [tag, attributes, text] => do
    return {
      tag := some (← tag.asText)
      attributes := some (← attributes.asTextMap)
      text := some (← text.asOptionalText) }
  | tag :: attributes :: text :: children :: _ => do
    return {
      tag := some (← tag.asText)
      attributes := some (← attributes.asTextMap)
      text := some (← text.asOptionalText)
      children := some (← decodeChildren children) }

/-- The nodes that a value describes. -/
def decodeChildren : Value → Decoded (List NodeSpec)
  | .array _ items => decodeAll items
  | v => v.mismatch "a sequence"

/-- The nodes that some values describe. -/
def decodeAll : List Value → Decoded (List NodeSpec)
  | [] => .ok []
  | item :: rest => do return (← decode item) :: (← decodeAll rest)

end

end NodeSpec

namespace Fixture

/-- The fixture that a value describes. -/
def decode (v : Value) : Decoded Fixture := do
  let root : Json5.Value.Field (Option NodeSpec) := ⟨"root", fun _ v => (NodeSpec.decode v).map some⟩
  match ← v.asRecord "struct Fixture" [root] none with
  | some spec => return ⟨spec⟩
  | none =>
    match v with
    | .array r _ => throw ⟨.tooShort 0 "struct Fixture with 1 element", r⟩
    | v => throw ⟨.missingField "root", v.remaining⟩

/-- The fixture that a text describes. -/
def read (text : String) : Except Json5.ReadError Fixture := Json5.read decode text

end Fixture

/-! ## Writing -/

namespace NodeSpec

mutual

/-- The JSON value of a node; no text and no children are left out. -/
def json : NodeSpec → Json
  | mk tag attributes text children =>
    .object ([("tag", .string tag),
      ("attrs", .object (attributes.entries.map fun (name, value) => (name, .string value)))] ++
      (match text with
        | some t => [("text", .string t)]
        | none => []) ++
      (match children with
        | [] => []
        | child :: rest => [("children", .array (child.json :: jsonAll rest))]))

/-- The JSON values of some nodes. -/
def jsonAll : List NodeSpec → List Json
  | [] => []
  | spec :: rest => spec.json :: jsonAll rest

end

end NodeSpec

/-- The JSON value of a fixture. -/
def Fixture.json (f : Fixture) : Json := .object [("root", f.root.json)]

/-! ## Documents -/

/-- Why a text describes no document. -/
inductive LoadError where
  | read (error : Json5.ReadError)
  | fixture (error : FixtureError)
  deriving DecidableEq, Repr

/-- The text of an error. -/
def LoadError.message : LoadError → String
  | read error => "invalid fixture: " ++ error.message
  | fixture error => error.message

/-- The document that a text describes. -/
def Document.load (text : String) : Except LoadError Document := do
  let f ← (Fixture.read text).mapError .read
  f.document.mapError .fixture

end ReactiveForm
