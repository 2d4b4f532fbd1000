import ReactiveForm.Document.Basic

/-!
# `ReactiveForm.Document.Html` — a document as indented HTML

An element without children stands on one line with its text; the children of another stand on lines
of their own, two spaces deeper, after its text. The value and the state of a control are written from
its current state, never from the attributes they began with.

## Contents
- `escapeHtml`, text that cannot end an attribute or begin a tag.
- `Element.startTag`, and `Document.html`, the whole document.
-/

namespace ReactiveForm

/-- A character as it is written inside texts and attribute values. -/
def escapeHtmlChar : Char → List Char
  | '&' => "&amp;".toList
  | '"' => "&quot;".toList
  | '<' => "&lt;".toList
  | '>' => "&gt;".toList
  | c => [c]

/-- A text as it is written inside texts and attribute values. -/
def escapeHtml (s : String) : String := String.ofList (s.toList.flatMap escapeHtmlChar)

namespace Element

/-- An attribute with its value. -/
def attributeHtml (name value : String) : String := " " ++ name ++ "=\"" ++ escapeHtml value ++ "\""

/-- The attributes that are written as they are, in the order of their names. -/
def plainAttributes (e : Element) : List (String × String) :=
  e.attributes.entries.filter fun (name, _) => name != "value" && name != "checked"

/-- The current state of a control; an empty selection has no value to show. -/
def stateHtml (e : Element) : String :=
  match e.control? with
  | none => ""
  | some kind =>
    (if kind = .select ∧ e.value = "" then "" else attributeHtml "value" e.value) ++
      (if e.checked then " checked" else "")

/-- The start tag of an element. -/
def startTag (e : Element) : String :=
  "<" ++ e.tag ++
    (if e.classes.isEmpty then "" else attributeHtml "class" (" ".intercalate e.classes)) ++
    String.join (e.plainAttributes.map fun (name, value) => attributeHtml name value) ++
    e.stateHtml ++ ">"

/-- The end tag of an element. -/
def endTag (e : Element) : String := "</" ++ e.tag ++ ">"

end Element

namespace Document

/-- The start of a line at a depth. -/
def indent (depth : Nat) : String := String.ofList (List.replicate (2 * depth) ' ')

/-- The lines of a node and what lies below it; `levels` bounds how deep that is. -/
def htmlFrom (d : Document) : Nat → Nat → NodeId → String
  | 0, _, _ => ""
  | levels + 1, depth, node =>
    match d.element? node with
    | none => ""
    | some e =>
      let children := d.tree.children node
      if children.isEmpty then
        indent depth ++ e.startTag ++ (e.text.map escapeHtml).getD "" ++ e.endTag ++ "\n"
      else
        indent depth ++ e.startTag ++ "\n" ++
          (match e.text with
            | some text => indent (depth + 1) ++ escapeHtml text ++ "\n"
            | none => "") ++
          String.join (children.map (d.htmlFrom levels (depth + 1))) ++
          indent depth ++ e.endTag ++ "\n"

/-- The document as indented HTML. -/
def html (d : Document) : String := d.htmlFrom d.tree.size 0 Tree.root

end Document

end ReactiveForm
