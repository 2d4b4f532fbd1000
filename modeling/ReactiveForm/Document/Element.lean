import ReactiveForm.Document.Control
import ReactiveForm.StringMap
import ReactiveForm.Text.Blank

/-!
# `ReactiveForm.Document.Element` — elements

An element keeps its classes apart from its other attributes, and the value and the checked state of a
control apart from the attributes `value` and `checked` that they begin with.

## Contents
- `Element`, with `ofTag` and the builders `withAttribute`, `withClass`, `withText`, `withChecked`.
- `Element.control?`, the kind of control that an element is.
-/

namespace ReactiveForm

/-- An element without its children. -/
structure Element where
  tag : String
  /-- The attributes other than `class`. -/
  attributes : StringMap String
  classes : List String
  text : Option String
  /-- The current value of a control. -/
  value : String
  /-- The current state of a checkbox or a radio button. -/
  checked : Bool
  deriving DecidableEq, Repr

namespace Element

/-! ## Building -/

/-- An element with nothing but a tag, which is written in lower case. -/
def ofTag (tag : String) : Element where
  tag := tag.map Char.toLower
  attributes := .empty
  classes := []
  text := none
  value := ""
  checked := false

/-- The element with one more attribute: `class` gives the classes, `value` and `checked` also set the
state of the control. -/
def withAttribute (e : Element) (name value : String) : Element :=
  if name = "class" then { e with classes := Text.wordsOf value }
  else
    { e with
      attributes := e.attributes.insert name value
      value := if name = "value" then value else e.value
      checked := if name = "checked" then true else e.checked }

/-- The element with a class, which it does not get twice. -/
def withClass (e : Element) (c : String) : Element :=
  if e.classes.contains c then e else { e with classes := e.classes ++ [c] }

/-- The element without a class. -/
def withoutClass (e : Element) (c : String) : Element :=
  { e with classes := e.classes.filter (· != c) }

/-- The element with a text. -/
def withText (e : Element) (text : String) : Element := { e with text := some text }

/-- The element with the state of a checkbox or a radio button. -/
def withChecked (e : Element) (checked : Bool) : Element := { e with checked }

/-! ## Queries -/

/-- The value of an attribute other than `class`. -/
def attribute? (e : Element) (name : String) : Option String := e.attributes.get? name

/-- The kind of control that an element is. -/
def control? (e : Element) : Option ControlKind := ControlKind.classify e.tag (e.attribute? "type")

/-- Whether an element has a class. -/
def hasClass (e : Element) (c : String) : Bool := e.classes.contains c

@[simp] theorem hasClass_withClass (e : Element) (c d : String) :
    (e.withClass c).hasClass d = (d == c || e.hasClass d) := by
  unfold withClass hasClass
  split
  · next h =>
    by_cases hd : d = c
    · subst hd
      simpa using h
    · simp [hd]
  · rw [Bool.eq_iff_iff]
    simp [or_comm]

@[simp] theorem hasClass_withoutClass (e : Element) (c d : String) :
    (e.withoutClass c).hasClass d = (d != c && e.hasClass d) := by
  rw [Bool.eq_iff_iff]
  simp [withoutClass, hasClass, and_comm]

end Element

end ReactiveForm
