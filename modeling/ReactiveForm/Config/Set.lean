import ReactiveForm.Config.Basic
import ReactiveForm.Text.Lowercase

/-!
# `ReactiveForm.Config.Set` — changing one setting

A setting is named by a dotted key and given as a text. Class names are trimmed; the names of choices
may be written in either case.

## Contents
- `Setting`, the settings with their keys.
- `SetFault`, why a setting is refused.
- `Config.set`, the configuration with one setting changed.
-/

namespace ReactiveForm

/-- A setting that can be changed. -/
inductive Setting where
  | hiddenClass
  | disabledClass
  | precedence
  | unknownInput
  | switches
  | quotedClassLists
  deriving DecidableEq, Repr

namespace Setting

/-- All settings, in the order in which they are listed. -/
def all : List Setting :=
  [hiddenClass, disabledClass, precedence, unknownInput, switches, quotedClassLists]

/-- The key of a setting. -/
def key : Setting → String
  | hiddenClass => "classes.hidden"
  | disabledClass => "classes.disabled"
  | precedence => "evaluation.precedence"
  | unknownInput => "evaluation.unknown_input"
  | switches => "capabilities.switch"
  | quotedClassLists => "capabilities.quoted_classnames"

/-- The setting of a key. -/
def ofKey? (key : String) : Option Setting := all.find? (·.key == key)

@[simp] theorem ofKey?_key (s : Setting) : ofKey? s.key = some s := by
  cases s <;> decide

end Setting

/-- Why a setting is refused. -/
inductive SetFault where
  | unknownKey (key : String)
  | badPrecedence (value : String)
  | badUnknownInput (value : String)
  | badBool (value : String)
  deriving DecidableEq, Repr

/-- The text of a fault. -/
def SetFault.message : SetFault → String
  | unknownKey key =>
    "Unknown config key: " ++ key ++ ". Valid keys: " ++
      ", ".intercalate (Setting.all.map Setting.key)
  | badPrecedence value => "Invalid precedence: " ++ value ++ ". Use left_to_right or standard"
  | badUnknownInput value => "Invalid unknown_input: " ++ value ++ ". Use error or false"
  | badBool value =>
    "Invalid boolean value: " ++ value ++ ". Use true/false, yes/no, 1/0, or on/off"

/-! ## Values -/

/-- The words for precedences. -/
def precedenceWords : List (String × Precedence) :=
  [("left_to_right", .leftToRight), ("left-to-right", .leftToRight), ("standard", .standard)]

/-- The words for policies on unknown inputs. -/
def unknownInputWords : List (String × UnknownInputPolicy) :=
  [("error", .fail), ("false", .assumeFalse)]

/-- The words for truth values. -/
def boolWords : List (String × Bool) :=
  [("true", true), ("1", true), ("yes", true), ("on", true),
    ("false", false), ("0", false), ("no", false), ("off", false)]

/-- The choice that a word names, in either case. -/
def choose {α : Type} (words : List (String × α)) (value : String) (fault : String → SetFault) :
    Except SetFault α :=
  match words.lookup (Text.lowercase value) with
  | some choice => .ok choice
  | none => .error (fault value)

namespace Config

/-- The configuration with one setting changed to what a text says. -/
def assign (c : Config) (setting : Setting) (value : String) : Except SetFault Config := do
  match setting with
  | .hiddenClass => return { c with classes.hidden := Text.trim value }
  | .disabledClass => return { c with classes.disabled := Text.trim value }
  | .precedence =>
    return { c with evaluation.precedence := ← choose precedenceWords value .badPrecedence }
  | .unknownInput =>
    return { c with evaluation.unknownInput := ← choose unknownInputWords value .badUnknownInput }
  | .switches => return { c with capabilities.switches := ← choose boolWords value .badBool }
  | .quotedClassLists =>
    return { c with capabilities.quotedClassLists := ← choose boolWords value .badBool }

/-- The configuration with the setting of a key changed to what a text says. -/
def set (c : Config) (key value : String) : Except SetFault Config :=
  match Setting.ofKey? key with
  | some setting => c.assign setting value
  | none => .error (.unknownKey key)

end Config

end ReactiveForm
