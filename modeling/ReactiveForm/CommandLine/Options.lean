import ReactiveForm.Condition.Basic

/-!
# `ReactiveForm.CommandLine.Options` — the options and what they take

## Contents
- `OptionName`, with `spelling`, `letter?`, `arity` and `accepts`.
- `ArgumentKind`, what stands without an option.
- `Level`, what may be given to one command.
-/

namespace ReactiveForm

namespace CommandLine

/-! ## Options -/

/-- The options of the program. -/
inductive OptionName where
  | config
  | json
  | noJson
  | quiet
  /-- Asks for a log. There is nothing to log. -/
  | verbose
  | help
  | version
  | value
  | fixture
  | precedence
  | step
  deriving DecidableEq, Repr

/-- Whether an option takes a value, and how often it may be given to one command. -/
inductive Arity where
  | flag
  | single
  | repeated
  deriving DecidableEq, Repr

/-- The words for precedences. -/
def precedenceChoices : List (String × Precedence) :=
  [("left-to-right", .leftToRight), ("standard", .standard)]

namespace OptionName

/-- How an option is written after two dashes. -/
def spelling : OptionName → String
  | config => "config"
  | json => "json"
  | noJson => "no-json"
  | quiet => "quiet"
  | verbose => "verbose"
  | help => "help"
  | version => "version"
  | value => "value"
  | fixture => "fixture"
  | precedence => "precedence"
  | step => "step"

/-- How an option is written after one dash. -/
def letter? : OptionName → Option Char
  | json => some 'j'
  | quiet => some 'q'
  | verbose => some 'v'
  | help => some 'h'
  | version => some 'V'
  | step => some 's'
  | config | noJson | value | fixture | precedence => none

/-- What an option takes. -/
def arity : OptionName → Arity
  | json | noJson | quiet | verbose | help | version => .flag
  | config | fixture | precedence => .single
  | value | step => .repeated

/-- Whether an option takes a value. -/
def takesValue (o : OptionName) : Bool := o.arity != .flag

/-- Whether a text is a value of an option: paths are not empty, and a choice is one of its words. -/
def accepts (o : OptionName) (text : String) : Bool :=
  match o with
  | config | fixture => !text.isEmpty
  | precedence => (precedenceChoices.lookup text).isSome
  | json | noJson | quiet | verbose | help | version | value | step => true

end OptionName

/-! ## Levels -/

/-- What an argument without an option is. -/
inductive ArgumentKind where
  | text
  | path
  deriving DecidableEq, Repr

/-- Whether a text is an argument of a kind. -/
def ArgumentKind.accepts : ArgumentKind → String → Bool
  | text, _ => true
  | path, given => !given.isEmpty

/-- What may be given to one command: options, arguments, and commands below it. -/
structure Level (κ : Type) where
  options : List OptionName := []
  arguments : List ArgumentKind := []
  commands : List (String × κ) := []

namespace Level

variable {κ : Type}

/-- The option with a spelling. -/
def optionSpelled? (level : Level κ) (spelling : String) : Option OptionName :=
  level.options.find? (·.spelling == spelling)

/-- The option with a letter. -/
def optionLettered? (level : Level κ) (letter : Char) : Option OptionName :=
  level.options.find? (·.letter? == some letter)

end Level

end CommandLine

end ReactiveForm
