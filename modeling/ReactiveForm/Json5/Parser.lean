import ReactiveForm.Json5.Lexer

/-!
# `ReactiveForm.Json5.Parser` — from tokens to values

The parser reads one token at a time. Its state holds the arrays and objects that are still open,
innermost first, and what may come next. A comma may follow the last item and the last member.

## Contents
- `Container`, an array or an object that is still open.
- `Parser` and its steps `feed` and `finish`.
- `parse`, from a text to a value.
-/

namespace ReactiveForm

namespace Json5

/-! ## The state of the parser -/

/-- An array or an object whose end has not been read. -/
inductive Container where
  | array (remaining : Nat) (items : List Value)
  | object (remaining : Nat) (members : List (Key × Value))
  /-- An object that waits for the value of a key. -/
  | member (remaining : Nat) (members : List (Key × Value)) (key : Key)

/-- What may come next. -/
inductive Expecting where
  | value
  | itemOrEnd
  | keyOrEnd
  | colon (key : Key)
  | commaOrEnd
  | nothing (whole : Value)

/-- A parser that has read some tokens. -/
structure Parser where
  expecting : Expecting := .value
  containers : List Container := []

/-- The value that a token is by itself. -/
def Lexeme.scalar? (l : Lexeme) : Option Value :=
  match l.token with
  | .string pieces => some (.string l.remaining pieces)
  | .number text => some (.number l.remaining text)
  | .name pieces =>
    if pieces = "null".toList.map .plain then some (.null l.remaining)
    else if pieces = "true".toList.map .plain then some (.bool l.remaining true)
    else if pieces = "false".toList.map .plain then some (.bool l.remaining false)
    else if pieces = "Infinity".toList.map .plain then some (.number l.remaining "Infinity".toList)
    else if pieces = "NaN".toList.map .plain then some (.number l.remaining "NaN".toList)
    else none
  | _ => none

/-- The key that a token is. -/
def Lexeme.key? (l : Lexeme) : Option Key :=
  match l.token with
  | .string pieces => some ⟨l.remaining, pieces⟩
  | .name pieces => some ⟨l.remaining, pieces⟩
  | _ => none

namespace Parser

/-- The parser after a complete value, given the containers around it. -/
def place (v : Value) : List Container → Option Parser
  | [] => some ⟨.nothing v, []⟩
  | .array r items :: outer => some ⟨.commaOrEnd, .array r (items ++ [v]) :: outer⟩
  | .member r members key :: outer => some ⟨.commaOrEnd, .object r (members ++ [(key, v)]) :: outer⟩
  | .object _ _ :: _ => none

/-- The parser after the end of the innermost container. -/
def close (token : Token) : List Container → Option Parser
  | .array r items :: outer => if token = .closeArray then place (.array r items) outer else none
  | .object r members :: outer => if token = .closeObject then place (.object r members) outer else none
  | _ => none

/-- The parser after the first token of a value. -/
def begin (l : Lexeme) (containers : List Container) : Option Parser :=
  match l.token with
  | .openArray => some ⟨.itemOrEnd, .array l.remaining [] :: containers⟩
  | .openObject => some ⟨.keyOrEnd, .object l.remaining [] :: containers⟩
  | _ => l.scalar?.bind fun v => place v containers

/-- The parser after a comma. -/
def next : List Container → Option Parser
  | .array r items :: outer => some ⟨.itemOrEnd, .array r items :: outer⟩
  | .object r members :: outer => some ⟨.keyOrEnd, .object r members :: outer⟩
  | _ => none

/-- The parser after the colon that follows a key. -/
def value (key : Key) : List Container → Option Parser
  | .object r members :: outer => some ⟨.value, .member r members key :: outer⟩
  | _ => none

/-- The parser after one more token, if that may come next. -/
def feed? (p : Parser) (l : Lexeme) : Option Parser :=
  match p.expecting with
  | .value => begin l p.containers
  | .itemOrEnd => if l.token = .closeArray then close l.token p.containers else begin l p.containers
  | .keyOrEnd =>
    if l.token = .closeObject then close l.token p.containers
    else l.key?.map fun key => ⟨.colon key, p.containers⟩
  | .colon key => if l.token = .colon then value key p.containers else none
  | .commaOrEnd => if l.token = .comma then next p.containers else close l.token p.containers
  | .nothing _ => none

/-- The parser after one more token. -/
def feed (p : Parser) (l : Lexeme) : Except SyntaxError Parser :=
  match p.feed? l with
  | some q => .ok q
  | none => .error ⟨l.remaining⟩

/-- The value that has been read when the text ends. -/
def finish (p : Parser) : Except SyntaxError Value :=
  match p.expecting with
  | .nothing v => .ok v
  | _ => .error ⟨0⟩

/-- The parser after some tokens. -/
def feedAll (p : Parser) (lexemes : List Lexeme) : Except SyntaxError Parser := lexemes.foldlM feed p

theorem feedAll_append (p : Parser) (ls ms : List Lexeme) :
    p.feedAll (ls ++ ms) = p.feedAll ls >>= fun q => q.feedAll ms := by
  simp [feedAll, List.foldlM_append]

end Parser

/-! ## Parsing -/

/-- The value of a text. -/
def parse (text : List Char) : Except SyntaxError Value := do
  let lexemes ← tokenize text
  let parser ← Parser.feedAll {} lexemes
  parser.finish

end Json5

end ReactiveForm
