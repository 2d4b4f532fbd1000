import ReactiveForm.Condition.Token
import ReactiveForm.Text.Quotation

/-!
# `ReactiveForm.Condition.Lexer` — from characters to tokens

The lexer reads in one of two modes. In `symbols` mode a token is a punctuation mark, a quoted text or
a word. After a comparison operator it reads one token in `value` mode: everything up to the next
`&&`, `||` or `)` is the literal, so that `city==New York` and `dept==R&D` need no quotes. Only a quote
at the very beginning of the literal protects what follows it, and only up to the same quote.

A scan takes the first character and the rest, and answers with a token and the number of further
characters it took. White space before a token is skipped in either mode.

## Contents
- `isWordChar`, the characters of names.
- `scanSymbol` and `scanValue`, one token in each mode.
- `lexFrom` and `tokenize`, the whole text.
-/

namespace ReactiveForm

namespace Condition

open Text

/-! ## Character classes -/

/-- The characters that end a word. -/
def isPunctuation (c : Char) : Bool :=
  c == '(' || c == ')' || c == '&' || c == '|' || c == '!' || c == '=' || c == '<' || c == '>' ||
    isQuote c

/-- The characters of words, and so of input names. -/
def isWordChar (c : Char) : Bool := !isBlank c && !isPunctuation c

/-! ## Scanning one token -/

/-- A token and the number of characters it takes after its first one. -/
abbrev Scan := Except ParseFault (Token × Nat)

/-- A quoted text that the quote `q` has opened. -/
def scanQuoted (q : Char) (rest : List Char) : Scan :=
  match rest.idxOf? q with
  | none => .error .unterminatedQuote
  | some n => .ok (.quoted (String.ofList (rest.take n)), n + 1)

/-- One token in `symbols` mode. -/
def scanSymbol (c : Char) (rest : List Char) : Scan :=
  if c = '(' then .ok (.opening, 0)
  else if c = ')' then .ok (.closing, 0)
  else if c = '&' then
    if rest.head? = some '&' then .ok (.connective .and, 1) else .error (.halfConnective .and)
  else if c = '|' then
    if rest.head? = some '|' then .ok (.connective .or, 1) else .error (.halfConnective .or)
  else if c = '!' then
    if rest.head? = some '=' then .ok (.relation .notEqual, 1) else .ok (.negation, 0)
  else if c = '=' then
    if rest.head? = some '=' then .ok (.relation .equal, 1) else .error .halfEquality
  else if c = '<' ∨ c = '>' then .error (.unknownOperator c)
  else if isQuote c then scanQuoted c rest
  else
    let tail := rest.takeWhile isWordChar
    .ok (.word (String.ofList (c :: tail)), tail.length)

/-- Whether an unquoted literal ends before the character `c` that is followed by `rest`. -/
def endsLiteral (c : Char) (rest : List Char) : Bool :=
  c == ')' || ((c == '&' || c == '|') && rest.head? == some c)

/-- The number of characters before the end of an unquoted literal. -/
def literalLength : List Char → Nat
  | [] => 0
  | c :: rest => if endsLiteral c rest then 0 else literalLength rest + 1

/-- The token of a literal: trimmed, and quoted when the same quote stands at both ends. -/
def literalToken (raw : List Char) : Token :=
  let trimmed := trimChars raw
  match unquote trimmed with
  | some inner => .quoted (String.ofList inner)
  | none => .word (String.ofList trimmed)

/-- One token in `value` mode; where no literal begins, a token of `symbols` mode. -/
def scanValue (c : Char) (rest : List Char) : Scan :=
  if isQuote c then
    match rest.idxOf? c with
    | none => .error .unterminatedQuote
    | some n =>
      let taken := n + 1 + literalLength (rest.drop (n + 1))
      .ok (literalToken (c :: rest.take taken), taken)
  else if endsLiteral c rest then scanSymbol c rest
  else
    let taken := literalLength rest
    .ok (literalToken (c :: rest.take taken), taken)

/-! ## The whole text -/

/-- What the next token is read as. -/
inductive LexMode where
  | symbols
  | value
  deriving DecidableEq, Repr

/-- One token in the given mode. -/
def LexMode.scan : LexMode → Char → List Char → Scan
  | symbols => scanSymbol
  | value => scanValue

/-- The mode after a token: a literal is only read after an operator. -/
def Token.modeAfter : Token → LexMode
  | relation _ => .value
  | _ => .symbols

/-- The tokens of a text whose first byte has the given offset. -/
def lexFrom (mode : LexMode) (position : Nat) : List Char → Except ParseError (List Lexeme)
  | [] => .ok []
  | c :: rest =>
    if isBlank c then lexFrom mode (position + c.utf8Size) rest
    else
      match mode.scan c rest with
      | .error fault => .error ⟨fault, position⟩
      | .ok (token, n) =>
        (lexFrom token.modeAfter (position + width (c :: rest.take n)) (rest.drop n)).map
          (⟨token, position⟩ :: ·)
termination_by cs => cs.length
decreasing_by all_goals simp only [List.length_cons, List.length_drop]; omega

/-- The tokens of a text. -/
def tokenize (cs : List Char) : Except ParseError (List Lexeme) := lexFrom .symbols 0 cs

/-! ## Equations -/

@[simp] theorem lexFrom_nil (mode : LexMode) (position : Nat) : lexFrom mode position [] = .ok [] := by
  rw [lexFrom.eq_def]

theorem lexFrom_blank {c : Char} (h : isBlank c = true) (mode : LexMode) (position : Nat)
    (rest : List Char) :
    lexFrom mode position (c :: rest) = lexFrom mode (position + c.utf8Size) rest := by
  rw [lexFrom.eq_def]; simp only [h, if_true]

theorem lexFrom_token {mode : LexMode} {c : Char} {rest : List Char} {token : Token} {n : Nat}
    (h : isBlank c = false) (hs : mode.scan c rest = .ok (token, n)) (position : Nat) :
    lexFrom mode position (c :: rest) =
      (lexFrom token.modeAfter (position + width (c :: rest.take n)) (rest.drop n)).map
        (⟨token, position⟩ :: ·) := by
  rw [lexFrom.eq_def]; simp only [h, Bool.false_eq_true, if_false, hs]

end Condition

end ReactiveForm
