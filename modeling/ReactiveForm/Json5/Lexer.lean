import ReactiveForm.Json5.Value
import ReactiveForm.Text.Letter

/-!
# `ReactiveForm.Json5.Lexer` — the tokens of a JSON5 text

A scan takes the first character of a token and the rest of the text, and answers with the token and
the number of further characters it took. Names are read as long as they go; which of them are values
is for the parser to say.

## Contents
- `isSpace` and `skipComment`, what may stand between tokens.
- `scanPieces`, the inside of a string; `scanName`, an identifier; `numberLength`, a number.
- `tokenize`, the whole text.
-/

namespace ReactiveForm

namespace Json5

/-! ## Tokens -/

/-- A token of a JSON5 text. -/
inductive Token where
  | openArray
  | closeArray
  | openObject
  | closeObject
  | colon
  | comma
  | name (pieces : List Piece)
  | string (pieces : List Piece)
  | number (text : List Char)
  deriving DecidableEq, Repr

/-- A token and the number of characters left where it begins. -/
structure Lexeme where
  token : Token
  remaining : Nat
  deriving DecidableEq, Repr

/-! ## Between tokens -/

/-- The characters that end a line. -/
def isLineEnd (c : Char) : Bool :=
  c == '\n' || c == '\r' || c.toNat == 0x2028 || c.toNat == 0x2029

/-- The characters that separate tokens. -/
def isSpace (c : Char) : Bool :=
  let n := c.toNat
  isLineEnd c || n == 0x9 || n == 0xB || n == 0xC || n == 0x20 || n == 0xA0 || n == 0xFEFF ||
    n == 0x1680 || (0x2000 ≤ n && n ≤ 0x200A) || n == 0x202F || n == 0x205F || n == 0x3000

/-- The length of the rest of a comment between `/*` and `*/`. -/
def blockCommentLength : List Char → Option Nat
  | '*' :: '/' :: _ => some 2
  | _ :: rest => (blockCommentLength rest).map (· + 1)
  | [] => none

/-- The length of a comment after its first slash. -/
def commentLength : List Char → Option Nat
  | '*' :: rest => (blockCommentLength rest).map (· + 1)
  | '/' :: rest => some ((rest.takeWhile (!isLineEnd ·)).length + 1)
  | _ => none

/-! ## Strings and names -/

/-- The digits of base sixteen. -/
def isHexDigit (c : Char) : Bool :=
  c.isDigit || ('a' ≤ c && c ≤ 'f') || ('A' ≤ c && c ≤ 'F')

/-- The characters after a backslash that stand for one character each: not a digit, and not the
beginning of a longer escape. -/
def isSimpleEscape (c : Char) : Bool := !c.isDigit && c != 'x' && c != 'u' && !isLineEnd c

/-- One more piece and the length it adds. -/
def addPiece (piece : Option Piece) (length : Nat) (scan : Option (List Piece × Nat)) :
    Option (List Piece × Nat) :=
  scan.map fun (pieces, n) => (piece.toList ++ pieces, n + length)

/-- The pieces of a string that the quote `q` has opened, and its length with the closing quote. -/
def scanPieces (q : Char) : List Char → Option (List Piece × Nat)
  | '\\' :: 'u' :: a :: b :: c :: d :: rest =>
    if [a, b, c, d].all isHexDigit then addPiece (some (.unit [a, b, c, d])) 6 (scanPieces q rest)
    else none
  | '\\' :: 'x' :: a :: b :: rest =>
    if [a, b].all isHexDigit then addPiece (some (.byte [a, b])) 4 (scanPieces q rest) else none
  | '\\' :: '0' :: rest => addPiece (some .nul) 2 (scanPieces q rest)
  | '\\' :: '\r' :: '\n' :: rest => addPiece none 3 (scanPieces q rest)
  | '\\' :: c :: rest =>
    if isLineEnd c then addPiece none 2 (scanPieces q rest)
    else if isSimpleEscape c then addPiece (some (.escaped c)) 2 (scanPieces q rest)
    else none
  | c :: rest =>
    if c = q then some ([], 1)
    else if c = '\\' || isLineEnd c then none
    else addPiece (some (.plain c)) 1 (scanPieces q rest)
  | [] => none

/-- The characters that a name may begin with. -/
def isNameStart (c : Char) : Bool := Text.isLetter c || c == '$' || c == '_'

/-- The characters that a name may go on with. -/
def isNamePart (c : Char) : Bool := isNameStart c || Text.isNameMark c

/-- The pieces with which a name goes on, and their length. -/
def scanName : List Char → List Piece × Nat
  | '\\' :: 'u' :: a :: b :: c :: d :: rest =>
    if [a, b, c, d].all isHexDigit then
      let (pieces, n) := scanName rest
      (.unit [a, b, c, d] :: pieces, n + 6)
    else ([], 0)
  | c :: rest =>
    if isNamePart c then
      let (pieces, n) := scanName rest
      (.plain c :: pieces, n + 1)
    else ([], 0)
  | [] => ([], 0)

/-! ## Numbers -/

/-- How many decimal digits a text begins with. -/
def digitsLength (cs : List Char) : Nat := (cs.takeWhile Char.isDigit).length

/-- The length of the exponent that a text begins with, or zero. -/
def exponentLength : List Char → Nat
  | e :: rest =>
    if e = 'e' || e = 'E' then
      let sign := if rest.head?.any fun c => c == '+' || c == '-' then 1 else 0
      let digits := digitsLength (rest.drop sign)
      if digits = 0 then 0 else 1 + sign + digits
    else 0
  | [] => 0

/-- The length of the whole part that a text begins with: a zero stands alone. -/
def wholeLength (cs : List Char) : Nat := if cs.head? = some '0' then 1 else digitsLength cs

/-- The length of the decimal number that a text begins with. -/
def decimalLength (cs : List Char) : Option Nat :=
  let whole := wholeLength cs
  match cs.drop whole with
  | '.' :: rest =>
    let fraction := digitsLength rest
    if whole = 0 ∧ fraction = 0 then none
    else some (whole + 1 + fraction + exponentLength (rest.drop fraction))
  | rest => if whole = 0 then none else some (whole + exponentLength rest)

/-- The length of the number that a text begins with, when it has no sign. -/
def unsignedLength (cs : List Char) : Option Nat :=
  match cs with
  | '0' :: x :: rest =>
    let digits := (rest.takeWhile isHexDigit).length
    if (x = 'x' || x = 'X') && digits != 0 then some (2 + digits) else decimalLength cs
  | _ =>
    if "Infinity".toList.isPrefixOf cs then some 8
    else if "NaN".toList.isPrefixOf cs then some 3
    else decimalLength cs

/-- The length of the number that a text begins with. -/
def numberLength : List Char → Option Nat
  | '+' :: rest => (unsignedLength rest).map (· + 1)
  | '-' :: rest => (unsignedLength rest).map (· + 1)
  | cs => unsignedLength cs

/-! ## One token -/

/-- A name that begins with the character `c`, if one does. -/
def scanIdentifier (c : Char) (rest : List Char) : Option (Token × Nat) :=
  if isNameStart c || c = '\\' then
    match scanName (c :: rest) with
    | (pieces, n + 1) => some (.name pieces, n)
    | (_, 0) => none
  else none

/-- The token that begins with the character `c`. -/
def scan (c : Char) (rest : List Char) : Option (Token × Nat) :=
  match c with
  | '[' => some (.openArray, 0)
  | ']' => some (.closeArray, 0)
  | '\x7b' => some (.openObject, 0)
  | '\x7d' => some (.closeObject, 0)
  | ':' => some (.colon, 0)
  | ',' => some (.comma, 0)
  | '"' => (scanPieces '"' rest).map fun (pieces, n) => (.string pieces, n)
  | '\'' => (scanPieces '\'' rest).map fun (pieces, n) => (.string pieces, n)
  | c =>
    match scanIdentifier c rest with
    | some name => some name
    | none =>
      match numberLength (c :: rest) with
      | some n => some (.number ((c :: rest).take n), n - 1)
      | none => none

/-! ## The whole text -/

/-- A text is no JSON5: the number of characters left where that is noticed. -/
structure SyntaxError where
  remaining : Nat
  deriving DecidableEq, Repr

/-- The tokens of a text. -/
def tokenize : List Char → Except SyntaxError (List Lexeme)
  | [] => .ok []
  | c :: rest =>
    if isSpace c then tokenize rest
    else if c = '/' then
      match commentLength rest with
      | some n => tokenize (rest.drop n)
      | none => .error ⟨rest.length + 1⟩
    else
      match scan c rest with
      | some (token, n) => (tokenize (rest.drop n)).map (⟨token, rest.length + 1⟩ :: ·)
      | none => .error ⟨rest.length + 1⟩
termination_by cs => cs.length
decreasing_by all_goals simp only [List.length_cons, List.length_drop]; omega

end Json5

end ReactiveForm
