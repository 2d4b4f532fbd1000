import ReactiveForm.Condition.Lexer

/-!
# `ReactiveForm.Condition.Parser` — from tokens to conditions

The grammar is

    condition  := term (("&&" | "||") term)*
    term       := "!"? (comparison | "(" condition ")")
    comparison := name ("==" | "!=") literal

The parser reads one token at a time. Its state holds the links of the chain that is being read (terms
that are already followed by a connective), the groups that are still open, innermost first, and what
may come next. Only when a chain is complete does the precedence decide how its terms are joined, so
both precedences accept the same texts and refuse the others with the same errors.

## Contents
- `Link` and `Precedence.assemble`, from a chain of terms to one condition.
- `Parser` and its steps `feed` and `finish`.
- `parse`, from a text to a condition.
-/

namespace ReactiveForm

/-! ## Chains -/

/-- A term of a chain with the connective that follows it. -/
abbrev Condition.Link := Condition × Connective

namespace Precedence

/-- What the operand after some links is joined into when operators apply from the left. -/
def joinFromLeft (links : List Condition.Link) : Condition → Condition :=
  links.foldl (fun join (term, k) operand => .join k (join term) operand) id

/-- What the operand after some links is joined into when `&&` binds tighter: the alternatives that
are complete, and the conjunction the operand belongs to. -/
def joinByBinding (links : List Condition.Link) : (Condition → Condition) × (Condition → Condition) :=
  links.foldl
    (fun (alternatives, conjunction) (term, k) =>
      match k with
      | .and => (alternatives, Condition.join .and (conjunction term))
      | .or => (Condition.join .or (alternatives (conjunction term)), id))
    (id, id)

/-- The condition that a chain stands for: some links and a last term. -/
def assemble : Precedence → List Condition.Link → Condition → Condition
  | leftToRight, links, last => joinFromLeft links last
  | standard, links, last =>
    let (alternatives, conjunction) := joinByBinding links
    alternatives (conjunction last)

end Precedence

namespace Condition

/-! ## The state of the parser -/

/-- A group whose closing parenthesis has not been read, with the links of the chain around it. -/
structure OpenGroup where
  position : Nat
  negated : Bool
  links : List Link
  deriving DecidableEq, Repr

/-- What may come next. -/
inductive Expecting where
  /-- An input name or a group, or the `!` of a term that has none yet. -/
  | term (negated : Bool)
  /-- The operator after an input name. -/
  | relation (negated : Bool) (input : String)
  /-- The literal after an operator. -/
  | value (negated : Bool) (input : String) (relation : Relation)
  /-- A connective, a closing parenthesis or the end. -/
  | connective (term : Condition)
  deriving DecidableEq, Repr

/-- A parser that has read some tokens. -/
structure Parser where
  precedence : Precedence
  expecting : Expecting := .term false
  links : List Link := []
  groups : List OpenGroup := []
  deriving DecidableEq, Repr

/-- A term with the negation that was read before it. -/
def negateIf (negated : Bool) (term : Condition) : Condition := if negated then .not term else term

namespace Parser

/-- The condition that ends with the given term, inside the innermost open group. -/
def close (p : Parser) (last : Condition) : Condition := p.precedence.assemble p.links last

/-- The parser after one more token. -/
def feed (p : Parser) (lexeme : Lexeme) : Except ParseError Parser :=
  let refuse (fault : ParseFault) : Except ParseError Parser := .error ⟨fault, lexeme.position⟩
  match p.expecting, lexeme.token with
  | .term false, .negation => .ok { p with expecting := .term true }
  | .term negated, .opening =>
    .ok { p with
      expecting := .term false
      links := []
      groups := ⟨lexeme.position, negated, p.links⟩ :: p.groups }
  | .term negated, .word name => .ok { p with expecting := .relation negated name }
  | .term _, found => refuse (.expectedInput (some found))
  | .relation negated name, .relation r => .ok { p with expecting := .value negated name r }
  | .relation _ name, found => refuse (.expectedRelation name (some found))
  | .value negated name r, found =>
    match found.literal? with
    | some literal =>
      .ok { p with expecting := .connective (negateIf negated (.compare ⟨name, r, literal⟩)) }
    | none => refuse (.expectedValue r (some found))
  | .connective term, .connective k =>
    .ok { p with expecting := .term false, links := p.links ++ [(term, k)] }
  | .connective term, found =>
    match p.groups, found with
    | outer :: groups, .closing =>
      .ok { p with
        expecting := .connective (negateIf outer.negated (.group (p.close term)))
        links := outer.links
        groups := groups }
    | _ :: _, _ => refuse (.expectedClosing found)
    | [], .closing => refuse .unopenedGroup
    | [], _ => refuse (.unexpected found)

/-- The condition that has been read when the text ends at the given offset. -/
def finish (p : Parser) (endPosition : Nat) : Except ParseError Condition :=
  match p.expecting with
  | .term _ => .error ⟨.expectedInput none, endPosition⟩
  | .relation _ name => .error ⟨.expectedRelation name none, endPosition⟩
  | .value _ _ r => .error ⟨.expectedValue r none, endPosition⟩
  | .connective term =>
    match p.groups with
    | [] => .ok (p.close term)
    | innermost :: _ => .error ⟨.unclosedGroup, innermost.position⟩

/-- The parser after some tokens. -/
def feedAll (p : Parser) (lexemes : List Lexeme) : Except ParseError Parser :=
  lexemes.foldlM feed p

@[simp] theorem feedAll_nil (p : Parser) : p.feedAll [] = .ok p := rfl

theorem feedAll_cons (p : Parser) (l : Lexeme) (ls : List Lexeme) :
    p.feedAll (l :: ls) = p.feed l >>= fun q => q.feedAll ls := rfl

theorem feedAll_append (p : Parser) (ls ms : List Lexeme) :
    p.feedAll (ls ++ ms) = p.feedAll ls >>= fun q => q.feedAll ms := by
  simp [feedAll, List.foldlM_append]

end Parser

/-! ## Parsing -/

/-- The condition that some tokens spell, in a text that ends at the given offset. -/
def parseLexemes (precedence : Precedence) (lexemes : List Lexeme) (endPosition : Nat) :
    Except ParseError Condition := do
  if lexemes.isEmpty then throw ⟨.empty, 0⟩
  let parser ← Parser.feedAll { precedence } lexemes
  parser.finish endPosition

/-- The condition that a text spells. -/
def parse (precedence : Precedence) (text : String) : Except ParseError Condition := do
  let lexemes ← tokenize text.toList
  parseLexemes precedence lexemes (Text.width text.toList)

end Condition

end ReactiveForm
