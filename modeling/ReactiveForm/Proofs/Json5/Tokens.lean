import ReactiveForm.Json5.Parser
import ReactiveForm.Proofs.Json5.Quotation

/-!
# `ReactiveForm.Proofs.Json5.Tokens` — a value that is written as JSON, token by token

Written values are read from left to right, a token at a time, and what has been read does not depend on
what follows, as long as a word is followed by something that ends it. So the tokens of a written value
can be told from the value, whatever the layout. There are none where a string has a separator.

## Contents
- `tokens?`, the tokens of a text without their places, and `joined`, for one text after another.
- `tokens?_quote` and `tokens?_word`, the tokens of strings and words.
- `Json.tokens?`, the tokens that a value is to be read as, and `isSome_tokens?`, when there are any.
-/

namespace ReactiveForm

namespace Json5

/-! ## Tokens of texts -/

/-- The tokens of a text, without their places. -/
def tokens? (cs : List Char) : Option (List Token) :=
  (tokenize cs).toOption.map fun lexemes => lexemes.map Lexeme.token

/-- The tokens of a text after those of another. -/
def joined (ts us : Option (List Token)) : Option (List Token) := ts.bind fun ts => us.map (ts ++ ·)

@[simp] theorem joined_nil (us : Option (List Token)) : joined (some []) us = us := by
  cases us <;> rfl

theorem joined_assoc (ts us vs : Option (List Token)) :
    joined (joined ts us) vs = joined ts (joined us vs) := by
  cases ts <;> cases us <;> cases vs <;> simp [joined]

theorem isSome_joined {ts us : Option (List Token)} :
    (joined ts us).isSome = (ts.isSome && us.isSome) := by
  cases ts <;> cases us <;> rfl

@[simp] theorem tokens?_nil : tokens? [] = some [] := by
  unfold tokens?
  rw [tokenize.eq_def]
  rfl

theorem tokens?_space {c : Char} (h : isSpace c = true) (rest : List Char) :
    tokens? (c :: rest) = tokens? rest := by
  unfold tokens?
  rw [tokenize.eq_def]
  simp only [h, if_true]

/-- A token is read, and then the rest. -/
theorem tokens?_scan {c : Char} {rest : List Char} (hspace : isSpace c = false) (hslash : c ≠ '/') :
    tokens? (c :: rest) =
      (scan c rest).bind fun found => joined (some [found.1]) (tokens? (rest.drop found.2)) := by
  unfold tokens?
  rw [tokenize.eq_def]
  simp only [hspace, Bool.false_eq_true, if_false, hslash]
  cases hscan : scan c rest with
  | none => rfl
  | some found =>
    simp only [Option.bind_some]
    cases tokenize (rest.drop found.2) <;> rfl

/-- A mark is a token by itself. -/
theorem tokens?_mark {c : Char} {token : Token} (hspace : isSpace c = false) (hslash : c ≠ '/')
    (hscan : ∀ rest, scan c rest = some (token, 0)) (rest : List Char) :
    tokens? (c :: rest) = joined (some [token]) (tokens? rest) := by
  rw [tokens?_scan hspace hslash, hscan]
  rfl

/-! ## Strings and words -/

/-- The tokens that a quoted string is read as. -/
def stringTokens? (s : String) : Option (List Token) :=
  if hasSeparator s then none else some [.string (piecesOf s)]

theorem tokens?_quote (s : String) (rest : List Char) :
    tokens? (Json.quote s ++ rest) = joined (stringTokens? s) (tokens? rest) := by
  unfold Json.quote
  rw [List.cons_append, List.cons_append, List.append_assoc, List.singleton_append,
    tokens?_scan (by decide) (by decide)]
  show ((scanPieces '"' _).map _).bind _ = _
  rw [scanPieces_escape]
  unfold stringTokens? hasSeparator
  split
  · rfl
  · have hdrop : ∀ xs : List Char, (xs ++ '"' :: rest).drop (xs.length + 1) = rest := by
      intro xs
      simp [List.drop_append]
    rw [Option.map_some, Option.bind_some, hdrop]
    rfl

/-- What ends a word: the end of the text, or a character that no word goes on with. -/
def EndsWord (rest : List Char) : Prop := ∀ c ∈ rest.head?, isNamePart c = false ∧ c ≠ '\\'

theorem scanName_word {word rest : List Char} (hword : ∀ c ∈ word, isNamePart c = true ∧ c ≠ '\\')
    (hrest : EndsWord rest) : scanName (word ++ rest) = (word.map .plain, word.length) := by
  -- without a backslash only the last rule of `scanName` applies
  have hcons : ∀ (c : Char) (cs : List Char), c ≠ '\\' → scanName (c :: cs) =
      if isNamePart c then (.plain c :: (scanName cs).1, (scanName cs).2 + 1) else ([], 0) := by
    intro c cs hc
    rw [scanName]
    rintro _ _ _ _ _ h
    exact absurd h hc
  induction word with
  | nil =>
    cases rest with
    | nil => rfl
    | cons c rest =>
      obtain ⟨hpart, hslash⟩ := hrest c rfl
      rw [List.nil_append, hcons c rest hslash, hpart]
      rfl
  | cons c word ih =>
    obtain ⟨hpart, hslash⟩ := hword c List.mem_cons_self
    rw [List.cons_append, hcons c _ hslash, if_pos hpart, ih fun d hd => hword d (List.mem_cons_of_mem _ hd)]
    rfl

/-- A word that is followed by what ends it is a name. -/
theorem tokens?_word {c : Char} {word rest : List Char} (hspace : isSpace c = false) (hslash : c ≠ '/')
    (hscan : ∀ cs found, scanIdentifier c cs = some found → scan c cs = some found)
    (hstart : isNameStart c = true) (hword : ((c :: word).all fun d => isNamePart d && d != '\\') = true)
    (hrest : EndsWord rest) :
    tokens? (c :: word ++ rest) = joined (some [.name ((c :: word).map .plain)]) (tokens? rest) := by
  have hparts : ∀ d ∈ c :: word, isNamePart d = true ∧ d ≠ '\\' := by
    simpa only [List.all_eq_true, Bool.and_eq_true, bne_iff_ne] using hword
  have hname := scanName_word hparts hrest
  have hidentifier : scanIdentifier c (word ++ rest) = some (.name ((c :: word).map .plain), word.length) := by
    unfold scanIdentifier
    rw [← List.cons_append, hname, hstart]
    rfl
  rw [List.cons_append, tokens?_scan hspace hslash, hscan _ _ hidentifier, Option.bind_some,
    List.drop_left]

end Json5

/-! ## Values -/

namespace Json

open Json5

/-- What holds of a value if it holds of its items and of what its members hold, holds of all values. -/
@[elab_as_elim]
theorem induct {motive : Json → Prop} (null : motive .null) (bool : ∀ b, motive (.bool b))
    (number : ∀ n, motive (.number n)) (string : ∀ s, motive (.string s))
    (array : ∀ items, (∀ item ∈ items, motive item) → motive (.array items))
    (object : ∀ members, (∀ member ∈ members, motive member.2) → motive (.object members)) :
    ∀ j, motive j
  | .null => null
  | .bool b => bool b
  | .number n => number n
  | .string s => string s
  | .array items => array items (ofItems items)
  | .object members => object members (ofMembers members)
where
  ofItems : ∀ items : List Json, ∀ item ∈ items, motive item
    | first :: rest, item, h =>
      (List.mem_cons.mp h).elim (fun he => he ▸ induct null bool number string array object first)
        (ofItems rest item)
  ofMembers : ∀ members : List (String × Json), ∀ member ∈ members, motive member.2
    | (_, value) :: rest, member, h =>
      (List.mem_cons.mp h).elim (fun he => he ▸ induct null bool number string array object value)
        (ofMembers rest member)

/-- The word for a value that is one. -/
def wordToken (word : String) : Token := .name (word.toList.map .plain)

mutual

/-- The tokens that a value is read as. -/
def tokens? : Json → Option (List Token)
  | null => some [wordToken "null"]
  | bool true => some [wordToken "true"]
  | bool false => some [wordToken "false"]
  | number n => some [.number (toString n).toList]
  | string s => stringTokens? s
  | array items => joined (some [.openArray]) (joined (itemTokens? items) (some [.closeArray]))
  | object members => joined (some [.openObject]) (joined (memberTokens? members) (some [.closeObject]))

/-- The tokens that items with commas between them are read as. -/
def itemTokens? : List Json → Option (List Token)
  | [] => some []
  | [item] => item.tokens?
  | item :: rest => joined item.tokens? (joined (some [.comma]) (itemTokens? rest))

/-- The tokens that members with commas between them are read as. -/
def memberTokens? : List (String × Json) → Option (List Token)
  | [] => some []
  | [(key, value)] => joined (stringTokens? key) (joined (some [.colon]) value.tokens?)
  | (key, value) :: rest =>
    joined (stringTokens? key) (joined (some [.colon]) (joined value.tokens?
      (joined (some [.comma]) (memberTokens? rest))))

end

mutual

/-- The strings that stand in a value, keys among them. -/
def texts : Json → List String
  | null => []
  | bool _ => []
  | number _ => []
  | string s => [s]
  | array items => itemTexts items
  | object members => memberTexts members

/-- The strings that stand in some values. -/
def itemTexts : List Json → List String
  | [] => []
  | item :: rest => item.texts ++ itemTexts rest

/-- The strings that stand in some members. -/
def memberTexts : List (String × Json) → List String
  | [] => []
  | (key, value) :: rest => key :: value.texts ++ memberTexts rest

end

theorem itemTexts_eq (items : List Json) : itemTexts items = items.flatMap texts := by
  induction items with
  | nil => rfl
  | cons item items ih => rw [itemTexts, ih, List.flatMap_cons]

theorem memberTexts_eq (members : List (String × Json)) :
    memberTexts members = members.flatMap fun member => member.1 :: member.2.texts := by
  induction members with
  | nil => rfl
  | cons member members ih => rw [memberTexts, ih, List.flatMap_cons]

theorem isSome_stringTokens? (s : String) : (stringTokens? s).isSome = !hasSeparator s := by
  unfold stringTokens?
  cases hasSeparator s <;> rfl

theorem isSome_itemTokens? {items : List Json}
    (hone : ∀ item ∈ items, item.tokens?.isSome = item.texts.all (!hasSeparator ·)) :
    (itemTokens? items).isSome = (itemTexts items).all (!hasSeparator ·) := by
  induction items with
  | nil => simp [itemTokens?, itemTexts]
  | cons item items ih =>
    have hhere := hone item List.mem_cons_self
    have hrest := ih fun x hx => hone x (List.mem_cons_of_mem _ hx)
    cases items with
    | nil => simp [itemTokens?, itemTexts, hhere]
    | cons next items => simp [itemTokens?, itemTexts, isSome_joined, hhere, hrest]

theorem isSome_memberTokens? {members : List (String × Json)}
    (hone : ∀ member ∈ members, member.2.tokens?.isSome = member.2.texts.all (!hasSeparator ·)) :
    (memberTokens? members).isSome = (memberTexts members).all (!hasSeparator ·) := by
  induction members with
  | nil => simp [memberTokens?, memberTexts]
  | cons member members ih =>
    obtain ⟨key, value⟩ := member
    have hhere := hone (key, value) List.mem_cons_self
    have hrest := ih fun x hx => hone x (List.mem_cons_of_mem _ hx)
    cases members with
    | nil => simp [memberTokens?, memberTexts, isSome_joined, isSome_stringTokens?, hhere]
    | cons next members =>
      simp [memberTokens?, memberTexts, isSome_joined, isSome_stringTokens?, hhere, hrest]

/-- **There are tokens to read unless a string has a separator.** -/
theorem isSome_tokens? (j : Json) : j.tokens?.isSome = j.texts.all (!hasSeparator ·) := by
  induction j using Json.induct with
  | null => simp [tokens?, texts]
  | bool b => cases b <;> simp [tokens?, texts]
  | number n => simp [tokens?, texts]
  | string s => simp [tokens?, texts, isSome_stringTokens?]
  | array items ih => simp [tokens?, texts, isSome_joined, isSome_itemTokens? ih]
  | object members ih => simp [tokens?, texts, isSome_joined, isSome_memberTokens? ih]

end Json

end ReactiveForm
