import Mathlib.Data.List.Forall2
import ReactiveForm.Proofs.Json5.Tokens

/-!
# `ReactiveForm.Proofs.Json5.Layout` — the layouts of JSON do not matter

A value is written on one line, or with one item a line. In both layouts the items of an array and the
members of an object stand between two brackets with commas between them, each after a gap that is
skipped. The tokens are those of the items in any case, and so both layouts are read alike.

## Contents
- `spread`, parts of a text with commas between them, and `ReadsTo`, a part that is read as some tokens.
- `ReadsTo.enclosed`, parts between brackets.
- `Json.readsTo_pretty` and `Json.readsTo_compact`: **a value without numbers is read as its tokens**, with
  `Json.tokens?_pretty` and `Json.tokens?_compact` for a text of it alone.
- `Json.newline_not_mem_compact`: **a value on one line stands on one line**.
-/

namespace ReactiveForm

namespace Json5

/-! ## Parts of a text -/

/-- A part of a text is read as some tokens, whatever follows, if that ends a word. -/
def ReadsTo (part : List Char) (tokens : Option (List Token)) : Prop :=
  ∀ rest, EndsWord rest → tokens? (part ++ rest) = joined tokens (tokens? rest)

/-- A text that holds no token. -/
def IsGap (gap : List Char) : Prop := ∀ rest, tokens? (gap ++ rest) = tokens? rest

/-- Parts of a text with commas between them, each after a gap. -/
def spread (gap : List Char) : List (List Char) → List Char
  | [] => []
  | [part] => gap ++ part
  | part :: rest => gap ++ part ++ ',' :: spread gap rest

/-- The tokens of parts with commas between them. -/
def spreadTokens? : List (Option (List Token)) → Option (List Token)
  | [] => some []
  | [tokens] => tokens
  | tokens :: rest => joined tokens (joined (some [.comma]) (spreadTokens? rest))

theorem isGap_nil : IsGap [] := fun _ => rfl

theorem isGap_newline (depth : Nat) : IsGap (Json.newline depth) := by
  intro rest
  -- a line end and the spaces after it are skipped one by one
  have hspaces : ∀ n, tokens? (List.replicate n ' ' ++ rest) = tokens? rest := by
    intro n
    induction n with
    | zero => rfl
    | succ n ih =>
      rw [List.replicate_succ, List.cons_append, tokens?_space (by decide), ih]
  unfold Json.newline
  rw [List.cons_append, tokens?_space (by decide), hspaces]

theorem endsWord_cons {c : Char} (h : isNamePart c = false ∧ c ≠ '\\') (rest : List Char) :
    EndsWord (c :: rest) := by
  intro d hd
  rw [← Option.some.inj hd]
  exact h

theorem endsWord_newline (depth : Nat) (rest : List Char) : EndsWord (Json.newline depth ++ rest) :=
  endsWord_cons (c := '\n') (by decide +kernel) _

theorem endsWord_comma (rest : List Char) : EndsWord (',' :: rest) := endsWord_cons (by decide +kernel) _

theorem tokens?_comma (rest : List Char) : tokens? (',' :: rest) = joined (some [.comma]) (tokens? rest) :=
  tokens?_mark (by decide) (by decide) (fun _ => rfl) rest

theorem tokens?_colon (rest : List Char) : tokens? (':' :: rest) = joined (some [.colon]) (tokens? rest) :=
  tokens?_mark (by decide) (by decide) (fun _ => rfl) rest

/-- **Parts with commas between them are read one after the other.** What follows a part is the comma,
which ends a word that the part may be. -/
theorem tokens?_spread {gap : List Char} (hgap : IsGap gap) {parts : List (List Char)}
    {tokens : List (Option (List Token))} (h : List.Forall₂ ReadsTo parts tokens) {rest : List Char}
    (hrest : EndsWord rest) :
    tokens? (spread gap parts ++ rest) = joined (spreadTokens? tokens) (tokens? rest) := by
  induction h with
  | nil => rw [spread, spreadTokens?, List.nil_append, joined_nil]
  | cons hpart hparts ih =>
    cases hparts with
    | nil => rw [spread, spreadTokens?, List.append_assoc, hgap, hpart _ hrest]
    | cons hnext hmore =>
      rw [spread, spreadTokens?]
      · simp only [List.append_assoc, List.cons_append, joined_assoc]
        rw [hgap, hpart _ (endsWord_comma _), tokens?_comma, ih]
      all_goals exact List.cons_ne_nil _ _

namespace ReadsTo

/-- A string is read as such. -/
theorem quote (s : String) : ReadsTo (Json.quote s) (stringTokens? s) := by
  intro rest _
  exact tokens?_quote s rest

/-- **Parts between brackets:** there may be a gap before the last bracket, and it or the bracket ends a
word. -/
theorem enclosed {first last : Char} {opening closing : Token} {gap gap' : List Char}
    {parts : List (List Char)} {tokens : List (Option (List Token))}
    (hfirst : ∀ rest, tokens? (first :: rest) = joined (some [opening]) (tokens? rest))
    (hlast : ∀ rest, tokens? (last :: rest) = joined (some [closing]) (tokens? rest))
    (hgap : IsGap gap) (hgap' : IsGap gap') (hends : ∀ rest, EndsWord (gap' ++ last :: rest))
    (h : List.Forall₂ ReadsTo parts tokens) :
    ReadsTo (first :: spread gap parts ++ gap' ++ [last])
      (joined (some [opening]) (joined (spreadTokens? tokens) (some [closing]))) := by
  intro rest _
  simp only [List.append_assoc, List.cons_append, List.nil_append, joined_assoc]
  rw [hfirst, tokens?_spread hgap h (hends rest), hgap', hlast]

end ReadsTo

end Json5

/-! ## Values -/

namespace Json

open Json5

mutual

/-- Whether a number stands in a value. -/
def hasNumber : Json → Bool
  | null => false
  | bool _ => false
  | number _ => true
  | string _ => false
  | array items => anyNumber items
  | object members => anyMemberNumber members

/-- Whether a number stands in some values. -/
def anyNumber : List Json → Bool
  | [] => false
  | item :: rest => item.hasNumber || anyNumber rest

/-- Whether a number stands in some members. -/
def anyMemberNumber : List (String × Json) → Bool
  | [] => false
  | (_, value) :: rest => value.hasNumber || anyMemberNumber rest

end

theorem anyNumber_eq_false_iff {items : List Json} :
    anyNumber items = false ↔ ∀ item ∈ items, item.hasNumber = false := by
  induction items with
  | nil => simp [anyNumber]
  | cons item items ih => simp [anyNumber, ih]

theorem anyMemberNumber_eq_false_iff {members : List (String × Json)} :
    anyMemberNumber members = false ↔ ∀ member ∈ members, member.2.hasNumber = false := by
  induction members with
  | nil => simp [anyMemberNumber]
  | cons member members ih => simp [anyMemberNumber, ih]

/-- The tokens that a member is read as. -/
def memberToken? (member : String × Json) : Option (List Token) :=
  joined (stringTokens? member.1) (joined (some [.colon]) member.2.tokens?)

theorem itemTokens?_eq (items : List Json) : itemTokens? items = spreadTokens? (items.map tokens?) := by
  induction items with
  | nil => rfl
  | cons item items ih =>
    cases items with
    | nil => rfl
    | cons next items =>
      rw [itemTokens?, ih]
      · rfl
      · exact List.cons_ne_nil _ _

theorem memberTokens?_eq (members : List (String × Json)) :
    memberTokens? members = spreadTokens? (members.map memberToken?) := by
  induction members with
  | nil => rfl
  | cons member members ih =>
    cases members with
    | nil => rfl
    | cons next members =>
      show _ = joined (joined _ _) (joined _ _)
      rw [memberTokens?, ih]
      · simp only [joined_assoc]
      · exact List.cons_ne_nil _ _

/-- What a value of one word is read as. -/
theorem readsTo_word {word : String} (h : word = "null" ∨ word = "true" ∨ word = "false") :
    ReadsTo word.toList (some [wordToken word]) := by
  have hscan : ∀ c, c = 'n' ∨ c = 't' ∨ c = 'f' → ∀ cs found, scanIdentifier c cs = some found →
      scan c cs = some found := by
    rintro c (rfl | rfl | rfl) cs found hfound <;> simp [scan, hfound]
  intro rest hrest
  rcases h with rfl | rfl | rfl
  · exact tokens?_word (by decide) (by decide) (hscan 'n' (.inl rfl)) (by decide) (by decide) hrest
  · exact tokens?_word (by decide) (by decide) (hscan 't' (.inr (.inl rfl))) (by decide) (by decide) hrest
  · exact tokens?_word (by decide) (by decide) (hscan 'f' (.inr (.inr rfl))) (by decide) (by decide) hrest

theorem readsTo_bool (b : Bool) : ReadsTo (bool b).scalar (bool b).tokens? := by
  cases b with
  | false => exact readsTo_word (.inr (.inr rfl))
  | true => exact readsTo_word (.inr (.inl rfl))

/-- A member is read as such, with or without a gap after its colon. -/
theorem readsTo_member {member : String × Json} {text gap : List Char} (hgap : IsGap gap)
    (h : ReadsTo text member.2.tokens?) :
    ReadsTo (quote member.1 ++ ':' :: (gap ++ text)) (memberToken? member) := by
  intro rest hrest
  unfold memberToken?
  simp only [List.append_assoc, List.cons_append, joined_assoc]
  rw [tokens?_quote, tokens?_colon, hgap, h rest hrest]

/-- The brackets of an array. -/
theorem readsTo_array {items : List Json} {texts : List (List Char)} {gap gap' : List Char}
    (hgap : IsGap gap) (hgap' : IsGap gap') (hends : ∀ rest, EndsWord (gap' ++ ']' :: rest))
    (h : List.Forall₂ ReadsTo texts (items.map tokens?)) :
    ReadsTo ('[' :: spread gap texts ++ gap' ++ [']']) (array items).tokens? := by
  rw [tokens?, itemTokens?_eq]
  exact .enclosed (tokens?_mark (by decide) (by decide) fun _ => rfl)
    (tokens?_mark (by decide) (by decide) fun _ => rfl) hgap hgap' hends h

/-- The brackets of an object. -/
theorem readsTo_object {members : List (String × Json)} {texts : List (List Char)} {gap gap' : List Char}
    (hgap : IsGap gap) (hgap' : IsGap gap') (hends : ∀ rest, EndsWord (gap' ++ '\x7d' :: rest))
    (h : List.Forall₂ ReadsTo texts (members.map memberToken?)) :
    ReadsTo ('\x7b' :: spread gap texts ++ gap' ++ ['\x7d']) (object members).tokens? := by
  rw [tokens?, memberTokens?_eq]
  exact .enclosed (tokens?_mark (by decide) (by decide) fun _ => rfl)
    (tokens?_mark (by decide) (by decide) fun _ => rfl) hgap hgap' hends h

/-- What is written of each of some values is read as the tokens of each of them. -/
theorem forall₂_readsTo {α : Type} {values : List α} {text : α → List Char}
    {tokens : α → Option (List Token)} (h : ∀ value ∈ values, ReadsTo (text value) (tokens value)) :
    List.Forall₂ ReadsTo (values.map text) (values.map tokens) := by
  rw [List.forall₂_map_left_iff, List.forall₂_map_right_iff, List.forall₂_same]
  exact h

/-- A text of a value alone is read as what the value is read as before any other text. -/
theorem tokens?_of_readsTo {text : List Char} {tokens : Option (List Token)} (h : ReadsTo text tokens) :
    Json5.tokens? text = tokens := by
  have hread := h [] fun _ hc => nomatch hc
  rw [List.append_nil, tokens?_nil] at hread
  rw [hread]
  cases tokens with
  | none => rfl
  | some ts => simp [joined]

/-! ### One item a line -/

/-- The text of a member that begins at a depth. -/
def prettyMember (depth : Nat) (member : String × Json) : List Char :=
  quote member.1 ++ ':' :: ([' '] ++ prettyChars depth member.2)

theorem prettyItems_eq (depth : Nat) (items : List Json) :
    prettyItems depth items = spread (newline depth) (items.map (prettyChars depth)) := by
  induction items with
  | nil => rfl
  | cons item items ih =>
    cases items with
    | nil => rfl
    | cons next items =>
      rw [prettyItems, ih]
      · rfl
      · exact List.cons_ne_nil _ _

theorem prettyMembers_eq (depth : Nat) (members : List (String × Json)) :
    prettyMembers depth members = spread (newline depth) (members.map (prettyMember depth)) := by
  have hmember : ∀ (name : String) (value : Json),
      newline depth ++ quote name ++ ": ".toList ++ prettyChars depth value =
        newline depth ++ prettyMember depth (name, value) := by
    intro name value
    show _ = newline depth ++ (quote name ++ (": ".toList ++ prettyChars depth value))
    simp only [List.append_assoc]
  induction members with
  | nil => rfl
  | cons member members ih =>
    obtain ⟨name, value⟩ := member
    cases members with
    | nil => exact hmember name value
    | cons next members =>
      rw [prettyMembers, ih, hmember]
      · rfl
      · exact List.cons_ne_nil _ _

/-- **A value without numbers that has one item a line is read as its tokens.** -/
theorem readsTo_pretty {j : Json} (h : j.hasNumber = false) (depth : Nat) :
    ReadsTo (prettyChars depth j) j.tokens? := by
  induction j using Json.induct generalizing depth with
  | null => exact readsTo_word (.inl rfl)
  | bool b => exact readsTo_bool b
  | number n => cases h
  | string s => exact .quote s
  | array items ih =>
    have hitems := anyNumber_eq_false_iff.mp h
    cases items with
    | nil =>
      have hends : ∀ rest, EndsWord (']' :: rest) := endsWord_cons (by decide +kernel)
      have hnone : List.Forall₂ ReadsTo [] (([] : List Json).map tokens?) := .nil
      exact readsTo_array isGap_nil isGap_nil hends hnone
    | cons item items =>
      rw [prettyChars, prettyItems_eq]
      refine readsTo_array (isGap_newline _) (isGap_newline _) (fun rest => endsWord_newline _ _) ?_
      exact forall₂_readsTo fun item hmem => ih item hmem (hitems item hmem) _
  | object members ih =>
    have hmembers := anyMemberNumber_eq_false_iff.mp h
    cases members with
    | nil =>
      have hends : ∀ rest, EndsWord ('\x7d' :: rest) := endsWord_cons (by decide +kernel)
      have hnone : List.Forall₂ ReadsTo [] (([] : List (String × Json)).map memberToken?) := .nil
      exact readsTo_object isGap_nil isGap_nil hends hnone
    | cons member members =>
      rw [prettyChars, prettyMembers_eq]
      refine readsTo_object (isGap_newline _) (isGap_newline _) (fun rest => endsWord_newline _ _) ?_
      refine forall₂_readsTo fun member hmem => ?_
      have hspace : IsGap [' '] := fun rest => tokens?_space (by decide) rest
      unfold prettyMember
      exact readsTo_member hspace (ih member hmem (hmembers member hmem) _)

theorem tokens?_pretty {j : Json} (h : j.hasNumber = false) : Json5.tokens? j.pretty.toList = j.tokens? := by
  rw [pretty, String.toList_ofList]
  exact tokens?_of_readsTo (readsTo_pretty h 0)

/-! ### One line -/

/-- The text of a member on one line. -/
def compactMember (member : String × Json) : List Char :=
  quote member.1 ++ ':' :: compactChars member.2

theorem compactItems_eq (items : List Json) : compactItems items = spread [] (items.map compactChars) := by
  induction items with
  | nil => rfl
  | cons item items ih =>
    cases items with
    | nil => rfl
    | cons next items =>
      rw [compactItems, ih]
      · rfl
      · exact List.cons_ne_nil _ _

theorem compactMembers_eq (members : List (String × Json)) :
    compactMembers members = spread [] (members.map compactMember) := by
  induction members with
  | nil => rfl
  | cons member members ih =>
    cases members with
    | nil => rfl
    | cons next members =>
      rw [compactMembers, ih]
      · rfl
      · exact List.cons_ne_nil _ _

/-- **A value without numbers that stands on one line is read as its tokens.** -/
theorem readsTo_compact {j : Json} (h : j.hasNumber = false) : ReadsTo (compactChars j) j.tokens? := by
  induction j using Json.induct with
  | null => exact readsTo_word (.inl rfl)
  | bool b => exact readsTo_bool b
  | number n => cases h
  | string s => exact .quote s
  | array items ih =>
    have hitems := anyNumber_eq_false_iff.mp h
    have hends : ∀ rest, EndsWord (']' :: rest) := endsWord_cons (by decide +kernel)
    have hread := readsTo_array isGap_nil isGap_nil hends
      (forall₂_readsTo fun item hmem => ih item hmem (hitems item hmem))
    rwa [List.append_nil, ← compactItems_eq] at hread
  | object members ih =>
    have hmembers := anyMemberNumber_eq_false_iff.mp h
    have hends : ∀ rest, EndsWord ('\x7d' :: rest) := endsWord_cons (by decide +kernel)
    have hmember : ∀ member ∈ members, ReadsTo (compactMember member) (memberToken? member) := by
      intro member hmem
      unfold compactMember
      have hread := readsTo_member isGap_nil (ih member hmem (hmembers member hmem))
      rwa [List.nil_append] at hread
    have hread := readsTo_object isGap_nil isGap_nil hends (forall₂_readsTo hmember)
    rwa [List.append_nil, ← compactMembers_eq] at hread

theorem tokens?_compact {j : Json} (h : j.hasNumber = false) : Json5.tokens? j.compact.toList = j.tokens? := by
  rw [compact, String.toList_ofList]
  exact tokens?_of_readsTo (readsTo_compact h)

/-- What stands between separators comes from the parts. -/
theorem mem_spread {gap : List Char} {parts : List (List Char)} {c : Char} (h : c ∈ spread gap parts) :
    c ∈ gap ∨ c = ',' ∨ ∃ part ∈ parts, c ∈ part := by
  fun_induction spread gap parts with
  | case1 => cases h
  | case2 part =>
    exact (List.mem_append.mp h).imp_right fun hc => .inr ⟨part, List.mem_cons_self, hc⟩
  | case3 part rest _ ih =>
    rcases List.mem_append.mp h with h | h
    · exact (List.mem_append.mp h).imp_right fun hc => .inr ⟨part, List.mem_cons_self, hc⟩
    rcases List.mem_cons.mp h with h | h
    · exact .inr (.inl h)
    · refine (ih h).imp_right (Or.imp_right ?_)
      exact fun ⟨other, hother, hc⟩ => ⟨other, List.mem_cons_of_mem _ hother, hc⟩

/-- A quoted text has no line break of its own: the breaks in it are escaped. -/
theorem newline_not_mem_quote (s : String) : '\n' ∉ quote s := by
  have hescaped : ∀ c, '\n' ∉ escapeChar c := by
    intro c hc
    have hescapes := Json5.escapes c
    generalize escapeChar c = text at hescapes hc
    generalize Json5.pieceOf c = piece at hescapes
    cases hescapes with
    | @letter x simple =>
      have hx : x = '\n' := by simpa [eq_comm] using hc
      rw [hx] at simple
      cases simple
    | control low =>
      have hdigits := List.all_eq_true.mp (Json5.control_digits low).1
      rcases List.mem_append.mp hc with hc | hc
      · simp at hc
      · have hdigit := hdigits '\n' (List.mem_append_right _ hc)
        cases hdigit
    | plain quote slash high =>
      rw [← List.mem_singleton.mp hc] at high
      exact high (by decide)
  unfold quote
  simp [hescaped]

theorem newline_not_mem_number (n : Int) : '\n' ∉ (toString n).toList := by
  have hdigits : ∀ m : Nat, '\n' ∉ (toString m).toList := by
    intro m hc
    have hmem : '\n' ∈ Nat.toDigits 10 m := by simpa [toString] using hc
    have hdigit := Nat.isDigit_of_mem_toDigits (by decide) (by decide) hmem
    cases hdigit
  cases n with
  | ofNat m => exact hdigits m
  | negSucc m =>
    have htext : (toString (Int.negSucc m)).toList = '-' :: (toString (m + 1)).toList := by
      show ("-" ++ toString (m + 1)).toList = _
      simp
    rw [htext, List.mem_cons, not_or]
    exact ⟨by decide, hdigits (m + 1)⟩

/-- **A value on one line stands on one line.** -/
theorem newline_not_mem_compact (j : Json) : '\n' ∉ j.compactChars := by
  induction j using Json.induct with
  | null => decide
  | bool b => cases b <;> decide
  | number n => exact newline_not_mem_number n
  | string s => exact newline_not_mem_quote s
  | array items ih =>
    have hitems : '\n' ∉ compactItems items := by
      rw [compactItems_eq]
      intro h
      rcases mem_spread h with h | h | ⟨part, hpart, h⟩
      · cases h
      · exact absurd h (by decide)
      · obtain ⟨item, hitem, rfl⟩ := List.mem_map.mp hpart
        exact ih item hitem h
    rw [compactChars]
    simp [hitems]
  | object members ih =>
    have hmembers : '\n' ∉ compactMembers members := by
      rw [compactMembers_eq]
      intro h
      rcases mem_spread h with h | h | ⟨part, hpart, h⟩
      · cases h
      · exact absurd h (by decide)
      · obtain ⟨member, hmember, rfl⟩ := List.mem_map.mp hpart
        have hname := newline_not_mem_quote member.1
        have hvalue := ih member hmember
        unfold compactMember at h
        simp [hname, hvalue] at h
    rw [compactChars]
    simp [hmembers]

end Json

end ReactiveForm
