import Mathlib.Data.List.Forall2
import ReactiveForm.Json5.Decode
import ReactiveForm.Proofs.Except
import ReactiveForm.Proofs.Json5.Tokens

/-!
# `ReactiveForm.Proofs.Json5.Values` — a value that is written as JSON is read as the same value

The tokens of a written value bring the parser from where a value may begin to where it has been read and
is put into the innermost container, whatever containers there are. The value that has been read differs
from the written one in that it knows its places, which decoding does not look at unless it fails.

## Contents
- `Reads`, a value that has been read is a written one with places.
- `Parser.Delivers`, the lexemes of a value take the parser past it, and `Parser.deliverable`.
- `exists_parse_eq_ok` and `exists_parse_eq_error`: a written value is read back unless a string in it has
  a separator; `read_eq_ok` and `exists_read_eq_error`, the same with decoding.
-/

namespace ReactiveForm

namespace Json5

/-! ## Values that have been read -/

mutual

/-- A value that has been read is a written one with places. -/
inductive Reads : Value → Json → Prop
  | null (r : Nat) : Reads (.null r) .null
  | bool (r : Nat) (b : Bool) : Reads (.bool r b) (.bool b)
  | number (r : Nat) (n : Int) : Reads (.number r (toString n).toList) (.number n)
  | string (r : Nat) (s : String) : Reads (.string r (piecesOf s)) (.string s)
  | array (r : Nat) {values : List Value} {items : List Json} (all : List.Forall₂ Reads values items) :
      Reads (.array r values) (.array items)
  | object (r : Nat) {found : List (Key × Value)} {members : List (String × Json)}
      (all : List.Forall₂ ReadsMember found members) : Reads (.object r found) (.object members)

/-- A member that has been read is a written one with places. -/
inductive ReadsMember : Key × Value → String × Json → Prop
  | mk (r : Nat) (name : String) {value : Value} {j : Json} (holds : Reads value j) :
      ReadsMember (⟨r, piecesOf name⟩, value) (name, j)

end

theorem joined_eq_some_iff {ts us : Option (List Token)} {vs : List Token} :
    joined ts us = some vs ↔ ∃ as bs, ts = some as ∧ us = some bs ∧ vs = as ++ bs := by
  cases ts <;> cases us <;> simp [joined, eq_comm]

/-! ## The parser -/

namespace Parser

/-- Some lexemes are those of a value: they take the parser from where a value may begin to where the
value has been put into the innermost container. -/
def Delivers (lexemes : List Lexeme) (v : Value) : Prop :=
  ∀ (containers : List Container) (q : Parser), place v containers = some q →
    feedAll ⟨.value, containers⟩ lexemes = .ok q ∧ feedAll ⟨.itemOrEnd, containers⟩ lexemes = .ok q

theorem feedAll_cons {p q : Parser} {l : Lexeme} (h : p.feed? l = some q) (rest : List Lexeme) :
    p.feedAll (l :: rest) = q.feedAll rest := by
  unfold feedAll
  rw [List.foldlM_cons]
  unfold feed
  rw [h]
  rfl

/-- A value begins in the same way wherever one may begin. -/
theorem delivers_of_begin {l : Lexeme} {rest : List Lexeme} {v : Value} (hclose : l.token ≠ .closeArray)
    (h : ∀ containers q, place v containers = some q →
      ∃ p : Parser, Parser.begin l containers = some p ∧ p.feedAll rest = .ok q) : Delivers (l :: rest) v := by
  intro containers q hplace
  obtain ⟨p, hbegin, hfeed⟩ := h containers q hplace
  constructor
  · rw [feedAll_cons (p := ⟨.value, containers⟩) hbegin, hfeed]
  · have hitem : (⟨.itemOrEnd, containers⟩ : Parser).feed? l = some p := by
      show (if l.token = .closeArray then _ else Parser.begin l containers) = _
      rw [if_neg hclose, hbegin]
    rw [feedAll_cons hitem, hfeed]

/-- A token that is a value by itself delivers it. -/
theorem delivers_scalar {l : Lexeme} {token : Token} {v : Value} (hl : l.token = token)
    (hv : Lexeme.scalar? ⟨token, l.remaining⟩ = some v) : Delivers [l] v := by
  obtain ⟨token', remaining⟩ := l
  obtain rfl : token' = token := hl
  refine delivers_of_begin ?_ fun containers q hplace => ⟨q, ?_, rfl⟩
  · rintro rfl
    cases hv
  · unfold Parser.begin
    split
    · next h =>
      obtain rfl : token' = _ := h
      cases hv
    · next h =>
      obtain rfl : token' = _ := h
      cases hv
    · rw [hv]
      exact hplace

/-- A string is taken for a key where one is expected. -/
theorem feed?_key {l : Lexeme} {pieces : List Piece} (hl : l.token = .string pieces) (r : Nat)
    (before : List (Key × Value)) (outer : List Container) :
    (⟨.keyOrEnd, .object r before :: outer⟩ : Parser).feed? l =
      some ⟨.colon ⟨l.remaining, pieces⟩, .object r before :: outer⟩ := by
  unfold feed? Lexeme.key?
  rw [hl]
  rfl

theorem feed?_colon {l : Lexeme} (hl : l.token = .colon) (key : Key) (r : Nat)
    (before : List (Key × Value)) (outer : List Container) :
    (⟨.colon key, .object r before :: outer⟩ : Parser).feed? l =
      some ⟨.value, .member r before key :: outer⟩ :=
  if_pos hl

/-- A value can be read wherever one may begin. -/
def Deliverable (j : Json) : Prop :=
  ∀ lexemes : List Lexeme, j.tokens? = some (lexemes.map Lexeme.token) →
    ∃ v, Reads v j ∧ Delivers lexemes v

/-- Lexemes whose tokens are those of two texts are the lexemes of the one and then of the other. -/
theorem exists_append_of_joined {ts us : Option (List Token)} {lexemes : List Lexeme}
    (h : joined ts us = some (lexemes.map Lexeme.token)) :
    ∃ first second, lexemes = first ++ second ∧ ts = some (first.map Lexeme.token) ∧
      us = some (second.map Lexeme.token) := by
  obtain ⟨as, bs, hts, hus, happ⟩ := joined_eq_some_iff.mp h
  obtain ⟨first, second, rfl, rfl, rfl⟩ := List.map_eq_append_iff.mp happ
  exact ⟨first, second, rfl, hts, hus⟩

theorem exists_cons_of_joined {token : Token} {us : Option (List Token)} {lexemes : List Lexeme}
    (h : joined (some [token]) us = some (lexemes.map Lexeme.token)) :
    ∃ l rest, lexemes = l :: rest ∧ l.token = token ∧ us = some (rest.map Lexeme.token) := by
  obtain ⟨first, rest, rfl, hfirst, hus⟩ := exists_append_of_joined h
  obtain ⟨l, rfl, hl⟩ := List.map_eq_singleton_iff.mp (Option.some.inj hfirst).symm
  exact ⟨l, rest, rfl, hl, hus⟩

theorem exists_singleton_of_map {token : Token} {lexemes : List Lexeme}
    (h : some [token] = some (lexemes.map Lexeme.token)) : ∃ l, lexemes = [l] ∧ l.token = token := by
  obtain ⟨l, rfl, hl⟩ := List.map_eq_singleton_iff.mp (Option.some.inj h).symm
  exact ⟨l, rfl, hl⟩

theorem exists_string_of_map {s : String} {lexemes : List Lexeme}
    (h : stringTokens? s = some (lexemes.map Lexeme.token)) :
    ∃ l, lexemes = [l] ∧ l.token = .string (piecesOf s) := by
  unfold stringTokens? at h
  split at h
  · cases h
  · exact exists_singleton_of_map h

theorem feedAll_append_ok {p q : Parser} {first : List Lexeme} (h : p.feedAll first = .ok q)
    (second : List Lexeme) : p.feedAll (first ++ second) = q.feedAll second := by
  rw [feedAll_append, h]
  rfl

/-- The items of an array are put into it one after the other. -/
theorem deliver_items {items : List Json} (hone : ∀ item ∈ items, Deliverable item) (hne : items ≠ [])
    {lexemes : List Lexeme} (h : Json.itemTokens? items = some (lexemes.map Lexeme.token)) :
    ∃ values, List.Forall₂ Reads values items ∧ ∀ (r : Nat) (before : List Value) (outer : List Container),
      feedAll ⟨.itemOrEnd, .array r before :: outer⟩ lexemes =
        .ok ⟨.commaOrEnd, .array r (before ++ values) :: outer⟩ := by
  induction items generalizing lexemes with
  | nil => exact absurd rfl hne
  | cons item items ih =>
    have hitem := hone item List.mem_cons_self
    cases items with
    | nil =>
      rw [Json.itemTokens?] at h
      obtain ⟨v, hreads, hdelivers⟩ := hitem _ h
      exact ⟨[v], .cons hreads .nil, fun r before outer => (hdelivers _ _ rfl).2⟩
    | cons next items =>
      rw [Json.itemTokens?] at h
      · obtain ⟨first, rest, rfl, hfirst, hrest⟩ := exists_append_of_joined h
        obtain ⟨comma, rest, rfl, hcomma, hrest⟩ := exists_cons_of_joined hrest
        obtain ⟨v, hreads, hdelivers⟩ := hitem _ hfirst
        obtain ⟨values, hall, hfeed⟩ :=
          ih (fun x hx => hone x (List.mem_cons_of_mem _ hx)) (List.cons_ne_nil _ _) hrest
        refine ⟨v :: values, .cons hreads hall, fun r before outer => ?_⟩
        have hnext : (⟨.commaOrEnd, .array r (before ++ [v]) :: outer⟩ : Parser).feed? comma =
            some ⟨.itemOrEnd, .array r (before ++ [v]) :: outer⟩ := if_pos hcomma
        rw [feedAll_append_ok (hdelivers _ _ rfl).2, feedAll_cons hnext, hfeed, List.append_assoc,
          List.singleton_append]
      · exact List.cons_ne_nil _ _

/-- A member is put into the object that it stands in. -/
theorem feedAll_member {key colon : Lexeme} {lexemes : List Lexeme} {pieces : List Piece} {v : Value}
    (hkey : key.token = .string pieces) (hcolon : colon.token = .colon) (hvalue : Delivers lexemes v)
    (r : Nat) (before : List (Key × Value)) (outer : List Container) :
    feedAll ⟨.keyOrEnd, .object r before :: outer⟩ (key :: colon :: lexemes) =
      .ok ⟨.commaOrEnd, .object r (before ++ [(⟨key.remaining, pieces⟩, v)]) :: outer⟩ := by
  rw [feedAll_cons (feed?_key hkey r before outer), feedAll_cons (feed?_colon hcolon _ r before outer)]
  exact (hvalue _ _ rfl).1

/-- The members of an object are put into it one after the other. -/
theorem deliver_members {members : List (String × Json)}
    (hone : ∀ member ∈ members, Deliverable member.2) (hne : members ≠ []) {lexemes : List Lexeme}
    (h : Json.memberTokens? members = some (lexemes.map Lexeme.token)) :
    ∃ found, List.Forall₂ ReadsMember found members ∧
      ∀ (r : Nat) (before : List (Key × Value)) (outer : List Container),
        feedAll ⟨.keyOrEnd, .object r before :: outer⟩ lexemes =
          .ok ⟨.commaOrEnd, .object r (before ++ found) :: outer⟩ := by
  induction members generalizing lexemes with
  | nil => exact absurd rfl hne
  | cons member members ih =>
    obtain ⟨name, value⟩ := member
    have hvalue := hone (name, value) List.mem_cons_self
    cases members with
    | nil =>
      rw [Json.memberTokens?] at h
      obtain ⟨first, rest, rfl, hfirst, hrest⟩ := exists_append_of_joined h
      obtain ⟨key, rfl, hkey⟩ := exists_string_of_map hfirst
      obtain ⟨colon, rest, rfl, hcolon, hrest⟩ := exists_cons_of_joined hrest
      obtain ⟨v, hreads, hdelivers⟩ := hvalue _ hrest
      exact ⟨[(⟨key.remaining, piecesOf name⟩, v)], .cons (.mk _ _ hreads) .nil,
        feedAll_member hkey hcolon hdelivers⟩
    | cons next members =>
      rw [Json.memberTokens?] at h
      · obtain ⟨first, rest, rfl, hfirst, hrest⟩ := exists_append_of_joined h
        obtain ⟨key, rfl, hkey⟩ := exists_string_of_map hfirst
        obtain ⟨colon, rest, rfl, hcolon, hrest⟩ := exists_cons_of_joined hrest
        obtain ⟨middle, rest, rfl, hmiddle, hrest⟩ := exists_append_of_joined hrest
        obtain ⟨comma, rest, rfl, hcomma, hrest⟩ := exists_cons_of_joined hrest
        obtain ⟨v, hreads, hdelivers⟩ := hvalue _ hmiddle
        obtain ⟨found, hall, hfeed⟩ :=
          ih (fun x hx => hone x (List.mem_cons_of_mem _ hx)) (List.cons_ne_nil _ _) hrest
        refine ⟨(⟨key.remaining, piecesOf name⟩, v) :: found, .cons (.mk _ _ hreads) hall,
          fun r before outer => ?_⟩
        have hnext : ∀ before' : List (Key × Value),
            (⟨.commaOrEnd, .object r before' :: outer⟩ : Parser).feed? comma =
              some ⟨.keyOrEnd, .object r before' :: outer⟩ := fun _ => if_pos hcomma
        show feedAll _ ((key :: colon :: middle) ++ comma :: rest) = _
        rw [feedAll_append_ok (feedAll_member hkey hcolon hdelivers r before outer),
          feedAll_cons (hnext _), hfeed, List.append_assoc, List.singleton_append]
      · exact List.cons_ne_nil _ _

/-- The items of an array and its end complete it. -/
theorem complete_array {items : List Json} (hone : ∀ item ∈ items, Deliverable item)
    {lexemes : List Lexeme} (h : Json.itemTokens? items = some (lexemes.map Lexeme.token)) {stop : Lexeme}
    (hstop : stop.token = .closeArray) :
    ∃ values, List.Forall₂ Reads values items ∧ ∀ (r : Nat) (outer : List Container) (q : Parser),
      place (.array r values) outer = some q →
        feedAll ⟨.itemOrEnd, .array r [] :: outer⟩ (lexemes ++ [stop]) = .ok q := by
  cases items with
  | nil =>
    obtain rfl := List.map_eq_nil_iff.mp (Option.some.inj h).symm
    refine ⟨[], .nil, fun r outer q hplace => feedAll_cons ?_ []⟩
    show (if stop.token = .closeArray then Parser.close stop.token _ else _) = _
    rw [if_pos hstop]
    exact (if_pos hstop).trans hplace
  | cons item items =>
    -- after the last item there is no comma, so that the bracket is asked for next
    obtain ⟨values, hall, hfeed⟩ := deliver_items hone (List.cons_ne_nil _ _) h
    refine ⟨values, hall, fun r outer q hplace => ?_⟩
    rw [feedAll_append_ok (hfeed r [] outer)]
    refine feedAll_cons ?_ []
    show (if stop.token = .comma then _ else Parser.close stop.token _) = _
    rw [if_neg (by rw [hstop]; nofun)]
    exact (if_pos hstop).trans hplace

/-- The members of an object and its end complete it. -/
theorem complete_object {members : List (String × Json)}
    (hone : ∀ member ∈ members, Deliverable member.2) {lexemes : List Lexeme}
    (h : Json.memberTokens? members = some (lexemes.map Lexeme.token)) {stop : Lexeme}
    (hstop : stop.token = .closeObject) :
    ∃ found, List.Forall₂ ReadsMember found members ∧ ∀ (r : Nat) (outer : List Container) (q : Parser),
      place (.object r found) outer = some q →
        feedAll ⟨.keyOrEnd, .object r [] :: outer⟩ (lexemes ++ [stop]) = .ok q := by
  cases members with
  | nil =>
    obtain rfl := List.map_eq_nil_iff.mp (Option.some.inj h).symm
    refine ⟨[], .nil, fun r outer q hplace => feedAll_cons ?_ []⟩
    show (if stop.token = .closeObject then Parser.close stop.token _ else _) = _
    rw [if_pos hstop]
    exact (if_pos hstop).trans hplace
  | cons member members =>
    obtain ⟨found, hall, hfeed⟩ := deliver_members hone (List.cons_ne_nil _ _) h
    refine ⟨found, hall, fun r outer q hplace => ?_⟩
    rw [feedAll_append_ok (hfeed r [] outer)]
    refine feedAll_cons ?_ []
    show (if stop.token = .comma then _ else Parser.close stop.token _) = _
    rw [if_neg (by rw [hstop]; nofun)]
    exact (if_pos hstop).trans hplace

/-- **The lexemes of a written value deliver a value that reads it.** -/
theorem deliverable (j : Json) : Deliverable j := by
  induction j using Json.induct with
  | null =>
    intro lexemes h
    obtain ⟨l, rfl, hl⟩ := exists_singleton_of_map h
    exact ⟨_, .null l.remaining, delivers_scalar hl rfl⟩
  | bool b =>
    intro lexemes h
    cases b with
    | false =>
      obtain ⟨l, rfl, hl⟩ := exists_singleton_of_map h
      exact ⟨_, .bool l.remaining false, delivers_scalar hl rfl⟩
    | true =>
      obtain ⟨l, rfl, hl⟩ := exists_singleton_of_map h
      exact ⟨_, .bool l.remaining true, delivers_scalar hl rfl⟩
  | number n =>
    intro lexemes h
    obtain ⟨l, rfl, hl⟩ := exists_singleton_of_map h
    exact ⟨_, .number l.remaining n, delivers_scalar hl rfl⟩
  | string s =>
    intro lexemes h
    obtain ⟨l, rfl, hl⟩ := exists_string_of_map h
    exact ⟨_, .string l.remaining s, delivers_scalar hl rfl⟩
  | array items ih =>
    intro lexemes h
    obtain ⟨start, rest, rfl, hstart, hrest⟩ := exists_cons_of_joined h
    obtain ⟨middle, rest, rfl, hmiddle, hrest⟩ := exists_append_of_joined hrest
    obtain ⟨stop, rfl, hstop⟩ := exists_singleton_of_map hrest
    obtain ⟨values, hall, hfeed⟩ := complete_array ih hmiddle hstop
    refine ⟨_, .array start.remaining hall, delivers_of_begin (by rw [hstart]; nofun)
      fun containers q hplace => ⟨_, ?_, hfeed start.remaining containers q hplace⟩⟩
    unfold Parser.begin
    rw [hstart]
  | object members ih =>
    intro lexemes h
    obtain ⟨start, rest, rfl, hstart, hrest⟩ := exists_cons_of_joined h
    obtain ⟨middle, rest, rfl, hmiddle, hrest⟩ := exists_append_of_joined hrest
    obtain ⟨stop, rfl, hstop⟩ := exists_singleton_of_map hrest
    obtain ⟨found, hall, hfeed⟩ := complete_object ih hmiddle hstop
    refine ⟨_, .object start.remaining hall, delivers_of_begin (by rw [hstart]; nofun)
      fun containers q hplace => ⟨_, ?_, hfeed start.remaining containers q hplace⟩⟩
    unfold Parser.begin
    rw [hstart]

end Parser

/-! ## Reading -/

variable {cs : List Char} {j : Json}

/-- Lexemes can be told from the tokens of a text. -/
theorem tokens?_eq_some_iff {ts : List Token} :
    tokens? cs = some ts ↔ ∃ lexemes, tokenize cs = .ok lexemes ∧ lexemes.map Lexeme.token = ts := by
  unfold tokens?
  cases tokenize cs <;> simp [Except.toOption]

/-- **A text with the tokens of a written value is read as that value** if no string of it has a
separator. -/
theorem exists_parse_eq_ok (h : tokens? cs = j.tokens?) (hclean : ∀ s ∈ j.texts, hasSeparator s = false) :
    ∃ v, parse cs = .ok v ∧ Reads v j := by
  have hsome : j.tokens?.isSome = true := by
    rw [Json.isSome_tokens?, List.all_eq_true]
    intro s hs
    rw [hclean s hs]
    rfl
  obtain ⟨ts, hts⟩ := Option.isSome_iff_exists.mp hsome
  obtain ⟨lexemes, hlexemes, rfl⟩ := tokens?_eq_some_iff.mp (h.trans hts)
  obtain ⟨v, hreads, hdelivers⟩ := Parser.deliverable j lexemes hts
  refine ⟨v, ?_, hreads⟩
  unfold parse
  exact bind_eq_ok_iff.mpr ⟨lexemes, hlexemes, bind_eq_ok_iff.mpr ⟨_, (hdelivers [] _ rfl).1, rfl⟩⟩

/-- **A string with a separator cannot be read**, and so cannot the text that it stands in. -/
theorem exists_parse_eq_error (h : tokens? cs = j.tokens?) {s : String} (hs : s ∈ j.texts)
    (hseparator : hasSeparator s = true) : ∃ e, parse cs = .error e := by
  -- the text has no tokens, so that the parser is never asked
  have hnone : tokens? cs = none := by
    rw [h, ← Option.not_isSome_iff_eq_none, Json.isSome_tokens?, List.all_eq_true]
    intro hall
    have hfree := hall s hs
    rw [hseparator] at hfree
    cases hfree
  unfold parse
  unfold tokens? at hnone
  cases hlexemes : tokenize cs with
  | error e => exact ⟨e, rfl⟩
  | ok lexemes =>
    rw [hlexemes] at hnone
    cases hnone

variable {α : Type} {decode : Value → Decoded α} {a : α} {text : String}

/-- What decoding makes of a value with places, reading makes of its text. -/
theorem read_eq_ok (hdecode : ∀ v, Reads v j → decode v = .ok a) (h : tokens? text.toList = j.tokens?)
    (hclean : ∀ s ∈ j.texts, hasSeparator s = false) : read decode text = .ok a := by
  obtain ⟨v, hparse, hreads⟩ := exists_parse_eq_ok h hclean
  unfold read
  simp only [hparse, hdecode v hreads]
  rfl

theorem exists_read_eq_error (h : tokens? text.toList = j.tokens?) {s : String} (hs : s ∈ j.texts)
    (hseparator : hasSeparator s = true) : ∃ place, read decode text = .error (.syntaxError place) := by
  obtain ⟨e, hparse⟩ := exists_parse_eq_error h hs hseparator
  refine ⟨.ofRemaining text.toList e.remaining, ?_⟩
  unfold read
  simp only [hparse]

end Json5

end ReactiveForm
