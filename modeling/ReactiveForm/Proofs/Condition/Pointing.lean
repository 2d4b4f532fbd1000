import ReactiveForm.Proofs.Condition.Places
import ReactiveForm.Proofs.Condition.Precedence

/-!
# `ReactiveForm.Proofs.Condition.Pointing` — errors point into the text

A text that is no condition is refused for one of three reasons, and each has a place of its own:
* **no tokens** — an operator or a quote cannot be read, and the error is where it stands;
* **a token too many** — the tokens before it are the beginning of a condition, and the error is where the token
  stands;
* **a token too few** — all tokens are the beginning of a condition that goes on. If a name, an operator or a
  value has to come next, there is nothing to point at but the end of the text; if a parenthesis has to be
  closed, the error is where it was opened.

The parser never reads on when nothing can follow any more: every state it can be in is on the way to some
condition. That is what makes the end of the text the right place.

## Contents
- `ParseFault.token?` and `Parser.Refuses`, the token that an error is about.
- `Parser.exists_finishing`, `GoesOn` and `goesOn_iff`: **what has been read can be completed**.
- `Unclosed`, the places of the groups that are open, with its step and run.
- `Refused`, `RunsOut`, `Blames` and `Located`; `parse_error_points`: **errors point into the text**.
-/

namespace ReactiveForm

namespace Condition

open Text

/-! ## Tokens that are refused -/

/-- The token that a fault is about: the one that was found, or the parenthesis that has no other. -/
def ParseFault.token? : ParseFault → Option Token
  | expectedInput found => found
  | expectedRelation _ found => found
  | expectedValue _ found => found
  | unclosedGroup => some .opening
  | expectedClosing found => some found
  | unopenedGroup => some .closing
  | unexpected found => some found
  | _ => none

namespace Parser

variable {p : Precedence} {q : Parser} {ls : List Lexeme} {e : ParseError}

/-- An error about a token that was found: it is where the token stands. -/
structure Refuses (l : Lexeme) (e : ParseError) : Prop where
  position_eq : l.position = e.position
  token?_eq : e.fault.token? = some l.token
  fault_ne : e.fault ≠ .unclosedGroup

theorem refuses_of_feed {l : Lexeme} (h : q.feed l = .error e) : Refuses l e := by
  obtain ⟨token, position⟩ := l
  obtain ⟨precedence, expecting, links, groups⟩ := q
  cases expecting with
  | term negated => cases negated <;> cases token <;> cases h <;> exact ⟨rfl, rfl, nofun⟩
  | relation negated name => cases token <;> cases h <;> exact ⟨rfl, rfl, nofun⟩
  | value negated name r => cases token <;> cases h <;> exact ⟨rfl, rfl, nofun⟩
  | connective term => cases token <;> cases groups <;> cases h <;> exact ⟨rfl, rfl, nofun⟩

/-- The run over some tokens fails at one of them. -/
theorem exists_refuses_of_feedAll (h : q.feedAll ls = .error e) : ∃ l ∈ ls, Refuses l e := by
  induction ls generalizing q with
  | nil => cases h
  | cons l ls ih =>
    rw [feedAll_cons] at h
    rcases bind_eq_error_iff.mp h with hfeed | ⟨next, -, hrun⟩
    · exact ⟨l, List.mem_cons_self, refuses_of_feed hfeed⟩
    · obtain ⟨m, hm, hrefuses⟩ := ih hrun
      exact ⟨m, List.mem_cons_of_mem l hm, hrefuses⟩

/-! ## What has been read can be completed -/

/-- Some tokens complete what a parser has read. -/
def Finishes (q : Parser) (ls : List Lexeme) : Prop := ∃ q' c, q.feedAll ls = .ok q' ∧ q'.finish 0 = .ok c

theorem Finishes.cons {q' : Parser} {l : Lexeme} (hstep : Step l.position q l.token q') (h : q'.Finishes ls) :
    q.Finishes (l :: ls) := by
  obtain ⟨last, c, hrun, hc⟩ := h
  exact ⟨last, c, (feedAll_cons_of_step rfl hstep ls).trans hrun, hc⟩

/-- Behind a term it is enough to close the groups that are open, one after the other. -/
theorem exists_finishing_connective (p : Precedence) (term : Condition) (links : List Link)
    (groups : List OpenGroup) : ∃ ls, Finishes ⟨p, .connective term, links, groups⟩ ls := by
  induction groups generalizing term links with
  | nil => exact ⟨[], _, _, rfl, rfl⟩
  | cons outer groups ih =>
    obtain ⟨ls, h⟩ := ih (negateIf outer.negated (.group (p.assemble links term))) outer.links
    exact ⟨⟨.closing, 0⟩ :: ls, h.cons .closing⟩

/-- **No state of the parser is a dead end.** -/
theorem exists_finishing (q : Parser) : ∃ ls, q.Finishes ls := by
  obtain ⟨p, expecting, links, groups⟩ := q
  have hvalue : ∀ negated name r, ∃ ls, Finishes ⟨p, .value negated name r, links, groups⟩ ls := by
    intro negated name r
    obtain ⟨ls, h⟩ := exists_finishing_connective p _ links groups
    exact ⟨⟨.word "1", 0⟩ :: ls, h.cons (.value rfl)⟩
  have hrelation : ∀ negated name, ∃ ls, Finishes ⟨p, .relation negated name, links, groups⟩ ls := by
    intro negated name
    obtain ⟨ls, h⟩ := hvalue negated name .equal
    exact ⟨⟨.relation .equal, 0⟩ :: ls, h.cons .relation⟩
  cases expecting with
  | term negated =>
    obtain ⟨ls, h⟩ := hrelation negated "a"
    exact ⟨⟨.word "a", 0⟩ :: ls, h.cons .input⟩
  | relation negated name => exact hrelation negated name
  | value negated name r => exact hvalue negated name r
  | connective term => exact exists_finishing_connective p term links groups

end Parser

/-- **Some tokens are the beginning of a condition that goes on with a token.** -/
def GoesOn (p : Precedence) (tokens : List Token) (t : Token) : Prop :=
  ∃ c more, NormalForm p .chain c ∧ Spells c (tokens ++ t :: more)

/-- The parser reads exactly what can be completed: a token is read after others if and only if they are the
beginning of a condition that goes on with it. -/
theorem goesOn_iff {p : Precedence} {ls : List Lexeme} {t : Token} :
    GoesOn p (ls.map Lexeme.token) t ↔
      ∃ q q', Parser.feedAll { precedence := p } ls = .ok q ∧ Parser.Step 0 q t q' := by
  constructor
  · rintro ⟨c, more, hn, hs⟩
    have hmap : (ls ++ ⟨t, 0⟩ :: more.map fun u => Lexeme.mk u 0).map Lexeme.token =
        ls.map Lexeme.token ++ t :: more := by
      simp [Function.comp_def]
    obtain ⟨links, last, hrun, -⟩ := Parser.runsTo_of_spells hn _ (hmap.symm ▸ hs) []
    rw [Parser.feedAll_append] at hrun
    obtain ⟨q, hq, hrun⟩ := bind_eq_ok_iff.mp hrun
    rw [Parser.feedAll_cons] at hrun
    obtain ⟨q', hq', -⟩ := bind_eq_ok_iff.mp hrun
    exact ⟨q, q', hq, Parser.feed_eq_ok_iff.mp hq'⟩
  · rintro ⟨q, q', hq, hstep⟩
    obtain ⟨ms, last, c, hrun, hc⟩ := q'.exists_finishing
    have hall : Parser.feedAll { precedence := p } (ls ++ ⟨t, 0⟩ :: ms) = .ok last := by
      rw [Parser.feedAll_append_of_run hq, Parser.feedAll_cons_of_step rfl hstep, hrun]
    have hread : Parser.HasRead p { precedence := p } [] := .mk .nil .nil (.term false)
    obtain ⟨hn, hs⟩ := (hread.run hall).finish hc
    exact ⟨c, ms.map Lexeme.token, hn, by simpa using hs⟩

/-! ## Groups that are open -/

/-- **The places of the groups that are open,** innermost first: between one opening parenthesis and the next,
and behind the last, every parenthesis is closed. -/
inductive Unclosed : List Nat → List Lexeme → Prop
  | nil {ls : List Lexeme} (h : Balanced (ls.map Lexeme.token)) : Unclosed [] ls
  | cons {position : Nat} {positions : List Nat} {before after : List Lexeme} (h : Unclosed positions before)
      (hafter : Balanced (after.map Lexeme.token)) :
      Unclosed (position :: positions) (before ++ ⟨.opening, position⟩ :: after)

theorem Balanced.append {ts us : List Token} (h : Balanced ts) (h' : Balanced us) : Balanced (ts ++ us) := by
  unfold Balanced at h h' ⊢
  rw [nesting_append, h]
  exact h'

/-- Parentheses around what is closed. -/
theorem Balanced.parenthesized {ts : List Token} (h : Balanced ts) : Balanced (.opening :: (ts ++ [.closing])) := by
  have hinside : nesting 1 ts = some 1 := nesting_add h 1
  show nesting 1 (ts ++ [.closing]) = some 0
  rw [nesting_append, hinside]
  rfl

namespace Unclosed

variable {positions : List Nat} {ls ms : List Lexeme} {l : Lexeme}

theorem append (h : Unclosed positions ls) (hms : Balanced (ms.map Lexeme.token)) :
    Unclosed positions (ls ++ ms) := by
  cases h with
  | nil h => exact .nil (by rw [List.map_append]; exact h.append hms)
  | cons h hafter =>
    rw [List.append_assoc, List.cons_append]
    exact .cons h (by rw [List.map_append]; exact hafter.append hms)

/-- **Step.** A token that is read opens a group at its place, closes the innermost one, or does neither. -/
theorem step {q q' : Parser} (h : Unclosed (q.groups.map OpenGroup.position) ls)
    (hstep : Parser.Step l.position q l.token q') :
    Unclosed (q'.groups.map OpenGroup.position) (ls ++ [l]) := by
  obtain ⟨token, position⟩ := l
  cases hstep with
  | negation => exact h.append rfl
  | opening => exact .cons h rfl
  | input => exact h.append rfl
  | relation => exact h.append rfl
  | value hliteral => cases token <;> first | exact h.append rfl | cases hliteral
  | connective => exact h.append rfl
  | closing =>
    -- the group that is closed is closed as a whole
    cases h with
    | cons h hafter =>
      rw [List.append_assoc, List.cons_append]
      refine h.append ?_
      rw [List.map_cons, List.map_append]
      exact hafter.parenthesized

/-- **Run.** So it is after any tokens that are read. -/
theorem run {q q' : Parser} (h : Unclosed (q.groups.map OpenGroup.position) ls) (hrun : q.feedAll ms = .ok q') :
    Unclosed (q'.groups.map OpenGroup.position) (ls ++ ms) := by
  induction ms generalizing q ls with
  | nil =>
    rw [Parser.feedAll_nil] at hrun
    rw [← Except.ok.inj hrun, List.append_nil]
    exact h
  | cons m ms ih =>
    rw [Parser.feedAll_cons] at hrun
    obtain ⟨next, hfeed, hrun⟩ := bind_eq_ok_iff.mp hrun
    have hnext := ih (h.step (Parser.feed_eq_ok_iff.mp hfeed)) hrun
    rwa [List.append_assoc] at hnext

end Unclosed

/-! ## Errors -/

/-- A name, an operator or a value. -/
def Token.isComparing : Token → Bool
  | word _ => true
  | quoted _ => true
  | relation _ => true
  | _ => false

/-- **The tokens of a text run out before a token**: the text has tokens, and they are the beginning of a
condition that goes on with that token. -/
def RunsOut (p : Precedence) (cs : List Char) (t : Token) : Prop :=
  ∃ lexemes, tokenize cs = .ok lexemes ∧ GoesOn p (lexemes.map Lexeme.token) t

variable {p : Precedence} {text : String} {e : ParseError}

/-- A parser that may not finish waits for a part of a comparison at the end of the text, or for a group to be
closed that was opened last. -/
theorem Parser.finish_eq_error {q : Parser} {end_ : Nat} (h : q.finish end_ = .error e) :
    (e.position = end_ ∧ e.fault ≠ .unclosedGroup ∧ ∃ t q', t.isComparing = true ∧ Parser.Step 0 q t q') ∨
      ∃ outer groups q', q.groups = outer :: groups ∧ e = ⟨.unclosedGroup, outer.position⟩ ∧
        Parser.Step 0 q .closing q' := by
  obtain ⟨p, expecting, links, groups⟩ := q
  cases expecting with
  | term negated =>
    rw [← Except.error.inj h]
    exact .inl ⟨rfl, nofun, .word "a", _, rfl, .input⟩
  | relation negated name =>
    rw [← Except.error.inj h]
    exact .inl ⟨rfl, nofun, .relation .equal, _, rfl, .relation⟩
  | value negated name r =>
    rw [← Except.error.inj h]
    exact .inl ⟨rfl, nofun, .word "1", _, rfl, .value rfl⟩
  | connective term =>
    cases groups with
    | nil => cases h
    | cons outer groups =>
      rw [← Except.error.inj h]
      exact .inr ⟨outer, groups, _, rfl, rfl, .closing⟩

/-- **How a text is refused**: for want of tokens, for an operator or a quote, at a token, or at the end. -/
inductive Refused (p : Precedence) (cs : List Char) (e : ParseError) : Prop
  | blank (h : ∀ c ∈ cs, isBlank c = true) (he : e = ⟨.empty, 0⟩)
  | unreadable (h : tokenize cs = .error e)
  | token {lexemes : List Lexeme} (htokens : tokenize cs = .ok lexemes)
      (h : Parser.feedAll { precedence := p } lexemes = .error e)
  | unfinished {lexemes : List Lexeme} {q : Parser} (htokens : tokenize cs = .ok lexemes)
      (hrun : Parser.feedAll { precedence := p } lexemes = .ok q) (h : q.finish (width cs) = .error e)

theorem refused_of_parse (h : parse p text = .error e) : Refused p text.toList e := by
  rcases bind_eq_error_iff.mp h with htokens | ⟨lexemes, htokens, h⟩
  · exact .unreadable htokens
  cases lexemes with
  | nil => exact .blank (lexes_nil_iff.mp (lexes_of_lexFrom htokens)) (Except.error.inj h).symm
  | cons l ls =>
    rcases bind_eq_error_iff.mp h with hrun | ⟨q, hrun, hfinish⟩
    · exact .token htokens hrun
    · exact .unfinished htokens hrun hfinish

/-- **What an error blames** for a text that is refused: the operator or the quote that begins here, if the text
has no tokens, or else the token that begins here. -/
def Blames (cs : List Char) (e : ParseError) (here : List Char) : Prop :=
  tokenize cs = .error e ∧ e.fault.Offends here ∨
    ∃ lexemes l, tokenize cs = .ok lexemes ∧ l ∈ lexemes ∧ l.position = e.position ∧
      e.fault.token? = some l.token ∧ l.token.Begins here

variable {cs : List Char} {lexemes : List Lexeme}

theorem stands_blames_of_mem {l : Lexeme} (htokens : tokenize cs = .ok lexemes) (hl : l ∈ lexemes)
    (hposition : l.position = e.position) (htoken : e.fault.token? = some l.token) :
    Stands (Blames cs e) cs e.position := by
  obtain ⟨before, c, after, hcs, hw, hc, hbegins⟩ := stands_of_tokenize htokens l hl
  refine ⟨before, c, after, hcs, hw.trans hposition, hc, .inr ?_⟩
  exact ⟨lexemes, l, htokens, hl, hposition, htoken, hbegins⟩

/-- The group that was opened last and is still open. -/
theorem Unclosed.innermost {position : Nat} {positions : List Nat} (h : Unclosed (position :: positions) lexemes) :
    ∃ before after, lexemes = before ++ ⟨.opening, position⟩ :: after ∧ Balanced (after.map Lexeme.token) := by
  cases h with
  | cons _ hafter => exact ⟨_, _, rfl, hafter⟩

/-- **Where the error is** when a text is refused: at what it blames, or at the end; at the beginning, if the
text is blank. -/
inductive Located (p : Precedence) (cs : List Char) (e : ParseError) : Prop
  | blank (h : ∀ c ∈ cs, isBlank c = true) (he : e = ⟨.empty, 0⟩)
  | within (h : Stands (Blames cs e) cs e.position) (hfault : e.fault ≠ .unclosedGroup)
  | unclosed {before after : List Lexeme} (h : Stands (Blames cs e) cs e.position)
      (hfault : e.fault = .unclosedGroup) (hruns : RunsOut p cs .closing)
      (htokens : tokenize cs = .ok (before ++ ⟨.opening, e.position⟩ :: after))
      (hafter : Balanced (after.map Lexeme.token))
  | atEnd {t : Token} (h : e.position = width cs) (hfault : e.fault ≠ .unclosedGroup) (ht : t.isComparing = true)
      (hruns : RunsOut p cs t)

theorem Refused.located (h : Refused p cs e) : Located p cs e := by
  cases h with
  | blank h he => exact .blank h he
  | unreadable h =>
    obtain ⟨before, c, after, heq, hw, hc, hoffends⟩ := stands_of_tokenize_error h
    refine .within ⟨before, c, after, heq, hw, hc, .inl ⟨h, hoffends⟩⟩ fun hfault => ?_
    rw [hfault] at hoffends
    cases hoffends
  | token htokens h =>
    obtain ⟨l, hl, hrefuses⟩ := Parser.exists_refuses_of_feedAll h
    exact .within (stands_blames_of_mem htokens hl hrefuses.position_eq hrefuses.token?_eq) hrefuses.fault_ne
  | @unfinished lexemes q htokens hrun h =>
    rcases Parser.finish_eq_error h with ⟨hposition, hfault, t, q', ht, hstep⟩ |
      ⟨outer, groups, q', hgroups, rfl, hstep⟩
    · exact .atEnd hposition hfault ht ⟨lexemes, htokens, goesOn_iff.mpr ⟨q, q', hrun, hstep⟩⟩
    · have hopen : Unclosed (q.groups.map OpenGroup.position) ([] ++ lexemes) :=
        Unclosed.run (q := { precedence := p }) (.nil rfl) hrun
      rw [hgroups] at hopen
      obtain ⟨before, after, rfl, hafter⟩ := hopen.innermost
      refine .unclosed ?_ rfl ⟨_, htokens, goesOn_iff.mpr ⟨q, q', hrun, hstep⟩⟩ htokens hafter
      exact stands_blames_of_mem htokens (List.mem_append_right _ List.mem_cons_self) rfl rfl

/-- Where tokens run out, the parser has read all of them and finds the end of the text. -/
theorem Refused.finish_of_runsOut {t : Token} (h : Refused p cs e) (hcs : ¬∀ c ∈ cs, isBlank c = true)
    (hruns : RunsOut p cs t) : ∃ q q', q.finish (width cs) = .error e ∧ Parser.Step 0 q t q' := by
  obtain ⟨lexemes, htokens, hgoes⟩ := hruns
  obtain ⟨q, q', hrun, hstep⟩ := goesOn_iff.mp hgoes
  refine ⟨q, q', ?_, hstep⟩
  cases h with
  | blank h => exact absurd h hcs
  | unreadable h => cases htokens.symm.trans h
  | token htokens' h =>
    obtain rfl := Except.ok.inj (htokens'.symm.trans htokens)
    cases hrun.symm.trans h
  | unfinished htokens' hrun' h =>
    obtain rfl := Except.ok.inj (htokens'.symm.trans htokens)
    rwa [Except.ok.inj (hrun.symm.trans hrun')]

/-- Where a part of a comparison is still expected, the error is at the end. -/
theorem Refused.position_eq_of_runsOut {t : Token} (h : Refused p cs e) (hcs : ¬∀ c ∈ cs, isBlank c = true)
    (ht : t.isComparing = true) (hruns : RunsOut p cs t) : e.position = width cs := by
  obtain ⟨q, q', hfinish, hstep⟩ := h.finish_of_runsOut hcs hruns
  cases hstep with
  | negation => cases ht
  | opening => cases ht
  | input => rw [← Except.error.inj hfinish]
  | relation => rw [← Except.error.inj hfinish]
  | value => rw [← Except.error.inj hfinish]
  | connective => cases ht
  | closing => cases ht

/-- Where a group may be closed, it is what the error is about. -/
theorem Refused.fault_eq_of_runsOut (h : Refused p cs e) (hcs : ¬∀ c ∈ cs, isBlank c = true)
    (hruns : RunsOut p cs .closing) : e.fault = .unclosedGroup := by
  obtain ⟨q, q', hfinish, hstep⟩ := h.finish_of_runsOut hcs hruns
  cases hstep with
  | value hliteral => cases hliteral
  | closing => rw [← Except.error.inj hfinish]

/-- An error lies between two characters of the text, or at one of its ends. -/
theorem Located.exists_split (h : Located p cs e) :
    ∃ before after, cs = before ++ after ∧ width before = e.position := by
  cases h with
  | blank _ he =>
    rw [he]
    exact ⟨[], cs, rfl, rfl⟩
  | within h => exact h.exists_split
  | unclosed h => exact h.exists_split
  | atEnd h => exact ⟨cs, [], (List.append_nil cs).symm, h.symm⟩

theorem Located.position_le (h : Located p cs e) : e.position ≤ width cs := by
  obtain ⟨before, after, rfl, hw⟩ := h.exists_split
  rw [width_append, hw]
  exact Nat.le_add_right _ _

/-- What stands where an error is has a character that is no white space at its beginning, and is blamed. -/
theorem Located.blames {before after : List Char} {c : Char} (h : Located p cs e)
    (hcs : ¬∀ c ∈ cs, isBlank c = true) (hsplit : cs = before ++ c :: after) (hw : width before = e.position) :
    isBlank c = false ∧ Blames cs e (c :: after) := by
  cases h with
  | blank hall => exact absurd hall hcs
  | within hstands => exact hstands.of_split hsplit hw
  | unclosed hstands => exact hstands.of_split hsplit hw
  | atEnd hend =>
    -- nothing stands at the end
    have hpos := c.utf8Size_pos
    rw [hend, hsplit, width_append, width_cons] at hw
    omega

/-- **Errors point into the text.** When a text is refused, the position of the error is within the text and
between two characters. If the text is not blank, then
* what stands at the position is no white space: a token begins there that the error is about, or the operator
  or the quote that cannot be read;
* the position is the end of the text exactly if the tokens have run out where a name, an operator or a value
  must follow;
* if they have run out where a group may be closed, and only then, the error is the group, and it is where the
  innermost group that is open was opened. -/
theorem parse_error_points (h : parse p text = .error e) :
    (∃ before after, text.toList = before ++ after ∧ width before = e.position) ∧
    e.position ≤ text.utf8ByteSize ∧
    (isBlankText text = false →
      (∀ before c after, text.toList = before ++ c :: after → width before = e.position →
        isBlank c = false ∧ Blames text.toList e (c :: after)) ∧
      (e.position = text.utf8ByteSize ↔ ∃ t, t.isComparing = true ∧ RunsOut p text.toList t) ∧
      (e.fault = .unclosedGroup ↔ RunsOut p text.toList .closing) ∧
      (e.fault = .unclosedGroup → ∃ before after,
        tokenize text.toList = .ok (before ++ ⟨.opening, e.position⟩ :: after) ∧
          Balanced (after.map Lexeme.token))) := by
  have hrefused := refused_of_parse h
  have hlocated := hrefused.located
  rw [← width_toList]
  refine ⟨hlocated.exists_split, hlocated.position_le, fun hblank => ?_⟩
  have hcs : ¬∀ c ∈ text.toList, isBlank c = true := fun hall => by
    rw [isBlankText, List.all_eq_true.mpr hall] at hblank
    cases hblank
  have hcomparing : (∃ t, t.isComparing = true ∧ RunsOut p text.toList t) → e.position = width text.toList :=
    fun ⟨_, ht, hruns⟩ => hrefused.position_eq_of_runsOut hcs ht hruns
  have hclosing := hrefused.fault_eq_of_runsOut hcs
  refine ⟨fun _ _ _ => hlocated.blames hcs, ?_⟩
  cases hlocated with
  | blank hall => exact absurd hall hcs
  | within hstands hfault =>
    exact ⟨⟨fun hend => absurd hend (Nat.ne_of_lt hstands.lt_width), hcomparing⟩,
      ⟨fun hf => absurd hf hfault, hclosing⟩, fun hf => absurd hf hfault⟩
  | unclosed hstands hfault hruns htokens hafter =>
    exact ⟨⟨fun hend => absurd hend (Nat.ne_of_lt hstands.lt_width), hcomparing⟩,
      ⟨fun _ => hruns, hclosing⟩, fun _ => ⟨_, _, htokens, hafter⟩⟩
  | atEnd hend hfault ht hruns =>
    exact ⟨⟨fun _ => ⟨_, ht, hruns⟩, fun _ => hend⟩,
      ⟨fun hf => absurd hf hfault, hclosing⟩, fun hf => absurd hf hfault⟩

/-- A group that is open twice: as long as a value is missing the error is at the end, behind characters of two
bytes, and then at the second parenthesis. -/
theorem parse_error_points_nested :
    (parse .standard "(é==1 && (ü==" = .error ⟨.expectedValue .equal none, 15⟩ ∧
      ∃ t, t.isComparing = true ∧ RunsOut .standard "(é==1 && (ü==".toList t) ∧
    (parse .standard "(é==1 && (ü==2" = .error ⟨.unclosedGroup, 10⟩ ∧
      ∃ before after, tokenize "(é==1 && (ü==2".toList = .ok (before ++ ⟨.opening, 10⟩ :: after) ∧
        Balanced (after.map Lexeme.token)) := by
  have hvalue : parse .standard "(é==1 && (ü==" = .error ⟨.expectedValue .equal none, 15⟩ := by decide +kernel
  have hgroup : parse .standard "(é==1 && (ü==2" = .error ⟨.unclosedGroup, 10⟩ := by decide +kernel
  obtain ⟨-, -, hend⟩ := parse_error_points hvalue
  obtain ⟨-, -, hinside⟩ := parse_error_points hgroup
  exact ⟨⟨hvalue, (hend (by decide)).2.1.mp (by decide)⟩, ⟨hgroup, (hinside (by decide)).2.2.2 rfl⟩⟩

end Condition

end ReactiveForm
