import ReactiveForm.Proofs.Condition.Grammar
import ReactiveForm.Condition.Parser

/-!
# `ReactiveForm.Proofs.Condition.Exactness` — the parser accepts exactly its grammar

The parser is a machine that reads one token at a time, so both directions are about its runs:
* **sound** — `HasRead` describes the tokens behind a state of the machine (the open groups, the links of
  the chain, what is expected next); every step keeps it;
* **complete** — from a tree in normal form the run over its tokens is computed by induction on the form.

That a token list has one tree follows from the second half: the run is a function.

## Contents
- `Parser.Step`, what a successful step can be, and `Parser.feed_eq_ok_iff`.
- `Parser.HasRead`, with `step`, `run` and `finish`; `Parser.runsTo_of_spells`.
- `parseLexemes_eq_ok_iff`, for tokens; `parse_iff_lexes` and `parse_exact`, for texts.
-/

namespace ReactiveForm

namespace Condition

/-! ## Successful steps -/

namespace Parser

/-- **What a successful step can be**, for a token that stands at a position. -/
inductive Step (position : Nat) : Parser → Token → Parser → Prop where
  | negation {p links groups} :
      Step position ⟨p, .term false, links, groups⟩ .negation ⟨p, .term true, links, groups⟩
  | opening {p negated links groups} :
      Step position ⟨p, .term negated, links, groups⟩ .opening
        ⟨p, .term false, [], ⟨position, negated, links⟩ :: groups⟩
  | input {p negated name links groups} :
      Step position ⟨p, .term negated, links, groups⟩ (.word name)
        ⟨p, .relation negated name, links, groups⟩
  | relation {p negated name r links groups} :
      Step position ⟨p, .relation negated name, links, groups⟩ (.relation r)
        ⟨p, .value negated name r, links, groups⟩
  | value {p negated name r links groups token literal} (h : Token.literal? token = some literal) :
      Step position ⟨p, .value negated name r, links, groups⟩ token
        ⟨p, .connective (negateIf negated (.compare ⟨name, r, literal⟩)), links, groups⟩
  | connective {p term k links groups} :
      Step position ⟨p, .connective term, links, groups⟩ (.connective k)
        ⟨p, .term false, links ++ [(term, k)], groups⟩
  | closing {p term links outer groups} :
      Step position ⟨p, .connective term, links, outer :: groups⟩ .closing
        ⟨p, .connective (negateIf outer.negated (.group (p.assemble links term))), outer.links,
          groups⟩

/-- A token is read successfully exactly by such a step. -/
theorem feed_eq_ok_iff {p q : Parser} {l : Lexeme} :
    p.feed l = .ok q ↔ Step l.position p l.token q := by
  obtain ⟨token, position⟩ := l
  constructor
  · intro h
    obtain ⟨precedence, expecting, links, groups⟩ := p
    cases expecting with
    | term negated => cases negated <;> cases token <;> cases h <;> constructor
    | relation negated name => cases token <;> cases h; constructor
    | value negated name r =>
      cases token <;> cases h
      · exact .value rfl
      · exact .value rfl
    | connective term =>
      cases token <;> cases groups <;> cases h <;> constructor
  · intro h
    cases h with
    | @negation p links groups => rfl
    | @opening p negated links groups => cases negated <;> rfl
    | @input p negated name links groups => cases negated <;> rfl
    | relation => rfl
    | @value p negated name r links groups token literal h => simp [feed, h]
    | connective => rfl
    | closing => rfl

/-! ## Soundness: what stands behind a state of the parser -/

/-- The tokens of a negation that may be there. -/
def negationTokens (negated : Bool) : List Token := if negated then [.negation] else []

/-- The links of a chain are terms, and these are their tokens. -/
inductive LinksSpell (p : Precedence) : List Link → List Token → Prop where
  | nil : LinksSpell p [] []
  | snoc {links ts term us k} (hl : LinksSpell p links ts) (hn : NormalForm p .term term)
      (hs : Spells term us) : LinksSpell p (links ++ [(term, k)]) (ts ++ us ++ [.connective k])

/-- The tokens of what surrounds the innermost open group, its parenthesis included. -/
inductive GroupsSpell (p : Precedence) : List OpenGroup → List Token → Prop where
  | nil : GroupsSpell p [] []
  | cons {group groups ts us} (hg : GroupsSpell p groups ts) (hl : LinksSpell p group.links us) :
      GroupsSpell p (group :: groups) (ts ++ us ++ negationTokens group.negated ++ [.opening])

/-- The tokens of the term that is being read. -/
inductive ExpectingSpells (p : Precedence) : Expecting → List Token → Prop where
  | term (negated : Bool) : ExpectingSpells p (.term negated) (negationTokens negated)
  | relation {negated name} :
      ExpectingSpells p (.relation negated name) (negationTokens negated ++ [.word name])
  | value {negated name r} :
      ExpectingSpells p (.value negated name r) (negationTokens negated ++ [.word name, .relation r])
  | connective {term ts} (hn : NormalForm p .term term) (hs : Spells term ts) :
      ExpectingSpells p (.connective term) ts

/-- **The tokens that a parser has read**: those around the open groups, those of the chain so far, and
those of the term that is being read. -/
inductive HasRead (p : Precedence) : Parser → List Token → Prop where
  | mk {expecting links groups ts us vs} (hg : GroupsSpell p groups ts) (hl : LinksSpell p links us)
      (he : ExpectingSpells p expecting vs) : HasRead p ⟨p, expecting, links, groups⟩ (ts ++ us ++ vs)

theorem spells_negateIf {c : Condition} {tokens : List Token} (negated : Bool) (h : Spells c tokens) :
    Spells (negateIf negated c) (negationTokens negated ++ tokens) := by
  cases negated with
  | false => exact h
  | true => exact .not h

theorem normalForm_negateIf_compare {p : Precedence} (negated : Bool) (c : Comparison) :
    NormalForm p .term (negateIf negated (.compare c)) := by
  cases negated with
  | false => exact .compare c
  | true => exact .notCompare c

theorem normalForm_negateIf_group {p : Precedence} {c : Condition} (negated : Bool)
    (h : NormalForm p .chain c) : NormalForm p .term (negateIf negated (.group c)) := by
  cases negated with
  | false => exact .group h
  | true => exact .notGroup h

theorem joinFromLeft_snoc (links : List Link) (term : Condition) (k : Connective) (last : Condition) :
    Precedence.joinFromLeft (links ++ [(term, k)]) last =
      .join k (Precedence.joinFromLeft links term) last := by
  simp [Precedence.joinFromLeft]

theorem joinByBinding_snoc_and (links : List Link) (term : Condition) :
    Precedence.joinByBinding (links ++ [(term, .and)]) =
      ((Precedence.joinByBinding links).1,
        .join .and ((Precedence.joinByBinding links).2 term)) := by
  simp [Precedence.joinByBinding]

theorem joinByBinding_snoc_or (links : List Link) (term : Condition) :
    Precedence.joinByBinding (links ++ [(term, .or)]) =
      (.join .or ((Precedence.joinByBinding links).1 ((Precedence.joinByBinding links).2 term)),
        id) := by
  simp [Precedence.joinByBinding]

/-- Applied from the left, links and a last term are a chain. -/
theorem joinFromLeft_spells {links : List Link} {ts us : List Token} {last : Condition}
    (hl : LinksSpell .leftToRight links ts) (hn : NormalForm .leftToRight .term last)
    (hs : Spells last us) :
    NormalForm .leftToRight .chain (Precedence.joinFromLeft links last) ∧
      Spells (Precedence.joinFromLeft links last) (ts ++ us) := by
  induction hl generalizing last us with
  | nil => exact ⟨.first hn, hs⟩
  | snoc _ hterm hspell ih =>
    obtain ⟨hchain, hspells⟩ := ih hterm hspell
    rw [joinFromLeft_snoc]
    refine ⟨.next hchain hn, ?_⟩
    simpa using Spells.join hspells hs

/-- With `&&` binding tighter, the links fall into the alternatives that are complete and the conjunction
that the next term belongs to. -/
theorem joinByBinding_spells {links : List Link} {ts : List Token} (hl : LinksSpell .standard links ts) :
    ∃ before within, ts = before ++ within ∧
      (∀ c us, NormalForm .standard .conjunction c → Spells c us →
        NormalForm .standard .chain ((Precedence.joinByBinding links).1 c) ∧
          Spells ((Precedence.joinByBinding links).1 c) (before ++ us)) ∧
      (∀ c us, NormalForm .standard .term c → Spells c us →
        NormalForm .standard .conjunction ((Precedence.joinByBinding links).2 c) ∧
          Spells ((Precedence.joinByBinding links).2 c) (within ++ us)) := by
  induction hl with
  | nil =>
    exact ⟨[], [], rfl, fun c us hn hs => ⟨.firstAlternative hn, hs⟩,
      fun c us hn hs => ⟨.firstFactor hn, hs⟩⟩
  | @snoc links ts term us k _ hterm hspell ih =>
    obtain ⟨before, within, rfl, halt, hconj⟩ := ih
    obtain ⟨hc, hcs⟩ := hconj term us hterm hspell
    cases k with
    | and =>
      rw [joinByBinding_snoc_and]
      refine ⟨before, within ++ us ++ [.connective .and], by simp, halt, fun c vs hn hs => ?_⟩
      exact ⟨.nextFactor hc hn, by simpa using Spells.join (k := .and) hcs hs⟩
    | or =>
      obtain ⟨ha, has⟩ := halt _ _ hc hcs
      rw [joinByBinding_snoc_or]
      refine ⟨before ++ within ++ us ++ [.connective .or], [], by simp, fun c vs hn hs => ?_,
        fun c vs hn hs => ⟨.firstFactor hn, hs⟩⟩
      exact ⟨.nextAlternative ha hn, by simpa using Spells.join (k := .or) has hs⟩

/-- **A complete chain is a tree of the precedence** and is spelled by its tokens. -/
theorem assemble_spells {p : Precedence} {links : List Link} {ts us : List Token} {last : Condition}
    (hl : LinksSpell p links ts) (hn : NormalForm p .term last) (hs : Spells last us) :
    NormalForm p .chain (p.assemble links last) ∧ Spells (p.assemble links last) (ts ++ us) := by
  cases p with
  | leftToRight => exact joinFromLeft_spells hl hn hs
  | standard =>
    obtain ⟨before, within, rfl, halt, hconj⟩ := joinByBinding_spells hl
    obtain ⟨hc, hcs⟩ := hconj last us hn hs
    rw [List.append_assoc]
    exact halt _ _ hc hcs

/-- **Step.** A successful step adds its token to those that have been read. -/
theorem HasRead.step {p : Precedence} {q q' : Parser} {ts : List Token} {position : Nat} {token : Token}
    (h : HasRead p q ts) (hstep : Step position q token q') : HasRead p q' (ts ++ [token]) := by
  cases hstep with
  | negation =>
    obtain ⟨hg, hl, he⟩ := h
    cases he
    rw [List.append_assoc]
    exact .mk hg hl (.term true)
  | @opening _ negated links groups =>
    obtain ⟨hg, hl, he⟩ := h
    cases he
    have hopen : GroupsSpell p (⟨position, negated, links⟩ :: groups) _ := .cons hg hl
    simpa [negationTokens] using HasRead.mk hopen .nil (.term false)
  | input =>
    obtain ⟨hg, hl, he⟩ := h
    cases he
    rw [List.append_assoc]
    exact .mk hg hl .relation
  | relation =>
    obtain ⟨hg, hl, he⟩ := h
    cases he
    simpa using HasRead.mk hg hl .value
  | @value _ negated name r _ _ _ _ hliteral =>
    obtain ⟨hg, hl, he⟩ := h
    cases he
    have hcompare : Spells (.compare ⟨name, r, _⟩) _ := .compare hliteral
    simpa using HasRead.mk hg hl
      (.connective (normalForm_negateIf_compare negated _) (spells_negateIf negated hcompare))
  | connective =>
    obtain ⟨hg, hl, he⟩ := h
    cases he with
    | connective hn hs =>
      simpa [negationTokens] using HasRead.mk hg (.snoc hl hn hs) (.term false)
  | @closing _ term links outer groups =>
    obtain ⟨hg, hl, he⟩ := h
    cases he with
    | connective hn hs =>
      cases hg with
      | cons hg hlouter =>
        -- the chain inside becomes a group, and the chain outside goes on
        obtain ⟨hchain, hspells⟩ := assemble_spells hl hn hs
        have hterm := spells_negateIf outer.negated (Spells.group hspells)
        simpa using HasRead.mk hg hlouter
          (.connective (normalForm_negateIf_group _ hchain) hterm)

/-- **Run.** Tokens that are read one after the other are all behind the state they lead to. -/
theorem HasRead.run {p : Precedence} {q q' : Parser} {ts : List Token} {ls : List Lexeme}
    (h : HasRead p q ts) (hrun : q.feedAll ls = .ok q') : HasRead p q' (ts ++ ls.map Lexeme.token) := by
  induction ls generalizing q ts with
  | nil =>
    rw [feedAll_nil] at hrun
    rw [← Except.ok.inj hrun]
    simpa using h
  | cons l ls ih =>
    rw [feedAll_cons] at hrun
    cases hfeed : q.feed l with
    | error e => rw [hfeed] at hrun; cases hrun
    | ok mid =>
      rw [hfeed] at hrun
      simpa using ih (h.step (feed_eq_ok_iff.mp hfeed)) hrun

/-- A parser that may finish has read a tree of its precedence. -/
theorem HasRead.finish {p : Precedence} {q : Parser} {ts : List Token} {c : Condition} {e : Nat}
    (h : HasRead p q ts) (hf : q.finish e = .ok c) : NormalForm p .chain c ∧ Spells c ts := by
  obtain ⟨hg, hl, he⟩ := h
  cases he with
  | term => cases hf
  | relation => cases hf
  | value => cases hf
  | connective hn hs =>
    cases hg with
    | cons => cases hf
    | nil =>
      cases hf
      exact assemble_spells hl hn hs

/-! ## Completeness: the run over the tokens of a tree -/

theorem feedAll_cons_of_step {q q' : Parser} {l : Lexeme} {token : Token} (ht : l.token = token)
    (h : Step l.position q token q') (ls : List Lexeme) : q.feedAll (l :: ls) = q'.feedAll ls := by
  rw [feedAll_cons, feed_eq_ok_iff.mpr (ht ▸ h)]
  rfl

theorem feedAll_append_of_run {q q' : Parser} {ls : List Lexeme} (h : q.feedAll ls = .ok q')
    (ms : List Lexeme) : q.feedAll (ls ++ ms) = q'.feedAll ms := by
  rw [feedAll_append, h]
  rfl

/-- **Where the run over a tree ends**: a term is read between any links; a conjunction starts a new
alternative; a chain starts a group or the text. -/
def RunsTo (p : Precedence) : Rank → Condition → List Lexeme → Prop
  | .term, c, ls => ∀ links groups,
      feedAll ⟨p, .term false, links, groups⟩ ls = .ok ⟨p, .connective c, links, groups⟩
  | .conjunction, c, ls => ∀ links groups, (Precedence.joinByBinding links).2 = id →
      ∃ links' last,
        feedAll ⟨p, .term false, links, groups⟩ ls = .ok ⟨p, .connective last, links', groups⟩ ∧
          (Precedence.joinByBinding links').1 = (Precedence.joinByBinding links).1 ∧
          (Precedence.joinByBinding links').2 last = c
  | .chain, c, ls => ∀ groups, ∃ links last,
      feedAll ⟨p, .term false, [], groups⟩ ls = .ok ⟨p, .connective last, links, groups⟩ ∧
        p.assemble links last = c

/-- The run over a comparison, after its negation. -/
theorem run_compare {p : Precedence} {c : Comparison} {ls : List Lexeme}
    (hs : Spells (.compare c) (ls.map Lexeme.token)) (negated : Bool) (links : List Link)
    (groups : List OpenGroup) :
    feedAll ⟨p, .term negated, links, groups⟩ ls =
      .ok ⟨p, .connective (negateIf negated (.compare c)), links, groups⟩ := by
  generalize hts : ls.map Lexeme.token = ts at hs
  cases hs with
  | @compare name r literal token hliteral =>
    obtain ⟨l₁, ls₁, rfl, h₁, hts⟩ := List.map_eq_cons_iff.mp hts
    obtain ⟨l₂, ls₂, rfl, h₂, hts⟩ := List.map_eq_cons_iff.mp hts
    obtain ⟨l₃, ls₃, rfl, h₃, hts⟩ := List.map_eq_cons_iff.mp hts
    rw [List.map_eq_nil_iff.mp hts]
    rw [feedAll_cons_of_step h₁ .input, feedAll_cons_of_step h₂ .relation,
      feedAll_cons_of_step h₃ (.value hliteral), feedAll_nil]

/-- The run over a group, after its negation: the chain inside is read with no links of its own, and the
links around it come back at the closing parenthesis. -/
theorem run_group {p : Precedence} {c : Condition} {ls : List Lexeme}
    (ih : ∀ ms : List Lexeme, Spells c (ms.map Lexeme.token) → RunsTo p .chain c ms)
    (hs : Spells (.group c) (ls.map Lexeme.token)) (negated : Bool) (links : List Link)
    (groups : List OpenGroup) :
    feedAll ⟨p, .term negated, links, groups⟩ ls =
      .ok ⟨p, .connective (negateIf negated (.group c)), links, groups⟩ := by
  generalize hts : ls.map Lexeme.token = ts at hs
  cases hs with
  | group hc =>
    obtain ⟨front, back, rfl, hfront, hback⟩ := List.map_eq_append_iff.mp hts
    obtain ⟨l₁, inner, rfl, h₁, rfl⟩ := List.map_eq_cons_iff.mp hfront
    obtain ⟨l₂, rest, rfl, h₂, hrest⟩ := List.map_eq_cons_iff.mp hback
    rw [List.map_eq_nil_iff.mp hrest]
    obtain ⟨ls', last, hrun, hc'⟩ := ih inner hc (⟨l₁.position, negated, links⟩ :: groups)
    rw [List.cons_append, feedAll_cons_of_step h₁ .opening, feedAll_append_of_run hrun,
      feedAll_cons_of_step h₂ .closing, feedAll_nil, hc']

/-- **The run over a tree in normal form**, by induction on the form. -/
theorem runsTo_of_spells {p : Precedence} {rank : Rank} {c : Condition} (hn : NormalForm p rank c)
    (ls : List Lexeme) (hs : Spells c (ls.map Lexeme.token)) : RunsTo p rank c ls := by
  induction hn generalizing ls with
  | compare c => exact fun links groups => run_compare hs false links groups
  | notCompare c =>
    intro links groups
    generalize hts : ls.map Lexeme.token = ts at hs
    cases hs with
    | not hs =>
      obtain ⟨l, ls', rfl, hl, rfl⟩ := List.map_eq_cons_iff.mp hts
      rw [feedAll_cons_of_step hl .negation]
      exact run_compare hs true links groups
  | group _ ih => exact fun links groups => run_group ih hs false links groups
  | notGroup _ ih =>
    intro links groups
    generalize hts : ls.map Lexeme.token = ts at hs
    cases hs with
    | not hs =>
      obtain ⟨l, ls', rfl, hl, rfl⟩ := List.map_eq_cons_iff.mp hts
      rw [feedAll_cons_of_step hl .negation]
      exact run_group ih hs true links groups
  -- applied from the left, every link simply goes to the end of the links so far
  | first _ ih => exact fun groups => ⟨[], _, ih ls hs [] groups, rfl⟩
  | @next k l r _ _ ihl ihr =>
    intro groups
    generalize hts : ls.map Lexeme.token = ts at hs
    cases hs with
    | join hsl hsr =>
      obtain ⟨front, back, rfl, rfl, hback⟩ := List.map_eq_append_iff.mp hts
      obtain ⟨m, rest, rfl, hm, rfl⟩ := List.map_eq_cons_iff.mp hback
      obtain ⟨links, last, hrun, hl⟩ := ihl front hsl groups
      refine ⟨links ++ [(last, k)], r, ?_, ?_⟩
      · rw [feedAll_append_of_run hrun, feedAll_cons_of_step hm .connective]
        exact ihr rest hsr _ _
      · rw [← hl]
        exact joinFromLeft_snoc links last k r
  | @firstFactor c _ ih =>
    exact fun links groups hid => ⟨links, c, ih ls hs links groups, rfl, by rw [hid]; rfl⟩
  | @nextFactor l r _ _ ihl ihr =>
    intro links groups hid
    generalize hts : ls.map Lexeme.token = ts at hs
    cases hs with
    | join hsl hsr =>
      obtain ⟨front, back, rfl, rfl, hback⟩ := List.map_eq_append_iff.mp hts
      obtain ⟨m, rest, rfl, hm, rfl⟩ := List.map_eq_cons_iff.mp hback
      obtain ⟨links', last, hrun, halt, hl⟩ := ihl front hsl links groups hid
      -- the factor joins the conjunction, and the alternatives before it stay as they are
      refine ⟨links' ++ [(last, .and)], r, ?_, ?_, ?_⟩
      · rw [feedAll_append_of_run hrun, feedAll_cons_of_step hm .connective]
        exact ihr rest hsr _ _
      · rw [joinByBinding_snoc_and, halt]
      · rw [joinByBinding_snoc_and, hl]
  | @firstAlternative c _ ih =>
    intro groups
    obtain ⟨links, last, hrun, halt, hl⟩ := ih ls hs [] groups rfl
    refine ⟨links, last, hrun, ?_⟩
    show (Precedence.joinByBinding links).1 ((Precedence.joinByBinding links).2 last) = c
    rw [halt, hl]
    rfl
  | @nextAlternative l r _ _ ihl ihr =>
    intro groups
    generalize hts : ls.map Lexeme.token = ts at hs
    cases hs with
    | join hsl hsr =>
      obtain ⟨front, back, rfl, rfl, hback⟩ := List.map_eq_append_iff.mp hts
      obtain ⟨m, rest, rfl, hm, rfl⟩ := List.map_eq_cons_iff.mp hback
      obtain ⟨links, last, hrun, hl⟩ := ihl front hsl groups
      -- after `||` a new conjunction begins, which is what the run over it asks for
      have hsnoc := joinByBinding_snoc_or links last
      obtain ⟨links', last', hrun', halt, hr⟩ :=
        ihr rest hsr (links ++ [(last, .or)]) groups (by rw [hsnoc])
      refine ⟨links', last', ?_, ?_⟩
      · rw [feedAll_append_of_run hrun, feedAll_cons_of_step hm .connective, hrun']
      · show (Precedence.joinByBinding links').1 ((Precedence.joinByBinding links').2 last') = _
        rw [halt, hr, hsnoc, ← hl]
        rfl

end Parser

/-! ## Exactness -/

/-- Tokens are parsed to a tree exactly when it is in normal form and they are its linearisation. -/
theorem parseLexemes_eq_ok_iff {p : Precedence} {ls : List Lexeme} {e : Nat} {c : Condition} :
    parseLexemes p ls e = .ok c ↔ NormalForm p .chain c ∧ Spells c (ls.map Lexeme.token) := by
  constructor
  · intro h
    unfold parseLexemes at h
    split at h
    · cases h
    · cases hrun : Parser.feedAll { precedence := p } ls with
      | error err => simp [hrun, bind, Except.bind] at h
      | ok q =>
        have hfinish : q.finish e = .ok c := by simpa [hrun, bind, Except.bind] using h
        -- a parser that has not begun has read nothing
        have hread : Parser.HasRead p { precedence := p } [] :=
          .mk .nil .nil (.term false)
        exact (hread.run hrun).finish hfinish
  · rintro ⟨hn, hs⟩
    obtain ⟨links, last, hrun, hc⟩ := Parser.runsTo_of_spells hn ls hs []
    have hne : ls.isEmpty = false := by
      cases ls with
      | nil => exact absurd rfl hs.ne_nil
      | cons l ls => rfl
    simp [parseLexemes, hne, hrun, bind, Except.bind, Parser.finish, Parser.close, hc]

/-- A text is parsed to a tree exactly when it has tokens and they are the linearisation of that tree, in
normal form. -/
theorem parse_eq_ok_iff {p : Precedence} {text : String} {c : Condition} :
    parse p text = .ok c ↔
      ∃ lexemes, tokenize text.toList = .ok lexemes ∧ NormalForm p .chain c ∧
        Spells c (lexemes.map Lexeme.token) := by
  unfold parse
  cases htokens : tokenize text.toList with
  | error e => simp [bind, Except.bind]
  | ok lexemes =>
    show parseLexemes p lexemes _ = .ok c ↔ _
    rw [parseLexemes_eq_ok_iff]
    constructor
    · exact fun h => ⟨lexemes, rfl, h⟩
    · rintro ⟨_, heq, h⟩
      rw [Except.ok.inj heq]
      exact h

/-- The same without the places of the tokens. -/
theorem parse_iff_lexes {p : Precedence} {text : String} {c : Condition} :
    parse p text = .ok c ↔
      ∃ tokens, Lexes .symbols text.toList tokens ∧ NormalForm p .chain c ∧ Spells c tokens := by
  rw [parse_eq_ok_iff]
  constructor
  · rintro ⟨lexemes, htokens, hform⟩
    exact ⟨_, lexes_of_lexFrom htokens, hform⟩
  · rintro ⟨tokens, htokens, hform⟩
    obtain ⟨lexemes, hlexemes, rfl⟩ := htokens.lexFrom 0
    exact ⟨lexemes, hlexemes, hform⟩

/-- A list of tokens is the linearisation of one tree in normal form at most. -/
theorem Spells.unique {p : Precedence} {tokens : List Token} {c c' : Condition}
    (hn : NormalForm p .chain c) (hs : Spells c tokens) (hn' : NormalForm p .chain c')
    (hs' : Spells c' tokens) : c = c' := by
  -- positions play no part, so that the tokens can be given any
  have hmap : (tokens.map fun t => Lexeme.mk t 0).map Lexeme.token = tokens := by
    simp [Function.comp_def]
  have hc := parseLexemes_eq_ok_iff (e := 0).mpr ⟨hn, hmap.symm ▸ hs⟩
  have hc' := parseLexemes_eq_ok_iff (e := 0).mpr ⟨hn', hmap.symm ▸ hs'⟩
  rw [hc] at hc'
  exact Except.ok.inj hc'

end Condition

end ReactiveForm
