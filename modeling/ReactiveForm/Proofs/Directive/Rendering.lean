import ReactiveForm.Proofs.Condition.ReadingBack
import ReactiveForm.Proofs.Directive.Embedding

/-!
# `ReactiveForm.Proofs.Directive.Rendering` — rules that are read back from their spelling

A rule is spelled from parts that have spellings of their own: conditions with their literals between single
quotes, assignments with their values between double quotes, class lists between single quotes. Every reader of
a rule cuts it at a mark and looks into the parts, so that a rule comes back if no part is cut:
* **marks** — a mark inside a quoted section is ordinary text, and every part closes the sections it opens
  (`Text.Seals`);
* **white space** — no part has any at its ends, so that nothing is trimmed (`Text.Flush`).

## Contents
- `Condition.seals_text` and `Condition.flush_text`, the spellings of conditions.
- `AttributeRule.text`, `ClassRule.text` and what is asked of rules, `AttributeRule.Plain` and
  `ClassRule.Plain`.
- `Directive.parse_rendered`: **spelled rules are read as themselves**.
-/

namespace ReactiveForm

open Text

/-! ## Conditions -/

namespace Condition

variable {mark : Char} {c : Condition}

/-- What is asked of a condition in a rule that a mark cuts: it is a tree of the precedence, its names are
words without the mark, and no literal holds a single quote. -/
structure Plain (p : Precedence) (mark : Char) (c : Condition) : Prop where
  normal : NormalForm p .chain c
  names : ∀ k ∈ c.comparisons, IsName k.input ∧ mark ∉ k.input.toList
  literals : ∀ k ∈ c.comparisons, '\'' ∉ k.literal.toList

theorem isQuote_of_isWordChar {c : Char} (h : isWordChar c = true) : isQuote c = false := by
  simp only [isWordChar, isPunctuation, Bool.and_eq_true, Bool.not_eq_true', Bool.or_eq_false_iff] at h
  exact h.2.2

theorem isBlank_of_isWordChar {c : Char} (h : isWordChar c = true) : isBlank c = false := by
  simp only [isWordChar, Bool.and_eq_true, Bool.not_eq_true'] at h
  exact h.1

/-- What is written around names and literals holds no mark that could be part of a name. -/
theorem seals_of_punctuation (hmark : isWordChar mark = true) {cs : List Char}
    (h : (cs.all fun c => !isQuote c && !isWordChar c) = true) : Seals mark cs := by
  refine .plain fun c hc => ?_
  obtain ⟨hquote, hword⟩ : isQuote c = false ∧ isWordChar c = false := by
    simpa using List.all_eq_true.mp h c hc
  refine ⟨hquote, ?_⟩
  rintro rfl
  rw [hword] at hmark
  cases hmark

theorem toList_text_compare (k : Comparison) : k.text.toList =
    k.input.toList ++ ((' ' :: (k.relation.symbol.toList ++ [' '])) ++
      ('\'' :: (k.literal.toList ++ ['\'']))) := by
  simp [Comparison.text]

/-- **A condition keeps a mark to itself** that its names do not hold: every literal is a quoted section. -/
theorem seals_text (hmark : isWordChar mark = true)
    (hnames : ∀ k ∈ c.comparisons, IsName k.input ∧ mark ∉ k.input.toList)
    (hliterals : ∀ k ∈ c.comparisons, '\'' ∉ k.literal.toList) : Seals mark c.text.toList := by
  induction c with
  | compare k =>
    obtain ⟨hname, hfree⟩ := hnames k List.mem_cons_self
    have hinput : Seals mark k.input.toList := .plain fun c hc =>
      ⟨isQuote_of_isWordChar (hname.2 c hc), fun he => hfree (he ▸ hc)⟩
    have hsymbol : Seals mark (' ' :: (k.relation.symbol.toList ++ [' '])) := by
      cases k.relation <;> exact seals_of_punctuation hmark (by decide)
    have hliteral : Seals mark ('\'' :: (k.literal.toList ++ ['\''])) :=
      .quoted (by decide) (hliterals k List.mem_cons_self)
    rw [text, toList_text_compare]
    exact hinput.append (hsymbol.append hliteral)
  | not inner ih =>
    have hmarked : Seals mark ['!'] := seals_of_punctuation hmark (by decide)
    have htext := hmarked.append (ih hnames hliterals)
    rwa [text, String.toList_append]
  | join k left right ihl ihr =>
    have hleft := ihl (fun j hj => hnames j (List.mem_append_left _ hj))
      fun j hj => hliterals j (List.mem_append_left _ hj)
    have hright := ihr (fun j hj => hnames j (List.mem_append_right _ hj))
      fun j hj => hliterals j (List.mem_append_right _ hj)
    have hsymbol : Seals mark (" " ++ k.symbol ++ " ").toList := by
      cases k <;> exact seals_of_punctuation hmark (by decide)
    have htext := hleft.append (hsymbol.append hright)
    simpa [text] using htext
  | group inner ih =>
    have hopening : Seals mark ['('] := seals_of_punctuation hmark (by decide)
    have hclosing : Seals mark [')'] := seals_of_punctuation hmark (by decide)
    have htext := hopening.append ((ih hnames hliterals).append hclosing)
    simpa [text] using htext

theorem flush_text (hnames : ∀ k ∈ c.comparisons, IsName k.input) : Flush c.text.toList := by
  induction c with
  | compare k =>
    obtain ⟨hne, hword⟩ := hnames k List.mem_cons_self
    have hinput : Flush k.input.toList :=
      .of_forall (fun he => hne (String.toList_eq_nil_iff.mp he)) fun c hc => isBlank_of_isWordChar (hword c hc)
    have hquote : Flush ['\''] := .singleton (by decide)
    have htext := hinput.append (' ' :: (k.relation.symbol.toList ++ [' ']) ++ '\'' :: k.literal.toList) hquote
    rw [text, toList_text_compare]
    simpa using htext
  | not inner ih =>
    have hmarked : Flush ['!'] := .singleton (by decide)
    have htext := hmarked.append [] (ih hnames)
    rwa [text, String.toList_append]
  | join k left right ihl ihr =>
    have hleft := ihl fun j hj => hnames j (List.mem_append_left _ hj)
    have hright := ihr fun j hj => hnames j (List.mem_append_right _ hj)
    have htext := hleft.append (" " ++ k.symbol ++ " ").toList hright
    simpa [text] using htext
  | group inner ih =>
    have hopening : Flush ['('] := .singleton (by decide)
    have hclosing : Flush [')'] := .singleton (by decide)
    have htext := hopening.append inner.text.toList hclosing
    simpa [text] using htext

namespace Plain

variable {p : Precedence}

theorem seals (h : c.Plain p mark) (hmark : isWordChar mark = true) : Seals mark c.text.toList :=
  seals_text hmark h.names h.literals

theorem flush (h : c.Plain p mark) : Flush c.text.toList := flush_text fun k hk => (h.names k hk).1

/-- A literal without a single quote does not escape the quotes it is put between. -/
theorem parse_eq_ok (h : c.Plain p mark) : parse p c.text = .ok c := by
  refine (parse_text_iff h.normal fun k hk => (h.names k hk).1).mpr fun k hk => ?_
  rintro ⟨before, after, hliteral, -⟩
  refine h.literals k hk ?_
  rw [hliteral]
  exact List.mem_append_right _ List.mem_cons_self

end Plain

end Condition

/-! ## Rules and their spelling -/

/-- The spelling of a choice of attributes. -/
def AttributeRule.text (rule : AttributeRule) : String :=
  rule.condition.text ++ "?" ++ rule.whenTrue.text ++
    match rule.whenFalse with
    | none => ""
    | some a => ":" ++ a.text

/-- The spelling of a class rule, with its classes between quotes. -/
def ClassRule.text (rule : ClassRule) : String :=
  "'" ++ " ".intercalate rule.classes ++ "':" ++ rule.condition.text

/-- What is asked of an assignment: a name that no reader takes apart, and a value without the quote it is put
between. -/
structure Assignment.Plain (a : Assignment) : Prop where
  name_ne : a.name ≠ ""
  name : ∀ c ∈ a.name.toList, isBlank c = false ∧ isQuote c = false ∧ c ≠ '=' ∧ c ≠ ':'
  value : '"' ∉ a.value.toList

instance (a : Assignment) : Decidable a.Plain :=
  decidable_of_iff (a.name ≠ "" ∧
      (a.name.toList.all fun c => !isBlank c && !isQuote c && c != '=' && c != ':') ∧ '"' ∉ a.value.toList) <| by
    simp only [List.all_eq_true, Bool.and_eq_true, Bool.not_eq_true', bne_iff_ne, and_assoc]
    exact ⟨fun ⟨hne, hname, hvalue⟩ => ⟨hne, hname, hvalue⟩,
      fun h => ⟨h.name_ne, h.name, h.value⟩⟩

structure AttributeRule.Plain (p : Precedence) (rule : AttributeRule) : Prop where
  condition : rule.condition.Plain p '?'
  whenTrue : rule.whenTrue.Plain
  whenFalse : ∀ a ∈ rule.whenFalse, a.Plain

/-- A class that can be named between single quotes. -/
def IsPlainClass (name : String) : Prop :=
  name ≠ "" ∧ ∀ c ∈ name.toList, isBlank c = false ∧ c ≠ '\''

instance (name : String) : Decidable (IsPlainClass name) :=
  decidable_of_iff (name ≠ "" ∧ (name.toList.all fun c => !isBlank c && c != '\'') = true) <| by
    simp only [IsPlainClass, List.all_eq_true, Bool.and_eq_true, Bool.not_eq_true', bne_iff_ne]

structure ClassRule.Plain (p : Precedence) (rule : ClassRule) : Prop where
  condition : rule.condition.Plain p ','
  classes_ne : rule.classes ≠ []
  classes : ∀ name ∈ rule.classes, IsPlainClass name

namespace Directive

variable {options : DirectiveOptions}

theorem parseCondition_text {mark : Char} {c : Condition} (h : c.Plain options.precedence mark) :
    parseCondition options (trimChars c.text.toList) = .ok c :=
  parseCondition_eq_ok h.parse_eq_ok fun _ => Condition.lexes_trimChars

/-! ### A choice of attributes -/

theorem toList_text_assignment (a : Assignment) :
    a.text.toList = a.name.toList ++ '=' :: '"' :: (a.value.toList ++ ['"']) := by
  simp [Assignment.text]

theorem flush_name {a : Assignment} (h : a.Plain) : Flush a.name.toList :=
  .of_forall (fun he => h.name_ne (String.toList_eq_nil_iff.mp he)) fun c hc => (h.name c hc).1

/-- **What may stand before the `=` of an assignment:** something without white space inside, with the mark to
itself. -/
structure NamesAttribute (cs : List Char) : Prop where
  seals : Seals '=' cs
  ne : trimChars cs ≠ []
  solid : ∀ c ∈ trimChars cs, isBlank c = false

instance (cs : List Char) : Decidable (NamesAttribute cs) :=
  decidable_of_iff (Seals '=' cs ∧ trimChars cs ≠ [] ∧ ((trimChars cs).all fun c => !isBlank c) = true) <| by
    simp only [List.all_eq_true, Bool.not_eq_true']
    exact ⟨fun ⟨hseals, hne, hsolid⟩ => ⟨hseals, hne, hsolid⟩, fun h => ⟨h.seals, h.ne, h.solid⟩⟩

theorem parseAssignment_append_cons {name : List Char} (h : NamesAttribute name) (value : String)
    (given : List Char) : parseAssignment value (name ++ '=' :: given) =
      .ok ⟨String.ofList (trimChars name), String.ofList (stripChars given)⟩ := by
  have hplain : ((trimChars name).isEmpty || (trimChars name).any isBlank) = false := by
    rw [Bool.or_eq_false_iff, List.isEmpty_eq_false_iff, List.any_eq_false]
    exact ⟨h.ne, fun c hc => ne_true_of_eq_false (h.solid c hc)⟩
  unfold parseAssignment
  rw [splitSectionOnce_append_cons h.seals (by decide)]
  simp only [hplain]
  rfl

theorem parseAssignment_text {a : Assignment} (h : a.Plain) (value : String) :
    parseAssignment value a.text.toList = .ok a := by
  have hname := flush_name h
  have hkey : NamesAttribute a.name.toList := by
    refine ⟨.plain fun c hc => ⟨(h.name c hc).2.1, (h.name c hc).2.2.1⟩, ?_, ?_⟩
    · rw [hname.trimChars_eq]
      exact hname.ne_nil
    · rw [hname.trimChars_eq]
      exact fun c hc => (h.name c hc).1
  rw [toList_text_assignment, parseAssignment_append_cons hkey, hname.trimChars_eq,
    stripChars_quoted (by decide), String.ofList_toList, String.ofList_toList]

/-- An assignment keeps the colon to itself. -/
theorem seals_assignment {a : Assignment} (h : a.Plain) : Seals ':' a.text.toList := by
  have hname : Seals ':' (a.name.toList ++ ['=']) := by
    refine .plain fun c hc => ?_
    rcases List.mem_append.mp hc with hc | hc
    · exact ⟨(h.name c hc).2.1, (h.name c hc).2.2.2⟩
    · rw [List.mem_singleton.mp hc]
      decide
  have hvalue : Seals ':' ('"' :: (a.value.toList ++ ['"'])) := .quoted (by decide) h.value
  have htext := hname.append hvalue
  rw [toList_text_assignment]
  simpa using htext

theorem flush_assignment {a : Assignment} (h : a.Plain) : Flush a.text.toList := by
  have hname := flush_name h
  have hquote : Flush ['"'] := .singleton (by decide)
  have htext := hname.append ('=' :: '"' :: a.value.toList) hquote
  rw [toList_text_assignment]
  simpa using htext

/-- A spelled choice is cut at its marks: behind the condition, and between the assignments. -/
theorem parseAttributeRule_text {rule : AttributeRule} (h : rule.Plain options.precedence) :
    parseAttributeRule options rule.text = .ok rule := by
  obtain ⟨condition, whenTrue, whenFalse⟩ := rule
  obtain ⟨hcondition, htrue, hfalse⟩ := h
  have hmark : ∀ branches, splitSectionOnce '?' (condition.text.toList ++ '?' :: branches) =
      some (condition.text.toList, branches) :=
    splitSectionOnce_append_cons (hcondition.seals (by decide)) (by decide)
  have hcolon := seals_assignment htrue
  unfold parseAttributeRule
  cases whenFalse with
  | none =>
    have htext : (AttributeRule.text ⟨condition, whenTrue, none⟩).toList =
        condition.text.toList ++ '?' :: whenTrue.text.toList := by
      simp [AttributeRule.text]
    rw [htext, hmark]
    simp only [hcolon.uncut, parseCondition_text hcondition, parseAssignment_text htrue]
    rfl
  | some otherwise =>
    have htext : (AttributeRule.text ⟨condition, whenTrue, some otherwise⟩).toList =
        condition.text.toList ++ '?' :: (whenTrue.text.toList ++ ':' :: otherwise.text.toList) := by
      simp [AttributeRule.text]
    rw [htext, hmark]
    simp only [splitSectionOnce_append_cons hcolon (by decide), parseCondition_text hcondition,
      parseAssignment_text htrue, Option.mapM_some, parseAssignment_text (hfalse otherwise rfl)]
    rfl

theorem flush_attributeRule {p : Precedence} {rule : AttributeRule} (h : rule.Plain p) :
    Flush rule.text.toList := by
  obtain ⟨condition, whenTrue, whenFalse⟩ := rule
  obtain ⟨hcondition, htrue, hfalse⟩ := h
  cases whenFalse with
  | none =>
    have htext := hcondition.flush.append ['?'] (flush_assignment htrue)
    simpa [AttributeRule.text] using htext
  | some otherwise =>
    have htext := hcondition.flush.append ('?' :: whenTrue.text.toList ++ [':'])
      (flush_assignment (hfalse otherwise rfl))
    simpa [AttributeRule.text] using htext

/-! ### Class rules -/

theorem toList_text_classRule (rule : ClassRule) : rule.text.toList =
    ('\'' :: ((" ".intercalate rule.classes).toList ++ ['\''])) ++ ':' :: rule.condition.text.toList := by
  simp [ClassRule.text]

/-- No class list holds the quote that is put around it. -/
theorem notMem_classes {p : Precedence} {rule : ClassRule} (h : rule.Plain p) :
    '\'' ∉ (" ".intercalate rule.classes).toList := by
  rw [String.toList_intercalate]
  intro hmem
  rcases mem_of_mem_intercalate hmem with hspace | ⟨_, hpart, hquote⟩
  · exact absurd hspace (by decide)
  · obtain ⟨name, hname, rfl⟩ := List.mem_map.mp hpart
    exact ((h.classes name hname).2 _ hquote).2 rfl

theorem parseClassRule_text {rule : ClassRule} (hquoted : options.quotedClassLists = true)
    (h : rule.Plain options.precedence) (value : String) :
    parseClassRule options value rule.text.toList = .ok rule := by
  have hlist : Seals ':' ('\'' :: ((" ".intercalate rule.classes).toList ++ ['\''])) :=
    .quoted (by decide) (notMem_classes h)
  have hclasses : words (" ".intercalate rule.classes).toList = rule.classes.map String.toList := by
    rw [String.toList_intercalate]
    refine words_intercalate fun w hw => ?_
    obtain ⟨name, hname, rfl⟩ := List.mem_map.mp hw
    obtain ⟨hne, hplain⟩ := h.classes name hname
    exact ⟨fun he => hne (String.toList_eq_nil_iff.mp he), fun c hc => (hplain c hc).1⟩
  have hsome : (rule.classes.map String.toList).isEmpty = false := by
    rw [List.isEmpty_eq_false_iff]
    exact fun he => h.classes_ne (List.map_eq_nil_iff.mp he)
  unfold parseClassRule
  rw [toList_text_classRule, splitSectionOnce_append_cons hlist (by decide)]
  simp only [hquoted, stripChars_quoted (q := '\'') (by decide), hclasses, hsome,
    parseCondition_text h.condition, List.map_map, Function.comp_def, String.ofList_toList, List.map_id', if_true]
  rfl

theorem seals_classRule {p : Precedence} {rule : ClassRule} (h : rule.Plain p) :
    Seals ',' rule.text.toList := by
  have hlist : Seals ',' ('\'' :: ((" ".intercalate rule.classes).toList ++ ['\''])) :=
    .quoted (by decide) (notMem_classes h)
  have hcolon : Seals ',' [':'] := .plain (List.forall_mem_singleton.mpr (by decide))
  have htext := hlist.append (hcolon.append (h.condition.seals (by decide)))
  rwa [toList_text_classRule]

theorem flush_classRule {p : Precedence} {rule : ClassRule} (h : rule.Plain p) :
    Flush rule.text.toList := by
  have hquote : Flush ['\''] := .singleton (by decide)
  have htext := hquote.append ((" ".intercalate rule.classes).toList ++ ['\'', ':']) h.condition.flush
  rw [toList_text_classRule]
  simpa using htext

/-- The characters of class rules with commas between them. -/
theorem toList_text_classRules (rules : List ClassRule) :
    (", ".intercalate (rules.map ClassRule.text)).toList =
      [',', ' '].intercalate (rules.map fun rule => rule.text.toList) := by
  rw [String.toList_intercalate, List.map_map]
  rfl

theorem parseClassRules_text {rules : List ClassRule} (hquoted : options.quotedClassLists = true)
    (hne : rules ≠ []) (h : ∀ rule ∈ rules, rule.Plain options.precedence) :
    parseClassRules options (", ".intercalate (rules.map ClassRule.text)) = .ok rules := by
  have hparts : (splitSections ',' (", ".intercalate (rules.map ClassRule.text)).toList).map trimChars =
      rules.map fun rule => rule.text.toList := by
    rw [toList_text_classRules]
    refine map_trimChars_splitSections (by decide) (by decide) (fun he => hne (List.map_eq_nil_iff.mp he)) ?_
    exact List.forall_mem_map.mpr fun rule hrule =>
      ⟨seals_classRule (h rule hrule), flush_classRule (h rule hrule)⟩
  have hnone : (rules.map fun rule => rule.text.toList).filter (!·.isEmpty) =
      rules.map fun rule => rule.text.toList := by
    refine List.filter_eq_self.mpr (List.forall_mem_map.mpr fun rule hrule => ?_)
    rw [List.isEmpty_eq_false_iff.mpr (flush_classRule (h rule hrule)).ne_nil]
    rfl
  have hread : (rules.map fun rule => rule.text.toList).mapM
      (parseClassRule options (", ".intercalate (rules.map ClassRule.text))) = .ok rules := by
    rw [mapM_eq_ok_iff, List.forall₂_map_left_iff, List.forall₂_same]
    exact fun rule hrule => parseClassRule_text hquoted (h rule hrule) _
  unfold parseClassRules
  simp only [hparts, hnone, hread]
  cases rules with
  | nil => exact absurd rfl hne
  | cons rule rest => rfl

/-- **Spelled rules are read as themselves**, in either precedence: a choice of attributes, and any list of
class rules in its order. Literals, values and classes may hold every mark that a rule is cut at, and the other
kind of quote. -/
theorem parse_rendered (options : DirectiveOptions) :
    (∀ rule : AttributeRule, rule.Plain options.precedence →
        parse options .attributeIf rule.text = .ok (.attributeIf rule)) ∧
      (options.quotedClassLists = true → ∀ rules : List ClassRule, rules ≠ [] →
        (∀ rule ∈ rules, rule.Plain options.precedence) →
        parse options .classIf (", ".intercalate (rules.map ClassRule.text)) = .ok (.classIf rules)) := by
  constructor
  · intro rule h
    have hflush := flush_attributeRule h
    rw [parse_attributeIf hflush.isEmpty_trim, hflush.trim_eq, parseAttributeRule_text h]
    rfl
  · intro hquoted rules hne h
    have hflush : Flush (", ".intercalate (rules.map ClassRule.text)).toList := by
      rw [toList_text_classRules]
      refine .intercalate _ (fun he => hne (List.map_eq_nil_iff.mp he)) ?_
      exact List.forall_mem_map.mpr fun rule hrule => flush_classRule (h rule hrule)
    rw [parse_classIf hflush.isEmpty_trim, hflush.trim_eq, parseClassRules_text hquoted hne h]
    rfl

/-- A literal, values and a class that hold the marks, parentheses and the other kind of quote. -/
theorem parse_rendered_marks :
    parse { precedence := .standard } .attributeIf
        "!(plan == 'a?b:c=\"d') || tier != '1 && 2'?title=\"x:y=z?\":alt=\"it's, or not\"" =
      .ok (.attributeIf ⟨.join .or (.not (.group (.compare ⟨"plan", .equal, "a?b:c=\"d"⟩)))
        (.compare ⟨"tier", .notEqual, "1 && 2"⟩), ⟨"title", "x:y=z?"⟩,
          some ⟨"alt", "it's, or not"⟩⟩) ∧
    parse { precedence := .standard } .classIf "'a b,c':plan == 'x,y:(z)', 'm:\"n':!tier != ''" =
      .ok (.classIf [⟨["a", "b,c"], .compare ⟨"plan", .equal, "x,y:(z)"⟩⟩,
        ⟨["m:\"n"], .not (.compare ⟨"tier", .notEqual, ""⟩)⟩]) := by
  obtain ⟨hattributes, hclasses⟩ := parse_rendered { precedence := .standard }
  constructor
  · refine hattributes ⟨.join .or (.not (.group (.compare ⟨"plan", .equal, "a?b:c=\"d"⟩)))
      (.compare ⟨"tier", .notEqual, "1 && 2"⟩), ⟨"title", "x:y=z?"⟩, some ⟨"alt", "it's, or not"⟩⟩
      ⟨⟨?_, ?_, ?_⟩, by decide, ?_⟩
    · exact .nextAlternative
        (.firstAlternative (.firstFactor (.notGroup (.firstAlternative (.firstFactor (.compare _))))))
        (.firstFactor (.compare _))
    · exact List.forall_mem_cons.mpr ⟨by decide, List.forall_mem_singleton.mpr (by decide)⟩
    · exact List.forall_mem_cons.mpr ⟨by decide, List.forall_mem_singleton.mpr (by decide)⟩
    · rintro _ ⟨⟩
      decide
  · refine hclasses rfl [⟨["a", "b,c"], .compare ⟨"plan", .equal, "x,y:(z)"⟩⟩,
      ⟨["m:\"n"], .not (.compare ⟨"tier", .notEqual, ""⟩)⟩] (List.cons_ne_nil _ _) ?_
    refine List.forall_mem_cons.mpr ⟨⟨⟨?_, ?_, ?_⟩, by decide, by decide⟩,
      List.forall_mem_singleton.mpr ⟨⟨?_, ?_, ?_⟩, by decide, by decide⟩⟩
    · exact .firstAlternative (.firstFactor (.compare _))
    · exact List.forall_mem_singleton.mpr (by decide)
    · exact List.forall_mem_singleton.mpr (by decide)
    · exact .firstAlternative (.firstFactor (.notCompare _))
    · exact List.forall_mem_singleton.mpr (by decide)
    · exact List.forall_mem_singleton.mpr (by decide)

end Directive

end ReactiveForm
