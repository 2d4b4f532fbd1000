import ReactiveForm.Directive.Parser
import ReactiveForm.Proofs.Condition.Trimming
import ReactiveForm.Proofs.Except
import ReactiveForm.Proofs.Text.Section

/-!
# `ReactiveForm.Proofs.Directive.Embedding` — conditions among other text

A condition is the whole value of some directives and a part of that of others, where a mark ends it. Two
readers look at the quotes in it: to the lexer a quote inside a literal is a character like any other, and
to those who look for the mark every quote opens or closes a section. They agree on a condition all of whose
sections are closed at its end. After any other condition the mark is not seen.

## Contents
- `Directive.parse_showIf`, `Directive.parse_attributeIf_embedded` and `Directive.parse_classIf_embedded`.
- `Directive.parse_embedded`: **a condition is read alike everywhere if and only if it closes its quotes**.
-/

namespace ReactiveForm

/-! ## Reading -/

namespace Directive

open Text

variable {options : DirectiveOptions} {text text' : String} {c c' : Condition}

theorem parseCondition_eq_ok (h : Condition.parse options.precedence text = .ok c) {cs : List Char}
    (hcs : ∀ tokens, Condition.Lexes .symbols cs tokens ↔ Condition.Lexes .symbols text.toList tokens) :
    parseCondition options cs = .ok c := by
  have hparse : Condition.parse options.precedence (String.ofList cs) = .ok c :=
    (Condition.parse_eq_ok_congr (by rwa [String.toList_ofList]) c).mpr h
  unfold parseCondition
  rw [hparse]
  rfl

/-- A directive that is nothing but a condition. -/
theorem parse_showIf (h : Condition.parse options.precedence text = .ok c) :
    parse options .showIf text = .ok (.showIf c) := by
  have hread : parseCondition options (trim text).toList = .ok c := by
    unfold parseCondition
    rw [String.ofList_toList, Condition.parse_trim_eq_ok_iff.mpr h]
    rfl
  have hne : (trim text).isEmpty = false := by
    refine eq_false_of_ne_true fun hempty => ?_
    have hnothing : Condition.parse options.precedence (String.ofList "".toList) = .error ⟨.empty, 0⟩ := by
      unfold Condition.parse Condition.tokenize
      rw [String.toList_ofList]
      rw [show "".toList = [] from rfl, Condition.lexFrom_nil]
      rfl
    unfold parseCondition at hread
    rw [String.isEmpty_iff.mp hempty, hnothing] at hread
    cases hread
  unfold parse
  simp only [hne, hread]
  rfl

/-! ### A choice of attributes -/

/-- What is around the condition in `text?a=v`. -/
theorem toList_trim_choice (text : String) :
    (trim (text ++ "?a=v")).toList = trimStart text.toList ++ ['?', 'a', '=', 'v'] := by
  rw [toList_trim, String.toList_append]
  exact trimChars_append_cons (by decide) _ _

theorem parse_attributeIf (hne : (trim text).isEmpty = false) :
    parse options .attributeIf text = (parseAttributeRule options (trim text)).map .attributeIf := by
  unfold parse
  simp only [hne]
  cases parseAttributeRule options (trim text) <;> rfl

theorem parse_attributeIf_eq (text : String) : parse options .attributeIf (text ++ "?a=v") =
    (parseAttributeRule options (trim (text ++ "?a=v"))).map .attributeIf :=
  parse_attributeIf
    (isEmpty_trim_eq_false ((toList_trim _).symm.trans (toList_trim_choice text)) (by simp))

theorem parse_attributeIf_of_closes (h : Condition.parse options.precedence text = .ok c)
    (hmark : '?' ∉ text.toList) (hcloses : ClosesQuotes text) :
    parse options .attributeIf (text ++ "?a=v") = .ok (.attributeIf ⟨c, ⟨"a", "v"⟩, none⟩) := by
  have hsplit : splitSectionOnce '?' (trim (text ++ "?a=v")).toList =
      some (trimStart text.toList, ['a', '=', 'v']) := by
    have hseals : Seals '?' (trimStart text.toList) :=
      ⟨splitSectionOnceFrom_of_notMem (notMem_trimStart hmark) none, (Quoting.over_trimStart _).trans hcloses⟩
    rw [toList_trim_choice]
    exact splitSectionOnce_append_cons hseals (by decide) _
  have hread : parseCondition options (trimChars (trimStart text.toList)) = .ok c := by
    refine parseCondition_eq_ok h fun tokens => ?_
    rw [trimChars, trimStart_trimStart]
    exact Condition.lexes_trimChars
  rw [parse_attributeIf_eq]
  unfold parseAttributeRule
  rw [hsplit]
  simp only [hread]
  rfl

theorem parse_attributeIf_of_open (hmark : '?' ∉ text.toList) (hopen : ¬ClosesQuotes text) :
    parse options .attributeIf (text ++ "?a=v") =
      .error (.malformed .attributeIf (trim (text ++ "?a=v")) .missingQuestionMark) := by
  obtain ⟨q, hq⟩ := Option.ne_none_iff_exists'.mp hopen
  have hquote := Quoting.isQuote_of_over hq
  have hsplit : splitSectionOnce '?' (trim (text ++ "?a=v")).toList = none := by
    have huncut := splitSectionOnceFrom_of_notMem (notMem_trimStart hmark) none
    unfold splitSectionOnce
    rw [toList_trim_choice, splitSectionOnceFrom_append huncut, Quoting.over_trimStart, hq]
    -- the section goes on to the end, whichever quote has opened it
    simp only [isQuote, Bool.or_eq_true, beq_iff_eq] at hquote
    rcases hquote with rfl | rfl <;> rfl
  rw [parse_attributeIf_eq]
  unfold parseAttributeRule
  rw [hsplit]
  rfl

/-! ### Classes -/

/-- A pair with a class of one letter. -/
theorem parseClassRule_letter {name : Char} (hname : name = 'k' ∨ name = 'm') (value : String)
    (cs : List Char) : parseClassRule options value (name :: ':' :: cs) =
      (parseCondition options (trimChars cs)).map fun c => ⟨[String.ofList [name]], c⟩ := by
  have hsplit : splitSectionOnce ':' (name :: ':' :: cs) = some ([name], cs) := by
    rcases hname with rfl | rfl <;> rfl
  have hclasses : words (if options.quotedClassLists = true then stripChars [name] else trimChars [name]) =
      [[name]] := by
    cases options.quotedClassLists <;> rcases hname with rfl | rfl <;> rfl
  unfold parseClassRule
  rw [hsplit]
  simp only [hclasses]
  cases parseCondition options (trimChars cs) <;> rfl

/-- What is around the conditions in `k:text,m:text'`. -/
theorem toList_trim_classes (text text' : String) :
    (trim ("k:" ++ text ++ ",m:" ++ text')).toList =
      ('k' :: ':' :: text.toList) ++ ',' :: 'm' :: ':' :: trimEnd text'.toList := by
  have htext : ("k:" ++ text ++ ",m:" ++ text').toList =
      ('k' :: ':' :: text.toList ++ [',', 'm']) ++ ':' :: text'.toList := by
    simp only [String.toList_append, List.append_assoc]
    rfl
  have hstart : trimStart ('k' :: ':' :: text.toList ++ [',', 'm']) = 'k' :: ':' :: text.toList ++ [',', 'm'] :=
    List.dropWhile_cons_of_neg (by decide)
  rw [toList_trim, htext, trimChars_append_cons (by decide), hstart, List.append_assoc]
  rfl

theorem parse_classIf (hne : (trim text).isEmpty = false) :
    parse options .classIf text = (parseClassRules options (trim text)).map .classIf := by
  unfold parse
  simp only [hne]
  cases parseClassRules options (trim text) <;> rfl

theorem parse_classIf_eq (text text' : String) :
    parse options .classIf ("k:" ++ text ++ ",m:" ++ text') =
      (parseClassRules options (trim ("k:" ++ text ++ ",m:" ++ text'))).map .classIf :=
  parse_classIf
    (isEmpty_trim_eq_false ((toList_trim _).symm.trans (toList_trim_classes text text')) (by simp))

/-- The parts of `k:text,m:text'` between commas. -/
theorem splitSections_classes (hcomma : ',' ∉ text.toList) :
    splitSections ',' (trim ("k:" ++ text ++ ",m:" ++ text')).toList =
      let tail := splitSectionsFrom ',' (Quoting.over none text.toList)
        (',' :: 'm' :: ':' :: trimEnd text'.toList)
      ('k' :: ':' :: text.toList ++ tail.1) :: tail.2 := by
  have hfirst : ',' ∉ 'k' :: ':' :: text.toList := by simpa using hcomma
  have huncut := splitSectionOnceFrom_of_notMem hfirst none
  unfold splitSections
  rw [toList_trim_classes, splitSectionsFrom_append huncut]
  rfl

theorem trimChars_pair {name : Char} (hname : isBlank name = false) (cs : List Char) :
    trimChars (name :: ':' :: cs) = name :: ':' :: trimEnd cs := by
  have hstart : trimStart [name] = [name] := List.dropWhile_cons_of_neg (by rw [hname]; nofun)
  show trimChars ([name] ++ ':' :: cs) = _
  rw [trimChars_append_cons (by decide), hstart]
  rfl

theorem parse_classIf_of_closes (h : Condition.parse options.precedence text = .ok c)
    (h' : Condition.parse options.precedence text' = .ok c') (hcomma : ',' ∉ text.toList)
    (hcomma' : ',' ∉ text'.toList) (hcloses : ClosesQuotes text) :
    parse options .classIf ("k:" ++ text ++ ",m:" ++ text') =
      .ok (.classIf [⟨["k"], c⟩, ⟨["m"], c'⟩]) := by
  have hlast : ',' ∉ 'm' :: ':' :: trimEnd text'.toList := by
    simpa using notMem_trimEnd hcomma'
  have htail : splitSectionsFrom ',' none (',' :: 'm' :: ':' :: trimEnd text'.toList) =
      ([], ['m' :: ':' :: trimEnd text'.toList]) := by
    rw [splitSectionsFrom, splitSectionsFrom_of_uncut (splitSectionOnceFrom_of_notMem hlast _)]
    rfl
  have hpairs : ((splitSections ',' (trim ("k:" ++ text ++ ",m:" ++ text')).toList).map trimChars).filter
      (!·.isEmpty) = ['k' :: ':' :: trimEnd text.toList, 'm' :: ':' :: trimEnd text'.toList] := by
    rw [splitSections_classes hcomma, hcloses, htail]
    show List.filter _ [trimChars ('k' :: ':' :: text.toList ++ []), trimChars _] = _
    rw [List.append_nil, trimChars_pair (by decide), trimChars_pair (by decide), trimEnd_trimEnd]
    rfl
  have hread : ∀ {text c}, Condition.parse options.precedence text = .ok c →
      parseCondition options (trimChars (trimEnd text.toList)) = .ok c := fun h =>
    parseCondition_eq_ok h fun tokens => Condition.lexes_trimChars.trans Condition.lexes_trimEnd
  rw [parse_classIf_eq]
  unfold parseClassRules
  simp only [hpairs, List.mapM_cons, List.mapM_nil, parseClassRule_letter (.inl rfl),
    parseClassRule_letter (.inr rfl), hread h, hread h']
  rfl

/-- The second pair is a part of the first condition. -/
theorem parse_classIf_of_open (hcomma : ',' ∉ text.toList)
    (hcomma' : ',' ∉ text'.toList) (hopen : ¬ClosesQuotes text) :
    parse options .classIf ("k:" ++ text ++ ",m:" ++ text') =
      (parseCondition options (trim (text ++ ",m:" ++ text')).toList).map fun merged =>
        .classIf [⟨["k"], merged⟩] := by
  obtain ⟨q, hq⟩ := Option.ne_none_iff_exists'.mp hopen
  have hquote := Quoting.isQuote_of_over hq
  have hlast : ',' ∉ 'm' :: ':' :: trimEnd text'.toList := by
    simpa using notMem_trimEnd hcomma'
  have htail : splitSectionsFrom ',' (some q) (',' :: 'm' :: ':' :: trimEnd text'.toList) =
      (',' :: 'm' :: ':' :: trimEnd text'.toList, []) := by
    rw [splitSectionsFrom, splitSectionsFrom_of_uncut (splitSectionOnceFrom_of_notMem hlast _)]
    rfl
  have hpair : ∀ cs, trimEnd ('m' :: ':' :: cs) = 'm' :: ':' :: trimEnd cs :=
    trimEnd_append_cons (by decide) ['m']
  have hpairs : ((splitSections ',' (trim ("k:" ++ text ++ ",m:" ++ text')).toList).map trimChars).filter
      (!·.isEmpty) = ['k' :: ':' :: (text.toList ++ ',' :: 'm' :: ':' :: trimEnd text'.toList)] := by
    rw [splitSections_classes hcomma, hq, htail]
    show List.filter _ [trimChars ('k' :: ':' :: (text.toList ++ ',' :: 'm' :: ':' :: _))] = _
    rw [trimChars_pair (by decide), trimEnd_append_cons (by decide), hpair, trimEnd_trimEnd]
    rfl
  have htrim : trimChars (text.toList ++ ',' :: 'm' :: ':' :: trimEnd text'.toList) =
      (trim (text ++ ",m:" ++ text')).toList := by
    have htext : (text ++ ",m:" ++ text').toList = text.toList ++ ',' :: 'm' :: ':' :: text'.toList := by
      simp only [String.toList_append, List.append_assoc]
      rfl
    rw [toList_trim, htext, trimChars_append_cons (by decide), trimChars_append_cons (by decide), hpair, hpair,
      trimEnd_trimEnd]
  rw [parse_classIf_eq]
  unfold parseClassRules
  simp only [hpairs, List.mapM_cons, List.mapM_nil, parseClassRule_letter (.inl rfl), htrim]
  cases parseCondition options (trim (text ++ ",m:" ++ text')).toList <;> rfl

/-! ### Everywhere -/

/-- **A condition is read alike everywhere if and only if it closes its quotes.** A text that is read as a
condition by itself, and has none of the marks in it that are looked for after it, is read as the same
condition before a choice of attributes, and before the comma of a class list, exactly when no section is
left open at its end. Otherwise no mark is seen: the choice is refused, and the second pair of a class list
becomes a part of the first condition, so that there are never two rules. -/
theorem parse_embedded (options : DirectiveOptions) {text text' : String} {c c' : Condition}
    (h : Condition.parse options.precedence text = .ok c)
    (h' : Condition.parse options.precedence text' = .ok c') (hmark : '?' ∉ text.toList)
    (hcomma : ',' ∉ text.toList) (hcomma' : ',' ∉ text'.toList) :
    parse options .showIf text = .ok (.showIf c) ∧
      (parse options .attributeIf (text ++ "?a=v") = .ok (.attributeIf ⟨c, ⟨"a", "v"⟩, none⟩) ↔
        ClosesQuotes text) ∧
      (parse options .classIf ("k:" ++ text ++ ",m:" ++ text') =
          .ok (.classIf [⟨["k"], c⟩, ⟨["m"], c'⟩]) ↔ ClosesQuotes text) ∧
      (¬ClosesQuotes text →
        parse options .attributeIf (text ++ "?a=v") =
            .error (.malformed .attributeIf (trim (text ++ "?a=v")) .missingQuestionMark) ∧
          parse options .classIf ("k:" ++ text ++ ",m:" ++ text') =
            (parseCondition options (trim (text ++ ",m:" ++ text')).toList).map fun merged =>
              .classIf [⟨["k"], merged⟩]) := by
  refine ⟨parse_showIf h, ⟨fun hread => ?_, parse_attributeIf_of_closes h hmark⟩,
    ⟨fun hread => ?_, parse_classIf_of_closes h h' hcomma hcomma'⟩,
    fun hopen => ⟨parse_attributeIf_of_open hmark hopen, parse_classIf_of_open hcomma hcomma' hopen⟩⟩
  · by_contra hopen
    rw [parse_attributeIf_of_open hmark hopen] at hread
    cases hread
  · by_contra hopen
    rw [parse_classIf_of_open hcomma hcomma' hopen] at hread
    obtain ⟨merged, -, hone⟩ := map_eq_ok_iff.mp hread
    cases hone

/-- An apostrophe inside a literal leaves a section open, and two of them close it again. -/
theorem parse_embedded_apostrophes :
    (parse {} .attributeIf "owner==it's 5 o'clock?a=v" =
        .ok (.attributeIf ⟨.compare ⟨"owner", .equal, "it's 5 o'clock"⟩, ⟨"a", "v"⟩, none⟩)) ∧
      parse {} .attributeIf "owner==it's?a=v" =
        .error (.malformed .attributeIf "owner==it's?a=v" .missingQuestionMark) := by
  have hclosed : Condition.parse .leftToRight "owner==it's 5 o'clock" =
      .ok (.compare ⟨"owner", .equal, "it's 5 o'clock"⟩) := by decide +kernel
  have hopen : Condition.parse .leftToRight "owner==it's" = .ok (.compare ⟨"owner", .equal, "it's"⟩) := by
    decide +kernel
  constructor
  · exact (parse_embedded {} hclosed hclosed (by decide) (by decide) (by decide)).2.1.mpr
      (by decide)
  · exact ((parse_embedded {} hopen hopen (by decide) (by decide) (by decide)).2.2.2
      (by decide)).1

/-- **An apostrophe hides the marks**: what is a condition by itself is refused before a choice of
attributes, and swallows the second pair of a class list. -/
theorem parse_embedded_of_apostrophe :
    parse {} .showIf "owner==it's" = .ok (.showIf (.compare ⟨"owner", .equal, "it's"⟩)) ∧
      parse {} .showIf "plan==pro" = .ok (.showIf (.compare ⟨"plan", .equal, "pro"⟩)) ∧
      (∀ mark ∈ ['?', ':', ','], mark ∉ "owner==it's".toList ∧ mark ∉ "plan==pro".toList) ∧
      parse {} .attributeIf ("owner==it's" ++ "?a=v") =
        .error (.malformed .attributeIf "owner==it's?a=v" .missingQuestionMark) ∧
      parse {} .classIf ("k:" ++ "owner==it's" ++ ",m:" ++ "plan==pro") =
        .ok (.classIf [⟨["k"], .compare ⟨"owner", .equal, "it's,m:plan==pro"⟩⟩]) := by
  have howner : Condition.parse .leftToRight "owner==it's" = .ok (.compare ⟨"owner", .equal, "it's"⟩) := by
    decide +kernel
  have hplan : Condition.parse .leftToRight "plan==pro" = .ok (.compare ⟨"plan", .equal, "pro"⟩) := by
    decide +kernel
  have hmerged : Condition.parse .leftToRight ("owner==it's" ++ ",m:" ++ "plan==pro") =
      .ok (.compare ⟨"owner", .equal, "it's,m:plan==pro"⟩) := by
    decide +kernel
  have hopen : ¬ClosesQuotes "owner==it's" := by decide
  refine ⟨parse_showIf howner, parse_showIf hplan, ?_, ?_, ?_⟩
  · intro mark hmark
    simp only [List.mem_cons, List.not_mem_nil, or_false] at hmark
    rcases hmark with rfl | rfl | rfl <;> exact ⟨by decide, by decide⟩
  · have htrim : trim ("owner==it's" ++ "?a=v") = "owner==it's?a=v" := by decide
    rw [parse_attributeIf_of_open (by decide) hopen, htrim]
  · rw [parse_classIf_of_open (by decide) (by decide) hopen]
    unfold parseCondition
    rw [String.ofList_toList, Condition.parse_trim_eq_ok_iff.mpr hmerged]
    rfl

end Directive

end ReactiveForm
