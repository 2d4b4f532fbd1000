import ReactiveForm.Proofs.Binding.Outcome
import ReactiveForm.Proofs.Condition.Suggestion
import ReactiveForm.Proofs.Condition.Truth
import ReactiveForm.Proofs.Document.Entry

/-!
# `ReactiveForm.Proofs.Binding.Coherence` — what a source suggests, it has

A source of values is asked in two ways: for the value of a name, and for all its names. A document answers
the first by the first control of the name and the second by a walk through all elements with a name; two
sources on top of each other answer each question by both. Where the answers belong together, a missing input
is never said to be what was meant instead.

## Contents
- `ValueSource.Coherent`, with `coherent_ofMap`, `Document.coherent_values` and `Coherent.layered`.
- `ValueSource.Coherent.valueOf_layered`, which of two sources answers.
- `UnknownInput.Missing`, with one lemma for each place that reports a missing input.
- `ValueSource.suggestions_of_coherent`, all of it together.
-/

namespace ReactiveForm

/-! ## Coherence -/

/-- **A source whose two answers belong together:** it lists exactly the names that have a value, each
once. -/
structure ValueSource.Coherent (source : ValueSource) : Prop where
  mem_names : ∀ name, name ∈ source.names ↔ (source.valueOf name).isSome = true
  nodup : source.names.Nodup

namespace ValueSource

variable {source top bottom : ValueSource} {name : String}

theorem Coherent.valueOf_eq_none_iff (h : source.Coherent) : source.valueOf name = none ↔ name ∉ source.names := by
  rw [h.mem_names, Bool.not_eq_true, Option.isSome_eq_false_iff, Option.isNone_iff_eq_none]

/-- Given values are a source with the names of the values, in their order. -/
theorem coherent_ofMap (values : StringMap String) : (ofMap values).Coherent where
  mem_names _ := StringMap.mem_keys
  nodup := values.keys_sorted.imp fun h => fun heq => String.lt_irrefl _ (heq ▸ h)

/-! ## Layers -/

/-- One more name, unless it is known already. -/
abbrev withName (names : List String) (n : String) : List String :=
  if names.contains n then names else names ++ [n]

theorem mem_withName {names : List String} {n : String} : name ∈ withName names n ↔ name ∈ names ∨ name = n := by
  unfold withName
  split
  · next h =>
    refine ⟨.inl, fun hor => hor.elim id ?_⟩
    rintro rfl
    exact List.contains_iff_mem.mp h
  · rw [List.mem_append, List.mem_singleton]

theorem nodup_withName {names : List String} (n : String) (h : names.Nodup) : (withName names n).Nodup := by
  unfold withName
  split
  · exact h
  · next hnew =>
    refine List.nodup_append.mpr ⟨h, List.pairwise_singleton _ n, fun a ha b hb heq => hnew ?_⟩
    rw [List.contains_iff_mem, ← List.mem_singleton.mp hb, ← heq]
    exact ha

theorem mem_foldl_withName {names more : List String} :
    name ∈ more.foldl withName names ↔ name ∈ names ∨ name ∈ more := by
  induction more generalizing names with
  | nil => simp
  | cons n rest ih => rw [List.foldl_cons, ih, mem_withName, List.mem_cons, or_assoc]

theorem nodup_foldl_withName (more : List String) {names : List String} (h : names.Nodup) :
    (more.foldl withName names).Nodup := by
  induction more generalizing names with
  | nil => exact h
  | cons n rest ih => exact ih (nodup_withName n h)

/-- The names of two layers are the names of either. -/
theorem mem_names_layered : name ∈ (layered top bottom).names ↔ name ∈ top.names ∨ name ∈ bottom.names :=
  mem_foldl_withName

/-- **Layers of coherent sources are coherent.** -/
theorem Coherent.layered (htop : top.Coherent) (hbottom : bottom.Coherent) :
    (layered top bottom).Coherent where
  mem_names name := by
    rw [mem_names_layered, htop.mem_names, hbottom.mem_names]
    show _ ↔ ((top.valueOf name).or (bottom.valueOf name)).isSome = true
    rw [Option.isSome_or, Bool.or_eq_true]
  nodup := nodup_foldl_withName bottom.names htop.nodup

/-- **The upper layer answers for every name that it knows,** and the lower one for all others. -/
theorem Coherent.valueOf_layered (htop : top.Coherent) (bottom : ValueSource) (name : String) :
    (ValueSource.layered top bottom).valueOf name =
      if name ∈ top.names then top.valueOf name else bottom.valueOf name := by
  show (top.valueOf name).or (bottom.valueOf name) = _
  split
  · next h =>
    obtain ⟨value, hvalue⟩ := Option.isSome_iff_exists.mp ((htop.mem_names name).mp h)
    rw [hvalue, Option.some_or]
  · next h => rw [htop.valueOf_eq_none_iff.mpr h, Option.none_or]

end ValueSource

/-! ## Documents -/

namespace Document

variable {d : Document} {name : String}

/-- **A name is listed exactly when a control has it.** Elements that have the name and are no controls do
not count for either. -/
theorem mem_inputNames_iff : name ∈ d.inputNames ↔ d.controlsNamed name ≠ [] := by
  constructor
  · intro h
    unfold inputNames withAttribute at h
    rw [if_neg (by decide)] at h
    obtain ⟨node, hnode, hname⟩ := List.mem_filterMap.mp (List.mem_eraseDups.mp h)
    obtain ⟨hcontrol, hname⟩ := Option.ite_none_right_eq_some.mp hname
    exact List.ne_nil_of_mem (mem_controlsNamed.mpr ⟨(mem_select.mp hnode).1, hname, hcontrol⟩)
  · intro h
    obtain ⟨node, hnode⟩ := List.exists_mem_of_ne_nil _ h
    exact mem_inputNames hnode

/-- **The inputs of a document are a coherent source,** whatever its elements are. -/
theorem coherent_values (d : Document) : d.values.Coherent where
  mem_names _ := mem_inputNames_iff.trans isSome_inputSnapshot_iff.symm
  nodup := nodup_eraseDups _

end Document

/-! ## Suggestions -/

/-- **An input that is rightly reported as missing:** it has no value, and what is suggested is looked for among
the names of the source. -/
structure UnknownInput.Missing (e : UnknownInput) (source : ValueSource) : Prop where
  valueOf_name : source.valueOf e.name = none
  suggestions_eq : e.suggestions = suggest e.name source.names

namespace UnknownInput

variable {e : UnknownInput} {source : ValueSource}

theorem mem_suggestions (h : e.Missing source) {n : String} :
    n ∈ e.suggestions ↔
      n ∈ source.names ∧ editDistance e.name.toList n.toList ≤ suggestionDistance := by
  rw [h.suggestions_eq, (perm_suggest _ _).mem_iff, List.mem_filter, decide_eq_true_iff]

theorem nodup_suggestions (h : e.Missing source) (hs : source.Coherent) : e.suggestions.Nodup := by
  rw [h.suggestions_eq, (perm_suggest _ _).nodup_iff]
  exact hs.nodup.filter _

/-- **The missing name is not suggested:** all names that are suggested have a value. -/
theorem name_not_mem_suggestions (h : e.Missing source) (hs : source.Coherent) : e.name ∉ e.suggestions :=
  fun hmem => hs.valueOf_eq_none_iff.mp h.valueOf_name ((mem_suggestions h).mp hmem).1

end UnknownInput

/-! ## What is reported as missing -/

variable {source : ValueSource} {change : Option Change} {policy : UnknownInputPolicy} {e : UnknownInput}

/-- A change gives a value to one more name and takes none away. -/
theorem Context.valueOf_eq_none_of_resolve {name : String}
    (h : Context.resolve ⟨source, change, policy⟩ name = none) : source.valueOf name = none := by
  refine Option.eq_none_iff_forall_ne_some.mpr fun value hvalue => ?_
  by_cases hchange : ∃ k, change = some k ∧ k.input = name
  · obtain ⟨⟨input, new⟩, rfl, rfl⟩ := hchange
    exact Context.resolve_eq_none_iff.mp h new (.changed rfl)
  · exact Context.resolve_eq_none_iff.mp h value (.unchanged (fun k hk heq => hchange ⟨k, hk, heq⟩) hvalue)

/-- **A condition that cannot be evaluated names an input that is missing.** -/
theorem Condition.missing_of_evaluate {c : Condition} (h : c.evaluate ⟨source, change, policy⟩ = .error e) :
    e.Missing source := by
  cases policy with
  | assumeFalse =>
    have htolerated : ∃ b, c.evaluate ⟨source, change, .assumeFalse⟩ = .ok b :=
      Condition.evaluate_ok_iff.mpr (.inl rfl)
    obtain ⟨b, hb⟩ := htolerated
    cases hb.symm.trans h
  | fail =>
    have herror := error?_eq_some_iff.mpr h
    rw [c.error?_evaluate] at herror
    obtain ⟨name, hfind, rfl⟩ := Option.map_eq_some_iff.mp herror
    have hnone := List.find?_some hfind
    exact ⟨Context.valueOf_eq_none_of_resolve (Option.isNone_iff_eq_none.mp hnone), rfl⟩

theorem Condition.missing_of_evaluateText {precedence : Precedence} {text : String}
    (h : Condition.evaluateText ⟨source, change, policy⟩ precedence text = .error (.unknownInput e)) :
    e.Missing source := by
  unfold Condition.evaluateText at h
  cases hc : Condition.parse precedence text with
  | error e' =>
    rw [hc] at h
    cases h
  | ok c =>
    rw [hc] at h
    have h : (c.evaluate ⟨source, change, policy⟩).mapError EvaluationError.unknownInput = _ := h
    cases hb : c.evaluate ⟨source, change, policy⟩ with
    | ok b => cases (congrArg (Except.mapError EvaluationError.unknownInput) hb).symm.trans h
    | error e' =>
      rw [hb] at h
      obtain rfl := EvaluationError.unknownInput.inj (Except.error.inj h)
      exact missing_of_evaluate hb

namespace Directive

variable {config : Config} {d : Document} {directive : Directive} {node : NodeId}

theorem missing_of_truths (h : directive.truths config change d = .error e) : e.Missing d.values := by
  obtain ⟨before, c, after, -, -, hc⟩ := mapM_eq_error_iff.mp h
  exact Condition.missing_of_evaluate hc

theorem missing_of_echoed (h : directive.echoed config change d = .error e) : e.Missing d.values := by
  cases directive with
  | echo input =>
    unfold echoed at h
    dsimp only at h
    split at h
    · cases h
    · next hnone _ =>
      obtain rfl := Except.error.inj h
      exact ⟨Context.valueOf_eq_none_of_resolve hnone, rfl⟩
    · cases h
  | _ => cases h

theorem missing_of_outcome (h : directive.outcome config change d = .error e) : e.Missing d.values := by
  unfold outcome at h
  cases htruths : directive.truths config change d with
  | error e' =>
    rw [htruths] at h
    exact Except.error.inj h ▸ missing_of_truths htruths
  | ok truths =>
    rw [htruths] at h
    exact missing_of_echoed (map_eq_error_iff.mp h)

/-- **A directive that reports a missing input has looked for it in the document,** and has not found it. -/
theorem missing_of_effect (h : directive.effect config change d node = .error (.unknownInput e)) :
    e.Missing d.values := by
  cases ho : directive.outcome config change d with
  | error e' =>
    rw [effect_of_outcome_error ho] at h
    obtain rfl := EffectError.unknownInput.inj (Except.error.inj h)
    exact missing_of_outcome ho
  | ok o =>
    -- what has been found out can only fail to be written
    cases hcommit : o.commit d node with
    | error e' => cases (effect_of_commit_error ho hcommit).symm.trans h
    | ok d' => cases (effect_of_commit ho hcommit).symm.trans h

end Directive

/-! ## All of it together -/

/-- **Sources of values are coherent, and so are their suggestions.** Given values, the inputs of any document,
and layers of coherent sources list exactly the names that have a value, each once, and of two layers the upper
one answers for every name that it knows. Over a coherent source no error about a missing input suggests the
missing name, or any name twice, or a name without a value; this holds of a condition, of one that still has to
be read, and of every directive that looks at a document. -/
theorem ValueSource.suggestions_of_coherent :
    (∀ values : StringMap String, (ValueSource.ofMap values).Coherent) ∧
    (∀ d : Document, d.values.Coherent) ∧
    (∀ top bottom : ValueSource, top.Coherent → bottom.Coherent →
      (ValueSource.layered top bottom).Coherent ∧
      ∀ name, (ValueSource.layered top bottom).valueOf name =
        if name ∈ top.names then top.valueOf name else bottom.valueOf name) ∧
    (∀ (source : ValueSource) (change : Option Change) (policy : UnknownInputPolicy) (e : UnknownInput),
      source.Coherent →
      ((∃ c : Condition, c.evaluate ⟨source, change, policy⟩ = .error e) ∨
        ∃ precedence text,
          Condition.evaluateText ⟨source, change, policy⟩ precedence text = .error (.unknownInput e)) →
      e.name ∉ e.suggestions ∧ e.suggestions.Nodup ∧
        ∀ name ∈ e.suggestions, (source.valueOf name).isSome = true) ∧
    ∀ (directive : Directive) (config : Config) (change : Option Change) (d : Document) (node : NodeId)
      (e : UnknownInput), directive.effect config change d node = .error (.unknownInput e) →
      e.name ∉ e.suggestions ∧ e.suggestions.Nodup ∧
        ∀ name ∈ e.suggestions, (d.inputSnapshot name).isSome = true := by
  have hfit : ∀ {source : ValueSource} {e : UnknownInput}, e.Missing source → source.Coherent →
      e.name ∉ e.suggestions ∧ e.suggestions.Nodup ∧
        ∀ name ∈ e.suggestions, (source.valueOf name).isSome = true := fun h hs =>
    ⟨UnknownInput.name_not_mem_suggestions h hs, UnknownInput.nodup_suggestions h hs,
      fun name hname => (hs.mem_names name).mp ((UnknownInput.mem_suggestions h).mp hname).1⟩
  refine ⟨ValueSource.coherent_ofMap, Document.coherent_values,
    fun top bottom htop hbottom => ⟨htop.layered hbottom, htop.valueOf_layered bottom⟩, ?_,
    fun directive config change d node e h => hfit (Directive.missing_of_effect h) d.coherent_values⟩
  rintro source change policy e hs (⟨c, hc⟩ | ⟨precedence, text, h⟩)
  · exact hfit (Condition.missing_of_evaluate hc) hs
  · exact hfit (Condition.missing_of_evaluateText h) hs

/-- A given `mail`, on top of a document with an `email`. -/
def mailOverEmail : ValueSource :=
  .layered (.ofMap (.ofList [("mail", "a")]))
    (Document.ofRoot ((Element.ofTag "input").withAttribute "name" "email")).values

/-- Who looks for `emal` is told of the input of the document that lies below, but not of `emal`. -/
theorem ValueSource.suggestions_of_coherent_layers :
    ∃ e, (Condition.compare ⟨"emal", .equal, "b"⟩).evaluate ⟨mailOverEmail, none, .fail⟩ = .error e ∧
      mailOverEmail.Coherent ∧ "email" ∈ e.suggestions ∧ "emal" ∉ e.suggestions ∧ e.suggestions.Nodup := by
  obtain ⟨hmap, hdocument, hlayered, hevaluate, -⟩ := ValueSource.suggestions_of_coherent
  have hs : mailOverEmail.Coherent := (hlayered _ _ (hmap _) (hdocument _)).1
  have hnone : Context.resolve ⟨mailOverEmail, none, .fail⟩ "emal" = none := by decide
  have he : (Condition.compare ⟨"emal", .equal, "b"⟩).evaluate ⟨mailOverEmail, none, .fail⟩ =
      .error (.among "emal" mailOverEmail) := by
    show Comparison.evaluate _ _ = _
    unfold Comparison.evaluate
    rw [hnone]
  obtain ⟨hmissing, hnodup, -⟩ := hevaluate _ _ _ _ hs (.inl ⟨_, he⟩)
  refine ⟨_, he, hs, (UnknownInput.mem_suggestions (Condition.missing_of_evaluate he)).mpr ⟨?_, ?_⟩, hmissing,
    hnodup⟩
  · exact (hs.mem_names "email").mpr (by decide +kernel)
  · show editDistance "emal".toList "email".toList ≤ suggestionDistance
    decide

end ReactiveForm
