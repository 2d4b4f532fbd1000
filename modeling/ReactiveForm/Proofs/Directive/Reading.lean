import ReactiveForm.Directive.Parser
import ReactiveForm.Document.Basic
import ReactiveForm.Proofs.Except

/-!
# `ReactiveForm.Proofs.Directive.Reading` — what a directive that has been read can be relied on for

A directive is read once, when a document is indexed, and applied many times. Two things settled by
reading are never checked again: the directive is of the kind whose attribute was read, and the classes
that it names are class names. Without the second a list of classes could be half written.

## Contents
- `Text.words_spec`, the words of a text are not empty and hold no white space.
- `Directive.kind_of_parse` and `Directive.isClassName_of_parse`.
-/

namespace ReactiveForm

/-! ## Words -/

theorem Text.words_spec {cs w : List Char} (h : w ∈ words cs) :
    w ≠ [] ∧ ∀ c ∈ w, isBlank c = false := by
  induction cs generalizing w with
  | nil =>
    rw [words_nil] at h
    cases h
  | cons c rest ih =>
    rw [words_cons] at h
    split at h
    · exact ih h
    · next hc =>
      have hc : isBlank c = false := eq_false_of_ne_true hc
      have hsingle : [c] ≠ [] ∧ ∀ x ∈ [c], isBlank x = false :=
        ⟨List.cons_ne_nil _ _, fun x hx => (List.mem_singleton.mp hx).symm ▸ hc⟩
      split at h
      · next d tail first others hws =>
        split at h
        · rcases List.mem_cons.mp h with rfl | h
          · exact hsingle
          · exact ih (hws ▸ h)
        · rcases List.mem_cons.mp h with rfl | h
          · refine ⟨List.cons_ne_nil _ _, fun x hx => ?_⟩
            rcases List.mem_cons.mp hx with rfl | hx
            · exact hc
            · exact (ih (hws ▸ List.mem_cons_self)).2 x hx
          · exact ih (hws ▸ List.mem_cons_of_mem _ h)
      · rcases List.mem_cons.mp h with rfl | h
        · exact hsingle
        · exact ih h

/-- A word is a class name. -/
theorem Document.isClassName_of_mem_words {cs w : List Char} (h : w ∈ Text.words cs) :
    isClassName (String.ofList w) = true := by
  obtain ⟨hne, hblank⟩ := Text.words_spec h
  have hempty : (String.ofList w).isEmpty = false := by
    rw [← Bool.not_eq_true, String.isEmpty_iff]
    intro he
    exact hne (by simpa using congrArg String.toList he)
  have hany : Text.hasBlank (String.ofList w) = false := by
    unfold Text.hasBlank
    rw [String.toList_ofList, List.any_eq_false]
    intro c hc
    rw [hblank c hc]
    exact Bool.false_ne_true
  unfold isClassName
  rw [hempty, hany]
  rfl

/-! ## Directives -/

namespace Directive

variable {options : DirectiveOptions}

theorem isClassName_of_parseClassRule {value : String} {pair : List Char} {rule : ClassRule}
    (h : parseClassRule options value pair = .ok rule) :
    ∀ c ∈ rule.classes, Document.isClassName c = true := by
  unfold parseClassRule at h
  split at h
  · cases h
  · next list condition _ =>
    generalize (if options.quotedClassLists = true then Text.stripChars list
      else Text.trimChars list) = stripped at h
    simp only at h
    split at h
    · cases h
    · obtain ⟨parsed, -, h⟩ := bind_eq_ok_iff.mp h
      rw [← Except.ok.inj h]
      intro c hmem
      obtain ⟨w, hw, rfl⟩ := List.mem_map.mp hmem
      exact Document.isClassName_of_mem_words hw

theorem isClassName_of_parseClassRules {value : String} {rules : List ClassRule}
    (h : parseClassRules options value = .ok rules) :
    ∀ rule ∈ rules, ∀ c ∈ rule.classes, Document.isClassName c = true := by
  unfold parseClassRules at h
  obtain ⟨parsed, hparsed, h⟩ := bind_eq_ok_iff.mp h
  have hrules : parsed = rules := by
    cases parsed with
    | nil => cases h
    | cons first rest => exact Except.ok.inj h
  subst hrules
  exact forall_mem_of_mapM_eq_ok (fun _ _ _ hrule => isClassName_of_parseClassRule hrule) hparsed

/-- An attribute with nothing in it is no directive. -/
theorem isEmpty_trim_of_parse {kind : DirectiveKind} {raw : String} {directive : Directive}
    (h : parse options kind raw = .ok directive) : (Text.trim raw).isEmpty = false := by
  refine eq_false_of_ne_true fun hempty => ?_
  unfold parse at h
  simp only [hempty, if_true] at h
  cases h

/-- **A directive is of the kind that was read.** -/
theorem kind_of_parse {kind : DirectiveKind} {raw : String} {directive : Directive}
    (h : parse options kind raw = .ok directive) : directive.kind = kind := by
  have hempty := isEmpty_trim_of_parse h
  unfold parse at h
  simp only [hempty] at h
  rw [if_neg Bool.false_ne_true] at h
  cases kind with
  | showIf | hideIf | disableIf | classIf | attributeIf =>
    obtain ⟨_, -, h⟩ := bind_eq_ok_iff.mp h
    rw [← Except.ok.inj h]
    rfl
  | echo | switch =>
    rw [← Except.ok.inj h]
    rfl

/-- **A directive names classes that can be added and removed.** -/
theorem isClassName_of_parse {kind : DirectiveKind} {raw : String} {rules : List ClassRule}
    (h : parse options kind raw = .ok (.classIf rules)) :
    ∀ rule ∈ rules, ∀ c ∈ rule.classes, Document.isClassName c = true := by
  have hkind : DirectiveKind.classIf = kind := kind_of_parse h
  subst hkind
  have hempty := isEmpty_trim_of_parse h
  unfold parse at h
  simp only [hempty] at h
  rw [if_neg Bool.false_ne_true] at h
  obtain ⟨rules', hrules, h⟩ := bind_eq_ok_iff.mp h
  rw [← Directive.classIf.inj (Except.ok.inj h)]
  exact isClassName_of_parseClassRules hrules

end Directive

end ReactiveForm
