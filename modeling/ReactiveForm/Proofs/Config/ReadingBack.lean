import ReactiveForm.Config.Text
import ReactiveForm.Proofs.Config.Setting
import ReactiveForm.Proofs.Json5.Decoding
import ReactiveForm.Proofs.Json5.Layout

/-!
# `ReactiveForm.Proofs.Config.ReadingBack` — a configuration is read back from its text

A configuration is written with all its settings, each under the key that it is looked for, so that
nothing of it is left to a default. What decides whether its text can be read are the two class names,
the only settings that a separator can stand in.

## Contents
- `Config.decode_reads`, `Config.isReadable`, and `Config.read_text` with `Config.exists_read_text_eq_error`.
- `Config.isReadable_of_changedAll`, changes that leave a configuration readable.
-/

namespace ReactiveForm

open Json5

variable {v : Value}

theorem MarkerClasses.decode_reads {c : MarkerClasses}
    (h : Reads v (.object [("hidden", .string c.hidden), ("disabled", .string c.disabled)])) :
    decode v = .ok c := by
  obtain ⟨r, k, k', x, y, rfl, hx, hy⟩ := h.two
  unfold decode Value.asRecord
  simp only
  rw [Value.decodeMembers_cons _ rfl rfl (by simp only [hx.asText]; rfl),
    Value.decodeMembers_cons _ rfl rfl (by simp only [hy.asText]; rfl)]
  rfl

theorem EvaluationSettings.decode_reads {c : EvaluationSettings}
    (h : Reads v (.object [("precedence", .string c.precedence.name),
      ("unknown_input", .string c.unknownInput.name)])) : decode v = .ok c := by
  obtain ⟨r, k, k', x, y, rfl, hx, hy⟩ := h.two
  unfold decode Value.asRecord
  simp only
  rw [Value.decodeMembers_cons _ rfl rfl
      (by simp only [hx.asVariant (Precedence.lookup_name c.precedence)]; rfl),
    Value.decodeMembers_cons _ rfl rfl
      (by simp only [hy.asVariant (UnknownInputPolicy.lookup_name c.unknownInput)]; rfl)]
  rfl

theorem Capabilities.decode_reads {c : Capabilities}
    (h : Reads v (.object [("switch", .bool c.switches), ("quoted_classnames", .bool c.quotedClassLists)])) :
    decode v = .ok c := by
  obtain ⟨r, k, k', x, y, rfl, hx, hy⟩ := h.two
  unfold decode Value.asRecord
  simp only
  rw [Value.decodeMembers_cons _ rfl rfl (by simp only [hx.asBool]; rfl),
    Value.decodeMembers_cons _ rfl rfl (by simp only [hy.asBool]; rfl)]
  rfl

namespace Config

/-- **A written configuration is decoded as it was.** -/
theorem decode_reads {c : Config} (h : Reads v c.json) : decode v = .ok c := by
  cases h with
  | object r all =>
    obtain ⟨_, _, ⟨k, _, hclasses⟩, htwo, rfl⟩ := List.forall₂_cons_right_iff.mp all
    obtain ⟨_, _, ⟨k', _, hevaluation⟩, hone, rfl⟩ := List.forall₂_cons_right_iff.mp htwo
    obtain ⟨_, _, ⟨k'', _, hcapabilities⟩, hnil, rfl⟩ := List.forall₂_cons_right_iff.mp hone
    obtain rfl := List.forall₂_nil_right_iff.mp hnil
    unfold decode Value.asRecord
    simp only
    rw [Value.decodeMembers_cons _ rfl rfl
        (by simp only [MarkerClasses.decode_reads hclasses]; rfl),
      Value.decodeMembers_cons _ rfl rfl
        (by simp only [EvaluationSettings.decode_reads hevaluation]; rfl),
      Value.decodeMembers_cons _ rfl rfl
        (by simp only [Capabilities.decode_reads hcapabilities]; rfl)]
    rfl

/-- Whether the text of a configuration can be read: no separator stands in its class names. -/
def isReadable (c : Config) : Bool := !hasSeparator c.classes.hidden && !hasSeparator c.classes.disabled

theorem texts_json (c : Config) : c.json.texts =
    ["classes", "hidden", c.classes.hidden, "disabled", c.classes.disabled, "evaluation", "precedence",
      c.evaluation.precedence.name, "unknown_input", c.evaluation.unknownInput.name, "capabilities",
      "switch", "quoted_classnames"] := rfl

theorem tokens?_text (c : Config) : tokens? c.text.toList = c.json.tokens? := Json.tokens?_pretty rfl

/-- **A configuration is read back from its text if the text can be read.** -/
theorem read_text {c : Config} (h : c.isReadable = true) : read c.text = .ok c := by
  unfold isReadable at h
  simp only [Bool.and_eq_true, Bool.not_eq_true'] at h
  have hprecedence : hasSeparator c.evaluation.precedence.name = false := by
    cases c.evaluation.precedence <;> decide
  have hpolicy : hasSeparator c.evaluation.unknownInput.name = false := by
    cases c.evaluation.unknownInput <;> decide
  refine read_eq_ok (fun _ => decode_reads) c.tokens?_text ?_
  rw [texts_json]
  simp only [List.forall_mem_cons]
  exact ⟨by decide, by decide, h.1, by decide, h.2, by decide, by decide, hprecedence, by decide, hpolicy,
    by decide, by decide, by decide, nofun⟩

/-- **A text with a separator in a class name is no JSON5.** -/
theorem exists_read_text_eq_error {c : Config} (h : c.isReadable = false) :
    ∃ place, read c.text = .error (.syntaxError place) := by
  unfold isReadable at h
  rw [Bool.and_eq_false_iff, Bool.not_eq_false', Bool.not_eq_false'] at h
  rcases h with h | h
  · exact exists_read_eq_error c.tokens?_text (by simp [texts_json]) h
  · exact exists_read_eq_error c.tokens?_text (by simp [texts_json]) h

/-! ## Changes -/

/-- A configuration is readable if and only if no separator stands in the name of a class. -/
theorem isReadable_iff_value {c : Config} : c.isReadable = true ↔
    ∀ (s : Setting) (name : String), c.value s = .className name → hasSeparator name = false := by
  unfold isReadable
  rw [Bool.and_eq_true, Bool.not_eq_true', Bool.not_eq_true']
  constructor
  · rintro ⟨hhidden, hdisabled⟩ s name hname
    cases s with
    | hiddenClass => exact SettingValue.className.inj hname ▸ hhidden
    | disabledClass => exact SettingValue.className.inj hname ▸ hdisabled
    | precedence | unknownInput | switches | quotedClassLists => cases hname
  · exact fun h => ⟨h .hiddenClass _ rfl, h .disabledClass _ rfl⟩

/-- A class name that a text without separators stands for has none. -/
theorem hasSeparator_of_interpret {s : Setting} {text name : String} (h : s.interpret text = .ok (.className name))
    (htext : hasSeparator text = false) : hasSeparator name = false := by
  have htrim : hasSeparator (Text.trim text) = false := by
    unfold hasSeparator at htext ⊢
    rw [Text.toList_trim]
    rw [List.any_eq_false] at htext ⊢
    exact fun c hc => htext c (Text.mem_of_mem_trimChars hc)
  cases s with
  | hiddenClass | disabledClass =>
    obtain rfl := SettingValue.className.inj (Except.ok.inj h)
    exact htrim
  | precedence | unknownInput | switches | quotedClassLists =>
    obtain ⟨_, -, hname⟩ := map_eq_ok_iff.mp h
    cases hname

/-- **A configuration that is readable stays so** when no text with a separator is given to a setting. -/
theorem isReadable_of_changedAll {changes : List (String × String)} {c c' : Config}
    (h : ChangedAll changes c c') (hc : c.isReadable = true)
    (hclean : ∀ change ∈ changes, hasSeparator change.2 = false) : c'.isReadable = true := by
  rw [isReadable_iff_value] at hc ⊢
  intro s name hname
  obtain ⟨hgiven, hkept⟩ := h s
  cases hlast : s.lastGiven? changes with
  | none => exact hc s name (hkept hlast ▸ hname)
  | some text =>
    obtain ⟨key, hmem⟩ := Setting.exists_mem_of_lastGiven? hlast
    exact hasSeparator_of_interpret (hname ▸ hgiven text hlast) (hclean _ hmem)

end Config

end ReactiveForm
