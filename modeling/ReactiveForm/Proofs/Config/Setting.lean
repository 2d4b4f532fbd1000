import ReactiveForm.Config.Set
import ReactiveForm.Proofs.Except

/-!
# `ReactiveForm.Proofs.Config.Setting` — what changing a setting changes

A configuration is the values of its settings. Setting one of them gives it the value that a text stands
for, whatever the configuration was before, and leaves all others, so that after several changes each
setting has the value that it was given last.

## Contents
- `SettingValue`, `Config.value` and `Config.ext_value`.
- `Setting.interpret`, the value that a text stands for, and `Config.set_eq_ok_iff`.
- `Config.Changed` and `Config.ChangedAll`, one change and several, with `ChangedAll.cons`.
-/

namespace ReactiveForm

/-! ## Values -/

/-- The value of a setting. -/
inductive SettingValue where
  | className (name : String)
  | precedence (precedence : Precedence)
  | policy (policy : UnknownInputPolicy)
  | flag (on : Bool)
  deriving DecidableEq, Repr

/-- The value that a configuration has for a setting. -/
def Config.value (c : Config) : Setting → SettingValue
  | .hiddenClass => .className c.classes.hidden
  | .disabledClass => .className c.classes.disabled
  | .precedence => .precedence c.evaluation.precedence
  | .unknownInput => .policy c.evaluation.unknownInput
  | .switches => .flag c.capabilities.switches
  | .quotedClassLists => .flag c.capabilities.quotedClassLists

/-- **A configuration is the values of its settings.** -/
theorem Config.ext_value {c c' : Config} (h : ∀ s, c.value s = c'.value s) : c = c' := by
  obtain ⟨⟨hidden, disabled⟩, ⟨precedence, unknownInput⟩, ⟨switches, quotedClassLists⟩⟩ := c
  obtain ⟨⟨hidden', disabled'⟩, ⟨precedence', unknownInput'⟩, ⟨switches', quotedClassLists'⟩⟩ := c'
  have hhidden := SettingValue.className.inj (h .hiddenClass)
  have hdisabled := SettingValue.className.inj (h .disabledClass)
  have hprecedence := SettingValue.precedence.inj (h .precedence)
  have hunknown := SettingValue.policy.inj (h .unknownInput)
  have hswitches := SettingValue.flag.inj (h .switches)
  have hquoted := SettingValue.flag.inj (h .quotedClassLists)
  simp_all

/-- The value that a text stands for when it is given to a setting. -/
def Setting.interpret (text : String) : Setting → Except SetFault SettingValue
  | .hiddenClass => .ok (.className (Text.trim text))
  | .disabledClass => .ok (.className (Text.trim text))
  | .precedence => (choose precedenceWords text .badPrecedence).map .precedence
  | .unknownInput => (choose unknownInputWords text .badUnknownInput).map .policy
  | .switches => (choose boolWords text .badBool).map .flag
  | .quotedClassLists => (choose boolWords text .badBool).map .flag

theorem Setting.ofKey?_eq_some_iff {key : String} {s : Setting} : ofKey? key = some s ↔ s.key = key := by
  constructor
  · intro h
    simpa using List.find?_some h
  · rintro rfl
    exact ofKey?_key s

/-! ## One change -/

namespace Config

variable {c c' c'' : Config} {key text : String}

/-- One setting has been given the value that a text stands for, and no other has changed. -/
def Changed (key text : String) (c c' : Config) : Prop :=
  ∃ s : Setting, s.key = key ∧ s.interpret text = .ok (c'.value s) ∧
    ∀ other, other ≠ s → c'.value other = c.value other

/-- **A setting that is set gets the value that the text stands for**, and no other changes. -/
theorem changed_of_set (h : c.set key text = .ok c') : Changed key text c c' := by
  unfold set at h
  split at h
  · next s hs =>
    refine ⟨s, Setting.ofKey?_eq_some_iff.mp hs, ?_⟩
    cases s with
    | hiddenClass | disabledClass =>
      obtain rfl := Except.ok.inj h
      exact ⟨rfl, fun other hne => by cases other <;> first | exact absurd rfl hne | simp only [value]⟩
    | precedence | unknownInput | switches | quotedClassLists =>
      obtain ⟨choice, hchoice, h⟩ := bind_eq_ok_iff.mp h
      obtain rfl := Except.ok.inj h
      refine ⟨?_, fun other hne => by cases other <;> first | exact absurd rfl hne | simp only [value]⟩
      unfold Setting.interpret
      rw [hchoice]
      rfl
  · cases h

/-- A text that stands for a value is accepted. -/
theorem exists_assign_of_interpret {s : Setting} {v : SettingValue} (h : s.interpret text = .ok v) :
    ∃ c', c.assign s text = .ok c' := by
  cases s with
  | hiddenClass | disabledClass => exact ⟨_, rfl⟩
  | precedence | unknownInput | switches | quotedClassLists =>
    unfold Setting.interpret at h
    unfold assign
    obtain ⟨choice, hchoice, -⟩ := map_eq_ok_iff.mp h
    simp only [hchoice]
    exact ⟨_, rfl⟩

/-- **The change that a command asks for is the only one that it makes.** -/
theorem set_eq_ok_iff : c.set key text = .ok c' ↔ Changed key text c c' := by
  refine ⟨changed_of_set, fun h => ?_⟩
  obtain ⟨s, rfl, hvalue, hothers⟩ := h
  obtain ⟨c₁, hassign⟩ := exists_assign_of_interpret (c := c) hvalue
  have hset : c.set s.key text = .ok c₁ := by
    unfold set
    simp only [Setting.ofKey?_key]
    exact hassign
  obtain ⟨s', hs', hvalue₁, hothers₁⟩ := changed_of_set hset
  obtain rfl : s' = s :=
    Option.some.inj ((Setting.ofKey?_eq_some_iff.mpr hs').symm.trans (Setting.ofKey?_key s))
  rw [hset]
  -- what is set and what has been asked for agree at each setting
  refine congrArg Except.ok (ext_value fun other => ?_)
  by_cases hother : other = s'
  · rw [hother]
    exact Except.ok.inj (hvalue₁.symm.trans hvalue)
  · rw [hothers₁ other hother, hothers other hother]

end Config

/-! ## Several changes -/

/-- The text that was given last to a setting. -/
def Setting.lastGiven? (s : Setting) (changes : List (String × String)) : Option String :=
  ((changes.filter (·.1 == s.key)).getLast?).map Prod.snd

theorem Setting.exists_mem_of_lastGiven? {s : Setting} {changes : List (String × String)} {text : String}
    (h : s.lastGiven? changes = some text) : ∃ key, (key, text) ∈ changes := by
  obtain ⟨⟨key, text'⟩, hlast, rfl⟩ := Option.map_eq_some_iff.mp h
  exact ⟨key, (List.mem_filter.mp (List.mem_of_getLast? hlast)).1⟩

theorem Setting.lastGiven?_cons (s : Setting) (key text : String) (rest : List (String × String)) :
    s.lastGiven? ((key, text) :: rest) = (s.lastGiven? rest).or (if key = s.key then some text else none) := by
  unfold lastGiven?
  rw [List.filter_cons]
  by_cases hkey : key = s.key
  · rw [if_pos (beq_iff_eq.mpr hkey), if_pos hkey, List.getLast?_cons]
    cases (rest.filter (·.1 == s.key)).getLast? <;> rfl
  · rw [if_neg (fun h => hkey (beq_iff_eq.mp h)), if_neg hkey, Option.or_none]

namespace Config

variable {c c' : Config} {key text : String}

/-- Each setting has the value of the text that it was given last, or the value that it had before. -/
def ChangedAll (changes : List (String × String)) (c c' : Config) : Prop :=
  ∀ s : Setting, (∀ text, s.lastGiven? changes = some text → s.interpret text = .ok (c'.value s)) ∧
    (s.lastGiven? changes = none → c'.value s = c.value s)

theorem ChangedAll.nil (c : Config) : ChangedAll [] c c := fun _ => ⟨nofun, fun _ => rfl⟩

/-- **What is changed first is kept unless it is changed again.** -/
theorem ChangedAll.cons {c₁ : Config} {rest : List (String × String)} (h : Changed key text c c₁)
    (hrest : ChangedAll rest c₁ c') : ChangedAll ((key, text) :: rest) c c' := by
  obtain ⟨changed, rfl, hvalue, hothers⟩ := h
  intro s
  obtain ⟨hgiven, hkept⟩ := hrest s
  rw [Setting.lastGiven?_cons]
  cases hlast : s.lastGiven? rest with
  | some later => exact ⟨fun t ht => hgiven t (hlast.trans ht), nofun⟩
  | none =>
    rw [Option.none_or, hkept hlast]
    by_cases hs : s = changed
    · subst hs
      rw [if_pos rfl]
      exact ⟨fun t ht => Option.some.inj ht ▸ hvalue, nofun⟩
    · have hkey : changed.key ≠ s.key := fun he =>
        hs (Option.some.inj ((Setting.ofKey?_key s).symm.trans (Setting.ofKey?_eq_some_iff.mpr he)))
      rw [if_neg hkey]
      exact ⟨nofun, fun _ => hothers s hs⟩

end Config

end ReactiveForm
