import ReactiveForm.Binding.Step
import ReactiveForm.Proofs.Except
import ReactiveForm.Proofs.Text.Trimming

/-!
# `ReactiveForm.Proofs.Binding.Spelling` — steps as texts

A step is read in two cuts: the action ends at the first colon, and in the argument of `set` the name ends at
the first equals sign. The action and the name are trimmed, and a value is left as it is. `Spelled` says which
arguments a step is read from, for all actions, so that what is written can be held against it.

## Contents
- `Names`, a text that a name is read from, with `InputValue.parse_eq_ok_iff` and `Step.nameArgument_eq_ok_iff`.
- `Step.action`, `Step.argument` and `Step.text_eq`, the two parts of what is written.
- `Step.Spelled` and `Step.parse_eq_ok_iff`: **which texts are read as a step**.
- `Step.Legible` and `Step.legible_iff_parse_text`: **which steps survive printing**.
-/

namespace ReactiveForm

open Text

/-! ## Names -/

/-- A text that a name is read from: it is the name, up to white space at its ends. -/
def Names (cs : List Char) (name : String) : Prop := trimChars cs = name.toList ∧ name ≠ ""

variable {cs : List Char} {name : String}

theorem Names.flush (h : Names cs name) : Flush name.toList := by
  obtain ⟨htrim, hne⟩ := h
  rw [← htrim]
  exact flush_trimChars fun hnil => hne (String.toList_eq_nil_iff.mp (htrim ▸ hnil))

/-- A name is read from itself exactly if there is something in it and no white space at its ends. -/
theorem names_self_iff : Names name.toList name ↔ Flush name.toList := by
  rw [flush_iff, Names, and_comm, ne_eq, ne_eq, String.toList_eq_nil_iff]

/-- Every reader of a name refuses a text that is blank and trims all others. -/
theorem readName_eq_ok_iff {ε α : Type} {e : ε} {f : String → α} {a : α} :
    (if (trimChars cs).isEmpty = true then .error e else .ok (f (String.ofList (trimChars cs)))) =
        (.ok a : Except ε α) ↔ ∃ name, Names cs name ∧ f name = a := by
  split
  · next hempty =>
    refine ⟨nofun, fun ⟨name, ⟨htrim, hne⟩, _⟩ => absurd ?_ hne⟩
    rw [htrim, List.isEmpty_iff] at hempty
    exact String.toList_eq_nil_iff.mp hempty
  · next hempty =>
    constructor
    · intro h
      refine ⟨_, ⟨String.toList_ofList.symm, fun hnil => hempty ?_⟩, Except.ok.inj h⟩
      rw [← String.toList_ofList (l := trimChars cs), hnil]
      rfl
    · rintro ⟨name, ⟨htrim, -⟩, rfl⟩
      rw [htrim, String.ofList_toList]

/-- A text gives a value to an input: the name stands before the first equals sign and the value behind it. -/
theorem InputValue.parse_eq_ok_iff {text : String} {given : InputValue} :
    InputValue.parse text = .ok given ↔
      ∃ front, text.toList = front ++ '=' :: given.value.toList ∧ '=' ∉ front ∧ Names front given.name := by
  unfold InputValue.parse
  constructor
  · intro h
    split at h
    · cases h
    · next front value hsplit =>
      obtain ⟨htext, hfront⟩ := splitFirst_eq_some_iff.mp hsplit
      obtain ⟨name, hname, rfl⟩ := (readName_eq_ok_iff (f := fun n => InputValue.mk n (String.ofList value))).mp h
      exact ⟨front, htext.trans (by rw [String.toList_ofList]), hfront, hname⟩
  · rintro ⟨front, htext, hfront, hname⟩
    rw [splitFirst_eq_some_iff.mpr ⟨htext, hfront⟩]
    refine (readName_eq_ok_iff (f := fun n => InputValue.mk n (String.ofList given.value.toList))).mpr
      ⟨_, hname, ?_⟩
    rw [String.ofList_toList]

namespace Step

theorem nameArgument_eq_ok_iff {text : String} : nameArgument text cs = .ok name ↔ Names cs name := by
  refine (readName_eq_ok_iff (f := id)).trans ⟨?_, fun h => ⟨name, h, rfl⟩⟩
  rintro ⟨other, h, rfl⟩
  exact h

/-! ## The parts of a step -/

/-- The word for what a step does. -/
def action : Step → String
  | set _ _ => "set"
  | check _ => "check"
  | uncheck _ => "uncheck"
  | click _ => "click"

/-- What is written behind the colon. -/
def argument : Step → String
  | set name value => name ++ "=" ++ value
  | check name => name
  | uncheck name => name
  | click id => id

theorem text_eq (s : Step) : s.text = s.action ++ ":" ++ s.argument := by
  cases s <;> simp [text, action, argument, String.append_assoc]

theorem colon_notMem_action (s : Step) : ':' ∉ s.action.toList := by
  cases s <;> simp [action]

/-- The actions are written as they are compared. -/
theorem lowercase_action (s : Step) : lowercase (String.ofList (trimChars s.action.toList)) = s.action := by
  have hall : ∀ a ∈ ["set", "check", "uncheck", "click"],
      lowercase (String.ofList (trimChars a.toList)) = a := by decide +kernel
  exact hall _ (by cases s <;> simp [action])

/-! ## Reading -/

/-- **The arguments that a step is read from.** -/
def Spelled : Step → List Char → Prop
  | set name value, cs => ∃ front, cs = front ++ '=' :: value.toList ∧ '=' ∉ front ∧ Names front name
  | check name, cs => Names cs name
  | uncheck name, cs => Names cs name
  | click id, cs => Names cs id

/-- **Which texts are read as a step:** those with a colon, the action of the step before the first one, in any
case and with any white space around it, and behind it an argument that the step is read from. -/
theorem parse_eq_ok_iff {text : String} {s : Step} :
    parse text = .ok s ↔
      ∃ front argument, text.toList = front ++ ':' :: argument ∧ ':' ∉ front ∧
        lowercase (String.ofList (trimChars front)) = s.action ∧ s.Spelled argument := by
  unfold parse
  constructor
  · intro h
    split at h
    · cases h
    · next front argument hsplit =>
      obtain ⟨htext, hfront⟩ := splitFirst_eq_some_iff.mp hsplit
      refine ⟨front, argument, htext, hfront, ?_⟩
      generalize lowercase (String.ofList (trimChars front)) = action at h
      dsimp only at h
      split at h
      · next haction =>
        obtain ⟨given, hgiven, h⟩ := bind_eq_ok_iff.mp h
        obtain ⟨before, hargument, hbefore, hname⟩ :=
          InputValue.parse_eq_ok_iff.mp (mapError_eq_ok_iff.mp hgiven)
        rw [← Except.ok.inj h]
        exact ⟨haction, before, String.toList_ofList.symm.trans hargument, hbefore, hname⟩
      split at h
      · next haction =>
        obtain ⟨name, hname, h⟩ := bind_eq_ok_iff.mp h
        rw [← Except.ok.inj h]
        exact ⟨haction, nameArgument_eq_ok_iff.mp hname⟩
      split at h
      · next haction =>
        obtain ⟨name, hname, h⟩ := bind_eq_ok_iff.mp h
        rw [← Except.ok.inj h]
        exact ⟨haction, nameArgument_eq_ok_iff.mp hname⟩
      split at h
      · next haction =>
        obtain ⟨name, hname, h⟩ := bind_eq_ok_iff.mp h
        rw [← Except.ok.inj h]
        exact ⟨haction, nameArgument_eq_ok_iff.mp hname⟩
      · cases h
  · rintro ⟨front, argument, htext, hfront, haction, hspelled⟩
    rw [splitFirst_eq_some_iff.mpr ⟨htext, hfront⟩]
    dsimp only
    rw [haction]
    cases s with
    | set name value =>
      obtain ⟨before, rfl, hbefore, hname⟩ := hspelled
      have hgiven : InputValue.parse (String.ofList (before ++ '=' :: value.toList)) = .ok ⟨name, value⟩ :=
        InputValue.parse_eq_ok_iff.mpr ⟨before, String.toList_ofList, hbefore, hname⟩
      exact bind_eq_ok_iff.mpr ⟨_, mapError_eq_ok_iff.mpr hgiven, rfl⟩
    | check name => exact bind_eq_ok_iff.mpr ⟨name, nameArgument_eq_ok_iff.mpr hspelled, rfl⟩
    | uncheck name => exact bind_eq_ok_iff.mpr ⟨name, nameArgument_eq_ok_iff.mpr hspelled, rfl⟩
    | click id => exact bind_eq_ok_iff.mpr ⟨id, nameArgument_eq_ok_iff.mpr hspelled, rfl⟩

/-! ## Reading what is written -/

/-- **The steps that survive printing:** the name has something in it and no white space at its ends; where a
value follows, the name holds no equals sign either. The value may be any text. -/
def Legible : Step → Prop
  | set name _ => Flush name.toList ∧ '=' ∉ name.toList
  | check name => Flush name.toList
  | uncheck name => Flush name.toList
  | click id => Flush id.toList

/-- Trimming takes nothing in, so that the names of steps that have been read are legible. -/
theorem Spelled.legible {s : Step} (h : s.Spelled cs) : s.Legible := by
  cases s with
  | set name value =>
    obtain ⟨front, -, hfront, hname⟩ := h
    exact ⟨hname.flush, fun hmem => hfront (mem_of_mem_trimChars (hname.1 ▸ hmem))⟩
  | check name => exact Names.flush h
  | uncheck name => exact Names.flush h
  | click id => exact Names.flush h

theorem Legible.spelled {s : Step} (h : s.Legible) : s.Spelled s.argument.toList := by
  cases s with
  | set name value =>
    refine ⟨name.toList, ?_, h.2, names_self_iff.mpr h.1⟩
    show (name ++ "=" ++ value).toList = _
    simp
  | check name => exact names_self_iff.mpr h
  | uncheck name => exact names_self_iff.mpr h
  | click id => exact names_self_iff.mpr h

theorem Legible.parse_text {s : Step} (h : s.Legible) : parse s.text = .ok s := by
  refine parse_eq_ok_iff.mpr ⟨_, _, ?_, s.colon_notMem_action, s.lowercase_action, h.spelled⟩
  rw [text_eq]
  simp

/-- A step that has been read, from whatever text, is legible. -/
theorem legible_of_parse {text : String} {s : Step} (h : parse text = .ok s) : s.Legible := by
  obtain ⟨front, argument, -, -, -, hspelled⟩ := parse_eq_ok_iff.mp h
  exact hspelled.legible

/-- **Steps survive printing.** What is written for a step is read as that step exactly if the step is legible;
so it is for every step that has been read, from whatever text. -/
theorem legible_iff_parse_text :
    (∀ s : Step, parse s.text = .ok s ↔ s.Legible) ∧
      ∀ text s, parse text = .ok s → parse s.text = .ok s :=
  ⟨fun _ => ⟨legible_of_parse, Legible.parse_text⟩, fun _ _ h => (legible_of_parse h).parse_text⟩

/-- White space and capitals that a step has been read with are gone from its spelling, but for those in the
value; a name may hold colons, and a value anything. -/
theorem legible_iff_parse_text_polished :
    parse " SET : a:b = c:=d " = .ok (set "a:b" " c:=d ") ∧ (set "a:b" " c:=d ").text = "set:a:b= c:=d " ∧
      parse "set:a:b= c:=d " = .ok (set "a:b" " c:=d ") := by
  have h : parse " SET : a:b = c:=d " = .ok (set "a:b" " c:=d ") := by decide +kernel
  exact ⟨h, rfl, legible_iff_parse_text.2 _ _ h⟩

end Step

end ReactiveForm
