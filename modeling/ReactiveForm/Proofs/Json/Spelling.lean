import ReactiveForm.Proofs.Json5.Layout

/-!
# `ReactiveForm.Proofs.Json.Spelling` — how JSON is spelled

What a value looks like on one line is told here once more, by a grammar that does not mention how it is
written: every kind of value has its spelling, made of those of its parts without blanks between them. The
grammar leaves no choice, and what is written of a value is the spelling that it has.

## Contents
- `EscapedAs` and `Quoted`, how a character and a string are spelled, with `escapedAs_iff` and `quoted_iff`.
- `Spelled` and `MemberSpelled`, how a value and a member of an object are spelled.
- `spelled_iff`: **a value has one spelling, and it is what is written**.
-/

namespace ReactiveForm

namespace Json

/-! ## Strings -/

/-- **How a character stands in a string:** a quote, a backslash and five of the control characters as two
characters, the other control characters as their number in four digits, and everything else as it is. -/
inductive EscapedAs : Char → List Char → Prop
  | quote : EscapedAs '"' ['\\', '"']
  | backslash : EscapedAs '\\' ['\\', '\\']
  | lineFeed : EscapedAs '\n' ['\\', 'n']
  | carriageReturn : EscapedAs '\r' ['\\', 'r']
  | tab : EscapedAs '\t' ['\\', 't']
  | backspace : EscapedAs '\x08' ['\\', 'b']
  | formFeed : EscapedAs '\x0c' ['\\', 'f']
  | control {c : Char} (low : c.toNat < 0x20) (unnamed : c ∉ ['\n', '\r', '\t', '\x08', '\x0c']) :
      EscapedAs c ['\\', 'u', '0', '0', (c.toNat / 16).digitChar, (c.toNat % 16).digitChar]
  | plain {c : Char} (quote : c ≠ '"') (backslash : c ≠ '\\') (high : 0x20 ≤ c.toNat) : EscapedAs c [c]

/-- **How a string is spelled:** between two quotes, character by character. -/
inductive Quoted : String → List Char → Prop
  | mk {s : String} {parts : List (List Char)} (each : List.Forall₂ EscapedAs s.toList parts) :
      Quoted s ('"' :: parts.flatten ++ ['"'])

variable {c : Char} {text : List Char}

theorem toNat_ne {n : Nat} (h : c ≠ Char.ofNat n) : c.toNat ≠ n := fun hn => h (Json5.eq_ofNat_of_toNat hn)

/-- What the grammar allows is what is written. -/
theorem EscapedAs.eq_escapeChar (h : EscapedAs c text) : text = escapeChar c := by
  cases h with
  | control low unnamed =>
    simp only [List.mem_cons, List.not_mem_nil, or_false, not_or] at unnamed
    obtain ⟨hn, hr, ht, hb, hf⟩ := unnamed
    have hquote : c ≠ '"' := by rintro rfl; exact absurd low (by decide)
    have hslash : c ≠ '\\' := by rintro rfl; exact absurd low (by decide)
    unfold escapeChar controlDigits
    rw [if_neg hquote, if_neg hslash, if_neg hn, if_neg hr, if_neg ht, if_neg (toNat_ne hb),
      if_neg (toNat_ne hf), if_pos low]
    rfl
  | plain quote backslash high =>
    -- a character that stands as it is comes after all control characters
    have hlow : ∀ d : Char, d.toNat < 0x20 → c ≠ d := by rintro d hd rfl; omega
    unfold escapeChar
    rw [if_neg quote, if_neg backslash, if_neg (hlow _ (by decide)), if_neg (hlow _ (by decide)),
      if_neg (hlow _ (by decide)), if_neg (by omega), if_neg (by omega), if_neg (by omega)]
  | _ => rfl

/-- What is written is allowed by the grammar. -/
theorem escapedAs_escapeChar (c : Char) : EscapedAs c (escapeChar c) := by
  unfold escapeChar
  split
  · next hc => exact hc ▸ .quote
  split
  · next hc => exact hc ▸ .backslash
  split
  · next hc => exact hc ▸ .lineFeed
  split
  · next hc => exact hc ▸ .carriageReturn
  split
  · next hc => exact hc ▸ .tab
  split
  · next hc => exact Json5.eq_ofNat_of_toNat hc ▸ .backspace
  split
  · next hc => exact Json5.eq_ofNat_of_toNat hc ▸ .formFeed
  rename_i hquote hslash hn hr ht hb hf
  split
  · next hlow =>
    refine .control hlow ?_
    have hb : c ≠ '\x08' := by rintro rfl; exact hb rfl
    have hf : c ≠ '\x0c' := by rintro rfl; exact hf rfl
    simp only [List.mem_cons, List.not_mem_nil, or_false, not_or]
    exact ⟨hn, hr, ht, hb, hf⟩
  · next hlow => exact .plain hquote hslash (Nat.le_of_not_lt hlow)

theorem escapedAs_iff : EscapedAs c text ↔ text = escapeChar c := by
  refine ⟨EscapedAs.eq_escapeChar, ?_⟩
  rintro rfl
  exact escapedAs_escapeChar c

/-- Where every member of a list has one counterpart, the list has one. -/
theorem forall₂_iff_eq_map {α β : Type} {R : α → β → Prop} {f : α → β} {xs : List α} {ys : List β}
    (h : ∀ x ∈ xs, ∀ y, R x y ↔ y = f x) : List.Forall₂ R xs ys ↔ ys = xs.map f := by
  induction xs generalizing ys with
  | nil => exact List.forall₂_nil_left_iff
  | cons x xs ih =>
    obtain ⟨hx, hxs⟩ := List.forall_mem_cons.mp h
    rw [List.forall₂_cons_left_iff, List.map_cons]
    constructor
    · rintro ⟨y, ys, hy, hys, rfl⟩
      rw [(hx y).mp hy, (ih hxs).mp hys]
    · rintro rfl
      exact ⟨_, _, (hx _).mpr rfl, (ih hxs).mpr rfl, rfl⟩

theorem quoted_iff {s : String} : Quoted s text ↔ text = quote s := by
  have hparts : ∀ {parts : List (List Char)}, List.Forall₂ EscapedAs s.toList parts ↔
      parts = s.toList.map escapeChar := forall₂_iff_eq_map fun _ _ _ => escapedAs_iff
  constructor
  · rintro ⟨each⟩
    rw [hparts.mp each]
    rfl
  · rintro rfl
    exact .mk (hparts.mpr rfl)

/-! ## Values -/

mutual

/-- **How a value is spelled on one line.** Items and members have commas between them. -/
inductive Spelled : Json → List Char → Prop
  | null : Spelled .null "null".toList
  | true : Spelled (.bool true) "true".toList
  | false : Spelled (.bool false) "false".toList
  | number (n : Int) : Spelled (.number n) (toString n).toList
  | string {s : String} {text : List Char} (quoted : Quoted s text) : Spelled (.string s) text
  | array {items : List Json} {texts : List (List Char)} (each : List.Forall₂ Spelled items texts) :
      Spelled (.array items) ('[' :: [','].intercalate texts ++ [']'])
  | object {members : List (String × Json)} {texts : List (List Char)}
      (each : List.Forall₂ MemberSpelled members texts) :
      Spelled (.object members) ('\x7b' :: [','].intercalate texts ++ ['\x7d'])

/-- How a member of an object is spelled: its name, a colon and its value. -/
inductive MemberSpelled : String × Json → List Char → Prop
  | mk {name : String} {value : Json} {key text : List Char} (named : Quoted name key)
      (holds : Spelled value text) : MemberSpelled (name, value) (key ++ ':' :: text)

end

/-- Commas without gaps. -/
theorem spread_nil (parts : List (List Char)) : Json5.spread [] parts = [','].intercalate parts := by
  induction parts with
  | nil => rfl
  | cons part parts ih =>
    cases parts with
    | nil => simp [Json5.spread]
    | cons next parts => simp [Json5.spread, ih]

/-- **A value has one spelling,** and it is what is written. -/
theorem spelled_iff {j : Json} : j.Spelled text ↔ text = j.compactChars := by
  induction j using Json.induct generalizing text with
  | null =>
    constructor
    · rintro ⟨⟩
      rfl
    · rintro rfl
      exact .null
  | bool b =>
    constructor
    · rintro ⟨⟩ <;> rfl
    · rintro rfl
      cases b with
      | true => exact .true
      | false => exact .false
  | number n =>
    constructor
    · rintro ⟨⟩
      rfl
    · rintro rfl
      exact .number n
  | string s =>
    constructor
    · rintro ⟨⟩
      rename_i quoted
      exact quoted_iff.mp quoted
    · rintro rfl
      exact .string (quoted_iff.mpr rfl)
  | array items ih =>
    have heach : ∀ {texts : List (List Char)}, List.Forall₂ Spelled items texts ↔
        texts = items.map compactChars := forall₂_iff_eq_map fun item hmem _ => ih item hmem
    rw [compactChars, compactItems_eq, spread_nil]
    constructor
    · rintro ⟨⟩
      rename_i each
      rw [heach.mp each]
    · rintro rfl
      exact .array (heach.mpr rfl)
  | object members ih =>
    have hmember : ∀ member ∈ members, ∀ text, MemberSpelled member text ↔ text = compactMember member := by
      rintro ⟨name, value⟩ hmem text
      constructor
      · rintro ⟨named, holds⟩
        rw [quoted_iff.mp named, (ih _ hmem).mp holds]
        rfl
      · rintro rfl
        exact .mk (quoted_iff.mpr rfl) ((ih _ hmem).mpr rfl)
    have heach : ∀ {texts : List (List Char)}, List.Forall₂ MemberSpelled members texts ↔
        texts = members.map compactMember := forall₂_iff_eq_map hmember
    rw [compactChars, compactMembers_eq, spread_nil]
    constructor
    · rintro ⟨⟩
      rename_i each
      rw [heach.mp each]
    · rintro rfl
      exact .object (heach.mpr rfl)

end Json

end ReactiveForm
