import ReactiveForm.Fixture.Text
import ReactiveForm.Proofs.Fixture.Building
import ReactiveForm.Proofs.Json5.Decoding
import ReactiveForm.Proofs.Json5.Layout

/-!
# `ReactiveForm.Proofs.Fixture.ReadingBack` — a fixture is read back from its text

A description is written with its tag and its attributes always, with its text if it has one, and with its
children if there are any. What is left out is what is put in for a field that is missing, so that nothing is
lost, and a text that is empty is told from one that is absent. What decides whether a fixture can be read
back are the strings in it, at any depth: a separator in one of them is written as it is, and is no character
of a string to those who read.

## Contents
- `NodeSpec.decodeMembers_tag` and its companions, one member of a node each.
- `NodeSpec.decode_reads` and `Fixture.decode_reads`, a written fixture is decoded as it was.
- `NodeSpec.strings`, and `Fixture.forall_texts_json_iff`, the strings of a fixture are those of its text.
- `Fixture.read_compact_iff`, with `read_compact` and `exists_read_compact_eq_error`.
-/

namespace ReactiveForm

open Json5

namespace NodeSpec

/-! ## Decoding -/

section Members

variable {start r : Nat} {f : Fields} {value : Value} {rest : List (Key × Value)}

theorem decodeMembers_tag {tag : String} (hfield : f.tag = none) (hvalue : value.asText = .ok tag) :
    decodeMembers start f ((⟨r, piecesOf "tag"⟩, value) :: rest) =
      decodeMembers start { f with tag := some tag } rest := by
  simp only [decodeMembers, Key.text_piecesOf, hfield, hvalue]
  rfl

theorem decodeMembers_attributes {attributes : StringMap String} (hfield : f.attributes = none)
    (hvalue : value.asTextMap = .ok attributes) :
    decodeMembers start f ((⟨r, piecesOf "attrs"⟩, value) :: rest) =
      decodeMembers start { f with attributes := some attributes } rest := by
  simp only [decodeMembers, Key.text_piecesOf, hfield, hvalue]
  rfl

theorem decodeMembers_text {text : Option String} (hfield : f.text = none)
    (hvalue : value.asOptionalText = .ok text) :
    decodeMembers start f ((⟨r, piecesOf "text"⟩, value) :: rest) =
      decodeMembers start { f with text := some text } rest := by
  simp only [decodeMembers, Key.text_piecesOf, hfield, hvalue]
  rfl

theorem decodeMembers_children {children : List NodeSpec} (hfield : f.children = none)
    (hvalue : decodeChildren value = .ok children) :
    decodeMembers start f ((⟨r, piecesOf "children"⟩, value) :: rest) =
      decodeMembers start { f with children := some children } rest := by
  simp only [decodeMembers, Key.text_piecesOf, hfield, hvalue]
  rfl

end Members

/-- The member that holds the text, if there is one. -/
def textMember : Option String → List (String × Json)
  | some text => [("text", .string text)]
  | none => []

/-- The member that holds the children, if there are any. -/
def childrenMember : List NodeSpec → List (String × Json)
  | [] => []
  | child :: rest => [("children", .array ((child :: rest).map json))]

theorem jsonAll_eq (specs : List NodeSpec) : jsonAll specs = specs.map json := by
  induction specs with
  | nil => rfl
  | cons spec specs ih => rw [jsonAll, ih, List.map_cons]

/-- The value of a description, with the members that can be left out set apart. -/
theorem json_eq (spec : NodeSpec) : spec.json =
    .object (("tag", .string spec.tag) ::
      ("attrs", .object (spec.attributes.entries.map fun (name, value) => (name, .string value))) ::
        (textMember spec.text ++ childrenMember spec.children)) := by
  obtain ⟨tag, attributes, text, children⟩ := spec
  cases text <;> cases children <;> simp only [json, jsonAll_eq] <;> rfl

/-- Descriptions are decoded one by one. -/
theorem decodeAll_reads {specs : List NodeSpec} {values : List Value}
    (hone : ∀ spec ∈ specs, ∀ v, Reads v spec.json → decode v = .ok spec)
    (h : List.Forall₂ Reads values (specs.map json)) : decodeAll values = .ok specs := by
  induction specs generalizing values with
  | nil =>
    obtain rfl := List.forall₂_nil_right_iff.mp h
    rfl
  | cons spec specs ih =>
    obtain ⟨v, values, hread, hrest, rfl⟩ := List.forall₂_cons_right_iff.mp h
    rw [decodeAll, hone spec List.mem_cons_self v hread,
      ih (fun other hmem => hone other (List.mem_cons_of_mem _ hmem)) hrest]
    rfl

/-- Decoding the member of the text changes nothing but the text. -/
theorem decodeMembers_textMember {start : Nat} {f : Fields} {text : Option String}
    {found : List (Key × Value)} (hfield : f.text = none)
    (h : List.Forall₂ ReadsMember found (textMember text)) (rest : List (Key × Value)) :
    decodeMembers start f (found ++ rest) =
      decodeMembers start { f with text := text.map some } rest := by
  cases text with
  | none =>
    obtain rfl := List.forall₂_nil_right_iff.mp h
    rw [List.nil_append]
    congr 1
    cases f
    cases hfield
    rfl
  | some text =>
    obtain ⟨_, _, ⟨r, _, hvalue⟩, hnil, rfl⟩ := List.forall₂_cons_right_iff.mp h
    obtain rfl := List.forall₂_nil_right_iff.mp hnil
    exact decodeMembers_text hfield hvalue.asOptionalText

/-- Decoding the member of the children gives them, or nothing if there are none. -/
theorem decodeMembers_childrenMember (start : Nat) {f : Fields} {children : List NodeSpec}
    {found : List (Key × Value)} (hfield : f.children = none)
    (hone : ∀ child ∈ children, ∀ v, Reads v child.json → decode v = .ok child)
    (h : List.Forall₂ ReadsMember found (childrenMember children)) :
    ∃ given : Option (List NodeSpec), given.getD [] = children ∧
      decodeMembers start f found = .ok { f with children := given } := by
  cases children with
  | nil =>
    obtain rfl := List.forall₂_nil_right_iff.mp h
    refine ⟨none, rfl, ?_⟩
    rw [decodeMembers]
    cases f
    cases hfield
    rfl
  | cons child children =>
    obtain ⟨_, _, ⟨r, _, hvalue⟩, hnil, rfl⟩ := List.forall₂_cons_right_iff.mp h
    obtain rfl := List.forall₂_nil_right_iff.mp hnil
    cases hvalue with
    | array place all =>
      refine ⟨some (child :: children), rfl, ?_⟩
      rw [decodeMembers_children hfield (by rw [decodeChildren, decodeAll_reads hone all]), decodeMembers]

/-- **A written description is decoded as it was**, by induction on what lies below it. -/
theorem decode_reads (spec : NodeSpec) : ∀ v, Reads v spec.json → decode v = .ok spec := by
  induction spec using NodeSpec.induct with
  | node spec ih =>
    intro v h
    rw [json_eq] at h
    cases h with
    | object place all =>
      obtain ⟨_, _, ⟨r, _, htag⟩, hmore, rfl⟩ := List.forall₂_cons_right_iff.mp all
      obtain ⟨_, _, ⟨r', _, hattributes⟩, hrest, rfl⟩ := List.forall₂_cons_right_iff.mp hmore
      obtain ⟨first, second, rfl, htext, hchildren⟩ : ∃ first second, _ = first ++ second ∧
          List.Forall₂ ReadsMember first (textMember spec.text) ∧
          List.Forall₂ ReadsMember second (childrenMember spec.children) :=
        ⟨_, _, (List.take_append_drop _ _).symm, List.forall₂_take_append _ _ _ hrest,
          List.forall₂_drop_append _ _ _ hrest⟩
      obtain ⟨given, hgiven, hdecoded⟩ := decodeMembers_childrenMember place
        (f := ⟨some spec.tag, some spec.attributes, spec.text.map some, none⟩) rfl ih hchildren
      rw [decode, decodeMembers_tag rfl htag.asText, decodeMembers_attributes rfl hattributes.asTextMap,
        decodeMembers_textMember rfl htext, hdecoded]
      show Except.ok (mk spec.tag spec.attributes ((spec.text.map some).getD none) (given.getD [])) = _
      have htextBack : (spec.text.map some).getD none = spec.text := by cases spec.text <;> rfl
      rw [hgiven, htextBack]
      cases spec
      rfl

/-! ## Strings -/

mutual

/-- The strings of a description and of all below it: tags, names and values of attributes, and texts. -/
def strings : NodeSpec → List String
  | mk tag attributes text children =>
    tag :: (attributes.entries.flatMap fun (name, value) => [name, value]) ++ text.toList ++
      stringsAll children

/-- The strings of some descriptions. -/
def stringsAll : List NodeSpec → List String
  | [] => []
  | spec :: rest => spec.strings ++ stringsAll rest

end

theorem stringsAll_eq (specs : List NodeSpec) : stringsAll specs = specs.flatMap strings := by
  induction specs with
  | nil => rfl
  | cons spec specs ih => rw [stringsAll, ih, List.flatMap_cons]

theorem strings_eq (spec : NodeSpec) : spec.strings =
    spec.tag :: (spec.attributes.entries.flatMap fun (name, value) => [name, value]) ++ spec.text.toList ++
      spec.children.flatMap strings := by
  obtain ⟨tag, attributes, text, children⟩ := spec
  rw [strings, stringsAll_eq]
  rfl

/-- **What holds of the names of the fields holds of all strings in a written description** if and only if
it holds of the strings of the description. -/
theorem forall_texts_json_iff {P : String → Prop} (htag : P "tag") (hattributes : P "attrs")
    (htext : P "text") (hchildren : P "children") (spec : NodeSpec) :
    (∀ s ∈ spec.json.texts, P s) ↔ ∀ s ∈ spec.strings, P s := by
  induction spec using NodeSpec.induct with
  | node spec ih =>
    have hattrs : Json.memberTexts (spec.attributes.entries.map fun (name, value) =>
        (name, Json.string value)) =
          spec.attributes.entries.flatMap fun (name, value) => [name, value] := by
      rw [Json.memberTexts_eq, List.flatMap_map]
      rfl
    have htexts : (∀ s ∈ Json.memberTexts (textMember spec.text), P s) ↔ ∀ s ∈ spec.text.toList, P s := by
      cases spec.text with
      | none => exact Iff.rfl
      | some text => simp [textMember, Json.memberTexts, Json.texts, htext]
    have hbelow : (∀ s ∈ Json.memberTexts (childrenMember spec.children), P s) ↔
        ∀ s ∈ spec.children.flatMap strings, P s := by
      cases hspecs : spec.children with
      | nil => exact Iff.rfl
      | cons child rest =>
        rw [childrenMember, Json.memberTexts, Json.texts, Json.itemTexts_eq, List.flatMap_map, ← hspecs]
        simp only [Json.memberTexts, List.append_nil, List.forall_mem_cons, hchildren, true_and,
          List.forall_mem_flatMap]
        exact forall₂_congr ih
    rw [json_eq, strings_eq, Json.texts, Json.memberTexts, Json.memberTexts, Json.texts, Json.texts, hattrs]
    simp only [Json.memberTexts_eq, List.flatMap_append] at htexts hbelow ⊢
    simp only [List.cons_append, List.nil_append, List.forall_mem_cons, List.forall_mem_append, htag,
      hattributes, htexts, hbelow, true_and, and_assoc]

/-- **No number stands in a written description.** -/
theorem hasNumber_json (spec : NodeSpec) : spec.json.hasNumber = false := by
  induction spec using NodeSpec.induct with
  | node spec ih =>
    have hattrs : (Json.object (spec.attributes.entries.map fun (name, value) =>
        (name, Json.string value))).hasNumber = false := by
      rw [Json.hasNumber, Json.anyMemberNumber_eq_false_iff]
      intro member hmem
      obtain ⟨_, _, rfl⟩ := List.mem_map.mp hmem
      rfl
    rw [json_eq, Json.hasNumber, Json.anyMemberNumber_eq_false_iff]
    simp only [List.forall_mem_cons, List.forall_mem_append]
    refine ⟨rfl, hattrs, ?_, ?_⟩
    · cases spec.text with
      | none => exact nofun
      | some text => exact List.forall_mem_singleton.mpr rfl
    · cases hspecs : spec.children with
      | nil => exact nofun
      | cons child rest =>
        refine List.forall_mem_singleton.mpr ?_
        rw [Json.hasNumber, Json.anyNumber_eq_false_iff, ← hspecs]
        intro item hmem
        obtain ⟨other, hother, rfl⟩ := List.mem_map.mp hmem
        exact ih other hother

end NodeSpec

namespace Fixture

/-- The strings of a fixture, at any depth. -/
def strings (f : Fixture) : List String := f.root.strings

/-- **A written fixture is decoded as it was.** -/
theorem decode_reads {f : Fixture} {v : Value} (h : Reads v f.json) : decode v = .ok f := by
  cases h with
  | object place all =>
    obtain ⟨_, _, ⟨r, _, hroot⟩, hnil, rfl⟩ := List.forall₂_cons_right_iff.mp all
    obtain rfl := List.forall₂_nil_right_iff.mp hnil
    unfold decode Value.asRecord
    simp only
    rw [Value.decodeMembers_cons _ rfl rfl (by simp only [NodeSpec.decode_reads _ _ hroot]; rfl)]
    rfl

/-- The strings in a written fixture without separators are those of the fixture. -/
theorem forall_texts_json_iff (f : Fixture) :
    (∀ s ∈ f.json.texts, hasSeparator s = false) ↔ ∀ s ∈ f.strings, hasSeparator s = false := by
  have hroot : hasSeparator "root" = false := by decide
  show (∀ s ∈ "root" :: f.root.json.texts ++ [], hasSeparator s = false) ↔ _
  rw [List.append_nil, List.forall_mem_cons, and_iff_right hroot]
  exact NodeSpec.forall_texts_json_iff (by decide) (by decide) (by decide) (by decide) f.root

theorem tokens?_compact (f : Fixture) : tokens? f.json.compact.toList = f.json.tokens? := by
  refine Json.tokens?_compact ?_
  show (f.root.json.hasNumber || false) = false
  rw [NodeSpec.hasNumber_json]
  rfl

theorem read_compact {f : Fixture} (h : ∀ s ∈ f.strings, hasSeparator s = false) :
    read f.json.compact = .ok f :=
  read_eq_ok (fun _ => decode_reads) f.tokens?_compact (f.forall_texts_json_iff.mpr h)

/-- **A separator in one string, however deep it stands, makes the whole text unreadable.** -/
theorem exists_read_compact_eq_error {f : Fixture} (h : ¬ ∀ s ∈ f.strings, hasSeparator s = false) :
    ∃ place, read f.json.compact = .error (.syntaxError place) := by
  rw [← forall_texts_json_iff] at h
  push Not at h
  obtain ⟨s, hs, hseparator⟩ := h
  exact exists_read_eq_error f.tokens?_compact hs (eq_true_of_ne_false hseparator)

/-- **A fixture is read back from its text as it was if and only if no string of it has a separator.**
Otherwise the text is no JSON5 at all: it is never read as another fixture. -/
theorem read_compact_iff (f : Fixture) :
    (read f.json.compact = .ok f ↔ ∀ s ∈ f.strings, hasSeparator s = false) ∧
      ((∃ s ∈ f.strings, hasSeparator s = true) →
        ∃ place, read f.json.compact = .error (.syntaxError place)) := by
  constructor
  · refine ⟨fun hread => ?_, read_compact⟩
    by_contra hstrings
    obtain ⟨place, herror⟩ := exists_read_compact_eq_error hstrings
    rw [herror] at hread
    cases hread
  · rintro ⟨s, hs, hseparator⟩
    refine exists_read_compact_eq_error fun hstrings => ?_
    rw [hstrings s hs] at hseparator
    cases hseparator

end Fixture

end ReactiveForm
