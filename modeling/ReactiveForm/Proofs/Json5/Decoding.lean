import ReactiveForm.Proofs.Json5.Values

/-!
# `ReactiveForm.Proofs.Json5.Decoding` — what is written is what is decoded

A program expects a text, a truth value, a choice, a map or a record where it wrote one. It gets what it
wrote from any value that reads it, wherever that stood.

## Contents
- `Reads.asText`, `asBool`, `asOptionalText`, `asVariant` and `asTextMap`, single values and maps of texts.
- `Value.decodeMembers_cons` and `Reads.two`, the members of a record.
-/

namespace ReactiveForm

namespace Json5

variable {v : Value}

@[simp] theorem Key.text_piecesOf (r : Nat) (name : String) : (⟨r, piecesOf name⟩ : Key).text = .ok name := by
  unfold Key.text
  rw [textOf_piecesOf]
  rfl

namespace Reads

theorem asText {s : String} (h : Reads v (.string s)) : v.asText = .ok s := by
  cases h with
  | string r =>
    unfold Value.asText
    simp only [textOf_piecesOf]
    rfl

theorem asBool {b : Bool} (h : Reads v (.bool b)) : v.asBool = .ok b := by
  cases h
  rfl

theorem asOptionalText {s : String} (h : Reads v (.string s)) : v.asOptionalText = .ok (some s) := by
  have htext := h.asText
  cases h with
  | string r =>
    unfold Value.asOptionalText
    simp only [htext]
    rfl

theorem asVariant {α : Type} {variants : List (String × α)} {name : String} {choice : α}
    (hchoice : variants.lookup name = some choice) (h : Reads v (.string name)) :
    v.asVariant variants = .ok choice := by
  have htext := h.asText
  cases h with
  | string r =>
    unfold Value.asVariant
    simp only [htext]
    show Value.variantOf variants name r = _
    unfold Value.variantOf
    rw [hchoice]

/-- **A map of texts is decoded as it was**, whichever order its members are put into it. -/
theorem asTextMap {m : StringMap String}
    (h : Reads v (.object (m.entries.map fun entry => (entry.1, .string entry.2)))) :
    v.asTextMap = .ok m := by
  have hfold : ∀ (entries : List (String × String)) (found : List (Key × Value)) (m' : StringMap String),
      List.Forall₂ ReadsMember found (entries.map fun entry => (entry.1, Json.string entry.2)) →
        found.foldlM (fun m member => do return m.insert (← member.1.text) (← member.2.asText)) m' =
          (.ok (entries.foldl (fun m entry => m.insert entry.1 entry.2) m') : Decoded _) := by
    intro entries
    induction entries with
    | nil =>
      intro found m' hall
      obtain rfl := List.forall₂_nil_right_iff.mp hall
      rfl
    | cons e entries ih =>
      intro found m' hall
      obtain ⟨_, _, ⟨r, name, hvalue⟩, hrest, rfl⟩ := List.forall₂_cons_right_iff.mp hall
      rw [List.foldlM_cons, List.foldl_cons]
      simp only [Key.text_piecesOf, hvalue.asText]
      exact ih _ _ hrest
  cases h with
  | object r all =>
    exact (hfold m.entries _ .empty all).trans (congrArg Except.ok m.ofList_entries)

end Reads

/-- A member that a field claims is decoded by it, if it is the first one. -/
theorem Value.decodeMembers_cons {σ : Type} {start : Nat} {fields : List (Field σ)} {field : Field σ}
    {seen : List String} {acc acc' : σ} {r : Nat} {name : String} {value : Value}
    (rest : List (Key × Value)) (hfield : fields.find? (·.name == name) = some field)
    (hseen : seen.contains name = false) (hvalue : field.decode acc value = .ok acc') :
    decodeMembers start fields seen acc ((⟨r, piecesOf name⟩, value) :: rest) =
      decodeMembers start fields (name :: seen) acc' rest := by
  simp only [decodeMembers, Key.text_piecesOf, bind, Except.bind, hfield, hseen, hvalue]
  rfl

/-- The two members of a record with two fields. -/
theorem Reads.two {name name' : String} {a b : Json} (h : Reads v (.object [(name, a), (name', b)])) :
    ∃ r k k' x y, v = .object r [(⟨k, piecesOf name⟩, x), (⟨k', piecesOf name'⟩, y)] ∧ Reads x a ∧
      Reads y b := by
  cases h with
  | object r all =>
    cases all with
    | cons first rest =>
      cases rest with
      | cons second rest =>
        cases rest with
        | nil =>
          cases first with
          | mk k _ hx =>
            cases second with
            | mk k' _ hy => exact ⟨r, k, k', _, _, rfl, hx, hy⟩

end Json5

end ReactiveForm
