import ReactiveForm.Proofs.Text.Section

/-!
# `ReactiveForm.Proofs.Text.Parts` — the parts of a text with quoted sections

Two scans cut a text: one at every separator outside its quoted sections, the other at the first of them only.
Both remember the quote that is open and nothing else, and no quote is open behind a cut. So all that they do
follows from where a cut is made, and this can be told without a scan: a separator cuts exactly where the text
before it is made of characters that are no quotes and of sections that are closed again.

## Contents
- `Outside`, the texts that leave no section open, and `outside_iff`.
- `splitSectionOnce_eq_some_iff`, the first cut.
- `Parts`, a text that is taken apart from the left, and `parts_splitSections`.
- `cutCount`, the separators outside all sections, and `length_splitSections`.
- `splitSections_exact`: **the parts make up the text, there is a cut at every separator outside its sections
  and at no other, and both scans agree**.
-/

namespace ReactiveForm

namespace Text

variable {sep : Char} {cs before after : List Char} {parts : List (List Char)}

/-! ## Outside of quoted sections -/

/-- **A text that leaves no quoted section open.** It is made of characters that are no quotes and of sections,
each from a quote to the next quote of the same kind. -/
inductive Outside : List Char → Prop
  | nil : Outside []
  | plain {c : Char} {rest : List Char} (hc : isQuote c = false) (h : Outside rest) : Outside (c :: rest)
  | quoted {q : Char} {inside rest : List Char} (hq : isQuote q = true) (hinside : q ∉ inside)
      (h : Outside rest) : Outside (q :: (inside ++ q :: rest))

/-- A scan is outside of all sections behind exactly these texts. The induction is on the length of the text,
since a section is taken at once. -/
theorem outside_iff : Outside cs ↔ Quoting.over none cs = none := by
  constructor
  · intro h
    induction h with
    | nil => rfl
    | plain hc _ ih =>
      rw [Quoting.over_cons, Quoting.after_none, hc]
      exact ih
    | quoted hq hinside _ ih => rwa [Quoting.over_section hq hinside]
  · intro h
    induction hlength : cs.length using Nat.strong_induction_on generalizing cs with
    | _ length ih =>
      subst hlength
      cases cs with
      | nil => exact .nil
      | cons c rest =>
        cases hc : isQuote c with
        | false =>
          rw [Quoting.over_cons, Quoting.after_none, hc] at h
          exact .plain hc (ih rest.length (Nat.lt_succ_self _) h rfl)
        | true =>
          have hclosed : c ∈ rest := by
            by_contra hopen
            rw [Quoting.over_cons, Quoting.after_none, if_pos hc, Quoting.over_some_of_notMem hopen] at h
            cases h
          obtain ⟨inside, after, rfl, hinside⟩ := List.eq_append_cons_of_mem hclosed
          rw [Quoting.over_section hc hinside] at h
          have hshorter : after.length < (c :: (inside ++ c :: after)).length := by
            simp only [List.length_cons, List.length_append]
            omega
          exact .quoted hc hinside (ih after.length hshorter h rfl)

instance (cs : List Char) : Decidable (Outside cs) := decidable_of_iff _ outside_iff.symm

/-! ## The first cut -/

theorem eq_append_of_splitSectionOnceFrom {open? : Quoting}
    (h : splitSectionOnceFrom sep open? cs = some (before, after)) :
    cs = before ++ sep :: after ∧ isQuote sep = false ∧ splitSectionOnceFrom sep open? before = none ∧
      open?.over before = none := by
  induction cs generalizing open? before with
  | nil => cases h
  | cons c cs ih =>
    rw [splitSectionOnceFrom] at h
    split at h
    · next hcut =>
      obtain ⟨rfl, hquote, rfl⟩ := separates_iff.mp hcut
      obtain ⟨rfl, rfl⟩ := Prod.mk.inj (Option.some.inj h)
      exact ⟨rfl, hquote, rfl, rfl⟩
    · next hcut =>
      obtain ⟨⟨front, _⟩, hrest, hparts⟩ := Option.map_eq_some_iff.mp h
      obtain ⟨rfl, rfl⟩ := Prod.mk.inj hparts
      obtain ⟨rfl, hquote, huncut, hover⟩ := ih hrest
      exact ⟨rfl, hquote,
        splitSectionOnceFrom_cons_eq_none_iff.mpr ⟨eq_false_of_ne_true hcut, huncut⟩, hover⟩

/-- **A text is cut first behind a text that keeps the separator to itself**, and nowhere else. -/
theorem splitSectionOnce_eq_some_iff : splitSectionOnce sep cs = some (before, after) ↔
    isQuote sep = false ∧ Seals sep before ∧ cs = before ++ sep :: after := by
  constructor
  · intro h
    obtain ⟨htext, hquote, huncut, hover⟩ := eq_append_of_splitSectionOnceFrom h
    exact ⟨hquote, ⟨huncut, hover⟩, htext⟩
  · rintro ⟨hquote, hseals, rfl⟩
    exact splitSectionOnce_append_cons hseals hquote after

/-! ## All parts -/

/-- **A text that is taken apart from the left:** a part that is cut off keeps the separator to itself, and the
last one is not cut. -/
inductive Parts (sep : Char) : List Char → List (List Char) → Prop
  | last {cs : List Char} (huncut : splitSectionOnce sep cs = none) : Parts sep cs [cs]
  | cut {before after : List Char} {parts : List (List Char)} (hquote : isQuote sep = false)
      (hseals : Seals sep before) (hrest : Parts sep after parts) :
      Parts sep (before ++ sep :: after) (before :: parts)

/-- Cutting everywhere is cutting once and cutting what follows. -/
theorem splitSections_of_cut (h : splitSectionOnce sep cs = some (before, after)) :
    splitSections sep cs = before :: splitSections sep after := by
  obtain ⟨hquote, hseals, rfl⟩ := splitSectionOnce_eq_some_iff.mp h
  exact splitSections_append_cons hseals hquote after

theorem parts_splitSections (sep : Char) (cs : List Char) : Parts sep cs (splitSections sep cs) := by
  induction hlength : cs.length using Nat.strong_induction_on generalizing cs with
  | _ length ih =>
    subst hlength
    cases hcut : splitSectionOnce sep cs with
    | none =>
      rw [splitSections_of_uncut hcut]
      exact .last hcut
    | some cut =>
      obtain ⟨before, after⟩ := cut
      rw [splitSections_of_cut hcut]
      obtain ⟨hquote, hseals, rfl⟩ := splitSectionOnce_eq_some_iff.mp hcut
      have hshorter : after.length < (before ++ sep :: after).length := by
        rw [List.length_append, List.length_cons]
        omega
      exact .cut hquote hseals (ih after.length hshorter after rfl)

namespace Parts

theorem ne_nil (h : Parts sep cs parts) : parts ≠ [] := by
  cases h with
  | last => exact List.cons_ne_nil _ _
  | cut => exact List.cons_ne_nil _ _

/-- The parts with separators between them are the text. -/
theorem intercalate_eq (h : Parts sep cs parts) : [sep].intercalate parts = cs := by
  induction h with
  | last => exact List.intercalate_singleton
  | @cut before after parts _ _ hrest ih =>
    rw [List.intercalate_cons_of_ne_nil hrest.ne_nil, ih, List.append_assoc]
    rfl

/-- No part is taken apart further. -/
theorem splitSections_eq (h : Parts sep cs parts) : ∀ part ∈ parts, splitSections sep part = [part] := by
  induction h with
  | last huncut => exact List.forall_mem_singleton.mpr (splitSections_of_uncut huncut)
  | cut _ hseals _ ih => exact List.forall_mem_cons.mpr ⟨splitSections_of_seals hseals, ih⟩

end Parts

/-- **Both scans agree:** a text is cut once exactly if it has more than one part, into the first part and the
others with separators between them. -/
theorem splitSectionOnce_eq_some_iff_parts : splitSectionOnce sep cs = some (before, after) ↔
    ∃ others, others ≠ [] ∧ splitSections sep cs = before :: others ∧ after = [sep].intercalate others := by
  cases hcut : splitSectionOnce sep cs with
  | none =>
    rw [splitSections_of_uncut hcut]
    refine iff_of_false nofun ?_
    rintro ⟨others, hne, hparts, -⟩
    exact hne (List.cons.inj hparts).2.symm
  | some cut =>
    obtain ⟨front, rest⟩ := cut
    have hrest := parts_splitSections sep rest
    rw [splitSections_of_cut hcut]
    constructor
    · intro h
      obtain ⟨rfl, rfl⟩ := Prod.mk.inj (Option.some.inj h)
      exact ⟨_, splitSections_ne_nil sep rest, rfl, hrest.intercalate_eq.symm⟩
    · rintro ⟨others, -, hparts, rfl⟩
      obtain ⟨rfl, rfl⟩ := List.cons.inj hparts
      rw [hrest.intercalate_eq]

/-! ## The number of parts -/

/-- The number of places at which a separator stands outside all quoted sections. -/
def cutCount (sep : Char) (cs : List Char) : Nat :=
  (List.range cs.length).countP fun i => cs[i]? = some sep ∧ Outside (cs.take i)

/-- A character adds a part exactly if it is a cut. -/
theorem length_splitSectionsFrom_cons (open? : Quoting) (c : Char) (cs : List Char) :
    (splitSectionsFrom sep open? (c :: cs)).2.length =
      (splitSectionsFrom sep (open?.after c) cs).2.length + if separates sep open? c then 1 else 0 := by
  rw [splitSectionsFrom]
  cases separates sep open? c <;> rfl

theorem length_splitSectionsFrom (hquote : isQuote sep = false) (open? : Quoting) (cs : List Char) :
    (splitSectionsFrom sep open? cs).2.length =
      (List.range cs.length).countP fun i => cs[i]? = some sep ∧ open?.over (cs.take i) = none := by
  induction cs generalizing open? with
  | nil => rfl
  | cons c cs ih =>
    have hfirst : separates sep open? c = decide (some c = some sep ∧ open? = none) := by
      rw [Bool.eq_iff_iff, separates_iff, decide_eq_true_iff, Option.some.injEq]
      constructor
      · rintro ⟨hopen, -, hc⟩
        exact ⟨hc, hopen⟩
      · rintro ⟨rfl, hopen⟩
        exact ⟨hopen, hquote, rfl⟩
    -- the place of the first character is counted by itself, and the others are one further on
    rw [length_splitSectionsFrom_cons, ih, hfirst, List.length_cons, List.range_succ_eq_map, List.countP_cons,
      List.countP_map]
    rfl

theorem length_splitSections (hquote : isQuote sep = false) (cs : List Char) :
    (splitSections sep cs).length = cutCount sep cs + 1 := by
  unfold splitSections cutCount
  simp only [outside_iff]
  rw [← length_splitSectionsFrom hquote none cs]
  rfl

/-! ## Exactness -/

/-- **Cutting outside quoted sections.** The parts with separators between them are the text. There is one cut
for every separator that stands outside all sections, and none of the parts is cut again. A text is cut once
exactly if it has more than one part: the first of them is one side, and the others with separators between them
are the other. -/
theorem splitSections_exact (sep : Char) (cs : List Char) :
    [sep].intercalate (splitSections sep cs) = cs ∧
      (isQuote sep = false → (splitSections sep cs).length = cutCount sep cs + 1) ∧
      (∀ part ∈ splitSections sep cs, splitSections sep part = [part]) ∧
      ∀ before after, splitSectionOnce sep cs = some (before, after) ↔
        ∃ others, others ≠ [] ∧ splitSections sep cs = before :: others ∧ after = [sep].intercalate others :=
  have hparts := parts_splitSections sep cs
  ⟨hparts.intercalate_eq, fun hquote => length_splitSections hquote cs, hparts.splitSections_eq,
    fun _ _ => splitSectionOnce_eq_some_iff_parts⟩

/-- One kind of quote inside the other, an apostrophe inside a section, and a section that is never closed. -/
theorem splitSections_exact_nested :
    isQuote ',' = false ∧ (splitSections ',' "'a,\"b':é,\"it's, \",c,'d,e".toList).length = 4 ∧
      splitSectionOnce ',' "'a,\"b':é,\"it's, \",c,'d,e".toList =
        some ("'a,\"b':é".toList, "\"it's, \",c,'d,e".toList) := by
  obtain ⟨-, hlength, -, honce⟩ := splitSections_exact ',' "'a,\"b':é,\"it's, \",c,'d,e".toList
  refine ⟨by decide, (hlength (by decide)).trans (by decide), (honce _ _).mpr ?_⟩
  exact ⟨["\"it's, \"".toList, "c".toList, "'d,e".toList], List.cons_ne_nil _ _, by decide, by decide⟩

end Text

end ReactiveForm
