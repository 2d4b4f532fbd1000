import ReactiveForm.Proofs.Text.Trimming
import ReactiveForm.Text.Section

/-!
# `ReactiveForm.Proofs.Text.Section` — cutting texts with quoted sections

A separator inside a quoted section is ordinary text. Whether one that follows a text is seen depends on two
things: that the text has none itself outside its sections, and that it leaves no section open.

## Contents
- `Quoting.over`, what is open after a text, and `ClosesQuotes`; `Quoting.over_section`, a section and what
  follows it.
- `splitSectionOnceFrom_append` and `splitSectionsFrom_append`, cutting after a text that is not cut.
- `Seals`, texts that keep a separator to themselves, with `splitSectionOnce_append_cons` and
  `map_trimChars_splitSections`: **parts with separators between them are found again**.
-/

namespace ReactiveForm

namespace Text

/-! ## Cutting after a text that is not cut -/

/-- What is open after some characters. -/
def Quoting.over (open? : Quoting) (cs : List Char) : Quoting := cs.foldl Quoting.after open?

/-- No quoted section of a text is left open. -/
def ClosesQuotes (s : String) : Prop := Quoting.over none s.toList = none

instance (s : String) : Decidable (ClosesQuotes s) := inferInstanceAs (Decidable (_ = _))

variable {sep : Char} {cs : List Char}

@[simp] theorem Quoting.over_nil (open? : Quoting) : open?.over [] = open? := rfl

@[simp] theorem Quoting.over_cons (open? : Quoting) (c : Char) (cs : List Char) :
    open?.over (c :: cs) = (open?.after c).over cs := rfl

theorem Quoting.after_none (c : Char) : Quoting.after none c = if isQuote c then some c else none := rfl

theorem Quoting.after_some (q c : Char) : Quoting.after (some q) c = if c = q then none else some q := rfl

/-- What is open is a quote. -/
theorem Quoting.isQuote_of_over {q : Char} (h : Quoting.over none cs = some q) : isQuote q = true := by
  have hstep : ∀ (cs : List Char) (open? : Quoting), (∀ r, open? = some r → isQuote r = true) →
      ∀ r, open?.over cs = some r → isQuote r = true := by
    intro cs
    induction cs with
    | nil => exact fun _ h => h
    | cons c cs ih =>
      intro open? hopen
      refine ih (open?.after c) fun r hr => ?_
      cases open? with
      | none =>
        rw [Quoting.after_none] at hr
        split at hr
        · next hc => exact Option.some.inj hr ▸ hc
        · cases hr
      | some o =>
        rw [Quoting.after_some] at hr
        split at hr
        · cases hr
        · exact hopen r hr
  exact hstep cs none nofun q h

/-- A section stays open before its quote. -/
theorem Quoting.over_some_of_notMem {q : Char} (h : q ∉ cs) : Quoting.over (some q) cs = some q := by
  induction cs with
  | nil => rfl
  | cons c cs ih =>
    obtain ⟨hc, hcs⟩ := List.ne_and_not_mem_of_not_mem_cons h
    rw [Quoting.over_cons, Quoting.after_some, if_neg hc.symm, ih hcs]

theorem Quoting.over_append (open? : Quoting) (cs ds : List Char) :
    open?.over (cs ++ ds) = (open?.over cs).over ds := List.foldl_append

/-- Behind a section a scan goes on as if it began there. -/
theorem Quoting.over_section {q : Char} (hq : isQuote q = true) {inside : List Char} (hinside : q ∉ inside)
    (rest : List Char) : Quoting.over none (q :: (inside ++ q :: rest)) = Quoting.over none rest := by
  rw [Quoting.over_cons, Quoting.after_none, if_pos hq, Quoting.over_append,
    Quoting.over_some_of_notMem hinside, Quoting.over_cons, Quoting.after_some, if_pos rfl]

/-- White space in front opens nothing. -/
theorem Quoting.over_trimStart (cs : List Char) : Quoting.over none (trimStart cs) = Quoting.over none cs := by
  induction cs with
  | nil => rfl
  | cons c cs ih =>
    by_cases hc : isBlank c = true
    · have hafter : Quoting.after none c = none := by
        rw [Quoting.after_none, isQuote_of_isBlank hc]
        rfl
      unfold trimStart at ih ⊢
      rw [List.dropWhile_cons_of_pos hc, ih, Quoting.over_cons, hafter]
    · unfold trimStart
      rw [List.dropWhile_cons_of_neg hc]

theorem separates_iff {open? : Quoting} {c : Char} :
    separates sep open? c = true ↔ open? = none ∧ isQuote c = false ∧ c = sep := by
  unfold separates
  rw [Bool.and_eq_true, Bool.and_eq_true, Option.isNone_iff_eq_none, Bool.not_eq_true', beq_iff_eq, and_assoc]

/-- A character other than the separator is no cut. -/
theorem separates_of_ne {c : Char} (h : c ≠ sep) (open? : Quoting) : separates sep open? c = false := by
  unfold separates
  rw [beq_eq_false_iff_ne.mpr h, Bool.and_false]

theorem splitSectionOnceFrom_of_notMem (h : sep ∉ cs) (open? : Quoting) :
    splitSectionOnceFrom sep open? cs = none := by
  induction cs generalizing open? with
  | nil => rfl
  | cons c cs ih =>
    obtain ⟨hc, hcs⟩ : sep ≠ c ∧ sep ∉ cs := by simpa using h
    rw [splitSectionOnceFrom, separates_of_ne hc.symm, ih hcs]
    rfl

/-- What a text that is not cut begins with is no cut, and the rest of it is not cut either. -/
theorem splitSectionOnceFrom_cons_eq_none_iff {open? : Quoting} {c : Char} :
    splitSectionOnceFrom sep open? (c :: cs) = none ↔
      separates sep open? c = false ∧ splitSectionOnceFrom sep (open?.after c) cs = none := by
  rw [splitSectionOnceFrom]
  cases separates sep open? c with
  | true => exact iff_of_false nofun fun h => nomatch h.1
  | false => exact Option.map_eq_none_iff.trans ⟨fun h => ⟨rfl, h⟩, And.right⟩

/-- Nothing is cut inside an open section. -/
theorem splitSectionOnceFrom_of_open {q : Char} (h : q ∉ cs) : splitSectionOnceFrom sep (some q) cs = none := by
  induction cs with
  | nil => rfl
  | cons c cs ih =>
    obtain ⟨hc, hcs⟩ := List.ne_and_not_mem_of_not_mem_cons h
    have hafter : Quoting.after (some q) c = some q := by rw [Quoting.after_some, if_neg hc.symm]
    exact splitSectionOnceFrom_cons_eq_none_iff.mpr ⟨rfl, by rw [hafter]; exact ih hcs⟩

/-- A cut is looked for behind a text that is not cut itself. -/
theorem splitSectionOnceFrom_append {open? : Quoting} (h : splitSectionOnceFrom sep open? cs = none)
    (ds : List Char) : splitSectionOnceFrom sep open? (cs ++ ds) =
      (splitSectionOnceFrom sep (open?.over cs) ds).map fun (before, after) => (cs ++ before, after) := by
  induction cs generalizing open? with
  | nil =>
    rw [List.nil_append, Quoting.over_nil]
    exact Option.map_id'.symm
  | cons c cs ih =>
    obtain ⟨hc, hcs⟩ := splitSectionOnceFrom_cons_eq_none_iff.mp h
    rw [List.cons_append, splitSectionOnceFrom, hc, ih hcs, Quoting.over_cons, Option.map_map]
    rfl

theorem splitSectionsFrom_append {open? : Quoting} (h : splitSectionOnceFrom sep open? cs = none)
    (ds : List Char) : splitSectionsFrom sep open? (cs ++ ds) =
      (cs ++ (splitSectionsFrom sep (open?.over cs) ds).1, (splitSectionsFrom sep (open?.over cs) ds).2) := by
  induction cs generalizing open? with
  | nil => rfl
  | cons c cs ih =>
    obtain ⟨hc, hcs⟩ := splitSectionOnceFrom_cons_eq_none_iff.mp h
    rw [List.cons_append, splitSectionsFrom, hc, ih hcs, Quoting.over_cons]
    rfl

theorem splitSectionsFrom_of_uncut {open? : Quoting} (h : splitSectionOnceFrom sep open? cs = none) :
    splitSectionsFrom sep open? cs = (cs, []) := by
  have happend := splitSectionsFrom_append h []
  rw [List.append_nil] at happend
  rw [happend]
  exact Prod.ext (List.append_nil _) rfl

/-! ## Texts that keep a separator to themselves -/

/-- **A text that keeps a separator to itself:** it is not cut, and no quoted section of it is left open, so
that a separator behind it is seen. -/
structure Seals (sep : Char) (cs : List Char) : Prop where
  uncut : splitSectionOnce sep cs = none
  closes : Quoting.over none cs = none

instance (sep : Char) (cs : List Char) : Decidable (Seals sep cs) :=
  decidable_of_iff (splitSectionOnce sep cs = none ∧ Quoting.over none cs = none)
    ⟨fun ⟨huncut, hcloses⟩ => ⟨huncut, hcloses⟩, fun h => ⟨h.uncut, h.closes⟩⟩

namespace Seals

variable {ds : List Char}

theorem append (h : Seals sep cs) (h' : Seals sep ds) : Seals sep (cs ++ ds) where
  uncut := by
    have hds : splitSectionOnceFrom sep none ds = none := h'.uncut
    unfold splitSectionOnce
    rw [splitSectionOnceFrom_append h.uncut, h.closes, hds]
    rfl
  closes := by rw [Quoting.over_append, h.closes, h'.closes]

/-- Text without quotes and without the separator. -/
theorem plain (h : ∀ c ∈ cs, isQuote c = false ∧ c ≠ sep) : Seals sep cs where
  uncut := splitSectionOnceFrom_of_notMem (fun hmem => (h sep hmem).2 rfl) none
  closes := by
    induction cs with
    | nil => rfl
    | cons c cs ih =>
      obtain ⟨⟨hc, -⟩, hcs⟩ := List.forall_mem_cons.mp h
      rw [Quoting.over_cons, Quoting.after_none, hc]
      exact ih hcs

/-- A quoted section, whatever is inside. -/
theorem quoted {q : Char} (hq : isQuote q = true) {inside : List Char} (hinside : q ∉ inside) :
    Seals sep (q :: (inside ++ [q])) where
  uncut := by
    have hopen : Quoting.after none q = some q := by rw [Quoting.after_none, if_pos hq]
    refine splitSectionOnceFrom_cons_eq_none_iff.mpr ⟨?_, ?_⟩
    · rw [separates, hq]
      rfl
    · rw [hopen, splitSectionOnceFrom_append (splitSectionOnceFrom_of_open hinside),
        Quoting.over_some_of_notMem hinside]
      rfl
  closes := Quoting.over_section hq hinside []

end Seals

theorem separates_self (hsep : isQuote sep = false) : separates sep none sep = true :=
  separates_iff.mpr ⟨rfl, hsep, rfl⟩

/-- **A separator is seen behind a text that keeps it to itself.** -/
theorem splitSectionOnce_append_cons (h : Seals sep cs) (hsep : isQuote sep = false) (ds : List Char) :
    splitSectionOnce sep (cs ++ sep :: ds) = some (cs, ds) := by
  unfold splitSectionOnce
  rw [splitSectionOnceFrom_append h.uncut, h.closes, splitSectionOnceFrom, separates_self hsep]
  show some (cs ++ [], ds) = _
  rw [List.append_nil]

theorem splitSections_append_cons (h : Seals sep cs) (hsep : isQuote sep = false) (ds : List Char) :
    splitSections sep (cs ++ sep :: ds) = cs :: splitSections sep ds := by
  have hafter : Quoting.after none sep = none := by
    rw [Quoting.after_none, hsep]
    rfl
  unfold splitSections
  rw [splitSectionsFrom_append h.uncut, h.closes, splitSectionsFrom, separates_self hsep, hafter]
  show (cs ++ []) :: (splitSectionsFrom sep none ds).1 :: (splitSectionsFrom sep none ds).2 = _
  rw [List.append_nil]

theorem splitSections_of_uncut (h : splitSectionOnce sep cs = none) : splitSections sep cs = [cs] := by
  unfold splitSections
  rw [splitSectionsFrom_of_uncut h]

theorem splitSections_of_seals (h : Seals sep cs) : splitSections sep cs = [cs] := splitSections_of_uncut h.uncut

/-- The first part of a text loses a space in front of it when it is trimmed. -/
theorem map_trimChars_splitSections_space (hsep : sep ≠ ' ') (cs : List Char) :
    (splitSections sep (' ' :: cs)).map trimChars = (splitSections sep cs).map trimChars := by
  have hspace : trimChars (' ' :: (splitSectionsFrom sep none cs).1) =
      trimChars (splitSectionsFrom sep none cs).1 := by
    unfold trimChars trimStart
    rw [List.dropWhile_cons_of_pos (by decide)]
  unfold splitSections
  rw [splitSectionsFrom, separates_of_ne hsep.symm]
  exact congrArg (· :: _) hspace

/-- **Parts with separators between them are found again**, if each of them keeps the separator to itself and is
not trimmed. -/
theorem map_trimChars_splitSections (hquote : isQuote sep = false) (hspace : sep ≠ ' ')
    {parts : List (List Char)} (hne : parts ≠ []) (h : ∀ part ∈ parts, Seals sep part ∧ Flush part) :
    (splitSections sep ([sep, ' '].intercalate parts)).map trimChars = parts := by
  induction parts with
  | nil => exact absurd rfl hne
  | cons part rest ih =>
    obtain ⟨⟨hseals, hflush⟩, hrest⟩ := List.forall_mem_cons.mp h
    cases rest with
    | nil =>
      rw [List.intercalate_singleton, splitSections_of_seals hseals, List.map_singleton, hflush.trimChars_eq]
    | cons next rest =>
      rw [List.intercalate_cons_cons, List.append_assoc, List.cons_append, List.singleton_append,
        splitSections_append_cons hseals hquote, List.map_cons, map_trimChars_splitSections_space hspace,
        ih (List.cons_ne_nil _ _) hrest, hflush.trimChars_eq]

end Text

end ReactiveForm
