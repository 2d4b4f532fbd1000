import Mathlib.Data.List.DropRight
import Mathlib.Data.List.TakeWhile
import ReactiveForm.Text.Quotation

/-!
# `ReactiveForm.Proofs.Text.Trimming` — white space at the ends of a text and in it

Trimming stops at the first character that is no white space, from either end. A text with such a character at
both of its ends is not trimmed at all, whatever stands between them, and neither is one that is put together
from such texts.

## Contents
- `trimStart_append_cons` and its companions, trimming around a character that stays.
- `trimEnd_append_blanks` and `trimChars_append_blanks`, white space at the end of a text.
- `Flush`, texts that are not trimmed, and `flush_iff`.
- `stripChars_of_quotes` and `stripChars_of_bare`, the quotes around a value.
- `words_intercalate`: **words with spaces between them are found again**.
-/

namespace ReactiveForm

namespace Text

/-! ## Trimming -/

variable {d : Char} {blanks cs : List Char}

theorem isQuote_of_isBlank {c : Char} (h : isBlank c = true) : isQuote c = false := by
  refine eq_false_of_ne_true fun hq => ?_
  simp only [isQuote, Bool.or_eq_true, beq_iff_eq] at hq
  rcases hq with rfl | rfl <;> revert h <;> decide

theorem trimStart_eq_nil (hb : ∀ b ∈ blanks, isBlank b = true) : trimStart blanks = [] :=
  List.dropWhile_eq_nil_iff.mpr hb

theorem trimEnd_eq_nil (hb : ∀ b ∈ blanks, isBlank b = true) : trimEnd blanks = [] :=
  List.rdropWhile_eq_nil_iff.mpr hb

/-- Nothing is trimmed from the start behind a character that stays. -/
theorem trimStart_append_cons (hd : isBlank d = false) (cs ds : List Char) :
    trimStart (cs ++ d :: ds) = trimStart cs ++ d :: ds := by
  have hstays : (d :: ds).dropWhile isBlank = d :: ds := List.dropWhile_cons_of_neg (by rw [hd]; nofun)
  unfold trimStart
  rw [List.dropWhile_append]
  cases hcs : cs.dropWhile isBlank with
  | nil => exact hstays
  | cons c cs => rfl

/-- Nothing is trimmed from the end before a character that stays. -/
theorem trimEnd_append_cons (hd : isBlank d = false) (cs ds : List Char) :
    trimEnd (cs ++ d :: ds) = cs ++ d :: trimEnd ds := by
  have hreverse : (cs ++ d :: ds).reverse = ds.reverse ++ d :: cs.reverse := by simp
  have hstart := trimStart_append_cons hd ds.reverse cs.reverse
  unfold trimStart at hstart
  unfold trimEnd
  rw [hreverse, hstart]
  simp

theorem trimChars_append_cons (hd : isBlank d = false) (cs ds : List Char) :
    trimChars (cs ++ d :: ds) = trimStart cs ++ d :: trimEnd ds := by
  rw [trimChars, trimStart_append_cons hd, trimEnd_append_cons hd]

@[simp] theorem trimStart_trimStart (cs : List Char) : trimStart (trimStart cs) = trimStart cs :=
  List.dropWhile_idempotent isBlank cs

@[simp] theorem trimEnd_trimEnd (cs : List Char) : trimEnd (trimEnd cs) = trimEnd cs :=
  List.rdropWhile_idempotent isBlank cs

/-- What is trimmed from the end is white space. -/
theorem exists_trimEnd_append (cs : List Char) :
    ∃ blanks, (∀ b ∈ blanks, isBlank b = true) ∧ trimEnd cs ++ blanks = cs := by
  refine ⟨(cs.reverse.takeWhile isBlank).reverse, fun b hb => ?_, ?_⟩
  · exact List.mem_takeWhile_imp (List.mem_reverse.mp hb)
  · unfold trimEnd
    rw [← List.reverse_append, List.takeWhile_append_dropWhile, List.reverse_reverse]

theorem trimEnd_isPrefix (cs : List Char) : trimEnd cs <+: cs := List.rdropWhile_prefix isBlank cs

theorem exists_append_trimStart (cs : List Char) :
    ∃ blanks, (∀ b ∈ blanks, isBlank b = true) ∧ blanks ++ trimStart cs = cs :=
  ⟨cs.takeWhile isBlank, fun _ hb => List.mem_takeWhile_imp hb, List.takeWhile_append_dropWhile⟩

/-- White space at the end is trimmed. -/
theorem trimEnd_append_blanks (hb : ∀ b ∈ blanks, isBlank b = true) (cs : List Char) :
    trimEnd (cs ++ blanks) = trimEnd cs := by
  have hnone : blanks.reverse.dropWhile isBlank = [] :=
    List.dropWhile_eq_nil_iff.mpr fun b hmem => hb b (List.mem_reverse.mp hmem)
  unfold trimEnd
  rw [List.reverse_append, List.dropWhile_append, hnone]
  rfl

theorem trimChars_append_blanks (hb : ∀ b ∈ blanks, isBlank b = true) (cs : List Char) :
    trimChars (cs ++ blanks) = trimChars cs := by
  have hstart : trimStart (cs ++ blanks) = [] ∧ trimStart cs = [] ∨
      trimStart (cs ++ blanks) = trimStart cs ++ blanks := by
    unfold trimStart
    rw [List.dropWhile_append]
    cases cs.dropWhile isBlank with
    | nil => exact .inl ⟨trimStart_eq_nil hb, rfl⟩
    | cons c cs => exact .inr rfl
  unfold trimChars
  rcases hstart with ⟨hboth, hcs⟩ | hkept
  · rw [hboth, hcs]
  · rw [hkept, trimEnd_append_blanks hb]

theorem notMem_trimStart {c : Char} (h : c ∉ cs) : c ∉ trimStart cs :=
  fun hmem => h ((List.dropWhile_sublist _).subset hmem)

theorem notMem_trimEnd {c : Char} (h : c ∉ cs) : c ∉ trimEnd cs :=
  fun hmem => h (List.mem_reverse.mp ((List.dropWhile_sublist _).subset (List.mem_reverse.mp hmem)))

/-- What is not empty when it is trimmed. -/
theorem isEmpty_trim_eq_false {s : String} (h : trimChars s.toList = cs) (hne : cs ≠ []) :
    (trim s).isEmpty = false := by
  refine eq_false_of_ne_true fun hempty => hne ?_
  rw [← h, ← toList_trim, String.isEmpty_iff.mp hempty]
  rfl

/-! ## Texts that are not trimmed -/

/-- A text with something in it and no white space at either end. -/
def Flush (cs : List Char) : Prop :=
  (∃ c, cs.head? = some c ∧ isBlank c = false) ∧ ∃ c, cs.getLast? = some c ∧ isBlank c = false

namespace Flush

variable {ds : List Char}

theorem ne_nil (h : Flush cs) : cs ≠ [] := by
  rintro rfl
  obtain ⟨⟨c, hc, -⟩, -⟩ := h
  cases hc

/-- What stands between two texts without white space at the ends is not trimmed. -/
theorem append (h : Flush cs) (between : List Char) (h' : Flush ds) : Flush (cs ++ (between ++ ds)) := by
  obtain ⟨⟨c, hc, hblank⟩, -⟩ := h
  obtain ⟨-, ⟨d, hd, hblank'⟩⟩ := h'
  exact ⟨⟨c, by rw [List.head?_append, hc, Option.some_or], hblank⟩,
    ⟨d, by rw [List.getLast?_append, List.getLast?_append, hd, Option.some_or, Option.some_or], hblank'⟩⟩

theorem singleton {c : Char} (hc : isBlank c = false) : Flush [c] := ⟨⟨c, rfl, hc⟩, ⟨c, rfl, hc⟩⟩

theorem of_forall (hne : cs ≠ []) (h : ∀ c ∈ cs, isBlank c = false) : Flush cs := by
  obtain ⟨c, hc⟩ := Option.isSome_iff_exists.mp (List.isSome_head?.mpr hne)
  obtain ⟨d, hd⟩ := Option.isSome_iff_exists.mp (List.getLast?_isSome.mpr hne)
  exact ⟨⟨c, hc, h c (List.mem_of_head? hc)⟩, ⟨d, hd, h d (List.mem_of_getLast? hd)⟩⟩

theorem trimChars_eq (h : Flush cs) : trimChars cs = cs := by
  obtain ⟨⟨c, hc, hblank⟩, ⟨d, hd, hblank'⟩⟩ := h
  obtain ⟨rest, rfl⟩ := List.head?_eq_some_iff.mp hc
  have hstart : trimStart (c :: rest) = c :: rest :=
    List.dropWhile_cons_of_neg (by rw [hblank]; exact Bool.false_ne_true)
  obtain ⟨front, hfront⟩ := List.getLast?_eq_some_iff.mp hd
  rw [trimChars, hstart, hfront, trimEnd_append_cons hblank']
  rfl

theorem trim_eq {s : String} (h : Flush s.toList) : trim s = s := by
  rw [trim, h.trimChars_eq, String.ofList_toList]

theorem isEmpty_trim {s : String} (h : Flush s.toList) : (trim s).isEmpty = false :=
  isEmpty_trim_eq_false h.trimChars_eq h.ne_nil

end Flush

/-- What is left of a text that is trimmed is not trimmed any more. -/
theorem flush_trimChars (h : trimChars cs ≠ []) : Flush (trimChars cs) := by
  have hstart : trimStart cs ≠ [] := fun hnil => h (by rw [trimChars, hnil]; rfl)
  constructor
  · obtain ⟨c, hc⟩ := Option.isSome_iff_exists.mp (List.isSome_head?.mpr h)
    obtain ⟨blanks, -, hsplit⟩ := exists_trimEnd_append (trimStart cs)
    refine ⟨c, hc, ?_⟩
    have hhead : (trimStart cs).head? = some c := by
      rw [← hsplit, List.head?_append]
      show ((trimChars cs).head?).or _ = _
      rw [hc, Option.some_or]
    have hne := List.head?_dropWhile_not isBlank cs
    unfold trimStart at hhead
    rw [hhead] at hne
    simpa using hne
  · obtain ⟨c, hc⟩ := Option.isSome_iff_exists.mp (List.getLast?_isSome.mpr h)
    refine ⟨c, hc, ?_⟩
    have hlast := List.head?_dropWhile_not isBlank (trimStart cs).reverse
    unfold trimChars trimEnd at hc
    rw [List.getLast?_reverse] at hc
    rw [hc] at hlast
    simpa using hlast

/-- A text is left alone by trimming, and is not empty, exactly if no white space stands at either end. -/
theorem flush_iff : Flush cs ↔ cs ≠ [] ∧ trimChars cs = cs :=
  ⟨fun h => ⟨h.ne_nil, h.trimChars_eq⟩, fun ⟨hne, h⟩ => h ▸ flush_trimChars (h.symm ▸ hne)⟩

/-- A text without white space is not trimmed. -/
theorem trimChars_eq_self (h : ∀ c ∈ cs, isBlank c = false) : trimChars cs = cs := by
  cases cs with
  | nil => rfl
  | cons c cs => exact (Flush.of_forall (List.cons_ne_nil _ _) h).trimChars_eq

theorem Flush.intercalate (sep : List Char) {parts : List (List Char)} (hne : parts ≠ [])
    (h : ∀ part ∈ parts, Flush part) : Flush (sep.intercalate parts) := by
  induction parts with
  | nil => exact absurd rfl hne
  | cons part rest ih =>
    obtain ⟨hflush, hrest⟩ := List.forall_mem_cons.mp h
    cases rest with
    | nil => rwa [List.intercalate_singleton]
    | cons next rest =>
      rw [List.intercalate_cons_cons, List.append_assoc]
      exact hflush.append sep (ih (List.cons_ne_nil _ _) hrest)

/-! ## Values without their quotes -/

variable {inside : List Char}

/-- One quote comes off at each end, whichever quotes they are. -/
theorem stripChars_of_quotes {q r : Char} (hq : isQuote q = true) (hr : isQuote r = true)
    (h : trimChars cs = q :: (inside ++ [r])) : stripChars cs = inside := by
  have hlast : (inside ++ [r]).getLast?.any isQuote = true := by
    rw [List.getLast?_concat]
    exact hr
  unfold stripChars
  rw [h]
  simp only [hq, hlast, List.dropLast_concat]
  rfl

/-- Nothing but white space comes off a text without quotes at both ends. -/
theorem stripChars_of_bare
    (h : ∀ q r inside, isQuote q = true → isQuote r = true → trimChars cs ≠ q :: (inside ++ [r])) :
    stripChars cs = trimChars cs := by
  unfold stripChars
  cases htrim : trimChars cs with
  | nil => rfl
  | cons q rest =>
    refine if_neg fun hends => ?_
    obtain ⟨hq, hlast⟩ := (Bool.and_eq_true _ _).mp hends
    obtain ⟨r, hr, hquote⟩ := (Option.any_eq_true _ _).mp hlast
    obtain ⟨inside, rfl⟩ := List.getLast?_eq_some_iff.mp hr
    exact h q r inside hq hquote htrim

/-- What quotes of one kind surround is what is left without them. -/
theorem stripChars_quoted {q : Char} (hq : isQuote q = true) (inside : List Char) :
    stripChars (q :: (inside ++ [q])) = inside := by
  have hblank : isBlank q = false := by
    refine eq_false_of_ne_true fun hblank => ?_
    rw [isQuote_of_isBlank hblank] at hq
    cases hq
  have hflush : Flush (q :: (inside ++ [q])) := (Flush.singleton hblank).append inside (Flush.singleton hblank)
  exact stripChars_of_quotes hq hq hflush.trimChars_eq

/-! ## Words -/

theorem words_append_space {w : List Char} (hne : w ≠ []) (hw : ∀ c ∈ w, isBlank c = false)
    (rest : List Char) : words (w ++ ' ' :: rest) = w :: words rest := by
  have hspace : words (' ' :: rest) = words rest := by
    rw [words_cons]
    rfl
  induction w with
  | nil => exact absurd rfl hne
  | cons c w ih =>
    obtain ⟨hc, hw⟩ := List.forall_mem_cons.mp hw
    rw [List.cons_append, words_cons, hc]
    cases w with
    | nil =>
      rw [List.nil_append, hspace]
      cases words rest <;> rfl
    | cons d w =>
      rw [ih (List.cons_ne_nil _ _) hw]
      show (if isBlank d = true then _ else _) = _
      rw [hw d List.mem_cons_self]
      rfl

theorem words_of_forall {w : List Char} (hne : w ≠ []) (hw : ∀ c ∈ w, isBlank c = false) :
    words w = [w] := by
  induction w with
  | nil => exact absurd rfl hne
  | cons c w ih =>
    obtain ⟨hc, hw⟩ := List.forall_mem_cons.mp hw
    rw [words_cons, hc]
    cases w with
    | nil => rfl
    | cons d w =>
      rw [ih (List.cons_ne_nil _ _) hw]
      show (if isBlank d = true then _ else _) = _
      rw [hw d List.mem_cons_self]
      rfl

theorem mem_of_mem_intercalate {c : Char} {sep : List Char} {parts : List (List Char)}
    (h : c ∈ sep.intercalate parts) : c ∈ sep ∨ ∃ part ∈ parts, c ∈ part := by
  induction parts with
  | nil => cases h
  | cons part rest ih =>
    cases rest with
    | nil =>
      rw [List.intercalate_singleton] at h
      exact .inr ⟨part, List.mem_cons_self, h⟩
    | cons next rest =>
      rw [List.intercalate_cons_cons, List.mem_append, List.mem_append] at h
      rcases h with (h | h) | h
      · exact .inr ⟨part, List.mem_cons_self, h⟩
      · exact .inl h
      · exact (ih h).imp_right fun ⟨other, hother, hc⟩ => ⟨other, List.mem_cons_of_mem _ hother, hc⟩

/-- **Words with spaces between them are found again.** -/
theorem words_intercalate {ws : List (List Char)}
    (h : ∀ w ∈ ws, w ≠ [] ∧ ∀ c ∈ w, isBlank c = false) : words ([' '].intercalate ws) = ws := by
  induction ws with
  | nil => rfl
  | cons w rest ih =>
    obtain ⟨⟨hne, hw⟩, hrest⟩ := List.forall_mem_cons.mp h
    cases rest with
    | nil => rw [List.intercalate_singleton, words_of_forall hne hw]
    | cons next rest =>
      rw [List.intercalate_cons_cons, List.append_assoc, List.singleton_append, words_append_space hne hw,
        ih hrest]

end Text

end ReactiveForm
