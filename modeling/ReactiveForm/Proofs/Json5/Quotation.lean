import ReactiveForm.Json.Basic
import ReactiveForm.Json5.Lexer
import ReactiveForm.Json5.Text

/-!
# `ReactiveForm.Proofs.Json5.Quotation` — strings that are written as JSON and read as JSON5

JSON is nearly a part of JSON5. A string that is quoted as JSON is read back as it was, with one
exception: JSON leaves the line separator and the paragraph separator of Unicode as they are, and to JSON5
they end a line, which no string may.

## Contents
- `isSeparator` and `hasSeparator`.
- `pieceOf` and `piecesOf`, the pieces that a quoted string is read as, and `Escapes`, the ways to escape
  a character.
- `scanPieces_escape`, the string that is read, or that none is; `textOf_piecesOf`, what it stands for.
-/

namespace ReactiveForm

namespace Json5

/-! ## Separators -/

/-- The two line ends that JSON does not escape. -/
def isSeparator (c : Char) : Bool := c.toNat == 0x2028 || c.toNat == 0x2029

/-- Whether a separator stands in a text. -/
def hasSeparator (s : String) : Bool := s.toList.any isSeparator

theorem eq_ofNat_of_toNat {c : Char} {n : Nat} (h : c.toNat = n) : c = Char.ofNat n := by
  rw [← h, Char.ofNat_toNat]

/-! ## Pieces -/

/-- The piece that an escaped character is read as. -/
def pieceOf (c : Char) : Piece :=
  if c = '"' then .escaped '"'
  else if c = '\\' then .escaped '\\'
  else if c = '\n' then .escaped 'n'
  else if c = '\r' then .escaped 'r'
  else if c = '\t' then .escaped 't'
  else if c.toNat = 0x8 then .escaped 'b'
  else if c.toNat = 0xC then .escaped 'f'
  else if c.toNat < 0x20 then .unit (['0', '0'] ++ Json.controlDigits c.toNat)
  else .plain c

/-- The pieces that a quoted text is read as. -/
def piecesOf (s : String) : List Piece := s.toList.map pieceOf

/-- The digits of a control character are digits, and stand for it. -/
theorem control_digits {n : Nat} (h : n < 0x20) :
    (['0', '0'] ++ Json.controlDigits n).all isHexDigit = true ∧
      hexValue? (['0', '0'] ++ Json.controlDigits n) = some n := by
  revert n
  decide

/-- The ways in which a character is escaped, each with the piece that it is read as: a letter after a
backslash, the digits of a control character, or the character itself. -/
inductive Escapes : Char → List Char → Piece → Prop
  | letter {x : Char} (simple : isSimpleEscape x = true) : Escapes (escapedChar x) ['\\', x] (.escaped x)
  | control {c : Char} (low : c.toNat < 0x20) :
      Escapes c (['\\', 'u', '0', '0'] ++ Json.controlDigits c.toNat)
        (.unit (['0', '0'] ++ Json.controlDigits c.toNat))
  | plain {c : Char} (quote : c ≠ '"') (slash : c ≠ '\\') (high : ¬c.toNat < 0x20) : Escapes c [c] (.plain c)

theorem escapes (c : Char) : Escapes c (Json.escapeChar c) (pieceOf c) := by
  have hletter : ∀ {x y : Char}, escapedChar x = y → c = y → isSimpleEscape x = true →
      Escapes c ['\\', x] (.escaped x) := by
    rintro x y rfl rfl hx
    exact .letter hx
  unfold Json.escapeChar pieceOf
  by_cases hquote : c = '"'
  · simp only [if_pos hquote]
    exact hletter (by decide) hquote (by decide)
  by_cases hslash : c = '\\'
  · simp only [if_neg hquote, if_pos hslash]
    exact hletter (by decide) hslash (by decide)
  by_cases hn : c = '\n'
  · simp only [if_neg hquote, if_neg hslash, if_pos hn]
    exact hletter (by decide) hn (by decide)
  by_cases hr : c = '\r'
  · simp only [if_neg hquote, if_neg hslash, if_neg hn, if_pos hr]
    exact hletter (by decide) hr (by decide)
  simp only [if_neg hquote, if_neg hslash, if_neg hn, if_neg hr]
  by_cases ht : c = '\t'
  · simp only [if_pos ht]
    exact hletter (by decide) ht (by decide)
  by_cases hb : c.toNat = 0x8
  · simp only [if_neg ht, if_pos hb]
    exact hletter (by decide) (eq_ofNat_of_toNat hb) (by decide)
  by_cases hf : c.toNat = 0xC
  · simp only [if_neg ht, if_neg hb, if_pos hf]
    exact hletter (by decide) (eq_ofNat_of_toNat hf) (by decide)
  simp only [if_neg ht, if_neg hb, if_neg hf]
  by_cases hcontrol : c.toNat < 0x20
  · simp only [if_pos hcontrol]
    exact .control hcontrol
  · simp only [if_neg hcontrol]
    exact .plain hquote hslash hcontrol

/-! ## Scanning -/

/-- A backslash and the letter of an escape. -/
theorem scanPieces_escaped {x : Char} (hx : isSimpleEscape x = true) (rest : List Char) :
    scanPieces '"' ('\\' :: x :: rest) = addPiece (some (.escaped x)) 2 (scanPieces '"' rest) := by
  have hsimple := hx
  unfold isSimpleEscape at hsimple
  simp only [Bool.and_eq_true, Bool.not_eq_true', bne_iff_ne] at hsimple
  obtain ⟨⟨⟨hdigit, hne⟩, hu⟩, hend⟩ := hsimple
  rw [scanPieces, if_neg (by rw [hend]; exact Bool.false_ne_true), if_pos hx]
  · exact fun _ _ _ _ _ h _ => hu h
  · exact fun _ _ _ h _ => hne h
  · rintro rfl
    exact absurd hdigit (by decide)
  · rintro _ rfl
    exact absurd hend (by decide)

/-- **One character of a quoted string is read as one piece**, unless it is a separator. -/
theorem scanPieces_escapeChar {c : Char} (hc : isSeparator c = false) (rest : List Char) :
    scanPieces '"' (Json.escapeChar c ++ rest) =
      addPiece (some (pieceOf c)) (Json.escapeChar c).length (scanPieces '"' rest) := by
  have hescapes := escapes c
  generalize Json.escapeChar c = escaped at hescapes
  generalize pieceOf c = piece at hescapes
  cases hescapes with
  | letter hx => exact scanPieces_escaped hx rest
  | control hlow => exact if_pos (control_digits hlow).1
  | plain hquote hslash hhigh =>
    -- the other line ends are control characters, which are never written as they are
    have hend : isLineEnd c = false := by
      unfold isSeparator at hc
      have hn : c ≠ '\n' := by rintro rfl; exact absurd hhigh (by decide)
      have hr : c ≠ '\r' := by rintro rfl; exact absurd hhigh (by decide)
      simp_all [isLineEnd]
    rw [List.cons_append, List.nil_append, scanPieces.eq_def]
    split <;> simp_all

/-- A separator ends every attempt to read a string. -/
theorem scanPieces_separator {c : Char} (hc : isSeparator c = true) (rest : List Char) :
    scanPieces '"' (Json.escapeChar c ++ rest) = none := by
  have hseparators : c = Char.ofNat 0x2028 ∨ c = Char.ofNat 0x2029 := by
    unfold isSeparator at hc
    rw [Bool.or_eq_true, beq_iff_eq, beq_iff_eq] at hc
    exact hc.imp eq_ofNat_of_toNat eq_ofNat_of_toNat
  rcases hseparators with rfl | rfl <;> rfl

/-- **A quoted string is read back piece by piece** if there is no separator in it, and else not at all. -/
theorem scanPieces_escape (cs rest : List Char) :
    scanPieces '"' (cs.flatMap Json.escapeChar ++ '"' :: rest) =
      if cs.any isSeparator then none
      else some (cs.map pieceOf, (cs.flatMap Json.escapeChar).length + 1) := by
  induction cs with
  | nil => simp [scanPieces]
  | cons c cs ih =>
    rw [List.flatMap_cons, List.append_assoc]
    by_cases hc : isSeparator c = true
    · -- the rest is not looked at any more, whatever it holds
      rw [scanPieces_separator hc, List.any_cons, hc, Bool.true_or, if_pos rfl]
    · have hc := eq_false_of_ne_true hc
      rw [scanPieces_escapeChar hc, ih, List.any_cons, hc, Bool.false_or]
      split
      · rfl
      · simp [addPiece]
        omega

/-! ## Meaning -/

/-- The number of a control character is no half of a surrogate pair. -/
theorem charsOf_unit {digits : List Char} {n : Nat} (hn : n < 0x20) (hdigits : hexValue? digits = some n)
    (rest : List Piece) :
    charsOf (.unit digits :: rest) = (charsOf rest).map (Char.ofNat n :: ·) := by
  have htrail : isTrail n = false := by
    unfold isTrail
    simp
    omega
  have hlead : isLead n = false := by
    unfold isLead
    simp
    omega
  have hchar : readChar n = .ok (Char.ofNat n) := by
    unfold readChar charOf?
    rw [if_pos (.inl (by omega))]
    rfl
  have hhex : readHex digits = .ok n := by
    unfold readHex
    rw [hdigits]
    rfl
  cases rest with
  | nil => simp [charsOf, hhex, htrail, hlead, hchar, bind, Except.bind, pure, Except.pure, Except.map]
  | cons piece rest => simp [charsOf, hhex, htrail, hlead, hchar, bind, Except.bind]

/-- A piece stands for the character that was escaped. -/
theorem charsOf_pieceOf (c : Char) (rest : List Piece) :
    charsOf (pieceOf c :: rest) = (charsOf rest).map (c :: ·) := by
  have hescapes := escapes c
  generalize Json.escapeChar c = escaped at hescapes
  generalize pieceOf c = piece at hescapes
  cases hescapes with
  | letter => rfl
  | control hlow => rw [charsOf_unit hlow (control_digits hlow).2, Char.ofNat_toNat]
  | plain => rfl

/-- **What is read of a quoted string stands for the string.** -/
theorem textOf_piecesOf (s : String) : textOf (piecesOf s) = .ok s := by
  have hchars : ∀ cs : List Char, charsOf (cs.map pieceOf) = .ok cs := by
    intro cs
    induction cs with
    | nil => rfl
    | cons c cs ih =>
      rw [List.map_cons, charsOf_pieceOf, ih]
      rfl
  unfold textOf piecesOf
  rw [hchars]
  exact congrArg Except.ok String.ofList_toList

end Json5

end ReactiveForm
