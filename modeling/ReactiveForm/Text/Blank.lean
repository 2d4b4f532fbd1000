/-!
# `ReactiveForm.Text.Blank` — white space, trimming and words

Every reader of this library skips and trims the same characters: those with the Unicode property
`White_Space`. They are fixed here once, and everything is defined on `List Char`, where recursion is
structural; the `String` versions only wrap.

## Contents
- `isBlank`, the class of white space characters.
- `trimStart`, `trimEnd`, `trimChars` and `trim`.
- `words`, the maximal runs without white space.
- `width`, the number of bytes a text takes in UTF-8, with `width_toList`, `length_le_width` and
  `width_eq_length_iff`.
-/

namespace ReactiveForm

namespace Text

/-! ## The class -/

/-- The characters with the Unicode property `White_Space`. -/
def isBlank (c : Char) : Bool :=
  let n := c.toNat
  (0x9 ≤ n && n ≤ 0xD) || n == 0x20 || n == 0x85 || n == 0xA0 || n == 0x1680 ||
    (0x2000 ≤ n && n ≤ 0x200A) || n == 0x2028 || n == 0x2029 || n == 0x202F || n == 0x205F ||
    n == 0x3000

/-- A text with nothing but white space in it. -/
def isBlankText (s : String) : Bool := s.toList.all isBlank

/-- A text with white space somewhere in it. -/
def hasBlank (s : String) : Bool := s.toList.any isBlank

/-! ## Trimming -/

/-- A text without its leading white space. -/
def trimStart (cs : List Char) : List Char := cs.dropWhile isBlank

/-- A text without its trailing white space. -/
def trimEnd (cs : List Char) : List Char := (cs.reverse.dropWhile isBlank).reverse

/-- A text without white space at either end. -/
def trimChars (cs : List Char) : List Char := trimEnd (trimStart cs)

/-- A text without white space at either end. -/
def trim (s : String) : String := String.ofList (trimChars s.toList)

@[simp] theorem toList_trim (s : String) : (trim s).toList = trimChars s.toList := by
  simp [trim]

/-- Trimming adds nothing. -/
theorem mem_of_mem_trimChars {c : Char} {cs : List Char} (h : c ∈ trimChars cs) : c ∈ cs := by
  unfold trimChars trimEnd trimStart at h
  have hend := (List.dropWhile_sublist _).subset (List.mem_reverse.mp h)
  exact (List.dropWhile_sublist _).subset (List.mem_reverse.mp hend)

/-! ## Words -/

/-- The maximal runs of a text without white space, from left to right. -/
def words : List Char → List (List Char)
  | [] => []
  | c :: rest =>
    if isBlank c then words rest
    else
      match rest, words rest with
      | d :: _, w :: ws => if isBlank d then [c] :: w :: ws else (c :: w) :: ws
      | _, ws => [c] :: ws

@[simp] theorem words_nil : words [] = [] := rfl

theorem words_cons (c : Char) (rest : List Char) :
    words (c :: rest) =
      if isBlank c then words rest
      else
        match rest, words rest with
        | d :: _, w :: ws => if isBlank d then [c] :: w :: ws else (c :: w) :: ws
        | _, ws => [c] :: ws := rfl

/-- The words of a text as strings. -/
def wordsOf (s : String) : List String := (words s.toList).map String.ofList

/-! ## Width -/

/-- The number of bytes a text takes in UTF-8. -/
def width (cs : List Char) : Nat := cs.foldr (fun c n => c.utf8Size + n) 0

@[simp] theorem width_nil : width [] = 0 := rfl

@[simp] theorem width_cons (c : Char) (cs : List Char) : width (c :: cs) = c.utf8Size + width cs :=
  rfl

@[simp] theorem width_append (xs ys : List Char) : width (xs ++ ys) = width xs + width ys := by
  induction xs with
  | nil => simp
  | cons c cs ih => rw [List.cons_append, width_cons, width_cons, ih, Nat.add_assoc]

/-- The width of a string is its size. -/
theorem width_toList (s : String) : width s.toList = s.utf8ByteSize := by
  have hwidth : ∀ cs : List Char, (String.ofList cs).utf8ByteSize = width cs := by
    intro cs
    induction cs with
    | nil => rfl
    | cons c cs ih =>
      rw [String.ofList_cons, String.utf8ByteSize_append, String.utf8ByteSize_singleton, ih, width_cons]
  rw [← hwidth, String.ofList_toList]

theorem length_le_width (cs : List Char) : cs.length ≤ width cs := by
  induction cs with
  | nil => exact Nat.le_refl 0
  | cons c cs ih =>
    have hpos := c.utf8Size_pos
    rw [width_cons, List.length_cons]
    omega

/-- A text has as many bytes as characters exactly if it is ASCII. -/
theorem width_eq_length_iff {cs : List Char} : width cs = cs.length ↔ ∀ c ∈ cs, c.toNat < 128 := by
  induction cs with
  | nil => exact ⟨fun _ => nofun, fun _ => rfl⟩
  | cons c cs ih =>
    have hone : c.utf8Size = 1 ↔ c.toNat < 128 := Char.utf8Size_eq_one_iff.trans Nat.lt_succ_iff.symm
    have hpos := c.utf8Size_pos
    have hle := length_le_width cs
    rw [List.forall_mem_cons, ← ih, ← hone, width_cons, List.length_cons]
    omega

end Text

end ReactiveForm
