import ReactiveForm.Text.Blank

/-!
# `ReactiveForm.Text.Quotation` — removing one layer of quotes

Two rules are in use. A literal of a condition loses its quotes when the same quote stands at both
ends (`unquote`). A value of a directive is trimmed first and loses its ends when each of them is a
quote, whichever (`stripQuotes`).

## Contents
- `isQuote`, the two quote characters.
- `unquote`, for one and the same quote at both ends.
- `stripQuotes`, for any quote at either end.
-/

namespace ReactiveForm

namespace Text

/-- The two quote characters. -/
def isQuote (c : Char) : Bool := c == '\'' || c == '"'

/-- The inside of a text that begins and ends with the same quote. -/
def unquote : List Char → Option (List Char)
  | [] => none
  | q :: rest => if isQuote q && rest.getLast? == some q then some rest.dropLast else none

/-- The trimmed text, less one quote at each end when there is a quote at both. -/
def stripChars (cs : List Char) : List Char :=
  match trimChars cs with
  | [] => []
  | q :: rest =>
    if isQuote q && rest.getLast?.any isQuote then rest.dropLast else q :: rest

/-- The trimmed text, less one quote at each end when there is a quote at both. -/
def stripQuotes (s : String) : String := String.ofList (stripChars s.toList)

/-- The same quote at both ends comes off, and nothing else. -/
theorem unquote_quoted {q : Char} (h : isQuote q = true) (inner : List Char) :
    unquote (q :: (inner ++ [q])) = some inner := by
  simp [unquote, h]

end Text

end ReactiveForm
