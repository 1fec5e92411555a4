/-
  SpanPipeline.Text.Quoted
  ────────────────────────
  Texts in quotes, as they appear inside messages.

  A text stands in single quotes, or in double quotes when it holds
  a single quote and no double one.  The quote in use and the
  backslash are escaped with a backslash; line feed, carriage
  return and tab have escapes of their own; any other character
  that is not printable is written by its code point in the
  shortest of the forms \xhh, \uhhhh and \Uhhhhhhhh.

  Main results:
    * `quoted_ends` — a quoted text starts and ends with the quote
      that `quoteMark` picks.
-/
import SpanPipeline.Text.Printable

namespace SpanPipeline.Text

/-- The quote a text is put in. -/
def quoteMark (cs : List Char) : Char :=
  if cs.contains '\'' && !cs.contains '"' then '"' else '\''

/-- The number in `width` lower-case hexadecimal digits. -/
def hexDigits (width n : Nat) : List Char :=
  let digits := Nat.toDigits 16 n
  List.replicate (width - digits.length) '0' ++ digits

/-- The escape of a character that is not printable. -/
def codePointEscape (c : Char) : List Char :=
  let n := c.toNat
  if n < 0x100 then '\\' :: 'x' :: hexDigits 2 n
  else if n < 0x10000 then '\\' :: 'u' :: hexDigits 4 n
  else '\\' :: 'U' :: hexDigits 8 n

/-- One character inside quotes of the kind `mark`. -/
def quotedChar (mark c : Char) : List Char :=
  if c = mark || c = '\\' then ['\\', c]
  else if c = '\n' then ['\\', 'n']
  else if c = '\r' then ['\\', 'r']
  else if c = '\t' then ['\\', 't']
  else if 0x20 ≤ c.toNat && c.toNat < 0x7f then [c]
  else if isPrintable c then [c]
  else codePointEscape c

/-- The text in quotes. -/
def quoted (cs : List Char) : List Char :=
  (quoteMark cs :: cs.flatMap (quotedChar (quoteMark cs))) ++ [quoteMark cs]

/-- The text in quotes, as a string. -/
def quote (s : String) : String :=
  String.ofList (quoted s.toList)

/-- A list of texts, each in quotes, in square brackets. -/
def quoteList (ss : List String) : String :=
  "[" ++ String.intercalate ", " (ss.map quote) ++ "]"

theorem quoted_ends (cs : List Char) :
    (quoted cs).head? = some (quoteMark cs) ∧ (quoted cs).getLast? = some (quoteMark cs) := by
  constructor
  · simp [quoted]
  · rw [quoted, List.getLast?_concat]

end SpanPipeline.Text
