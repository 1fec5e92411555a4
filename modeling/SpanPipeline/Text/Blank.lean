/-
  SpanPipeline.Text.Blank
  ───────────────────────
  White space in the wide sense: the ASCII blanks and line breaks,
  the four information separators, the next-line control and every
  Unicode space separator.

  Main results:
    * `isBlank_of_isWhitespace` — the ASCII notion is contained.
-/
import SpanPipeline.Text.RangeTable

namespace SpanPipeline.Text

/-- The code points with the white space property. -/
def spaces : RangeTable :=
  [ (0x9, 0xd), (0x20, 0x20), (0x85, 0x85), (0xa0, 0xa0), (0x1680, 0x1680),
    (0x2000, 0x200a), (0x2028, 0x2029), (0x202f, 0x202f), (0x205f, 0x205f),
    (0x3000, 0x3000) ]

/-- A character with the white space property. -/
def isSpace (c : Char) : Bool :=
  spaces.holds c

/-- A character that counts as white space: a space, or one of the
    four information separators. -/
def isBlank (c : Char) : Bool :=
  isSpace c || 0x1c ≤ c.toNat && c.toNat ≤ 0x1f

theorem isBlank_of_isWhitespace {c : Char} (h : c.isWhitespace = true) :
    isBlank c = true := by
  simp only [Char.isWhitespace, Bool.or_eq_true, decide_eq_true_eq] at h
  rcases h with ((h | h) | h) | h <;> subst h <;> decide

/-- Without the characters of a class at its start. -/
def trimStart (p : Char → Bool) (cs : List Char) : List Char :=
  cs.dropWhile p

/-- Without the characters of a class at its end. -/
def trimEnd (p : Char → Bool) (cs : List Char) : List Char :=
  (cs.reverse.dropWhile p).reverse

/-- Without the characters of a class at either end. -/
def trimBy (p : Char → Bool) (cs : List Char) : List Char :=
  trimEnd p (trimStart p cs)

/-- Without the blanks at either end. -/
def trim (cs : List Char) : List Char :=
  trimBy isBlank cs

end SpanPipeline.Text
