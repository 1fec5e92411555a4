/-
  SpanPipeline.Yaml.Quoted
  ────────────────────────
  Scalars in quotes.

  In single quotes a quote is written twice and nothing else is
  special.  In double quotes a backslash starts an escape; before a
  line break it joins the lines.  In both, gaps around line breaks
  are dropped and the breaks are folded.

  Main results:
    * `character_of_isValid` — an escape of a character gives it.
-/
import SpanPipeline.Yaml.Reader
import SpanPipeline.Text.Percent

namespace SpanPipeline.Yaml

open Text

/-! ## §1. Escapes. -/

/-- What is put in place of a code point that stands for no
    character. -/
def replacement : Char := Char.ofNat 0xfffd

/-- The character of a code point. -/
def character (n : Nat) : Except Fault Char :=
  if n.isValidChar then .ok (Char.ofNat n)
  else if n < 0x110000 then .ok replacement
  else .error (.codePoint n)

theorem character_of_isValid {n : Nat} (h : n.isValidChar) :
    character n = .ok (Char.ofNat n) := by
  simp [character, h]

/-- Escapes of a single character and what they stand for. -/
def escapes : List (Char × Nat) :=
  [ ('0', 0), ('a', 0x7), ('b', 0x8), ('t', 0x9), ('\t', 0x9), ('n', 0xa), ('v', 0xb),
    ('f', 0xc), ('r', 0xd), ('e', 0x1b), (' ', 0x20), ('"', 0x22), ('\\', 0x5c), ('/', 0x2f),
    ('N', 0x85), ('_', 0xa0), ('L', 0x2028), ('P', 0x2029) ]

/-- The number of digits in an escape of a code point. -/
def escapeWidth? (c : Char) : Option Nat :=
  [('x', 2), ('u', 4), ('U', 8)].lookup c

namespace Reader

/-- Line breaks, each after a gap; a marker of the document must not
    follow. -/
def quotedBreaks : Reader (List Char) :=
  many do
    require (!startsAnyMarker (← ahead))
    skipWhile isGap
    lineBreak?

/-- The hexadecimal digits of a code point. -/
def codePoint (width : Nat) : Reader Char := do
  let digits := (← ahead).take width
  require (digits.length == width && digits.all isHexDigit)
  let c ← character (ofAscii 16 digits)
  skip width
  return c

/-- What follows a backslash. -/
def escape : Reader (List Char) := do
  match ← peek with
  | none => throw .malformed
  | some c =>
    skip 1
    if isBreak c then quotedBreaks
    else match escapes.lookup c, escapeWidth? c with
      | some n, _ => return [Char.ofNat n]
      | none, some width => return [← codePoint width]
      | none, none => throw .malformed

/-! ## §2. The scalar. -/

/-- One character, or what is written for one, of a word. -/
def quotedPiece (double : Bool) : Reader (Option (List Char)) := do
  match ← ahead with
  | [] => return none
  | c :: rest =>
    if endsWord (some c) then return none
    else if c = (if double then '"' else '\'') then
      if !double && rest.head? = some '\'' then
        skip 2
        return some ['\'']
      else return none
    else
      skip 1
      if double && c = '\\' then return some (← escape)
      else return some [c]

/-- Characters up to a gap, a line break or the closing quote. -/
def quotedWord (double : Bool) : Reader (List Char) := do
  return (← many (quotedPiece double)).flatten

/-- What stands between two words. -/
def quotedGap : Reader (List Char) := do
  let gap ← takeWhile isGap
  require (← peek).isSome
  match ← lineBreak? with
  | none => return gap
  | some first => return foldBreaks first (← quotedBreaks)

/-- A gap and the word after it, unless the scalar ends. -/
def quotedRun (double : Bool) : Reader (Option (List Char)) := do
  if (← peek) = some (if double then '"' else '\'') then return none
  else return some ((← quotedGap) ++ (← quotedWord double))

/-- A scalar in quotes, from its opening quote on. -/
def quotedScalar (double : Bool) : Reader (List Char) := do
  skip 1
  let first ← quotedWord double
  let runs ← many (quotedRun double)
  skip 1
  return first ++ runs.flatten

end Reader

end SpanPipeline.Yaml
