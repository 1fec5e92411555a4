/-
  SpanPipeline.Yaml.Reader
  ────────────────────────
  Reading the characters of a document from the left.

  A cursor holds what is left of the text and where that stands:
  the line, the column, and the number of characters before it.  A
  reader moves a cursor and gives a value, or ends with a fault.

  Every line break is written as a line feed before reading starts,
  but for the line and the paragraph separator, which stay.

  Main results:
    * `Cursor.skip_rest` — what moving a cursor leaves of the text.
    * `Reader.run_takeWhile` — what reading a class of characters
      gives and where it stops.
-/
import SpanPipeline.Yaml.Fault

namespace SpanPipeline.Yaml

/-! ## §1. Characters. -/

/-- The byte order mark, which takes no column. -/
def byteOrderMark : Char := Char.ofNat 0xfeff

/-- A character that ends a line. -/
def isBreak (c : Char) : Bool :=
  c == '\n' || c.toNat == 0x2028 || c.toNat == 0x2029

/-- A space or a tab. -/
def isGap (c : Char) : Bool :=
  c == ' ' || c == '\t'

/-- A character that a document may hold. -/
def isAllowed (c : Char) : Bool :=
  let n := c.toNat
  n == 0x9 || n == 0xa || n == 0xd || 0x20 ≤ n && n ≤ 0x7e || n == 0x85
    || 0xa0 ≤ n && n ≤ 0xfffd || 0x10000 ≤ n

/-- The text with its line breaks unified. -/
def unifyBreaks : List Char → List Char
  | '\r' :: '\n' :: cs => '\n' :: unifyBreaks cs
  | c :: cs => (if c == '\r' || c.toNat == 0x85 then '\n' else c) :: unifyBreaks cs
  | [] => []

/-- The end of the text, or a line break. -/
def endsLine : Option Char → Bool
  | none => true
  | some c => isBreak c

/-- The end of the text, a line break or a space. -/
def endsField : Option Char → Bool
  | none => true
  | some c => isBreak c || c == ' '

/-- The end of the text, a line break, a space or a tab. -/
def endsWord : Option Char → Bool
  | none => true
  | some c => isBreak c || isGap c

/-- A marker at the start of a text: three hyphens or three dots
    that end as a word does. -/
def startsMarker (mark : Char) : List Char → Bool
  | a :: b :: c :: rest => a == mark && b == mark && c == mark && endsWord rest.head?
  | _ => false

/-- One of the two markers. -/
def startsAnyMarker (cs : List Char) : Bool :=
  startsMarker '-' cs || startsMarker '.' cs

/-! ## §2. Cursors. -/

/-- A place in a text. -/
structure Cursor where
  rest : List Char
  index : Nat := 0
  line : Nat := 0
  column : Nat := 0
  deriving Repr, Inhabited

namespace Cursor

/-- Past the next character. -/
def advance (c : Cursor) : Cursor :=
  match c.rest with
  | [] => c
  | x :: rest =>
    if isBreak x then ⟨rest, c.index + 1, c.line + 1, 0⟩
    else if x = byteOrderMark then ⟨rest, c.index + 1, c.line, c.column⟩
    else ⟨rest, c.index + 1, c.line, c.column + 1⟩

/-- Past the next `n` characters. -/
def skip : Nat → Cursor → Cursor
  | 0, c => c
  | n + 1, c => skip n c.advance

theorem advance_rest (c : Cursor) : c.advance.rest = c.rest.tail := by
  unfold advance
  cases h : c.rest with
  | nil => simp [h]
  | cons x rest =>
    simp only [List.tail_cons]
    split
    · rfl
    · split <;> rfl

theorem skip_rest (n : Nat) (c : Cursor) : (c.skip n).rest = c.rest.drop n := by
  induction n generalizing c with
  | zero => rfl
  | succ n ih => rw [skip, ih, advance_rest, List.drop_tail]

end Cursor

/-! ## §3. Readers. -/

/-- A reader of values. -/
abbrev Reader (α : Type) : Type := StateT Cursor (Except Fault) α

namespace Reader

/-- The text that is left. -/
def ahead : Reader (List Char) := do return (← get).rest

/-- The next character. -/
def peek : Reader (Option Char) := do return (← get).rest.head?

/-- The column of the next character. -/
def column : Reader Nat := do return (← get).column

/-- Go past `n` characters. -/
def skip (n : Nat) : Reader Unit := modify (·.skip n)

/-- The characters of a class that come next. -/
def takeWhile (p : Char → Bool) : Reader (List Char) := do
  let cs := (← ahead).takeWhile p
  skip cs.length
  return cs

/-- Go past the characters of a class. -/
def skipWhile (p : Char → Bool) : Reader Unit := do
  let _ ← takeWhile p

/-- The document is malformed unless a condition holds. -/
def require (b : Bool) : Reader Unit :=
  if b then pure () else throw .malformed

/-- A step repeated until it gives nothing, but at most `n` times. -/
def upTo (step : Reader (Option α)) : Nat → Reader (List α)
  | 0 => return []
  | n + 1 => do
    match ← step with
    | none => return []
    | some x => return x :: (← upTo step n)

/-- A step repeated until it gives nothing.  A step that gives
    something takes a character, so the length of the text bounds
    the number of steps. -/
def many (step : Reader (Option α)) : Reader (List α) := do
  upTo step ((← ahead).length + 1)

/-- The line break that comes next, if one does. -/
def lineBreak? : Reader (Option Char) := do
  match ← peek with
  | some c =>
    if isBreak c then
      skip 1
      return some c
    else return none
  | none => return none

/-- Go past the rest of a line that may hold a comment only. -/
def finishLine : Reader Unit := do
  skipWhile (· == ' ')
  if (← peek) = some '#' then skipWhile (!isBreak ·)
  require (endsLine (← peek))
  let _ ← lineBreak?

theorem run_takeWhile (p : Char → Bool) (c : Cursor) :
    (takeWhile p).run c
      = .ok (c.rest.takeWhile p, c.skip (c.rest.takeWhile p).length) := rfl

end Reader

/-- Line breaks inside a scalar: one alone is a space, one of a
    kind of its own is kept, and those after it are kept. -/
def foldBreaks (first : Char) (more : List Char) : List Char :=
  if first ≠ '\n' then first :: more
  else if more.isEmpty then [' ']
  else more

end SpanPipeline.Yaml
