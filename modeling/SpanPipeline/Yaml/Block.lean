/-
  SpanPipeline.Yaml.Block
  ───────────────────────
  Block scalars: literal and folded text by indentation.

  A header may give the indentation and say what becomes of the
  line breaks at the end.  Without a given indentation the first
  line that is not empty sets it.

  Main results:
    * `joint_literal` — in literal text every line break stays.
-/
import SpanPipeline.Yaml.Reader
import SpanPipeline.Text.Digits

namespace SpanPipeline.Yaml

/-- What becomes of the line breaks at the end of a block scalar. -/
inductive Chomping where
  /-- None is kept. -/
  | strip
  /-- The first is kept. -/
  | clip
  /-- All are kept. -/
  | keep
  deriving DecidableEq, Repr

/-- The header of a block scalar. -/
structure BlockHeader where
  chomping : Chomping := .clip
  /-- The indentation, relative to the collection around. -/
  indent : Option Nat := none
  deriving DecidableEq, Repr

/-- What stands between two lines: the line break `lineBreak`, or
    what folding makes of it when empty lines `empties` follow.
    Lines that start with a gap are not folded. -/
def joint (folded : Bool) (lineBreak : Option Char) (empties : List Char)
    (between : Option Char × Option Char) : List Char :=
  let flush (c : Option Char) := !(c.map isGap).getD false
  if folded && lineBreak == some '\n' && flush between.1 && flush between.2 then
    if empties.isEmpty then [' '] else []
  else lineBreak.toList

theorem joint_literal (b : Option Char) (empties : List Char)
    (between : Option Char × Option Char) : joint false b empties between = b.toList := rfl

/-- Lines of a block scalar with what follows the last one. -/
structure BlockLines where
  text : List Char
  /-- The line break of the last line. -/
  last : Option Char
  /-- The line breaks of empty lines after it. -/
  trailing : List Char

/-- The text of a block scalar. -/
def BlockLines.chomp (chomping : Chomping) (b : BlockLines) : List Char :=
  match chomping with
  | .strip => b.text
  | .clip => b.text ++ b.last.toList
  | .keep => b.text ++ b.last.toList ++ b.trailing

namespace Reader

/-- The sign for the line breaks at the end, if there is one. -/
def chomping? : Reader (Option Chomping) := do
  match ← peek with
  | some '+' => skip 1; return some .keep
  | some '-' => skip 1; return some .strip
  | _ => return none

/-- The digit for the indentation, if there is one. -/
def indentDigit? : Reader (Option Nat) := do
  match ← peek with
  | some c =>
    if c.isDigit then
      require (c ≠ '0')
      skip 1
      return some (c.toNat - '0'.toNat)
    else return none
  | none => return none

/-- The header, from its indicator on, with the rest of its line.
    The sign and the digit may come in either order. -/
def blockHeader : Reader BlockHeader := do
  skip 1
  let before ← chomping?
  let indent ← indentDigit?
  let after ← if before.isNone && indent.isSome then chomping? else pure none
  require (endsField (← peek))
  finishLine
  return ⟨(before.or after).getD .clip, indent⟩

/-- Empty lines at the start, with the deepest column of a space
    before text. -/
def leadingLines : Reader (List Char × Nat) := do
  let step : Reader (Option (List Char × Nat)) := do
    if (← peek) = some ' ' then
      skip 1
      return some ([], ← column)
    else return (← lineBreak?).map fun b => ([b], 0)
  let pieces ← many step
  return (pieces.flatMap Prod.fst, (pieces.map Prod.snd).foldl max 0)

/-- Go past indentation. -/
def skipIndent (indent : Nat) : Reader Unit := do
  let room := indent - (← column)
  skip (((← ahead).take room).takeWhile (· == ' ')).length

/-- The line breaks of empty lines. -/
def emptyLines (indent : Nat) : Reader (List Char) := do
  skipIndent indent
  many do
    match ← lineBreak? with
    | none => return none
    | some b =>
      skipIndent indent
      return some b

/-- The lines of a block scalar, at most `n` of them, after the
    empty lines `empties`. -/
def blockLines (folded : Bool) (indent : Nat) (empties : List Char) : Nat → Reader BlockLines
  | 0 => return ⟨[], none, empties⟩
  | n + 1 => do
    let inside : Reader Bool := do return (← column) = indent && (← peek).isSome
    if !(← inside) then return ⟨[], none, empties⟩
    let start ← peek
    let line ← takeWhile (!isBreak ·)
    let last ← lineBreak?
    let more ← emptyLines indent
    if ← inside then
      let between := (start, ← peek)
      let rest ← blockLines folded indent more n
      return { rest with text := empties ++ line ++ joint folded last more between ++ rest.text }
    else return ⟨empties ++ line, last, more⟩

/-- A block scalar, from its indicator on; `least` is the least
    column of its lines. -/
def blockScalar (folded : Bool) (least : Nat) : Reader (List Char) := do
  let header ← blockHeader
  let (indent, empties) ← match header.indent with
    | some n => do
      let indent := least + n - 1
      pure (indent, ← emptyLines indent)
    | none => do
      let (empties, deepest) ← leadingLines
      pure (max least deepest, empties)
  let lines ← blockLines folded indent empties ((← ahead).length + 1)
  return lines.chomp header.chomping

end Reader

end SpanPipeline.Yaml
