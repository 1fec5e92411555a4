/-
  SpanPipeline.Yaml.Plain
  ───────────────────────
  Scalars without quotes.

  A plain scalar is a sequence of words with gaps of spaces and
  line breaks between them.  Outside flow collections its lines are
  indented; inside them some punctuation ends it.

  Main results:
    * `plainEnds_of_endsWord` — what ends any word ends a plain one.
-/
import SpanPipeline.Yaml.Reader

namespace SpanPipeline.Yaml

/-- A character that ends a plain scalar inside a flow collection,
    by itself or after a colon. -/
def isFlowMark (c : Char) : Bool :=
  c == ',' || c == '[' || c == ']' || c == '\x7b' || c == '\x7d'

/-- A text at which a plain word ends. -/
def plainEnds (flow : Bool) : List Char → Bool
  | [] => true
  | c :: rest =>
    endsWord (some c)
      || c == ':' && (endsWord rest.head? || flow && (rest.head?.map isFlowMark).getD false)
      || flow && (isFlowMark c || c == '?')

theorem plainEnds_of_endsWord {flow : Bool} {cs : List Char} (h : endsWord cs.head? = true) :
    plainEnds flow cs = true := by
  cases cs with
  | nil => rfl
  | cons c rest =>
    have h : endsWord (some c) = true := h
    simp [plainEnds, h]

/-- A gap of a plain scalar. -/
structure PlainGap where
  /-- What it stands for when a word follows; empty when none can
      follow. -/
  text : List Char
  /-- It holds a line break. -/
  broken : Bool

/-- A plain scalar as it was read. -/
structure PlainScalar where
  text : List Char
  /-- Reading stopped at the start of a line or in its
      indentation. -/
  broken : Bool

namespace Reader

/-- The characters of a word. -/
def plainWord (flow : Bool) : Reader (List Char) :=
  many do
    match ← ahead with
    | [] => return none
    | c :: rest =>
      if plainEnds flow (c :: rest) then return none
      else
        skip 1
        return some c

/-- A space, which stands for nothing, or a line break. -/
def gapPiece : Reader (Option (List Char)) := do
  if (← peek) = some ' ' then
    skip 1
    return some []
  else return (← lineBreak?).map ([·])

/-- A gap. -/
def plainGap : Reader PlainGap := do
  let spaces ← takeWhile (· == ' ')
  match ← lineBreak? with
  | none => return ⟨spaces, false⟩
  | some first =>
    let atMarker : Reader Bool := do return (← column) = 0 && startsAnyMarker (← ahead)
    if ← atMarker then return ⟨[], true⟩
    let more ← many gapPiece
    if ← atMarker then return ⟨[], true⟩
    return ⟨foldBreaks first more.flatten, true⟩

/-- The gaps and words after the first word, at most `n` of them. -/
def plainRest (flow : Bool) (indent : Nat) : Nat → Reader PlainScalar
  | 0 => return ⟨[], false⟩
  | n + 1 => do
    let gap ← plainGap
    if gap.text.isEmpty || (← peek) = some '#' || !flow && (← column) < indent then
      return ⟨[], gap.broken⟩
    let word ← plainWord flow
    if word.isEmpty then return ⟨[], gap.broken⟩
    let more ← plainRest flow indent n
    return ⟨gap.text ++ word ++ more.text, more.broken⟩

/-- A plain scalar; `indent` is the least column of its lines
    outside flow collections. -/
def plainScalar (flow : Bool) (indent : Nat) : Reader PlainScalar := do
  let first ← plainWord flow
  let more ← plainRest flow indent ((← ahead).length + 1)
  return ⟨first ++ more.text, more.broken⟩

end Reader

end SpanPipeline.Yaml
