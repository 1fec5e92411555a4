/-
  SpanPipeline.Yaml.Lexer
  ───────────────────────
  The tokens of a text.

  Collections in block style begin and end by indentation.  A key
  without an indicator is recognised only at the colon after it, so
  the lexer remembers where such a key may have started and puts
  the indicator there once the colon comes.  A key takes one line
  and at most 1024 characters.

  A fault ends the tokens.  The tokens before it are given, as far
  as it was settled which of them are keys.

  Main results:
    * `unwind_indents` — after unwinding no collection is deeper
      than the column.
-/
import SpanPipeline.Yaml.Token
import SpanPipeline.Yaml.Plain
import SpanPipeline.Yaml.Block

namespace SpanPipeline.Yaml

/-! ## §1. State. -/

/-- A place where a key may have started. -/
structure PendingKey where
  /-- The number of tokens before it. -/
  position : Nat
  /-- Nothing but a key can stand there. -/
  required : Bool
  start : Cursor
  deriving Inhabited

/-- The most characters of a key without an indicator. -/
def longestKey : Nat := 1024

/-- A colon at the cursor comes too late for the key. -/
def PendingKey.isStale (k : PendingKey) (c : Cursor) : Bool :=
  k.start.line != c.line || k.start.index + longestKey < c.index

/-- What the lexer knows between two tokens. -/
structure Lexer where
  cursor : Cursor
  tokens : Array Token := #[]
  /-- The columns of the block collections around, the innermost
      first. -/
  indents : List Nat := []
  /-- The key that may have started in the current flow collection,
      or outside of all. -/
  pending : Option PendingKey := none
  /-- The same for the collections around, the innermost first. -/
  outer : List (Option PendingKey) := []
  /-- A key may start here. -/
  keyAllowed : Bool := true

namespace Lexer

/-- A character that no plain scalar starts with, whatever
    follows. -/
def startsNoPlain (c : Char) : Bool :=
  "\t,[]\x7b\x7d#&*!|>'\"%@`".toList.contains c

/-- The cursor is inside a flow collection. -/
def inFlow (s : Lexer) : Bool := !s.outer.isEmpty

/-- The least column of a scalar inside the innermost block
    collection. -/
def scalarIndent (s : Lexer) : Nat :=
  match s.indents with
  | [] => 0
  | i :: _ => i + 1

/-- Add a token. -/
def push (t : Token) (s : Lexer) : Lexer := { s with tokens := s.tokens.push t }

/-- The collections that are not deeper than a column. -/
def shallow (column : Nat) (indents : List Nat) : List Nat :=
  indents.dropWhile fun i => column < i

/-- End the block collections `ended`, which are innermost, and keep
    the others. -/
def endBlocks (s : Lexer) (kept : List Nat) : Lexer :=
  let ended := s.indents.length - kept.length
  { s with
    indents := kept
    tokens := s.tokens ++ Array.replicate ended Token.blockEnd }

/-- Outside flow collections, end the block collections that are
    deeper than the cursor. -/
def unwind (s : Lexer) : Lexer :=
  if s.inFlow then s else s.endBlocks (shallow s.cursor.column s.indents)

theorem unwind_indents {s : Lexer} (h : s.inFlow = false) {i : Nat}
    (hi : s.unwind.indents.head? = some i) : i ≤ s.cursor.column := by
  simp only [unwind, h, endBlocks, shallow, Bool.false_eq_true, if_false] at hi
  have := List.head?_dropWhile_not (fun i => decide (s.cursor.column < i)) s.indents
  rw [hi] at this
  simpa using this

/-- Outside flow collections, end all block collections. -/
def unwindAll (s : Lexer) : Lexer :=
  if s.inFlow then s else s.endBlocks []

/-- Begin a block collection at a column, unless one that is as deep
    is there; its token goes to a position. -/
def beginBlock (column : Nat) (t : Token) (position : Nat) (s : Lexer) : Lexer :=
  let deeper := match s.indents with
    | [] => true
    | i :: _ => i < column
  if deeper then
    { s with
      indents := column :: s.indents
      tokens := s.tokens.insertIdxIfInBounds position t }
  else s

/-- The key is not one after all. -/
def dropKey (s : Lexer) : Except Fault Lexer :=
  match s.pending with
  | some k => if k.required then .error .malformed else .ok { s with pending := none }
  | none => .ok s

/-- A key may start at the cursor. -/
def saveKey (s : Lexer) : Except Fault Lexer :=
  if s.keyAllowed then do
    let required := !s.inFlow && s.indents.head? == some s.cursor.column
    let s ← s.dropKey
    return { s with pending := some ⟨s.tokens.size, required, s.cursor⟩ }
  else return s

/-- A pending key, unless the colon would come too late. -/
def freshKey (c : Cursor) (k : Option PendingKey) : Option PendingKey :=
  k.filter fun k => !k.isStale c

/-- Forget the keys for which the colon would come too late. -/
def dropStale (s : Lexer) : Except Fault Lexer :=
  if (s.pending :: s.outer).any fun k =>
      (k.filter fun k => k.required && k.isStale s.cursor).isSome then .error .malformed
  else
    return { s with
      pending := freshKey s.cursor s.pending
      outer := s.outer.map (freshKey s.cursor) }

/-- The tokens of which it is settled whether they are keys. -/
def settled (s : Lexer) : List Token :=
  let waiting := ((s.pending :: s.outer).filterMap (freshKey s.cursor)).map PendingKey.position
  s.tokens.toList.take (waiting.foldl min s.tokens.size)

/-! ## §2. Reading. -/

/-- An activity of the lexer. -/
abbrev Step : Type := StateT Lexer (Except Fault) Unit

/-- Let a reader move the cursor. -/
def reading (r : Reader α) : StateT Lexer (Except Fault) α := do
  let s ← get
  let (x, c) ← r.run s.cursor
  set { s with cursor := c }
  return x

/-- Change the state, unless that is at fault. -/
def change (f : Lexer → Except Fault Lexer) : Step := do
  set (← f (← get))

/-- Go past blanks and comments.  Outside flow collections a key may
    start on a new line. -/
def toNextToken : Step := do
  let step : Reader (Option Char) := do
    Reader.skipWhile (· == ' ')
    if (← Reader.peek) = some '#' then Reader.skipWhile (!isBreak ·)
    Reader.lineBreak?
  let s ← get
  if s.cursor.index = 0 && s.cursor.rest.head? = some byteOrderMark then reading (Reader.skip 1)
  let breaks ← reading (Reader.many step)
  if !breaks.isEmpty && !s.inFlow then modify ({ · with keyAllowed := true })

/-- A token of `size` characters. -/
def take (size : Nat) (t : Token) : Step := do
  reading (Reader.skip size)
  modify (push t)

/-- A marker or a directive: it ends all block collections. -/
def atMargin (act : Step) : Step := do
  modify unwindAll
  change dropKey
  modify ({ · with keyAllowed := false })
  act

/-- The end of the text. -/
def finish : Step := atMargin (modify (push .streamEnd))

/-- The start of a flow collection. -/
def beginFlow (t : Token) : Step := do
  change saveKey
  modify fun s => { s with outer := s.pending :: s.outer, pending := none, keyAllowed := true }
  take 1 t

/-- The end of a flow collection. -/
def endFlow (t : Token) : Step := do
  change dropKey
  match (← get).outer with
  | [] => throw .malformed
  | pending :: outer =>
    modify ({ · with pending, outer, keyAllowed := false })
    take 1 t

/-- A comma. -/
def flowEntry : Step := do
  modify ({ · with keyAllowed := true })
  change dropKey
  take 1 .flowEntry

/-- The start of an entry by its indicator, which may begin a block
    collection. -/
def beginEntry (collection : Token) : Step := do
  let s ← get
  if !s.inFlow then
    if !s.keyAllowed then throw .malformed
    modify (beginBlock s.cursor.column collection s.tokens.size)

/-- A hyphen before an item. -/
def blockEntry : Step := do
  beginEntry .blockSequence
  modify ({ · with keyAllowed := true })
  change dropKey
  take 1 .blockEntry

/-- A question mark before a key. -/
def keyIndicator : Step := do
  beginEntry .blockMapping
  modify fun s => { s with keyAllowed := !s.inFlow }
  change dropKey
  take 1 .key

/-- A colon before a value.  It settles that a key has started. -/
def valueIndicator : Step := do
  let s ← get
  match s.pending with
  | some k =>
    modify fun s => { s with
      pending := none
      tokens := s.tokens.insertIdxIfInBounds k.position .key
      keyAllowed := false }
    if !s.inFlow then modify (beginBlock k.start.column .blockMapping k.position)
  | none =>
    beginEntry .blockMapping
    modify fun s => { s with keyAllowed := !s.inFlow }
  take 1 .value

/-- A token that may be a key or start one. -/
def keyLike (r : Reader Token) : Step := do
  change saveKey
  modify ({ · with keyAllowed := false })
  let t ← reading r
  modify (push t)

/-- A plain scalar.  A key may follow when it ends at the start of a
    line. -/
def plain : Step := do
  change saveKey
  let s ← get
  let scalar ← reading (Reader.plainScalar s.inFlow s.scalarIndent)
  modify ({ · with keyAllowed := scalar.broken })
  modify (push (.scalar scalar.text true))

/-- A block scalar.  A key may follow. -/
def block (folded : Bool) : Step := do
  modify ({ · with keyAllowed := true })
  change dropKey
  let text ← reading (Reader.blockScalar folded (max 1 (← get).scalarIndent))
  modify (push (.scalar text false))

/-- The token that starts with the character `c` before `rest`. -/
def dispatch (c : Char) (rest : List Char) : Step := do
  let s ← get
  let atStart := s.cursor.column = 0
  let alone := endsWord rest.head?
  if c = '%' && atStart then atMargin do modify (push (.directive (← reading Reader.directive)))
  else if atStart && startsMarker '-' (c :: rest) then atMargin (take 3 .documentStart)
  else if atStart && startsMarker '.' (c :: rest) then atMargin (take 3 .documentEnd)
  else if c = '[' then beginFlow .flowSequence
  else if c = '\x7b' then beginFlow .flowMapping
  else if c = ']' then endFlow .flowSequenceEnd
  else if c = '\x7d' then endFlow .flowMappingEnd
  else if c = ',' then flowEntry
  else if c = '-' && alone then blockEntry
  else if c = '?' && (s.inFlow || alone) then keyIndicator
  else if c = ':' && (s.inFlow || alone) then valueIndicator
  else if c = '*' then keyLike (Token.alias <$> Reader.anchorName)
  else if c = '&' then keyLike (Token.anchor <$> Reader.anchorName)
  else if c = '!' then keyLike (Token.tag <$> Reader.tagName)
  else if c = '|' && !s.inFlow then block false
  else if c = '>' && !s.inFlow then block true
  else if c = '\'' then keyLike ((Token.scalar · false) <$> Reader.quotedScalar false)
  else if c = '"' then keyLike ((Token.scalar · false) <$> Reader.quotedScalar true)
  else if c = '-' || c = '?' || c = ':' || !startsNoPlain c then
    -- the indicators of entries get here only when no gap follows
    plain
  else throw .malformed

/-- The next token; true at the end of the text. -/
def next : StateT Lexer (Except Fault) Bool := do
  toNextToken
  change dropStale
  modify unwind
  match (← get).cursor.rest with
  | [] =>
    finish
    return true
  | c :: rest =>
    dispatch c rest
    return false

/-! ## §3. The whole text. -/

/-- The tokens of a text, with the fault that ends them. -/
structure Lexemes where
  tokens : List Token
  fault : Option Fault

/-- At most `n` further tokens. -/
def run : Nat → Lexer → Lexemes
  | 0, s => ⟨s.settled, none⟩
  | n + 1, s =>
    match next.run s with
    | .error f => ⟨s.settled, some f⟩
    | .ok (true, s) => ⟨s.tokens.toList, none⟩
    | .ok (false, s) => run n s

end Lexer

/-- The tokens of a text.  Each but the end takes a character. -/
def lex (text : List Char) : Lexer.Lexemes :=
  if text.all isAllowed then
    let text := unifyBreaks text
    Lexer.run (text.length + 1) { cursor := { rest := text } }
  else ⟨[], some .malformed⟩

end SpanPipeline.Yaml
