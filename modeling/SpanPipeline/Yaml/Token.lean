/-
  SpanPipeline.Yaml.Token
  ───────────────────────
  The tokens of a document, and how names, tags and directives are
  written.

  Main results:
    * `isNameChar_isAlphanum` — letters and digits may stand in a
      name.
-/
import SpanPipeline.Yaml.Quoted
import SpanPipeline.Text.Utf8

namespace SpanPipeline.Yaml

open Text

/-! ## §1. Tokens. -/

/-- A tag as it is written: a suffix after the handle of a prefix,
    or a whole name. -/
structure TagName where
  handle : Option String
  suffix : String
  deriving DecidableEq, Repr

/-- A directive before a document. -/
inductive Directive where
  /-- The version of the format. -/
  | version (major minor : Nat)
  /-- A handle for a prefix of tags. -/
  | handle (handle leading : String)
  /-- Any other, which is ignored. -/
  | other
  deriving DecidableEq, Repr

/-- A token. -/
inductive Token where
  | directive (d : Directive)
  | documentStart
  | documentEnd
  | streamEnd
  | blockSequence
  | blockMapping
  | blockEnd
  | blockEntry
  | flowSequence
  | flowSequenceEnd
  | flowMapping
  | flowMappingEnd
  | flowEntry
  | key
  | value
  | alias (name : String)
  | anchor (name : String)
  | tag (t : TagName)
  | scalar (text : List Char) (plain : Bool)
  deriving DecidableEq, Repr

/-! ## §2. Names. -/

/-- A character of the name of an anchor, a handle or a
    directive. -/
def isNameChar (c : Char) : Bool :=
  c.isAlphanum || c == '-' || c == '_'

theorem isNameChar_isAlphanum {c : Char} (h : c.isAlphanum = true) : isNameChar c = true := by
  simp [isNameChar, h]

/-- A character that a tag may hold, the percent sign of an escape
    apart. -/
def isTagChar (c : Char) : Bool :=
  c.isAlphanum || "-;/?:@&=+$,_.!~*'()[]".toList.contains c

/-- A character that may follow an anchor directly. -/
def followsAnchor (c : Char) : Bool :=
  "?:,]\x7d%@`".toList.contains c

namespace Reader

/-- A name of at least one character. -/
def name : Reader String := do
  let cs ← takeWhile isNameChar
  require (!cs.isEmpty)
  return String.ofList cs

/-- The name of an anchor or an alias, after its indicator. -/
def anchorName : Reader String := do
  skip 1
  let n ← name
  let next ← peek
  require (endsWord next || (next.map followsAnchor).getD false)
  return n

/-! ## §3. Tags. -/

/-- A byte as an escape writes it. -/
def escapedByte : Reader (Option UInt8) := do
  match ← ahead with
  | '%' :: rest =>
    let digits := rest.take 2
    require (digits.length == 2 && digits.all isHexDigit)
    skip 3
    return some (UInt8.ofNat (ofAscii 16 digits))
  | _ => return none

/-- The characters that a run of escapes stands for. -/
def escapedChars : Reader (List Char) := do
  match decodeUtf8 (← many escapedByte) with
  | .ok cs => return cs
  | .error _ => throw .malformed

/-- A character of a tag, or a run of escapes. -/
def tagPiece : Reader (Option (List Char)) := do
  match ← peek with
  | none => return none
  | some c =>
    if c = '%' then return some (← escapedChars)
    else if isTagChar c then
      skip 1
      return some [c]
    else return none

/-- The suffix of a tag, or a prefix in a directive. -/
def tagText : Reader String := do
  let pieces ← many tagPiece
  require (!pieces.isEmpty)
  return String.ofList pieces.flatten

/-- A handle: an exclamation mark alone, or a name between two. -/
def tagHandle : Reader String := do
  require ((← peek) = some '!')
  skip 1
  if (← peek) = some ' ' then return "!"
  let cs ← takeWhile isNameChar
  require ((← peek) = some '!')
  skip 1
  return "!" ++ String.ofList cs ++ "!"

/-- A tag, from its indicator on. -/
def tagName : Reader TagName := do
  let rest := (← ahead).tail
  let t ←
    if rest.head? = some '<' then do
      skip 2
      let text ← tagText
      require ((← peek) = some '>')
      skip 1
      pure ⟨none, text⟩
    else if endsWord rest.head? then do
      skip 1
      pure ⟨none, "!"⟩
    else if (rest.takeWhile fun c => !endsField (some c)).contains '!' then do
      let handle ← tagHandle
      pure ⟨some handle, ← tagText⟩
    else do
      skip 1
      pure ⟨some "!", ← tagText⟩
  require (endsField (← peek))
  return t

/-! ## §4. Directives. -/

/-- A number in a version. -/
def versionNumber : Reader Nat := do
  let digits ← takeWhile Char.isDigit
  require (!digits.isEmpty)
  if maxDigits < digits.length then throw (.manyDigits digits.length)
  return ofAscii 10 digits

/-- The version of the format. -/
def version : Reader Directive := do
  skipWhile (· == ' ')
  let major ← versionNumber
  require ((← peek) = some '.')
  skip 1
  let minor ← versionNumber
  require (endsField (← peek))
  return .version major minor

/-- A handle and its prefix. -/
def handleDirective : Reader Directive := do
  skipWhile (· == ' ')
  let handle ← tagHandle
  require ((← peek) = some ' ')
  skipWhile (· == ' ')
  let leading ← tagText
  require (endsField (← peek))
  return .handle handle leading

/-- A directive with its line. -/
def directive : Reader Directive := do
  skip 1
  let n ← name
  require (endsField (← peek))
  let d ←
    if n = "YAML" then version
    else if n = "TAG" then handleDirective
    else do
      skipWhile (!isBreak ·)
      pure .other
  finishLine
  return d

end Reader

end SpanPipeline.Yaml
