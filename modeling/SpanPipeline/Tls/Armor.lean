/-
  SpanPipeline.Tls.Armor
  ──────────────────────
  Blocks of data in a text, each between a BEGIN and an END line
  that carry its label, with the data in base64 between them.

  Lines are taken in pieces of at most 254 bytes and lose the white
  space and the bytes beyond ASCII at their end.  Text outside of
  the blocks is skipped.  A block may open with header lines, which
  a blank line ends; after a blank line no line is longer than 64
  bytes and only the last one is shorter.

  Main results:
    * `nextPiece_length_lt` — a piece takes some bytes.
-/
import SpanPipeline.Text.Base64

namespace SpanPipeline.Tls

open Text

/-! ## §1. Lines. -/

/-- A line, or a piece of a long one. -/
structure ArmorLine where
  /-- The text without what is dropped at its end. -/
  text : List UInt8
  /-- The line goes on in the next piece. -/
  continues : Bool
  /-- A colon marks a header line. -/
  hasColon : Bool
  deriving Repr

/-- Bytes of the longest piece. -/
def longestPiece : Nat := 254

/-- The first piece of a text, up to and with a line feed, and the
    rest. -/
def nextPiece : Nat → List UInt8 → List UInt8 × List UInt8
  | _, [] => ([], [])
  | 0, bs => ([], bs)
  | limit + 1, b :: bs =>
    if b = 0x0a then ([b], bs)
    else (b :: (nextPiece limit bs).1, (nextPiece limit bs).2)

theorem nextPiece_length (limit : Nat) (bs : List UInt8) :
    (nextPiece limit bs).2.length ≤ bs.length := by
  fun_induction nextPiece limit bs with
  | case1 => simp
  | case2 => simp
  | case3 => simp
  | case4 limit b bs _ ih => exact Nat.le_succ_of_le ih

theorem nextPiece_length_lt {limit : Nat} (h : 0 < limit) {bs : List UInt8} (hb : bs ≠ []) :
    (nextPiece limit bs).2.length < bs.length := by
  match limit, bs, h, hb with
  | limit + 1, b :: bs, _, _ =>
    unfold nextPiece
    split
    · simp
    · exact Nat.lt_succ_of_le (nextPiece_length limit bs)

/-- A byte that is dropped at the end of a line. -/
def isDroppedAtEnd (b : UInt8) : Bool := b ≤ 0x20 || 0x80 ≤ b

/-- The line of a piece, which a zero byte cuts short. -/
def lineOfPiece (piece : List UInt8) : ArmorLine :=
  let seen := piece.takeWhile (· != 0)
  { text := (seen.reverse.dropWhile isDroppedAtEnd).reverse
    continues := seen.length == longestPiece && seen.getLast? != some 0x0a
    hasColon := seen.contains 0x3a }

/-- The lines of a text.  They end at a line that starts with a
    zero byte. -/
def armorLines (bs : List UInt8) : List ArmorLine :=
  if h : bs = [] then []
  else
    have : (nextPiece longestPiece bs).2.length < bs.length :=
      nextPiece_length_lt (by decide) h
    if bs.head? = some 0 then []
    else lineOfPiece (nextPiece longestPiece bs).1 :: armorLines (nextPiece longestPiece bs).2
  termination_by bs.length

/-! ## §2. Blocks. -/

/-- A block of data. -/
structure ArmorBlock where
  label : List UInt8
  /-- Header lines, each with its line feed. -/
  header : List UInt8
  content : List UInt8

/-- What stands before the label on the first line of a block. -/
def beginMark : List UInt8 := "-----BEGIN ".toUTF8.toList

/-- What stands before the label on the last line of a block. -/
def endMark : List UInt8 := "-----END ".toUTF8.toList

/-- What stands after a label. -/
def closeMark : List UInt8 := "-----".toUTF8.toList

/-- What follows `start` in a text that begins with it. -/
def after? (start text : List UInt8) : Option (List UInt8) :=
  if start.isPrefixOf text then some (text.drop start.length) else none

/-- The label on the first line of a block. -/
def beginLabel? (text : List UInt8) : Option (List UInt8) :=
  (after? beginMark text).bind fun rest =>
    if closeMark.isSuffixOf rest then some (rest.take (rest.length - closeMark.length))
    else none

/-- The text without a byte order mark at its start. -/
def withoutMark (text : List UInt8) : List UInt8 :=
  match text with
  | 0xef :: 0xbb :: 0xbf :: rest => if rest.isEmpty then text else rest
  | _ => text

/-- The first block's label and the lines after it.  A byte order
    mark is skipped on the first line that is looked at. -/
def findBlock? (first : Bool) : List ArmorLine → Option (List UInt8 × List ArmorLine)
  | [] => none
  | l :: ls =>
    match beginLabel? (if first then withoutMark l.text else l.text) with
    | some label => some (label, ls)
    | none => findBlock? false ls

/-- How far the header of a block has been read. -/
inductive HeaderState where
  /-- There may be a header. -/
  | possible
  /-- A header line was seen. -/
  | inside
  /-- A blank line was seen. -/
  | passed
  deriving DecidableEq, Repr

/-- Bytes of a full line after a header. -/
def fullLine : Nat := 64

/-- A block while it is being read: the lines before a blank line
    and those after it, last line first. -/
structure ArmorPart where
  state : HeaderState := .possible
  continued : Bool := false
  /-- A short line was seen after a header. -/
  ended : Bool := false
  before : List (List UInt8) := []
  after : List (List UInt8) := []

/-- The lines in order, each with a line feed. -/
def joinLines (lines : List (List UInt8)) : List UInt8 :=
  lines.reverse.flatMap fun l => l ++ [0x0a]

/-- What a line does to a block. -/
inductive ArmorStep where
  /-- The block is malformed. -/
  | fail
  /-- The block goes on. -/
  | goOn (part : ArmorPart)
  /-- The block ends, with its header and its data. -/
  | done (header content : List UInt8)

/-- Take one line of the block with a label. -/
def ArmorPart.take (label : List UInt8) (part : ArmorPart) (l : ArmorLine) : ArmorStep :=
  let state := if part.state = .possible && l.hasColon then .inside else part.state
  if l.text.isEmpty then
    if part.continued then .goOn { part with state := state, continued := l.continues }
    else if state = .passed then .fail
    else .goOn { part with state := .passed, continued := l.continues }
  else match after? endMark l.text with
    | some rest =>
      if rest ≠ label ++ closeMark then .fail
      else if state = .possible then .done [] (joinLines part.before)
      else .done (joinLines part.before) (joinLines part.after)
    | none =>
      if part.ended then .fail
      else if state = .passed then
        if fullLine < l.text.length then .fail
        else .goOn { part with
          state := state, continued := l.continues, ended := l.text.length < fullLine
          after := l.text :: part.after }
      else .goOn { part with
        state := state, continued := l.continues, before := l.text :: part.before }

/-- Header and data of the block with a label, and the lines after
    it; `none` if the block is malformed. -/
def readBody? (label : List UInt8) (part : ArmorPart) :
    List ArmorLine → Option (List UInt8 × List UInt8 × List ArmorLine)
  | [] => none
  | l :: ls =>
    match part.take label l with
    | .fail => none
    | .done header content => some (header, content, ls)
    | .goOn part => readBody? label part ls

theorem findBlock?_length {first : Bool} {ls rest : List ArmorLine} {label : List UInt8}
    (h : findBlock? first ls = some (label, rest)) : rest.length < ls.length := by
  induction ls generalizing first with
  | nil => simp [findBlock?] at h
  | cons l ls ih =>
    unfold findBlock? at h
    split at h
    · simp only [Option.some.injEq, Prod.mk.injEq] at h
      simp [h.2]
    · have := ih h
      simp only [List.length_cons]
      omega

theorem readBody?_length {label : List UInt8} {part : ArmorPart} {ls rest : List ArmorLine}
    {header content : List UInt8}
    (h : readBody? label part ls = some (header, content, rest)) : rest.length ≤ ls.length := by
  induction ls generalizing part with
  | nil => simp [readBody?] at h
  | cons l ls ih =>
    unfold readBody? at h
    split at h
    · simp at h
    · simp only [Option.some.injEq, Prod.mk.injEq] at h
      simp [h.2.2]
    · have := ih h
      simp only [List.length_cons]
      omega

/-- All blocks of a text, decoded; `none` when one is malformed or
    empty. -/
def readBlocks? (ls : List ArmorLine) : Option (List ArmorBlock) :=
  match h : findBlock? true ls with
  | none => some []
  | some (label, inner) =>
    match h' : readBody? label {} inner with
    | none => none
    | some (header, data, rest) =>
      have : rest.length < ls.length :=
        Nat.lt_of_le_of_lt (readBody?_length h') (findBlock?_length h)
      match Base64.decodeStrict data with
      | none => none
      | some content =>
        if content.isEmpty then none
        else (readBlocks? rest).map (⟨label, header, content⟩ :: ·)
  termination_by ls.length

/-- All blocks of a text. -/
def armorBlocks? (bs : List UInt8) : Option (List ArmorBlock) :=
  readBlocks? (armorLines bs)

end SpanPipeline.Tls
