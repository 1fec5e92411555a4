/-
  SpanPipeline.Logging.Layout
  ───────────────────────────
  Log lines laid out by a format.

  A format holds specifications: a percent sign, the name of a
  field in parentheses, and how it is written: flags, a width, a
  precision and a letter for the kind.  A layout is accepted when
  some such specification stands in it.  Writing a line may still
  fail; then nothing is written for it.

  Main results:
    * `make_eq_ok` — which formats make a layout.
-/
import SpanPipeline.Logging.Clock
import SpanPipeline.Logging.Level
import SpanPipeline.Number.Notation
import SpanPipeline.Number.Arithmetic
import SpanPipeline.Datum
import SpanPipeline.Text.Word

namespace SpanPipeline.Logging

open Text Number

/-! ## §1. Lines. -/

/-- Where and when something is logged. -/
structure Circumstance where
  time : Calendar.DateTime := origin
  path : String := ""
  fileName : String := ""
  moduleName : String := ""
  function : String := ""
  line : Nat := 0
  process : Nat := 0
  thread : Nat := 0
  /-- Milliseconds since the program started. -/
  age : Binary64 := .zero
  deriving DecidableEq, Repr

/-- The value of a field. -/
inductive FieldValue where
  | datum (d : Datum)
  /-- Any other object, by its text and its quoted form. -/
  | object (text display : String)

/-- A line of a log before it is laid out. -/
structure Line where
  logger : String
  level : Int
  message : String
  /-- Further fields. -/
  extra : List (String × FieldValue) := []
  circumstance : Circumstance := {}

/-- The fields of a line, where `time` is the text of its time. -/
def Line.fields (l : Line) (time : String) : List (String × FieldValue) :=
  let c := l.circumstance
  let seconds : Binary64 := (Binary64.ofWhole? (secondsSince c.time).toNat).getD .zero
  let own : List (String × Datum) :=
    [ ("name", .text l.logger), ("msg", .text l.message),
      ("levelname", .text (levelText l.level)), ("levelno", .int l.level),
      ("pathname", .text c.path), ("filename", .text c.fileName), ("module", .text c.moduleName),
      ("lineno", .int c.line), ("funcName", .text c.function),
      ("exc_info", .null), ("exc_text", .null), ("stack_info", .null),
      ("created", .float seconds), ("msecs", .float .zero), ("relativeCreated", .float c.age),
      ("thread", .int c.thread), ("threadName", .text "MainThread"),
      ("process", .int c.process), ("processName", .text "MainProcess"),
      ("message", .text l.message), ("asctime", .text time) ]
  l.extra ++ ("args", .object "()" "()") :: own.map fun f => (f.1, .datum f.2)

/-! ## §2. Specifications. -/

/-- How a value is written. -/
structure Spec where
  field : String
  left : Bool := false
  plus : Bool := false
  blank : Bool := false
  alternate : Bool := false
  zeros : Bool := false
  width : Nat := 0
  precision : Option Nat := none
  /-- A width or a precision is to be taken from the values. -/
  starred : Bool := false
  kind : Char

/-- The text up to the closing parenthesis of the one before it, and
    what follows; `depth` parentheses are open inside. -/
def closing? (depth : Nat) : List Char → Option (List Char × List Char)
  | [] => none
  | c :: cs =>
    if c = ')' && depth = 0 then some ([], cs)
    else
      let inner := if c = '(' then depth + 1 else if c = ')' then depth - 1 else depth
      (closing? inner cs).map fun p => (c :: p.1, p.2)

/-- A flag of a specification. -/
def isSpecFlag (c : Char) : Bool :=
  c == '-' || c == '+' || c == ' ' || c == '#' || c == '0'

/-- A number or a star: its value, whether it is a star, and what
    follows. -/
def readSize (cs : List Char) : Option Nat × Bool × List Char :=
  match cs with
  | '*' :: rest => (none, true, rest)
  | cs =>
    let digits := cs.takeWhile Char.isDigit
    (if digits.isEmpty then none else some (ofAscii 10 digits), false, cs.drop digits.length)

/-- How a field is written, after its name, and what follows. -/
def readForm? (field : String) (cs : List Char) : Option (Spec × List Char) :=
  let flags := cs.takeWhile isSpecFlag
  let (width, widthStar, rest) := readSize (cs.dropWhile isSpecFlag)
  let (precision, precisionStar, rest) := match rest with
    | '.' :: rest =>
      let (p, star, rest) := readSize rest
      (some (p.getD 0), star, rest)
    | rest => (none, false, rest)
  let rest := match rest with
    | c :: more => if c = 'h' || c = 'l' || c = 'L' then more else rest
    | [] => []
  match rest with
  | [] => none
  | kind :: rest =>
    some ({ field
            left := flags.contains '-'
            plus := flags.contains '+'
            blank := flags.contains ' '
            alternate := flags.contains '#'
            zeros := flags.contains '0'
            width := width.getD 0
            precision
            starred := widthStar || precisionStar
            kind }, rest)

/-- The specification that follows a percent sign, and what follows
    it.  Without the name of a field there is none. -/
def readSpec? : List Char → Option (Spec × List Char)
  | '(' :: cs => (closing? 0 cs).bind fun p => readForm? (String.ofList p.1) p.2
  | _ => none

/-! ## §3. Which formats are accepted. -/

/-- The kinds that a format may ask for, in any letter case; dotted
    and dotless i and long s count as forms of i and s. -/
def isKind (c : Char) : Bool :=
  "diouxefgcrsa%".toList.contains c.toLower || [0x130, 0x131, 0x17f].contains c.toNat

/-- Without the digits at its start. -/
def afterDigits (cs : List Char) : List Char :=
  cs.dropWhile fun c => (digitValue? c).isSome

/-- Without digits, or a star, at its start. -/
def afterSize : List Char → List Char
  | '*' :: rest => rest
  | cs => afterDigits cs

/-- A specification of a field stands at the start of the text. -/
def startsField : List Char → Bool
  | '%' :: '(' :: cs =>
    let name := cs.takeWhile isWordChar
    match cs.dropWhile isWordChar with
    | ')' :: rest =>
      let rest := afterSize (rest.dropWhile isSpecFlag)
      let direct := (rest.head?.map isKind).getD false
      let precise := match rest with
        | '.' :: '*' :: rest => (rest.head?.map isKind).getD false
        | '.' :: d :: rest =>
          (digitValue? d).isSome && ((afterDigits rest).head?.map isKind).getD false
        | _ => false
      !name.isEmpty && (direct || precise)
    | _ => false
  | _ => false

/-- A specification of a field stands somewhere in the text. -/
def hasField : List Char → Bool
  | [] => false
  | c :: cs => startsField (c :: cs) || hasField cs

/-- A format for lines, with one for their times. -/
structure Layout where
  format : String
  timeFormat : String
  deriving DecidableEq, Repr

namespace Layout

/-- The format of lines that have but their message. -/
def bare : Layout := ⟨"%(message)s", ""⟩

/-- The layout of the two formats, if the first is accepted.  An
    empty one gives the message. -/
def make? (format timeFormat : String) : Option Layout :=
  let format := if format = "" then bare.format else format
  if hasField format.toList then some ⟨format, timeFormat⟩ else none

theorem make_eq_ok {format timeFormat : String} (h : format ≠ "") :
    make? format timeFormat = some ⟨format, timeFormat⟩ ↔ hasField format.toList = true := by
  simp [make?, h]

end Layout

/-! ## §4. Writing values. -/

/-- A text with its width filled up. -/
def Spec.align (s : Spec) (cs : List Char) : List Char :=
  let fill := List.replicate (s.width - cs.length) ' '
  if s.left then cs ++ fill else fill ++ cs

/-- A number of which sign and size are given, with its width filled
    up; `mark` says the base. -/
def Spec.alignNumber (s : Spec) (negative : Bool) (mark size : List Char) : List Char :=
  let sign := if negative then ['-'] else if s.plus then ['+'] else if s.blank then [' '] else []
  let cs := mark ++ size
  if s.zeros && !s.left then
    sign ++ mark ++ List.replicate (s.width - sign.length - cs.length) '0' ++ size
  else s.align (sign ++ cs)

/-- The text of a value. -/
def plainText : Datum → String
  | .text s => s
  | d => d.display

/-- The quoted form of a text with every character in ASCII. -/
def asciiText (cs : List Char) : List Char :=
  cs.flatMap fun c => if c.toNat < 128 then [c] else codePointEscape c

/-- A whole number in a base. -/
def Spec.whole (s : Spec) (base : Nat) (mark : List Char) (upper : Bool) (n : Int) : List Char :=
  let digits := padZeros (s.precision.getD 0) (Nat.toDigits base n.natAbs)
  let cased (cs : List Char) := if upper then cs.map Char.toUpper else cs
  s.alignNumber (n < 0) (if s.alternate then cased mark else []) (cased digits)

/-- A float in one of the notations. -/
def Spec.float (s : Spec) (x : Binary64) : List Char :=
  let upper := s.kind.isUpper
  let cased (cs : List Char) := if upper then cs.map Char.toUpper else cs
  let places := s.precision.getD 6
  match x.dyadic? with
  | none => s.alignNumber x.isNegative [] (cased (if x = .nan then "nan".toList else "inf".toList))
  | some d =>
    let scale := if 0 ≤ d.exponent then Nat.pow 2 d.exponent.toNat else 1
    let num := d.multiple.natAbs * scale
    let den := if 0 ≤ d.exponent then 1 else Nat.pow 2 (-d.exponent).toNat
    let size := match s.kind.toLower with
      | 'f' => fixedNotation s.alternate places num den
      | 'e' => scientificNotation s.alternate 'e' places num den
      | _ => generalNotation s.alternate 'e' places num den
    s.alignNumber x.isNegative [] (cased size)

/-- The whole number of a value that is a number. -/
def toWhole? : Datum → Option Int
  | .int n => some n
  | .bool b => some (if b then 1 else 0)
  | _ => none

/-- The float of a value that is a number. -/
def toFloat? : Datum → Option Binary64
  | .float x => some x
  | d => do
    let n ← toWhole? d
    let x ← Binary64.ofWhole? n.natAbs
    return if n < 0 then x.neg else x

/-- The whole part of a value that is a number. -/
def truncated? : Datum → Option Int
  | .float x => do
    let d ← x.dyadic?
    return if 0 ≤ d.exponent then d.multiple * Nat.pow 2 d.exponent.toNat
      else Int.tdiv d.multiple (Nat.pow 2 (-d.exponent).toNat)
  | d => toWhole? d

/-- A text cut off at its precision, with its width filled up. -/
def Spec.text (s : Spec) (cs : List Char) : List Char :=
  s.align (match s.precision with
    | some p => cs.take p
    | none => cs)

/-- A datum as a specification asks for it; none when it is not of
    the kind. -/
def Spec.writeDatum? (s : Spec) (d : Datum) : Option (List Char) :=
  match s.kind with
  | 's' => some (s.text (plainText d).toList)
  | 'r' => some (s.text d.display.toList)
  | 'a' => some (s.text (asciiText d.display.toList))
  | 'c' => match d with
    | .text t => if t.length = 1 then some (s.align t.toList) else none
    | d => do
      let n ← toWhole? d
      guard (0 ≤ n && n.toNat.isValidChar)
      return s.align [Char.ofNat n.toNat]
  | 'o' => (toWhole? d).map (s.whole 8 ['0', 'o'] false)
  | 'x' => (toWhole? d).map (s.whole 16 ['0', 'x'] false)
  | 'X' => (toWhole? d).map (s.whole 16 ['0', 'x'] true)
  | kind =>
    if kind = 'd' || kind = 'i' || kind = 'u' then
      (truncated? d).map (s.whole 10 [] false)
    else if "eEfFgG".toList.contains kind then (toFloat? d).map s.float
    else none

/-- An object as a specification asks for it, which must be for a
    text. -/
def Spec.writeObject? (s : Spec) (text display : String) : Option (List Char) :=
  match s.kind with
  | 's' => some (s.text text.toList)
  | 'r' => some (s.text display.toList)
  | 'a' => some (s.text (asciiText display.toList))
  | _ => none

/-- A value as a specification asks for it; none when it is not of
    the kind. -/
def Spec.write? (s : Spec) : FieldValue → Option (List Char)
  | .datum d => s.writeDatum? d
  | .object text display => s.writeObject? text display

/-! ## §5. Writing lines. -/

/-- The rest of a line, which holds at most `bound` specifications.
    Two percent signs stand for one.  Widths that are to be taken
    from the values find none. -/
def writeFrom (fields : List (String × FieldValue)) : Nat → List Char → Option (List Char)
  | 0, _ => none
  | _, [] => some []
  | bound + 1, '%' :: '%' :: cs => do return '%' :: (← writeFrom fields bound cs)
  | bound + 1, '%' :: cs => do
    let (s, rest) ← readSpec? cs
    guard !s.starred
    let text ← s.write? (← fields.lookup s.field)
    return text ++ (← writeFrom fields bound rest)
  | bound + 1, c :: cs => do return c :: (← writeFrom fields bound cs)

/-- The text has the specification of a time in it. -/
def usesTime : List Char → Bool
  | [] => false
  | c :: cs => "%(asctime)".toList.isPrefixOf (c :: cs) || usesTime cs

/-- The text of a line; none when it cannot be written.  A format of
    times holds no character of code zero. -/
def Layout.write? (l : Layout) (line : Line) : Option String := do
  guard !(usesTime l.format.toList && l.timeFormat.toList.contains '\x00')
  let time := String.ofList (timeText l.timeFormat line.circumstance.time)
  let cs ← writeFrom (line.fields time) (l.format.length + 1) l.format.toList
  return String.ofList cs

end SpanPipeline.Logging
