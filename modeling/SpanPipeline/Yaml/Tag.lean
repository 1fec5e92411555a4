/-
  SpanPipeline.Yaml.Tag
  ─────────────────────
  The tags of nodes, and which tag a plain scalar has by its text.

  Plain text is a truth value, a number, null, a moment or one of
  two special keys by its form, and a text otherwise.  One line
  feed at the end does not count.

  Main results:
    * `ofPlain_word` — a word of a truth value is one.
-/
import SpanPipeline.Text.Cut
import SpanPipeline.Text.Percent

namespace SpanPipeline.Yaml

open Text

/-! ## §1. Tags. -/

/-- A tag. -/
inductive Tag where
  | null
  | bool
  | int
  | float
  | binary
  | timestamp
  | str
  | seq
  | omap
  | pairs
  | map
  | set
  | merge
  | value
  /-- A tag of which nothing is known. -/
  | unknown
  deriving DecidableEq, Repr, Inhabited

namespace Tag

/-- What the names of all known tags start with. -/
def leading : String := "tag:yaml.org,2002:"

/-- The known tags by the rest of their names. -/
def known : List (String × Tag) :=
  [ ("null", .null), ("bool", .bool), ("int", .int), ("float", .float), ("binary", .binary),
    ("timestamp", .timestamp), ("str", .str), ("seq", .seq), ("omap", .omap),
    ("pairs", .pairs), ("map", .map), ("set", .set), ("merge", .merge), ("value", .value) ]

/-- The tag of a name. -/
def ofName (name : String) : Tag :=
  ((known.find? fun k => leading ++ k.1 == name).map Prod.snd).getD .unknown

/-- Values of the tag are collections. -/
def isCollection : Tag → Bool
  | .seq => true
  | .omap => true
  | .pairs => true
  | .map => true
  | .set => true
  | _ => false

end Tag

/-! ## §2. Forms of plain text. -/

namespace Plain

/-- The words of the truth values: lower case, capitalised, or upper
    case. -/
def truthWords : List String :=
  [ "yes", "Yes", "YES", "no", "No", "NO", "true", "True", "TRUE", "false", "False", "FALSE",
    "on", "On", "ON", "off", "Off", "OFF" ]

/-- The words of null. -/
def nullWords : List String := ["~", "null", "Null", "NULL", ""]

/-- A text without its sign. -/
def unsigned : List Char → List Char
  | '-' :: cs => cs
  | '+' :: cs => cs
  | cs => cs

/-- A digit or an underscore. -/
def isDigitMark (c : Char) : Bool := c.isDigit || c == '_'

/-- A part of a number to the base sixty: one digit, or two of
    which the first is at most five. -/
def isSixtieth : List Char → Bool
  | [a] => a.isDigit
  | [a, b] => '0' ≤ a && a ≤ '5' && b.isDigit
  | _ => false

/-- The text has at least one part after a colon, and all of those
    are sixtieths; the first part is of the given form. -/
def isSexagesimal (first : List Char → Bool) (cs : List Char) : Bool :=
  match splitOn ':' cs with
  | head :: parts => first head && !parts.isEmpty && parts.all isSixtieth
  | [] => false

/-- A number that starts with no zero. -/
def startsPositive : List Char → Bool
  | c :: cs => c.isDigit && c != '0' && cs.all isDigitMark
  | [] => false

/-- A number that starts with a digit. -/
def startsDigit : List Char → Bool
  | c :: cs => c.isDigit && cs.all isDigitMark
  | [] => false

/-- The form of a whole number. -/
def isWhole (cs : List Char) : Bool :=
  let cs := unsigned cs
  let radix := match cs with
    | '0' :: 'b' :: ds => !ds.isEmpty && ds.all fun c => c == '0' || c == '1' || c == '_'
    | '0' :: 'x' :: ds => !ds.isEmpty && ds.all fun c => isHexDigit c || c == '_'
    | '0' :: ds => ds.all fun c => '0' ≤ c && c ≤ '7' || c == '_'
    | _ => false
  radix || startsPositive cs || isSexagesimal startsPositive cs

/-- The form of an exponent: its mark, a sign and digits; or
    nothing. -/
def isExponent : List Char → Bool
  | [] => true
  | e :: s :: ds =>
    (e == 'e' || e == 'E') && (s == '-' || s == '+') && !ds.isEmpty && ds.all Char.isDigit
  | _ => false

/-- The form of a decimal number: digits, a point, and perhaps more
    digits and an exponent.  Without a digit before the point there
    is no sign, and one after it. -/
def isDecimal (cs : List Char) : Bool :=
  let tail (cs : List Char) := isExponent (cs.dropWhile isDigitMark)
  let fraction := match cs with
    | '.' :: c :: rest => c.isDigit && tail rest
    | _ => false
  fraction || match cut? '.' (unsigned cs) with
    | some (whole, rest) => startsDigit whole && tail rest
    | none => false

/-- The form of a number to the base sixty with a point. -/
def isSexagesimalDecimal (cs : List Char) : Bool :=
  match cut? '.' (unsigned cs) with
  | some (whole, rest) => isSexagesimal startsDigit whole && rest.all isDigitMark
  | none => false

/-- The words of infinity, which may have a sign, and of what is no
    number. -/
def isFloatWord (cs : List Char) : Bool :=
  [".inf", ".Inf", ".INF"].contains (String.ofList (unsigned cs))
    || [".nan", ".NaN", ".NAN"].contains (String.ofList cs)

/-- The form of a float. -/
def isFloat (cs : List Char) : Bool :=
  isDecimal cs || isSexagesimalDecimal cs || isFloatWord cs

end Plain

/-! ## §3. Moments. -/

/-- The parts of a moment as digits. -/
structure MomentText where
  year : List Char
  month : List Char
  day : List Char
  /-- Hour, minute and second. -/
  clock : Option (List Char × List Char × List Char)
  fraction : List Char := []
  /-- The offset from universal time: it is negative, and its hours
      and minutes. -/
  zone : Option (Bool × List Char × List Char) := none
  deriving Repr

namespace MomentText

/-- Digits at the start of a text, at least `least` and at most
    `most` of them, with the rest. -/
def digits? (least most : Nat) (cs : List Char) : Option (List Char × List Char) :=
  let ds := (cs.take most).takeWhile Char.isDigit
  if ds.length < least then none else some (ds, cs.drop ds.length)

/-- The rest of a text after a character. -/
def after? (c : Char) : List Char → Option (List Char)
  | d :: cs => if d = c then some cs else none
  | [] => none

/-- A space or a tab. -/
def isGapChar (c : Char) : Bool := c == ' ' || c == '\t'

/-- The offset that ends a text. -/
def readZone? : List Char → Option (Bool × List Char × List Char)
  | ['Z'] => some (false, ['0'], ['0'])
  | s :: cs => do
    guard (s = '-' || s = '+')
    let (hours, cs) ← digits? 1 2 cs
    match cs with
    | [] => return (s = '-', hours, ['0'])
    | _ =>
      let (minutes, cs) ← digits? 2 2 (← after? ':' cs)
      guard cs.isEmpty
      return (s = '-', hours, minutes)
  | [] => none

/-- The time of day, and what follows it, added to a date. -/
def readClock? (date : MomentText) (cs : List Char) : Option MomentText := do
  let (hour, cs) ← digits? 1 2 cs
  let (minute, cs) ← digits? 2 2 (← after? ':' cs)
  let (second, cs) ← digits? 2 2 (← after? ':' cs)
  let (fraction, cs) := match cs with
    | '.' :: cs => (cs.takeWhile Char.isDigit, cs.dropWhile Char.isDigit)
    | cs => ([], cs)
  let timed := { date with clock := some (hour, minute, second), fraction }
  if cs.isEmpty then return timed
  else return { timed with zone := some (← readZone? (cs.dropWhile isGapChar)) }

/-- The parts of a moment: a date, and perhaps a time of day. -/
def read? (cs : List Char) : Option MomentText := do
  let (year, cs) ← digits? 4 4 cs
  let (month, cs) ← digits? 1 2 (← after? '-' cs)
  let (day, cs) ← digits? 1 2 (← after? '-' cs)
  let date : MomentText := { year, month, day, clock := none }
  match cs with
  | [] => return date
  | c :: rest =>
    if c = 'T' || c = 't' then readClock? date rest
    else
      guard (isGapChar c)
      readClock? date (rest.dropWhile isGapChar)

end MomentText

/-- The form of a moment: a date alone has two digits for the month
    and the day. -/
def Plain.isMoment (cs : List Char) : Bool :=
  match MomentText.read? cs with
  | some m => m.clock.isSome || m.month.length == 2 && m.day.length == 2
  | none => false

/-! ## §4. The tag of plain text. -/

/-- A text without one line feed at its end, unless that is all. -/
def withoutBreak (cs : List Char) : List Char :=
  if cs.getLast? = some '\n' && cs.length ≠ 1 then cs.dropLast else cs

/-- The tag that a plain scalar has by its text. -/
def Tag.ofPlain (text : List Char) : Tag :=
  let cs := withoutBreak text
  let word := String.ofList cs
  if Plain.truthWords.contains word then .bool
  else if Plain.isFloat cs then .float
  else if Plain.isWhole cs then .int
  else if word = "<<" then .merge
  else if Plain.nullWords.contains word then .null
  else if Plain.isMoment cs then .timestamp
  else if word = "=" then .value
  else if ["!", "&", "*"].contains word then .unknown
  else .str

theorem Tag.ofPlain_word {word : String} (h : word ∈ Plain.truthWords) :
    Tag.ofPlain word.toList = .bool := by
  revert word
  decide

end SpanPipeline.Yaml
