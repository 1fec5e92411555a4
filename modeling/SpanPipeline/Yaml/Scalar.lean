/-
  SpanPipeline.Yaml.Scalar
  ────────────────────────
  The values of scalars by their tags.

  A number may hold underscores anywhere.  Whole numbers are binary
  after 0b, hexadecimal after 0x, octal after a zero, to the base
  sixty when they hold colons, and decimal otherwise.

  Main results:
    * `truth_eq_ok` — which words are truth values.
-/
import SpanPipeline.Yaml.Fault
import SpanPipeline.Yaml.Tag
import SpanPipeline.Datum
import SpanPipeline.Number.Arithmetic
import SpanPipeline.Text.Case
import SpanPipeline.Text.Base64

namespace SpanPipeline.Yaml

open Text Number Calendar

/-! ## §1. Truth values. -/

/-- The truth values of words in lower case. -/
def truths : List (String × Bool) :=
  [("yes", true), ("no", false), ("true", true), ("false", false), ("on", true), ("off", false)]

/-- The truth value that a word stands for. -/
def truth (text : List Char) : Except Fault Bool :=
  match truths.lookup (String.ofList (lower text)) with
  | some b => .ok b
  | none => .error (.notTruth (lower text))

theorem truth_eq_ok {text : List Char} {b : Bool} :
    truth text = .ok b ↔ truths.lookup (String.ofList (lower text)) = some b := by
  unfold truth
  cases h : truths.lookup (String.ofList (lower text)) <;> simp

/-! ## §2. Whole numbers. -/

/-- The value of a digit of a base; letters continue after nine. -/
def digitOf? (base : Nat) (c : Char) : Option Nat :=
  let d := match digitValue? c with
    | some d => some d
    | none => if c.isAlpha then some (asciiDigitValue c) else none
  d.filter (· < base)

/-- The letter that may follow a zero before the digits of a
    base. -/
def baseMark? : Nat → Option Char
  | 2 => some 'b'
  | 8 => some 'o'
  | 16 => some 'x'
  | _ => none

/-- The digits without a mark of the base before them. -/
def withoutMark (base : Nat) : List Char → List Char
  | z :: m :: cs =>
    if digitValue? z = some 0 && baseMark? base = some m.toLower then cs else z :: m :: cs
  | cs => cs

/-- Digits are counted only in a base that is no power of two. -/
def limitsDigits (base : Nat) : Bool := base == 10

/-- The whole number that a text writes in a base. -/
def readWhole (base : Nat) (text : List Char) : Except Fault Int :=
  let (negative, cs) := Binary64.takeSign (trimNumber text)
  let cs := withoutMark base cs
  let digits := (cs.map (digitOf? base)).takeWhile Option.isSome
  if limitsDigits base && maxDigits < digits.length then .error (.manyDigits digits.length)
  else if cs.isEmpty || digits.length < cs.length then .error (.notWhole base text)
  else
    let n : Int := ofDigits base (digits.filterMap id)
    .ok (if negative then -n else n)

/-- A number written in parts to the base sixty, the most
    significant part first. -/
def sixties (parts : List Int) : Int :=
  parts.foldl (fun n d => n * 60 + d) 0

/-- A text without underscores, its sign apart: it is negative, and
    what follows. -/
def signed (text : List Char) : Except Fault (Bool × List Char) :=
  let cs := text.filter (· != '_')
  if cs.isEmpty then .error .emptyNumber else .ok (Binary64.takeSign cs)

/-- The size of a whole number. -/
def wholeSize (cs : List Char) : Except Fault Int :=
  match cs with
  | [] => .error .emptyNumber
  | ['0'] => .ok 0
  | '0' :: 'b' :: ds => readWhole 2 ds
  | '0' :: 'x' :: ds => readWhole 16 ds
  | '0' :: _ => readWhole 8 cs
  | _ =>
    if cs.contains ':' then sixties <$> (splitOn ':' cs).mapM (readWhole 10)
    else readWhole 10 cs

/-- The whole number that a scalar stands for. -/
def whole (text : List Char) : Except Fault Int := do
  let (negative, cs) ← signed text
  let n ← wholeSize cs
  return if negative then -n else n

/-! ## §3. Floats. -/

/-- The float that a text writes. -/
def readFloat (text : List Char) : Except Fault Binary64 :=
  match Binary64.read? text with
  | some x => .ok x
  | none => .error (.notDecimal text)

/-- The sum of the parts of a number to the base sixty, the least
    significant part first; `power` is the power of sixty of the
    first, and `sum` that of the parts before. -/
def sixtiesFrom (power : Nat) (sum : Binary64) : List Binary64 → Except Fault Binary64
  | [] => .ok sum
  | d :: ds =>
    match Binary64.ofWhole? power with
    | none => .error .largePower
    | some p => sixtiesFrom (power * 60) (sum.add (d.mul p)) ds

/-- The size of a float. -/
def floatSize (cs : List Char) : Except Fault Binary64 :=
  let word := String.ofList cs
  if word = ".inf" then .ok (.infinite false)
  else if word = ".nan" then .ok .nan
  else if cs.contains ':' then do
    let parts ← (splitOn ':' cs).mapM readFloat
    sixtiesFrom 1 .zero parts.reverse
  else readFloat cs

/-- The float that a scalar stands for. -/
def float (text : List Char) : Except Fault Binary64 := do
  let (negative, cs) ← signed (lower (text.filter (· != '_')))
  let x ← floatSize cs
  return if negative then x.neg else x

/-! ## §4. Moments and bytes. -/

/-- The microseconds that the digits of a fraction write. -/
def microseconds (fraction : List Char) : Nat :=
  ofAscii 10 ((fraction ++ List.replicate 6 '0').take 6)

/-- The minutes of an offset. -/
def offsetMinutes : Bool × List Char × List Char → Int
  | (negative, hours, minutes) =>
    let m : Int := ofAscii 10 hours * 60 + ofAscii 10 minutes
    if negative then -m else m

/-- The date or time that the parts of a moment stand for. -/
def MomentText.datum (m : MomentText) : Except CalendarFault Datum :=
  let number := ofAscii 10
  match m.clock with
  | none => .date <$> Date.make (number m.year) (number m.month) (number m.day)
  | some (hour, minute, second) =>
    .time <$> DateTime.make (number m.year) (number m.month) (number m.day) (number hour)
      (number minute) (number second) (microseconds m.fraction) (m.zone.map offsetMinutes)

/-- The date or time that a scalar stands for. -/
def moment (text : List Char) : Except Fault Datum :=
  match MomentText.read? (withoutBreak text) with
  | none => .error .notMoment
  | some m => m.datum.mapError .calendar

/-- The bytes that a scalar stands for. -/
def binary (text : List Char) : Except Fault (List UInt8) :=
  if text.all fun c => c.toNat < 128 then
    match Base64.decodeLoose (text.map fun c => UInt8.ofNat c.toNat) with
    | some bs => .ok bs
    | none => .error .malformed
  else .error .malformed

/-! ## §5. The value of a scalar. -/

/-- The value that a text stands for under a tag of scalars. -/
def Tag.scalarValue (tag : Tag) (text : List Char) : Except Fault Datum :=
  match tag with
  | .null => .ok .null
  | .bool => .bool <$> truth text
  | .int => .int <$> whole text
  | .float => .float <$> Yaml.float text
  | .binary => .bytes <$> Yaml.binary text
  | .timestamp => moment text
  | .str => .ok (.text (String.ofList text))
  | _ => .error .malformed

end SpanPipeline.Yaml
