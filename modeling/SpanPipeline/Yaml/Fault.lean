/-
  SpanPipeline.Yaml.Fault
  ───────────────────────
  Why a document cannot be read.

  A document that breaks the rules of the format is malformed, and
  no more is said about it.  The other faults concern single
  values that are well formed but stand for nothing.
-/
import SpanPipeline.Calendar
import SpanPipeline.Text.Quoted
import SpanPipeline.Text.Digits

namespace SpanPipeline.Yaml

open Calendar

/-- Why a document cannot be read. -/
inductive Fault where
  /-- The document breaks the rules of the format. -/
  | malformed
  /-- An escape for a code point that does not exist. -/
  | codePoint (n : Nat)
  /-- A whole number of too many digits. -/
  | manyDigits (count : Nat)
  /-- A text that is no whole number in its base. -/
  | notWhole (base : Nat) (text : List Char)
  /-- A text that is no decimal number. -/
  | notDecimal (text : List Char)
  /-- A number without any character. -/
  | emptyNumber
  /-- A power of sixty above the largest float. -/
  | largePower
  /-- A word that is no truth value. -/
  | notTruth (word : List Char)
  /-- A text that is no moment. -/
  | notMoment
  /-- A mapping where the text of a moment is wanted. -/
  | momentOfMapping
  /-- A moment outside the calendar. -/
  | calendar (f : CalendarFault)
  deriving DecidableEq, Repr

/-- The least code point number that does not fit a signed word of
    32 bits. -/
def wordLimit : Nat := 0x80000000

/-- The first 200 characters of a quoted text. -/
def shortQuote (text : List Char) : String :=
  String.ofList ((Text.quoted text).take 200)

namespace Fault

/-- The name of a fault's class. -/
def className : Fault → String
  | .malformed => "YAMLError"
  | .codePoint n => if n < wordLimit then "ValueError" else "OverflowError"
  | .manyDigits _ => "ValueError"
  | .notWhole _ _ => "ValueError"
  | .notDecimal _ => "ValueError"
  | .emptyNumber => "IndexError"
  | .largePower => "OverflowError"
  | .notTruth _ => "KeyError"
  | .notMoment => "AttributeError"
  | .momentOfMapping => "TypeError"
  | .calendar _ => "ValueError"

/-- The fault in words; nothing is said of a malformed document. -/
def message : Fault → String
  | .malformed => ""
  | .codePoint n =>
    if n < wordLimit then "chr() arg not in range(0x110000)"
    else "Python int too large to convert to C int"
  | .manyDigits count => Text.tooManyDigits count
  | .notWhole base text => s!"invalid literal for int() with base {base}: {shortQuote text}"
  | .notDecimal text =>
    "could not convert string to float: " ++ String.ofList (Text.quoted text)
  | .emptyNumber => "string index out of range"
  | .largePower => "int too large to convert to float"
  | .notTruth word => String.ofList (Text.quoted word)
  | .notMoment => "'NoneType' object has no attribute 'groupdict'"
  | .momentOfMapping => "expected string or bytes-like object, got 'list'"
  | .calendar f => f.message

end Fault

end SpanPipeline.Yaml
