/-
  SpanPipeline.Text.Percent
  ─────────────────────────
  Percent-encoded text.

  A percent sign with two hexadecimal digits stands for a byte.
  Runs of ASCII text are turned into bytes and read as UTF-8, with
  replacement characters for what is not; other characters stand
  for themselves.
-/
import SpanPipeline.Text.Digits
import SpanPipeline.Text.Utf8

namespace SpanPipeline.Text

/-- An ASCII hexadecimal digit. -/
def isHexDigit (c : Char) : Bool :=
  c.isDigit || 'a' ≤ c && c ≤ 'f' || 'A' ≤ c && c ≤ 'F'

/-- The bytes of ASCII text after its percent escapes are taken
    out. -/
def percentBytes : List Char → List UInt8
  | [] => []
  | '%' :: a :: b :: cs =>
    if isHexDigit a && isHexDigit b then
      UInt8.ofNat (asciiDigitValue a * 16 + asciiDigitValue b) :: percentBytes cs
    else UInt8.ofNat '%'.toNat :: percentBytes (a :: b :: cs)
  | c :: cs => UInt8.ofNat c.toNat :: percentBytes cs

/-- Decode the runs of ASCII characters of a text; `run` holds the
    current one, last character first. -/
def percentDecodeFrom (run : List Char) : List Char → List Char
  | [] => decodeLossy (percentBytes run.reverse)
  | c :: cs =>
    if c.toNat < 128 then percentDecodeFrom (c :: run) cs
    else decodeLossy (percentBytes run.reverse) ++ c :: percentDecodeFrom [] cs

/-- The text that a percent-encoded one stands for. -/
def percentDecode (cs : List Char) : List Char :=
  percentDecodeFrom [] cs

end SpanPipeline.Text
