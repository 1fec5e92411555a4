/-
  SpanPipeline.Number.Arithmetic
  ──────────────────────────────
  Sums and products of binary64 numbers, and decimal texts of them.

  A finite number is a whole multiple of a power of two.  Sums and
  products are formed exactly and rounded once.

  Main results:
    * `ofWhole?_zero` — zero is a number of the format.
-/
import SpanPipeline.Number.Binary64
import SpanPipeline.Text.Digits
import SpanPipeline.Text.Case

namespace SpanPipeline.Number

open Text

/-! ## §1. Exact values. -/

/-- A whole multiple of a power of two. -/
structure Dyadic where
  multiple : Int
  exponent : Int
  deriving DecidableEq, Repr

namespace Dyadic

/-- The product. -/
def mul (a b : Dyadic) : Dyadic := ⟨a.multiple * b.multiple, a.exponent + b.exponent⟩

/-- The sum, as a multiple of the smaller power. -/
def add (a b : Dyadic) : Dyadic :=
  let e := min a.exponent b.exponent
  ⟨a.multiple * Nat.pow 2 (a.exponent - e).toNat + b.multiple * Nat.pow 2 (b.exponent - e).toNat, e⟩

/-- The nearest binary64 number.  Zero takes the given sign. -/
def round (zeroNegative : Bool) (d : Dyadic) : Binary64 :=
  if d.multiple = 0 then .finite zeroNegative 0 leastExponent
  else if 0 ≤ d.exponent then
    .ofQuotient (d.multiple < 0) (d.multiple.natAbs * Nat.pow 2 d.exponent.toNat) 1
  else .ofQuotient (d.multiple < 0) d.multiple.natAbs (Nat.pow 2 (-d.exponent).toNat)

end Dyadic

namespace Binary64

/-- The number carries a minus sign. -/
def isNegative : Binary64 → Bool
  | .finite negative _ _ => negative
  | .infinite negative => negative
  | .nan => false

/-- The exact value of a finite number. -/
def dyadic? : Binary64 → Option Dyadic
  | .finite negative m e => some ⟨if negative then -(m : Int) else m, e⟩
  | _ => none

/-- The number with the other sign. -/
def neg (x : Binary64) : Binary64 := x.withSign !x.isNegative

/-- The product. -/
def mul (x y : Binary64) : Binary64 :=
  let negative := x.isNegative != y.isNegative
  match x.dyadic?, y.dyadic? with
  | some a, some b => (a.mul b).round negative
  | _, _ =>
    if x = .nan || y = .nan || x.isZero || y.isZero then .nan else .infinite negative

/-- The sum. -/
def add (x y : Binary64) : Binary64 :=
  match x.dyadic?, y.dyadic? with
  | some a, some b => (a.add b).round (x.isNegative && y.isNegative)
  | none, some _ => x
  | some _, none => y
  | none, none => if x = y then x else .nan

/-- The number nearest to a whole one; `none` above the largest
    number. -/
def ofWhole? (n : Nat) : Option Binary64 :=
  (ofQuotient? n 1).map fun (m, e) => .finite false m e

theorem ofWhole?_zero : ofWhole? 0 = some zero := rfl

/-! ## §2. Decimal texts. -/

/-- The values of the digits at the start of a text, and the rest. -/
def takeDigits : List Char → List Nat × List Char
  | [] => ([], [])
  | c :: cs =>
    match digitValue? c with
    | some d => (d :: (takeDigits cs).1, (takeDigits cs).2)
    | none => ([], c :: cs)

/-- A sign at the start of a text: it is a minus; and the rest. -/
def takeSign : List Char → Bool × List Char
  | '-' :: cs => (true, cs)
  | '+' :: cs => (false, cs)
  | cs => (false, cs)

/-- The decimal number that a text without a sign writes. -/
def readUnsigned? (negative : Bool) (cs : List Char) : Option Binary64 :=
  let (whole, rest) := takeDigits cs
  let (fraction, rest) := match rest with
    | '.' :: cs => takeDigits cs
    | cs => ([], cs)
  let number (exponent : Int) : Binary64 :=
    .ofDecimal negative (ofDigits 10 (whole ++ fraction)) (exponent - fraction.length)
  if whole.isEmpty && fraction.isEmpty then none
  else match rest with
    | [] => some (number 0)
    | c :: cs =>
      if c = 'e' || c = 'E' then
        let (negative, cs) := takeSign cs
        let (digits, rest) := takeDigits cs
        if digits.isEmpty || !rest.isEmpty then none
        else
          let size : Int := ofDigits 10 digits
          some (number (if negative then -size else size))
      else none

/-- The number that a text writes: a decimal number, or a word for
    what is not finite. -/
def read? (text : List Char) : Option Binary64 :=
  let (negative, cs) := takeSign (trimNumber text)
  let word := String.ofList (cs.map Char.toLower)
  if word = "inf" || word = "infinity" then some (.infinite negative)
  else if word = "nan" then some .nan
  else readUnsigned? negative cs

end Binary64

end SpanPipeline.Number
