/-
  SpanPipeline.Number.Shortest
  ────────────────────────────
  The shortest decimal text of a binary64 number.

  A finite number is written with the fewest digits that read back
  as the same number; of several such decimals the nearest one is
  taken.  For one, two, … seventeen digits only the two neighbours
  of the value on the grid of that many digits can qualify.

  The layout is positional while the decimal point stays within
  four zeros before the digits and sixteen places after their
  start; beyond that a mantissa is followed by `e`, a sign and at
  least two digits of exponent.
-/
import SpanPipeline.Number.Binary64

namespace SpanPipeline.Number

/-! ## §1. The digits. -/

/-- The value `m · 2^e` as a fraction. -/
def dyadicFraction (m : Nat) (e : Int) : Nat × Nat :=
  if 0 ≤ e then (m * Nat.pow 2 e.toNat, 1) else (m, Nat.pow 2 (-e).toNat)

/-- `d · 10^p ≤ num / den`, decided over the naturals. -/
def decimalLe (d : Nat) (p : Int) (num den : Nat) : Bool :=
  if 0 ≤ p then d * Nat.pow 10 p.toNat * den ≤ num else d * den ≤ num * Nat.pow 10 (-p).toNat

/-- `num / den ≤ d · 10^p`, decided over the naturals. -/
def leDecimal (num den d : Nat) (p : Int) : Bool :=
  if 0 ≤ p then num ≤ d * Nat.pow 10 p.toNat * den else num * Nat.pow 10 (-p).toNat ≤ d * den

/-- The decimal `d · 10^p` rounds to `m · 2^e`: it lies between the
    midpoints to the neighbours, a midpoint itself counting when
    the mantissa is even. -/
def readsBack (m : Nat) (e : Int) (d : Nat) (p : Int) : Bool :=
  let (lowNum, lowDen) :=
    if m = Nat.pow 2 (precision - 1) && leastExponent < e then dyadicFraction (4 * m - 1) (e - 2)
    else dyadicFraction (2 * m - 1) (e - 1)
  let (highNum, highDen) := dyadicFraction (2 * m + 1) (e - 1)
  if m % 2 = 0 then leDecimal lowNum lowDen d p && decimalLe d p highNum highDen
  else !decimalLe d p lowNum lowDen && !leDecimal highNum highDen d p

/-- The quotient of a fraction by `10^p`, rounded down. -/
def onGrid (num den : Nat) (p : Int) : Nat :=
  if 0 ≤ p then num / (den * Nat.pow 10 p.toNat) else num * Nat.pow 10 (-p).toNat / den

/-- The position of the first decimal digit of `num / den`, counted
    from the units, starting the search at `guess`. -/
def leadingPlace (num den : Nat) (guess : Int) : Nat → Int
  | 0 => guess
  | fuel + 1 =>
    if decimalLe 1 (guess + 1) num den then leadingPlace num den (guess + 1) fuel
    else guess

/-- Of the two neighbours of `m · 2^e` on the grid of step `10^p`
    the nearer one that reads back; between two that are equally
    near, the even one. -/
def neighbour? (m : Nat) (e : Int) (p : Int) : Option Nat :=
  let (num, den) := dyadicFraction m e
  let low := onGrid num den p
  match readsBack m e low p, readsBack m e (low + 1) p with
  | true, true =>
    if !decimalLe (2 * low + 1) p (2 * num) den then some low
    else if !leDecimal (2 * num) den (2 * low + 1) p then some (low + 1)
    else some (low + low % 2)
  | true, false => some low
  | false, true => some (low + 1)
  | false, false => none

/-- The first grid, from `p` downwards, that holds a decimal which
    reads back. -/
def firstGrid (m : Nat) (e : Int) (p : Int) : Nat → Nat × Int
  | 0 => (0, p)
  | fuel + 1 =>
    match neighbour? m e p with
    | some d => (d, p)
    | none => firstGrid m e (p - 1) fuel

/-- Remove the zeros at the end of a decimal. -/
def stripZeros : Nat → Nat → Int → Nat × Int
  | 0, d, p => (d, p)
  | fuel + 1, d, p =>
    if d % 10 = 0 && d ≠ 0 then stripZeros fuel (d / 10) (p + 1) else (d, p)

/-- The shortest decimal `d · 10^p` that reads back as `m · 2^e`. -/
def shortest (m : Nat) (e : Int) : Nat × Int :=
  if m = 0 then (0, 0)
  else
    let (num, den) := dyadicFraction m e
    let guess : Int := ((Nat.log2 m : Int) + e) * 3 / 10 - 24
    let (d, p) := firstGrid m e (leadingPlace num den guess 80) 20
    stripZeros 20 d p

/-! ## §2. The text. -/

/-- How a decimal text is laid out. -/
structure DecimalLayout where
  /-- The least place of the first digit that is written in
      positional form. -/
  leastPlace : Int
  /-- The first place too large for positional form. -/
  placeLimit : Int
  /-- Digits of a written exponent, at least. -/
  exponentWidth : Nat

/-- The layout of floating-point numbers in every answer. -/
def floatLayout : DecimalLayout := ⟨-4, 16, 2⟩

/-- The text of `d · 10^p`, which is not negative. -/
def DecimalLayout.write (l : DecimalLayout) (d : Nat) (p : Int) : String :=
  let digits := Nat.toDigits 10 d
  let place : Int := p + digits.length - 1
  if l.leastPlace ≤ place && place < l.placeLimit then
    if 0 ≤ p then
      String.ofList (digits ++ List.replicate p.toNat '0' ++ ['.', '0'])
    else if 0 ≤ place then
      let whole := (place + 1).toNat
      String.ofList (digits.take whole ++ '.' :: digits.drop whole)
    else
      String.ofList ('0' :: '.' :: List.replicate (-place - 1).toNat '0' ++ digits)
  else
    let head := match digits with
      | [c] => [c]
      | c :: cs => c :: '.' :: cs
      | [] => []
    let sign := if place < 0 then '-' else '+'
    let size := Nat.toDigits 10 place.natAbs
    String.ofList (head ++ 'e' :: sign
      :: List.replicate (l.exponentWidth - size.length) '0' ++ size)

/-- The shortest text of a number. -/
def Binary64.text : Binary64 → String
  | .nan => "nan"
  | .infinite negative => if negative then "-inf" else "inf"
  | .finite negative m e =>
    let (d, p) := shortest m e
    (if negative then "-" else "") ++ floatLayout.write d p

end SpanPipeline.Number
