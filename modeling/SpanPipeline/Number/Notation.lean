/-
  SpanPipeline.Number.Notation
  ────────────────────────────
  Numbers with a given count of digits: in positional notation, in
  scientific notation, or in the shorter of both.

  A quotient is rounded once, a half going to the even neighbour.

  Main results:
    * `length_padZeros` — a padded text has at least its width.
-/
import SpanPipeline.Number.Binary64

namespace SpanPipeline.Number

/-- Digits with zeros before them, up to a width. -/
def padZeros (width : Nat) (digits : List Char) : List Char :=
  List.replicate (width - digits.length) '0' ++ digits

theorem length_padZeros (width : Nat) (digits : List Char) :
    width ≤ (padZeros width digits).length := by
  simp only [padZeros, List.length_append, List.length_replicate]
  omega

/-- The number of decimal digits of a number. -/
def digitCount (n : Nat) : Nat := (Nat.toDigits 10 n).length

/-- `n` units of the last of some places. -/
def pointed (alternate : Bool) (places n : Nat) : List Char :=
  let digits := padZeros (places + 1) (Nat.toDigits 10 n)
  let whole := digits.take (digits.length - places)
  if places = 0 then whole ++ (if alternate then ['.'] else [])
  else whole ++ '.' :: digits.drop (digits.length - places)

/-- `num / den` with a count of places after the point. -/
def fixedNotation (alternate : Bool) (places num den : Nat) : List Char :=
  pointed alternate places (roundQuotient (num * Nat.pow 10 places) den)

/-- The digits of `num / den` when the first stands for 10^`e` and
    `places` more follow. -/
def scaledDigits (num den places : Nat) (e : Int) : Nat :=
  let shift : Int := places - e
  if 0 ≤ shift then roundQuotient (num * Nat.pow 10 shift.toNat) den
  else roundQuotient num (den * Nat.pow 10 (-shift).toNat)

/-- The digits of `num / den` and the power of ten of the first,
    when `places` more follow. -/
def scientificDigits (num den places : Nat) : Nat × Int :=
  if num = 0 then (0, 0)
  else
    let guess : Int := (digitCount num : Int) - digitCount den
    -- the quotient lies between 10^(guess - 1) and 10^(guess + 1)
    let above := if 0 ≤ guess then den * Nat.pow 10 guess.toNat ≤ num
      else den ≤ num * Nat.pow 10 (-guess).toNat
    let e := if above then guess else guess - 1
    let n := scaledDigits num den places e
    if n = Nat.pow 10 (places + 1) then (Nat.pow 10 places, e + 1) else (n, e)

/-- The power of ten in scientific notation. -/
def exponentText (mark : Char) (e : Int) : List Char :=
  mark :: (if e < 0 then '-' else '+') :: padZeros 2 (Nat.toDigits 10 e.natAbs)

/-- `num / den` in scientific notation. -/
def scientificNotation (alternate : Bool) (mark : Char) (places num den : Nat) : List Char :=
  let (n, e) := scientificDigits num den places
  pointed alternate places n ++ exponentText mark e

/-- A text with a point without the zeros at its end, and without a
    point at the end. -/
def withoutZeros (cs : List Char) : List Char :=
  if cs.contains '.' then
    let kept := cs.reverse.dropWhile (· == '0')
    (match kept with
      | '.' :: rest => rest
      | kept => kept).reverse
  else cs

/-- `num / den` with a count of digits in all: positional unless the
    first digit stands for too large or too small a power. -/
def generalNotation (alternate : Bool) (mark : Char) (digits num den : Nat) : List Char :=
  let digits := max 1 digits
  let (n, e) := scientificDigits num den (digits - 1)
  let trim := if alternate then id else withoutZeros
  if -4 ≤ e && e < digits then
    trim (fixedNotation alternate ((digits : Int) - 1 - e).toNat num den)
  else trim (pointed alternate (digits - 1) n) ++ exponentText mark e

end SpanPipeline.Number
