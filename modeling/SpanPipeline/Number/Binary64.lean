/-
  SpanPipeline.Number.Binary64
  ────────────────────────────
  Numbers of the binary64 format as exact dyadic values.

  A finite number is a sign, a mantissa below 2⁵³ and an exponent
  from -1074 to 971; it stands for ± mantissa · 2^exponent.  The
  form is canonical: unless the exponent is the least one, the
  mantissa has all its 53 bits.  So two numbers are the same
  exactly when their fields are.

  `ofQuotient?` rounds a quotient of naturals once, to the nearest
  number, ties going to the even mantissa.  It has no answer when
  that would exceed the largest finite number.

  Main results:
    * `roundQuotient_bounds` — the rounded quotient is within half
      a unit of the quotient.
-/

namespace SpanPipeline.Number

/-! ## §1. The format. -/

/-- Bits of a full mantissa. -/
def precision : Nat := 53

/-- The least exponent of the format. -/
def leastExponent : Int := -1074

/-- The largest exponent of the format. -/
def largestExponent : Int := 971

/-- A number of the binary64 format. -/
inductive Binary64 where
  | finite (negative : Bool) (mantissa : Nat) (exponent : Int)
  | infinite (negative : Bool)
  | nan
  deriving DecidableEq, Repr, Inhabited

namespace Binary64

/-- Positive zero. -/
def zero : Binary64 := .finite false 0 leastExponent

/-- The same magnitude with a given sign. -/
def withSign (negative : Bool) : Binary64 → Binary64
  | .finite _ m e => .finite negative m e
  | .infinite _ => .infinite negative
  | .nan => .nan

/-- The value is zero, of either sign. -/
def isZero : Binary64 → Bool
  | .finite _ m _ => m == 0
  | _ => false

/-- The whole number that a finite value equals, if it has no
    fraction. -/
def toInt? : Binary64 → Option Int
  | .finite negative m e =>
    let sign : Int := if negative then -1 else 1
    if 0 ≤ e then some (sign * (m * Nat.pow 2 e.toNat : Nat))
    else if m % Nat.pow 2 (-e).toNat = 0 then some (sign * (m / Nat.pow 2 (-e).toNat : Nat))
    else none
  | _ => none

end Binary64

/-! ## §2. Rounding a quotient. -/

/-- The whole number nearest to `num / den`, a half going to the
    even neighbour. -/
def roundQuotient (num den : Nat) : Nat :=
  let q := num / den
  let r := num % den
  if 2 * r < den then q
  else if den < 2 * r then q + 1
  else q + q % 2

/-- Twice the distance between the rounded quotient and the
    quotient, in units of `1 / den`, is at most `den`. -/
theorem roundQuotient_bounds (num : Nat) {den : Nat} (h : 0 < den) :
    2 * (roundQuotient num den * den) ≤ 2 * num + den
      ∧ 2 * num ≤ 2 * (roundQuotient num den * den) + den := by
  have hd := Nat.div_add_mod num den
  have hm := Nat.mod_lt num h
  have hq : (num / den) * den = den * (num / den) := Nat.mul_comm _ _
  simp only [roundQuotient]
  split
  · constructor <;> omega
  · split
    · rw [Nat.add_mul]
      constructor <;> omega
    · have hr : 2 * (num % den) = den := by omega
      rcases Nat.mod_two_eq_zero_or_one (num / den) with e | e <;> rw [e]
      · rw [Nat.add_zero]
        constructor <;> omega
      · rw [Nat.add_mul]
        constructor <;> omega

/-- The exponent that gives `num / den` a full mantissa, or the
    least one of the format. -/
def quotientExponent (num den : Nat) : Int :=
  let k : Int := (Nat.log2 num : Int) - (Nat.log2 den : Int) - 52
  let full : Bool :=
    if 0 ≤ k then den * Nat.pow 2 (k.toNat + 52) ≤ num
    else if -k ≤ 52 then den * Nat.pow 2 (52 - (-k).toNat) ≤ num
    else den ≤ num * Nat.pow 2 ((-k).toNat - 52)
  max leastExponent (if full then k else k - 1)

/-- `num / den` in units of 2^`e`, rounded. -/
def scaledQuotient (num den : Nat) (e : Int) : Nat :=
  if 0 ≤ e then roundQuotient num (den * Nat.pow 2 e.toNat)
  else roundQuotient (num * Nat.pow 2 (-e).toNat) den

/-- Mantissa and exponent of the number nearest to `num / den`,
    ties to even; `none` above the largest finite number. -/
def ofQuotient? (num den : Nat) : Option (Nat × Int) :=
  if num = 0 then some (0, leastExponent)
  else
    let e := quotientExponent num den
    let m := scaledQuotient num den e
    let (m, e) := if m = Nat.pow 2 precision then (Nat.pow 2 (precision - 1), e + 1) else (m, e)
    if e ≤ largestExponent then some (m, e) else none

/-- The binary64 number nearest to ± `num / den`; infinite above
    the largest finite one. -/
def Binary64.ofQuotient (negative : Bool) (num den : Nat) : Binary64 :=
  match ofQuotient? num den with
  | some (m, e) => .finite negative m e
  | none => .infinite negative

/-- The binary64 number nearest to ± `digits` · 10^`exponent`. -/
def Binary64.ofDecimal (negative : Bool) (digits : Nat) (exponent : Int) : Binary64 :=
  let bits : Int := Nat.log2 digits
  if digits = 0 then .finite negative 0 leastExponent
  else if bits * 3 / 10 + exponent > 320 then .infinite negative
  else if bits * 31 / 100 + exponent < -330 then .finite negative 0 leastExponent
  else if 0 ≤ exponent then .ofQuotient negative (digits * Nat.pow 10 exponent.toNat) 1
  else .ofQuotient negative digits (Nat.pow 10 (-exponent).toNat)

end SpanPipeline.Number
