/-
  SpanPipeline.Proofs.Rounding
  ────────────────────────────
  The nearest number of the binary64 format.

  A magnitude is a number of the format without its sign, and with
  no bound on its exponent from above.  That is what rounding aims at
  first: only the rounded number is compared with the largest one of
  the format.  The nearest magnitude is one of a grid, the multiples
  of a power of two that gives the quotient a full mantissa.  Smaller
  magnitudes that are off the grid lie farther away, and larger ones
  are on it.

  Main results:
    * `Magnitude.eq_of_value_eq` — a value has one form.
    * `Nearest.unique`, `Nearest.value_le` — there is one nearest
      magnitude, and it grows with the number.
    * `nearest_of_roundsTo` — rounding on the grid finds it.
    * `exists_nearest`, `ofQuotient?_of_nearest` — a rounded quotient
      is the nearest number to the quotient.
-/
import SpanPipeline.Number.Binary64
import Mathlib.Algebra.Order.Field.Power
import Mathlib.Algebra.Order.Field.Rat
import Mathlib.Tactic.Linarith
import Mathlib.Tactic.Positivity
import Mathlib.Tactic.Ring

namespace SpanPipeline.Number

/-! ## §1. Magnitudes. -/

/-- A number of the format without its sign, but of any exponent from
    the least one on. -/
structure Magnitude where
  mantissa : Nat
  exponent : Int
  small : mantissa < 2 ^ 53
  least : -1074 ≤ exponent
  full : 2 ^ 52 ≤ mantissa ∨ exponent = -1074

theorem zpow_add_nat (e : Int) (k : Nat) : (2 : ℚ) ^ (e + k) = 2 ^ k * 2 ^ e := by
  rw [zpow_add₀ two_ne_zero, zpow_natCast, mul_comm]

namespace Magnitude

/-- The exact value. -/
def value (x : Magnitude) : ℚ := x.mantissa * 2 ^ x.exponent

theorem value_lt (x : Magnitude) : x.value < 2 ^ (x.exponent + 53) := by
  have hm : (x.mantissa : ℚ) < 2 ^ 53 := by exact_mod_cast x.small
  calc x.value < 2 ^ 53 * 2 ^ x.exponent := mul_lt_mul_of_pos_right hm (by positivity)
    _ = 2 ^ (x.exponent + 53) := (zpow_add_nat x.exponent 53).symm

theorem le_value {x : Magnitude} (h : x.exponent ≠ -1074) :
    2 ^ (x.exponent + 52) ≤ x.value := by
  have hm : (2 : ℚ) ^ 52 ≤ x.mantissa := by exact_mod_cast x.full.resolve_right h
  calc (2 : ℚ) ^ (x.exponent + 52) = 2 ^ 52 * 2 ^ x.exponent := zpow_add_nat x.exponent 52
    _ ≤ x.value := mul_le_mul_of_nonneg_right hm (by positivity)

theorem value_lt_of_exponent_lt {x y : Magnitude} (h : x.exponent < y.exponent) :
    x.value < y.value := by
  have hleast := x.least
  calc x.value < 2 ^ (x.exponent + 53) := x.value_lt
    _ ≤ 2 ^ (y.exponent + 52) := zpow_le_zpow_right₀ one_le_two (by omega)
    _ ≤ y.value := le_value (by omega)

theorem value_lt_iff_mantissa_lt {x y : Magnitude} (h : x.exponent = y.exponent) :
    x.value < y.value ↔ x.mantissa < y.mantissa := by
  have hpos : (0 : ℚ) < 2 ^ y.exponent := by positivity
  rw [value, value, h, mul_lt_mul_iff_left₀ hpos, Nat.cast_lt]

/-- **A value has one form.** -/
theorem eq_of_value_eq {x y : Magnitude} (h : x.value = y.value) : x = y := by
  have hexp : x.exponent = y.exponent := by
    rcases lt_trichotomy x.exponent y.exponent with hlt | heq | hgt
    · exact absurd h (value_lt_of_exponent_lt hlt).ne
    · exact heq
    · exact absurd h (value_lt_of_exponent_lt hgt).ne'
  have hxy := (value_lt_iff_mantissa_lt hexp).not.mp h.not_lt
  have hyx := (value_lt_iff_mantissa_lt hexp.symm).not.mp h.not_gt
  cases x
  cases y
  obtain rfl := hexp
  congr
  exact Nat.le_antisymm (Nat.le_of_not_lt hyx) (Nat.le_of_not_lt hxy)

/-- A magnitude is a multiple of every power of two up to its own. -/
theorem exists_value_eq (x : Magnitude) {e : Int} (h : e ≤ x.exponent) :
    ∃ n : Nat, x.value = n * 2 ^ e := by
  refine ⟨x.mantissa * 2 ^ (x.exponent - e).toNat, ?_⟩
  have hexp : x.exponent = e + (x.exponent - e).toNat := by omega
  calc x.value = x.mantissa * 2 ^ (e + (x.exponent - e).toNat) := by rw [value, ← hexp]
    _ = (x.mantissa * 2 ^ (x.exponent - e).toNat : Nat) * 2 ^ e := by
      rw [zpow_add_nat, ← mul_assoc, Nat.cast_mul, Nat.cast_pow, Nat.cast_ofNat]

/-- Between two magnitudes with even mantissas there is another. -/
theorem exists_between {x y : Magnitude} (h : x.value < y.value) (hx : x.mantissa % 2 = 0)
    (hy : y.mantissa % 2 = 0) : ∃ z : Magnitude, x.value < z.value ∧ z.value < y.value := by
  have hsmall := x.small
  have hfull := x.full
  let z : Magnitude := ⟨x.mantissa + 1, x.exponent, by omega, x.least, by omega⟩
  have hexp : x.exponent = z.exponent := rfl
  refine ⟨z, (value_lt_iff_mantissa_lt hexp).mpr (Nat.lt_succ_self x.mantissa), ?_⟩
  rcases lt_trichotomy x.exponent y.exponent with hlt | heq | hgt
  · exact value_lt_of_exponent_lt hlt
  · have hm := (value_lt_iff_mantissa_lt heq).mp h
    have hnext : z.mantissa < y.mantissa := by
      show x.mantissa + 1 < y.mantissa
      omega
    exact (value_lt_iff_mantissa_lt (hexp.symm.trans heq)).mpr hnext
  · exact absurd h (value_lt_of_exponent_lt hgt).not_gt

/-- The smallest positive number of the format. -/
def smallest : Magnitude := ⟨1, -1074, by norm_num, le_rfl, .inr rfl⟩

theorem smallest_value : smallest.value = 2 ^ (-1074 : Int) := by
  simp [smallest, value]

theorem smallest_pos : 0 < smallest.value := by
  rw [smallest_value]
  positivity

/-- The largest number of the format. -/
def largest : Magnitude := ⟨2 ^ 53 - 1, 971, by norm_num, by norm_num, by norm_num⟩

theorem value_le_largest_iff {x : Magnitude} : x.value ≤ largest.value ↔ x.exponent ≤ 971 := by
  constructor
  · intro h
    by_contra hnot
    have hlt : largest.exponent < x.exponent := not_le.mp hnot
    exact absurd h (value_lt_of_exponent_lt hlt).not_ge
  · intro h
    rcases h.lt_or_eq with hlt | heq
    · have hexp : x.exponent < largest.exponent := hlt
      exact (value_lt_of_exponent_lt hexp).le
    · have hexp : largest.exponent = x.exponent := heq.symm
      rw [← not_lt, value_lt_iff_mantissa_lt hexp, not_lt]
      exact Nat.le_sub_one_of_lt x.small

/-- The magnitude after the largest number of the format. -/
def beyond : Magnitude := ⟨2 ^ 52, 972, by norm_num, by norm_num, .inl le_rfl⟩

theorem largest_lt_beyond : largest.value < beyond.value :=
  value_lt_of_exponent_lt (by norm_num [largest, beyond])

theorem beyond_le {x : Magnitude} (h : largest.value < x.value) : beyond.value ≤ x.value := by
  have hlow : 972 ≤ x.exponent := by
    rwa [← not_le, value_le_largest_iff, not_le] at h
  have hfull := x.full.resolve_right (by omega)
  rcases hlow.lt_or_eq with hlt | heq
  · have hexp : beyond.exponent < x.exponent := hlt
    exact (value_lt_of_exponent_lt hexp).le
  · have hexp : x.exponent = beyond.exponent := heq.symm
    rw [← not_lt, value_lt_iff_mantissa_lt hexp, not_lt]
    exact hfull

/-- The middle between the two. -/
def limit : ℚ := 2 ^ 1024 - 2 ^ 970

theorem largest_add_beyond : largest.value + beyond.value = 2 * limit := by
  have hhigh : (2 : ℚ) ^ 1024 = 2 ^ 54 * 2 ^ 970 := by rw [← pow_add]
  have hbeyond : (2 : ℚ) ^ 972 = 2 ^ 2 * 2 ^ 970 := by rw [← pow_add]
  have hlargest : (2 : ℚ) ^ 971 = 2 * 2 ^ 970 := pow_succ' 2 970
  have hvalues : largest.value + beyond.value
      = (2 ^ 53 - 1) * (2 : ℚ) ^ 971 + 2 ^ 52 * 2 ^ 972 := by
    norm_num [value, largest, beyond]
  rw [hvalues, limit, hhigh, hbeyond, hlargest]
  generalize (2 : ℚ) ^ 970 = u
  ring

end Magnitude

/-! ## §2. The nearest magnitude. -/

/-- No magnitude is nearer to a number, and the mantissa is even if
    another one is as near. -/
structure Nearest (x : Magnitude) (q : ℚ) : Prop where
  closest : ∀ y : Magnitude, |x.value - q| ≤ |y.value - q|
  even : ∀ y : Magnitude, y ≠ x → |y.value - q| = |x.value - q| → x.mantissa % 2 = 0

/-- The larger one of two numbers is as near at most above their
    middle. -/
theorem middle_le {a b q : ℚ} (h : a < b) (hle : |b - q| ≤ |a - q|) : a + b ≤ 2 * q := by
  rcases abs_cases (b - q) with hb | hb <;> rcases abs_cases (a - q) with ha | ha <;> linarith

/-- The smaller one is as near at most below it. -/
theorem le_middle {a b q : ℚ} (h : a < b) (hle : |a - q| ≤ |b - q|) : 2 * q ≤ a + b := by
  rcases abs_cases (b - q) with hb | hb <;> rcases abs_cases (a - q) with ha | ha <;> linarith

namespace Nearest

variable {x y : Magnitude} {q r : ℚ}

/-- Two magnitudes are not both nearest: a third one between them would
    be nearer. -/
theorem not_value_lt (hx : Nearest x q) (hy : Nearest y q) : ¬ x.value < y.value := by
  intro hlt
  have hdist : |x.value - q| = |y.value - q| := le_antisymm (hx.closest y) (hy.closest x)
  have hne : x ≠ y := by
    rintro rfl
    exact lt_irrefl _ hlt
  obtain ⟨z, hxz, hzy⟩ := Magnitude.exists_between hlt (hx.even y hne.symm hdist.symm)
    (hy.even x hne hdist)
  have hmiddle : x.value + y.value = 2 * q :=
    le_antisymm (middle_le hlt hdist.ge) (le_middle hlt hdist.le)
  have hz := le_middle hxz (hx.closest z)
  linarith

/-- **There is one nearest magnitude.** -/
theorem unique (hx : Nearest x q) (hy : Nearest y q) : x = y :=
  Magnitude.eq_of_value_eq
    (le_antisymm (not_lt.mp (hy.not_value_lt hx)) (not_lt.mp (hx.not_value_lt hy)))

/-- **It grows with the number.** -/
theorem value_le (hx : Nearest x q) (hy : Nearest y r) (h : q ≤ r) : x.value ≤ y.value := by
  by_contra hnot
  have hlt : y.value < x.value := not_le.mp hnot
  have hq := middle_le hlt (hx.closest y)
  have hr := le_middle hlt (hy.closest x)
  obtain rfl : q = r := by linarith
  exact hy.not_value_lt hx hlt

/-- It is not zero for a number from the smallest positive magnitude
    on. -/
theorem value_pos (hx : Nearest x q) (h : Magnitude.smallest.value ≤ q) : 0 < x.value := by
  have hsmallest := Magnitude.smallest_pos
  have hnonneg : 0 ≤ x.value := by
    rw [Magnitude.value]
    positivity
  by_contra hnot
  have hzero : x.value = 0 := le_antisymm (not_lt.mp hnot) hnonneg
  have hmiddle := le_middle (hzero ▸ hsmallest) (hx.closest .smallest)
  linarith

/-- **Rounding goes beyond the format** from the middle between its
    largest number and the next magnitude on. -/
theorem largest_lt_iff (hx : Nearest x q) :
    Magnitude.largest.value < x.value ↔ Magnitude.limit ≤ q := by
  have hmiddle := Magnitude.largest_add_beyond
  constructor
  · intro hlt
    have hq := middle_le hlt (hx.closest .largest)
    have hbeyond := Magnitude.beyond_le hlt
    linarith
  · intro hq
    by_contra hnot
    have hle : x.value ≤ Magnitude.largest.value := not_lt.mp hnot
    have hqle := le_middle (hle.trans_lt Magnitude.largest_lt_beyond) (hx.closest .beyond)
    -- only the largest number itself is as near, and its mantissa is odd
    obtain rfl : x = .largest := Magnitude.eq_of_value_eq (by linarith)
    have hne : Magnitude.beyond ≠ .largest := by
      intro h
      exact absurd (congrArg Magnitude.exponent h) (by decide)
    have htie : |Magnitude.beyond.value - q| = |Magnitude.largest.value - q| := by
      rw [abs_sub_comm Magnitude.largest.value q]
      congr 1
      linarith
    exact absurd (hx.even .beyond hne htie) (by decide)

end Nearest

/-! ## §3. Rounding on a grid. -/

/-- A whole number is nearest to a number, and even if another one is
    as near. -/
structure RoundsTo (m : Nat) (q : ℚ) : Prop where
  near : |(m : ℚ) - q| ≤ 1 / 2
  even : |(m : ℚ) - q| = 1 / 2 → m % 2 = 0

namespace RoundsTo

variable {m n : Nat} {q : ℚ}

/-- Other whole numbers are half a unit away at least. -/
theorem half_le (h : RoundsTo m q) (hne : n ≠ m) : 1 / 2 ≤ |(n : ℚ) - q| := by
  have hone : (1 : ℚ) ≤ |(n : ℚ) - m| := by
    have hint : (1 : Int) ≤ |(n : Int) - m| := Int.one_le_abs (by omega)
    exact_mod_cast hint
  have htriangle : |(n : ℚ) - m| ≤ |(n : ℚ) - q| + |(m : ℚ) - q| := by
    rw [abs_sub_comm (m : ℚ) q]
    exact abs_sub_le _ _ _
  linarith [h.near]

theorem closest (h : RoundsTo m q) (n : Nat) : |(m : ℚ) - q| ≤ |(n : ℚ) - q| := by
  by_cases hne : n = m
  · rw [hne]
  · exact h.near.trans (h.half_le hne)

theorem even_of_tie (h : RoundsTo m q) (hne : n ≠ m) (heq : |(n : ℚ) - q| = |(m : ℚ) - q|) :
    m % 2 = 0 :=
  h.even (le_antisymm h.near (heq ▸ h.half_le hne))

theorem le_of_le (h : RoundsTo m q) (hn : (n : ℚ) ≤ q) : n ≤ m := by
  have hnear := (abs_le.mp h.near).1
  have hlt : (n : ℚ) < (m + 1 : Nat) := by
    push_cast
    linarith
  exact Nat.le_of_lt_succ (by exact_mod_cast hlt)

theorem le_of_lt (h : RoundsTo m q) (hn : q < n) : m ≤ n := by
  have hnear := (abs_le.mp h.near).2
  have hlt : (m : ℚ) < (n + 1 : Nat) := by
    push_cast
    linarith
  exact Nat.le_of_lt_succ (by exact_mod_cast hlt)

end RoundsTo

theorem abs_mul_sub {s : ℚ} (hs : 0 < s) (n q : ℚ) : |n * s - q| = |n - q / s| * s := by
  rw [← abs_of_pos hs, ← abs_mul, abs_of_pos hs, sub_mul, div_mul_cancel₀ q hs.ne']

/-- A number below the grid's longer mantissas is rounded to a mantissa
    or to the first of those, and to a full one if it is full itself. -/
theorem RoundsTo.mantissa_bounds {q : ℚ} {e : Int} {m : Nat} (h : RoundsTo m (q / 2 ^ e))
    (hlt : q < 2 ^ (e + 53)) (hfull : 2 ^ (e + 52) ≤ q ∨ e = -1074) :
    m ≤ 2 ^ 53 ∧ (2 ^ 52 ≤ m ∨ e = -1074) := by
  have hunit : (0 : ℚ) < 2 ^ e := by positivity
  constructor
  · apply h.le_of_lt
    rw [div_lt_iff₀ hunit, Nat.cast_pow]
    exact hlt.trans_eq (zpow_add_nat e 53)
  · refine hfull.imp_left fun hq => h.le_of_le ?_
    rw [le_div_iff₀ hunit, Nat.cast_pow]
    exact (zpow_add_nat e 52).symm.trans_le hq

/-- **Rounding on the grid of a power of two finds the nearest
    magnitude**, when the grid gives the number a full mantissa or is
    the finest one. -/
theorem nearest_of_roundsTo {q : ℚ} {e : Int} {m : Nat} {x : Magnitude}
    (hm : RoundsTo m (q / 2 ^ e)) (hfull : 2 ^ (e + 52) ≤ q ∨ e = -1074)
    (hx : x.value = m * 2 ^ e) (heven : m % 2 = 0 → x.mantissa % 2 = 0) : Nearest x q := by
  have hpos : (0 : ℚ) < 2 ^ e := by positivity
  -- a magnitude with a smaller exponent lies below the grid's full mantissas
  have hbelow : ∀ y : Magnitude, y.exponent < e → |x.value - q| < |y.value - q| := by
    intro y hy
    have hleast := y.least
    have hq : 2 ^ (e + 52) ≤ q := hfull.resolve_right (by omega)
    have hyq : y.value < 2 ^ (e + 52) :=
      y.value_lt.trans_le (zpow_le_zpow_right₀ one_le_two (by omega))
    have hgrid : ((2 ^ 52 : Nat) : ℚ) * 2 ^ e = 2 ^ (e + 52) := by
      rw [Nat.cast_pow]
      exact (zpow_add_nat e 52).symm
    calc |x.value - q| = |(m : ℚ) - q / 2 ^ e| * 2 ^ e := by rw [hx, abs_mul_sub hpos]
      _ ≤ |((2 ^ 52 : Nat) : ℚ) - q / 2 ^ e| * 2 ^ e :=
        mul_le_mul_of_nonneg_right (hm.closest _) hpos.le
      _ = q - 2 ^ (e + 52) := by
        rw [← abs_mul_sub hpos, hgrid, abs_of_nonpos (by linarith), neg_sub]
      _ < |y.value - q| := by
        rw [abs_of_nonpos (by linarith)]
        linarith
  refine ⟨?_, ?_⟩
  · intro y
    by_cases hy : e ≤ y.exponent
    · obtain ⟨n, hn⟩ := y.exists_value_eq hy
      rw [hx, hn, abs_mul_sub hpos, abs_mul_sub hpos]
      exact mul_le_mul_of_nonneg_right (hm.closest n) hpos.le
    · exact (hbelow y (not_le.mp hy)).le
  · intro y hne htie
    by_cases hy : e ≤ y.exponent
    · obtain ⟨n, hn⟩ := y.exists_value_eq hy
      have hnm : n ≠ m := by
        rintro rfl
        exact hne (Magnitude.eq_of_value_eq (hn.trans hx.symm))
      rw [hx, hn, abs_mul_sub hpos, abs_mul_sub hpos] at htie
      exact heven (hm.even_of_tie hnm (mul_right_cancel₀ hpos.ne' htie))
    · exact absurd htie.symm (hbelow y (not_le.mp hy)).ne

/-! ## §4. Rounding a quotient. -/

section Quotient

variable {num den : Nat}

/-- A half is rounded to the even neighbour. -/
theorem roundQuotient_even (h : 0 < den)
    (hhalf : 2 * (roundQuotient num den * den) = 2 * num + den
      ∨ 2 * num = 2 * (roundQuotient num den * den) + den) : roundQuotient num den % 2 = 0 := by
  have hd := Nat.div_add_mod num den
  have hm := Nat.mod_lt num h
  have hq : (num / den) * den = den * (num / den) := Nat.mul_comm _ _
  simp only [roundQuotient] at hhalf ⊢
  split at hhalf
  · omega
  · split at hhalf
    · rw [Nat.add_mul] at hhalf
      omega
    · rw [if_neg (by assumption), if_neg (by assumption)]
      omega

theorem roundsTo_roundQuotient (num : Nat) (h : 0 < den) :
    RoundsTo (roundQuotient num den) (num / den) := by
  obtain ⟨hupper, hlower⟩ := roundQuotient_bounds num h
  have hden : (0 : ℚ) < den := by exact_mod_cast h
  have hdist : |(roundQuotient num den : ℚ) - num / den| * den
      = |(roundQuotient num den : ℚ) * den - num| := (abs_mul_sub hden _ _).symm
  have hupper' : 2 * ((roundQuotient num den : ℚ) * den) ≤ 2 * num + den := by
    exact_mod_cast hupper
  have hlower' : 2 * (num : ℚ) ≤ 2 * ((roundQuotient num den : ℚ) * den) + den := by
    exact_mod_cast hlower
  refine ⟨?_, ?_⟩
  · have habs : |(roundQuotient num den : ℚ) * den - num| ≤ 1 / 2 * den := by
      rw [abs_le]
      constructor <;> linarith
    exact le_of_mul_le_mul_right (hdist.trans_le habs) hden
  · intro htie
    rw [htie] at hdist
    apply roundQuotient_even h
    rcases abs_cases ((roundQuotient num den : ℚ) * den - num) with hc | hc
    · left
      have hsum : 2 * ((roundQuotient num den : ℚ) * den) = 2 * num + den := by linarith
      exact_mod_cast hsum
    · right
      have hsum : 2 * (num : ℚ) = 2 * ((roundQuotient num den : ℚ) * den) + den := by linarith
      exact_mod_cast hsum

/-- In units of a power of two a quotient is rounded the same way. -/
theorem roundsTo_scaledQuotient (num : Nat) (h : 0 < den) (e : Int) :
    RoundsTo (scaledQuotient num den e) (num / den / 2 ^ e) := by
  unfold scaledQuotient
  split
  · next he =>
    have hunit : (2 : ℚ) ^ e = ((Nat.pow 2 e.toNat : Nat) : ℚ) := by
      rw [Nat.pow_eq, Nat.cast_pow, Nat.cast_ofNat, ← zpow_natCast, Int.toNat_of_nonneg he]
    have hround := roundsTo_roundQuotient num (Nat.mul_pos h (Nat.two_pow_pos e.toNat))
    rw [div_div, hunit]
    exact_mod_cast hround
  · next he =>
    have hunit : (2 : ℚ) ^ e = ((Nat.pow 2 (-e).toNat : Nat) : ℚ)⁻¹ := by
      rw [Nat.pow_eq, Nat.cast_pow, Nat.cast_ofNat, ← zpow_natCast,
        Int.toNat_of_nonneg (by omega), zpow_neg, inv_inv]
    have hround := roundsTo_roundQuotient (num * Nat.pow 2 (-e).toNat) h
    rw [hunit, div_inv_eq_mul, div_mul_eq_mul_div]
    exact_mod_cast hround

/-- A quotient and a power of two, compared by products. -/
theorem mul_pow_le_iff (h : 0 < den) (k : Nat) :
    den * Nat.pow 2 k ≤ num ↔ (2 : ℚ) ^ (k : Int) ≤ num / den := by
  have hden : (0 : ℚ) < den := by exact_mod_cast h
  rw [le_div_iff₀ hden, zpow_natCast, mul_comm]
  exact_mod_cast Iff.rfl

theorem le_mul_pow_iff (h : 0 < den) (k : Nat) :
    den ≤ num * Nat.pow 2 k ↔ (2 : ℚ) ^ (-(k : Int)) ≤ num / den := by
  have hden : (0 : ℚ) < den := by exact_mod_cast h
  have hpow : (0 : ℚ) < 2 ^ k := by positivity
  rw [le_div_iff₀ hden, zpow_neg, zpow_natCast, inv_mul_le_iff₀ hpow, mul_comm]
  exact_mod_cast Iff.rfl

/-- Where a number lies by its bits. -/
theorem log2_bounds {n : Nat} (h : 0 < n) :
    (2 : ℚ) ^ (Nat.log2 n : Int) ≤ n ∧ (n : ℚ) < 2 ^ ((Nat.log2 n : Int) + 1) := by
  have hle : 2 ^ Nat.log2 n ≤ n := Nat.log2_self_le h.ne'
  have hlt : n < 2 ^ (Nat.log2 n + 1) := Nat.lt_log2_self
  exact ⟨by exact_mod_cast hle, by exact_mod_cast hlt⟩

/-- Where the quotient of two numbers lies by theirs. -/
theorem quotient_bounds (hnum : 0 < num) (hden : 0 < den) :
    (2 : ℚ) ^ ((Nat.log2 num : Int) - Nat.log2 den - 1) ≤ num / den ∧
      (num / den : ℚ) < 2 ^ ((Nat.log2 num : Int) - Nat.log2 den + 1) := by
  obtain ⟨hnum_le, hnum_lt⟩ := log2_bounds hnum
  obtain ⟨hden_le, hden_lt⟩ := log2_bounds hden
  have hpos : (0 : ℚ) < den := by exact_mod_cast hden
  constructor
  · rw [le_div_iff₀ hpos]
    calc (2 : ℚ) ^ ((Nat.log2 num : Int) - Nat.log2 den - 1) * den
        ≤ 2 ^ ((Nat.log2 num : Int) - Nat.log2 den - 1) * 2 ^ ((Nat.log2 den : Int) + 1) :=
          mul_le_mul_of_nonneg_left hden_lt.le (by positivity)
      _ = 2 ^ (Nat.log2 num : Int) := by
          rw [← zpow_add₀ two_ne_zero]
          congr 1
          omega
      _ ≤ num := hnum_le
  · rw [div_lt_iff₀ hpos]
    calc (num : ℚ) < 2 ^ ((Nat.log2 num : Int) + 1) := hnum_lt
      _ = 2 ^ ((Nat.log2 num : Int) - Nat.log2 den + 1) * 2 ^ (Nat.log2 den : Int) := by
          rw [← zpow_add₀ two_ne_zero]
          congr 1
          omega
      _ ≤ 2 ^ ((Nat.log2 num : Int) - Nat.log2 den + 1) * den :=
          mul_le_mul_of_nonneg_left hden_le (by positivity)

/-- An exponent that gives a number a full mantissa is raised to the
    least one. -/
theorem max_leastExponent {q : ℚ} {k : Int} (hlower : 2 ^ (k + 52) ≤ q)
    (hupper : q < 2 ^ (k + 53)) :
    -1074 ≤ max leastExponent k ∧ q < 2 ^ (max leastExponent k + 53) ∧
      (2 ^ (max leastExponent k + 52) ≤ q ∨ max leastExponent k = -1074) := by
  rw [show leastExponent = -1074 from rfl]
  refine ⟨le_max_left _ _, ?_, ?_⟩
  · have hle : k + 53 ≤ max (-1074) k + 53 := by omega
    exact hupper.trans_le (zpow_le_zpow_right₀ one_le_two hle)
  · rcases max_choice (-1074 : Int) k with hmax | hmax
    · exact .inr hmax
    · rw [hmax]
      exact .inl hlower

/-- **The exponent of a quotient** gives it a full mantissa, or is the
    least one. -/
theorem quotientExponent_spec (hnum : 0 < num) (hden : 0 < den) :
    -1074 ≤ quotientExponent num den ∧
      (num / den : ℚ) < 2 ^ (quotientExponent num den + 53) ∧
      (2 ^ (quotientExponent num den + 52) ≤ (num / den : ℚ)
        ∨ quotientExponent num den = -1074) := by
  obtain ⟨hlower, hupper⟩ := quotient_bounds hnum hden
  unfold quotientExponent
  generalize hk : (Nat.log2 num : Int) - (Nat.log2 den : Int) - 52 = k
  rw [show (Nat.log2 num : Int) - Nat.log2 den = k + 52 by omega] at hlower hupper
  -- the three products compare the quotient with one power of two
  have hfull : (if 0 ≤ k then decide (den * Nat.pow 2 (k.toNat + 52) ≤ num)
      else if -k ≤ 52 then decide (den * Nat.pow 2 (52 - (-k).toNat) ≤ num)
      else decide (den ≤ num * Nat.pow 2 ((-k).toNat - 52))) = true
        ↔ (2 : ℚ) ^ (k + 52) ≤ num / den := by
    split
    · rw [decide_eq_true_iff, mul_pow_le_iff hden]
      congr! 2
      omega
    · split
      · rw [decide_eq_true_iff, mul_pow_le_iff hden]
        congr! 2
        omega
      · rw [decide_eq_true_iff, le_mul_pow_iff hden]
        congr! 2
        omega
  simp only [hfull]
  split
  · next h =>
    apply max_leastExponent h
    rw [show k + 53 = k + 52 + 1 by omega]
    exact hupper
  · next h =>
    apply max_leastExponent
    · rw [show k - 1 + 52 = k + 52 - 1 by omega]
      exact hlower
    · rw [show k - 1 + 53 = k + 52 by omega]
      exact not_le.mp h

/-- **A quotient has a nearest magnitude**, and rounding it finds its
    parts, unless the exponent is beyond the format. -/
theorem exists_nearest (num : Nat) (hden : 0 < den) :
    ∃ x : Magnitude, Nearest x (num / den) ∧ ofQuotient? num den
      = if x.exponent ≤ 971 then some (x.mantissa, x.exponent) else none := by
  by_cases hzero : num = 0
  · subst hzero
    refine ⟨⟨0, -1074, by norm_num, le_rfl, .inr rfl⟩, ⟨?_, fun _ _ _ => rfl⟩, rfl⟩
    intro y
    simp only [Magnitude.value, Nat.cast_zero, zero_mul, zero_div, sub_zero, abs_zero]
    exact abs_nonneg _
  · obtain ⟨hleast, hlt, hfull⟩ := quotientExponent_spec (Nat.pos_of_ne_zero hzero) hden
    have hround := roundsTo_scaledQuotient num hden (quotientExponent num den)
    unfold ofQuotient?
    simp only [hzero, if_false]
    generalize quotientExponent num den = e at hleast hlt hfull hround
    generalize scaledQuotient num den e = m at hround
    obtain ⟨hle, hge⟩ := hround.mantissa_bounds hlt hfull
    by_cases hcarry : m = 2 ^ 53
    · -- the mantissa is one bit too long, and its last bit is zero
      subst hcarry
      let x : Magnitude := ⟨2 ^ 52, e + 1, by norm_num, by omega, .inl le_rfl⟩
      have hvalue : x.value = (2 ^ 53 : Nat) * 2 ^ e := by
        show ((2 ^ 52 : Nat) : ℚ) * 2 ^ (e + 1) = _
        rw [zpow_add_one₀ two_ne_zero]
        push_cast
        ring
      refine ⟨x, nearest_of_roundsTo hround hfull hvalue fun _ => by norm_num [x], ?_⟩
      have hfit : 2 ^ 53 = Nat.pow 2 precision := rfl
      simp only [hfit, if_true]
      rfl
    · let x : Magnitude := ⟨m, e, by omega, hleast, hge⟩
      refine ⟨x, nearest_of_roundsTo hround hfull rfl id, ?_⟩
      have hfit : m ≠ Nat.pow 2 precision := hcarry
      simp only [hfit, if_false]
      rfl

/-- **A rounded quotient is the nearest number to the quotient.** -/
theorem ofQuotient?_of_nearest (hden : 0 < den) {x : Magnitude} (h : Nearest x (num / den)) :
    ofQuotient? num den = if x.exponent ≤ 971 then some (x.mantissa, x.exponent) else none := by
  obtain ⟨y, hy, heq⟩ := exists_nearest num hden
  obtain rfl := h.unique hy
  exact heq

end Quotient

end SpanPipeline.Number
