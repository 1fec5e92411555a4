/-
  SpanPipeline.Failure.Check
  ──────────────────────────
  Checks on single configuration values.  Each gives a failure, or
  nothing when the value is fine.

  Main results:
    * `nonNegative_eq_none_iff`, `choice_eq_none_iff` — when a
      check passes.
-/
import SpanPipeline.Failure

namespace SpanPipeline.Check

/-- An optional number must not be negative. -/
def nonNegative (name : String) (value : Option Int) : Option Failure :=
  match value with
  | some n => if n < 0 then some (.configuration s!"invalid {name} {n}") else none
  | none => none

/-- The complaint about a name that is not supported. -/
def unsupported (kind value : String) : Failure :=
  .configuration ("unsupported " ++ kind ++ " \"" ++ value ++ "\"")

/-- A name must be one of the supported ones. -/
def choice (kind value : String) (choices : List String) : Option Failure :=
  if choices.contains value then none else some (unsupported kind value)

theorem nonNegative_eq_none_iff {name : String} {value : Option Int} :
    nonNegative name value = none ↔ ∀ n, value = some n → 0 ≤ n := by
  cases value with
  | none => simp [nonNegative]
  | some n =>
    simp only [nonNegative, Option.some.injEq, forall_eq']
    split <;> simp <;> omega

theorem choice_eq_none_iff {kind value : String} {choices : List String} :
    choice kind value choices = none ↔ value ∈ choices := by
  simp [choice]

end SpanPipeline.Check
