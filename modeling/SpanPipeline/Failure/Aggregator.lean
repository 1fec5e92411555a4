/-
  SpanPipeline.Failure.Aggregator
  ───────────────────────────────
  Collecting the failures of independent checks.

  An aggregator keeps what it is given, in order.  Its result is
  nothing while it is empty and an aggregate of everything recorded
  afterwards.  A result is a value of its own: what is recorded
  later does not change it.

  Main results:
    * `failures_add`, `failures_extend` — the recorded failures are
      those before, followed by the new ones.
    * `result_eq_none_iff` — there is no result exactly when
      nothing was recorded.
    * `capture_own`, `capture_foreign` — a pipeline failure is
      recorded as one child, any other exception passes through.
-/
import SpanPipeline.Failure

namespace SpanPipeline

/-- The failures recorded so far, oldest first. -/
structure Aggregator where
  failures : List Failure := []
  deriving Inhabited

namespace Aggregator

/-- Nothing recorded. -/
def empty : Aggregator := {}

/-- Record a failure, if there is one. -/
def add (a : Aggregator) : Option Failure → Aggregator
  | none => a
  | some f => ⟨a.failures ++ [f]⟩

/-- Record the failures among the outcomes of several checks. -/
def extend (a : Aggregator) (fs : List (Option Failure)) : Aggregator :=
  fs.foldl add a

/-- Record a pipeline failure that a block ends with; any other
    exception passes through. -/
def capture (a : Aggregator) : Except Failure α → Except Failure (Option α × Aggregator)
  | .ok x => .ok (some x, a)
  | .error f => if f.isOwn then .ok (none, a.add (some f)) else .error f

/-- How many failures were recorded. -/
def size (a : Aggregator) : Nat := a.failures.length

/-- Some failure was recorded. -/
def nonempty (a : Aggregator) : Bool := !a.failures.isEmpty

/-- Everything recorded, as one failure. -/
def result? (a : Aggregator) : Option Failure :=
  if a.failures.isEmpty then none else some (.aggregate a.failures)

/-- Fail with everything recorded, if anything was. -/
def check (a : Aggregator) : Except Failure Unit :=
  match a.result? with
  | none => .ok ()
  | some f => .error f

@[simp] theorem failures_empty : empty.failures = [] := rfl

@[simp] theorem check_empty : empty.check = .ok () := rfl

@[simp] theorem failures_add (a : Aggregator) (f : Option Failure) :
    (a.add f).failures = a.failures ++ f.toList := by
  cases f <;> simp [add]

@[simp] theorem failures_extend (a : Aggregator) (fs : List (Option Failure)) :
    (a.extend fs).failures = a.failures ++ fs.flatMap Option.toList := by
  induction fs generalizing a with
  | nil => simp [extend]
  | cons f fs ih =>
    have := ih (a.add f)
    simp only [extend] at this
    simp [extend, this]

theorem result_eq_none_iff {a : Aggregator} : a.result? = none ↔ a.size = 0 := by
  simp [result?, size]

theorem capture_own {a : Aggregator} {f : Failure} (h : f.isOwn = true) :
    a.capture (α := α) (.error f) = .ok (none, ⟨a.failures ++ [f]⟩) := by
  simp [capture, h, add]

theorem capture_foreign {a : Aggregator} {f : Failure} (h : f.isOwn = false) :
    a.capture (α := α) (.error f) = .error f := by
  simp [capture, h]

end Aggregator

end SpanPipeline
