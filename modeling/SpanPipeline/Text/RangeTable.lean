/-
  SpanPipeline.Text.RangeTable
  ────────────────────────────
  Sets of characters given as closed intervals of code points.
-/

namespace SpanPipeline.Text

/-- A set of code points as closed intervals. -/
abbrev RangeTable := List (Nat × Nat)

/-- The character lies in one of the intervals. -/
def RangeTable.holds (table : RangeTable) (c : Char) : Bool :=
  table.any fun r => r.1 ≤ c.toNat && c.toNat ≤ r.2

theorem RangeTable.holds_iff {table : RangeTable} {c : Char} :
    table.holds c = true ↔ ∃ r ∈ table, r.1 ≤ c.toNat ∧ c.toNat ≤ r.2 := by
  simp [RangeTable.holds]

end SpanPipeline.Text
