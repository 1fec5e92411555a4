/-
  SpanPipeline.Text.Cut
  ─────────────────────
  Cutting texts at a separator.

  Main results:
    * `cut_eq_some_iff` — the first cut leaves no separator in the
      part before it.
    * `cutLast_eq_some_iff` — the last cut leaves none in the part
      after it.
    * `splitOn_ne_nil` — splitting gives at least one part.
    * `intercalate_splitOn` — the parts make up the text again.
-/

namespace SpanPipeline.Text

/-- The parts before and after the first `sep`, if there is one. -/
def cut? (sep : Char) : List Char → Option (List Char × List Char)
  | [] => none
  | c :: cs =>
    if c = sep then some ([], cs)
    else (cut? sep cs).map fun p => (c :: p.1, p.2)

/-- The parts before and after the last `sep`, if there is one. -/
def cutLast? (sep : Char) : List Char → Option (List Char × List Char)
  | [] => none
  | c :: cs =>
    match cutLast? sep cs with
    | some p => some (c :: p.1, p.2)
    | none => if c = sep then some ([], cs) else none

/-- The parts between the separators. -/
def splitOn (sep : Char) : List Char → List (List Char)
  | [] => [[]]
  | c :: cs =>
    if c = sep then [] :: splitOn sep cs
    else match splitOn sep cs with
      | p :: ps => (c :: p) :: ps
      | [] => [[c]]

theorem cut_eq_some_iff {sep : Char} {cs a b : List Char} :
    cut? sep cs = some (a, b) ↔ cs = a ++ sep :: b ∧ sep ∉ a := by
  induction cs generalizing a with
  | nil => simp [cut?]
  | cons c cs ih =>
    unfold cut?
    split
    · rename_i h
      subst h
      cases a with
      | nil => simp
      | cons d a => simp; intro h; simp [h]
    · rename_i h
      cases a with
      | nil => simp [h]
      | cons d a =>
        simp only [Option.map_eq_some_iff, Prod.exists, Prod.mk.injEq, List.cons.injEq]
        constructor
        · rintro ⟨a', b', hc, ⟨rfl, rfl⟩, rfl⟩
          have := ih.1 hc
          exact ⟨by simp [this.1], by simp [this.2, Ne.symm h]⟩
        · rintro ⟨he, hn⟩
          simp only [List.cons_append, List.cons.injEq] at he
          simp only [List.mem_cons, not_or] at hn
          exact ⟨a, b, ih.2 ⟨he.2, hn.2⟩, ⟨he.1, rfl⟩, rfl⟩

theorem cut_eq_none_iff {sep : Char} {cs : List Char} : cut? sep cs = none ↔ sep ∉ cs := by
  induction cs with
  | nil => simp [cut?]
  | cons c cs ih =>
    unfold cut?
    split
    · rename_i h; simp [h]
    · rename_i h; simp [ih, Ne.symm h]

theorem cutLast_eq_none_iff {sep : Char} {cs : List Char} :
    cutLast? sep cs = none ↔ sep ∉ cs := by
  induction cs with
  | nil => simp [cutLast?]
  | cons c cs ih =>
    unfold cutLast?
    cases hl : cutLast? sep cs with
    | some p =>
      have : ¬ (sep ∉ cs) := fun h => by simp [ih.2 h] at hl
      simp only [reduceCtorEq, List.mem_cons, not_or, false_iff]
      exact fun h => this h.2
    | none =>
      have := ih.1 hl
      by_cases h : c = sep
      · simp [h]
      · simp [h, this, Ne.symm h]

theorem cutLast_eq_some_iff {sep : Char} {cs a b : List Char} :
    cutLast? sep cs = some (a, b) ↔ cs = a ++ sep :: b ∧ sep ∉ b := by
  induction cs generalizing a b with
  | nil => simp [cutLast?]
  | cons c cs ih =>
    unfold cutLast?
    cases hl : cutLast? sep cs with
    | some p =>
      obtain ⟨p, q⟩ := p
      have hp := ih.1 hl
      simp only [Option.some.injEq, Prod.mk.injEq]
      constructor
      · rintro ⟨rfl, rfl⟩
        exact ⟨by simp [hp.1], hp.2⟩
      · rintro ⟨he, hn⟩
        cases a with
        | nil =>
          simp only [List.nil_append, List.cons.injEq] at he
          exact absurd (by rw [← he.2, hp.1]; simp) hn
        | cons d a =>
          simp only [List.cons_append, List.cons.injEq] at he
          have := ih.2 ⟨he.2, hn⟩
          rw [hl] at this
          simp only [Option.some.injEq, Prod.mk.injEq] at this
          exact ⟨by rw [he.1, this.1], this.2⟩
    | none =>
      have hn := cutLast_eq_none_iff.1 hl
      by_cases h : c = sep
      · subst h
        simp only [↓reduceIte, Option.some.injEq, Prod.mk.injEq]
        constructor
        · rintro ⟨rfl, rfl⟩
          exact ⟨rfl, hn⟩
        · rintro ⟨he, _⟩
          cases a with
          | nil => simpa using he
          | cons d a =>
            simp only [List.cons_append, List.cons.injEq] at he
            exact absurd (by rw [he.2]; simp) hn
      · simp only [h, ↓reduceIte, reduceCtorEq, false_iff, not_and]
        intro he
        cases a with
        | nil => simp only [List.nil_append, List.cons.injEq] at he; exact absurd he.1 h
        | cons d a =>
          simp only [List.cons_append, List.cons.injEq] at he
          exact absurd (by rw [he.2]; simp) hn

theorem splitOn_ne_nil (sep : Char) (cs : List Char) : splitOn sep cs ≠ [] := by
  cases cs with
  | nil => simp [splitOn]
  | cons c cs =>
    unfold splitOn
    split
    · simp
    · split <;> simp

theorem intercalate_splitOn (sep : Char) (cs : List Char) :
    [sep].intercalate (splitOn sep cs) = cs := by
  induction cs with
  | nil => rfl
  | cons c cs ih =>
    unfold splitOn
    cases hs : splitOn sep cs with
    | nil => exact absurd hs (splitOn_ne_nil sep cs)
    | cons p ps =>
      rw [hs] at ih
      by_cases h : c = sep <;> simp [h, ih]

end SpanPipeline.Text
