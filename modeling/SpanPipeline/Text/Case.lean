/-
  SpanPipeline.Text.Case
  ──────────────────────
  Full case mapping of texts.

  Upper case maps each character on its own, to one or several
  characters.  Lower case does the same but for two characters: the
  dotted capital I keeps its dot as a combining mark, and a capital
  sigma becomes a final sigma where it ends a word.

  Main results:
    * `lower_append_ascii` — lower case of ASCII text is mapped
      character by character, whatever follows.
    * `lower_ne_nil` — lower case leaves something of every text.
-/
import SpanPipeline.Text.CaseTable

namespace SpanPipeline.Text

/-! ## §1. One character. -/

/-- The first run that holds the code point gives its image. -/
def runImage? (runs : List CaseRun) (n : Nat) : Option Nat :=
  runs.findSome? (·.image? n)

/-- Upper case of one character. -/
def upperChar (c : Char) : List Char :=
  if c.toNat < 128 then [c.toUpper]
  else match upperExpansions.lookup c.toNat with
    | some image => image.map Char.ofNat
    | none => [((runImage? upperRuns c.toNat).map Char.ofNat).getD c]

/-- Lower case of one character, context apart. -/
def lowerChar (c : Char) : List Char :=
  if c.toNat < 128 then [c.toLower]
  else if c.toNat = 0x130 then ['i', Char.ofNat 0x307]
  else [((runImage? lowerRuns c.toNat).map Char.ofNat).getD c]

/-! ## §2. The final sigma. -/

/-- The nearest character that is not looked through has case. -/
def meetsCase (cs : List Char) : Bool :=
  match cs.dropWhile caseIgnorable.holds with
  | [] => false
  | c :: _ => caseMarked.holds c

/-- The lower case of a capital sigma between `before`, nearest
    first, and `after`. -/
def lowerSigma (before after : List Char) : Char :=
  if meetsCase before && !meetsCase after then 'ς' else 'σ'

/-! ## §3. Texts. -/

/-- Lower case of `cs`, where `before` holds what precedes it,
    nearest first. -/
def lowerFrom (before : List Char) : List Char → List Char
  | [] => []
  | c :: cs =>
    if c = 'Σ' then lowerSigma before cs :: lowerFrom (c :: before) cs
    else lowerChar c ++ lowerFrom (c :: before) cs

/-- Lower case of a text. -/
def lower (cs : List Char) : List Char :=
  lowerFrom [] cs

/-- Upper case of a text. -/
def upper (cs : List Char) : List Char :=
  cs.flatMap upperChar

theorem lowerChar_ascii {c : Char} (h : c.toNat < 128) : lowerChar c = [c.toLower] := by
  simp [lowerChar, h]

theorem lowerFrom_ascii {before cs rest : List Char} (h : ∀ c ∈ cs, c.toNat < 128) :
    lowerFrom before (cs ++ rest)
      = cs.map Char.toLower ++ lowerFrom (cs.reverse ++ before) rest := by
  induction cs generalizing before with
  | nil => rfl
  | cons c cs ih =>
    have hc : c.toNat < 128 := h c (by simp)
    have hs : c ≠ 'Σ' := by
      intro e
      subst e
      exact absurd hc (by decide)
    simp [lowerFrom, hs, lowerChar_ascii hc, ih (fun d hd => h d (by simp [hd]))]

theorem lower_append_ascii {cs rest : List Char} (h : ∀ c ∈ cs, c.toNat < 128) :
    lower (cs ++ rest) = cs.map Char.toLower ++ lowerFrom cs.reverse rest := by
  simp [lower, lowerFrom_ascii h]

theorem lowerChar_ne_nil (c : Char) : lowerChar c ≠ [] := by
  unfold lowerChar
  split
  · simp
  · split <;> simp

theorem lower_ne_nil {cs : List Char} (h : cs ≠ []) : lower cs ≠ [] := by
  cases cs with
  | nil => exact absurd rfl h
  | cons c cs =>
    unfold lower lowerFrom
    split
    · simp
    · simp [lowerChar_ne_nil]

end SpanPipeline.Text
