/-
  SpanPipeline.Config.Reference
  ─────────────────────────────
  References to environment variables inside configuration text.

  A reference is written `${NAME}`, `${env:NAME}` or
  `${NAME:-default}`, the last also with `env:`.  A name has ASCII
  letters, digits and underscores and starts with no digit; a
  default holds no closing brace.  Text is read once, from the left;
  what is put in place of a reference is not read again.

  Main results:
    * `Reference.read?_length` — a reference takes some text, so
      that reading goes on.
    * `substitute_nil`, `substitute_reference`, `substitute_char` —
      what substitution does at each place.
-/
import SpanPipeline.Text.Cut

namespace SpanPipeline

open Text

/-! ## §1. References. -/

/-- The variables that are set. -/
abbrev Environment := String → Option String

/-- A reference to a variable, with the text to use when the
    variable is not set. -/
structure Reference where
  name : List Char
  default : Option (List Char)
  deriving DecidableEq, Repr

namespace Reference

/-- A character that a name can start with. -/
def isNameStart (c : Char) : Bool := c.isAlpha || c == '_'

/-- A character of a name. -/
def isNameChar (c : Char) : Bool := isNameStart c || c.isDigit

/-- What follows the name: a default, if there is one, and the
    closing brace. -/
def readEnd? (name : List Char) : List Char → Option (Reference × List Char)
  | '}' :: rest => some (⟨name, none⟩, rest)
  | ':' :: '-' :: cs => (cut? '}' cs).map fun p => (⟨name, some p.1⟩, p.2)
  | _ => none

/-- The name and what follows it. -/
def readName? (cs : List Char) : Option (Reference × List Char) :=
  if (cs.head?.map isNameStart).getD false then
    readEnd? (cs.takeWhile isNameChar) (cs.dropWhile isNameChar)
  else none

/-- The reference at the start of a text, and the rest of the text.
    The mark `env:` is taken for a mark where that is possible. -/
def read? : List Char → Option (Reference × List Char)
  | '$' :: '{' :: 'e' :: 'n' :: 'v' :: ':' :: cs =>
    match readName? cs with
    | some found => some found
    | none => readName? ('e' :: 'n' :: 'v' :: ':' :: cs)
  | '$' :: '{' :: cs => readName? cs
  | _ => none

/-- What is put in place of a reference: the value of the variable,
    else the default, else nothing. -/
def value (env : Environment) (r : Reference) : List Char :=
  match env (String.ofList r.name) with
  | some v => v.toList
  | none => r.default.getD []

theorem readEnd?_length {name cs rest : List Char} {r : Reference}
    (h : readEnd? name cs = some (r, rest)) : rest.length < cs.length := by
  unfold readEnd? at h
  split at h
  · simp only [Option.some.injEq, Prod.mk.injEq] at h
    simp [h.2]
  · obtain ⟨⟨a, b⟩, hc, he⟩ := Option.map_eq_some_iff.1 h
    have := (cut_eq_some_iff.1 hc).1
    simp only [Prod.mk.injEq] at he
    subst this
    simp only [he.2, List.length_cons, List.length_append]
    omega
  · simp at h

theorem readName?_length {cs rest : List Char} {r : Reference}
    (h : readName? cs = some (r, rest)) : rest.length < cs.length := by
  unfold readName? at h
  split at h
  · have hl := readEnd?_length h
    have : (cs.dropWhile isNameChar).length ≤ cs.length :=
      (List.dropWhile_sublist isNameChar).length_le
    omega
  · simp at h

theorem read?_length {cs rest : List Char} {r : Reference}
    (h : read? cs = some (r, rest)) : rest.length < cs.length := by
  unfold read? at h
  split at h
  · split at h
    · rename_i found hf
      have hl := readName?_length (hf.trans h)
      simp only [List.length_cons]
      omega
    · have hl := readName?_length h
      simp only [List.length_cons] at hl ⊢
      omega
  · have hl := readName?_length h
    simp only [List.length_cons]
    omega
  · simp at h

end Reference

/-! ## §2. Substitution. -/

/-- The text with every reference replaced. -/
def substitute (env : Environment) : List Char → List Char
  | [] => []
  | c :: cs =>
    match h : Reference.read? (c :: cs) with
    | some (r, rest) =>
      have : rest.length < (c :: cs).length := Reference.read?_length h
      r.value env ++ substitute env rest
    | none => c :: substitute env cs
  termination_by cs => cs.length
  decreasing_by
    · exact this
    · exact Nat.lt_succ_self cs.length

@[simp] theorem substitute_nil (env : Environment) : substitute env [] = [] := by
  rw [substitute]

theorem substitute_reference (env : Environment) {cs rest : List Char} {r : Reference}
    (h : Reference.read? cs = some (r, rest)) :
    substitute env cs = r.value env ++ substitute env rest := by
  cases cs with
  | nil => simp [Reference.read?] at h
  | cons c cs =>
    rw [substitute]
    split
    · rename_i r' rest' h'
      rw [h] at h'
      simp only [Option.some.injEq, Prod.mk.injEq] at h'
      rw [h'.1, h'.2]
    · rename_i h'
      simp [h] at h'

theorem substitute_char (env : Environment) {c : Char} {cs : List Char}
    (h : Reference.read? (c :: cs) = none) :
    substitute env (c :: cs) = c :: substitute env cs := by
  rw [substitute]
  split
  · rename_i h'
    simp [h] at h'
  · rfl

end SpanPipeline
