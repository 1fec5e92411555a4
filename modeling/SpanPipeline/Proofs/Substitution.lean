/-
  SpanPipeline.Proofs.Substitution
  ────────────────────────────────
  Substitution is one pass over an unambiguous grammar.

  How references are written is stated here as a grammar, apart from
  the reader.  The mark `env:` may look like the start of a name, and
  a default may look like text with references of its own; still at
  most one reference starts at each place, and it can be read in one
  way.  So a text falls into pieces in one way, before anything is
  known about the environment.  An environment decides what stands in
  place of each piece and nothing more, which is why nothing that was
  put in is ever read again.

  Main results:
    * `read?_eq_some_iff` — the reader finds the references of the
      grammar.
    * `Spells.unique` — the grammar is unambiguous.
    * `scanned_iff` — a text has precisely one division into pieces.
    * `substitute_one_pass` — substitution replaces the pieces.
-/
import SpanPipeline.Config.Reference
import Mathlib

namespace SpanPipeline

open Text

namespace Reference

/-! ## §1. The grammar. -/

/-- The text is a name: letters, digits and underscores of ASCII, the
    first of them no digit. -/
structure IsName (cs : List Char) : Prop where
  nonempty : cs ≠ []
  characters : ∀ c ∈ cs, c.isAlpha = true ∨ c.isDigit = true ∨ c = '_'
  start : ∀ c, cs.head? = some c → c.isDigit = false

/-- How a default is written: after a colon and a dash, with no
    closing brace in it. -/
inductive SpellsDefault : List Char → Option (List Char) → Prop where
  | absent : SpellsDefault [] none
  | given {text : List Char} (closed : '}' ∉ text) :
      SpellsDefault (':' :: '-' :: text) (some text)

/-- The mark that may stand before a name. -/
def mark : List Char := "env:".toList

/-- How a reference is written. -/
inductive Spells : List Char → Reference → Prop where
  | plain {name tail : List Char} {default : Option (List Char)} (isName : IsName name)
      (spellsDefault : SpellsDefault tail default) :
      Spells ('$' :: '{' :: (name ++ tail ++ ['}'])) ⟨name, default⟩
  | marked {name tail : List Char} {default : Option (List Char)} (isName : IsName name)
      (spellsDefault : SpellsDefault tail default) :
      Spells ('$' :: '{' :: (mark ++ name ++ tail ++ ['}'])) ⟨name, default⟩

/-! ## §2. The reader finds what the grammar allows. -/

theorem isNameChar_iff {c : Char} :
    isNameChar c = true ↔ c.isAlpha = true ∨ c.isDigit = true ∨ c = '_' := by
  simp only [isNameChar, isNameStart, Bool.or_eq_true, beq_iff_eq]
  tauto

theorem isNameStart_iff {c : Char} :
    isNameStart c = true ↔ isNameChar c = true ∧ c.isDigit = false := by
  have hdigit : c.isDigit = true → c.isAlpha = false ∧ c ≠ '_' := by
    intro h
    simp only [Char.isDigit, Char.isAlpha, Char.isUpper, Char.isLower] at h ⊢
    refine ⟨?_, ?_⟩
    · grind
    · rintro rfl
      revert h
      decide
  simp only [isNameChar, isNameStart, Bool.or_eq_true, beq_iff_eq]
  grind

theorem IsName.all {cs : List Char} (h : IsName cs) : ∀ c ∈ cs, isNameChar c = true := by
  intro c hc
  exact isNameChar_iff.mpr (h.characters c hc)

theorem IsName.head {cs : List Char} (h : IsName cs) :
    ∃ c rest, cs = c :: rest ∧ isNameStart c = true := by
  obtain ⟨c, rest, rfl⟩ := List.exists_cons_of_ne_nil h.nonempty
  exact ⟨c, rest, rfl, isNameStart_iff.mpr ⟨h.all c List.mem_cons_self, h.start c rfl⟩⟩

/-- What follows a name in a reference does not go on with the name. -/
theorem SpellsDefault.head {tail : List Char} {default : Option (List Char)}
    (h : SpellsDefault tail default) (rest : List Char) :
    ∃ c cs, tail ++ '}' :: rest = c :: cs ∧ isNameChar c = false := by
  cases h with
  | absent => exact ⟨'}', rest, rfl, by decide⟩
  | given closed => exact ⟨':', _, rfl, by decide⟩

theorem readEnd?_eq_some_iff {name cs rest : List Char} {r : Reference} :
    readEnd? name cs = some (r, rest) ↔
      ∃ tail default, SpellsDefault tail default ∧ r = ⟨name, default⟩ ∧
        cs = tail ++ '}' :: rest := by
  constructor
  · intro h
    unfold readEnd? at h
    split at h
    · cases h
      exact ⟨[], none, .absent, rfl, rfl⟩
    · obtain ⟨⟨text, after⟩, hcut, heq⟩ := Option.map_eq_some_iff.mp h
      obtain ⟨rfl, hclosed⟩ := cut_eq_some_iff.mp hcut
      cases heq
      exact ⟨_, _, .given hclosed, rfl, rfl⟩
    · cases h
  · rintro ⟨tail, default, htail, rfl, rfl⟩
    cases htail with
    | absent => rfl
    | given closed =>
      rename_i text
      have hcut : cut? '}' (text ++ '}' :: rest) = some (text, rest) :=
        cut_eq_some_iff.mpr ⟨rfl, closed⟩
      simp [readEnd?, hcut]

/-- A name ends where the default or the closing brace begins. -/
theorem readName?_eq_some_iff {cs rest : List Char} {r : Reference} :
    readName? cs = some (r, rest) ↔
      ∃ tail, IsName r.name ∧ SpellsDefault tail r.default ∧
        cs = r.name ++ (tail ++ '}' :: rest) := by
  constructor
  · intro h
    unfold readName? at h
    split at h
    · next hstart =>
      obtain ⟨tail, default, htail, rfl, hrest⟩ := readEnd?_eq_some_iff.mp h
      refine ⟨tail, ?_, htail, ?_⟩
      · cases cs with
        | nil => simp at hstart
        | cons c cs =>
          have hc : isNameStart c = true := by simpa using hstart
          have hchar := (isNameStart_iff.mp hc).1
          refine ⟨by simp [hchar], ?_, ?_⟩
          · intro d hd
            exact isNameChar_iff.mp (List.all_eq_true.mp List.all_takeWhile d hd)
          · intro d hd
            obtain rfl : c = d := by simpa [hchar] using hd
            exact (isNameStart_iff.mp hc).2
      · rw [← hrest]
        exact List.takeWhile_append_dropWhile.symm
    · cases h
  · rintro ⟨tail, hname, htail, rfl⟩
    obtain ⟨c, cs, hhead, hstop⟩ := htail.head rest
    have htake : (r.name ++ (tail ++ '}' :: rest)).takeWhile isNameChar = r.name := by
      rw [List.takeWhile_append_of_pos hname.all, hhead]
      simp [hstop]
    have hdrop : (r.name ++ (tail ++ '}' :: rest)).dropWhile isNameChar = tail ++ '}' :: rest := by
      rw [List.dropWhile_append_of_pos hname.all, hhead]
      simp [hstop]
    obtain ⟨d, ds, hcons, hd⟩ := hname.head
    have hstart : ((r.name ++ (tail ++ '}' :: rest)).head?.map isNameStart).getD false = true := by
      rw [hcons]
      simp [hd]
    rw [readName?, if_pos hstart, htake, hdrop]
    exact readEnd?_eq_some_iff.mpr ⟨tail, r.default, htail, rfl, rfl⟩

/-- Where a name can be read, the mark is not taken for a mark: after
    `env:` there would have to be a dash, which no name starts with. -/
theorem read?_of_readName? {cs : List Char} {found : Reference × List Char}
    (h : readName? cs = some found) : read? ('$' :: '{' :: cs) = some found := by
  unfold read?
  split
  · next rest heq =>
    obtain ⟨-, -, rfl⟩ : True ∧ True ∧ cs = 'e' :: 'n' :: 'v' :: ':' :: rest := by simpa using heq
    have hnone : readName? rest = none := by
      cases rest with
      | nil => rfl
      | cons c rest =>
        have hc : c = '-' := by
          simp only [readName?] at h
          have htake : ('e' :: 'n' :: 'v' :: ':' :: c :: rest).dropWhile isNameChar
              = ':' :: c :: rest := rfl
          rw [htake] at h
          by_contra hne
          simp [readEnd?, hne] at h
        subst hc
        rfl
    -- so the reader falls back to a reference without a mark
    rw [hnone]
    exact h
  · next cs' _ heq =>
    obtain rfl : cs = cs' := by simpa using heq
    exact h
  · next hno =>
    exact absurd rfl (hno cs)

/-- **The reader finds the references of the grammar.** -/
theorem read?_eq_some_iff {cs rest : List Char} {r : Reference} :
    read? cs = some (r, rest) ↔ ∃ spelling, Spells spelling r ∧ cs = spelling ++ rest := by
  constructor
  · intro h
    unfold read? at h
    have plain : ∀ {cs}, readName? cs = some (r, rest) →
        ∃ spelling, Spells spelling r ∧ '$' :: '{' :: cs = spelling ++ rest := by
      intro cs h
      obtain ⟨tail, hname, htail, rfl⟩ := readName?_eq_some_iff.mp h
      exact ⟨_, .plain hname htail, by simp⟩
    split at h
    · next cs =>
      cases hm : readName? cs with
      | none =>
        rw [hm] at h
        exact plain h
      | some found =>
        rw [hm] at h
        cases h
        obtain ⟨tail, hname, htail, rfl⟩ := readName?_eq_some_iff.mp hm
        exact ⟨_, .marked hname htail, by simp [mark]⟩
    · exact plain h
    · cases h
  · rintro ⟨spelling, hs, rfl⟩
    cases hs with
    | plain isName spellsDefault =>
      simp only [List.cons_append, List.append_assoc, List.nil_append]
      exact read?_of_readName? (readName?_eq_some_iff.mpr ⟨_, isName, spellsDefault, rfl⟩)
    | marked isName spellsDefault =>
      rename_i name tail default
      have hname : readName? (name ++ (tail ++ '}' :: rest)) = some (⟨name, default⟩, rest) :=
        readName?_eq_some_iff.mpr ⟨tail, isName, spellsDefault, rfl⟩
      simp [read?, mark, hname]

/-- **At most one reference starts at a place, and it can be read in
    one way.** -/
theorem Spells.unique {p q text : List Char} {r s : Reference} (hp : Spells p r) (hq : Spells q s)
    (hpt : p <+: text) (hqt : q <+: text) : p = q ∧ r = s := by
  -- the reader is a function, and finds both
  obtain ⟨rest, rfl⟩ := hpt
  obtain ⟨rest', heq⟩ := hqt
  have hr : read? (p ++ rest) = some (r, rest) := read?_eq_some_iff.mpr ⟨p, hp, rfl⟩
  have hs : read? (p ++ rest) = some (s, rest') := read?_eq_some_iff.mpr ⟨q, hq, heq.symm⟩
  rw [hr] at hs
  cases hs
  exact ⟨(List.append_cancel_right heq).symm, rfl⟩

end Reference

/-! ## §3. The pieces of a text. -/

/-- A piece of a text. -/
inductive Piece where
  /-- A character that stands for itself. -/
  | character (c : Char)
  | reference (r : Reference)

/-- The division of a text into pieces, from the left: a reference
    where one starts, else one character. -/
inductive Scanned : List Char → List Piece → Prop where
  | nil : Scanned [] []
  | reference {spelling rest : List Char} {r : Reference} {ps : List Piece}
      (spells : r.Spells spelling) (scanned : Scanned rest ps) :
      Scanned (spelling ++ rest) (.reference r :: ps)
  | character {c : Char} {cs : List Char} {ps : List Piece}
      (bare : ∀ spelling r, Reference.Spells spelling r → ¬ spelling <+: c :: cs)
      (scanned : Scanned cs ps) : Scanned (c :: cs) (.character c :: ps)

/-- What stands in place of a piece: the character itself; the value of
    a variable that is set, be it empty; else the default; else
    nothing. -/
inductive Piece.Becomes (env : Environment) : Piece → List Char → Prop where
  | character (c : Char) : Becomes env (.character c) [c]
  | value {r : Reference} {v : String} (set : env (String.ofList r.name) = some v) :
      Becomes env (.reference r) v.toList
  | default {r : Reference} {text : List Char} (unset : env (String.ofList r.name) = none)
      (given : r.default = some text) : Becomes env (.reference r) text
  | nothing {r : Reference} (unset : env (String.ofList r.name) = none)
      (absent : r.default = none) : Becomes env (.reference r) []

theorem Reference.read?_eq_none_iff {cs : List Char} :
    read? cs = none ↔ ∀ spelling r, Spells spelling r → ¬ spelling <+: cs := by
  constructor
  · rintro hnone spelling r hs ⟨rest, rfl⟩
    rw [read?_eq_some_iff.mpr ⟨spelling, hs, rfl⟩] at hnone
    cases hnone
  · intro h
    cases hr : read? cs with
    | none => rfl
    | some found =>
      obtain ⟨spelling, hs, rfl⟩ := read?_eq_some_iff.mp hr
      exact absurd (List.prefix_append spelling _) (h spelling _ hs)

/-- A reference takes some text. -/
theorem Reference.Spells.ne_nil {spelling : List Char} {r : Reference} (h : Spells spelling r) :
    spelling ≠ [] := by
  cases h <;> exact List.cons_ne_nil _ _

theorem exists_scanned (text : List Char) : ∃ ps, Scanned text ps := by
  -- the division follows substitution, whose steps do not depend on the environment
  induction text using substitute.induct with
  | case1 => exact ⟨[], .nil⟩
  | case2 c cs r rest hr _ ih =>
    obtain ⟨ps, hps⟩ := ih
    obtain ⟨spelling, hs, heq⟩ := Reference.read?_eq_some_iff.mp hr
    exact ⟨.reference r :: ps, heq ▸ .reference hs hps⟩
  | case3 c cs hr ih =>
    obtain ⟨ps, hps⟩ := ih
    exact ⟨.character c :: ps, .character (Reference.read?_eq_none_iff.mp hr) hps⟩

/-- A text falls into pieces in one way. -/
theorem Scanned.unique {text : List Char} {ps qs : List Piece} (hp : Scanned text ps)
    (hq : Scanned text qs) : ps = qs := by
  induction hp generalizing qs with
  | nil =>
    generalize htext : ([] : List Char) = text at hq
    cases hq with
    | nil => rfl
    | reference hs _ => exact absurd (List.append_eq_nil_iff.mp htext.symm).1 hs.ne_nil
    | character => cases htext
  | @reference spelling rest r ps hs _ ih =>
    -- the other division starts with the same reference, as there is no second one
    generalize htext : spelling ++ rest = text at hq
    cases hq with
    | nil => exact absurd (List.append_eq_nil_iff.mp htext).1 hs.ne_nil
    | reference hs' hq =>
      obtain ⟨rfl, rfl⟩ := hs.unique hs' (List.prefix_append _ _) ⟨_, htext.symm⟩
      obtain rfl := List.append_cancel_left htext
      rw [ih hq]
    | character bare _ => exact absurd ⟨rest, htext⟩ (bare spelling r hs)
  | @character c cs ps bare _ ih =>
    generalize htext : c :: cs = text at hq
    cases hq with
    | nil => cases htext
    | reference hs' _ => exact absurd ⟨_, htext.symm⟩ (bare _ _ hs')
    | character _ hq =>
      cases htext
      rw [ih hq]

/-! ## §4. Substitution. -/

/-- What is put in place of a reference. -/
theorem Reference.becomes_value (env : Environment) (r : Reference) :
    Piece.Becomes env (.reference r) (r.value env) := by
  unfold value
  cases hset : env (String.ofList r.name) with
  | some v => exact .value hset
  | none =>
    cases hdefault : r.default with
    | some text => exact .default hset hdefault
    | none => exact .nothing hset hdefault

/-- Substitution replaces the pieces of a text, each on its own. -/
theorem Scanned.substitute {text : List Char} {ps : List Piece} (h : Scanned text ps)
    (env : Environment) :
    ∃ outs, List.Forall₂ (Piece.Becomes env) ps outs ∧ substitute env text = outs.flatten := by
  induction h with
  | nil => exact ⟨[], .nil, substitute_nil env⟩
  | @reference spelling rest r ps hs _ ih =>
    obtain ⟨outs, houts, hrest⟩ := ih
    have hread : Reference.read? (spelling ++ rest) = some (r, rest) :=
      Reference.read?_eq_some_iff.mpr ⟨spelling, hs, rfl⟩
    refine ⟨r.value env :: outs, .cons (r.becomes_value env) houts, ?_⟩
    rw [substitute_reference env hread, hrest, List.flatten_cons]
  | @character c cs ps bare _ ih =>
    obtain ⟨outs, houts, hrest⟩ := ih
    refine ⟨[c] :: outs, .cons (.character c) houts, ?_⟩
    rw [substitute_char env (Reference.read?_eq_none_iff.mpr bare), hrest]
    rfl

/-- **Substitution is one pass over an unambiguous grammar.**  At most
    one reference starts at each place of a text, and it can be read
    in one way; `env:` before a dash is a name.  The text falls into
    pieces in one way, whatever the environment, and each piece is
    replaced on its own. -/
theorem substitute_one_pass (text : List Char) :
    (∀ remaining p q r s, remaining <:+ text → p <+: remaining → q <+: remaining →
      Reference.Spells p r → Reference.Spells q s → p = q ∧ r = s) ∧
    (∀ r default, text = '$' :: '{' :: (Reference.mark ++ '-' :: default ++ ['}']) →
      '}' ∉ default → (Reference.Spells text r ↔ r = ⟨"env".toList, some default⟩)) ∧
    ∃ ps, Scanned text ps ∧ (∀ qs, Scanned text qs → qs = ps) ∧
      ∀ env, ∃ outs, List.Forall₂ (Piece.Becomes env) ps outs ∧
        substitute env text = outs.flatten := by
  refine ⟨?_, ?_, ?_⟩
  · intro remaining p q r s _ hp hq hr hs
    exact hr.unique hs hp hq
  · rintro r default rfl hclosed
    have hname : Reference.IsName "env".toList := by
      refine ⟨by decide, ?_, ?_⟩
      · intro c hc
        have hall : "env".toList.all Reference.isNameChar = true := by decide
        exact Reference.isNameChar_iff.mp (List.all_eq_true.mp hall c hc)
      · intro c hc
        obtain rfl : 'e' = c := Option.some.inj hc
        decide
    have henv : Reference.Spells ('$' :: '{' :: (Reference.mark ++ '-' :: default ++ ['}']))
        ⟨"env".toList, some default⟩ := .plain hname (.given hclosed)
    constructor
    · intro hr
      exact (hr.unique henv List.prefix_rfl List.prefix_rfl).2
    · rintro rfl
      exact henv
  · obtain ⟨ps, hps⟩ := exists_scanned text
    exact ⟨ps, hps, fun qs hqs => hqs.unique hps, hps.substitute⟩

/-- A reference to `env` whose default looks like one to `X`, but for
    the brace that is left over. -/
def nestedText : List Char := "$\x7benv:-$\x7bX\x7d\x7d".toList

/-- The reference in it. -/
def nestedReference : Reference := ⟨"env".toList, some "$\x7bX".toList⟩

/-- The text with the default in place of the reference looks like a
    reference, to a variable that is set, and stays. -/
theorem substitute_one_pass_nested :
    (∀ q s, q <+: nestedText → Reference.Spells q s →
      nestedText.dropLast = q ∧ nestedReference = s) ∧
    ∃ outs, List.Forall₂ (Piece.Becomes fun name => if name = "X" then some "y" else none)
        [.reference nestedReference, .character '}'] outs ∧
      outs.flatten = "$\x7bX\x7d".toList := by
  have hspells : Reference.Spells nestedText.dropLast nestedReference :=
    ((substitute_one_pass nestedText.dropLast).2.1 _ "$\x7bX".toList rfl (by decide)).mpr rfl
  refine ⟨?_, ?_⟩
  · intro q s hq hs
    exact (substitute_one_pass nestedText).1 nestedText _ q _ s List.suffix_rfl
      (List.dropLast_prefix _) hq hspells hs
  · obtain ⟨ps, _, hunique, hsubstitute⟩ := (substitute_one_pass nestedText).2.2
    have hbrace : Scanned ['}'] [.character '}'] :=
      .character (Reference.read?_eq_none_iff.mp (by decide)) .nil
    obtain rfl := hunique _ (.reference hspells hbrace)
    obtain ⟨outs, houts, heq⟩ := hsubstitute fun name => if name = "X" then some "y" else none
    refine ⟨outs, houts, ?_⟩
    rw [← heq]
    cbv

end SpanPipeline
