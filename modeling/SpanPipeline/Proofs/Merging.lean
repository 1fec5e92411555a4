/-
  SpanPipeline.Proofs.Merging
  ───────────────────────────
  Merging headers loses nothing.

  Merged headers have one value to a name.  That value is made of
  everything the headers of the name say, in their order, and the
  names stand in the order in which they first occur.  So the order
  of two headers matters only if they have one name, or if both of
  their names are new there.

  Main results:
    * `joined_eq` — merged headers in one equation.
    * `valuesOf_of_reordered` — headers of different names change
      places without a change in the values of a name.
    * `joined_loses_nothing` — what merged headers hold and what they
      depend on.
-/
import SpanPipeline.Proofs.FailFast
import Mathlib.Data.List.Basic
import Mathlib.Logic.Relation

namespace SpanPipeline.Header

/-! ## §1. Merged headers in one equation. -/

/-- The names of headers, in the order in which they first occur. -/
def firstNames (hs : List Header) : List String := (hs.map Header.name).eraseDups

/-- The values of a name, joined. -/
def joinedValue (hs : List Header) (name : String) : String :=
  String.intercalate ", " (valuesOf name (pairs hs))

theorem names_pairs (hs : List Header) : (pairs hs).map Prod.fst = hs.map Header.name := by
  simp [pairs]

theorem mem_firstNames {name : String} {hs : List Header} :
    name ∈ firstNames hs ↔ ∃ h ∈ hs, h.name = name := by
  simp [firstNames]

/-- The values of a name are those of its headers; a missing one is
    empty. -/
theorem valuesOf_pairs (hs : List Header) (name : String) :
    valuesOf name (pairs hs)
      = (hs.filter fun h => h.name == name).map fun h => h.value.getD "" := by
  rw [valuesOf, pairs, List.filter_map, List.map_map]
  rfl

/-- **Merged headers have each name once, with its values joined.** -/
theorem joined_eq (hs : List Header) :
    joined hs = (firstNames hs).map fun name => (name, joinedValue hs name) := by
  have hmerged := merged_joined hs
  have hnames : (joined hs).map Prod.fst = firstNames hs := by
    rw [hmerged.names, names_pairs, firstNames]
  rw [← hnames, List.map_map]
  conv_lhs => rw [← List.map_id (joined hs)]
  apply List.map_congr_left
  rintro ⟨name, value⟩ hmem
  exact congrArg (Prod.mk name) (hmerged.values name value hmem)

theorem lookup_map_pair (names : List String) (f : String → String) (name : String) :
    (names.map fun n => (n, f n)).lookup name
      = if name ∈ names then some (f name) else none := by
  by_cases h : name ∈ names
  · rw [if_pos h, List.lookup_graph f h]
  · rw [if_neg h, List.lookup_eq_none_iff]
    simp only [List.mem_map, forall_exists_index, and_imp, forall_apply_eq_imp_iff₂]
    intro n hn
    have hne : name ≠ n := by
      rintro rfl
      exact h hn
    simpa using hne

/-! ## §2. Changing places. -/

/-- Two neighbours of different names change places. -/
inductive Swapped : List Header → List Header → Prop where
  | swap (before after : List Header) {h g : Header} (hne : h.name ≠ g.name) :
      Swapped (before ++ h :: g :: after) (before ++ g :: h :: after)

/-- Headers of different names change places, any number of times. -/
abbrev Reordered : List Header → List Header → Prop := Relation.ReflTransGen Swapped

theorem valuesOf_of_swapped {hs gs : List Header} (h : Swapped hs gs) (name : String) :
    valuesOf name (pairs hs) = valuesOf name (pairs gs) := by
  cases h with
  | @swap before after h g hne =>
    rw [valuesOf_pairs, valuesOf_pairs, List.filter_append, List.filter_append]
    -- at most one of the two has the name
    by_cases hh : h.name = name
    · have hg : g.name ≠ name := fun hg => hne (hh.trans hg.symm)
      simp [hh, hg]
    · simp [List.filter_cons, hh]

/-- **Headers of different names change places without a change in
    the values of a name.** -/
theorem valuesOf_of_reordered {hs gs : List Header} (h : Reordered hs gs) (name : String) :
    valuesOf name (pairs hs) = valuesOf name (pairs gs) := by
  induction h with
  | refl => rfl
  | tail _ hstep ih => exact ih.trans (valuesOf_of_swapped hstep name)

/-- Merged headers depend on the order of first occurrences and on the
    values of each name. -/
theorem joined_congr {hs gs : List Header} (hnames : firstNames hs = firstNames gs)
    (hvalues : ∀ name, valuesOf name (pairs hs) = valuesOf name (pairs gs)) :
    joined hs = joined gs := by
  rw [joined_eq, joined_eq, hnames]
  simp only [joinedValue, hvalues]

/-! ## §3. What merging keeps. -/

/-- **Merging loses nothing.**  Merged headers have the names of the
    headers, each once and in the order of first occurrences, and to
    each name all of its values, joined in their order.  They depend
    on nothing else.  Headers of different names may change places:
    that makes a difference exactly when names first occur in another
    order then. -/
theorem joined_loses_nothing :
    (∀ hs : List Header, (joined hs).map Prod.fst = (hs.map Header.name).eraseDups ∧
      ∀ name, (joined hs).lookup name
        = if name ∈ hs.map Header.name
          then some (String.intercalate ", " (valuesOf name (pairs hs))) else none) ∧
    (∀ (hs : List Header) (name : String), valuesOf name (pairs hs)
      = (hs.filter fun h => h.name == name).map fun h => h.value.getD "") ∧
    (∀ hs gs : List Header, firstNames hs = firstNames gs →
      (∀ name, valuesOf name (pairs hs) = valuesOf name (pairs gs)) → joined hs = joined gs) ∧
    ∀ hs gs : List Header, Reordered hs gs →
      (joined hs = joined gs ↔ firstNames hs = firstNames gs) := by
  have hkeys : ∀ hs, (joined hs).map Prod.fst = firstNames hs := by
    intro hs
    rw [joined_eq, List.map_map]
    exact List.map_id _
  refine ⟨fun hs => ⟨hkeys hs, ?_⟩, valuesOf_pairs, fun hs gs => joined_congr, ?_⟩
  · intro name
    rw [joined_eq, lookup_map_pair]
    simp [mem_firstNames, joinedValue]
  · intro hs gs h
    constructor
    · intro heq
      rw [← hkeys, ← hkeys, heq]
    · intro hnames
      exact joined_congr hnames (valuesOf_of_reordered h)

/-- Two headers of one name, with another one after the second or
    between them; and a header without a value. -/
theorem joined_loses_nothing_between :
    joined [⟨"a", some "1"⟩, ⟨"a", none⟩, ⟨"b", some "2"⟩]
        = joined [⟨"a", some "1"⟩, ⟨"b", some "2"⟩, ⟨"a", none⟩] ∧
      (joined [⟨"a", some "1"⟩, ⟨"b", some "2"⟩, ⟨"a", none⟩]).lookup "a" = some "1, " ∧
      joined [⟨"c", none⟩] = joined [⟨"c", some ""⟩] := by
  obtain ⟨hheld, -, hcongr, hreordered⟩ := joined_loses_nothing
  refine ⟨?_, ?_, hcongr _ _ rfl fun _ => rfl⟩
  · exact (hreordered _ _ (.single (.swap [⟨"a", some "1"⟩] [] (by decide)))).mpr rfl
  · rw [(hheld _).2 "a"]
    rfl

end SpanPipeline.Header
