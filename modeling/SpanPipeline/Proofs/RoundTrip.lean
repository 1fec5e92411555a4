/-
  SpanPipeline.Proofs.RoundTrip
  ─────────────────────────────
  The URL that spans are sent to means what was configured.

  Over HTTP an endpoint is split, given a path when it has none, and
  put together again.  The two halves of the argument meet at URLs
  whose parts can be told apart: splitting gives such parts, whatever
  the text looked like, and such parts come back when the text that
  they make is split.  The added path starts with a slash, so it ends
  the network location as well as a query or a fragment did, and no
  other part moves.

  Main results:
    * `separable_of_split` — the parts of a text can be told apart.
    * `split_unsplit` — parts that can be told apart come back.
    * `resolveUrl_round_trip` — the URL that is resolved is parsed to
      the same parts, and resolved to itself.
-/
import SpanPipeline.Endpoint
import Mathlib

namespace SpanPipeline

open Text

namespace Url

/-! ## §1. The characters of schemes. -/

theorem isAlpha_iff {c : Char} :
    c.isAlpha = true ↔ 65 ≤ c.toNat ∧ c.toNat ≤ 90 ∨ 97 ≤ c.toNat ∧ c.toNat ≤ 122 := by
  simp only [Char.isAlpha, Char.isUpper, Char.isLower, Bool.or_eq_true, Bool.and_eq_true,
    decide_eq_true_eq]
  rfl

theorem isSchemeChar_iff {c : Char} :
    isSchemeChar c = true ↔ c.isAlpha = true ∨ 48 ≤ c.toNat ∧ c.toNat ≤ 57 ∨
      c.toNat = 43 ∨ c.toNat = 45 ∨ c.toNat = 46 := by
  simp only [isSchemeChar, Char.isAlphanum, Bool.or_eq_true, beq_iff_eq, Char.isDigit_iff_toNat,
    ← Char.toNat_inj]
  grind

theorem isSchemeChar_toLower {c : Char} (h : isSchemeChar c = true) :
    isSchemeChar c.toLower = true := by
  by_cases hupper : c.isUpper = true
  · have halpha : c.toLower.isAlpha = true := by
      rw [Char.isAlpha_toLower_eq_isAlpha, Char.isAlpha, hupper, Bool.true_or]
    exact isSchemeChar_iff.mpr (.inl halpha)
  · rwa [Char.toLower_eq_of_not_isUpper hupper]

/-- Schemes have no white space in them. -/
theorem isBlank_of_isSchemeChar {c : Char} (h : isSchemeChar c = true) : isBlank c = false := by
  rw [isSchemeChar_iff, isAlpha_iff] at h
  rw [Bool.eq_false_iff]
  intro hblank
  simp only [isBlank, isSpace, spaces, RangeTable.holds, List.any_cons, List.any_nil,
    Bool.or_eq_true, Bool.and_eq_true, decide_eq_true_eq, Bool.false_eq_true, or_false] at hblank
  omega

theorem isBlank_of_mem {cs : List Char} (h : cs.any isBlank = false) :
    ∀ c ∈ cs, isBlank c = false := by
  intro c hc
  simpa using List.any_eq_false.mp h c hc

/-- A scheme as it is taken from a text: in lower case, a letter first. -/
structure IsScheme (cs : List Char) : Prop where
  start : ∃ c rest, cs = c :: rest ∧ c.isAlpha = true
  characters : ∀ c ∈ cs, isSchemeChar c = true
  lower : cs.map Char.toLower = cs

/-! ## §2. Splitting at a mark. -/

theorem splitAt_eq {sep : Char} {cs a b : List Char} (h : splitAt sep cs = (a, b)) :
    sep ∉ a ∧ a <+: cs ∧ b ⊆ cs := by
  unfold splitAt at h
  cases hcut : cut? sep cs with
  | none =>
    rw [hcut] at h
    cases h
    exact ⟨cut_eq_none_iff.mp hcut, List.prefix_rfl, List.nil_subset _⟩
  | some p =>
    rw [hcut] at h
    cases h
    obtain ⟨rfl, hsep⟩ := cut_eq_some_iff.mp hcut
    exact ⟨hsep, List.prefix_append _ _, fun c hc => List.mem_append_right _ (.tail _ hc)⟩

/-- A component with its mark is split off again. -/
theorem splitAt_append_marked {sep : Char} {a : List Char} (h : sep ∉ a) (b : List Char) :
    splitAt sep (a ++ marked sep b) = (a, b) := by
  unfold splitAt marked
  cases b with
  | nil =>
    simp [cut_eq_none_iff.mpr h]
  | cons c b =>
    have hcut : cut? sep (a ++ sep :: c :: b) = some (a, c :: b) := cut_eq_some_iff.mpr ⟨rfl, h⟩
    simp [hcut]

/-- The parts of a text, one after the other. -/
theorem split_eq_ok {text : List Char} {u : Url} :
    split text = .ok u ↔ checkBrackets u.netloc = .ok () ∧ checkFolding u.netloc = .ok () ∧
      ∃ rest tail front, splitScheme (cleaned text) = (u.scheme, rest) ∧
        splitNetloc rest = (u.netloc, tail) ∧ splitAt '#' tail = (front, u.fragment) ∧
        splitAt '?' front = (u.path, u.query) := by
  unfold split
  rcases splitScheme (cleaned text) with ⟨scheme, rest⟩
  rcases hn : splitNetloc rest with ⟨netloc, tail⟩
  rcases hf : splitAt '#' tail with ⟨front, fragment⟩
  rcases hq : splitAt '?' front with ⟨path, query⟩
  simp only [hn, hf, hq]
  obtain ⟨us, un, up, uq, uf⟩ := u
  -- only the two checks on the location can fail
  constructor
  · intro h
    cases hb : checkBrackets netloc with
    | error fault =>
      rw [hb] at h
      cases h
    | ok _ =>
      cases hc : checkFolding netloc with
      | error fault =>
        rw [hb, hc] at h
        cases h
      | ok _ =>
        rw [hb, hc] at h
        cases h
        exact ⟨hb, hc, _, _, _, rfl, hn, hf, hq⟩
  · rintro ⟨hb, hc, rest', tail', front', hs', hn', hf', hq'⟩
    cases hs'
    rw [hn] at hn'
    cases hn'
    rw [hf] at hf'
    cases hf'
    rw [hq] at hq'
    cases hq'
    rw [hb, hc]
    rfl

/-! ## §3. The parts of a text can be told apart. -/

/-- The parts of a URL can be told apart once they are put together. -/
structure Separable (u : Url) : Prop where
  scheme : IsScheme u.scheme
  netloc : ∀ c ∈ u.netloc, endsAuthority c = false
  path : u.path = [] ∨ ∃ cs, u.path = '/' :: cs
  marks : '?' ∉ u.path ∧ '#' ∉ u.path
  query : '#' ∉ u.query
  plain : ∀ c ∈ u.netloc ++ u.path ++ u.query ++ u.fragment, isBlank c = false

theorem splitScheme_eq {cs scheme rest : List Char} (h : splitScheme cs = (scheme, rest)) :
    rest ⊆ cs ∧ (scheme = [] ∨ IsScheme scheme) := by
  unfold splitScheme at h
  split at h
  · next c name after hcut =>
    obtain ⟨rfl, -⟩ := cut_eq_some_iff.mp hcut
    split at h
    · next hchars =>
      cases h
      obtain ⟨halpha, hall⟩ := Bool.and_eq_true_iff.mp hchars
      have hname : ∀ d ∈ c :: name, isSchemeChar d = true := by
        intro d hd
        rcases List.mem_cons.mp hd with rfl | hd
        · exact isSchemeChar_iff.mpr (.inl halpha)
        · exact List.all_eq_true.mp hall d hd
      refine ⟨fun d hd => List.mem_append_right _ (.tail _ hd), .inr ⟨?_, ?_, ?_⟩⟩
      · exact ⟨c.toLower, name.map Char.toLower, rfl,
          (Char.isAlpha_toLower_eq_isAlpha c).trans halpha⟩
      · intro d hd
        obtain ⟨e, he, rfl⟩ := List.mem_map.mp hd
        exact isSchemeChar_toLower (hname e he)
      · rw [List.map_map]
        exact List.map_congr_left fun d _ => Char.toLower_toLower_eq_toLower d
    · cases h
      exact ⟨List.Subset.refl _, .inl rfl⟩
  · cases h
    exact ⟨List.Subset.refl _, .inl rfl⟩

theorem splitNetloc_eq {cs netloc tail : List Char} (h : splitNetloc cs = (netloc, tail)) :
    netloc ⊆ cs ∧ tail ⊆ cs ∧ (∀ c ∈ netloc, endsAuthority c = false) ∧
      (netloc = [] ∨ tail = [] ∨ ∃ c rest, tail = c :: rest ∧ endsAuthority c = true) := by
  unfold splitNetloc at h
  split at h
  · next rest =>
    cases h
    have hsub : ∀ l : List Char, l ⊆ rest → l ⊆ '/' :: '/' :: rest := by
      intro l hl c hc
      exact .tail _ (.tail _ (hl hc))
    refine ⟨hsub _ (List.takeWhile_sublist _).subset, hsub _ (List.dropWhile_sublist _).subset,
      ?_, .inr ?_⟩
    · intro c hc
      simpa using List.all_eq_true.mp List.all_takeWhile c hc
    · show rest.dropWhile _ = [] ∨ _
      cases htail : rest.dropWhile (!endsAuthority ·) with
      | nil => exact .inl rfl
      | cons c after =>
        have hhead := List.head?_dropWhile_not (!endsAuthority ·) rest
        rw [htail] at hhead
        exact .inr ⟨c, after, rfl, by simpa using hhead⟩
  · cases h
    exact ⟨List.nil_subset _, List.Subset.refl _, by simp, .inl rfl⟩

/-- A part of a text that ends the location and holds no mark of a
    query or a fragment is a path. -/
theorem path_of_prefix {path tail : List Char} (hpath : path <+: tail)
    (htail : tail = [] ∨ ∃ c rest, tail = c :: rest ∧ endsAuthority c = true)
    (hmarks : '?' ∉ path ∧ '#' ∉ path) : path = [] ∨ ∃ cs, path = '/' :: cs := by
  cases path with
  | nil => exact .inl rfl
  | cons d cs =>
    rcases htail with rfl | ⟨c, rest, rfl, hc⟩
    · cases List.prefix_nil.mp hpath
    · -- the path begins with the mark that ended the location
      obtain ⟨rfl, -⟩ := List.cons_prefix_cons.mp hpath
      have hd : d = '/' ∨ d = '?' ∨ d = '#' := by simpa [endsAuthority, or_assoc] using hc
      rcases hd with rfl | rfl | rfl
      · exact .inr ⟨cs, rfl⟩
      · exact absurd List.mem_cons_self hmarks.1
      · exact absurd List.mem_cons_self hmarks.2

theorem cleaned_subset (cs : List Char) : cleaned cs ⊆ cs :=
  List.Subset.trans (List.filter_sublist.subset) (List.dropWhile_sublist _).subset

/-- **The parts of a text can be told apart**, if it has a scheme and a
    location and no white space. -/
theorem separable_of_split {text : List Char} {u : Url} (h : split text = .ok u)
    (hscheme : u.scheme ≠ []) (hnetloc : u.netloc ≠ [])
    (hplain : ∀ c ∈ text, isBlank c = false) : Separable u := by
  obtain ⟨-, -, rest, tail, front, hs, hn, hf, hq⟩ := split_eq_ok.mp h
  obtain ⟨hrest, hs⟩ := splitScheme_eq hs
  obtain ⟨hnsub, htsub, hn, htail⟩ := splitNetloc_eq hn
  obtain ⟨hhash, hfront, hfsub⟩ := splitAt_eq hf
  obtain ⟨hquestion, hpath, hqsub⟩ := splitAt_eq hq
  have htail := htail.resolve_left hnetloc
  have hmarks : '?' ∉ u.path ∧ '#' ∉ u.path := ⟨hquestion, fun hc => hhash (hpath.subset hc)⟩
  refine ⟨hs.resolve_left hscheme, hn, path_of_prefix (hpath.trans hfront) htail hmarks, hmarks,
    fun hc => hhash (hqsub hc), ?_⟩
  intro c hc
  -- every part is cut out of what stands behind the scheme
  have hmem : c ∈ rest := by
    simp only [List.mem_append] at hc
    rcases hc with ((hc | hc) | hc) | hc
    · exact hnsub hc
    · exact htsub (hfront.subset (hpath.subset hc))
    · exact htsub (hfront.subset (hqsub hc))
    · exact htsub (hfsub hc)
  exact hplain c (cleaned_subset text (hrest hmem))

/-! ## §4. Parts that can be told apart come back. -/

/-- What follows a location begins with the mark that ends it. -/
theorem splitNetloc_append {netloc tail : List Char} (h : ∀ c ∈ netloc, endsAuthority c = false)
    (htail : tail = [] ∨ ∃ c rest, tail = c :: rest ∧ endsAuthority c = true) :
    splitNetloc ('/' :: '/' :: (netloc ++ tail)) = (netloc, tail) := by
  have hkeep : ∀ c ∈ netloc, (!endsAuthority c) = true := by
    intro c hc
    simp [h c hc]
  simp only [splitNetloc, splitAuthority]
  rw [List.takeWhile_append_of_pos hkeep, List.dropWhile_append_of_pos hkeep]
  rcases htail with rfl | ⟨c, rest, rfl, hc⟩
  · simp
  · simp [hc]

theorem splitScheme_append {scheme : List Char} (h : IsScheme scheme) (rest : List Char) :
    splitScheme (scheme ++ ':' :: rest) = (scheme, rest) := by
  have hcolon : ':' ∉ scheme := by
    intro hc
    exact absurd (h.characters _ hc) (by decide)
  have hcut : cut? ':' (scheme ++ ':' :: rest) = some (scheme, rest) :=
    cut_eq_some_iff.mpr ⟨rfl, hcolon⟩
  obtain ⟨c, name, rfl, halpha⟩ := h.start
  have hname : name.all isSchemeChar = true :=
    List.all_eq_true.mpr fun d hd => h.characters d (.tail _ hd)
  simp only [splitScheme, hcut, halpha, hname, Bool.and_self, if_true, h.lower]

/-- The path, the query and the fragment with their marks. -/
def pathPart (u : Url) : List Char := u.path ++ marked '?' u.query ++ marked '#' u.fragment

theorem unsplit_eq (u : Url) :
    u.unsplit = u.scheme ++ ':' :: '/' :: '/' :: (u.netloc ++ u.pathPart) := by
  simp [unsplit, pathPart]

theorem pathPart_start {u : Url} (h : Separable u) :
    u.pathPart = [] ∨ ∃ c rest, u.pathPart = c :: rest ∧ endsAuthority c = true := by
  unfold pathPart
  rcases h.path with hpath | ⟨cs, hpath⟩
  · -- without a path, the query or the fragment brings its own mark
    rw [hpath]
    cases u.query with
    | cons c query => exact .inr ⟨'?', _, rfl, by decide⟩
    | nil =>
      cases u.fragment with
      | cons c fragment => exact .inr ⟨'#', _, rfl, by decide⟩
      | nil => exact .inl rfl
  · rw [hpath]
    exact .inr ⟨'/', _, rfl, by decide⟩

theorem splitAt_pathPart {u : Url} (h : Separable u) :
    splitAt '#' u.pathPart = (u.path ++ marked '?' u.query, u.fragment) ∧
      splitAt '?' (u.path ++ marked '?' u.query) = (u.path, u.query) := by
  refine ⟨splitAt_append_marked ?_ _, splitAt_append_marked h.marks.1 _⟩
  have hquery : '#' ∉ marked '?' u.query := by
    unfold marked
    split
    · simp
    · simp [h.query]
  simp [h.marks.2, hquery]

/-- No white space is put in. -/
theorem isBlank_of_mem_unsplit {u : Url} (h : Separable u) :
    ∀ c ∈ u.unsplit, isBlank c = false := by
  intro c hc
  have hdelimiter : ∀ c ∈ [':', '/', '?', '#'], isBlank c = false := isBlank_of_mem (by decide)
  have hmarked : ∀ sep cs, c ∈ marked sep cs → c = sep ∨ c ∈ cs := by
    intro sep cs hc
    unfold marked at hc
    split at hc
    · cases hc
    · exact List.mem_cons.mp hc
  simp only [unsplit, List.mem_append, List.mem_cons] at hc
  have hcases : c ∈ u.scheme ∨ c ∈ [':', '/', '?', '#'] ∨
      c ∈ u.netloc ++ u.path ++ u.query ++ u.fragment := by
    grind
  rcases hcases with hc | hc | hc
  · exact isBlank_of_isSchemeChar (h.scheme.characters c hc)
  · exact hdelimiter c hc
  · exact h.plain c hc

/-- What is dropped anywhere is white space. -/
theorem isDropped_of_not_blank {c : Char} (h : isBlank c = false) : isDropped c = false := by
  have hdropped : c ≠ '\t' ∧ c ≠ '\r' ∧ c ≠ '\n' := by
    refine ⟨?_, ?_, ?_⟩ <;> rintro rfl <;> exact absurd h (by decide)
  simp [isDropped, hdropped]

/-- A letter is not dropped at the start. -/
theorem isLeading_of_isAlpha {c : Char} (h : c.isAlpha = true) : isLeading c = false := by
  rw [isAlpha_iff] at h
  simp only [isLeading, decide_eq_false_iff_not]
  omega

/-- The text begins with a letter and has nothing to be dropped in it. -/
theorem cleaned_unsplit {u : Url} (h : Separable u) : cleaned u.unsplit = u.unsplit := by
  obtain ⟨c, name, hscheme, halpha⟩ := h.scheme.start
  have hleading : isLeading c = false := isLeading_of_isAlpha halpha
  have hfirst : u.unsplit.dropWhile isLeading = u.unsplit := by
    rw [unsplit_eq, hscheme]
    simp [hleading]
  rw [cleaned, hfirst, List.filter_eq_self]
  intro d hd
  simp [isDropped_of_not_blank (isBlank_of_mem_unsplit h d hd)]

/-- **Parts that can be told apart come back.** -/
theorem split_unsplit {u : Url} (h : Separable u) (hbrackets : checkBrackets u.netloc = .ok ())
    (hfolding : checkFolding u.netloc = .ok ()) : split u.unsplit = .ok u := by
  obtain ⟨hhash, hquestion⟩ := splitAt_pathPart h
  have hscheme : splitScheme (cleaned u.unsplit)
      = (u.scheme, '/' :: '/' :: (u.netloc ++ u.pathPart)) := by
    rw [cleaned_unsplit h, unsplit_eq]
    exact splitScheme_append h.scheme _
  have hnetloc : splitNetloc ('/' :: '/' :: (u.netloc ++ u.pathPart)) = (u.netloc, u.pathPart) :=
    splitNetloc_append h.netloc (pathPart_start h)
  exact split_eq_ok.mpr ⟨hbrackets, hfolding, _, _, _, hscheme, hnetloc, hhash, hquestion⟩

end Url

namespace Endpoint

/-! ## §5. Endpoints. -/

theorem hasScheme_append (before after : List Char) :
    hasScheme (before ++ ':' :: '/' :: '/' :: after) = true := by
  induction before with
  | nil => rfl
  | cons c before ih =>
    rw [List.cons_append]
    unfold hasScheme
    split
    · rfl
    · next heq => cases heq
    · next heq =>
      cases heq
      exact ih

/-- An endpoint that can be parsed has no white space. -/
theorem isBlank_of_isPlain {e : List Char} (h : isPlain e = true) : ∀ c ∈ e, isBlank c = false :=
  Url.isBlank_of_mem (by simpa using (Bool.and_eq_true_iff.mp h).2)

/-- White space is not put in with a scheme. -/
theorem isBlank_of_mem_withScheme {e : List Char} {secure : Bool} (h : isPlain e = true) :
    ∀ c ∈ withScheme e secure, isBlank c = false := by
  have hplain := isBlank_of_isPlain h
  intro c hc
  unfold withScheme at hc
  split at hc
  · exact hplain c hc
  · rcases List.mem_append.mp hc with hc | hc
    · have hscheme : (defaultScheme secure).any isBlank = false := by
        cases secure <;> decide
      exact Url.isBlank_of_mem hscheme c hc
    · exact hplain c hc

/-- A URL with a host has a location. -/
theorem netloc_of_isComplete {u : Url} (h : isComplete u = true) :
    u.scheme ≠ [] ∧ u.netloc ≠ [] := by
  obtain ⟨hscheme, hhost⟩ := Bool.and_eq_true_iff.mp h
  refine ⟨by simpa using hscheme, ?_⟩
  intro hnil
  have hnone : u.hostname? = none := by
    simp [Url.hostname?, Url.hostInfo, hnil, Url.hostPart, cutLast?, cut?, Url.splitAt]
  rw [hnone] at hhost
  cases hhost

/-- The default path keeps the parts apart. -/
theorem separable_withPath {u : Url} (h : Url.Separable u) : Url.Separable (withPath u) := by
  unfold withPath
  split
  · next hempty =>
    have hnil : u.path = [] := List.isEmpty_iff.mp hempty
    have hmarks : '?' ∉ tracesPath ∧ '#' ∉ tracesPath := by decide
    refine ⟨h.scheme, h.netloc, .inr ⟨_, rfl⟩, hmarks, h.query, ?_⟩
    intro c hc
    have htraces : ∀ c ∈ tracesPath, isBlank c = false := Url.isBlank_of_mem (by decide)
    have hplain := h.plain c
    simp only [hnil, List.mem_append, List.not_mem_nil, or_false] at hplain hc
    grind
  · exact h

/-- The path does not matter to the checks on an endpoint. -/
theorem components_withPath {e : List Char} {secure : Bool} {u : Url}
    (h : components e secure = .ok u) (again : Bool) :
    components (withPath u).unsplit again = .ok (withPath u) := by
  obtain ⟨hplain, hsplit, hport, hcomplete⟩ := components_eq_ok.mp h
  obtain ⟨hscheme, hnetloc⟩ := netloc_of_isComplete hcomplete
  have hseparable : Url.Separable (withPath u) := separable_withPath
    (Url.separable_of_split hsplit hscheme hnetloc (isBlank_of_mem_withScheme hplain))
  obtain ⟨hbrackets, hfolding, -⟩ := Url.split_eq_ok.mp hsplit
  have hsame : (withPath u).scheme = u.scheme ∧ (withPath u).netloc = u.netloc := by
    unfold withPath
    split <;> exact ⟨rfl, rfl⟩
  -- what was put together names its scheme, so nobody asks for the certificate
  have hown : withScheme (withPath u).unsplit again = (withPath u).unsplit := by
    rw [withScheme, Url.unsplit_eq, if_pos (hasScheme_append _ _)]
  refine components_eq_ok.mpr ⟨?_, ?_, ?_, ?_⟩
  · have hblank : ((withPath u).unsplit.any isBlank) = false :=
      List.any_eq_false.mpr fun c hc => by simp [Url.isBlank_of_mem_unsplit hseparable c hc]
    rw [isPlain, hblank, Url.unsplit_eq]
    simp
  · rw [hown]
    exact Url.split_unsplit hseparable (hsame.2 ▸ hbrackets) (hsame.2 ▸ hfolding)
  · simpa only [Url.port?, Url.hostInfo, hsame] using hport
  · simpa only [isComplete, Url.hostname?, Url.hostInfo, hsame] using hcomplete

theorem resolveUrl_eq_ok {e u : String} {secure : Bool} :
    resolveUrl (some e) secure = .ok u ↔
      ∃ parts, parse e secure = .ok parts ∧ u = String.ofList (withPath parts).unsplit := by
  cases h : parse e secure with
  | error f => simp [resolveUrl, h, bind, Except.bind]
  | ok parts => simp [resolveUrl, h, bind, Except.bind, pure, Except.pure, eq_comm]

/-- **The URL that spans are sent to means what was configured.**  With
    a certificate or without one it is parsed to the parts of the
    endpoint, with the default path in place of an empty one, and it
    is resolved to itself. -/
theorem resolveUrl_round_trip {e u : String} {secure : Bool}
    (h : resolveUrl (some e) secure = .ok u) (again : Bool) :
    ∃ parts, parse e secure = .ok parts ∧
      parse u again = .ok { parts with
        path := if parts.path = [] then "/v1/traces".toList else parts.path } ∧
      resolveUrl (some u) again = .ok u := by
  obtain ⟨parts, hparse, rfl⟩ := resolveUrl_eq_ok.mp h
  have hagain : parse (String.ofList (withPath parts).unsplit) again = .ok (withPath parts) := by
    rw [parse_eq_ok, String.toList_ofList]
    exact components_withPath (parse_eq_ok.mp hparse) again
  have hpath : withPath parts = { parts with
      path := if parts.path = [] then "/v1/traces".toList else parts.path } := by
    unfold withPath
    by_cases hnil : parts.path = []
    · rw [if_pos (List.isEmpty_iff.mpr hnil), if_pos hnil]
      rfl
    · rw [if_neg (by simpa using hnil), if_neg hnil]
  -- either way there is a path now
  have hstays : withPath (withPath parts) = withPath parts := by
    refine if_neg ?_
    rw [hpath]
    by_cases hnil : parts.path = []
    · simp [hnil]
    · simp [hnil]
  exact ⟨parts, hparse, hpath ▸ hagain, resolveUrl_eq_ok.mpr ⟨_, hagain, by rw [hstays]⟩⟩

/-- A query right behind the location moves behind the added path. -/
theorem resolveUrl_round_trip_query :
    resolveUrl (some "\x01HTTP://me@[::1]:4318?a=/#b") true
        = .ok "http://me@[::1]:4318/v1/traces?a=/#b" ∧
      resolveUrl (some "http://me@[::1]:4318/v1/traces?a=/#b") false
        = .ok "http://me@[::1]:4318/v1/traces?a=/#b" := by
  have h : resolveUrl (some "\x01HTTP://me@[::1]:4318?a=/#b") true
      = .ok "http://me@[::1]:4318/v1/traces?a=/#b" := by cbv
  obtain ⟨_, _, _, hagain⟩ := resolveUrl_round_trip h false
  exact ⟨h, hagain⟩

end Endpoint

end SpanPipeline
