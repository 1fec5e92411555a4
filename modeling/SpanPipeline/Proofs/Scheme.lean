/-
  SpanPipeline.Proofs.Scheme
  ──────────────────────────
  The scheme of an endpoint, and what hangs on it.

  An endpoint that holds "://" names its scheme itself; any other one
  is bare and is given a scheme.  Writing that scheme out changes
  nothing, and giving another one changes the scheme alone.  So for a
  gRPC exporter, which is told a location and whether the connection
  is left open, both can be read off the text: the location is what
  stands between the mark and the first delimiter, and the connection
  is open when the scheme written in front of it is http, or when
  there is none and no certificate either.

  Main results:
    * `hasScheme_iff` — when an endpoint names its scheme.
    * `spelled_of_components`, `components_of_spelled` — the parts of
      an endpoint are where they are written.
    * `scheme_alone` — a scheme that is put in front changes the
      scheme and nothing else.
-/
import SpanPipeline.Proofs.FailFast
import SpanPipeline.Proofs.RoundTrip

namespace SpanPipeline

open Text

/-! ## §1. Schemes and locations in a text. -/

namespace Url

/-- The name of a scheme as it may be written, in any case. -/
structure IsSchemeName (cs : List Char) : Prop where
  start : ∃ c rest, cs = c :: rest ∧ c.isAlpha = true
  characters : ∀ c ∈ cs, isSchemeChar c = true

/-- What follows a location: nothing, or the delimiter that ends it. -/
def EndsLocation (rest : List Char) : Prop :=
  rest = [] ∨ ∃ c cs, rest = c :: cs ∧ endsAuthority c = true

/-- A scheme stands in front of the first colon. -/
theorem splitScheme_of_ne_nil {cs scheme rest : List Char} (h : splitScheme cs = (scheme, rest))
    (hne : scheme ≠ []) :
    ∃ name, IsSchemeName name ∧ cs = name ++ ':' :: rest ∧ scheme = name.map Char.toLower := by
  unfold splitScheme at h
  split at h
  · next c name after hcut =>
    obtain ⟨rfl, -⟩ := cut_eq_some_iff.mp hcut
    split at h
    · next hchars =>
      cases h
      obtain ⟨halpha, hall⟩ := Bool.and_eq_true_iff.mp hchars
      refine ⟨c :: name, ⟨⟨c, name, rfl, halpha⟩, ?_⟩, rfl, rfl⟩
      intro d hd
      rcases List.mem_cons.mp hd with rfl | hd
      · exact isSchemeChar_iff.mpr (.inl halpha)
      · exact List.all_eq_true.mp hall d hd
    · cases h
      exact absurd rfl hne
  · cases h
    exact absurd rfl hne

theorem splitScheme_name {name : List Char} (h : IsSchemeName name) (rest : List Char) :
    splitScheme (name ++ ':' :: rest) = (name.map Char.toLower, rest) := by
  -- no scheme holds a colon, so the first one ends it
  have hcolon : ':' ∉ name := by
    intro hc
    exact absurd (h.characters _ hc) (by decide)
  have hcut : cut? ':' (name ++ ':' :: rest) = some (name, rest) :=
    cut_eq_some_iff.mpr ⟨rfl, hcolon⟩
  obtain ⟨c, cs, rfl, halpha⟩ := h.start
  have hall : cs.all isSchemeChar = true :=
    List.all_eq_true.mpr fun d hd => h.characters d (.tail _ hd)
  simp only [splitScheme, hcut, halpha, hall, Bool.and_self, if_true]

/-- A location follows two slashes. -/
theorem splitNetloc_of_ne_nil {cs netloc tail : List Char} (h : splitNetloc cs = (netloc, tail))
    (hne : netloc ≠ []) : cs = '/' :: '/' :: (netloc ++ tail) := by
  unfold splitNetloc at h
  split at h
  · next rest =>
    have happend := splitAuthority_append rest
    rw [h] at happend
    rw [happend]
  · cases h
    exact absurd rfl hne

theorem filter_of_plain {cs : List Char} (h : ∀ c ∈ cs, isBlank c = false) :
    cs.filter (!isDropped ·) = cs := by
  rw [List.filter_eq_self]
  intro c hc
  simp [isDropped_of_not_blank (h c hc)]

/-- Without white space only leading control characters are dropped. -/
theorem cleaned_of_plain {cs : List Char} (h : ∀ c ∈ cs, isBlank c = false) :
    cleaned cs = cs.dropWhile isLeading :=
  filter_of_plain fun c hc => h c ((List.dropWhile_sublist _).subset hc)

end Url

namespace Endpoint

/-- An endpoint names its scheme when it holds the mark behind one. -/
theorem hasScheme_iff {cs : List Char} : hasScheme cs = true ↔ "://".toList <:+: cs := by
  constructor
  · intro h
    fun_induction hasScheme cs with
    | case1 rest => exact ⟨[], rest, rfl⟩
    | case2 => cases h
    | case3 c cs _ ih => exact (ih h).trans (List.suffix_cons c cs).isInfix
  · rintro ⟨before, after, rfl⟩
    rw [List.append_assoc]
    exact hasScheme_append before after

/-! ## §2. A scheme that is put in front. -/

/-- Parsing two texts comes to the same: the same components, or the
    same reason against each of them. -/
inductive SameVerdict (e e' : String) : Except Failure Url → Except Failure Url → Prop where
  | accepted (u : Url) : SameVerdict e e' (.ok u) (.ok u)
  | refused (reason : String) :
      SameVerdict e e' (.error (.endpoint e reason)) (.error (.endpoint e' reason))

/-- The scheme that a bare endpoint is given may as well be written
    out. -/
theorem components_defaultScheme {e : List Char} (h : hasScheme e = false) (secure flag : Bool) :
    components (defaultScheme secure ++ e) flag = components e secure := by
  have hmark : hasScheme (defaultScheme secure ++ e) = true := by
    cases secure with
    | false => exact hasScheme_append "http".toList e
    | true => exact hasScheme_append "https".toList e
  have hurl : withScheme (defaultScheme secure ++ e) flag = withScheme e secure := by
    rw [withScheme, if_pos hmark, withScheme, if_neg (by simp [h])]
  by_cases hempty : e = []
  · -- a scheme alone is no more of an endpoint than nothing is
    subst hempty
    cases secure <;> rfl
  · have hfront : (defaultScheme secure).any isBlank = false ∧ defaultScheme secure ≠ [] := by
      cases secure <;> decide
    have hplain : isPlain (defaultScheme secure ++ e) = isPlain e := by
      have hisEmpty : (defaultScheme secure ++ e).isEmpty = e.isEmpty := by
        simp [List.isEmpty_eq_false_iff.mpr, hfront.2, hempty]
      rw [isPlain, isPlain, hisEmpty, List.any_append, hfront.1, Bool.false_or]
    unfold components
    rw [hplain, hurl]

theorem sameVerdict_of_components {e e' : String} {secure flag : Bool}
    (h : components e'.toList flag = components e.toList secure) :
    SameVerdict e e' (parse e secure) (parse e' flag) := by
  unfold parse
  rw [h]
  cases components e.toList secure with
  | error fault => exact .refused fault.message
  | ok u => exact .accepted u

/-- The components of a bare endpoint but for its scheme. -/
theorem parse_bare {e : String} (h : hasScheme e.toList = false) (secure : Bool) :
    parse e secure = (parse e false).map fun u => { u with scheme := schemeName secure } := by
  have hunder : secured e.toList secure = fun u => { u with scheme := schemeName secure } := by
    funext u
    exact if_neg (by simp [h])
  rw [parse_secured, hunder]

/-- An endpoint that names its scheme is parsed as it stands. -/
theorem parse_marked {e : String} (h : hasScheme e.toList = true) (secure : Bool) :
    parse e secure = parse e false := by
  have hid : secured e.toList secure = id := by
    funext u
    exact if_pos h
  rw [parse_secured, hid]
  cases parse e false <;> rfl

/-! ## §3. The parts of an endpoint as they are written. -/

/-- How an endpoint is written: the scheme that it names, if it does,
    and its location. -/
inductive Spelled : List Char → Option (List Char) → List Char → Prop where
  /-- A bare endpoint begins with its location. -/
  | bare {location rest : List Char} (unmarked : ¬ "://".toList <:+: location ++ rest)
      (location_chars : ∀ c ∈ location, Url.endsAuthority c = false)
      (ends : Url.EndsLocation rest) :
      Spelled (location ++ rest) none location
  /-- Any other one begins with its scheme, control characters
      apart. -/
  | marked {lead scheme location rest : List Char}
      (lead_chars : ∀ c ∈ lead, Url.isLeading c = true) (name : Url.IsSchemeName scheme)
      (location_chars : ∀ c ∈ location, Url.endsAuthority c = false)
      (ends : Url.EndsLocation rest) :
      Spelled (lead ++ (scheme ++ "://".toList ++ (location ++ rest))) (some scheme) location

/-- What a bare endpoint is split into, once its scheme is cut off. -/
theorem splitScheme_bare {e : List Char} (hmark : hasScheme e = false)
    (hplain : ∀ c ∈ e, isBlank c = false) (secure : Bool) :
    Url.splitScheme (Url.cleaned (withScheme e secure)) = (schemeName secure, '/' :: '/' :: e) := by
  rw [withScheme, if_neg (by simp [hmark]), splitScheme_default, Url.filter_of_plain hplain]

/-- What any other endpoint is split into. -/
theorem splitScheme_marked {e : List Char} (hmark : hasScheme e = true)
    (hplain : ∀ c ∈ e, isBlank c = false) (secure : Bool) :
    Url.splitScheme (Url.cleaned (withScheme e secure))
      = Url.splitScheme (e.dropWhile Url.isLeading) := by
  rw [withScheme, if_pos hmark, Url.cleaned_of_plain hplain]

/-- **An endpoint is parsed only when it is written in this way.** -/
theorem spelled_of_components {e : List Char} {secure : Bool} {u : Url}
    (h : components e secure = .ok u) : ∃ scheme location, Spelled e scheme location := by
  obtain ⟨hplain, hsplit, -, hcomplete⟩ := components_eq_ok.mp h
  obtain ⟨hscheme, hnetloc⟩ := netloc_of_isComplete hcomplete
  obtain ⟨-, -, rest, tail, -, hs, hn, -, -⟩ := Url.split_eq_ok.mp hsplit
  obtain ⟨-, -, hchars, hends⟩ := Url.splitNetloc_eq hn
  have hends : Url.EndsLocation tail := hends.resolve_left hnetloc
  -- white space aside, only control characters in front can be dropped
  have hplain := isBlank_of_isPlain hplain
  have hrest := Url.splitNetloc_of_ne_nil hn hnetloc
  cases hmark : hasScheme e with
  | true =>
    rw [splitScheme_marked hmark hplain] at hs
    obtain ⟨name, hname, hdropped, -⟩ := Url.splitScheme_of_ne_nil hs hscheme
    -- the text is what is dropped from it, followed by what is split
    have htext : e = e.takeWhile Url.isLeading ++ (name ++ "://".toList ++ (u.netloc ++ tail)) := by
      rw [List.append_assoc, show "://".toList ++ (u.netloc ++ tail)
        = ':' :: '/' :: '/' :: (u.netloc ++ tail) from rfl, ← hrest, ← hdropped,
        List.takeWhile_append_dropWhile]
    have hlead : ∀ c ∈ e.takeWhile Url.isLeading, Url.isLeading c = true :=
      fun c hc => List.all_eq_true.mp List.all_takeWhile c hc
    rw [htext]
    exact ⟨some name, u.netloc, .marked hlead hname hchars hends⟩
  | false =>
    rw [splitScheme_bare hmark hplain] at hs
    obtain ⟨-, rfl⟩ := Prod.mk.inj hs
    obtain rfl : e = u.netloc ++ tail := by simpa using hrest
    refine ⟨none, u.netloc, .bare ?_ hchars hends⟩
    rw [← hasScheme_iff, hmark]
    exact Bool.false_ne_true

/-- **The parts of an endpoint are where they are written.**  Its
    location is the one that is parsed, and so is its scheme, in lower
    case; a bare endpoint is given one. -/
theorem components_of_spelled {e location : List Char} {scheme : Option (List Char)} {secure : Bool}
    {u : Url} (hspelled : Spelled e scheme location) (h : components e secure = .ok u) :
    u.netloc = location ∧
      u.scheme = match scheme with
        | some name => name.map Char.toLower
        | none => schemeName secure := by
  obtain ⟨hplain, hsplit, -, -⟩ := components_eq_ok.mp h
  obtain ⟨-, -, rest, tail, -, hs, hn, -, -⟩ := Url.split_eq_ok.mp hsplit
  have hplain := isBlank_of_isPlain hplain
  cases hspelled with
  | @bare location after unmarked chars ends =>
    have hmark : hasScheme (location ++ after) = false := by
      rwa [← hasScheme_iff, Bool.not_eq_true] at unmarked
    rw [splitScheme_bare hmark hplain] at hs
    obtain ⟨hscheme, rfl⟩ := Prod.mk.inj hs
    rw [Url.splitNetloc_append chars ends] at hn
    exact ⟨(Prod.mk.inj hn).1.symm, hscheme.symm⟩
  | @marked lead name location after lead_chars isName chars ends =>
    have hmark : hasScheme (lead ++ (name ++ "://".toList ++ (location ++ after))) = true :=
      hasScheme_iff.mpr ⟨lead ++ name, location ++ after, by simp⟩
    -- a scheme begins with a letter, which is not dropped
    have hdropped : (lead ++ (name ++ "://".toList ++ (location ++ after))).dropWhile Url.isLeading
        = name ++ ':' :: '/' :: '/' :: (location ++ after) := by
      obtain ⟨c, cs, rfl, halpha⟩ := isName.start
      have hleading : Url.isLeading c = false := Url.isLeading_of_isAlpha halpha
      rw [List.dropWhile_append_of_pos lead_chars]
      simp [hleading]
    rw [splitScheme_marked hmark hplain, hdropped, Url.splitScheme_name isName] at hs
    obtain ⟨hscheme, rfl⟩ := Prod.mk.inj hs
    rw [Url.splitNetloc_append chars ends] at hn
    exact ⟨(Prod.mk.inj hn).1.symm, hscheme.symm⟩

end Endpoint

/-! ## §4. What a gRPC exporter is told. -/

namespace Exporter

/-- The target that an endpoint stands for, with a certificate or
    without one: its location, and whether the connection is left
    open. -/
structure Target (e : String) (certificate : Option String) (s : GrpcSettings) : Prop where
  spelled : ∃ scheme location, Endpoint.Spelled e.toList scheme location
  endpoint : ∀ scheme location, Endpoint.Spelled e.toList scheme location →
    s.endpoint = String.ofList location
  insecure : ∀ scheme location, Endpoint.Spelled e.toList scheme location →
    ∃ opened, s.insecure = some opened ∧ (opened = true ↔
      (∃ name, scheme = some name ∧ name.map Char.toLower = "http".toList) ∨
        scheme = none ∧ certificate = none)

theorem grpcTarget_eq_ok {o : OtlpConfig} {e endpoint : String} {insecure : Option Bool}
    (he : o.endpoint = some e) (h : grpcTarget o = .ok (endpoint, insecure)) :
    ∃ u, Endpoint.components e.toList o.certificate.isSome = .ok u ∧
      endpoint = String.ofList u.netloc ∧ insecure = some (u.scheme == "http".toList) := by
  simp only [grpcTarget, he] at h
  cases hp : Endpoint.parse e o.certificate.isSome with
  | error f =>
    rw [hp] at h
    cases h
  | ok u =>
    rw [hp] at h
    cases h
    exact ⟨u, Endpoint.parse_eq_ok.mp hp, rfl, rfl⟩

/-- The target of a gRPC exporter is the one its endpoint stands for. -/
theorem target_of_planGrpc {host : Host} {o : OtlpConfig} {e : String} {s : GrpcSettings}
    (he : o.endpoint = some e) (h : planGrpc host o = .ok s) : Target e o.certificate s := by
  obtain ⟨-, -, htarget, -, -⟩ := planGrpc_eq_ok h
  obtain ⟨u, hu, hendpoint, hinsecure⟩ := grpcTarget_eq_ok he htarget
  refine ⟨Endpoint.spelled_of_components hu, ?_, ?_⟩
  · intro scheme location hspelled
    rw [hendpoint, (Endpoint.components_of_spelled hspelled hu).1]
  · intro scheme location hspelled
    obtain ⟨-, hscheme⟩ := Endpoint.components_of_spelled hspelled hu
    refine ⟨_, hinsecure, ?_⟩
    rw [beq_iff_eq, hscheme]
    cases scheme with
    | some name => simp
    | none => cases o.certificate <;> simp [Endpoint.schemeName]

end Exporter

namespace Endpoint

/-- **A scheme that is put in front changes the scheme and nothing
    else.**  A bare endpoint is parsed like the one with its scheme
    written out, whether or not that one comes with a certificate, and
    with another scheme to the same other components or to the same
    failure.  An endpoint that names its scheme is parsed alike with a
    certificate and without one.  So a gRPC exporter is created with
    the target that its endpoint stands for. -/
theorem scheme_alone (e : String) :
    (¬ "://".toList <:+: e.toList →
      (∀ secure flag : Bool,
        SameVerdict e ((if secure then "https://" else "http://") ++ e) (parse e secure)
          (parse ((if secure then "https://" else "http://") ++ e) flag)) ∧
      ((∃ u : Url, ∀ secure : Bool, parse e secure
          = .ok { u with scheme := if secure then "https".toList else "http".toList }) ∨
        ∃ f, ∀ secure, parse e secure = .error f)) ∧
    ("://".toList <:+: e.toList → ∀ secure flag, parse e secure = parse e flag) ∧
    ∀ (host : Host) (o : OtlpConfig) (j j' : Journal) (x : Exporter),
      o.protocol = some "grpc" → o.endpoint = some e →
      (Exporter.resolve host ⟨false, some o⟩).run j = (.ok x, j') →
      ∃ s records, j' = j.extend [.create j.created (.grpc s)] records ∧
        Exporter.Target e o.certificate s := by
  refine ⟨fun hbare => ?_, fun hmark secure flag => ?_, ?_⟩
  · rw [← hasScheme_iff, Bool.not_eq_true] at hbare
    refine ⟨fun secure flag => ?_, ?_⟩
    · have hwritten : ((if secure then "https://" else "http://") ++ e).toList
          = defaultScheme secure ++ e.toList := by
        rw [String.toList_append]
        cases secure <;> rfl
      apply sameVerdict_of_components
      rw [hwritten, components_defaultScheme hbare]
    · cases hp : parse e false with
      | ok u => exact .inl ⟨u, fun secure => by rw [parse_bare hbare, hp]; rfl⟩
      | error f => exact .inr ⟨f, fun secure => by rw [parse_bare hbare, hp]; rfl⟩
  · rw [parse_marked (hasScheme_iff.mpr hmark) secure, parse_marked (hasScheme_iff.mpr hmark) flag]
  · intro host o j j' x hprotocol he hrun
    obtain ⟨spec, records, hplan, -, rfl⟩ := Exporter.plan_of_run hrun
    have ht : Transport.resolve o.protocol = .ok .grpc := by
      rw [hprotocol]
      rfl
    rw [Exporter.plan_of_transport host ht] at hplan
    obtain ⟨s, hs, heq⟩ := Exporter.ok_of_map hplan
    cases heq
    exact ⟨s, _, rfl, Exporter.target_of_planGrpc he hs⟩

/-- An endpoint with a control character in front and its scheme in
    capitals. -/
def shouted : String := "\x01HTTP://me@collector:4317/x"

/-- The scheme in capitals leaves the connection open. -/
theorem scheme_alone_shouted :
    SameVerdict "collector:4317" "https://collector:4317" (parse "collector:4317" true)
        (parse "https://collector:4317" false) ∧
      parse shouted true = parse shouted false ∧
      ∃ s records, ((Exporter.resolve .bare
          ⟨false, some ⟨some "grpc", some shouted, none, none, [], none⟩⟩).run {}).2
            = Journal.extend {} [.create 0 (.grpc s)] records ∧
        s.endpoint = "me@collector:4317" ∧ s.insecure = some true := by
  have htext : shouted.toList = ['\x01'] ++ ("HTTP".toList
      ++ "://".toList ++ ("me@collector:4317".toList ++ "/x".toList)) := by decide
  have hspelled : Spelled shouted.toList (some "HTTP".toList)
      "me@collector:4317".toList := by
    rw [htext]
    refine .marked (List.all_eq_true.mp (by decide)) ⟨⟨'H', "TTP".toList, by decide, by decide⟩,
      List.all_eq_true.mp (by decide)⟩ (fun c hc => ?_) ?_
    · have hall : "me@collector:4317".toList.all (!Url.endsAuthority ·) = true := by decide
      simpa using List.all_eq_true.mp hall c hc
    · exact .inr ⟨'/', ['x'], by decide, by decide⟩
  refine ⟨((scheme_alone "collector:4317").1 (by decide)).1 true false,
    (scheme_alone shouted).2.1 (by decide) true false, ?_⟩
  obtain ⟨s, records, hj, htarget⟩ := (scheme_alone shouted).2.2
    .bare ⟨some "grpc", some shouted, none, none, [], none⟩ {} _
    ⟨0, "OTLPSpanExporter"⟩ rfl rfl rfl
  obtain ⟨opened, hopened, hiff⟩ := htarget.insecure _ _ hspelled
  refine ⟨s, records, hj, htarget.endpoint _ _ hspelled, ?_⟩
  rw [hopened, hiff.mpr (.inl ⟨_, rfl, by decide⟩)]

end Endpoint

end SpanPipeline
