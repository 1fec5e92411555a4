/-
  SpanPipeline.Proofs.Endpoint
  ────────────────────────────
  What a certificate decides about an endpoint.

  A bare endpoint is given a scheme before it is split, and which
  one depends on whether a certificate is configured.  The scheme is
  cut off again in front of everything else.  So the certificate
  decides the scheme of a bare endpoint and nothing beside it: the
  same endpoints are at fault with and without one, in the same
  words.

  Main results:
    * `Url.split_of_rest` — what follows the scheme decides the rest.
    * `parse_secured` — parsing with a certificate is parsing without
      one, up to the scheme.
    * `parse_eq_error_iff` — the faults are the same.
-/
import SpanPipeline.Endpoint

namespace SpanPipeline

/-! ## §1. Texts that differ in their schemes. -/

namespace Url

/-- The URL under another scheme. -/
def under (scheme : List Char) (u : Url) : Url := { u with scheme := scheme }

/-- Texts with the same rest after their schemes have the same
    components but for the scheme, and the same faults. -/
theorem split_of_rest {s t : List Char}
    (h : (splitScheme (cleaned s)).2 = (splitScheme (cleaned t)).2) :
    split s = (split t).map (under (splitScheme (cleaned s)).1) := by
  unfold split
  rcases hs : splitScheme (cleaned s) with ⟨scheme, rest⟩
  rcases ht : splitScheme (cleaned t) with ⟨other, rest'⟩
  rw [hs, ht] at h
  obtain rfl : rest = rest' := h
  -- from here on both look at the same rest
  rcases hl : splitNetloc rest with ⟨netloc, tail⟩
  simp only [hl]
  cases hb : checkBrackets netloc with
  | error fault => rfl
  | ok _ =>
    cases hf : checkFolding netloc with
    | error fault => simp [bind, Except.bind, Except.map]
    | ok _ => rfl

theorem scheme_of_split {t : List Char} {u : Url} (h : split t = .ok u) :
    u.scheme = (splitScheme (cleaned t)).1 := by
  have hself := split_of_rest (s := t) (t := t) rfl
  rw [h] at hself
  injection hself with hu
  exact congrArg Url.scheme hu

end Url

namespace Endpoint

/-- The name of the scheme that a bare endpoint is given. -/
def schemeName (secure : Bool) : List Char :=
  if secure then "https".toList else "http".toList

/-- The scheme in front of a bare endpoint is cut off again. -/
theorem splitScheme_default (secure : Bool) (e : List Char) :
    Url.splitScheme (Url.cleaned (defaultScheme secure ++ e))
      = (schemeName secure, '/' :: '/' :: e.filter (!Url.isDropped ·)) := by
  cases secure with
  | false => rfl
  | true => rfl

/-! ## §2. Endpoints with and without a certificate. -/

/-- The URL of an endpoint as it is with a certificate or without
    one. -/
def secured (e : List Char) (secure : Bool) (u : Url) : Url :=
  if hasScheme e then u else u.under (schemeName secure)

theorem split_withScheme (e : List Char) (secure : Bool) :
    Url.split (withScheme e secure) = (Url.split (withScheme e false)).map (secured e secure) := by
  -- an endpoint with a scheme of its own is left as it is
  by_cases hs : hasScheme e = true
  · have hid : secured e secure = id := by
      funext u
      simp [secured, hs]
    simp only [withScheme, hs, if_true, hid]
    cases Url.split e <;> rfl
  · have hrest : (Url.splitScheme (Url.cleaned (defaultScheme secure ++ e))).2
        = (Url.splitScheme (Url.cleaned (defaultScheme false ++ e))).2 := by
      rw [splitScheme_default, splitScheme_default]
    simp only [withScheme, hs, Bool.false_eq_true, if_false]
    rw [Url.split_of_rest hrest, splitScheme_default]
    congr 1
    funext u
    simp [secured, hs]

/-- The port stands in the location. -/
theorem port_secured (e : List Char) (secure : Bool) (u : Url) :
    (secured e secure u).port? = u.port? := by
  unfold secured
  split
  · rfl
  · rfl

/-- Both schemes that are put in front are schemes. -/
theorem isComplete_secured {e : List Char} {u : Url} (h : Url.split (withScheme e false) = .ok u)
    (secure : Bool) : isComplete (secured e secure u) = isComplete u := by
  unfold secured
  by_cases hs : hasScheme e = true
  · simp [hs]
  · have hscheme : u.scheme = schemeName false := by
      rw [Url.scheme_of_split h]
      simp only [withScheme, hs, Bool.false_eq_true, if_false]
      rw [splitScheme_default]
    rw [if_neg hs]
    show (!(schemeName secure).isEmpty && u.hostname?.isSome)
      = (!u.scheme.isEmpty && u.hostname?.isSome)
    rw [hscheme]
    cases secure <;> rfl

theorem components_secured (e : List Char) (secure : Bool) :
    components e secure = (components e false).map (secured e secure) := by
  unfold components
  by_cases hp : isPlain e = true
  · simp only [hp, if_true, split_withScheme e secure]
    cases hu : Url.split (withScheme e false) with
    | error fault => rfl
    | ok u =>
      simp only [Except.map, port_secured]
      cases u.port? with
      | error fault => rfl
      | ok p =>
        simp only [isComplete_secured hu]
        by_cases hc : isComplete u = true
        · simp [hc]
        · simp [hc]
  · simp [hp, Except.map]

/-- **A certificate decides the scheme of a bare endpoint, and
    nothing else.** -/
theorem parse_secured (e : String) (secure : Bool) :
    parse e secure = (parse e false).map (secured e.toList secure) := by
  unfold parse
  rw [components_secured]
  cases components e.toList false with
  | error fault => rfl
  | ok u => rfl

/-- The same endpoints are at fault with a certificate and without
    one. -/
theorem parse_eq_error_iff {e : String} {secure : Bool} {f : Failure} :
    parse e secure = .error f ↔ parse e false = .error f := by
  rw [parse_secured]
  cases parse e false with
  | error g => simp [Except.map]
  | ok u => simp [Except.map]

end Endpoint

end SpanPipeline
