/-
  SpanPipeline.Endpoint
  ─────────────────────
  Where an exporter sends to.

  An endpoint is an absolute URL.  A bare "host:port" is given a
  scheme first: https where trust material is configured, http
  elsewhere.  White space has no place in an endpoint.

  Main results:
    * `parse_eq_ok` — what a parsed endpoint satisfies.
    * `parse_url` — a failure names the endpoint as it was
      configured.
-/
import SpanPipeline.Url
import SpanPipeline.Failure

namespace SpanPipeline.Endpoint

open Text

/-! ## §1. Parsing. -/

/-- The text names its own scheme: it holds a colon followed by two
    slashes. -/
def hasScheme : List Char → Bool
  | ':' :: '/' :: '/' :: _ => true
  | [] => false
  | _ :: cs => hasScheme cs

/-- The scheme of a bare endpoint, with its mark. -/
def defaultScheme (secure : Bool) : List Char :=
  if secure then "https://".toList else "http://".toList

/-- The URL that an endpoint stands for. -/
def withScheme (endpoint : List Char) (secure : Bool) : List Char :=
  if hasScheme endpoint then endpoint else defaultScheme secure ++ endpoint

/-- A text that can be an endpoint at all: not empty and without
    white space. -/
def isPlain (endpoint : List Char) : Bool :=
  !endpoint.isEmpty && !endpoint.any isBlank

/-- A URL that can be sent to has a scheme and a host. -/
def isComplete (u : Url) : Bool :=
  !u.scheme.isEmpty && u.hostname?.isSome

/-- The components of an endpoint, or the fault in it. -/
def components (endpoint : List Char) (secure : Bool) : Except UrlFault Url :=
  if isPlain endpoint then
    match Url.split (withScheme endpoint secure) with
    | .error fault => .error fault
    | .ok u =>
      match u.port? with
      | .error fault => .error fault
      | .ok _ => if isComplete u then .ok u else .error .unusable
  else .error .unusable

/-- Parse an endpoint.  A failure names it as it was configured. -/
def parse (endpoint : String) (secure : Bool) : Except Failure Url :=
  match components endpoint.toList secure with
  | .ok u => .ok u
  | .error fault => .error (.endpoint endpoint fault.message)

theorem components_eq_ok {endpoint : List Char} {secure : Bool} {u : Url} :
    components endpoint secure = .ok u ↔
      isPlain endpoint = true ∧ Url.split (withScheme endpoint secure) = .ok u
        ∧ (∃ p, u.port? = .ok p) ∧ isComplete u = true := by
  unfold components
  grind

theorem parse_eq_ok {endpoint : String} {secure : Bool} {u : Url} :
    parse endpoint secure = .ok u ↔ components endpoint.toList secure = .ok u := by
  unfold parse
  split <;> simp_all

theorem parse_url {endpoint : String} {secure : Bool} {f : Failure}
    (h : parse endpoint secure = .error f) : ∃ reason, f = .endpoint endpoint reason := by
  unfold parse at h
  split at h
  · simp at h
  · simp only [Except.error.injEq] at h
    exact ⟨_, h.symm⟩

/-! ## §2. The address of an HTTP collector. -/

/-- Where spans go on a collector, unless the endpoint says so. -/
def tracesPath : List Char := "/v1/traces".toList

/-- The collector on this machine. -/
def localCollector : String := "http://localhost:4318/v1/traces"

/-- The URL with the default path in place of an empty one. -/
def withPath (u : Url) : Url :=
  if u.path.isEmpty then { u with path := tracesPath } else u

/-- The URL to send to over HTTP. -/
def resolveUrl (endpoint : Option String) (secure : Bool) : Except Failure String :=
  match endpoint with
  | none => .ok localCollector
  | some e => do
    let u ← parse e secure
    return String.ofList (withPath u).unsplit

end SpanPipeline.Endpoint
