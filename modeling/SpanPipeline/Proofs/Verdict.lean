/-
  SpanPipeline.Proofs.Verdict
  ───────────────────────────
  What parsing an endpoint can come to.

  Many things can be wrong with an endpoint, and they are found at
  different places: white space before anything is split, brackets and
  look-alikes of delimiters while it is split, the port when it is
  read, a missing scheme or host at the end.  Each is stated here on
  its own, by the scheme and the location of the text, whatever else
  is wrong.  An endpoint with none of them has usable components; any
  other one fails, for one of its faults, and the failure names it as
  it was configured.

  Main results:
    * `port_eq_error_iff` — when a port cannot be read.
    * `components_error`, `not_atFault_of_components` — an endpoint is
      refused for a fault that it has, and for no other reason.
    * `parse_one_way` — the two outcomes of parsing.
-/
import SpanPipeline.Proofs.RoundTrip

namespace SpanPipeline

open Text

/-! ## §1. Hosts and ports. -/

namespace Url

/-- A URL that can be sent to. -/
structure Usable (u : Url) : Prop where
  scheme : u.scheme ≠ []
  host : ∃ host, u.hostname? = some host ∧ host ≠ []
  port : ∃ port, u.port? = .ok port ∧ ∀ n, port = some n → n ≤ 65535

/-- A host that is given is not empty, also in lower case. -/
theorem hostname_ne_nil {u : Url} {host : List Char} (h : u.hostname? = some host) :
    host ≠ [] := by
  simp only [hostname?] at h
  split at h
  · cases h
  · next hhost =>
    split at h
    · cases h
      simp
    · cases h
      exact lower_ne_nil (by simpa using hhost)

/-- What is wrong with the text of a port. -/
inductive PortFault (text : List Char) : UrlFault → Prop where
  /-- Something in it is no decimal digit; a sign is none, and neither
      is a digit of another script. -/
  | notNumeric {c : Char} (mem : c ∈ text) (digit : c.isDigit = false) :
      PortFault text (.portText text)
  /-- It has too many digits to be read. -/
  | tooLong (digits : ∀ c ∈ text, c.isDigit = true) (long : maxDigits < text.length) :
      PortFault text (.portDigits text.length)
  /-- Its number is too large. -/
  | outOfRange (digits : ∀ c ∈ text, c.isDigit = true) (short : text.length ≤ maxDigits)
      (large : 65535 < ofAscii 10 text) : PortFault text .portRange

/-- **A port cannot be read when something is wrong with its text.** -/
theorem port_eq_error_iff {u : Url} {fault : UrlFault} :
    u.port? = .error fault ↔ ∃ text, u.hostInfo.2 = some text ∧ PortFault text fault := by
  unfold port?
  cases htext : u.hostInfo.2 with
  | none => simp
  | some text =>
    simp only [Option.some.injEq, exists_eq_left']
    -- the digits are looked at first, then how many, then their number
    by_cases hdigits : ∀ c ∈ text, c.isDigit = true
    · have hall : text.all Char.isDigit = true := List.all_eq_true.mpr hdigits
      simp only [hall, Bool.not_true, Bool.false_eq_true, if_false]
      constructor
      · intro h
        split at h
        · next hlong =>
          cases h
          exact .tooLong hdigits hlong
        · next hshort =>
          split at h
          · next hlarge =>
            cases h
            exact .outOfRange hdigits (by omega) hlarge
          · cases h
      · rintro (⟨hmem, hdigit⟩ | ⟨-, hlong⟩ | ⟨-, hshort, hlarge⟩)
        · rw [hdigits _ hmem] at hdigit
          cases hdigit
        · rw [if_pos hlong]
        · rw [if_neg (by omega), if_pos (show maxPort < ofAscii 10 text from hlarge)]
    · obtain ⟨c, hc⟩ := not_forall.mp hdigits
      obtain ⟨hmem, hdigit⟩ := Classical.not_imp.mp hc
      have hall : text.all Char.isDigit = false := by
        rw [List.all_eq_false]
        exact ⟨c, hmem, hdigit⟩
      simp only [hall, Bool.not_false, if_true, Except.error.injEq]
      constructor
      · rintro rfl
        exact .notNumeric hmem (by simpa using hdigit)
      · rintro (_ | ⟨hdigits', -⟩ | ⟨hdigits', -, -⟩)
        · rfl
        · exact absurd hdigits' hdigits
        · exact absurd hdigits' hdigits

theorem checkFolding_eq_error_iff {netloc : List Char} {fault : UrlFault} :
    checkFolding netloc = .error fault ↔
      fault = .foldsToDelimiter netloc ∧ ∃ c ∈ netloc, c.toNat ∈ delimiterLookalikes := by
  have hany : netloc.any (fun c => delimiterLookalikes.contains c.toNat) = true ↔
      ∃ c ∈ netloc, c.toNat ∈ delimiterLookalikes := by
    simp only [List.any_eq_true, List.contains_iff_mem]
  unfold checkFolding
  rw [← hany]
  split
  · next h => simp only [Except.error.injEq, h, and_true, eq_comm]
  · next h => simp only [reduceCtorEq, h, and_false]

/-- The scheme and the location of a text, before anything is
    checked. -/
def front (text : List Char) : Url :=
  ⟨(splitScheme (cleaned text)).1, (splitNetloc (splitScheme (cleaned text)).2).1, [], [], []⟩

theorem front_of_split {text : List Char} {u : Url} (h : split text = .ok u) :
    (front text).scheme = u.scheme ∧ (front text).netloc = u.netloc := by
  obtain ⟨-, -, rest, tail, -, hs, hn, -, -⟩ := split_eq_ok.mp h
  simp [front, hs, hn]

/-- Host and port stand in the location. -/
theorem hostInfo_congr {u v : Url} (h : u.netloc = v.netloc) : u.hostInfo = v.hostInfo := by
  simp only [hostInfo, h]

theorem hostname_congr {u v : Url} (h : u.netloc = v.netloc) : u.hostname? = v.hostname? := by
  simp only [hostname?, hostInfo_congr h]

/-- Splitting fails in one of the checks on the location. -/
theorem split_error {text : List Char} {fault : UrlFault} (h : split text = .error fault) :
    checkBrackets (front text).netloc = .error fault ∨
      checkFolding (front text).netloc = .error fault := by
  -- both checks are made on the location alone
  change (checkBrackets (front text).netloc >>= fun _ =>
    checkFolding (front text).netloc >>= fun _ => pure _) = _ at h
  cases hb : checkBrackets (front text).netloc with
  | error other =>
    rw [hb] at h
    cases h
    exact .inl rfl
  | ok _ =>
    cases hc : checkFolding (front text).netloc with
    | error other =>
      rw [hb, hc] at h
      cases h
      exact .inr rfl
    | ok _ =>
      rw [hb, hc] at h
      cases h

end Url

namespace Endpoint

/-! ## §2. What can be wrong with an endpoint. -/

/-- A fault of an endpoint, whatever other ones it has. -/
inductive AtFault (e : List Char) (secure : Bool) : UrlFault → Prop where
  | empty (nothing : e = []) : AtFault e secure .unusable
  | blank {c : Char} (mem : c ∈ e) (white : isBlank c = true) : AtFault e secure .unusable
  | noScheme (absent : (Url.front (withScheme e secure)).scheme = []) : AtFault e secure .unusable
  | noHost (absent : (Url.front (withScheme e secure)).hostname? = none) :
      AtFault e secure .unusable
  /-- Its brackets do not match or do not enclose an address. -/
  | brackets {fault : UrlFault}
      (check : Url.checkBrackets (Url.front (withScheme e secure)).netloc = .error fault) :
      AtFault e secure fault
  /-- A character of its location folds to a delimiter. -/
  | lookalike {c : Char} (mem : c ∈ (Url.front (withScheme e secure)).netloc)
      (folds : c.toNat ∈ Url.delimiterLookalikes) :
      AtFault e secure (.foldsToDelimiter (Url.front (withScheme e secure)).netloc)
  | port {text : List Char} {fault : UrlFault}
      (given : (Url.front (withScheme e secure)).hostInfo.2 = some text)
      (wrong : Url.PortFault text fault) : AtFault e secure fault

/-- **An endpoint is refused for a fault that it has.** -/
theorem components_error {e : List Char} {secure : Bool} {fault : UrlFault}
    (h : components e secure = .error fault) : AtFault e secure fault := by
  unfold components at h
  split at h
  · cases hu : Url.split (withScheme e secure) with
    | error other =>
      rw [hu] at h
      cases h
      rcases Url.split_error hu with hb | hc
      · exact .brackets hb
      · obtain ⟨rfl, c, hmem, hfolds⟩ := Url.checkFolding_eq_error_iff.mp hc
        exact .lookalike hmem hfolds
    | ok u =>
      obtain ⟨hscheme, hnetloc⟩ := Url.front_of_split hu
      simp only [hu] at h
      cases hp : u.port? with
      | error other =>
        rw [hp] at h
        cases h
        obtain ⟨text, htext, hwrong⟩ := Url.port_eq_error_iff.mp hp
        exact .port (by rw [Url.hostInfo_congr hnetloc, htext]) hwrong
      | ok port =>
        rw [hp] at h
        by_cases hcomplete : isComplete u = true
        · simp [hcomplete] at h
        · simp only [hcomplete] at h
          cases h
          -- a URL is incomplete without a scheme or without a host
          rcases not_and_or.mp (Bool.and_eq_true_iff.not.mp hcomplete) with hs | hh
          · exact .noScheme (by rw [hscheme]; simpa using hs)
          · exact .noHost (by rw [Url.hostname_congr hnetloc]; simpa using hh)
  · next hplain =>
    cases h
    by_cases hempty : e = []
    · exact .empty hempty
    · have hany : e.any isBlank = true := by simpa [isPlain, hempty] using hplain
      obtain ⟨c, hmem, hwhite⟩ := List.any_eq_true.mp hany
      exact .blank hmem hwhite

/-- **An endpoint that has components has no fault.** -/
theorem not_atFault_of_components {e : List Char} {secure : Bool} {u : Url}
    (h : components e secure = .ok u) (fault : UrlFault) : ¬ AtFault e secure fault := by
  obtain ⟨hplain, hsplit, ⟨port, hport⟩, hcomplete⟩ := components_eq_ok.mp h
  obtain ⟨hscheme, hnetloc⟩ := Url.front_of_split hsplit
  obtain ⟨hbrackets, hfolding, -⟩ := Url.split_eq_ok.mp hsplit
  obtain ⟨hs, hh⟩ := Bool.and_eq_true_iff.mp hcomplete
  intro hfault
  cases hfault with
  | empty nothing =>
    rw [nothing] at hplain
    cases hplain
  | blank mem white =>
    rw [isBlank_of_isPlain hplain _ mem] at white
    cases white
  | noScheme absent =>
    rw [← hscheme, absent] at hs
    cases hs
  | noHost absent =>
    rw [← Url.hostname_congr hnetloc, absent] at hh
    cases hh
  | brackets check =>
    rw [hnetloc, hbrackets] at check
    cases check
  | lookalike mem folds =>
    have hcheck := Url.checkFolding_eq_error_iff.mpr ⟨rfl, _, mem, folds⟩
    rw [hnetloc, hfolding] at hcheck
    cases hcheck
  | port given wrong =>
    rw [Url.hostInfo_congr hnetloc] at given
    rw [Url.port_eq_error_iff.mpr ⟨_, given, wrong⟩] at hport
    cases hport

/-- The components of an endpoint are those of a URL that can be sent
    to. -/
theorem usable_of_components {e : List Char} {secure : Bool} {u : Url}
    (h : components e secure = .ok u) : u.Usable := by
  obtain ⟨-, -, ⟨port, hport⟩, hcomplete⟩ := components_eq_ok.mp h
  obtain ⟨hscheme, hhost⟩ := Bool.and_eq_true_iff.mp hcomplete
  obtain ⟨host, hhost⟩ := Option.isSome_iff_exists.mp hhost
  refine ⟨by simpa using hscheme, ⟨host, hhost, Url.hostname_ne_nil hhost⟩, port, hport, ?_⟩
  rintro n rfl
  exact Url.port_le hport

/-! ## §3. The two outcomes. -/

/-- **Parsing an endpoint has two outcomes.**  Either it has no fault
    and gives the components of a URL that can be sent to, and then the
    endpoint is not empty and has no white space.  Or it fails for one
    of its faults, naming the endpoint as it was configured. -/
theorem parse_one_way (e : String) (secure : Bool) :
    (∃ u, parse e secure = .ok u ∧ u.Usable ∧ e ≠ "" ∧ (∀ c ∈ e.toList, isBlank c = false) ∧
      ∀ fault, ¬ AtFault e.toList secure fault) ∨
    ∃ fault, AtFault e.toList secure fault ∧
      parse e secure = .error (.endpoint e fault.message) := by
  cases h : components e.toList secure with
  | ok u =>
    have hplain := (components_eq_ok.mp h).1
    refine .inl ⟨u, parse_eq_ok.mpr h, usable_of_components h, ?_, isBlank_of_isPlain hplain,
      not_atFault_of_components h⟩
    rintro rfl
    cases hplain
  | error fault => exact .inr ⟨fault, components_error h, by rw [parse, h]⟩

end Endpoint

end SpanPipeline
