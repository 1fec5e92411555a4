/-
  SpanPipeline.Proofs.FailFast
  ────────────────────────────
  The chain of checks on the configuration of an exporter.

  Six checks are made, in a fixed order: the choice of one exporter,
  the protocol, the compression, the timeout, the endpoint, and the
  trusted certificates.  Each is stated here on its own, by the
  fields it looks at.  The two transports make the later ones
  separately; both make them in this order and stop at the first one
  that fails.

  A configuration that fails a check fails the same way whatever the
  later checks would find.  Files are looked at by the last check
  alone.  Without a failure one exporter is created, with arguments
  that say what is configured.

  Main results:
    * `refused_plan` — the plan of an exporter is refused by the
      first check that fails.
    * `Header.merged_joined` — joined headers have each name once,
      with all of its values.
    * `describes_of_plan` — what an exporter is created with.
    * `resolve_fail_fast` — resolving an exporter.
-/
import SpanPipeline.Proofs.Endpoint
import SpanPipeline.Proofs.Plan
import Mathlib.Data.List.Induction

namespace SpanPipeline

open Number

/-! ## §1. The checks. -/

/-- A check on the configuration of an exporter. -/
inductive ExporterCheck where
  | choice
  | protocol
  | compression
  | timeout
  | endpoint
  | certificate
  deriving DecidableEq, Repr

namespace ExporterCheck

/-- All checks, in their order. -/
def all : List ExporterCheck :=
  [.choice, .protocol, .compression, .timeout, .endpoint, .certificate]

/-- The place of a check in the order. -/
def rank : ExporterCheck → Nat
  | .choice => 0
  | .protocol => 1
  | .compression => 2
  | .timeout => 3
  | .endpoint => 4
  | .certificate => 5

/-- The fault of a choice: there has to be one exporter. -/
def choiceFault? (e : ExporterConfig) : Option Failure :=
  match e.populated with
  | [] => some (.configuration "no valid span exporter")
  | [_] => none
  | _ => some (.configuration "must not specify multiple exporters")

/-- The fault of a timeout: it is negative, or its seconds are no
    finite number. -/
def timeoutFault? (t : Int) : Option Failure :=
  if t < 0 then some (.configuration s!"invalid timeout {t}")
  else if t ≠ 0 ∧ (ofQuotient? t.toNat 1000).isNone then some (.foreign (.overflow .timeout))
  else none

/-- The fault of an endpoint. -/
def endpointFault? (e : String) : Option Failure :=
  match Endpoint.components e.toList false with
  | .error fault => some (.endpoint e fault.message)
  | .ok _ => none

/-- Who asks for the certificates. -/
def carrier (o : OtlpConfig) : Tls.Carrier :=
  if o.protocol = some "grpc" then .grpc else .http

/-- Why certificates cannot be loaded. -/
def certificateRefusal? (host : Host) (c : Tls.Carrier) (path : String) : Option Refusal :=
  match Tls.load host path with
  | .error fault => some ⟨fault.failure c, fault.records⟩
  | .ok _ => none

/-- A refusal without log records. -/
def quietly (f : Failure) : Refusal := { failure := f }

/-- Why a check refuses a configuration, if it does. -/
def refusal? (host : Host) (e : ExporterConfig) : ExporterCheck → Option Refusal
  | .choice => (choiceFault? e).map quietly
  | .protocol => e.otlp.bind fun o =>
      (Check.choice "protocol" (o.protocol.getD "http/protobuf")
        ["grpc", "http/protobuf", "http/json"]).map quietly
  | .compression => e.otlp.bind fun o =>
      (Check.choice "compression" (o.compression.getD "none") ["gzip", "none"]).map quietly
  | .timeout => e.otlp.bind fun o => (o.timeout.bind timeoutFault?).map quietly
  | .endpoint => e.otlp.bind fun o => (o.endpoint.bind endpointFault?).map quietly
  | .certificate => e.otlp.bind fun o =>
      o.certificate.bind (certificateRefusal? host (carrier o))

/-- The first check that fails, and why it does. -/
def first? (host : Host) (e : ExporterConfig) : Option (ExporterCheck × Refusal) :=
  all.findSome? fun k => (k.refusal? host e).map fun r => (k, r)

/-- Two configurations are the same for a check: they agree on the
    fields that it looks at. -/
def SameFor (e e' : ExporterConfig) : ExporterCheck → Prop
  | .choice => e.populated = e'.populated
  | .protocol => e.otlp.map (·.protocol) = e'.otlp.map (·.protocol)
  | .compression => e.otlp.map (·.compression) = e'.otlp.map (·.compression)
  | .timeout => e.otlp.map (·.timeout) = e'.otlp.map (·.timeout)
  | .endpoint => e.otlp.map (·.endpoint) = e'.otlp.map (·.endpoint)
  | .certificate => e.otlp.map (·.certificate) = e'.otlp.map (·.certificate)

/-- Two configurations differ only in fields that later checks look
    at. -/
def SameUpTo (k : ExporterCheck) (e e' : ExporterConfig) : Prop :=
  ∀ l : ExporterCheck, l.rank ≤ k.rank → SameFor e e' l

theorem SameUpTo.refl (k : ExporterCheck) (e : ExporterConfig) : SameUpTo k e e := by
  intro l _
  cases l <;> rfl

/-! ## §2. What a check looks at. -/

theorem bind_map_congr {α β γ : Type} {x y : Option α} {field : α → β} (f : β → Option γ)
    (h : x.map field = y.map field) : x.bind (f ∘ field) = y.bind (f ∘ field) := by
  have hx : ∀ z : Option α, z.bind (f ∘ field) = (z.map field).bind f := by
    intro z
    cases z <;> rfl
  rw [hx x, hx y, h]

/-- Two surroundings have the same files, and the same bundles are
    accepted in them. -/
def SameTrust (host host' : Host) : Prop :=
  host'.files = host.files ∧ host'.libraries.bundleFault? = host.libraries.bundleFault?

theorem certificateRefusal?_congr {host host' : Host} (h : SameTrust host host')
    (c : Tls.Carrier) (path : String) :
    certificateRefusal? host' c path = certificateRefusal? host c path := by
  have hload : Tls.load host' path = Tls.load host path := by
    rw [Tls.load, Tls.load, h.1, h.2]
  rw [certificateRefusal?, certificateRefusal?, hload]

/-- A check looks at its own fields, at those of the checks before
    it, and only the last one at files and what they hold. -/
theorem refusal?_congr {host host' : Host} {e e' : ExporterConfig} {k : ExporterCheck}
    (h : SameUpTo k e e') (htrust : k = .certificate → SameTrust host host') :
    k.refusal? host' e' = k.refusal? host e := by
  have hk := h k (Nat.le_refl _)
  cases k with
  | choice =>
    show (choiceFault? e').map quietly = (choiceFault? e).map quietly
    unfold choiceFault?
    rw [show e.populated = e'.populated from hk]
  | protocol => exact (bind_map_congr (fun p => (Check.choice "protocol" (p.getD "http/protobuf")
      ["grpc", "http/protobuf", "http/json"]).map quietly) hk).symm
  | compression => exact (bind_map_congr (fun c => (Check.choice "compression" (c.getD "none")
      ["gzip", "none"]).map quietly) hk).symm
  | timeout => exact (bind_map_congr (fun t => (t.bind timeoutFault?).map quietly) hk).symm
  | endpoint => exact (bind_map_congr (fun t => (t.bind endpointFault?).map quietly) hk).symm
  | certificate =>
    have hsame := certificateRefusal?_congr (htrust rfl)
    -- the protocol says in whose words a rejected bundle is reported
    have hp := h .protocol (by decide)
    simp only [SameFor] at hk hp
    cases ho : e.otlp with
    | none =>
      have ho' : e'.otlp = none := by
        rw [ho] at hk
        exact Option.map_eq_none_iff.mp hk.symm
      simp [refusal?, ho, ho']
    | some o =>
      obtain ⟨o', ho', hcert⟩ : ∃ o', e'.otlp = some o' ∧ o'.certificate = o.certificate := by
        rw [ho] at hk
        exact Option.map_eq_some_iff.mp hk.symm
      rw [ho, ho'] at hp
      simp only [Option.map_some, Option.some.injEq] at hp
      simp [refusal?, ho, ho', carrier, hcert, hp, funext (hsame _)]

theorem rank_le_of_split {before after : List ExporterCheck} {k l : ExporterCheck}
    (h : all = before ++ k :: after) (hl : l ∈ before) : l.rank ≤ k.rank := by
  have hsorted : all.Pairwise fun a b => a.rank < b.rank := by decide
  rw [h, List.pairwise_append] at hsorted
  exact Nat.le_of_lt (hsorted.2.2 l hl k List.mem_cons_self)

/-- **The first check that fails stays the first one** when fields
    that later checks look at are changed, and the surroundings unless
    it is the last check. -/
theorem first?_congr {host host' : Host} {e e' : ExporterConfig} {k : ExporterCheck}
    {r : Refusal} (hfirst : first? host e = some (k, r)) (h : SameUpTo k e e')
    (htrust : k = .certificate → SameTrust host host') : first? host' e' = some (k, r) := by
  obtain ⟨before, l, after, hall, hl, hbefore⟩ := List.findSome?_eq_some_iff.mp hfirst
  obtain ⟨s, hs, hpair⟩ := Option.map_eq_some_iff.mp hl
  obtain ⟨rfl, rfl⟩ : l = k ∧ s = r := by simpa using hpair
  refine List.findSome?_eq_some_iff.mpr ⟨before, l, after, hall, ?_, ?_⟩
  · rw [refusal?_congr h htrust, hs]
    rfl
  · intro m hm
    have hle := rank_le_of_split hall hm
    have hsame : SameUpTo m e e' := fun x hx => h x (Nat.le_trans hx hle)
    have hcert : m = .certificate → SameTrust host host' := by
      -- the last check is before no other one
      rintro rfl
      refine htrust ?_
      cases l <;> simp [rank] at hle ⊢
    rw [refusal?_congr hsame hcert]
    exact hbefore m hm

/-- Why the first check that fails does. -/
theorem findSome?_refusal (host : Host) (e : ExporterConfig) :
    all.findSome? (refusal? host e) = (first? host e).map Prod.snd := by
  rw [first?, List.map_findSome?]
  congr 1
  funext k
  cases h : k.refusal? host e <;> simp [h]

end ExporterCheck

/-! ## §3. Plans stop at the first check. -/

namespace Exporter

/-- Why a result is refused, if it is. -/
def refused? : Except Refusal α → Option Refusal
  | .ok _ => none
  | .error r => some r

/-- A chain is refused by its first link that is. -/
theorem refused_bind {x : Except Refusal α} {f : α → Except Refusal β} {a b : Option Refusal}
    (hx : refused? x = a) (hf : ∀ v, x = .ok v → refused? (f v) = b) :
    refused? (x >>= f) = a.or b := by
  subst hx
  cases x with
  | error r => rfl
  | ok v => exact hf v rfl

theorem refused_bind_pure (x : Except Refusal α) (f : α → β) :
    refused? (x >>= fun v => pure (f v)) = refused? x := by
  cases x with
  | error r => rfl
  | ok v => rfl

theorem refused_map (x : Except Refusal α) (f : α → β) : refused? (x.map f) = refused? x := by
  cases x with
  | error r => rfl
  | ok v => rfl

theorem refused_plainly {x : Except Failure α} {a : Option Failure}
    (h : ∀ f, x = .error f ↔ a = some f) :
    refused? (plainly x) = a.map ExporterCheck.quietly := by
  cases x with
  | error f =>
    rw [(h f).mp rfl]
    rfl
  | ok v =>
    cases a with
    | none => rfl
    | some f =>
      have := (h f).mpr rfl
      cases this

/-- A name is supported when it can be found. -/
theorem choice_eq_find? {α : Type} (kind value : String) (name : α → String) (xs : List α) :
    Check.choice kind value (xs.map name)
      = if (xs.find? fun x => name x == value).isSome then none
        else some (Check.unsupported kind value) := by
  have hiff : (xs.map name).contains value = (xs.find? fun x => name x == value).isSome := by
    rw [Bool.eq_iff_iff, List.contains_iff_mem, List.mem_map, List.find?_isSome]
    simp
  rw [Check.choice, hiff]

theorem refused_transport (protocol : Option String) :
    refused? (plainly (Transport.resolve protocol))
      = (Check.choice "protocol" (protocol.getD "http/protobuf")
          ["grpc", "http/protobuf", "http/json"]).map ExporterCheck.quietly := by
  rw [show ["grpc", "http/protobuf", "http/json"] = Transport.all.map Transport.name from rfl,
    choice_eq_find?, show "http/protobuf" = Transport.defaultName from rfl]
  refine refused_plainly fun f => ?_
  simp only [Transport.resolve]
  cases Transport.all.find? fun t => t.name == protocol.getD Transport.defaultName with
  | none => simp
  | some t => simp

theorem refused_compression {t : Transport} (ht : t ≠ .generic) (compression : Option String) :
    refused? (plainly (t.resolveCompression compression))
      = (Check.choice "compression" (compression.getD "none")
          ["gzip", "none"]).map ExporterCheck.quietly := by
  have hc : t.compressions = [.gzip, .none] := by
    cases t with
    | generic => exact absurd rfl ht
    | grpc | httpProtobuf | httpJson => rfl
  rw [show ["gzip", "none"] = [Compression.gzip, .none].map Compression.name from rfl,
    choice_eq_find?, show "none" = Compression.none.name from rfl]
  refine refused_plainly fun f => ?_
  simp only [Transport.resolveCompression, hc]
  cases [Compression.gzip, .none].find? fun c =>
    c.name == compression.getD Compression.none.name with
  | none => simp
  | some c => simp

theorem refused_timeout (timeout : Option Int) :
    refused? (plainly (resolveTimeout timeout))
      = (timeout.bind ExporterCheck.timeoutFault?).map ExporterCheck.quietly := by
  refine refused_plainly fun f => ?_
  cases timeout with
  | none => simp [resolveTimeout, Check.nonNegative]
  | some t =>
    rw [Option.bind_some]
    by_cases hneg : t < 0
    · simp only [resolveTimeout, Check.nonNegative, ExporterCheck.timeoutFault?, hneg, if_true,
        Except.error.injEq, Option.some.injEq]
      rfl
    · by_cases hzero : t = 0
      · simp [resolveTimeout, Check.nonNegative, ExporterCheck.timeoutFault?, hzero]
      · -- the seconds may be too many for a finite number
        cases hq : ofQuotient? t.toNat 1000 <;>
          simp [resolveTimeout, Check.nonNegative, ExporterCheck.timeoutFault?, hneg, hzero, hq]

/-- Parsing an endpoint fails as its check says, with a certificate
    or without one. -/
theorem parse_error_iff (secure : Bool) {e : String} {f : Failure} :
    Endpoint.parse e secure = .error f ↔ ExporterCheck.endpointFault? e = some f := by
  rw [Endpoint.parse_eq_error_iff]
  unfold Endpoint.parse ExporterCheck.endpointFault?
  cases Endpoint.components e.toList false with
  | error fault => simp
  | ok u => simp

/-- An endpoint is refused as its check says, whatever is made of
    it. -/
theorem refused_parse (e : String) (secure : Bool) (use : Url → α) :
    refused? (plainly (Endpoint.parse e secure >>= fun u => pure (use u)))
      = (ExporterCheck.endpointFault? e).map ExporterCheck.quietly := by
  refine refused_plainly fun f => ?_
  rw [← parse_error_iff secure]
  cases Endpoint.parse e secure with
  | error g => simp [bind, Except.bind]
  | ok u => simp [bind, Except.bind, pure, Except.pure]

theorem refused_grpcTarget (o : OtlpConfig) :
    refused? (plainly (grpcTarget o))
      = (o.endpoint.bind ExporterCheck.endpointFault?).map ExporterCheck.quietly := by
  unfold grpcTarget
  cases o.endpoint with
  | none => rfl
  | some e => exact refused_parse e o.certificate.isSome _

theorem refused_resolveUrl (o : OtlpConfig) :
    refused? (plainly (Endpoint.resolveUrl o.endpoint o.certificate.isSome))
      = (o.endpoint.bind ExporterCheck.endpointFault?).map ExporterCheck.quietly := by
  unfold Endpoint.resolveUrl
  cases o.endpoint with
  | none => rfl
  | some e => exact refused_parse e o.certificate.isSome _

theorem refused_trust (host : Host) (c : Tls.Carrier) (path : Option String) :
    refused? (trust host c path) = path.bind (ExporterCheck.certificateRefusal? host c) := by
  cases path with
  | none => rfl
  | some p =>
    rw [trust, Option.bind_some, ExporterCheck.certificateRefusal?]
    cases Tls.load host p with
    | error fault => rfl
    | ok content => rfl

/-- The checks that both transports make. -/
def transportRefusal? (host : Host) (c : Tls.Carrier) (o : OtlpConfig) : Option Refusal :=
  ((Check.choice "compression" (o.compression.getD "none") ["gzip", "none"]).map
      ExporterCheck.quietly).or <|
    ((o.timeout.bind ExporterCheck.timeoutFault?).map ExporterCheck.quietly).or <|
      ((o.endpoint.bind ExporterCheck.endpointFault?).map ExporterCheck.quietly).or <|
        o.certificate.bind (ExporterCheck.certificateRefusal? host c)

theorem refused_planGrpc (host : Host) (o : OtlpConfig) :
    refused? (planGrpc host o) = transportRefusal? host .grpc o := by
  -- each link of the chain is one check, and the files come last
  apply refused_bind (refused_compression (by decide) o.compression)
  intro compression _
  apply refused_bind (refused_timeout o.timeout)
  intro timeout _
  apply refused_bind (refused_grpcTarget o)
  intro target _
  exact (refused_bind_pure _ _).trans (refused_trust host .grpc o.certificate)

theorem refused_planHttp (host : Host) {t : Transport} (ht : t ≠ .generic) (o : OtlpConfig) :
    refused? (planHttp host t o) = transportRefusal? host .http o := by
  apply refused_bind (refused_compression ht o.compression)
  intro compression _
  apply refused_bind (refused_timeout o.timeout)
  intro timeout _
  apply refused_bind (refused_resolveUrl o)
  intro endpoint _
  exact (refused_bind_pure _ _).trans (refused_trust host .http o.certificate)

/-- A transport that is found has the name that was looked up. -/
theorem name_of_resolve {protocol : Option String} {t : Transport}
    (h : Transport.resolve protocol = .ok t) :
    t ∈ Transport.all ∧ t.name = protocol.getD "http/protobuf" := by
  simp only [Transport.resolve] at h
  split at h
  · next u hu =>
    cases h
    have hname := List.find?_some hu
    exact ⟨List.mem_of_find?_eq_some hu, beq_iff_eq.mp hname⟩
  · cases h

theorem refused_planOtlp (host : Host) {o : OtlpConfig} {t : Transport}
    (h : Transport.resolve o.protocol = .ok t) :
    refused? (planOtlp host t o) = transportRefusal? host (ExporterCheck.carrier o) o := by
  obtain ⟨hmem, hname⟩ := name_of_resolve h
  -- without a protocol the default is looked up, which is another one
  have hgrpc : o.protocol = some "grpc" ↔ t = .grpc := by
    cases hp : o.protocol with
    | none =>
      rw [hp] at hname
      cases t <;> simp_all [Transport.name]
    | some p =>
      rw [hp] at hname
      cases t <;> simp_all [Transport.name, Transport.all, eq_comm]
  cases t with
  | generic => simp [Transport.all] at hmem
  | grpc =>
    rw [ExporterCheck.carrier, if_pos (hgrpc.mpr rfl)]
    exact (refused_map _ _).trans (refused_planGrpc host o)
  | httpProtobuf =>
    rw [ExporterCheck.carrier, if_neg (by simp [hgrpc])]
    exact (refused_map _ _).trans (refused_planHttp host (by decide) o)
  | httpJson =>
    rw [ExporterCheck.carrier, if_neg (by simp [hgrpc])]
    exact (refused_map _ _).trans (refused_planHttp host (by decide) o)

theorem eq_ok_of_plainly {x : Except Failure α} {v : α} (h : plainly x = .ok v) : x = .ok v := by
  cases x with
  | error f => cases h
  | ok w =>
    cases h
    rfl

theorem plan_otlp (host : Host) (o : OtlpConfig) :
    plan host ⟨false, some o⟩
      = plainly (Transport.resolve o.protocol) >>= fun t => planOtlp host t o := by
  cases h : Transport.resolve o.protocol with
  | error f => simp [plan, h, plainly, bind, Except.bind]
  | ok t => simp [plan, h, plainly, bind, Except.bind]

theorem plan_of_transport (host : Host) {o : OtlpConfig} {t : Transport}
    (h : Transport.resolve o.protocol = .ok t) :
    plan host ⟨false, some o⟩ = planOtlp host t o := by
  rw [plan_otlp, h]
  rfl

/-- **The plan of an exporter is refused by the first check that
    fails.** -/
theorem refused_plan (host : Host) (e : ExporterConfig) :
    refused? (plan host e) = (ExporterCheck.first? host e).map Prod.snd := by
  rw [← ExporterCheck.findSome?_refusal]
  obtain ⟨console, otlp⟩ := e
  cases console with
  | true =>
    cases otlp with
    | none => rfl
    | some o => rfl
  | false =>
    cases otlp with
    | none => rfl
    | some o =>
      rw [plan_otlp]
      have hcons : ∀ (f : ExporterCheck → Option Refusal) k ks,
          List.findSome? f (k :: ks) = (f k).or (ks.findSome? f) := by
        intro f k ks
        cases h : f k <;> simp [h]
      simp only [ExporterCheck.all, hcons, List.findSome?_nil, Option.or_none]
      apply refused_bind (refused_transport o.protocol)
      intro t ht
      exact refused_planOtlp host (eq_ok_of_plainly ht)

end Exporter

/-! ## §4. Headers with one value to a name. -/

namespace Header

/-- The values of a name, in order. -/
def valuesOf (name : String) (ps : List (String × String)) : List String :=
  (ps.filter fun p => p.1 == name).map Prod.snd

/-- Headers with one value to a name: the names in the order in which
    they first occur, each with all of its values. -/
structure Merged (ps merged : List (String × String)) : Prop where
  names : merged.map Prod.fst = (ps.map Prod.fst).eraseDups
  values : ∀ name value, (name, value) ∈ merged →
    value = String.intercalate ", " (valuesOf name ps)

/-- The names met so far, and the values of each. -/
structure Groups (ps : List (String × String)) (r : Record (List String)) : Prop where
  names : r.keys = (ps.map Prod.fst).eraseDups
  values : ∀ name, r.get? name
    = if name ∈ ps.map Prod.fst then some (valuesOf name ps) else none

theorem eraseDups_concat (names : List String) (name : String) :
    (names ++ [name]).eraseDups
      = if name ∈ names.eraseDups then names.eraseDups else names.eraseDups ++ [name] := by
  rw [List.eraseDups_append]
  by_cases h : name ∈ names
  · simp [h, List.removeAll]
  · have hone : [name].eraseDups = [name] := rfl
    simp [h, List.removeAll, hone]

/-- One more header keeps the groups. -/
theorem Groups.merge {ps : List (String × String)} {r : Record (List String)} (h : Groups ps r)
    (p : String × String) : Groups (ps ++ [p]) (Header.merge r p) := by
  refine ⟨?_, ?_⟩
  · rw [Header.merge, Record.keys_set, h.names, List.map_append, List.map_singleton,
      eraseDups_concat]
  · intro name
    rw [Header.merge, Record.get?_set, h.values, h.values]
    by_cases hname : name = p.1
    · subst hname
      by_cases hmem : p.1 ∈ ps.map Prod.fst
      · simp [hmem, valuesOf]
      · have hnone : valuesOf p.1 ps = [] := by
          rw [valuesOf, List.map_eq_nil_iff, List.filter_eq_nil_iff]
          intro q hq heq
          exact hmem (beq_iff_eq.mp heq ▸ List.mem_map_of_mem hq)
        simp only [valuesOf] at hnone
        simp [hmem, valuesOf, hnone]
    · -- the values of other names stay as they are
      have hmem : name ∈ (ps ++ [p]).map Prod.fst ↔ name ∈ ps.map Prod.fst := by
        rw [List.map_append, List.mem_append]
        simp [hname]
      simp only [hname, if_false, hmem, valuesOf, List.filter_append]
      simp [Ne.symm hname]

theorem groups_foldl (ps : List (String × String)) : Groups ps (ps.foldl merge .empty) := by
  -- headers are merged from the left, so the last one is merged last
  induction ps using List.reverseRecOn with
  | nil => exact ⟨rfl, fun name => rfl⟩
  | append_singleton ps p ih =>
    rw [List.foldl_append]
    exact ih.merge p

theorem get?_of_mem {α : Type} {r : Record α} {name : String} {value : α}
    (h : (name, value) ∈ r.entries) : r.get? name = some value := by
  obtain ⟨es, hd⟩ := r
  obtain ⟨before, after, rfl⟩ := List.append_of_mem h
  refine List.lookup_eq_some_iff.mpr ⟨before, after, rfl, ?_⟩
  -- a record has each name once, so no entry before has this one
  intro p hp
  rw [List.map_append, List.nodup_append] at hd
  have hne := hd.2.2 p.1 (List.mem_map_of_mem hp) name (by simp)
  simpa using Ne.symm hne

/-- **Joined headers have each name once, with all of its values.** -/
theorem merged_joined (hs : List Header) : Merged (pairs hs) (joined hs) := by
  have hg : Groups (pairs hs) (grouped hs) := groups_foldl (pairs hs)
  refine ⟨?_, ?_⟩
  · rw [← hg.names, joined, List.map_map]
    rfl
  · intro name value hmem
    obtain ⟨e, he, heq⟩ := List.mem_map.mp hmem
    obtain ⟨rfl, rfl⟩ : e.1 = name ∧ String.intercalate ", " e.2 = value := by simpa using heq
    have hget := get?_of_mem (show (e.1, e.2) ∈ (grouped hs).entries from he)
    rw [hg.values] at hget
    split at hget
    · rw [Option.some.inj hget]
    · cases hget

end Header

/-! ## §5. What an exporter is created with. -/

namespace Exporter

/-- The arguments of an OTLP exporter that both transports pass on:
    a compression always, a timeout when it is set and not zero. -/
structure Arguments (o : OtlpConfig) (c : Compression) (seconds : Option Binary64) : Prop where
  compression : c.name = o.compression.getD "none"
  timeout : seconds.isSome = true ↔ ∃ t, o.timeout = some t ∧ t ≠ 0
  value : ∀ t s, o.timeout = some t → seconds = some s →
    ∃ m e, ofQuotient? t.toNat 1000 = some (m, e) ∧ s = .finite false m e

/-- The exporter is the one that a configuration describes. -/
inductive Describes (host : Host) : ExporterConfig → ExporterSpec → Prop where
  | console : Describes host ⟨true, none⟩ .console
  | grpc {o : OtlpConfig} {s : GrpcSettings} (protocol : o.protocol = some "grpc")
      (arguments : Arguments o s.compression s.timeout)
      (unsecured : o.certificate = none → s.credentials = none)
      (secured : ∀ path, o.certificate = some path →
        ∃ content, host.files.read path = .ok content ∧ s.credentials = some content)
      (headers : s.headers = if o.headers = [] then none
        else some (o.headers.map fun h => (h.name, h.value.getD ""))) :
      Describes host ⟨false, some o⟩ (.grpc s)
  | http {o : OtlpConfig} {s : HttpSettings}
      (protocol : o.protocol.getD "http/protobuf" ∈ ["http/protobuf", "http/json"])
      (arguments : Arguments o s.compression s.timeout)
      (certificate : s.certificate = o.certificate)
      (bare : o.headers = [] → s.headers = none)
      (headers : o.headers ≠ [] → ∃ merged, s.headers = some merged ∧
        Header.Merged (Header.pairs o.headers) merged) :
      Describes host ⟨false, some o⟩ (.http s)

theorem ok_of_bind {x : Except Refusal α} {f : α → Except Refusal β} {b : β}
    (h : x >>= f = .ok b) : ∃ a, x = .ok a ∧ f a = .ok b := by
  cases x with
  | error r => cases h
  | ok a => exact ⟨a, rfl, h⟩

theorem ok_of_map {x : Except Refusal α} {f : α → β} {b : β} (h : x.map f = .ok b) :
    ∃ a, x = .ok a ∧ b = f a := by
  cases x with
  | error r => cases h
  | ok a =>
    cases h
    exact ⟨a, rfl, rfl⟩

/-- The settings of a gRPC exporter are what each step came to. -/
theorem planGrpc_eq_ok {host : Host} {o : OtlpConfig} {s : GrpcSettings}
    (h : planGrpc host o = .ok s) :
    Transport.grpc.resolveCompression o.compression = .ok s.compression ∧
      resolveTimeout o.timeout = .ok s.timeout ∧
      grpcTarget o = .ok (s.endpoint, s.insecure) ∧
      trust host .grpc o.certificate = .ok s.credentials ∧
      s.headers = headers? Header.pairs o.headers := by
  obtain ⟨compression, hc, h⟩ := ok_of_bind h
  obtain ⟨timeout, ht, h⟩ := ok_of_bind h
  obtain ⟨target, htarget, h⟩ := ok_of_bind h
  obtain ⟨credentials, htrust, h⟩ := ok_of_bind h
  cases h
  exact ⟨eq_ok_of_plainly hc, eq_ok_of_plainly ht, eq_ok_of_plainly htarget, htrust, rfl⟩

/-- What the shared steps of both transports come to. -/
theorem arguments_of_steps {t : Transport} {o : OtlpConfig} {compression : Compression}
    {timeout : Option Binary64}
    (hc : t.resolveCompression o.compression = .ok compression)
    (ht : resolveTimeout o.timeout = .ok timeout) : Arguments o compression timeout := by
  have hname : compression.name = o.compression.getD "none" := by
    simp only [Transport.resolveCompression] at hc
    split at hc
    · next c hfound =>
      cases hc
      have hname := List.find?_some hfound
      exact beq_iff_eq.mp hname
    · cases hc
  unfold resolveTimeout at ht
  split at ht
  · cases ht
  · cases hto : o.timeout with
    | none =>
      rw [hto] at ht
      cases ht
      exact ⟨hname, by simp [hto], by simp⟩
    | some n =>
      rw [hto] at ht
      by_cases hzero : n = 0
      · -- a timeout of zero is not passed on
        subst hzero
        cases ht
        exact ⟨hname, by simp [hto], by simp⟩
      · simp only [hzero, if_false] at ht
        split at ht
        · next m e hq =>
          cases ht
          refine ⟨hname, by simp [hto, hzero], ?_⟩
          intro t s htn hs
          obtain rfl : n = t := by simpa [hto] using htn
          exact ⟨m, e, hq, (Option.some.inj hs).symm⟩
        · cases ht

theorem headers?_eq (write : List Header → List (String × String)) (hs : List Header) :
    headers? write hs = if hs = [] then none else some (write hs) := by
  cases hs with
  | nil => rfl
  | cons h hs => rfl

/-- The gRPC transport passes on what is configured. -/
theorem describes_of_planGrpc {host : Host} {o : OtlpConfig} {s : GrpcSettings}
    (hp : o.protocol = some "grpc") (h : planGrpc host o = .ok s) :
    Describes host ⟨false, some o⟩ (.grpc s) := by
  obtain ⟨hc, ht, -, htrust, hheaders⟩ := planGrpc_eq_ok h
  refine .grpc hp (arguments_of_steps hc ht) ?_ ?_ (hheaders.trans (headers?_eq _ _))
  · intro hnone
    rw [hnone] at htrust
    exact (Except.ok.inj htrust).symm
  · intro path hpath
    rw [hpath] at htrust
    simp only [trust] at htrust
    split at htrust
    · next content hload =>
      exact ⟨content, (Tls.load_eq_ok.mp hload).2.1, (Except.ok.inj htrust).symm⟩
    · cases htrust

/-- The HTTP transport passes on what is configured. -/
theorem describes_of_planHttp {host : Host} {t : Transport} {o : OtlpConfig} {s : HttpSettings}
    (hp : o.protocol.getD "http/protobuf" ∈ ["http/protobuf", "http/json"])
    (h : planHttp host t o = .ok s) : Describes host ⟨false, some o⟩ (.http s) := by
  obtain ⟨compression, hc, h⟩ := ok_of_bind h
  obtain ⟨timeout, ht, h⟩ := ok_of_bind h
  obtain ⟨endpoint, _, h⟩ := ok_of_bind h
  obtain ⟨content, _, h⟩ := ok_of_bind h
  cases h
  refine .http hp (arguments_of_steps (eq_ok_of_plainly hc) (eq_ok_of_plainly ht)) rfl ?_ ?_
  · intro hnil
    exact (headers?_eq _ _).trans (if_pos hnil)
  · intro hne
    exact ⟨_, (headers?_eq _ _).trans (if_neg hne), Header.merged_joined o.headers⟩

/-- **A plan that succeeds is the plan of the exporter that the
    configuration describes.** -/
theorem describes_of_plan {host : Host} {e : ExporterConfig} {spec : ExporterSpec}
    {records : List LogRecord} (h : plan host e = .ok (spec, records)) :
    Describes host e spec := by
  obtain ⟨console, otlp⟩ := e
  cases console with
  | true =>
    cases otlp with
    | none =>
      cases h
      exact .console
    | some o => cases h
  | false =>
    cases otlp with
    | none => cases h
    | some o =>
      rw [plan_otlp] at h
      obtain ⟨t, ht, h⟩ := ok_of_bind h
      obtain ⟨hmem, hname⟩ := name_of_resolve (eq_ok_of_plainly ht)
      cases t with
      | generic => simp [Transport.all] at hmem
      | grpc =>
        obtain ⟨s, hs, heq⟩ := ok_of_map h
        cases heq
        refine describes_of_planGrpc ?_ hs
        cases hp : o.protocol with
        | none =>
          rw [hp] at hname
          exact absurd hname (by decide)
        | some p =>
          rw [hp] at hname
          exact congrArg some hname.symm
      | httpProtobuf =>
        obtain ⟨s, hs, heq⟩ := ok_of_map h
        cases heq
        exact describes_of_planHttp (by rw [← hname]; decide) hs
      | httpJson =>
        obtain ⟨s, hs, heq⟩ := ok_of_map h
        cases heq
        exact describes_of_planHttp (by rw [← hname]; decide) hs

/-! ## §6. Resolving an exporter. -/

/-- **Resolving an exporter stops at the first check that fails.**
    It fails as that check says, and so it does for any configuration
    that differs only in fields of later checks, and in any
    surroundings if it is not the certificates that fail.  Nothing is created then.
    Otherwise one exporter is created, the one that is described. -/
theorem resolve_fail_fast (host : Host) (e : ExporterConfig) (j : Journal) :
    match ExporterCheck.first? host e with
    | some (k, r) =>
      (resolve host e).run j = (.error r.failure, j.extend [] r.records) ∧
        ∀ (host' : Host) (e' : ExporterConfig), ExporterCheck.SameUpTo k e e' →
          (k = .certificate → ExporterCheck.SameTrust host host') →
          (resolve host' e').run j = (.error r.failure, j.extend [] r.records)
    | none =>
      ∃ spec records, (resolve host e).run j = (.ok ⟨j.created, spec.className⟩,
          j.extend [.create j.created spec] records) ∧
        Describes host e spec := by
  cases hfirst : ExporterCheck.first? host e with
  | some p =>
    obtain ⟨k, r⟩ := p
    have hall : ∀ (host' : Host) (e' : ExporterConfig), ExporterCheck.SameUpTo k e e' →
        (k = .certificate → ExporterCheck.SameTrust host host') →
        (resolve host' e').run j = (.error r.failure, j.extend [] r.records) := by
      intro host' e' hsame htrust
      have hrefused := refused_plan host' e'
      rw [ExporterCheck.first?_congr hfirst hsame htrust] at hrefused
      have hplan : plan host' e' = .error r := by
        cases hp : plan host' e' with
        | ok p => simp [hp, refused?] at hrefused
        | error s => simpa [hp, refused?] using hrefused
      rw [run_resolve, hplan]
    exact ⟨hall host e (.refl k e) fun _ => ⟨rfl, rfl⟩, hall⟩
  | none =>
    have hrefused := refused_plan host e
    rw [hfirst] at hrefused
    cases hp : plan host e with
    | error s => simp [hp, refused?] at hrefused
    | ok p =>
      obtain ⟨spec, records⟩ := p
      refine ⟨spec, records, ?_, describes_of_plan hp⟩
      rw [run_resolve, hp]

/-- Compression, timeout and certificates are all at fault here. -/
def unsupported : ExporterConfig :=
  ⟨false, some ⟨some "grpc", none, some "zip", some (-1), [], some "ca.crt"⟩⟩

/-- Here only the compression is. -/
def unsupportedOnly : ExporterConfig :=
  ⟨false, some ⟨some "grpc", some "localhost", some "zip", none, [⟨"key", none⟩], none⟩⟩

/-- Both fail for their compression. -/
theorem resolve_fail_fast_compression :
    (resolve .bare unsupported).run {}
        = (.error (Check.unsupported "compression" "zip"), {}) ∧
      (resolve { Host.bare with env := fun _ => some "x" } unsupportedOnly).run {}
        = (.error (Check.unsupported "compression" "zip"), {}) := by
  have hfirst : ExporterCheck.first? .bare unsupported = some (.compression,
      ExporterCheck.quietly (Check.unsupported "compression" "zip")) := rfl
  have hsame : ExporterCheck.SameUpTo .compression unsupported unsupportedOnly := by
    intro l hl
    cases l with
    | choice | protocol | compression => rfl
    | timeout | endpoint | certificate => exact absurd hl (by decide)
  have h := resolve_fail_fast .bare unsupported {}
  simp only [hfirst] at h
  exact ⟨h.1, h.2 { Host.bare with env := fun _ => some "x" } unsupportedOnly hsame
    (fun hk => nomatch hk)⟩

end Exporter

end SpanPipeline
