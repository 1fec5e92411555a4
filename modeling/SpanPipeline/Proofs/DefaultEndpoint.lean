/-
  SpanPipeline.Proofs.DefaultEndpoint
  ───────────────────────────────────
  What an endpoint that is not set stands for.

  Every transport has a default endpoint.  Over HTTP it does not
  matter whether the default is written out: the same exporter is
  created with the same arguments, or the same failure ends the
  resolution.  Over gRPC one argument does differ.  Nothing is said
  about the connection unless an endpoint is set, while the default,
  written out, is a bare endpoint like any other: the connection to it
  is left open unless there is a certificate.

  Main results:
    * `planHttp_default`, `planGrpc_default` — the plans with the
      default endpoint written out.
    * `resolve_default` — resolving with and without it.
    * `resolve_default_differs` — over gRPC it does matter.
-/
import SpanPipeline.Proofs.FailFast
import Mathlib

namespace SpanPipeline

namespace Endpoint

/-- The default endpoint over gRPC is a location. -/
theorem parse_grpcDefault (secure : Bool) :
    parse Transport.grpc.defaultEndpoint secure
      = .ok ⟨schemeName secure, "localhost:4317".toList, [], [], []⟩ := by
  cases secure <;> cbv

/-- The default endpoint over HTTP is resolved to itself. -/
theorem resolveUrl_default (secure : Bool) :
    resolveUrl (some localCollector) secure = resolveUrl none secure := by
  cases secure <;> cbv

end Endpoint

namespace Exporter

/-! ## §1. Plans. -/

/-- The configuration with the default endpoint of a transport. -/
def withDefault (t : Transport) (o : OtlpConfig) : OtlpConfig :=
  { o with endpoint := some t.defaultEndpoint }

theorem planHttp_default (host : Host) {t : Transport} {o : OtlpConfig}
    (ht : t.defaultEndpoint = Endpoint.localCollector) (hunset : o.endpoint = none) :
    planHttp host t (withDefault t o) = planHttp host t o := by
  simp only [planHttp, withDefault, ht, Endpoint.resolveUrl_default, hunset]

/-- The settings with the connection left open or not. -/
def opened (certificate : Option String) (s : GrpcSettings) : GrpcSettings :=
  { s with insecure := some certificate.isNone }

theorem grpcTarget_default (o : OtlpConfig) :
    grpcTarget (withDefault .grpc o)
      = .ok (Transport.grpc.defaultEndpoint, some o.certificate.isNone) := by
  simp only [grpcTarget, withDefault, Endpoint.parse_grpcDefault]
  cases o.certificate with
  | none => rfl
  | some path => rfl

theorem grpcTarget_unset {o : OtlpConfig} (hunset : o.endpoint = none) :
    grpcTarget o = .ok (Transport.grpc.defaultEndpoint, none) := by
  simp only [grpcTarget, hunset]

theorem planGrpc_default (host : Host) {o : OtlpConfig} (hunset : o.endpoint = none) :
    planGrpc host (withDefault .grpc o) = (planGrpc host o).map (opened o.certificate) := by
  -- only the target looks at the endpoint, and it fails for neither
  simp only [planGrpc, grpcTarget_default, grpcTarget_unset hunset, map_bind]
  rfl

theorem insecure_of_planGrpc {host : Host} {o : OtlpConfig} {s : GrpcSettings}
    (hunset : o.endpoint = none) (h : planGrpc host o = .ok s) : s.insecure = none := by
  obtain ⟨-, -, htarget, -, -⟩ := planGrpc_eq_ok h
  rw [grpcTarget_unset hunset] at htarget
  exact (Prod.mk.inj (Except.ok.inj htarget)).2.symm

theorem planOtlp_default (host : Host) {t : Transport} {o : OtlpConfig} (ht : t ≠ .grpc)
    (hunset : o.endpoint = none) : planOtlp host t (withDefault t o) = planOtlp host t o := by
  cases t with
  | generic => rfl
  | grpc => exact absurd rfl ht
  | httpProtobuf =>
    have h := planHttp_default host (rfl : Transport.httpProtobuf.defaultEndpoint = _) hunset
    simp only [planOtlp, h]
  | httpJson =>
    have h := planHttp_default host (rfl : Transport.httpJson.defaultEndpoint = _) hunset
    simp only [planOtlp, h]

/-! ## §2. Resolving an exporter. -/

/-- **An endpoint that is not set is the default one, but for the
    openness of a gRPC connection.**  With the default endpoint of the
    transport written out, the resolution ends the same way.  A
    failure leaves the same journal, and so does an exporter over
    HTTP.  Over gRPC the exporter is created, and logged, with the
    same arguments but one: nothing is said about the openness of the
    connection unless the endpoint is written out, and then it is left
    open precisely when there is no certificate. -/
theorem resolve_default {o : OtlpConfig} {t : Transport}
    (ht : Transport.resolve o.protocol = .ok t) (hunset : o.endpoint = none) (host : Host)
    (j : Journal) :
    let unset := (resolve host ⟨false, some o⟩).run j
    let written := (resolve host ⟨false, some (withDefault t o)⟩).run j
    written.1 = unset.1 ∧
    (∀ f, unset.1 = .error f → written = unset) ∧
    (∀ x, unset.1 = .ok x → t ≠ .grpc → written = unset) ∧
    (∀ x, unset.1 = .ok x → t = .grpc → ∃ s : GrpcSettings, s.insecure = none ∧
      unset.2 = j.extend [.create x.id (.grpc s)] (grpcRecords s) ∧
      written.2 = j.extend [.create x.id (.grpc (opened o.certificate s))]
        (grpcRecords (opened o.certificate s))) := by
  intro unset written
  -- the transport is the same, for the protocol does not change
  have hwritten : plan host ⟨false, some (withDefault t o)⟩
      = planOtlp host t (withDefault t o) := plan_of_transport host ht
  by_cases hgrpc : t = .grpc
  · subst hgrpc
    simp only [unset, written, run_resolve, hwritten, plan_of_transport host ht, planOtlp,
      planGrpc_default host hunset]
    cases hs : planGrpc host o with
    | error r =>
      refine ⟨rfl, fun _ _ => rfl, ?_, ?_⟩
      · intro x h
        cases h
      · intro x h
        cases h
    | ok s =>
      refine ⟨rfl, ?_, fun _ _ h => absurd rfl h, ?_⟩
      · intro f h
        cases h
      · intro x h _
        cases h
        exact ⟨s, insecure_of_planGrpc hunset hs, rfl, rfl⟩
  · have heq : written = unset := by
      simp only [unset, written, run_resolve, hwritten, plan_of_transport host ht,
        planOtlp_default host hgrpc hunset]
    exact ⟨congrArg Prod.fst heq, fun _ _ => heq, fun _ _ _ => heq, fun _ _ h => absurd h hgrpc⟩

/-- A gRPC exporter without an endpoint. -/
def unplaced : OtlpConfig := ⟨some "grpc", none, some "gzip", some 0, [⟨"key", none⟩], none⟩

/-- It is created with and without the default endpoint. -/
theorem resolve_default_unplaced :
    let host : Host := .bare
    let unset := (resolve host ⟨false, some unplaced⟩).run {}
    let written := (resolve host ⟨false, some (withDefault .grpc unplaced)⟩).run {}
    written.1 = .ok ⟨0, "OTLPSpanExporter"⟩ ∧
    ∃ s : GrpcSettings, s.insecure = none ∧
      unset.2 = Journal.extend {} [.create 0 (.grpc s)] (grpcRecords s) ∧
      written.2 = Journal.extend {} [.create 0 (.grpc (opened none s))]
        (grpcRecords (opened none s)) := by
  intro host unset written
  have hcreated : unset.1 = .ok ⟨0, "OTLPSpanExporter"⟩ := rfl
  obtain ⟨hsame, _, _, hgrpc⟩ := resolve_default
    (rfl : Transport.resolve unplaced.protocol = .ok .grpc) rfl host {}
  exact ⟨hsame.trans hcreated, hgrpc _ hcreated rfl⟩

/-- Over gRPC not all arguments are those that the default endpoint,
    written out, comes with. -/
theorem resolve_default_differs :
    ¬ ∀ (o : OtlpConfig) (t : Transport) (host : Host) (j : Journal),
      Transport.resolve o.protocol = .ok t → o.endpoint = none →
      let unset := (resolve host ⟨false, some o⟩).run j
      let written := (resolve host ⟨false, some (withDefault t o)⟩).run j
      written.1 = unset.1 ∧ ∀ x, unset.1 = .ok x → written.2.events = unset.2.events := by
  intro h
  have hevents := (h ⟨some "grpc", none, none, none, [], none⟩ .grpc
    .bare {} rfl rfl).2 _ rfl
  revert hevents
  decide

end Exporter

end SpanPipeline
