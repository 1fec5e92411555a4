/-
  SpanPipeline.Proofs.Agreement
  ─────────────────────────────
  The transports agree on what they accept.

  Each transport goes through the settings on its own, with its own
  table of compressions, its own use of the endpoint and its own way
  of loading certificates.  The checks are the same all the same: what
  one refuses the others refuse, for the same reason.  The one thing
  told apart is a bundle that can be read but not used, which each
  carrier reports in its own words.

  Main results:
    * `sameRefusal_of_not_rejectsBundle` — the checks of both carriers.
    * `run_of_unparsable` — a bundle that cannot be used.
    * `transports_agree` — one configuration over all protocols.
-/
import SpanPipeline.Files.Tree
import SpanPipeline.Proofs.FailFast

namespace SpanPipeline.Exporter

/-! ## §1. The checks of both carriers. -/

/-- The bundle of certificates that is configured can be read, but the
    library does not accept it, for the given reason. -/
structure Unparsable (host : Host) (o : OtlpConfig) (path reason : String) : Prop where
  configured : o.certificate = some path
  named : hasNul path = false
  readable : ∃ content, host.files.read path = .ok content ∧
    host.libraries.bundleFault? content = some reason

theorem load_eq_rejected {host : Host} {path bundle reason : String} :
    Tls.load host path = .error (.rejected bundle reason) ↔
      bundle = path ∧ hasNul path = false ∧ ∃ content, host.files.read path = .ok content ∧
        host.libraries.bundleFault? content = some reason := by
  unfold Tls.load
  grind

theorem unparsable_iff {host : Host} {o : OtlpConfig} {path reason : String}
    (hpath : o.certificate = some path) :
    Unparsable host o path reason ↔ Tls.load host path = .error (.rejected path reason) := by
  rw [load_eq_rejected]
  constructor
  · rintro ⟨-, hnamed, hreadable⟩
    exact ⟨rfl, hnamed, hreadable⟩
  · rintro ⟨-, hnamed, hreadable⟩
    exact ⟨hpath, hnamed, hreadable⟩

/-- The fault of the settings that are checked before the bundle. -/
def earlierFault? (o : OtlpConfig) : Option Failure :=
  (Check.choice "compression" (o.compression.getD "none") ["gzip", "none"]).or
    ((o.timeout.bind ExporterCheck.timeoutFault?).or
      (o.endpoint.bind ExporterCheck.endpointFault?))

/-- The checks before the bundle do not know who asks. -/
theorem transportRefusal?_eq (host : Host) (c : Tls.Carrier) (o : OtlpConfig) :
    transportRefusal? host c o
      = ((earlierFault? o).map ExporterCheck.quietly).or
          (o.certificate.bind (ExporterCheck.certificateRefusal? host c)) := by
  simp only [transportRefusal?, earlierFault?, Option.map_or, Option.or_assoc]

/-- A bundle that is reached and cannot be used is refused in the words
    of the carrier. -/
theorem transportRefusal?_of_unparsable {host : Host} {o : OtlpConfig} {path reason : String}
    (h : Unparsable host o path reason) (hreached : earlierFault? o = none) (c : Tls.Carrier) :
    transportRefusal? host c o
      = some ⟨.credentials c.complaint, (Tls.TrustFault.rejected path reason).records⟩ := by
  have hload := (unparsable_iff h.configured).mp h
  rw [transportRefusal?_eq, hreached, h.configured]
  simp [ExporterCheck.certificateRefusal?, hload, Tls.TrustFault.failure]

/-- A fault that is not the bundle's own is reported in the same words
    to every carrier, and not logged. -/
theorem certificateRefusal?_of_not_unparsable {host : Host} {o : OtlpConfig} {path : String}
    (hpath : o.certificate = some path) (h : ∀ reason, ¬ Unparsable host o path reason) :
    ∃ f : Option Failure, ∀ c,
      ExporterCheck.certificateRefusal? host c path = f.map ExporterCheck.quietly := by
  unfold ExporterCheck.certificateRefusal?
  cases hload : Tls.load host path with
  | ok content => exact ⟨none, fun c => rfl⟩
  | error fault =>
    cases fault with
    | nulInPath => exact ⟨some _, fun c => rfl⟩
    | unreadable fault => exact ⟨some _, fun c => rfl⟩
    | rejected bundle reason =>
      obtain ⟨rfl, -⟩ := load_eq_rejected.mp hload
      exact absurd ((unparsable_iff hpath).mpr hload) (h reason)

/-- The bundle is reached by the checks, and cannot be used. -/
def RejectsBundle (host : Host) (o : OtlpConfig) : Prop :=
  earlierFault? o = none ∧ ∃ path reason, Unparsable host o path reason

/-- **The checks of both carriers** come to the same, unless the bundle
    is reached and cannot be used. -/
theorem sameRefusal_of_not_rejectsBundle {host : Host} {o : OtlpConfig}
    (h : ¬ RejectsBundle host o) :
    ∃ f : Option Failure, (∀ c, transportRefusal? host c o = f.map ExporterCheck.quietly) ∧
      ∀ g, earlierFault? o = some g → f = some g := by
  cases hearly : earlierFault? o with
  | some g =>
    -- the bundle is not reached, and what comes before it is the same for both
    refine ⟨some g, fun c => ?_, fun _ hg => hg⟩
    rw [transportRefusal?_eq, hearly]
    rfl
  | none =>
    have hlast : ∀ c, transportRefusal? host c o
        = o.certificate.bind (ExporterCheck.certificateRefusal? host c) := by
      intro c
      rw [transportRefusal?_eq, hearly]
      rfl
    cases hpath : o.certificate with
    | none => exact ⟨none, fun c => by rw [hlast, hpath]; rfl, nofun⟩
    | some path =>
      have husable : ∀ reason, ¬ Unparsable host o path reason :=
        fun reason hu => h ⟨hearly, path, reason, hu⟩
      obtain ⟨f, hf⟩ := certificateRefusal?_of_not_unparsable hpath husable
      refine ⟨f, fun c => ?_, nofun⟩
      rw [hlast, hpath]
      exact hf c

/-! ## §2. One configuration over all protocols. -/

/-- The exporter of a configuration over a protocol. -/
def withProtocol (protocol : String) (o : OtlpConfig) : ExporterConfig :=
  ⟨false, some { o with protocol := some protocol }⟩

/-- The protocols of the HTTP transport. -/
def httpProtocols : List String := ["http/protobuf", "http/json"]

theorem plan_grpc (host : Host) (o : OtlpConfig) :
    plan host (withProtocol "grpc" o)
      = (planGrpc host o).map fun s => (.grpc s, grpcRecords s) := rfl

/-- Over HTTP the protocol changes what is logged, not the settings. -/
theorem plan_http {protocol : String} (h : protocol ∈ httpProtocols) :
    ∃ t, ∀ host o, plan host (withProtocol protocol o)
      = (planHttp host .httpProtobuf o).map fun s => (.http s, httpRecords t s) := by
  obtain rfl | rfl : protocol = "http/protobuf" ∨ protocol = "http/json" := by
    simpa [httpProtocols] using h
  · exact ⟨.httpProtobuf, fun host o => rfl⟩
  · exact ⟨.httpJson, fun host o => rfl⟩

/-- The failure of a bundle that cannot be used, over gRPC. -/
def grpcRejection : Failure := .credentials "credentials: failed to append certificates"

/-- The failure of a bundle that cannot be used, over HTTP. -/
def httpRejection : Failure := .credentials "failed to append certificate to the cert pool"

/-- What is logged about such a bundle, whoever asks for it. -/
def rejectionRecord (path reason : String) : LogRecord :=
  { level := .debug, source := .tls, message := "Rejected certificate bundle"
    extra := [("path", .text path)], error := some (.exception ⟨"SSLError", reason⟩) }

/-- How one configuration fares over the protocols. -/
inductive Agreement (host : Host) (o : OtlpConfig) (j : Journal)
    (outcome : String → Except Failure Exporter × Journal) : Prop where
  /-- All of them accept it.  Over both HTTP protocols the exporter is
      created with the same arguments. -/
  | accepted (g : GrpcSettings) (h : HttpSettings) (sound : earlierFault? o = none)
      (usable : ¬ RejectsBundle host o)
      (grpc : ∃ records, outcome "grpc" = (.ok ⟨j.created, (ExporterSpec.grpc g).className⟩,
        j.extend [.create j.created (.grpc g)] records))
      (http : ∀ p ∈ httpProtocols, ∃ records,
        outcome p = (.ok ⟨j.created, (ExporterSpec.http h).className⟩,
          j.extend [.create j.created (.http h)] records))
  /-- All of them refuse it, with the same failure: that of the checks
      before the bundle, if there is one. -/
  | refused (f : Failure) (usable : ¬ RejectsBundle host o)
      (earlier : ∀ g, earlierFault? o = some g → f = g)
      (same : ∀ p ∈ "grpc" :: httpProtocols, outcome p = (.error f, j))
  /-- All of them refuse its bundle of certificates, each carrier in
      its own words. -/
  | unparsable (path reason : String) (bundle : Unparsable host o path reason)
      (reached : earlierFault? o = none)
      (grpc : outcome "grpc" = (.error grpcRejection, j.extend [] [rejectionRecord path reason]))
      (http : ∀ p ∈ httpProtocols,
        outcome p = (.error httpRejection, j.extend [] [rejectionRecord path reason]))

theorem refused?_eq_some_iff {x : Except Refusal α} {r : Refusal} :
    refused? x = some r ↔ x = .error r := by
  cases x <;> simp [refused?]

theorem refused?_eq_none_iff {x : Except Refusal α} : refused? x = none ↔ ∃ a, x = .ok a := by
  cases x <;> simp [refused?]

/-- A plan that is refused ends the resolution. -/
theorem run_of_refused {host : Host} {e : ExporterConfig} {r : Refusal}
    (h : refused? (plan host e) = some r) (j : Journal) :
    (resolve host e).run j = (.error r.failure, j.extend [] r.records) := by
  rw [run_resolve, refused?_eq_some_iff.mp h]

theorem refused_grpc (host : Host) (o : OtlpConfig) :
    refused? (plan host (withProtocol "grpc" o)) = transportRefusal? host .grpc o := by
  rw [plan_grpc, refused_map, refused_planGrpc]

theorem refused_http (host : Host) (o : OtlpConfig) {protocol : String}
    (h : protocol ∈ httpProtocols) :
    refused? (plan host (withProtocol protocol o)) = transportRefusal? host .http o := by
  obtain ⟨t, ht⟩ := plan_http h
  rw [ht, refused_map, refused_planHttp host (by decide)]

/-- A bundle that is reached and cannot be used is refused over every
    protocol, in the words of its carrier. -/
theorem run_of_unparsable {host : Host} {o : OtlpConfig} {path reason : String}
    (h : Unparsable host o path reason) (hreached : earlierFault? o = none) (j : Journal) :
    (resolve host (withProtocol "grpc" o)).run j
        = (.error grpcRejection, j.extend [] [rejectionRecord path reason]) ∧
      ∀ p ∈ httpProtocols, (resolve host (withProtocol p o)).run j
        = (.error httpRejection, j.extend [] [rejectionRecord path reason]) := by
  have hrefusal := transportRefusal?_of_unparsable h hreached
  refine ⟨run_of_refused ((refused_grpc host o).trans (hrefusal .grpc)) j, ?_⟩
  intro p hp
  exact run_of_refused ((refused_http host o hp).trans (hrefusal .http)) j

/-- Any other configuration is accepted or refused alike. -/
theorem agreement_of_not_rejectsBundle {host : Host} {o : OtlpConfig}
    (h : ¬ RejectsBundle host o) (j : Journal) :
    Agreement host o j fun protocol => (resolve host (withProtocol protocol o)).run j := by
  obtain ⟨f, hf, hearlier⟩ := sameRefusal_of_not_rejectsBundle h
  -- with a fault all protocols stop at it, without one both plans go through
  cases f with
  | some f =>
    refine .refused f h (fun g hg => Option.some.inj (hearlier g hg)) ?_
    intro p hp
    have hrefused : refused? (plan host (withProtocol p o)) = some (ExporterCheck.quietly f) := by
      rcases List.mem_cons.mp hp with rfl | hp
      · exact (refused_grpc host o).trans (hf .grpc)
      · exact (refused_http host o hp).trans (hf .http)
    simpa [ExporterCheck.quietly] using run_of_refused hrefused j
  | none =>
    have hsound : earlierFault? o = none := by
      cases he : earlierFault? o with
      | none => rfl
      | some g => cases hearlier g he
    have hgrpc : refused? (planGrpc host o) = none :=
      (refused_planGrpc host o).trans (hf .grpc)
    have hhttp : refused? (planHttp host .httpProtobuf o) = none :=
      (refused_planHttp host (by decide) o).trans (hf .http)
    obtain ⟨g, hg⟩ := refused?_eq_none_iff.mp hgrpc
    obtain ⟨s, hs⟩ := refused?_eq_none_iff.mp hhttp
    refine .accepted g s hsound h ⟨grpcRecords g, ?_⟩ ?_
    · show (resolve host (withProtocol "grpc" o)).run j = _
      rw [run_resolve, plan_grpc, hg]
      rfl
    · intro p hp
      obtain ⟨t, ht⟩ := plan_http hp
      refine ⟨httpRecords t s, ?_⟩
      show (resolve host (withProtocol p o)).run j = _
      rw [run_resolve, ht, hs]
      rfl

/-- **The transports agree on what they accept.**  Over every protocol
    a configuration is accepted or refused alike, and refused with the
    same failure.  Only a bundle of certificates that is reached and
    cannot be used is told apart: every protocol refuses it, and the
    carriers give different causes.  Over both HTTP protocols the
    exporter is created with the same arguments. -/
theorem transports_agree (host : Host) (o : OtlpConfig) (j : Journal) :
    (Agreement host o j fun protocol => (resolve host (withProtocol protocol o)).run j) ∧
    ∀ path reason, Unparsable host o path reason → earlierFault? o = none →
      ((resolve host (withProtocol "grpc" o)).run j).1 = .error grpcRejection ∧
      (∀ p ∈ httpProtocols, ((resolve host (withProtocol p o)).run j).1 = .error httpRejection) ∧
      grpcRejection.text ≠ httpRejection.text := by
  refine ⟨?_, ?_⟩
  -- nothing but a bundle that is reached and rejected tells the carriers apart
  · by_cases h : RejectsBundle host o
    · obtain ⟨hreached, path, reason, hbundle⟩ := h
      obtain ⟨hgrpc, hhttp⟩ := run_of_unparsable hbundle hreached j
      exact .unparsable path reason hbundle hreached hgrpc hhttp
    · exact agreement_of_not_rejectsBundle h j
  · intro path reason hbundle hreached
    obtain ⟨hgrpc, hhttp⟩ := run_of_unparsable hbundle hreached j
    refine ⟨by rw [hgrpc], fun p hp => by rw [hhttp p hp], ?_⟩
    decide

/-- One file, which is empty. -/
def emptyBundleHost : Host :=
  { Host.bare with files := (FileTree.directory [("ca", .file [])]).files [] }

/-- The empty file as a bundle of certificates. -/
def emptyBundle : OtlpConfig := ⟨none, none, none, none, [], some "ca"⟩

/-- An empty bundle is refused by all transports, each in the words of
    its carrier. -/
theorem transports_agree_emptyBundle :
    Unparsable emptyBundleHost emptyBundle "ca" Tls.noTrust ∧
    ((resolve emptyBundleHost (withProtocol "grpc" emptyBundle)).run {}).1
      = .error grpcRejection ∧
    ∀ p ∈ httpProtocols,
      ((resolve emptyBundleHost (withProtocol p emptyBundle)).run {}).1 = .error httpRejection := by
  have hbundle : Unparsable emptyBundleHost emptyBundle "ca" Tls.noTrust :=
    ⟨rfl, by decide, [], by decide, Tls.bundleFault?_nil⟩
  obtain ⟨hgrpc, hhttp, -⟩ :=
    (transports_agree emptyBundleHost emptyBundle {}).2 "ca" Tls.noTrust hbundle rfl
  exact ⟨hbundle, hgrpc, hhttp⟩

end SpanPipeline.Exporter
