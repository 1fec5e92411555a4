/-
  SpanPipeline.Proofs.Plan
  ────────────────────────
  What planning an exporter can come to.

  The plan of an exporter fails for a single cause, never for an
  aggregate of causes, and all that is logged about a failure is a
  bundle of certificates that was rejected.  A plan that succeeds is
  logged by the exporters' part alone.

  Main results:
    * `plan_error` — the failure of a plan is a leaf.
    * `run_resolve` — creating an exporter in one equation.
-/
import SpanPipeline.Exporter

namespace SpanPipeline

/-! ## §1. Failures with a single cause. -/

/-- A refusal for a single cause; only rejected bundles of
    certificates are logged. -/
structure Refusal.Single (r : Refusal) : Prop where
  leaf : r.failure.kind? ≠ some .aggregate
  source : ∀ l ∈ r.records, l.source = .tls

namespace Exporter

/-- Every refusal of the result is for a single cause. -/
def Refuses (x : Except Refusal α) : Prop := ∀ r, x = .error r → r.Single

theorem refuses_ok (a : α) : Refuses (.ok a) := by
  intro r h
  cases h

theorem refuses_bind {x : Except Refusal α} {f : α → Except Refusal β} (hx : Refuses x)
    (hf : ∀ a, Refuses (f a)) : Refuses (x >>= f) := by
  intro r h
  cases x with
  | error s =>
    cases h
    exact hx _ rfl
  | ok a => exact hf a r h

theorem refuses_map {x : Except Refusal α} (f : α → β) (hx : Refuses x) : Refuses (x.map f) := by
  intro r h
  cases x with
  | error s =>
    cases h
    exact hx _ rfl
  | ok a => cases h

theorem map_bind {x : Except Refusal α} {f : α → Except Refusal β} {g : β → γ} :
    (x >>= f).map g = x >>= fun a => (f a).map g := by
  cases x with
  | error r => rfl
  | ok a => rfl

theorem eq_of_map_ok {x : Except Refusal α} {f : α → β} {b : β} (h : x.map f = .ok b) :
    ∃ a, b = f a := by
  cases x with
  | error r => cases h
  | ok a =>
    cases h
    exact ⟨a, rfl⟩

theorem refuses_plainly {x : Except Failure α}
    (h : ∀ f, x = .error f → f.kind? ≠ some .aggregate) : Refuses (plainly x) := by
  intro r hr
  cases x with
  | ok a => cases hr
  | error f =>
    cases hr
    exact ⟨h f rfl, by simp⟩

/-! ## §2. The steps of a plan. -/

theorem transport_error {protocol : Option String} {f : Failure}
    (h : Transport.resolve protocol = .error f) : f.kind? ≠ some .aggregate := by
  simp only [Transport.resolve] at h
  split at h
  · cases h
  · cases h
    simp [Check.unsupported, Failure.kind?]

theorem compression_error {t : Transport} {compression : Option String} {f : Failure}
    (h : t.resolveCompression compression = .error f) : f.kind? ≠ some .aggregate := by
  simp only [Transport.resolveCompression] at h
  split at h
  · cases h
  · cases h
    simp [Check.unsupported, Failure.kind?]

theorem timeout_error {timeout : Option Int} {f : Failure}
    (h : resolveTimeout timeout = .error f) : f.kind? ≠ some .aggregate := by
  unfold resolveTimeout at h
  cases timeout with
  | none => cases h
  | some t =>
    by_cases hneg : t < 0
    · simp only [Check.nonNegative, if_pos hneg, Except.error.injEq] at h
      subst h
      simp [Failure.kind?]
    · simp only [Check.nonNegative, if_neg hneg] at h
      split at h
      · cases h
      · split at h
        · cases h
        · cases h
          simp [Failure.kind?]

theorem parse_error {endpoint : String} {secure : Bool} {f : Failure}
    (h : Endpoint.parse endpoint secure = .error f) : f.kind? ≠ some .aggregate := by
  obtain ⟨reason, rfl⟩ := Endpoint.parse_url h
  simp [Failure.kind?]

theorem grpcTarget_error {o : OtlpConfig} {f : Failure} (h : grpcTarget o = .error f) :
    f.kind? ≠ some .aggregate := by
  unfold grpcTarget at h
  split at h
  · cases h
  · next e _ =>
    cases hp : Endpoint.parse e o.certificate.isSome with
    | error g =>
      rw [hp] at h
      cases h
      exact parse_error hp
    | ok u =>
      rw [hp] at h
      cases h

theorem resolveUrl_error {endpoint : Option String} {secure : Bool} {f : Failure}
    (h : Endpoint.resolveUrl endpoint secure = .error f) : f.kind? ≠ some .aggregate := by
  unfold Endpoint.resolveUrl at h
  split at h
  · cases h
  · next e =>
    cases hp : Endpoint.parse e secure with
    | error g =>
      rw [hp] at h
      cases h
      exact parse_error hp
    | ok u =>
      rw [hp] at h
      cases h

theorem refuses_trust (host : Host) (c : Tls.Carrier) (path : Option String) :
    Refuses (trust host c path) := by
  intro r h
  unfold trust at h
  split at h
  · cases h
  · split at h
    · cases h
    · next fault _ =>
      cases h
      -- only a bundle that was read and rejected is logged
      have hleaf : (fault.failure c).kind? ≠ some .aggregate := by
        cases fault <;> simp [Tls.TrustFault.failure, Failure.kind?]
      have hsource : ∀ l ∈ fault.records, l.source = .tls := by
        cases fault <;> simp [Tls.TrustFault.records]
      exact ⟨hleaf, hsource⟩

theorem refuses_planGrpc (host : Host) (o : OtlpConfig) : Refuses (planGrpc host o) := by
  apply refuses_bind (refuses_plainly fun _ => compression_error)
  intro compression
  apply refuses_bind (refuses_plainly fun _ => timeout_error)
  intro timeout
  apply refuses_bind (refuses_plainly fun _ => grpcTarget_error)
  intro target
  apply refuses_bind (refuses_trust host .grpc o.certificate)
  intro credentials
  exact refuses_ok _

theorem refuses_planHttp (host : Host) (t : Transport) (o : OtlpConfig) :
    Refuses (planHttp host t o) := by
  apply refuses_bind (refuses_plainly fun _ => compression_error)
  intro compression
  apply refuses_bind (refuses_plainly fun _ => timeout_error)
  intro timeout
  apply refuses_bind (refuses_plainly fun _ => resolveUrl_error)
  intro endpoint
  apply refuses_bind (refuses_trust host .http o.certificate)
  intro content
  exact refuses_ok _

theorem refuses_planOtlp (host : Host) (t : Transport) (o : OtlpConfig) :
    Refuses (planOtlp host t o) := by
  cases t with
  | generic =>
    intro r h
    cases h
    exact ⟨by simp [Failure.kind?], by simp⟩
  | grpc => exact refuses_map _ (refuses_planGrpc host o)
  | httpProtobuf => exact refuses_map _ (refuses_planHttp host _ o)
  | httpJson => exact refuses_map _ (refuses_planHttp host _ o)

/-! ## §3. The whole plan. -/

/-- A plan fails for a single cause. -/
theorem plan_error {host : Host} {e : ExporterConfig} {r : Refusal}
    (h : plan host e = .error r) : r.Single := by
  unfold plan at h
  split at h
  · cases h
    exact ⟨by simp [Failure.kind?], by simp⟩
  · cases h
    exact ⟨by simp [Failure.kind?], by simp⟩
  · cases h
  · split at h
    · next s ht =>
      cases h
      exact refuses_plainly (fun _ => transport_error) _ ht
    · exact refuses_planOtlp host _ _ r h

/-- A plan that succeeds is logged by the exporters' part. -/
theorem plan_ok {host : Host} {e : ExporterConfig} {spec : ExporterSpec}
    {records : List LogRecord} (h : plan host e = .ok (spec, records)) :
    ∀ l ∈ records, l.source = .exporters := by
  unfold plan at h
  split at h
  · cases h
  · cases h
  · cases h
    simp [consoleRecords]
  · split at h
    · cases h
    · next t _ =>
      cases t with
      | generic => cases h
      | grpc =>
        obtain ⟨s, hs⟩ := eq_of_map_ok h
        cases hs
        simp [grpcRecords]
      | httpProtobuf =>
        obtain ⟨s, hs⟩ := eq_of_map_ok h
        cases hs
        simp [httpRecords]
      | httpJson =>
        obtain ⟨s, hs⟩ := eq_of_map_ok h
        cases hs
        simp [httpRecords]

/-- Creating an exporter: it takes the next number, unless the plan
    fails. -/
theorem run_resolve (host : Host) (e : ExporterConfig) (j : Journal) :
    (resolve host e).run j = match plan host e with
      | .error r => (.error r.failure, j.extend [] r.records)
      | .ok (spec, records) =>
        (.ok ⟨j.created, spec.className⟩, j.extend [.create j.created spec] records) := by
  cases h : plan host e with
  | error r => rw [resolve_error h, Journal.addRecords_eq]
  | ok p =>
    rw [resolve_ok h, Journal.addRecords_eq, Journal.addEvent_eq, Journal.extend_extend]
    simp

/-- A run that ends well has created the exporter that was planned. -/
theorem plan_of_run {host : Host} {e : ExporterConfig} {j j' : Journal} {x : Exporter}
    (h : (resolve host e).run j = (.ok x, j')) :
    ∃ spec records, plan host e = .ok (spec, records) ∧ x = ⟨j.created, spec.className⟩ ∧
      j' = j.extend [.create j.created spec] records := by
  rw [run_resolve] at h
  cases hp : plan host e with
  | error r =>
    rw [hp] at h
    cases h
  | ok p =>
    rw [hp] at h
    cases h
    exact ⟨p.1, p.2, rfl, rfl, rfl⟩

end Exporter

end SpanPipeline
