/-
  SpanPipeline.Proofs.Secrecy
  ───────────────────────────
  Nobody but the collector sees the request headers.

  Headers carry keys and tokens.  They are handed to the exporter when
  it is created and to nothing else: two configurations that differ in
  their headers alone lead to the same outcome, the same log records
  and the same events, up to that one argument.  The two runs are
  compared step by step.  Activities that cannot be told apart but for
  headers stay so when they are put together, so each function is
  followed once.

  Main results:
    * `plan_withoutHeaders` — headers decide nothing but themselves in
      the plan of an exporter.
    * `Act.Alike.bind` — activities put together.
    * `resolve_hides_headers` — resolving a pipeline.
-/
import SpanPipeline.Proofs.Plan
import SpanPipeline.Pipeline

namespace SpanPipeline

/-! ## §1. Without headers. -/

/-- The exporter by what it is created with, headers left out. -/
def ExporterSpec.withoutHeaders : ExporterSpec → ExporterSpec
  | .console => .console
  | .grpc s => .grpc { s with headers := none }
  | .http s => .http { s with headers := none }

/-- The event, headers left out. -/
def Event.withoutHeaders : Event → Event
  | .create id spec => .create id spec.withoutHeaders
  | e => e

/-- The exporter configuration with no headers in it. -/
def ExporterConfig.withoutHeaders (e : ExporterConfig) : ExporterConfig :=
  { e with otlp := e.otlp.map fun o => { o with headers := [] } }

/-- The batching processor's configuration with no headers in it. -/
def BatchConfig.withoutHeaders (b : BatchConfig) : BatchConfig :=
  { b with exporter := b.exporter.withoutHeaders }

/-- The entry with no headers in it. -/
def ProcessorConfig.withoutHeaders (c : ProcessorConfig) : ProcessorConfig where
  simple := c.simple.map ExporterConfig.withoutHeaders
  batch := c.batch.map BatchConfig.withoutHeaders

/-- The pipeline's configuration with no headers in it. -/
def PipelineConfig.withoutHeaders (c : PipelineConfig) : PipelineConfig where
  processors := c.processors.map ProcessorConfig.withoutHeaders

/-! ## §2. Plans. -/

namespace Exporter

theorem planGrpc_withoutHeaders (host : Host) (o : OtlpConfig) :
    planGrpc host { o with headers := [] }
      = (planGrpc host o).map fun s => { s with headers := none } := by
  simp only [planGrpc, map_bind]
  rfl

theorem planHttp_withoutHeaders (host : Host) (t : Transport) (o : OtlpConfig) :
    planHttp host t { o with headers := [] }
      = (planHttp host t o).map fun s => { s with headers := none } := by
  simp only [planHttp, map_bind]
  rfl

/-- The exporter and what is logged about it, headers left out. -/
def hidden (p : ExporterSpec × List LogRecord) : ExporterSpec × List LogRecord :=
  (p.1.withoutHeaders, p.2)

theorem planOtlp_withoutHeaders (host : Host) (t : Transport) (o : OtlpConfig) :
    planOtlp host t { o with headers := [] } = (planOtlp host t o).map hidden := by
  cases t with
  | generic => rfl
  | grpc =>
    rw [planOtlp, planGrpc_withoutHeaders, planOtlp]
    cases planGrpc host o <;> rfl
  | httpProtobuf | httpJson =>
    rw [planOtlp, planHttp_withoutHeaders, planOtlp]
    · cases planHttp host _ o <;> rfl
    all_goals simp

/-- **Headers decide nothing but themselves** in the plan of an
    exporter. -/
theorem plan_withoutHeaders (host : Host) (e : ExporterConfig) :
    plan host e.withoutHeaders = (plan host e).map hidden := by
  obtain ⟨console, otlp⟩ := e
  cases otlp with
  | none => cases console <;> rfl
  | some o =>
    cases console with
    | true => rfl
    | false =>
      simp only [plan, ExporterConfig.withoutHeaders, Option.map_some]
      cases plainly (Transport.resolve o.protocol) with
      | error r => rfl
      | ok t => exact planOtlp_withoutHeaders host t o

end Exporter

/-! ## §3. Activities that cannot be told apart. -/

/-- What happened is the same but for headers. -/
structure Journal.Alike (j k : Journal) : Prop where
  events : j.events.map Event.withoutHeaders = k.events.map Event.withoutHeaders
  records : j.records = k.records

theorem Journal.Alike.refl (j : Journal) : j.Alike j := ⟨rfl, rfl⟩

theorem Journal.Alike.extend {j k : Journal} (h : j.Alike k) {es fs : List Event}
    (hes : es.map Event.withoutHeaders = fs.map Event.withoutHeaders) (rs : List LogRecord) :
    (j.extend es rs).Alike (k.extend fs rs) := by
  refine ⟨?_, ?_⟩
  · simp [h.events, hes]
  · simp [h.records]

/-- The next number does not depend on headers. -/
theorem Journal.Alike.created {j k : Journal} (h : j.Alike k) : j.created = k.created := by
  have hcreate : Event.isCreate = Event.isCreate ∘ Event.withoutHeaders := by
    funext e
    cases e <;> rfl
  have hcount : ∀ es : List Event,
      es.countP Event.isCreate = (es.map Event.withoutHeaders).countP Event.isCreate := by
    intro es
    rw [List.countP_map, ← hcreate]
  rw [Journal.created, Journal.created, hcount, h.events, ← hcount]

/-- From journals that are the same but for headers, two activities end
    the same way and leave such journals. -/
def Act.Alike (a b : Act α) : Prop :=
  ∀ j k, Journal.Alike j k →
    (a.run j).1 = (b.run k).1 ∧ Journal.Alike (a.run j).2 (b.run k).2

namespace Act.Alike

variable {α β : Type} {a b : Act α} {f g : α → Act β}

/-- An activity that does the same from every journal. -/
theorem of_extend {r : Except Failure α} {es : List Event} {rs : List LogRecord}
    (h : ∀ j, a.run j = (r, j.extend es rs)) : a.Alike a := by
  intro j k hjk
  rw [h, h]
  exact ⟨rfl, hjk.extend rfl rs⟩

protected theorem pure (x : α) : Alike (Pure.pure x : Act α) (Pure.pure x) :=
  of_extend fun j => by rw [Act.run_pure, Journal.extend_nil]

protected theorem fail (h : Failure) : Alike (Act.fail h : Act α) (Act.fail h) :=
  of_extend fun j => by rw [Act.run_fail, Journal.extend_nil]

protected theorem lift (r : Except Failure α) : Alike (Act.lift r) (Act.lift r) :=
  of_extend fun j => by rw [Act.run_lift, Journal.extend_nil]

protected theorem event (e : Event) : Alike (Act.event e) (Act.event e) :=
  of_extend fun j => by rw [Act.run_event, Journal.addEvent_eq]

protected theorem log (rs : List LogRecord) : Alike (Act.log rs) (Act.log rs) :=
  of_extend fun j => by rw [Act.run_log, Journal.addRecords_eq]

protected theorem outcome (h : a.Alike b) : a.outcome.Alike b.outcome := by
  intro j k hjk
  obtain ⟨hr, hj⟩ := h j k hjk
  rw [Act.run_outcome, Act.run_outcome, hr]
  exact ⟨rfl, hj⟩

/-- Activities and what follows them. -/
protected theorem bind (ha : a.Alike b) (hf : ∀ x, (f x).Alike (g x)) :
    (a >>= f).Alike (b >>= g) := by
  intro j k hjk
  obtain ⟨hr, hj⟩ := ha j k hjk
  rw [Act.run_bind, Act.run_bind]
  rcases hp : a.run j with ⟨p, j₁⟩
  rcases hq : b.run k with ⟨q, k₁⟩
  rw [hp, hq] at hr hj
  obtain rfl : p = q := hr
  cases p with
  | error g => exact ⟨rfl, hj⟩
  | ok x => exact hf x j₁ k₁ hj

end Act.Alike

/-! ## §4. Exporters and processors. -/

theorem ExporterSpec.className_withoutHeaders (spec : ExporterSpec) :
    spec.withoutHeaders.className = spec.className := by
  cases spec <;> rfl

/-- Creating exporters that differ in their headers. -/
theorem Exporter.alike_resolve (host : Host) {e e' : ExporterConfig}
    (h : e.withoutHeaders = e'.withoutHeaders) : (resolve host e).Alike (resolve host e') := by
  have hplan : (plan host e).map hidden = (plan host e').map hidden := by
    rw [← plan_withoutHeaders, ← plan_withoutHeaders, h]
  intro j k hjk
  rw [run_resolve, run_resolve, hjk.created]
  -- the plans are refused together, and for the same reason
  cases hp : plan host e with
  | error r =>
    cases hp' : plan host e' with
    | error r' =>
      rw [hp, hp'] at hplan
      cases hplan
      exact ⟨rfl, hjk.extend rfl r.records⟩
    | ok p => rw [hp, hp'] at hplan; cases hplan
  | ok p =>
    cases hp' : plan host e' with
    | error r => rw [hp, hp'] at hplan; cases hplan
    | ok p' =>
      obtain ⟨spec, records⟩ := p
      obtain ⟨spec', records'⟩ := p'
      rw [hp, hp'] at hplan
      obtain ⟨hspec, rfl⟩ : spec.withoutHeaders = spec'.withoutHeaders ∧ records = records' := by
        simpa [Except.map, hidden] using hplan
      have hclass : spec.className = spec'.className := by
        rw [← spec.className_withoutHeaders, hspec, spec'.className_withoutHeaders]
      have hevent : [Event.create k.created spec].map Event.withoutHeaders
          = [Event.create k.created spec'].map Event.withoutHeaders := by
        simp [Event.withoutHeaders, hspec]
      -- the exporter is known by its number and its class from here on
      dsimp only
      rw [hclass]
      exact ⟨rfl, hjk.extend hevent records⟩

theorem Exporter.alike_shutdown (host : Host) (x : Exporter) :
    (x.shutdown host).Alike (x.shutdown host) := by
  refine .bind (.event _) fun _ => ?_
  cases host.refusal x.id with
  | none => exact .pure ()
  | some f => exact .fail f

namespace Processor

theorem alike_build (host : Host) (errors : Aggregator) {e e' : ExporterConfig}
    (h : e.withoutHeaders = e'.withoutHeaders) :
    (build host errors e).Alike (build host errors e') :=
  .bind (.outcome (Exporter.alike_resolve host h)) fun _ => .lift _

theorem alike_discard (host : Host) (x : Option Exporter) :
    (discard host x).Alike (discard host x) := by
  cases x with
  | none => exact .pure ()
  | some x => exact x.alike_shutdown host

theorem alike_tryOut (host : Host) (errors : Aggregator) {e e' : ExporterConfig}
    (h : e.withoutHeaders = e'.withoutHeaders) :
    (tryOut host errors e).Alike (tryOut host errors e') :=
  .bind (alike_build host errors h) fun _ => .bind (alike_discard host _) fun _ => .pure _

theorem alike_createSimple (host : Host) (errors : Aggregator) {e e' : ExporterConfig}
    (h : e.withoutHeaders = e'.withoutHeaders) :
    (createSimple host errors e).Alike (createSimple host errors e') := by
  refine .bind (alike_build host errors h) ?_
  rintro ⟨x, errors⟩
  cases x with
  | none => exact .pure _
  | some x => exact .bind (.log _) fun _ => .bind (.event _) fun _ => .pure _

/-- Only the numbers of a batch matter once its exporter is there. -/
theorem alike_createBatchAround (host : Host) (errors : Aggregator) {b b' : BatchConfig}
    (h : b.withoutHeaders = b'.withoutHeaders) (x : Exporter) :
    (createBatchAround host errors b x).Alike (createBatchAround host errors b' x) := by
  have hsame : createBatchAround host errors b x = createBatchAround host errors b' x := by
    show createBatchAround host errors b.withoutHeaders x
      = createBatchAround host errors b'.withoutHeaders x
    rw [h]
  rw [← hsame]
  refine .bind (.event _) fun _ => ?_
  dsimp only
  split
  · exact .bind (x.alike_shutdown host) fun _ => .pure _
  · exact .fail _
  · exact .bind (.log _) fun _ => .pure _

theorem negatives_withoutHeaders {b b' : BatchConfig} (h : b.withoutHeaders = b'.withoutHeaders) :
    b.negatives = b'.negatives := by
  show b.withoutHeaders.negatives = b'.withoutHeaders.negatives
  rw [h]

theorem alike_createBatch (host : Host) (errors : Aggregator) {b b' : BatchConfig}
    (h : b.withoutHeaders = b'.withoutHeaders) :
    (createBatch host errors b).Alike (createBatch host errors b') := by
  have hexporter : b.exporter.withoutHeaders = b'.exporter.withoutHeaders :=
    congrArg BatchConfig.exporter h
  rw [createBatch, createBatch, negatives_withoutHeaders h]
  refine .bind (alike_build host _ hexporter) ?_
  rintro ⟨x, errors⟩
  dsimp only
  split
  · exact alike_createBatchAround host _ h _
  · exact .bind (alike_discard host _) fun _ => .pure _

theorem alike_conclude (r : Option Processor × Aggregator) : (conclude r).Alike (conclude r) := by
  obtain ⟨p, errors⟩ := r
  cases p with
  | none => exact .fail _
  | some p => exact .bind (.lift _) fun _ => .pure p

theorem alike_resolve (host : Host) {c c' : ProcessorConfig}
    (h : c.withoutHeaders = c'.withoutHeaders) : (resolve host c).Alike (resolve host c') := by
  obtain ⟨s, b⟩ := c
  obtain ⟨s', b'⟩ := c'
  obtain ⟨hs, hb⟩ : s.map ExporterConfig.withoutHeaders = s'.map ExporterConfig.withoutHeaders ∧
      b.map BatchConfig.withoutHeaders = b'.map BatchConfig.withoutHeaders := by
    simpa [ProcessorConfig.withoutHeaders] using h
  -- both entries choose the same kinds
  cases s with
  | none =>
    obtain rfl : s' = none := by simpa using hs.symm
    cases b with
    | none =>
      obtain rfl : b' = none := by simpa using hb.symm
      exact .fail _
    | some b =>
      obtain ⟨b', rfl, hbatch⟩ := Option.map_eq_some_iff.mp hb.symm
      exact .bind (alike_createBatch host .empty hbatch.symm) alike_conclude
  | some s =>
    obtain ⟨s', rfl, hsimple⟩ := Option.map_eq_some_iff.mp hs.symm
    cases b with
    | none =>
      obtain rfl : b' = none := by simpa using hb.symm
      exact .bind (alike_createSimple host .empty hsimple.symm) alike_conclude
    | some b =>
      obtain ⟨b', rfl, hbatch⟩ := Option.map_eq_some_iff.mp hb.symm
      refine .bind (.bind (alike_tryOut host _ hsimple.symm) fun errors => ?_) fun _ => .fail _
      rw [negatives_withoutHeaders hbatch.symm]
      exact alike_tryOut host _ (congrArg BatchConfig.exporter hbatch.symm)

end Processor

/-! ## §5. The pipeline. -/

namespace Pipeline

theorem alike_resolveEntry (host : Host) (index : Nat) {c c' : ProcessorConfig}
    (h : c.withoutHeaders = c'.withoutHeaders) :
    (resolveEntry host index c).Alike (resolveEntry host index c') :=
  .bind (Processor.alike_resolve host h) fun p => .bind (.log _) fun _ => .pure p

theorem alike_resolveEntries (host : Host) (index : Nat) (errors : Aggregator)
    {cs cs' : List ProcessorConfig}
    (h : cs.map ProcessorConfig.withoutHeaders = cs'.map ProcessorConfig.withoutHeaders) :
    (resolveEntries host index errors cs).Alike (resolveEntries host index errors cs') := by
  induction cs generalizing cs' index errors with
  | nil =>
    obtain rfl : cs' = [] := by simpa using h.symm
    exact .pure _
  | cons c cs ih =>
    cases cs' with
    | nil => simp at h
    | cons c' cs' =>
      obtain ⟨hc, hcs⟩ := List.cons.inj h
      refine .bind (.outcome (alike_resolveEntry host index hc)) fun r => ?_
      exact .bind (.lift _) fun q => .bind (ih _ _ hcs) fun _ => .pure _

theorem alike_tearDown (host : Host) (errors : Aggregator) (ps : List Processor) :
    (tearDown host errors ps).Alike (tearDown host errors ps) :=
  .bind (.of_extend (Closing.run_closeAll _)) fun _ => .bind (.log _) fun _ => .pure _

/-- **Nobody but the collector sees the request headers.**  Pipelines
    that differ in their headers alone are resolved to the same end, a
    failure or not, with the same log records and, up to the headers
    that exporters are created with, the same events. -/
theorem resolve_hides_headers {c c' : PipelineConfig} (h : c.withoutHeaders = c'.withoutHeaders)
    (host : Host) (j : Journal) :
    ((resolve host (some c)).run j).1 = ((resolve host (some c')).run j).1 ∧
    ((resolve host (some c)).run j).2.records = ((resolve host (some c')).run j).2.records ∧
    ((resolve host (some c)).run j).2.events.map Event.withoutHeaders
      = ((resolve host (some c')).run j).2.events.map Event.withoutHeaders := by
  obtain ⟨cs⟩ := c
  obtain ⟨cs'⟩ := c'
  have hcs : cs.map ProcessorConfig.withoutHeaders = cs'.map ProcessorConfig.withoutHeaders :=
    congrArg PipelineConfig.processors h
  -- both have the same number of entries, so they fall into the same case
  have halike : (resolve host (some ⟨cs⟩)).Alike (resolve host (some ⟨cs'⟩)) := by
    cases cs with
    | nil =>
      obtain rfl : cs' = [] := by simpa using hcs.symm
      exact .bind (.log _) fun _ => .pure _
    | cons c cs =>
      cases cs' with
      | nil => simp at hcs
      | cons c' cs' =>
        refine .bind (alike_resolveEntries host 0 .empty hcs) ?_
        rintro ⟨ps, errors⟩
        dsimp only
        split
        · exact alike_tearDown host errors ps
        · exact .bind (.log _) fun _ => .pure _
  obtain ⟨hend, hj⟩ := halike j j (.refl j)
  exact ⟨hend, hj.records, hj.events⟩

/-- A pipeline with an exporter that is given headers, beside an entry
    that is at fault. -/
def withKey (headers : List Header) : PipelineConfig :=
  ⟨[⟨some ⟨false, some ⟨none, none, none, none, headers, none⟩⟩, none⟩, ⟨none, none⟩]⟩

/-- The exporter is created with the key and shut down again; the key
    is seen nowhere else. -/
theorem resolve_hides_headers_key :
    ∃ j k, ((resolve .bare
          (some (withKey [⟨"api-key", some "secret"⟩]))).run {}).2 = j ∧
      ((resolve .bare (some (withKey []))).run {}).2 = k ∧
      j.events ≠ k.events ∧ j.records = k.records ∧
      j.events.map Event.withoutHeaders = k.events.map Event.withoutHeaders := by
  have hsame : (withKey [⟨"api-key", some "secret"⟩]).withoutHeaders
      = (withKey []).withoutHeaders := rfl
  obtain ⟨-, hrecords, hevents⟩ :=
    resolve_hides_headers hsame .bare {}
  exact ⟨_, _, rfl, rfl, by decide, hrecords, hevents⟩

end Pipeline

end SpanPipeline
