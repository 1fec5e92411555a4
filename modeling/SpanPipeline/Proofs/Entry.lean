/-
  SpanPipeline.Proofs.Entry
  ─────────────────────────
  What resolving one entry of a pipeline can come to.

  An entry is at fault in ways that its configuration, the files and
  the environment decide.  Without a fault it becomes a processor
  around an exporter of its own.  With faults it fails with all of
  them, and every exporter that was created on the way is shut down
  again.  There are three ways out beside that: an exporter that is
  not needed refuses to shut down, planning an exporter ends with a
  foreign exception, or a batching processor cannot hold its limits.
  Only the last one leaves an exporter running.

  Main results:
    * `Processor.run_resolve` — the resolution of an entry has one
      of these outcomes.
    * `EntryOutcome` — the outcomes, with their events.
-/
import SpanPipeline.Pipeline
import SpanPipeline.Proofs.Ledger
import SpanPipeline.Proofs.Plan

namespace SpanPipeline

/-! ## §1. Faults. -/

/-- The failure of resolving an exporter, if there is one. -/
def ExporterConfig.fault? (host : Host) (e : ExporterConfig) : Option Failure :=
  match Exporter.plan host e with
  | .ok _ => none
  | .error r => some r.failure

/-- The failures of the negative numbers of a batch. -/
def BatchConfig.negativeNumbers (b : BatchConfig) : List Failure :=
  [ ("batch size", b.maxExportBatchSize), ("export timeout", b.exportTimeout),
    ("queue size", b.maxQueueSize), ("schedule delay", b.scheduleDelay) ].filterMap
      fun (label, value) => match value with
        | some n => if n < 0 then some (.configuration s!"invalid {label} {n}") else none
        | none => none

namespace ProcessorConfig

/-- How many exporters are created when every check is made. -/
def created (host : Host) (c : ProcessorConfig) : Nat :=
  c.exporters.countP fun e => (e.fault? host).isNone

/-- Everything that is at fault with an entry, in order. -/
def faults (host : Host) (c : ProcessorConfig) : List Failure :=
  match c.simple, c.batch with
  | some s, some b =>
    .configuration "must not specify multiple span processor type"
      :: ((s.fault? host).toList ++ b.negativeNumbers
        ++ (b.exporter.fault? host).toList)
  | none, none =>
    [.configuration "unsupported span processor type, must be one of simple or batch"]
  | some s, none => (s.fault? host).toList
  | none, some b =>
    match b.negativeNumbers ++ (b.exporter.fault? host).toList with
    | [] => ((BatchLimits.effective host.env b).refusal?.map fun r =>
        .configuration r.message).toList
    | f :: fs => f :: fs

/-- The limit that the batching processor of an entry without faults
    cannot hold, if there is one. -/
def excess? (host : Host) (c : ProcessorConfig) : Option Excess :=
  match c.simple, c.batch with
  | none, some b =>
    if (c.faults host).isEmpty then (BatchLimits.effective host.env b).excess? else none
  | _, _ => none

end ProcessorConfig

theorem ExporterConfig.fault?_of_ok {host : Host} {e : ExporterConfig}
    {p : ExporterSpec × List LogRecord} (h : Exporter.plan host e = .ok p) :
    e.fault? host = none := by
  simp [fault?, h]

theorem ExporterConfig.fault?_of_error {host : Host} {e : ExporterConfig} {r : Refusal}
    (h : Exporter.plan host e = .error r) : e.fault? host = some r.failure := by
  simp [fault?, h]

/-- The limits of a processor matter only without faults. -/
theorem ProcessorConfig.excess?_of_faults {host : Host} {c : ProcessorConfig}
    (h : c.faults host ≠ []) : c.excess? host = none := by
  obtain ⟨s, b⟩ := c
  cases s with
  | some s => rfl
  | none =>
    cases b with
    | none => rfl
    | some b => simp [excess?, h]

theorem BatchConfig.negatives_eq (b : BatchConfig) : b.negatives = b.negativeNumbers := by
  rfl

/-! ## §2. Records. -/

/-- The record reports that a configuration is at fault. -/
def LogRecord.isFallback (l : LogRecord) : Bool :=
  l.source == .pipeline
    && l.message == "Tracer provider configuration is invalid, using no-op provider"

/-- No record reports that a configuration is at fault. -/
def Calm (rs : List LogRecord) : Prop := ∀ l ∈ rs, l.isFallback = false

theorem Calm.nil : Calm [] := by
  intro l h
  cases h

theorem Calm.append {rs ss : List LogRecord} (hr : Calm rs) (hs : Calm ss) : Calm (rs ++ ss) := by
  intro l h
  rcases List.mem_append.mp h with h | h
  · exact hr l h
  · exact hs l h

theorem calm_of_source {rs : List LogRecord} (h : ∀ l ∈ rs, l.source ≠ .pipeline) : Calm rs := by
  intro l hl
  simp [LogRecord.isFallback, h l hl]

theorem calm_of_plan_error {host : Host} {e : ExporterConfig} {r : Refusal}
    (h : Exporter.plan host e = .error r) : Calm r.records :=
  calm_of_source fun l hl => by simp [(Exporter.plan_error h).source l hl]

theorem calm_of_plan_ok {host : Host} {e : ExporterConfig} {spec : ExporterSpec}
    {rs : List LogRecord} (h : Exporter.plan host e = .ok (spec, rs)) : Calm rs :=
  calm_of_source fun l hl => by simp [Exporter.plan_ok h l hl]

theorem calm_createdRecords (p : Processor) (a : List (String × Int)) :
    Calm (p.createdRecords a) :=
  calm_of_source (by simp [Processor.createdRecords])

/-! ## §3. Events of an exporter's short life. -/

namespace Ledger

theorem leaves_ready {n : Nat} {spec : ExporterSpec} {w : Event}
    (hw : w = .simple n ∨ ∃ a, w = .batch n a) : Leaves n [.create n spec, w] [n] := by
  intro held _
  rcases hw with rfl | ⟨a, rfl⟩
  · simp [enterAll, enter, List.countP_cons, Event.isCreate]
  · simp [enterAll, enter, List.countP_cons, Event.isCreate]

theorem leaves_dropped (n : Nat) (spec : ExporterSpec) :
    Leaves n [.create n spec, .shutdown n] [] := by
  intro held hheld
  have hn : n ∉ held := fun h => Nat.lt_irrefl n (hheld n h)
  simp [enterAll, enter, List.countP_cons, Event.isCreate, List.erase_append_right _ hn]

theorem leaves_rejected (n : Nat) (spec : ExporterSpec) (a : List (String × Int)) :
    Leaves n [.create n spec, .batch n a, .shutdown n] [] := by
  intro held hheld
  have hn : n ∉ held := fun h => Nat.lt_irrefl n (hheld n h)
  simp [enterAll, enter, List.countP_cons, Event.isCreate, List.erase_append_right _ hn]

end Ledger

/-! ## §4. The steps of an entry. -/

namespace Processor

theorem run_build (host : Host) (errors : Aggregator) (e : ExporterConfig) (j : Journal) :
    (build host errors e).run j = match Exporter.plan host e with
      | .error r => (errors.capture (.error r.failure), j.extend [] r.records)
      | .ok (spec, rs) =>
        (.ok (some ⟨j.created, spec.className⟩, errors),
          j.extend [.create j.created spec] rs) := by
  cases h : Exporter.plan host e with
  | error r => simp [build, Act.run_bind, Exporter.run_resolve, h]
  | ok p => simp [build, Act.run_bind, Exporter.run_resolve, h, Aggregator.capture]

theorem run_shutdown (host : Host) (x : Exporter) (j : Journal) :
    (x.shutdown host).run j =
      (match host.refusal x.id with | none => .ok () | some f => .error f,
        j.extend [.shutdown x.id] []) := by
  cases h : host.refusal x.id <;>
    simp [Exporter.shutdown, Act.run_bind, h, Journal.addEvent_eq]

/-- What trying out an exporter can come to, when `n` is the next
    number: its result, and the events. -/
inductive Trial (host : Host) (n : Nat) (errors : Aggregator) (e : ExporterConfig) :
    Except Failure Aggregator → List Event → Prop where
  /-- The exporter is at fault, which is recorded. -/
  | faulty {f : Failure} (hf : e.fault? host = some f) (hown : f.isOwn = true) :
      Trial host n errors e (.ok (errors.add (some f))) []
  /-- A foreign exception ends the trial. -/
  | escaped {f : Failure} (hf : e.fault? host = some f) (hown : f.isOwn = false) :
      Trial host n errors e (.error f) []
  /-- The exporter is created and shut down. -/
  | dropped {spec : ExporterSpec} (hf : e.fault? host = none) :
      Trial host n errors e (.ok errors) [.create n spec, .shutdown n]
  /-- The exporter is created, and its shutdown ends with a failure. -/
  | refused {spec : ExporterSpec} {f : Failure} (hf : e.fault? host = none)
      (hr : host.refusal n = some f) :
      Trial host n errors e (.error f) [.create n spec, .shutdown n]

theorem run_tryOut (host : Host) (errors : Aggregator) (e : ExporterConfig) (j : Journal) :
    ∃ r es rs, (tryOut host errors e).run j = (r, j.extend es rs) ∧
      Trial host j.created errors e r es ∧ Calm rs := by
  cases h : Exporter.plan host e with
  | error r =>
    have hfault := ExporterConfig.fault?_of_error h
    cases hown : r.failure.isOwn with
    | true =>
      refine ⟨_, [], r.records, ?_, .faulty hfault hown, calm_of_plan_error h⟩
      simp [tryOut, Act.run_bind, run_build, h, Aggregator.capture, hown, discard]
    | false =>
      refine ⟨_, [], r.records, ?_, .escaped hfault hown, calm_of_plan_error h⟩
      simp [tryOut, Act.run_bind, run_build, h, Aggregator.capture, hown]
  | ok p =>
    obtain ⟨spec, rs⟩ := p
    have hfault := ExporterConfig.fault?_of_ok h
    cases hr : host.refusal j.created with
    | none =>
      refine ⟨_, [.create j.created spec, .shutdown j.created], rs, ?_, .dropped hfault,
        calm_of_plan_ok h⟩
      simp [tryOut, Act.run_bind, run_build, h, discard, run_shutdown, hr]
    | some f =>
      refine ⟨_, [.create j.created spec, .shutdown j.created], rs, ?_, .refused hfault hr,
        calm_of_plan_ok h⟩
      simp [tryOut, Act.run_bind, run_build, h, discard, run_shutdown, hr]

/-- A trial leaves nothing running. -/
theorem Trial.leaves {host : Host} {n : Nat} {errors : Aggregator} {e : ExporterConfig}
    {r : Except Failure Aggregator} {es : List Event} (h : Trial host n errors e r es) :
    Ledger.Leaves n es [] := by
  cases h with
  | faulty | escaped => exact .nil n
  | dropped | refused => exact Ledger.leaves_dropped n _

/-- How many exporters a trial creates. -/
theorem Trial.countP_isCreate {host : Host} {n : Nat} {errors : Aggregator} {e : ExporterConfig}
    {r : Except Failure Aggregator} {es : List Event} (h : Trial host n errors e r es) :
    es.countP Event.isCreate = if (e.fault? host).isNone then 1 else 0 := by
  cases h with
  | faulty hf | escaped hf => simp [hf]
  | dropped hf | refused hf => simp [hf, List.countP_cons, Event.isCreate]

/-- What a trial that ends well has recorded. -/
theorem Trial.failures {host : Host} {n : Nat} {errors a : Aggregator} {e : ExporterConfig}
    {es : List Event} (h : Trial host n errors e (.ok a) es) :
    a.failures = errors.failures ++ (e.fault? host).toList := by
  cases h with
  | faulty hf => simp [hf]
  | dropped hf => simp [hf]

end Processor

/-! ## §5. The outcomes of an entry. -/

/-- What resolving an entry can come to, when `n` is the next number:
    its result, and the events. -/
inductive EntryOutcome (host : Host) (n : Nat) (c : ProcessorConfig) :
    Except Failure Processor → List Event → Prop where
  /-- The entry has its processor. -/
  | ready {k : ProcessorKind} {e : ExporterConfig} {spec : ExporterSpec} {rs : List LogRecord}
      {w : Event} (hk : c.populated = [k]) (he : c.exporters = [e])
      (hp : Exporter.plan host e = .ok (spec, rs)) (hf : c.faults host = [])
      (hx : c.excess? host = none) (hw : w = .simple n ∨ ∃ a, w = .batch n a) :
      EntryOutcome host n c (.ok ⟨k, ⟨n, spec.className⟩⟩) [.create n spec, w]
  /-- The entry fails with everything that is at fault with it. -/
  | faulty {es : List Event} (hf : c.faults host ≠ [])
      (hn : es.countP Event.isCreate = c.created host) (hs : Ledger.Leaves n es []) :
      EntryOutcome host n c (.error (.aggregate (c.faults host))) es
  /-- The shutdown of an exporter that is not needed ends with a
      failure. -/
  | refused {id : Nat} {f : Failure} {es : List Event} (hf : c.faults host ≠ [])
      (hr : host.refusal id = some f) (hid : n ≤ id ∧ id < n + c.created host)
      (hs : Ledger.Leaves n es []) : EntryOutcome host n c (.error f) es
  /-- Planning an exporter ends with a foreign exception. -/
  | escaped {e : ExporterConfig} {f : Failure} {es : List Event} (hf : c.faults host ≠ [])
      (he : e ∈ c.exporters) (hp : e.fault? host = some f) (hown : f.isOwn = false)
      (hs : Ledger.Leaves n es []) : EntryOutcome host n c (.error f) es
  /-- The batching processor cannot hold its limits. -/
  | exceeded {e : ExporterConfig} {spec : ExporterSpec} {a : List (String × Int)} {x : Excess}
      (he : c.exporters = [e]) (hf : c.faults host = []) (hx : c.excess? host = some x) :
      EntryOutcome host n c (.error (.foreign (.overflow x))) [.create n spec, .batch n a]

namespace Processor

theorem outcome_of_trial {host : Host} {n m : Nat} {c : ProcessorConfig} {errors : Aggregator}
    {e : ExporterConfig} {f : Failure} (es : List Event) {fs : List Event}
    (hf : c.faults host ≠ []) (he : e ∈ c.exporters) (ht : Trial host m errors e (.error f) fs)
    (hn : n ≤ m) (hm : m + fs.countP Event.isCreate ≤ n + c.created host)
    (hs : Ledger.Leaves n (es ++ fs) []) : EntryOutcome host n c (.error f) (es ++ fs) := by
  have hcount := ht.countP_isCreate
  cases ht with
  | escaped hp hown => exact .escaped hf he hp hown hs
  | refused hp hr =>
    rw [hp, Option.isNone_none, if_pos rfl] at hcount
    exact .refused hf hr ⟨hn, by omega⟩ hs

/-- An entry whose one fault is that of its exporter.  A pipeline
    failure is recorded and raised at the end, any other one ends
    the resolution; nothing is created in either case. -/
theorem outcome_of_refusal {host : Host} {c : ProcessorConfig} {e : ExporterConfig} {r : Refusal}
    {j : Journal} (he : e ∈ c.exporters) (h : Exporter.plan host e = .error r)
    (hf : c.faults host = [r.failure]) (hn : c.created host = 0)
    (hown : r.failure.isOwn = true →
      (resolve host c).run j = (.error (.aggregate [r.failure]), j.extend [] r.records))
    (hforeign : r.failure.isOwn = false →
      (resolve host c).run j = (.error r.failure, j.extend [] r.records)) :
    ∃ q es rs, (resolve host c).run j = (q, j.extend es rs) ∧
      EntryOutcome host j.created c q es ∧ Calm rs := by
  have hne : c.faults host ≠ [] := by simp [hf]
  cases hr : r.failure.isOwn with
  | true =>
    refine ⟨_, [], r.records, hown hr, ?_, calm_of_plan_error h⟩
    rw [← hf]
    exact .faulty hne (by rw [hn]; rfl) (.nil _)
  | false =>
    refine ⟨_, [], r.records, hforeign hr, ?_, calm_of_plan_error h⟩
    exact .escaped hne he (ExporterConfig.fault?_of_error h) hr (.nil _)

/-- An entry with both kinds. -/
theorem run_resolve_both (host : Host) (s : ExporterConfig) (b : BatchConfig) (j : Journal) :
    ∃ r es rs, (resolve host ⟨some s, some b⟩).run j = (r, j.extend es rs) ∧
      EntryOutcome host j.created ⟨some s, some b⟩ r es ∧ Calm rs := by
  have hf : (ProcessorConfig.mk (some s) (some b)).faults host ≠ [] := by
    simp [ProcessorConfig.faults]
  have hcreated : (ProcessorConfig.mk (some s) (some b)).created host
      = (if (s.fault? host).isNone then 1 else 0)
        + (if (b.exporter.fault? host).isNone then 1 else 0) := by
    simp [ProcessorConfig.created, ProcessorConfig.exporters, List.countP_cons, Nat.add_comm]
  obtain ⟨r₁, es₁, rs₁, h₁, t₁, q₁⟩ :=
    run_tryOut host (Aggregator.empty.add (some multipleKinds)) s j
  have n₁ := t₁.countP_isCreate
  -- the second trial is made only when the first one ends well
  cases r₁ with
  | error f =>
    refine ⟨.error f, es₁, rs₁, by simp [resolve, checkBoth, Act.run_bind, h₁], ?_, q₁⟩
    exact outcome_of_trial [] hf (by simp [ProcessorConfig.exporters]) t₁ (Nat.le_refl _)
      (by omega) t₁.leaves
  | ok a =>
    obtain ⟨r₂, es₂, rs₂, h₂, t₂, q₂⟩ :=
      run_tryOut host (a.extend (b.negatives.map some)) b.exporter (j.extend es₁ rs₁)
    have n₂ := t₂.countP_isCreate
    rw [Journal.created_extend] at t₂
    have hs : Ledger.Leaves j.created (es₁ ++ es₂) [] := t₁.leaves.append (by simp) t₂.leaves
    cases r₂ with
    | error f =>
      refine ⟨.error f, es₁ ++ es₂, rs₁ ++ rs₂,
        by simp [resolve, checkBoth, Act.run_bind, h₁, h₂], ?_, q₁.append q₂⟩
      exact outcome_of_trial es₁ hf (by simp [ProcessorConfig.exporters]) t₂ (by omega)
        (by omega) hs
    | ok a' =>
      -- what was recorded on the way are the faults, in their order
      have ha : a'.failures = (ProcessorConfig.mk (some s) (some b)).faults host := by
        rw [t₂.failures, Aggregator.failures_extend, t₁.failures, BatchConfig.negatives_eq]
        simp [ProcessorConfig.faults, multipleKinds, List.flatMap_map]
      refine ⟨.error (.aggregate a'.failures), es₁ ++ es₂, rs₁ ++ rs₂,
        by simp [resolve, checkBoth, Act.run_bind, h₁, h₂], ?_, q₁.append q₂⟩
      rw [ha]
      exact .faulty hf (by rw [List.countP_append]; omega) hs

/-- An entry with neither kind. -/
theorem run_resolve_none (host : Host) (j : Journal) :
    ∃ r es rs, (resolve host ⟨none, none⟩).run j = (r, j.extend es rs) ∧
      EntryOutcome host j.created ⟨none, none⟩ r es ∧ Calm rs := by
  refine ⟨.error (.aggregate [noKind]), [], [], by simp [resolve], ?_, .nil⟩
  exact .faulty (c := ⟨none, none⟩) (by simp [ProcessorConfig.faults])
    (by simp [ProcessorConfig.created, ProcessorConfig.exporters]) (.nil _)

/-- An entry with a simple processor. -/
theorem run_resolve_simple (host : Host) (s : ExporterConfig) (j : Journal) :
    ∃ r es rs, (resolve host ⟨some s, none⟩).run j = (r, j.extend es rs) ∧
      EntryOutcome host j.created ⟨some s, none⟩ r es ∧ Calm rs := by
  cases h : Exporter.plan host s with
  | error r =>
    have hfault := ExporterConfig.fault?_of_error h
    apply outcome_of_refusal (by simp [ProcessorConfig.exporters]) h
    · simp [ProcessorConfig.faults, hfault]
    · simp [ProcessorConfig.created, ProcessorConfig.exporters, hfault]
    · intro hown
      simp [resolve, createSimple, conclude, Act.run_bind, run_build, h, Aggregator.capture, hown]
    · intro hown
      simp [resolve, createSimple, Act.run_bind, run_build, h, Aggregator.capture, hown]
  | ok p =>
    obtain ⟨spec, rs⟩ := p
    have hfault := ExporterConfig.fault?_of_ok h
    refine ⟨.ok ⟨.simple, ⟨j.created, spec.className⟩⟩,
      [.create j.created spec, .simple j.created],
      rs ++ createdRecords ⟨.simple, ⟨j.created, spec.className⟩⟩ [], ?_, ?_,
      (calm_of_plan_ok h).append (calm_createdRecords _ _)⟩
    · simp [resolve, createSimple, conclude, Act.run_bind, run_build, h, Journal.addRecords_eq,
        Journal.addEvent_eq]
    · exact .ready (e := s) rfl (by simp [ProcessorConfig.exporters]) h
        (by simp [ProcessorConfig.faults, hfault]) rfl (.inl rfl)

/-- With a negative number the exporter is only tried out. -/
theorem run_createBatch_of_negative (host : Host) {b : BatchConfig} (hb : b.negatives ≠ [])
    (j : Journal) :
    (createBatch host .empty b).run j =
      (do
        let errors ← tryOut host (Aggregator.empty.extend (b.negatives.map some)) b.exporter
        return ((none, errors) : Option Processor × Aggregator)).run j := by
  -- the aggregator has failures before the exporter is planned
  have hne : (Aggregator.empty.extend (b.negatives.map some)).nonempty = true := by
    simp [Aggregator.nonempty, List.flatMap_map, hb]
  cases h : Exporter.plan host b.exporter with
  | error r =>
    cases hown : r.failure.isOwn with
    | true =>
      simp [createBatch, tryOut, Act.run_bind, run_build, h, Aggregator.capture, hown, discard]
    | false => simp [createBatch, tryOut, Act.run_bind, run_build, h, Aggregator.capture, hown]
  | ok p =>
    cases hr : host.refusal j.created with
    | none =>
      simp [createBatch, tryOut, Act.run_bind, run_build, h, hne, discard, run_shutdown, hr]
    | some f =>
      simp [createBatch, tryOut, Act.run_bind, run_build, h, hne, discard, run_shutdown, hr]

/-- An entry with a batching processor and a negative number. -/
theorem run_resolve_negative (host : Host) {b : BatchConfig} (hb : b.negatives ≠ [])
    (j : Journal) :
    ∃ r es rs, (resolve host ⟨none, some b⟩).run j = (r, j.extend es rs) ∧
      EntryOutcome host j.created ⟨none, some b⟩ r es ∧ Calm rs := by
  have hfaults : (ProcessorConfig.mk none (some b)).faults host
      = b.negatives ++ (b.exporter.fault? host).toList := by
    rw [BatchConfig.negatives_eq] at hb ⊢
    obtain ⟨f, fs, hcons⟩ := List.exists_cons_of_ne_nil hb
    simp [ProcessorConfig.faults, hcons]
  have hf : (ProcessorConfig.mk none (some b)).faults host ≠ [] := by simp [hfaults, hb]
  have hcreated : (ProcessorConfig.mk none (some b)).created host
      = if (b.exporter.fault? host).isNone then 1 else 0 := by
    simp [ProcessorConfig.created, ProcessorConfig.exporters, List.countP_cons]
  obtain ⟨r, es, rs, h, t, q⟩ :=
    run_tryOut host (Aggregator.empty.extend (b.negatives.map some)) b.exporter j
  have hn := t.countP_isCreate
  cases r with
  | error f =>
    refine ⟨.error f, es, rs, ?_, ?_, q⟩
    · simp [resolve, Act.run_bind, run_createBatch_of_negative host hb, h]
    · exact outcome_of_trial [] hf (by simp [ProcessorConfig.exporters]) t
        (Nat.le_refl _) (by omega) t.leaves
  | ok a =>
    have ha : a.failures = (ProcessorConfig.mk none (some b)).faults host := by
      rw [t.failures, hfaults]
      simp [List.flatMap_map]
    refine ⟨.error (.aggregate a.failures), es, rs, ?_, ?_, q⟩
    · simp [resolve, conclude, Act.run_bind, run_createBatch_of_negative host hb, h]
    · rw [ha]
      exact .faulty hf (by omega) t.leaves

theorem run_createBatchAround (host : Host) (errors : Aggregator) (b : BatchConfig) (x : Exporter)
    (j : Journal) :
    (createBatchAround host errors b x).run j =
      match (BatchLimits.effective host.env b).refusal?,
        (BatchLimits.effective host.env b).excess? with
      | some l, _ =>
        (match host.refusal x.id with
          | none => .ok (none, errors.add (some (.configuration l.message)))
          | some f => .error f,
          j.extend [.batch x.id b.arguments, .shutdown x.id] [])
      | none, some e => (.error (.foreign (.overflow e)), j.extend [.batch x.id b.arguments] [])
      | none, none =>
        (.ok (some ⟨.batch, x⟩, errors),
          j.extend [.batch x.id b.arguments] (createdRecords ⟨.batch, x⟩ b.arguments)) := by
  cases hl : (BatchLimits.effective host.env b).refusal? with
  | some l =>
    cases hr : host.refusal x.id <;>
      simp [createBatchAround, Act.run_bind, hl, run_shutdown, hr, Journal.addEvent_eq]
  | none =>
    cases he : (BatchLimits.effective host.env b).excess? <;>
      simp [createBatchAround, Act.run_bind, hl, he, Journal.addEvent_eq, Journal.addRecords_eq]

/-- An entry with a batching processor whose exporter is at fault. -/
theorem run_resolve_batch_error (host : Host) {b : BatchConfig} (hb : b.negatives = [])
    {r : Refusal} (h : Exporter.plan host b.exporter = .error r) (j : Journal) :
    ∃ r es rs, (resolve host ⟨none, some b⟩).run j = (r, j.extend es rs) ∧
      EntryOutcome host j.created ⟨none, some b⟩ r es ∧ Calm rs := by
  have hfault := ExporterConfig.fault?_of_error h
  apply outcome_of_refusal (by simp [ProcessorConfig.exporters]) h
  · simp [ProcessorConfig.faults, ← BatchConfig.negatives_eq, hb, hfault]
  · simp [ProcessorConfig.created, ProcessorConfig.exporters, hfault]
  · intro hown
    simp [resolve, createBatch, conclude, Act.run_bind, run_build, h, Aggregator.capture,
      hown, Aggregator.extend, hb, discard]
  · intro hown
    simp [resolve, createBatch, Act.run_bind, run_build, h, Aggregator.capture, hown]

/-- Without a fault of its exporter and without a negative number, a
    batching processor is created around the exporter. -/
theorem run_createBatch_of_ok (host : Host) {b : BatchConfig} (hb : b.negatives = [])
    {spec : ExporterSpec} {rs : List LogRecord}
    (h : Exporter.plan host b.exporter = .ok (spec, rs)) (j : Journal) :
    (createBatch host .empty b).run j
      = (createBatchAround host .empty b ⟨j.created, spec.className⟩).run
          (j.extend [.create j.created spec] rs) := by
  simp [createBatch, Act.run_bind, run_build, h, hb, Aggregator.extend, Aggregator.nonempty]

/-- An entry with a batching processor around an exporter without a
    fault.  The limits decide: they are refused, too large, or
    fine. -/
theorem run_resolve_batch_ok (host : Host) {b : BatchConfig} (hb : b.negatives = [])
    {spec : ExporterSpec} {rs : List LogRecord}
    (h : Exporter.plan host b.exporter = .ok (spec, rs)) (j : Journal) :
    ∃ r es rs, (resolve host ⟨none, some b⟩).run j = (r, j.extend es rs) ∧
      EntryOutcome host j.created ⟨none, some b⟩ r es ∧ Calm rs := by
  have hnums : b.negativeNumbers = [] := by rw [← BatchConfig.negatives_eq, hb]
  have hfault := ExporterConfig.fault?_of_ok h
  have hcreated : (ProcessorConfig.mk none (some b)).created host = 1 := by
    simp [ProcessorConfig.created, ProcessorConfig.exporters, hfault]
  have hrun := run_createBatch_of_ok host hb h j
  have hs := Ledger.leaves_rejected j.created spec b.arguments
  cases hl : (BatchLimits.effective host.env b).refusal? with
  | some l =>
    have hf : (ProcessorConfig.mk none (some b)).faults host = [.configuration l.message] := by
      simp [ProcessorConfig.faults, hnums, hfault, hl]
    cases hr : host.refusal j.created with
    | none =>
      refine ⟨.error (.aggregate [.configuration l.message]),
        [.create j.created spec, .batch j.created b.arguments, .shutdown j.created], rs, ?_, ?_,
        calm_of_plan_ok h⟩
      · simp [resolve, conclude, Act.run_bind, hrun, run_createBatchAround, hl, hr]
      · rw [← hf]
        exact .faulty (by simp [hf]) (by rw [hcreated]; rfl) hs
    | some f =>
      refine ⟨.error f,
        [.create j.created spec, .batch j.created b.arguments, .shutdown j.created], rs, ?_, ?_,
        calm_of_plan_ok h⟩
      · simp [resolve, Act.run_bind, hrun, run_createBatchAround, hl, hr]
      · exact .refused (by simp [hf]) hr ⟨Nat.le_refl _, by omega⟩ hs
  | none =>
    have hf : (ProcessorConfig.mk none (some b)).faults host = [] := by
      simp [ProcessorConfig.faults, hnums, hfault, hl]
    have hx : (ProcessorConfig.mk none (some b)).excess? host
        = (BatchLimits.effective host.env b).excess? := by
      simp [ProcessorConfig.excess?, hf]
    cases he : (BatchLimits.effective host.env b).excess? with
    | some x =>
      refine ⟨.error (.foreign (.overflow x)),
        [.create j.created spec, .batch j.created b.arguments], rs, ?_,
        .exceeded (e := b.exporter) rfl hf (by rw [hx, he]), calm_of_plan_ok h⟩
      simp [resolve, Act.run_bind, hrun, run_createBatchAround, hl, he]
    | none =>
      refine ⟨.ok ⟨.batch, ⟨j.created, spec.className⟩⟩,
        [.create j.created spec, .batch j.created b.arguments],
        rs ++ createdRecords ⟨.batch, ⟨j.created, spec.className⟩⟩ b.arguments, ?_,
        .ready (e := b.exporter) rfl rfl h hf (by rw [hx, he]) (.inr ⟨_, rfl⟩),
        (calm_of_plan_ok h).append (calm_createdRecords _ _)⟩
      simp [resolve, conclude, Act.run_bind, hrun, run_createBatchAround, hl, he]

/-- **Resolving an entry has one of its outcomes.** -/
theorem run_resolve (host : Host) (c : ProcessorConfig) (j : Journal) :
    ∃ r es rs, (resolve host c).run j = (r, j.extend es rs) ∧
      EntryOutcome host j.created c r es ∧ Calm rs := by
  obtain ⟨s, b⟩ := c
  cases s with
  | some s =>
    cases b with
    | some b => exact run_resolve_both host s b j
    | none => exact run_resolve_simple host s j
  | none =>
    cases b with
    | none => exact run_resolve_none host j
    | some b =>
      by_cases hb : b.negatives = []
      · cases h : Exporter.plan host b.exporter with
        | error r => exact run_resolve_batch_error host hb h j
        | ok p => exact run_resolve_batch_ok host hb h j
      · exact run_resolve_negative host hb j

end Processor

end SpanPipeline
