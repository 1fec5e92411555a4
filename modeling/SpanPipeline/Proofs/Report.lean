/-
  SpanPipeline.Proofs.Report
  ──────────────────────────
  What is reported about a configuration at fault.

  The report of a pipeline has two parts.  First come the entries at
  fault, one failure each with everything that is at fault with it.
  Then come the failures of the clean-up, in the order in which the
  processors of the other entries are shut down.  Nothing is left
  out, repeated or moved, and one log record has all the messages.

  Exporters are foreign code and know nothing of the pipeline's own
  failures.  An exporter that is dropped must not end its shutdown
  with one: that would be taken for the failure of its entry.

  Main results:
    * `ProcessorConfig.messages_faults` — the failure of an entry has
      one message for each fault.
    * `Processed.reports` — the failures that the loop records are
      the reports of the entries at fault.
    * `resolve_reports` — the report of a whole pipeline.
-/
import SpanPipeline.Proofs.Resolution

namespace SpanPipeline

/-! ## §1. Faults are leaves. -/

theorem ExporterConfig.leaf_of_fault? {host : Host} {e : ExporterConfig} {f : Failure}
    (h : e.fault? host = some f) : f.kind? ≠ some .aggregate := by
  cases hp : Exporter.plan host e with
  | ok p =>
    rw [ExporterConfig.fault?_of_ok hp] at h
    cases h
  | error r =>
    rw [ExporterConfig.fault?_of_error hp] at h
    cases h
    exact (Exporter.plan_error hp).leaf

theorem BatchConfig.leaf_of_negative {b : BatchConfig} {f : Failure}
    (h : f ∈ b.negativeNumbers) : f.kind? ≠ some .aggregate := by
  obtain ⟨⟨label, value⟩, -, hf⟩ := List.mem_filterMap.mp h
  cases value with
  | none => cases hf
  | some n =>
    by_cases hn : n < 0
    · simp only [if_pos hn, Option.some.injEq] at hf
      subst hf
      simp [Failure.kind?]
    · simp [if_neg hn] at hf

namespace ProcessorConfig

/-- No fault of an entry is an aggregate. -/
theorem leaf_of_fault {host : Host} {c : ProcessorConfig} {f : Failure} (h : f ∈ c.faults host) :
    f.kind? ≠ some .aggregate := by
  have hexporter : ∀ e : ExporterConfig, f ∈ (e.fault? host).toList →
      f.kind? ≠ some .aggregate := by
    intro e hf
    exact ExporterConfig.leaf_of_fault? (Option.mem_toList.mp hf)
  obtain ⟨s, b⟩ := c
  cases s with
  | some s =>
    cases b with
    | some b =>
      rcases List.mem_cons.mp h with rfl | h
      · simp [Failure.kind?]
      · rcases List.mem_append.mp h with h | h
        · rcases List.mem_append.mp h with h | h
          · exact hexporter s h
          · exact BatchConfig.leaf_of_negative h
        · exact hexporter b.exporter h
    | none => exact hexporter s h
  | none =>
    cases b with
    | none =>
      rw [List.mem_singleton.mp h]
      simp [Failure.kind?]
    | some b =>
      unfold faults at h
      cases hfs : b.negativeNumbers ++ (b.exporter.fault? host).toList with
      | nil =>
        -- only here the limits of the processor are looked at
        simp only [hfs, Option.mem_toList, Option.map_eq_some_iff] at h
        obtain ⟨r, -, rfl⟩ := h
        simp [Failure.kind?]
      | cons g gs =>
        simp only [hfs] at h
        rw [← hfs] at h
        rcases List.mem_append.mp h with h | h
        · exact BatchConfig.leaf_of_negative h
        · exact hexporter b.exporter h

/-- The failure that reports an entry at fault. -/
def report (host : Host) (c : ProcessorConfig) : Failure := .aggregate (c.faults host)

/-- The messages of an entry's failure are its faults, one by one. -/
theorem messages_faults (host : Host) (c : ProcessorConfig) :
    (c.report host).messages = (c.faults host).map Failure.text := by
  have hleaf : ∀ fs : List Failure, (∀ f ∈ fs, f.kind? ≠ some .aggregate) →
      fs.flatMap Failure.messages = fs.map Failure.text := by
    intro fs hfs
    induction fs with
    | nil => rfl
    | cons f fs ih =>
      rw [List.flatMap_cons, List.map_cons, Failure.messages_leaf (hfs f List.mem_cons_self),
        ih fun g hg => hfs g (List.mem_cons_of_mem f hg)]
      rfl
  rw [report, Failure.messages_aggregate]
  exact hleaf _ fun f hf => leaf_of_fault hf

end ProcessorConfig

/-! ## §2. The report. -/

/-- The reports of the entries at fault, in order. -/
def reports (host : Host) (cs : List ProcessorConfig) : List Failure :=
  (cs.filter fun c => !(c.faults host).isEmpty).map (ProcessorConfig.report host)

/-- The numbers of the exporters that stay with an entry without
    faults, when `n` is the next number. -/
def kept (host : Host) : Nat → List ProcessorConfig → List Nat
  | _, [] => []
  | n, c :: cs =>
    if (c.faults host).isEmpty then n :: kept host (n + 1) cs
    else kept host (n + c.created host) cs

/-- Only the given exporters end their shutdown with one of the
    pipeline's own failures. -/
def Host.OwnFailuresFrom (host : Host) (ids : List Nat) : Prop :=
  ∀ id f, host.refusal id = some f → f.isOwn = true → id ∈ ids

theorem le_of_mem_kept {host : Host} {cs : List ProcessorConfig} {n id : Nat}
    (h : id ∈ kept host n cs) : n ≤ id := by
  induction cs generalizing n with
  | nil => cases h
  | cons c cs ih =>
    unfold kept at h
    by_cases hc : (c.faults host).isEmpty = true
    · rw [if_pos hc] at h
      rcases List.mem_cons.mp h with rfl | h
      · exact Nat.le_refl _
      · have := ih h
        omega
    · rw [if_neg hc] at h
      have := ih h
      omega

/-- An own failure of an entry is its report: a dropped exporter does
    not end with one. -/
theorem EntryOutcome.report_of_own {host : Host} {n : Nat} {c : ProcessorConfig} {f : Failure}
    {es : List Event} (h : EntryOutcome host n c (.error f) es) (hown : f.isOwn = true)
    (hdrop : ∀ id g, n ≤ id → id < n + c.created host → host.refusal id = some g →
      g.isOwn = false) :
    f = c.report host ∧ es.countP Event.isCreate = c.created host := by
  cases h with
  | faulty hf hn hs => exact ⟨rfl, hn⟩
  | refused hf hr hid hs =>
    rw [hdrop _ _ hid.1 hid.2 hr] at hown
    cases hown
  | escaped hf he hp hforeign hs =>
    rw [hforeign] at hown
    cases hown
  | exceeded he hf hx => cases hown

/-- **The failures that the loop records are the reports of the
    entries at fault**, and the processors are those of the other
    entries. -/
theorem Processed.reports {host : Host} {n : Nat} {cs : List ProcessorConfig}
    {ps : List Processor} {fs : List Failure} {es : List Event} (h : Processed host n cs ps fs es)
    (hown : ∀ id f, n ≤ id → host.refusal id = some f → f.isOwn = true → id ∈ kept host n cs) :
    fs = SpanPipeline.reports host cs ∧ (ps.map fun p => p.exporter.id) = kept host n cs := by
  induction h with
  | nil n => exact ⟨rfl, rfl⟩
  | @ready n c cs p ps fs es ds h rest ih =>
    obtain ⟨hc, hid⟩ := h.ok
    have hkept : kept host n (c :: cs) = n :: kept host (n + 1) cs := by simp [kept, hc]
    rw [h.countP_isCreate hc] at ih
    have hrest := ih fun id f hle hr hf => by
      have hmem := hown id f (by omega) hr hf
      rw [hkept] at hmem
      rcases List.mem_cons.mp hmem with rfl | hmem
      · omega
      · exact hmem
    refine ⟨?_, ?_⟩
    · rw [hrest.1]
      simp [SpanPipeline.reports, hc]
    · rw [List.map_cons, hrest.2, hid, hkept]
  | @failed n c cs f ps fs es ds h hf rest ih =>
    have hc := h.faults_of_own hf
    have hkept : kept host n (c :: cs) = kept host (n + c.created host) cs := by
      simp [kept, hc]
    rw [hkept] at hown
    obtain ⟨rfl, hcount⟩ := h.report_of_own hf fun id g hle hlt hr => by
      -- an own failure would come from a later entry
      cases hg : g.isOwn with
      | false => rfl
      | true =>
        have := le_of_mem_kept (hown id g hle hr hg)
        omega
    rw [hcount] at ih
    have hrest := ih fun id f hle hr hf => hown id f (by omega) hr hf
    refine ⟨?_, ?_⟩
    · rw [hrest.1]
      simp [SpanPipeline.reports, hc]
    · rw [hkept]
      exact hrest.2

/-! ## §3. The report of a pipeline. -/

theorem Calm.filter {rs : List LogRecord} (h : Calm rs) : rs.filter LogRecord.isFallback = [] := by
  rw [List.filter_eq_nil_iff]
  intro l hl
  simp [h l hl]

namespace Pipeline

/-- **What a resolution that returns reports.**  There is no failure
    exactly when no entry is at fault.  Otherwise the failure has
    the reports of the entries at fault and the failures of the
    clean-up, and one warning has its messages. -/
theorem resolve_reports {host : Host} {config : Option PipelineConfig} {j j' : Journal}
    {r : Resolution} (h : (resolve host config).run j = (.ok r, j'))
    (hown : host.OwnFailuresFrom (kept host j.created (entries config))) :
    ∃ es rs, j' = j.extend es rs ∧
      (r.failure? = none ↔ ∀ c ∈ entries config, c.faults host = []) ∧
      (r.failure? = none → rs.filter LogRecord.isFallback = []) ∧
      (∀ c ∈ entries config, (c.report host).messages = (c.faults host).map Failure.text) ∧
      ∀ f, r.failure? = some f →
        f = .aggregate (reports host (entries config)
          ++ (kept host j.created (entries config)).filterMap host.refusal) ∧
        (∃ before, es = before ++ (kept host j.created (entries config)).map .shutdown) ∧
        ∃ l, rs.filter LogRecord.isFallback = [l] ∧ l.level = .warning ∧
          l.extra = [("errors", .list (f.messages.map .text))] := by
  obtain ⟨es, rs, rfl, ho⟩ := resolve_ok h
  refine ⟨es, rs, rfl, ?_⟩
  generalize entries config = cs at ho hown
  cases ho with
  | inactive =>
    refine ⟨by simp [Resolution.failure?], ?_, by simp, ?_⟩
    · intro _
      simp [LogRecord.isFallback, inactiveRecord]
    · intro f hf
      cases hf
  | @live cs ps es rs hcs hproc hcalm =>
    have hnone : (Resolution.live ps).failure? = none := rfl
    refine ⟨?_, ?_, fun c _ => c.messages_faults host, ?_⟩
    · rw [← hproc.failures_eq_nil_iff]
      simp [hnone]
    · intro _
      rw [List.filter_append, hcalm.filter]
      simp [LogRecord.isFallback, liveRecord]
    · intro f hf
      cases hf
  | @failed cs ps fs es rs hf hproc hcalm =>
    obtain ⟨hfs, hids⟩ := hproc.reports fun id f _ hr hg => hown id f hr hg
    refine ⟨?_, ?_, fun c _ => c.messages_faults host, ?_⟩
    · rw [← hproc.failures_eq_nil_iff]
      simp [Resolution.failure?, hf]
    · intro hnone
      cases hnone
    · intro f heq
      obtain rfl : combined host fs ps = f := by simpa [Resolution.failure?] using heq
      refine ⟨?_, ⟨es, ?_⟩, failedRecord (combined host fs ps), ?_, rfl, rfl⟩
      · rw [combined, hfs, ← hids, List.filterMap_map]
        rfl
      · rw [← hids, List.map_map]
        rfl
      · rw [List.filter_append, hcalm.filter]
        simp [LogRecord.isFallback, failedRecord]

/-- In the sample one entry is at fault and one shutdown fails. -/
theorem resolve_reports_sample :
    ∃ r j' es rs, (resolve Sample.host (some Sample.pipeline)).run {} = (.ok r, j') ∧
      j' = Journal.extend {} es rs ∧
      r.failure? = some (.aggregate
        [ .aggregate
          [ .configuration "must not specify multiple span processor type",
            .configuration "invalid batch size -1" ],
          .foreign (.runtime "connection lost") ]) ∧
      (∃ before, es = before ++ [.shutdown 0, .shutdown 3]) ∧
      (rs.filter LogRecord.isFallback).length = 1 := by
  have hown : Sample.host.OwnFailuresFrom
      (kept Sample.host 0 (entries (some Sample.pipeline))) := by
    intro id f hr hf
    obtain ⟨-, rfl⟩ : id = 3 ∧ .foreign (.runtime "connection lost") = f := by
      simpa [Sample.host] using hr
    cases hf
  obtain ⟨f, j', h⟩ := Sample.resolve_failed
  obtain ⟨es, rs, hj, -, -, -, hreport⟩ := resolve_reports h hown
  obtain ⟨rfl, hdown, l, hl, -, -⟩ := hreport f rfl
  exact ⟨_, j', es, rs, h, hj, rfl, hdown, by rw [hl]; rfl⟩

end Pipeline

end SpanPipeline
