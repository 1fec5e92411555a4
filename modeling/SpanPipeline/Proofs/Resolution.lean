/-
  SpanPipeline.Proofs.Resolution
  ──────────────────────────────
  What resolving a whole pipeline can come to.

  The entries are resolved one after the other, and a failure of the
  pipeline's own does not keep the next one from its turn.  So after
  some entries there are processors, failures and events, and the
  invariant of the loop says how each of the three is put together
  from the outcomes of the entries.  Any other failure leaves the
  loop at once: the entries before it stay as they are.

  Main results:
    * `EntryOutcome.leaves` — what an entry leaves running.
    * `Processed.leaves` — what the entries leave running are the
      exporters of their processors.
    * `resolveEntries_ok`, `resolveEntries_error` — a run over the
      entries processes them all or is left at one of them.
    * `resolve_ok`, `resolve_error` — the same for a pipeline, with
      the clean-up after a failure.
-/
import SpanPipeline.Proofs.Entry

namespace SpanPipeline

/-! ## §1. One entry. -/

/-- The exporters that an outcome of an entry leaves running. -/
theorem EntryOutcome.leaves {host : Host} {n : Nat} {c : ProcessorConfig}
    {r : Except Failure Processor} {es : List Event} (h : EntryOutcome host n c r es) :
    Ledger.Leaves n es (if (c.faults host).isEmpty then [n] else []) := by
  cases h with
  | ready hk he hp hf hx hw =>
    rw [hf]
    exact Ledger.leaves_ready hw
  | faulty hf hn hs => simpa [hf] using hs
  | refused hf hr hid hs => simpa [hf] using hs
  | escaped hf he hp hown hs => simpa [hf] using hs
  | exceeded he hf hx =>
    rw [hf]
    exact Ledger.leaves_ready (.inr ⟨_, rfl⟩)

/-- An entry without faults creates one exporter, whatever becomes
    of its processor. -/
theorem EntryOutcome.countP_isCreate {host : Host} {n : Nat} {c : ProcessorConfig}
    {r : Except Failure Processor} {es : List Event} (h : EntryOutcome host n c r es)
    (hc : c.faults host = []) : es.countP Event.isCreate = 1 := by
  cases h with
  | ready hk he hp hf hx hw =>
    rcases hw with rfl | ⟨a, rfl⟩
    · rfl
    · rfl
  | faulty hf | refused hf | escaped hf => exact absurd hc hf
  | exceeded he hf hx => rfl

/-- An entry has a processor only without faults, and then around
    the exporter that took the next number. -/
theorem EntryOutcome.ok {host : Host} {n : Nat} {c : ProcessorConfig} {p : Processor}
    {es : List Event} (h : EntryOutcome host n c (.ok p) es) :
    c.faults host = [] ∧ p.exporter.id = n := by
  cases h with
  | ready hk he hp hf hx hw => exact ⟨hf, rfl⟩

/-- A pipeline failure of an entry is due to its faults: a batching
    processor that cannot hold its limits fails with a foreign
    exception. -/
theorem EntryOutcome.faults_of_own {host : Host} {n : Nat} {c : ProcessorConfig} {f : Failure}
    {es : List Event} (h : EntryOutcome host n c (.error f) es) (hown : f.isOwn = true) :
    c.faults host ≠ [] := by
  cases h with
  | faulty hf | refused hf | escaped hf => exact hf
  | exceeded he hf hx => cases hown

/-! ## §2. The invariant of the loop. -/

/-- The entries came to processors, failures and events, when `n` was
    the next number before. -/
inductive Processed (host : Host) :
    Nat → List ProcessorConfig → List Processor → List Failure → List Event → Prop where
  | nil (n : Nat) : Processed host n [] [] [] []
  | ready {n : Nat} {c : ProcessorConfig} {cs : List ProcessorConfig} {p : Processor}
      {ps : List Processor} {fs : List Failure} {es ds : List Event}
      (h : EntryOutcome host n c (.ok p) es)
      (rest : Processed host (n + es.countP Event.isCreate) cs ps fs ds) :
      Processed host n (c :: cs) (p :: ps) fs (es ++ ds)
  | failed {n : Nat} {c : ProcessorConfig} {cs : List ProcessorConfig} {f : Failure}
      {ps : List Processor} {fs : List Failure} {es ds : List Event}
      (h : EntryOutcome host n c (.error f) es) (hown : f.isOwn = true)
      (rest : Processed host (n + es.countP Event.isCreate) cs ps fs ds) :
      Processed host n (c :: cs) ps (f :: fs) (es ++ ds)

namespace Processed

variable {host : Host} {n : Nat} {cs : List ProcessorConfig} {ps : List Processor}
  {fs : List Failure} {es : List Event}

/-- The exporters of the processors were created meanwhile. -/
theorem bounds (h : Processed host n cs ps fs es) :
    ∀ p ∈ ps, n ≤ p.exporter.id ∧ p.exporter.id < n + es.countP Event.isCreate := by
  induction h with
  | nil n =>
    intro p hp
    cases hp
  | @ready n c cs p ps fs es ds h rest ih =>
    obtain ⟨hc, hid⟩ := h.ok
    have hone := h.countP_isCreate hc
    intro q hq
    rw [List.countP_append]
    rcases List.mem_cons.mp hq with rfl | hq
    · omega
    · have := ih q hq
      omega
  | failed h hown rest ih =>
    intro q hq
    have := ih q hq
    rw [List.countP_append]
    omega

/-- What is left running are the exporters of the processors. -/
theorem leaves (h : Processed host n cs ps fs es) :
    Ledger.Leaves n es (ps.map fun p => p.exporter.id) := by
  induction h with
  | nil n => exact .nil n
  | @ready n c cs p ps fs es ds h rest ih =>
    obtain ⟨hc, hid⟩ := h.ok
    have hone := h.countP_isCreate hc
    have hleft : Ledger.Leaves n es [p.exporter.id] := by simpa [hc, hid] using h.leaves
    refine hleft.append ?_ ih
    intro id hmem
    rw [List.mem_singleton.mp hmem]
    omega
  | @failed n c cs f ps fs es ds h hown rest ih =>
    have hleft : Ledger.Leaves n es [] := by simpa [h.faults_of_own hown] using h.leaves
    exact hleft.append (by simp) ih

/-- There are failures exactly when there are faults. -/
theorem failures_eq_nil_iff (h : Processed host n cs ps fs es) :
    fs = [] ↔ ∀ c ∈ cs, c.faults host = [] := by
  induction h with
  | nil n => simp
  | ready h rest ih => simp [ih, h.ok.1]
  | failed h hown rest ih => simp [h.faults_of_own hown]

/-- Nothing is left running exactly when every entry is at fault. -/
theorem processors_eq_nil_iff (h : Processed host n cs ps fs es) :
    ps = [] ↔ ∀ c ∈ cs, c.faults host ≠ [] := by
  induction h with
  | nil n => simp
  | ready h rest ih => simp [h.ok.1]
  | failed h hown rest ih => simp [ih, h.faults_of_own hown]

end Processed

/-! ## §3. Running over the entries. -/

namespace Pipeline

theorem calm_resolvedRecord (index : Nat) (p : Processor) : Calm [resolvedRecord index p] := by
  intro l hl
  rw [List.mem_singleton.mp hl]
  simp [LogRecord.isFallback, resolvedRecord]

/-- One step of the loop, after which an entry has its processor. -/
theorem run_resolveEntries_of_ok {host : Host} {c : ProcessorConfig} {p : Processor}
    {j j₁ : Journal} (h : (Processor.resolve host c).run j = (.ok p, j₁)) (index : Nat)
    (errors : Aggregator) (cs : List ProcessorConfig) :
    (resolveEntries host index errors (c :: cs)).run j =
      (do
        let (ps, errors) ← resolveEntries host (index + 1) errors cs
        return (p :: ps, errors)).run (j₁.extend [] [resolvedRecord index p]) := by
  simp [resolveEntries, resolveEntry, Act.run_bind, h, Aggregator.capture, Journal.addRecords_eq]

/-- One step of the loop, in which a failure is recorded. -/
theorem run_resolveEntries_of_own {host : Host} {c : ProcessorConfig} {f : Failure}
    {j j₁ : Journal} (h : (Processor.resolve host c).run j = (.error f, j₁))
    (hown : f.isOwn = true) (index : Nat) (errors : Aggregator) (cs : List ProcessorConfig) :
    (resolveEntries host index errors (c :: cs)).run j =
      (resolveEntries host (index + 1) (errors.add (some f)) cs).run j₁ := by
  rcases hr : (resolveEntries host (index + 1) (errors.add (some f)) cs).run j₁ with ⟨r, j₂⟩
  cases r with
  | ok q => simp [resolveEntries, resolveEntry, Act.run_bind, h, Aggregator.capture, hown, hr]
  | error g => simp [resolveEntries, resolveEntry, Act.run_bind, h, Aggregator.capture, hown, hr]

/-- A foreign failure leaves the loop. -/
theorem run_resolveEntries_of_foreign {host : Host} {c : ProcessorConfig} {f : Failure}
    {j j₁ : Journal} (h : (Processor.resolve host c).run j = (.error f, j₁))
    (hown : f.isOwn = false) (index : Nat) (errors : Aggregator) (cs : List ProcessorConfig) :
    (resolveEntries host index errors (c :: cs)).run j = (.error f, j₁) := by
  simp [resolveEntries, resolveEntry, Act.run_bind, h, Aggregator.capture, hown]

/-- A run over the entries that ends well has processed them all. -/
theorem resolveEntries_ok {host : Host} {cs : List ProcessorConfig} {index : Nat}
    {errors errors' : Aggregator} {j j' : Journal} {ps : List Processor}
    (h : (resolveEntries host index errors cs).run j = (.ok (ps, errors'), j')) :
    ∃ fs es rs, errors'.failures = errors.failures ++ fs ∧ j' = j.extend es rs ∧
      Processed host j.created cs ps fs es ∧ Calm rs := by
  -- the aggregator grows along the way, and the numbers go on with the journal
  induction cs generalizing index errors j ps with
  | nil =>
    obtain ⟨⟨rfl, rfl⟩, rfl⟩ : (ps = [] ∧ errors' = errors) ∧ j' = j := by
      simpa [resolveEntries, eq_comm] using h
    exact ⟨[], [], [], by simp, by simp, .nil _, .nil⟩
  | cons c cs ih =>
    obtain ⟨r, es, rs, hrun, ho, hq⟩ := Processor.run_resolve host c j
    cases r with
    | ok p =>
      rw [run_resolveEntries_of_ok hrun, Act.run_bind, Journal.extend_extend] at h
      rcases hrest : (resolveEntries host (index + 1) errors cs).run
        (j.extend (es ++ []) (rs ++ [resolvedRecord index p])) with ⟨q, j₂⟩
      rw [hrest] at h
      cases q with
      | error f => cases h
      | ok q =>
        obtain ⟨⟨rfl, rfl⟩, rfl⟩ : (ps = p :: q.1 ∧ errors' = q.2) ∧ j' = j₂ := by
          simpa [eq_comm] using h
        obtain ⟨fs, ds, ss, hfs, rfl, hproc, hcalm⟩ := ih hrest
        rw [List.append_nil, Journal.created_extend] at hproc
        refine ⟨fs, es ++ ds, rs ++ [resolvedRecord index p] ++ ss, hfs, by simp, ?_, ?_⟩
        · exact .ready ho hproc
        · exact (hq.append (calm_resolvedRecord index p)).append hcalm
    | error f =>
      cases hown : f.isOwn with
      | true =>
        rw [run_resolveEntries_of_own hrun hown] at h
        obtain ⟨fs, ds, ss, hfs, rfl, hproc, hcalm⟩ := ih h
        rw [Journal.created_extend] at hproc
        refine ⟨f :: fs, es ++ ds, rs ++ ss, ?_, by simp, ?_, hq.append hcalm⟩
        · rw [hfs, Aggregator.failures_add, List.append_assoc]
          rfl
        · exact .failed ho hown hproc
      | false =>
        rw [run_resolveEntries_of_foreign hrun hown] at h
        cases h

/-- **A run over the entries that fails is left at one of them**: the
    entries before it have been processed, and it ends with a foreign
    failure. -/
theorem resolveEntries_error {host : Host} {cs : List ProcessorConfig} {index : Nat}
    {errors : Aggregator} {j j' : Journal} {f : Failure}
    (h : (resolveEntries host index errors cs).run j = (.error f, j')) :
    ∃ before c after ps errors' j₁, cs = before ++ c :: after ∧
      (resolveEntries host index errors before).run j = (.ok (ps, errors'), j₁) ∧
      (Processor.resolve host c).run j₁ = (.error f, j') ∧ f.isOwn = false := by
  induction cs generalizing index errors j with
  | nil => cases h
  | cons c cs ih =>
    obtain ⟨r, es, rs, hrun, -, -⟩ := Processor.run_resolve host c j
    cases r with
    | ok p =>
      rw [run_resolveEntries_of_ok hrun, Act.run_bind] at h
      rcases hrest : (resolveEntries host (index + 1) errors cs).run
        ((j.extend es rs).extend [] [resolvedRecord index p]) with ⟨q, j₂⟩
      rw [hrest] at h
      cases q with
      | ok q => cases h
      | error g =>
        obtain ⟨rfl, rfl⟩ : f = g ∧ j' = j₂ := by simpa [eq_comm] using h
        obtain ⟨before, d, after, ps, errors', j₁, rfl, hbefore, hd, hf⟩ := ih hrest
        refine ⟨c :: before, d, after, p :: ps, errors', j₁, rfl, ?_, hd, hf⟩
        rw [run_resolveEntries_of_ok hrun, Act.run_bind, hbefore]
        rfl
    | error g =>
      cases hown : g.isOwn with
      | true =>
        rw [run_resolveEntries_of_own hrun hown] at h
        obtain ⟨before, d, after, ps, errors', j₁, rfl, hbefore, hd, hf⟩ := ih h
        refine ⟨c :: before, d, after, ps, errors', j₁, rfl, ?_, hd, hf⟩
        rw [run_resolveEntries_of_own hrun hown, hbefore]
      | false =>
        rw [run_resolveEntries_of_foreign hrun hown] at h
        obtain ⟨rfl, rfl⟩ : f = g ∧ j' = j.extend es rs := by simpa [eq_comm] using h
        exact ⟨[], c, cs, [], errors, j, rfl, rfl, hrun, hown⟩

/-! ## §4. The clean-up. -/

/-- The shutdown of a processor without pending spans. -/
def shutdownEvent (p : Processor) : Event := .shutdown p.exporter.id

theorem events_closing (host : Host) (ps : List Processor) :
    (ps.map fun p => p.closing host []).flatMap Closing.events = ps.map shutdownEvent := by
  induction ps with
  | nil => rfl
  | cons p ps ih =>
    rw [List.map_cons, List.flatMap_cons, ih]
    rfl

theorem calm_closing (cs : List Closing) : Calm (cs.flatMap Closing.records) := by
  intro l hl
  obtain ⟨c, -, hc⟩ := List.mem_flatMap.mp hl
  cases hf : c.failure with
  | none => simp [Closing.records, hf] at hc
  | some f =>
    rw [Closing.records, hf, List.mem_singleton] at hc
    simp [hc, LogRecord.isFallback, Closing.failureRecord]

/-- The failure of a pipeline: what was recorded, then what the
    clean-up ended with. -/
def combined (host : Host) (fs : List Failure) (ps : List Processor) : Failure :=
  .aggregate (fs ++ ps.filterMap (Processor.refusal host))

theorem run_tearDown (host : Host) (errors : Aggregator) (ps : List Processor) (j : Journal) :
    ∃ f rs, f = combined host errors.failures ps ∧ Calm rs ∧
      (tearDown host errors ps).run j =
        (.ok (.failed f), j.extend (ps.map shutdownEvent) (rs ++ [failedRecord f])) := by
  refine ⟨_, (ps.map fun p => p.closing host []).flatMap Closing.records, rfl, calm_closing _, ?_⟩
  have hfail : (ps.map fun p => p.closing host []).filterMap Closing.failure
      = ps.filterMap (Processor.refusal host) := by
    rw [List.filterMap_map]
    rfl
  rw [tearDown, Act.run_bind, Closing.run_closeAll, events_closing, hfail]
  simp [Act.run_bind, Journal.addRecords_eq, combined]

/-! ## §5. The whole pipeline. -/

/-- What resolving a pipeline comes to when it returns: its result,
    the events and what is logged. -/
inductive Outcome (host : Host) (n : Nat) :
    List ProcessorConfig → Resolution → List Event → List LogRecord → Prop where
  | inactive : Outcome host n [] .inactive [] [inactiveRecord]
  | live {cs : List ProcessorConfig} {ps : List Processor} {es : List Event}
      {rs : List LogRecord} (hcs : cs ≠ []) (h : Processed host n cs ps [] es) (hr : Calm rs) :
      Outcome host n cs (.live ps) es (rs ++ [liveRecord ps])
  | failed {cs : List ProcessorConfig} {ps : List Processor} {fs : List Failure}
      {es : List Event} {rs : List LogRecord} (hf : fs ≠ []) (h : Processed host n cs ps fs es)
      (hr : Calm rs) :
      Outcome host n cs (.failed (combined host fs ps)) (es ++ ps.map shutdownEvent)
        (rs ++ [failedRecord (combined host fs ps)])

theorem run_resolve_of_ne_nil {host : Host} {config : Option PipelineConfig}
    (hne : entries config ≠ []) (j : Journal) :
    (resolve host config).run j =
      (do
        let (processors, errors) ← resolveEntries host 0 .empty (entries config)
        if errors.nonempty then tearDown host errors processors
        else
          Act.log [liveRecord processors]
          return .live processors).run j := by
  unfold resolve
  split
  · next h => exact absurd h hne
  · rfl

theorem run_resolve_of_nil {host : Host} {config : Option PipelineConfig}
    (hnil : entries config = []) (j : Journal) :
    (resolve host config).run j = (.ok .inactive, j.extend [] [inactiveRecord]) := by
  simp [resolve, hnil, Act.run_bind, Journal.addRecords_eq]

/-- **A resolution that returns has one of its outcomes.** -/
theorem resolve_ok {host : Host} {config : Option PipelineConfig} {j j' : Journal}
    {r : Resolution} (h : (resolve host config).run j = (.ok r, j')) :
    ∃ es rs, j' = j.extend es rs ∧ Outcome host j.created (entries config) r es rs := by
  by_cases hne : entries config = []
  · rw [run_resolve_of_nil hne] at h
    cases h
    rw [hne]
    exact ⟨[], _, rfl, .inactive⟩
  · rw [run_resolve_of_ne_nil hne, Act.run_bind] at h
    rcases hrun : (resolveEntries host 0 .empty (entries config)).run j with ⟨q, j₁⟩
    rw [hrun] at h
    cases q with
    | error f => cases h
    | ok q =>
      obtain ⟨ps, errors⟩ := q
      obtain ⟨fs, es, rs, hfs, rfl, hproc, hcalm⟩ := resolveEntries_ok hrun
      rw [Aggregator.failures_empty, List.nil_append] at hfs
      by_cases hf : fs = []
      · subst hf
        have hnone : errors.nonempty = false := by simp [Aggregator.nonempty, hfs]
        simp [hnone, Act.run_bind, Journal.addRecords_eq] at h
        obtain ⟨rfl, rfl⟩ := h
        exact ⟨es, rs ++ [liveRecord ps], rfl, .live hne hproc hcalm⟩
      · have hsome : errors.nonempty = true := by simp [Aggregator.nonempty, hfs, hf]
        obtain ⟨f, ss, rfl, hcalm', hdown⟩ := run_tearDown host errors ps (j.extend es rs)
        simp only [hsome, if_true, hdown, Journal.extend_extend] at h
        cases h
        rw [hfs]
        refine ⟨_, _, rfl, ?_⟩
        rw [← List.append_assoc]
        exact .failed hf hproc (hcalm.append hcalm')

/-- **A resolution that fails is left at an entry**: nothing is done
    after the failure of that entry, which is a foreign one. -/
theorem resolve_error {host : Host} {config : Option PipelineConfig} {j j' : Journal}
    {f : Failure} (h : (resolve host config).run j = (.error f, j')) :
    ∃ before c after ps errors j₁, entries config = before ++ c :: after ∧
      (resolveEntries host 0 .empty before).run j = (.ok (ps, errors), j₁) ∧
      (Processor.resolve host c).run j₁ = (.error f, j') ∧ f.isOwn = false := by
  by_cases hne : entries config = []
  · rw [run_resolve_of_nil hne] at h
    cases h
  · rw [run_resolve_of_ne_nil hne, Act.run_bind] at h
    rcases hrun : (resolveEntries host 0 .empty (entries config)).run j with ⟨q, j₁⟩
    rw [hrun] at h
    cases q with
    | error g =>
      cases h
      exact resolveEntries_error hrun
    | ok q =>
      -- once the entries are processed, the rest of the resolution returns
      obtain ⟨ps, errors⟩ := q
      by_cases hsome : errors.nonempty = true
      · obtain ⟨g, ss, -, -, hdown⟩ := run_tearDown host errors ps j₁
        simp only [hsome, if_true, hdown] at h
        cases h
      · simp [hsome, Act.run_bind] at h

end Pipeline

/-! ## §6. A sample: an entry with faults between two without. -/

namespace Sample

/-- No files, no variables; the shutdown of exporter 3 fails. -/
def host : Host where
  files := default
  env := fun _ => none
  refusal := fun id => if id = 3 then some (.foreign (.runtime "connection lost")) else none

/-- The exporter to the console. -/
def console : ExporterConfig := ⟨true, none⟩

/-- A batch with a batch size. -/
def batch (size : Option Int) : BatchConfig := ⟨size, none, none, none, console⟩

/-- The middle entry has both kinds and a negative number. -/
def pipeline : PipelineConfig :=
  ⟨[⟨some console, none⟩, ⟨some console, some (batch (some (-1)))⟩, ⟨none, some (batch none)⟩]⟩

theorem resolve_failed :
    ∃ f j', (Pipeline.resolve host (some pipeline)).run {} = (.ok (.failed f), j') :=
  ⟨_, _, rfl⟩

/-- One processor of each kind, and no faults. -/
def bothKinds : PipelineConfig := ⟨[⟨some console, none⟩, ⟨none, some (batch none)⟩]⟩

end Sample

end SpanPipeline
