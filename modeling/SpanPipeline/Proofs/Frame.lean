/-
  SpanPipeline.Proofs.Frame
  ─────────────────────────
  What building a pipeline does not do.

  Between the activities that build a pipeline and those that use it
  there is a clear line.  Building creates exporters and processors
  and may shut some of them down.  It hands no spans over, and it
  does not speak for the main program.  That holds for activities
  that are put together from others when it holds for these, so each
  function is followed once.

  Main results:
    * `Within.bind`, `Within.outcome` — activities put together.
    * `Pipeline.prepares_resolve` — resolving a pipeline stays
      within its part.
-/
import SpanPipeline.Proofs.Plan
import SpanPipeline.Pipeline

namespace SpanPipeline

theorem Journal.extend_inj {j : Journal} {es fs : List Event} {rs ss : List LogRecord}
    (h : j.extend es rs = j.extend fs ss) : es = fs ∧ rs = ss := by
  rw [extend, extend, Journal.mk.injEq] at h
  exact ⟨List.append_cancel_left h.1, List.append_cancel_left h.2⟩

/-! ## §1. Activities within bounds. -/

/-- What an activity does and what it logs have the given
    properties. -/
def Act.Within (events : Event → Prop) (records : LogRecord → Prop) (a : Act α) : Prop :=
  ∀ j, ∃ es rs, (a.run j).2 = j.extend es rs ∧ (∀ e ∈ es, events e) ∧ ∀ l ∈ rs, records l

namespace Act.Within

variable {P : Event → Prop} {Q : LogRecord → Prop} {α β : Type} {a : Act α} {f : α → Act β}

/-- An activity that leaves the journal as it is. -/
theorem of_still (h : ∀ j, (a.run j).2 = j) : a.Within P Q := by
  intro j
  exact ⟨[], [], by rw [h, Journal.extend_nil], by simp, by simp⟩

protected theorem pure (x : α) : Within P Q (Pure.pure x : Act α) := of_still fun _ => rfl

protected theorem fail (g : Failure) : Within P Q (Act.fail g : Act α) := of_still fun _ => rfl

protected theorem lift (r : Except Failure α) : Within P Q (Act.lift r) := of_still fun _ => rfl

protected theorem events {es : List Event} (h : ∀ e ∈ es, P e) : Within P Q (Act.events es) := by
  intro j
  exact ⟨es, [], by rw [Act.run_events, Journal.addEvents_eq], h, by simp⟩

protected theorem event {e : Event} (h : P e) : Within P Q (Act.event e) := by
  intro j
  exact ⟨[e], [], by rw [Act.run_event, Journal.addEvent_eq], by simpa using h, by simp⟩

protected theorem log {rs : List LogRecord} (h : ∀ l ∈ rs, Q l) : Within P Q (Act.log rs) := by
  intro j
  exact ⟨[], rs, by rw [Act.run_log, Journal.addRecords_eq], by simp, h⟩

protected theorem outcome (ha : a.Within P Q) : a.outcome.Within P Q := ha

/-- An activity and what follows it. -/
protected theorem bind (ha : a.Within P Q) (hf : ∀ x, (f x).Within P Q) :
    (a >>= f).Within P Q := by
  intro j
  obtain ⟨es, rs, hrun, hes, hrs⟩ := ha j
  rw [Act.run_bind]
  rcases hq : a.run j with ⟨q, j₁⟩
  rw [hq] at hrun
  cases q with
  | error g => exact ⟨es, rs, hrun, hes, hrs⟩
  | ok x =>
    obtain ⟨ds, ss, hrun', hds, hss⟩ := hf x j₁
    refine ⟨es ++ ds, rs ++ ss, ?_, ?_, ?_⟩
    · obtain rfl : j₁ = j.extend es rs := hrun
      simp only [hrun', Journal.extend_extend]
    · intro e he
      exact (List.mem_append.mp he).elim (hes e) (hds e)
    · intro l hl
      exact (List.mem_append.mp hl).elim (hrs l) (hss l)

end Act.Within

/-! ## §2. Building. -/

/-- The event hands spans over. -/
def Event.isHandOver : Event → Bool
  | .handOver _ _ => true
  | _ => false

/-- The activity hands nothing over, and the main program logs nothing
    in it. -/
def Act.Prepares (a : Act α) : Prop :=
  a.Within (fun e => e.isHandOver = false) fun l => l.source ≠ .main

theorem Exporter.prepares_resolve (host : Host) (e : ExporterConfig) :
    (resolve host e).Prepares := by
  intro j
  rw [run_resolve]
  cases h : plan host e with
  | error r =>
    refine ⟨[], r.records, rfl, by simp, ?_⟩
    intro l hl
    simp [(plan_error h).source l hl]
  | ok p =>
    refine ⟨[.create j.created p.1], p.2, rfl, by simp [Event.isHandOver], ?_⟩
    intro l hl
    simp [plan_ok h l hl]

theorem Exporter.prepares_shutdown (host : Host) (x : Exporter) : (x.shutdown host).Prepares := by
  refine .bind (.event rfl) fun _ => ?_
  cases host.refusal x.id with
  | none => exact .pure ()
  | some f => exact .fail f

namespace Processor

theorem prepares_build (host : Host) (errors : Aggregator) (e : ExporterConfig) :
    (build host errors e).Prepares :=
  .bind (.outcome (Exporter.prepares_resolve host e)) fun _ => .lift _

theorem prepares_discard (host : Host) (x : Option Exporter) : (discard host x).Prepares := by
  cases x with
  | none => exact .pure ()
  | some x => exact x.prepares_shutdown host

theorem prepares_tryOut (host : Host) (errors : Aggregator) (e : ExporterConfig) :
    (tryOut host errors e).Prepares :=
  .bind (prepares_build host errors e) fun _ => .bind (prepares_discard host _) fun _ => .pure _

theorem source_createdRecords (p : Processor) (a : List (String × Int)) :
    ∀ l ∈ p.createdRecords a, l.source ≠ .main := by
  simp [createdRecords]

theorem prepares_createSimple (host : Host) (errors : Aggregator) (e : ExporterConfig) :
    (createSimple host errors e).Prepares := by
  refine .bind (prepares_build host errors e) ?_
  rintro ⟨x, errors⟩
  cases x with
  | none => exact .pure _
  | some x =>
    exact .bind (.log (source_createdRecords _ _)) fun _ => .bind (.event rfl) fun _ => .pure _

theorem prepares_createBatchAround (host : Host) (errors : Aggregator) (b : BatchConfig)
    (x : Exporter) : (createBatchAround host errors b x).Prepares := by
  refine .bind (.event rfl) fun _ => ?_
  dsimp only
  split
  · exact .bind (x.prepares_shutdown host) fun _ => .pure _
  · exact .fail _
  · exact .bind (.log (source_createdRecords _ _)) fun _ => .pure _

theorem prepares_createBatch (host : Host) (errors : Aggregator) (b : BatchConfig) :
    (createBatch host errors b).Prepares := by
  refine .bind (prepares_build host _ b.exporter) ?_
  rintro ⟨x, errors⟩
  dsimp only
  split
  · exact prepares_createBatchAround host _ b _
  · exact .bind (prepares_discard host _) fun _ => .pure _

theorem prepares_conclude (r : Option Processor × Aggregator) : (conclude r).Prepares := by
  obtain ⟨p, errors⟩ := r
  cases p with
  | none => exact .fail _
  | some p => exact .bind (.lift _) fun _ => .pure p

theorem prepares_resolve (host : Host) (c : ProcessorConfig) : (resolve host c).Prepares := by
  obtain ⟨s, b⟩ := c
  cases s with
  | none =>
    cases b with
    | none => exact .fail _
    | some b => exact .bind (prepares_createBatch host .empty b) prepares_conclude
  | some s =>
    cases b with
    | none => exact .bind (prepares_createSimple host .empty s) prepares_conclude
    | some b =>
      -- both are tried out only to report their faults
      refine .bind ?_ fun _ => .fail _
      exact .bind (prepares_tryOut host _ s) fun _ => prepares_tryOut host _ b.exporter

end Processor

theorem Closing.prepares_closeFrom {cs : List Closing} (errors : Aggregator)
    (h : ∀ c ∈ cs, ∀ e ∈ c.events, e.isHandOver = false) : (closeFrom errors cs).Prepares := by
  induction cs generalizing errors with
  | nil => exact .pure errors
  | cons c cs ih =>
    have hperform : c.perform.Prepares := by
      refine .bind (.events (h c List.mem_cons_self)) fun _ => ?_
      cases c.failure with
      | none => exact .pure ()
      | some f => exact .fail f
    have hrest := fun errors => ih errors fun d hd => h d (List.mem_cons_of_mem c hd)
    refine .bind (.outcome hperform) fun r => ?_
    cases r with
    | ok _ => exact hrest errors
    | error f => exact .bind (.log (by simp [failureRecord])) fun _ => hrest _

namespace Pipeline

theorem prepares_resolveEntries (host : Host) (index : Nat) (errors : Aggregator)
    (cs : List ProcessorConfig) : (resolveEntries host index errors cs).Prepares := by
  induction cs generalizing index errors with
  | nil => exact .pure _
  | cons c cs ih =>
    have hentry : (resolveEntry host index c).Prepares := by
      refine .bind (Processor.prepares_resolve host c) fun p => ?_
      exact .bind (.log (by simp [resolvedRecord])) fun _ => .pure p
    refine .bind (.outcome hentry) fun r => .bind (.lift _) fun q => ?_
    exact .bind (ih _ _) fun _ => .pure _

theorem prepares_tearDown (host : Host) (errors : Aggregator) (ps : List Processor) :
    (tearDown host errors ps).Prepares := by
  refine .bind (Closing.prepares_closeFrom .empty ?_) fun _ => ?_
  · intro c hc e he
    obtain ⟨p, -, rfl⟩ := List.mem_map.mp hc
    obtain rfl : e = .shutdown p.exporter.id := List.mem_singleton.mp he
    rfl
  · exact .bind (.log (by simp [failedRecord])) fun _ => .pure _

/-- **Resolving a pipeline stays within its part.** -/
theorem prepares_resolve (host : Host) (config : Option PipelineConfig) :
    (resolve host config).Prepares := by
  unfold resolve
  split
  · exact .bind (.log (by simp [inactiveRecord])) fun _ => .pure _
  · refine .bind (prepares_resolveEntries host 0 .empty _) ?_
    rintro ⟨ps, errors⟩
    dsimp only
    split
    · exact prepares_tearDown host errors ps
    · exact .bind (.log (by simp [liveRecord])) fun _ => .pure _

end Pipeline

end SpanPipeline
