/-
  SpanPipeline.Proofs.Ownership
  ─────────────────────────────
  Who owns the exporters when the resolution of a pipeline returns.

  Each exporter that is created during a resolution ends up in one
  of two places.  When the pipeline is live, it belongs to the
  processor of the entry it was created for.  When the configuration
  is at fault, it has been shut down, whatever it was dropped for.

  Main results:
    * `Processed.live` — entries without failures have a processor
      each, around an exporter of their own.
    * `Processed.released` — with the clean-up, nothing that the
      entries created is running.
    * `resolve_ownership` — a resolution that returns leaves every
      exporter with its owner.
-/
import SpanPipeline.Proofs.Resolution

namespace SpanPipeline

/-- The processor is around the exporter of the given number, which
    was planned for the only exporter of the entry. -/
structure Wraps (host : Host) (c : ProcessorConfig) (p : Processor) (id : Nat)
    (spec : ExporterSpec) : Prop where
  kind : c.populated = [p.kind]
  plan : ∃ e records, c.exporters = [e] ∧ Exporter.plan host e = .ok (spec, records)
  exporter : p.exporter = ⟨id, spec.className⟩

/-- The creations among the events. -/
def creations (es : List Event) : List Event := es.filter Event.isCreate

/-- Each entry has a processor at its position, around an exporter of
    its own.  The exporters are numbered from `n` on. -/
structure Live (host : Host) (n : Nat) (cs : List ProcessorConfig) (ps : List Processor)
    (es : List Event) : Prop where
  processors : ps.length = cs.length
  creations : (creations es).length = cs.length
  running : ∀ id, .shutdown id ∉ es
  wraps : ∀ i c, cs[i]? = some c → ∃ p spec, ps[i]? = some p ∧
    (SpanPipeline.creations es)[i]? = some (.create (n + i) spec) ∧ Wraps host c p (n + i) spec

/-- **Who owns the exporters** that were created by the events of a
    resolution with the given result. -/
structure Ownership (host : Host) (n : Nat) (cs : List ProcessorConfig) (r : Resolution)
    (es : List Event) : Prop where
  /-- With a failure, nobody: each was shut down once, after its
      creation. -/
  failed : ∀ f, r.failure? = some f → r.provider? = none ∧ r.shutdown? host = none ∧
    ∀ id spec, .create id spec ∈ es → ShutOnce id es
  /-- Without one, the processors of the provider. -/
  live : r.failure? = none → cs ≠ [] → ∃ ps, r.provider? = some ps ∧ Live host n cs ps es
  /-- Without entries, there are none. -/
  inactive : cs = [] → creations es = []

namespace Processed

variable {host : Host} {n : Nat} {cs : List ProcessorConfig} {ps : List Processor}
  {fs : List Failure} {es : List Event}

/-- Entries without failures have their processors. -/
theorem live (h : Processed host n cs ps fs es) (hf : fs = []) : Live host n cs ps es := by
  induction h with
  | nil n =>
    refine ⟨rfl, rfl, ?_, ?_⟩
    · intro id hid
      cases hid
    · intro i c hc
      cases hc
  | @ready n c cs p ps fs es ds h rest ih =>
    obtain ⟨hc, -⟩ := h.ok
    have hone := h.countP_isCreate hc
    have hrest := ih hf
    rw [hone] at hrest
    cases h with
    | @ready k e spec rs w hk he hp hnone hx hw =>
      have hcreations : creations ([.create n spec, w] ++ ds)
          = .create n spec :: creations ds := by
        rcases hw with rfl | ⟨a, rfl⟩
        · rfl
        · rfl
      refine ⟨?_, ?_, ?_, ?_⟩
      · rw [List.length_cons, hrest.processors, List.length_cons]
      · rw [hcreations, List.length_cons, hrest.creations, List.length_cons]
      · intro id hid
        rcases List.mem_append.mp hid with hid | hid
        · rcases hw with rfl | ⟨a, rfl⟩
          · simp at hid
          · simp at hid
        · exact hrest.running id hid
      · intro i d hd
        cases i with
        | zero =>
          obtain rfl : c = d := by simpa using hd
          exact ⟨_, spec, rfl, by rw [hcreations]; rfl, hk, ⟨e, rs, he, hp⟩, rfl⟩
        | succ i =>
          obtain ⟨q, spec', hq, hcreate, hwraps⟩ := hrest.wraps i d (by simpa using hd)
          -- the tail is numbered from `n + 1` on
          rw [show n + 1 + i = n + (i + 1) by omega] at hcreate hwraps
          exact ⟨q, spec', by simpa using hq, by rw [hcreations]; simpa using hcreate, hwraps⟩
  | failed h hown rest ih => cases hf

/-- The clean-up leaves nothing running: it shuts down precisely what
    the entries left. -/
theorem leaves_shutdowns (h : Processed host n cs ps fs es) :
    Ledger.Leaves n (es ++ ps.map Pipeline.shutdownEvent) [] := by
  intro held hheld
  have hothers : ∀ id ∈ ps.map fun p => p.exporter.id, id ∉ held := by
    intro id hid hmem
    have hle := (h.leaves.bounds id hid).1
    have hlt := hheld id hmem
    omega
  have hcount : (es ++ ps.map Pipeline.shutdownEvent).countP Event.isCreate
      = es.countP Event.isCreate := by
    rw [List.countP_append, List.countP_map]
    simp [Function.comp_def, Pipeline.shutdownEvent, Event.isCreate]
  rw [Ledger.enterAll_append, h.leaves held hheld, Option.bind_some, hcount, List.append_nil,
    show ps.map Pipeline.shutdownEvent = (ps.map fun p => p.exporter.id).map .shutdown by
      rw [List.map_map]; rfl]
  exact Ledger.enterAll_shutdowns _ held _ hothers

/-- After the clean-up every exporter that was created was shut down
    once. -/
theorem released (h : Processed host n cs ps fs es) {id : Nat} {spec : ExporterSpec}
    (hc : .create id spec ∈ es ++ ps.map Pipeline.shutdownEvent) :
    ShutOnce id (es ++ ps.map Pipeline.shutdownEvent) :=
  Ledger.shutOnce_of_enterAll (h.leaves_shutdowns [] (by simp)) hc (by simp)

end Processed

namespace Pipeline

/-- A resolution that returns has a failure exactly when some entry is
    at fault. -/
theorem Outcome.failure?_eq_none_iff {host : Host} {n : Nat} {cs : List ProcessorConfig}
    {r : Resolution} {es : List Event} {rs : List LogRecord} (h : Outcome host n cs r es rs) :
    r.failure? = none ↔ ∀ c ∈ cs, c.faults host = [] := by
  cases h with
  | inactive => simp [Resolution.failure?]
  | live hcs hproc hcalm => exact iff_of_true rfl (hproc.failures_eq_nil_iff.mp rfl)
  | failed hf hproc hcalm =>
    exact iff_of_false (by simp [Resolution.failure?])
      fun hall => hf (hproc.failures_eq_nil_iff.mpr hall)

/-- With a failure it leaves nothing running. -/
theorem Outcome.leaves_of_failed {host : Host} {n : Nat} {cs : List ProcessorConfig}
    {r : Resolution} {f : Failure} {es : List Event} {rs : List LogRecord}
    (h : Outcome host n cs r es rs) (hf : r.failure? = some f) : Ledger.Leaves n es [] := by
  cases h with
  | inactive => cases hf
  | live => cases hf
  | failed hne hproc hcalm => exact hproc.leaves_shutdowns

/-- **A resolution that returns leaves every exporter with its
    owner**, for any entries, files and refusals to shut down. -/
theorem resolve_ownership {host : Host} {config : Option PipelineConfig} {j j' : Journal}
    {r : Resolution} (h : (resolve host config).run j = (.ok r, j')) :
    ∃ es, j'.events = j.events ++ es ∧ Ownership host j.created (entries config) r es := by
  obtain ⟨es, rs, rfl, ho⟩ := resolve_ok h
  refine ⟨es, rfl, ?_⟩
  generalize entries config = cs at ho
  cases ho with
  | inactive =>
    refine ⟨?_, ?_, ?_⟩
    · intro f hf
      cases hf
    · intro _ hne
      exact absurd rfl hne
    · intro _
      rfl
  | live hcs hproc hcalm =>
    refine ⟨?_, ?_, ?_⟩
    · intro f hf
      cases hf
    · intro _ _
      exact ⟨_, rfl, hproc.live rfl⟩
    · intro hnil
      exact absurd hnil hcs
  | failed hf hproc hcalm =>
    refine ⟨?_, ?_, ?_⟩
    · intro f _
      exact ⟨rfl, rfl, fun id spec hc => hproc.released hc⟩
    · intro hnone
      cases hnone
    · intro hnil
      subst hnil
      cases hproc
      exact absurd rfl hf

/-- In the sample the resolution returns with a failure. -/
theorem resolve_ownership_sample :
    ∃ r j' es, (resolve Sample.host (some Sample.pipeline)).run {} = (.ok r, j') ∧
      r.failure?.isSome = true ∧ j'.events = es ∧
      Ownership Sample.host 0 Sample.pipeline.processors r es := by
  obtain ⟨f, j', h⟩ := Sample.resolve_failed
  obtain ⟨es, hes, ho⟩ := resolve_ownership h
  exact ⟨.failed f, j', es, h, rfl, by simpa using hes, ho⟩

end Pipeline

end SpanPipeline
