/-
  SpanPipeline.Delivery
  ─────────────────────
  Spans on their way through a live pipeline.

  A simple processor hands each span over as it ends.  A batching
  one keeps the spans and hands them over when it is shut down; its
  queue is taken to be long enough.  What becomes of a span that ends
  after the shutdown is up to the library of the processors: it is
  ignored, or handed over all the same.

  Main results:
    * `take_of_closed` — nothing reaches an exporter through a
      closed processor that ignores late spans.
    * `closed_shutdown` — after a shutdown every processor is
      closed.
-/
import SpanPipeline.Pipeline

namespace SpanPipeline

/-! ## §1. Running processors. -/

/-- A processor at work. -/
structure Runner where
  processor : Processor
  /-- Spans that wait to be handed over. -/
  pending : List Span := []
  closed : Bool := false

namespace Runner

/-- What a processor that was shut down does when a span ends. -/
def takeLate (host : Host) (s : Span) (r : Runner) : List Event :=
  if host.libraries.ignoresLate r.processor.kind then []
  else [.handOver r.processor.exporter.id [s]]

/-- The processor after a span ended, and what it does. -/
def take (host : Host) (s : Span) (r : Runner) : Runner × List Event :=
  if r.closed then (r, r.takeLate host s)
  else match r.processor.kind with
    | .simple => (r, [.handOver r.processor.exporter.id [s]])
    | .batch => ({ r with pending := r.pending ++ [s] }, [])

/-- The processor after its shutdown. -/
def close (r : Runner) : Runner := { r with pending := [], closed := true }

/-- The shutdown of the processor. -/
def closing (host : Host) (r : Runner) : Closing := r.processor.closing host r.pending

theorem take_of_closed {host : Host} {r : Runner} (h : r.closed = true)
    (hignores : host.libraries.ignoresLate r.processor.kind = true) (s : Span) :
    r.take host s = (r, []) := by
  simp [take, takeLate, h, hignores]

end Runner

/-! ## §2. Providers. -/

/-- A provider of tracers with its processors. -/
structure Provider where
  runners : List Runner
  /-- The pipeline was shut down. -/
  stopped : Bool := false

namespace Provider

/-- A provider at its start. -/
def ofProcessors (ps : List Processor) : Provider :=
  { runners := ps.map fun p => { processor := p } }

/-- The provider after a span ended, and what its processors do,
    one after the other. -/
def take (host : Host) (s : Span) (p : Provider) : Provider × List Event :=
  ({ p with runners := p.runners.map fun r => (r.take host s).1 },
    p.runners.flatMap fun r => (r.take host s).2)

/-- Shut the pipeline down: the provider afterwards, and what
    happens. -/
def shutdown (host : Host) (p : Provider) : Provider × Act Unit :=
  let (s, act) := Shutdown.call { closings := p.runners.map (·.closing host), done := p.stopped }
  ({ runners := if p.stopped then p.runners else p.runners.map Runner.close, stopped := s.done },
    act)

theorem closed_shutdown {host : Host} {p : Provider} (h : p.stopped = false) :
    ∀ r ∈ (p.shutdown host).1.runners, r.closed = true := by
  intro r hr
  simp only [shutdown, h, Bool.false_eq_true, ↓reduceIte, List.mem_map] at hr
  obtain ⟨q, _, rfl⟩ := hr
  rfl

end Provider

end SpanPipeline
