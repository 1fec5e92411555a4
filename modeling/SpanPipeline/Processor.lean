/-
  SpanPipeline.Processor
  ──────────────────────
  From the configuration of a span processor to the processor.

  Precisely one of the two kinds must be chosen.  Every check that
  applies to a configuration is made, even after an earlier one
  failed, and all failures are reported together.  An exporter that
  was created for a processor which then fails is shut down again.
-/
import SpanPipeline.Exporter
import SpanPipeline.Processor.Batch

namespace SpanPipeline

/-- A processor that was created. -/
structure Processor where
  kind : ProcessorKind
  exporter : Exporter
  deriving DecidableEq, Repr

/-- The class of a processor of a kind, as log records name it. -/
def ProcessorKind.className : ProcessorKind → String
  | .simple => "SimpleSpanProcessor"
  | .batch => "BatchSpanProcessor"

namespace Processor

/-- The class of a processor. -/
def className (p : Processor) : String := p.kind.className

/-! ## §1. Exporters for processors. -/

/-- Create an exporter, or record why there is none. -/
def build (host : Host) (errors : Aggregator) (e : ExporterConfig) :
    Act (Option Exporter × Aggregator) := do
  let r ← (Exporter.resolve host e).outcome
  Act.lift (errors.capture r)

/-- Shut down an exporter that is not needed, if there is one. -/
def discard (host : Host) : Option Exporter → Act Unit
  | none => return ()
  | some e => e.shutdown host

/-- Create an exporter only to see whether that can be done, and
    shut it down again. -/
def tryOut (host : Host) (errors : Aggregator) (e : ExporterConfig) : Act Aggregator := do
  let (x, errors) ← build host errors e
  discard host x
  return errors

/-! ## §2. The two kinds. -/

/-- What is logged when a processor is created. -/
def createdRecords (p : Processor) (arguments : List (String × Int)) : List LogRecord :=
  [{ level := .debug, source := .processors
     message := "Created " ++ p.kind.name ++ " span processor"
     extra := ("exporter", .text p.exporter.className) :: arguments.map fun a => (a.1, .int a.2) }]

/-- Create a simple processor. -/
def createSimple (host : Host) (errors : Aggregator) (e : ExporterConfig) :
    Act (Option Processor × Aggregator) := do
  let (x, errors) ← build host errors e
  match x with
  | none => return (none, errors)
  | some x =>
    let p : Processor := ⟨.simple, x⟩
    Act.log (createdRecords p [])
    Act.event (.simple x.id)
    return (some p, errors)

/-- Create a batching processor around an exporter, which is shut
    down when the processor refuses its limits. -/
def createBatchAround (host : Host) (errors : Aggregator) (b : BatchConfig) (x : Exporter) :
    Act (Option Processor × Aggregator) := do
  Act.event (.batch x.id b.arguments)
  let limits := BatchLimits.effective host.env b
  match limits.refusal?, limits.excess? with
  | some r, _ =>
    x.shutdown host
    return (none, errors.add (some (.configuration r.message)))
  | none, some e => Act.fail (.foreign (.overflow e))
  | none, none =>
    let p : Processor := ⟨.batch, x⟩
    Act.log (createdRecords p b.arguments)
    return (some p, errors)

/-- Create a batching processor. -/
def createBatch (host : Host) (errors : Aggregator) (b : BatchConfig) :
    Act (Option Processor × Aggregator) := do
  let (x, errors) ← build host (errors.extend (b.negatives.map some)) b.exporter
  match x, errors.nonempty with
  | some x, false => createBatchAround host errors b x
  | x, _ =>
    discard host x
    return (none, errors)

/-! ## §3. The choice between them. -/

/-- Make every check on both kinds, without keeping anything. -/
def checkBoth (host : Host) (errors : Aggregator) (s : ExporterConfig) (b : BatchConfig) :
    Act Aggregator := do
  let errors ← tryOut host errors s
  tryOut host (errors.extend (b.negatives.map some)) b.exporter

/-- The failure of a choice of both kinds. -/
def multipleKinds : Failure := .configuration "must not specify multiple span processor type"

/-- The failure of a choice of no kind. -/
def noKind : Failure :=
  .configuration "unsupported span processor type, must be one of simple or batch"

/-- End with the processor, unless there is none or something was
    recorded. -/
def conclude (r : Option Processor × Aggregator) : Act Processor :=
  match r with
  | (some p, errors) => do
    Act.lift errors.check
    return p
  | (none, errors) => Act.fail (.aggregate errors.failures)

/-- Create the processor that a configuration describes. -/
def resolve (host : Host) (c : ProcessorConfig) : Act Processor := do
  match c.simple, c.batch with
  | some s, some b =>
    let errors ← checkBoth host (Aggregator.empty.add (some multipleKinds)) s b
    Act.fail (.aggregate errors.failures)
  | none, none => Act.fail (.aggregate [noKind])
  | some s, none => conclude (← createSimple host .empty s)
  | none, some b => conclude (← createBatch host .empty b)

end Processor

end SpanPipeline
