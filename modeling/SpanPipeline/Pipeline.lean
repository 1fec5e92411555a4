/-
  SpanPipeline.Pipeline
  ─────────────────────
  From the configuration of a pipeline to its processors, and the
  shutdown of processors.

  All entries of a configuration are resolved, so that the failures
  of all of them are reported together.  When one fails, the
  processors of the others are shut down again.  Shutting down goes
  on after a failure, too.

  Main results:
    * `run_closeAll` — everything is shut down in order, once, and
      what is recorded are the failures, in order.
    * `Shutdown.call_of_done` — later calls of a shutdown do nothing.
-/
import SpanPipeline.Processor

namespace SpanPipeline

/-! ## §1. Shutting down. -/

/-- Something to shut down: its class, what happens while it is
    shut down, and the failure it ends with. -/
structure Closing where
  className : String
  events : List Event
  failure : Option Failure

namespace Closing

/-- What is logged when the shutdown of a processor of some class
    fails. -/
def failureRecord (className : String) (f : Failure) : LogRecord :=
  { level := .warning, source := .pipeline, message := "Span processor failed to shut down"
    extra := [("processor", .text className)], error := some (.text f.text) }

/-- What is logged about a shutdown. -/
def records (c : Closing) : List LogRecord :=
  match c.failure with
  | none => []
  | some f => [failureRecord c.className f]

/-- The shutdown itself. -/
def perform (c : Closing) : Act Unit := do
  Act.events c.events
  match c.failure with
  | none => return ()
  | some f => Act.fail f

/-- Shut everything down, in order, and go on after a failure, which
    is logged and recorded. -/
def closeFrom (errors : Aggregator) : List Closing → Act Aggregator
  | [] => return errors
  | c :: cs => do
    match ← c.perform.outcome with
    | .ok _ => closeFrom errors cs
    | .error f => do
      Act.log [failureRecord c.className f]
      closeFrom (errors.add (some f)) cs

/-- Shut everything down, in order, and collect the failures. -/
def closeAll (cs : List Closing) : Act Aggregator := closeFrom .empty cs

theorem run_perform (c : Closing) (j : Journal) :
    c.perform.run j =
      (match c.failure with | none => .ok () | some f => .error f, j.extend c.events []) := by
  cases h : c.failure <;> simp [perform, Act.run_bind, h, Journal.addEvents_eq]

theorem run_closeFrom (cs : List Closing) (errors : Aggregator) (j : Journal) :
    (closeFrom errors cs).run j =
      (.ok ⟨errors.failures ++ cs.filterMap failure⟩,
        j.extend (cs.flatMap events) (cs.flatMap records)) := by
  induction cs generalizing errors j with
  | nil => simp [closeFrom]
  | cons c cs ih =>
    cases h : c.failure with
    | none => simp [closeFrom, Act.run_bind, run_perform, h, ih, records]
    | some f => simp [closeFrom, Act.run_bind, run_perform, h, ih, records, Journal.addRecords_eq]

theorem run_closeAll (cs : List Closing) (j : Journal) :
    (closeAll cs).run j =
      (.ok ⟨cs.filterMap failure⟩, j.extend (cs.flatMap events) (cs.flatMap records)) := by
  simp [closeAll, run_closeFrom, Aggregator.empty]

/-- Shut everything down, then fail with the failures, if there
    are any. -/
def closeAndCheck (cs : List Closing) : Act Unit := do
  let errors ← closeAll cs
  Act.lift errors.check

end Closing

/-- The shutdown of a pipeline, which works once. -/
structure Shutdown where
  closings : List Closing
  done : Bool := false

/-- Call a shutdown: the shutdown afterwards, and what it does. -/
def Shutdown.call (s : Shutdown) : Shutdown × Act Unit :=
  if s.done then (s, pure ()) else ({ s with done := true }, Closing.closeAndCheck s.closings)

theorem Shutdown.done_call (s : Shutdown) : s.call.1.done = true := by
  unfold call
  split
  · assumption
  · rfl

theorem Shutdown.call_of_done {s : Shutdown} (h : s.done = true) : s.call = (s, pure ()) := by
  simp [call, h]

namespace Processor

/-- The failure with which a processor's exporter refuses to shut
    down. -/
def refusal (host : Host) (p : Processor) : Option Failure := host.refusal p.exporter.id

/-- The shutdown of a processor that hands over the given spans
    before. -/
def closing (host : Host) (p : Processor) (pending : List Span) : Closing where
  className := p.className
  events := (if pending.isEmpty then [] else [.handOver p.exporter.id pending])
    ++ [.shutdown p.exporter.id]
  failure := p.refusal host

end Processor

/-! ## §2. Resolving a pipeline. -/

/-- The result of resolving a pipeline: the processors of a live
    provider, or no processors and possibly the reason. -/
inductive Resolution where
  /-- Nothing is configured. -/
  | inactive
  /-- The configuration is at fault; nothing was left running. -/
  | failed (failure : Failure)
  /-- Every entry has its processor. -/
  | live (processors : List Processor)

namespace Resolution

/-- The failure that is reported. -/
def failure? : Resolution → Option Failure
  | .failed f => some f
  | _ => none

/-- The processors of the provider, unless it is the one that does
    nothing. -/
def provider? : Resolution → Option (List Processor)
  | .live ps => some ps
  | _ => none

/-- The shutdown, unless it is the one that does nothing. -/
def shutdown? (host : Host) (r : Resolution) : Option Shutdown :=
  r.provider?.map fun ps => { closings := ps.map fun p => p.closing host [] }

end Resolution

namespace Pipeline

/-- The entries of a configuration. -/
def entries (config : Option PipelineConfig) : List ProcessorConfig :=
  (config.map PipelineConfig.processors).getD []

/-- What is logged when nothing is configured. -/
def inactiveRecord : LogRecord :=
  { level := .debug, source := .pipeline
    message := "No span processors configured, using no-op provider" }

/-- What is logged when an entry is resolved. -/
def resolvedRecord (index : Nat) (p : Processor) : LogRecord :=
  { level := .debug, source := .pipeline, message := "Resolved span processor"
    extra := [("index", .int index), ("processor", .text p.className)] }

/-- What is logged when a configuration is at fault. -/
def failedRecord (failure : Failure) : LogRecord :=
  { level := .warning, source := .pipeline
    message := "Tracer provider configuration is invalid, using no-op provider"
    extra := [("errors", .list (failure.messages.map .text))] }

/-- What is logged when every entry is resolved. -/
def liveRecord (processors : List Processor) : LogRecord :=
  { level := .info, source := .pipeline, message := "Tracer provider created"
    extra := [("processor_count", .int processors.length)] }

/-- Resolve an entry, which stands at a position. -/
def resolveEntry (host : Host) (index : Nat) (c : ProcessorConfig) : Act Processor := do
  let p ← Processor.resolve host c
  Act.log [resolvedRecord index p]
  return p

/-- Resolve all entries from a position on: their processors, and
    the failures of those that have none. -/
def resolveEntries (host : Host) (index : Nat) (errors : Aggregator) :
    List ProcessorConfig → Act (List Processor × Aggregator)
  | [] => return ([], errors)
  | c :: cs => do
    let r ← (resolveEntry host index c).outcome
    let (p, errors) ← Act.lift (errors.capture r)
    let (ps, errors) ← resolveEntries host (index + 1) errors cs
    return (p.toList ++ ps, errors)

/-- Shut down the processors of the entries beside those that
    failed, and fail with everything recorded. -/
def tearDown (host : Host) (errors : Aggregator) (processors : List Processor) :
    Act Resolution := do
  let closed ← Closing.closeAll (processors.map fun p => p.closing host [])
  let failure := Failure.aggregate (errors.failures ++ closed.failures)
  Act.log [failedRecord failure]
  return .failed failure

/-- Resolve a pipeline. -/
def resolve (host : Host) (config : Option PipelineConfig) : Act Resolution :=
  match entries config with
  | [] => do
    Act.log [inactiveRecord]
    return .inactive
  | cs => do
    let (processors, errors) ← resolveEntries host 0 .empty cs
    if errors.nonempty then tearDown host errors processors
    else
      Act.log [liveRecord processors]
      return .live processors

end Pipeline

end SpanPipeline
