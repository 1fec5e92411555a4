/-
  SpanPipeline.Journal
  ────────────────────
  What happens while a pipeline is built and used.

  Exporters are numbered in the order in which they are created.
  The journal keeps, in order, what was done to them and what was
  logged.  An activity reads and extends the journal and ends with
  a value or with a failure; the journal stays extended either way.

  Main results:
    * `extend_extend`, `created_extend` — how a journal grows.
    * `run_pure`, `run_bind`, `run_fail`, `run_event`, `run_log`,
      `run_outcome` — how activities run, one equation each.
-/
import SpanPipeline.Config
import SpanPipeline.Failure.Aggregator

namespace SpanPipeline

open Number

/-! ## §1. Exporters as they are created. -/

/-- How exported data are compressed. -/
inductive Compression where
  | gzip
  | none
  deriving DecidableEq, Repr

/-- The name of a compression in a configuration. -/
def Compression.name : Compression → String
  | .gzip => "gzip"
  | .none => "none"

/-- What a gRPC exporter is created with. -/
structure GrpcSettings where
  compression : Compression
  /-- Seconds. -/
  timeout : Option Binary64
  endpoint : String
  insecure : Option Bool
  /-- The content of the bundle of trusted certificates. -/
  credentials : Option (List UInt8)
  headers : Option (List (String × String))
  deriving DecidableEq, Repr

/-- What an HTTP exporter is created with. -/
structure HttpSettings where
  compression : Compression
  /-- Seconds. -/
  timeout : Option Binary64
  endpoint : String
  /-- The path of the bundle of trusted certificates. -/
  certificate : Option String
  headers : Option (List (String × String))
  deriving DecidableEq, Repr

/-- An exporter by what it is created with. -/
inductive ExporterSpec where
  | console
  | grpc (settings : GrpcSettings)
  | http (settings : HttpSettings)
  deriving DecidableEq, Repr

/-- The class of an exporter, as log records name it. -/
def ExporterSpec.className : ExporterSpec → String
  | .console => "ConsoleSpanExporter"
  | _ => "OTLPSpanExporter"

/-! ## §2. Events and log records. -/

/-- A span that has ended, with the name of its tracer. -/
structure Span where
  name : String
  tracer : String
  deriving DecidableEq, Repr

/-- Something done to an exporter, which is given by its number. -/
inductive Event where
  /-- The exporter is created. -/
  | create (id : Nat) (spec : ExporterSpec)
  /-- A simple processor is created around it. -/
  | simple (id : Nat)
  /-- A batching processor is created around it. -/
  | batch (id : Nat) (settings : List (String × Int))
  /-- Spans are handed over to it. -/
  | handOver (id : Nat) (spans : List Span)
  /-- It is shut down. -/
  | shutdown (id : Nat)
  deriving DecidableEq, Repr

/-- The event creates an exporter. -/
def Event.isCreate : Event → Bool
  | .create _ _ => true
  | _ => false

/-- The parts of the program that write log records. -/
inductive Source where
  | root
  | exporters
  | processors
  | pipeline
  | tls
  | telemetry
  | main
  deriving DecidableEq, Repr

/-- The name of a part. -/
def Source.name : Source → String
  | .root => "root"
  | .exporters => "exporters"
  | .processors => "processors"
  | .pipeline => "pipeline"
  | .tls => "tls"
  | .telemetry => "telemetry"
  | .main => "main"

/-- The logger above those of all parts but the root. -/
def packageLogger : String := "ziggiz_courier_trace_pipeline"

/-- The name of a part's logger. -/
def Source.logger : Source → String
  | .root => "root"
  | s => packageLogger ++ "." ++ s.name

/-- An exception that was raised: the name of its class, and what it
    says. -/
structure Raised where
  className : String
  text : String
  deriving DecidableEq, Repr

/-- How a log record keeps a failure: by its text, or as the exception
    that was raised. -/
inductive Mention where
  | text (text : String)
  | exception (e : Raised)
  deriving DecidableEq, Repr

/-- A log record. -/
structure LogRecord where
  level : LogLevel
  source : Source
  message : String
  extra : List (String × Datum) := []
  /-- The failure that it is about, a further field beside the extra
      ones. -/
  error : Option Mention := none
  /-- The class of the exception that the record reports. -/
  exception : Option String := none

/-- Everything that happened so far. -/
structure Journal where
  events : List Event := []
  records : List LogRecord := []
  deriving Inhabited

namespace Journal

/-- Add an event. -/
def addEvent (j : Journal) (e : Event) : Journal := { j with events := j.events ++ [e] }

/-- Add several events. -/
def addEvents (j : Journal) (es : List Event) : Journal := { j with events := j.events ++ es }

/-- Add log records. -/
def addRecords (j : Journal) (rs : List LogRecord) : Journal :=
  { j with records := j.records ++ rs }

/-- Add events and log records. -/
def extend (j : Journal) (es : List Event) (rs : List LogRecord) : Journal :=
  { events := j.events ++ es, records := j.records ++ rs }

/-- The number of exporters created so far. -/
def created (j : Journal) : Nat := j.events.countP Event.isCreate

@[simp] theorem events_extend (j : Journal) (es : List Event) (rs : List LogRecord) :
    (j.extend es rs).events = j.events ++ es := rfl

@[simp] theorem records_extend (j : Journal) (es : List Event) (rs : List LogRecord) :
    (j.extend es rs).records = j.records ++ rs := rfl

@[simp] theorem created_extend (j : Journal) (es : List Event) (rs : List LogRecord) :
    (j.extend es rs).created = j.created + es.countP Event.isCreate := by
  simp [created]

@[simp] theorem extend_nil (j : Journal) : j.extend [] [] = j := by
  simp [extend]

@[simp] theorem extend_extend (j : Journal) (es fs : List Event) (rs ss : List LogRecord) :
    (j.extend es rs).extend fs ss = j.extend (es ++ fs) (rs ++ ss) := by
  simp [extend]

theorem addEvent_eq (j : Journal) (e : Event) : j.addEvent e = j.extend [e] [] := by
  simp [addEvent, extend]

theorem addEvents_eq (j : Journal) (es : List Event) : j.addEvents es = j.extend es [] := by
  simp [addEvents, extend]

theorem addRecords_eq (j : Journal) (rs : List LogRecord) : j.addRecords rs = j.extend [] rs := by
  simp [addRecords, extend]

end Journal

/-! ## §3. Activities. -/

/-- An activity. -/
def Act (α : Type) : Type := Journal → Except Failure α × Journal

namespace Act

/-- Run an activity from a journal. -/
def run (a : Act α) (j : Journal) : Except Failure α × Journal := a j

instance : Monad Act where
  pure x := fun j => (.ok x, j)
  bind a f := fun j =>
    match a j with
    | (.ok x, j) => f x j
    | (.error e, j) => (.error e, j)

/-- End with a failure. -/
def fail (f : Failure) : Act α := fun j => (.error f, j)

/-- An event happens. -/
def event (e : Event) : Act Unit := fun j => (.ok (), j.addEvent e)

/-- Several events happen. -/
def events (es : List Event) : Act Unit := fun j => (.ok (), j.addEvents es)

/-- Log records are written. -/
def log (rs : List LogRecord) : Act Unit := fun j => (.ok (), j.addRecords rs)

/-- The number of exporters created so far. -/
def created : Act Nat := fun j => (.ok j.created, j)

/-- The outcome of an activity, be it a value or a failure. -/
def outcome (a : Act α) : Act (Except Failure α) := fun j =>
  match a j with
  | (r, j) => (.ok r, j)

/-- Go on with a value or end with a failure. -/
def lift (r : Except Failure α) : Act α := fun j => (r, j)

@[simp] theorem run_pure (x : α) (j : Journal) : (pure x : Act α).run j = (.ok x, j) := rfl

theorem run_bind (a : Act α) (f : α → Act β) (j : Journal) :
    (a >>= f).run j = match a.run j with
      | (.ok x, j) => (f x).run j
      | (.error e, j) => (.error e, j) := rfl

@[simp] theorem run_fail (f : Failure) (j : Journal) : (fail f : Act α).run j = (.error f, j) := rfl

@[simp] theorem run_event (e : Event) (j : Journal) :
    (event e).run j = (.ok (), j.addEvent e) := rfl

@[simp] theorem run_events (es : List Event) (j : Journal) :
    (events es).run j = (.ok (), j.addEvents es) := rfl

@[simp] theorem run_log (rs : List LogRecord) (j : Journal) :
    (log rs).run j = (.ok (), j.addRecords rs) := rfl

@[simp] theorem run_created (j : Journal) : created.run j = (.ok j.created, j) := rfl

@[simp] theorem run_lift (r : Except Failure α) (j : Journal) : (lift r).run j = (r, j) := rfl

@[simp] theorem run_outcome (a : Act α) (j : Journal) :
    a.outcome.run j = (.ok (a.run j).1, (a.run j).2) := rfl

end Act

end SpanPipeline
