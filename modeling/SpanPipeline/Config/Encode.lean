/-
  SpanPipeline.Config.Encode
  ──────────────────────────
  Writing configurations as data.

  Every field is written under the name by which it is read.  An
  optional field without a value is left out or written as null.

  Main results:
    * `text_text` — decoding a text gives it back.
-/
import SpanPipeline.Config.Decode

namespace SpanPipeline.Encode

/-! ## §1. Fields. -/

/-- How a field without a value is written. -/
inductive Absence where
  | leftOut
  | asNull
  deriving DecidableEq, Repr

/-- A field by its name, with its value if it has one. -/
abbrev Field := String × Option Datum

/-- What is written for a field. -/
def entry (absence : Absence) (f : Field) : Option (Datum × Datum) :=
  match f.2, absence with
  | some d, _ => some (.text f.1, d)
  | none, .asNull => some (.text f.1, .null)
  | none, .leftOut => none

/-- A model by its fields. -/
def model (absence : Absence) (fields : List Field) : Datum :=
  .map (fields.filterMap (entry absence))

/-- An optional text. -/
def text? (s : Option String) : Option Datum := s.map .text

/-- An optional number. -/
def int? (n : Option Int) : Option Datum := n.map .int

/-! ## §2. Models. -/

/-- The fields of a header. -/
def headerFields (h : Header) : List Field :=
  [("name", some (.text h.name)), ("value", text? h.value)]

/-- A header. -/
def header (absence : Absence) (h : Header) : Datum := model absence (headerFields h)

/-- The fields of an OTLP exporter. -/
def otlpFields (absence : Absence) (o : OtlpConfig) : List Field :=
  [ ("protocol", text? o.protocol), ("endpoint", text? o.endpoint),
    ("compression", text? o.compression), ("timeout", int? o.timeout),
    ("headers", some (.list (o.headers.map (header absence)))),
    ("certificate", text? o.certificate) ]

/-- The settings of an OTLP exporter. -/
def otlp (absence : Absence) (o : OtlpConfig) : Datum := model absence (otlpFields absence o)

/-- The fields of a choice of an exporter. -/
def exporterFields (absence : Absence) (e : ExporterConfig) : List Field :=
  [ ("console", if e.console then some (.map []) else none), ("otlp", e.otlp.map (otlp absence)) ]

/-- A choice of an exporter. -/
def exporter (absence : Absence) (e : ExporterConfig) : Datum :=
  model absence (exporterFields absence e)

/-- The fields of a simple processor. -/
def simpleFields (absence : Absence) (e : ExporterConfig) : List Field :=
  [("exporter", some (exporter absence e))]

/-- A simple processor. -/
def simple (absence : Absence) (e : ExporterConfig) : Datum :=
  model absence (simpleFields absence e)

/-- The fields of a batching processor. -/
def batchFields (absence : Absence) (b : BatchConfig) : List Field :=
  [ ("max_export_batch_size", int? b.maxExportBatchSize),
    ("export_timeout", int? b.exportTimeout), ("max_queue_size", int? b.maxQueueSize),
    ("schedule_delay", int? b.scheduleDelay), ("exporter", some (exporter absence b.exporter)) ]

/-- A batching processor. -/
def batch (absence : Absence) (b : BatchConfig) : Datum := model absence (batchFields absence b)

/-- The fields of a choice of a processor. -/
def processorFields (absence : Absence) (p : ProcessorConfig) : List Field :=
  [("simple", p.simple.map (simple absence)), ("batch", p.batch.map (batch absence))]

/-- A choice of a processor. -/
def processor (absence : Absence) (p : ProcessorConfig) : Datum :=
  model absence (processorFields absence p)

/-- The fields of a pipeline. -/
def pipelineFields (absence : Absence) (p : PipelineConfig) : List Field :=
  [("processors", some (.list (p.processors.map (processor absence))))]

/-- A pipeline. -/
def pipeline (absence : Absence) (p : PipelineConfig) : Datum :=
  model absence (pipelineFields absence p)

/-- The fields of a resource. -/
def resourceFields (r : ResourceConfig) : List Field :=
  [("attributes", some (.record r.attributes.entries)), ("schema_url", text? r.schemaUrl)]

/-- A resource. -/
def resource (absence : Absence) (r : ResourceConfig) : Datum := model absence (resourceFields r)

/-- The fields of a logger. -/
def loggerFields (l : LoggerConfig) : List Field :=
  [ ("name", some (.text l.name)), ("level", some (.text l.level)),
    ("propagate", some (.bool l.propagate)) ]

/-- A logger. -/
def logger (absence : Absence) (l : LoggerConfig) : Datum := model absence (loggerFields l)

/-- The fields of a whole configuration. -/
def configFields (absence : Absence) (c : Config) : List Field :=
  [ ("disabled", some (.bool c.disabled)), ("resource", some (resource absence c.resource)),
    ("tracer_provider", c.tracerProvider.map (pipeline absence)),
    ("log_level", some (.text c.logLevel.name)), ("log_format", some (.text c.logFormat)),
    ("log_date_format", some (.text c.logDateFormat)),
    ("loggers", some (.list (c.loggers.map (logger absence)))) ]

/-- A whole configuration. -/
def config (absence : Absence) (c : Config) : Datum := model absence (configFields absence c)

/-! ## §3. Reading back. -/

theorem text_text (s : String) : Decode.text (.text s) = .ok s := by
  simp [Decode.text, Decode.textLike?]

end SpanPipeline.Encode
