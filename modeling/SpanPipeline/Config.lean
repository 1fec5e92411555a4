/-
  SpanPipeline.Config
  ───────────────────
  What a tracing configuration says.

  The tracing part is a tree: a pipeline lists span processors, a
  processor wraps an exporter, an exporter is the console or an
  OTLP endpoint.  Processors and exporters are one-of choices that
  a configuration may leave open or fill twice; numbers and names
  are kept as they were given.  The pipeline's own checks find
  fault with them later, all at once.

  Main results:
    * `mem_populated_console`, `mem_populated_otlp`,
      `mem_populated_simple`, `mem_populated_batch` — the populated
      variants are precisely those that are present.
-/
import SpanPipeline.Datum
import SpanPipeline.Record

namespace SpanPipeline

/-! ## §1. Exporters. -/

/-- A request header.  Names may repeat. -/
structure Header where
  name : String
  value : Option String
  deriving DecidableEq, Repr

/-- The settings of an OTLP exporter. -/
structure OtlpConfig where
  protocol : Option String
  endpoint : Option String
  compression : Option String
  /-- Milliseconds. -/
  timeout : Option Int
  headers : List Header
  /-- Path of a bundle of trusted certificates. -/
  certificate : Option String
  deriving DecidableEq, Repr

/-- The kinds of exporters. -/
inductive ExporterKind where
  | console
  | otlp
  deriving DecidableEq, Repr

/-- The name of the kind. -/
def ExporterKind.name : ExporterKind → String
  | .console => "console"
  | .otlp => "otlp"

/-- A choice of one exporter; the console takes no options. -/
structure ExporterConfig where
  console : Bool
  otlp : Option OtlpConfig
  deriving DecidableEq, Repr

/-- No exporter chosen. -/
def ExporterConfig.unset : ExporterConfig := ⟨false, none⟩

/-- The variants that are present, in order. -/
def ExporterConfig.populated (e : ExporterConfig) : List ExporterKind :=
  (if e.console then [.console] else []) ++ (if e.otlp.isSome then [.otlp] else [])

theorem ExporterConfig.mem_populated_console {e : ExporterConfig} :
    ExporterKind.console ∈ e.populated ↔ e.console = true := by
  cases h : e.console <;> cases g : e.otlp <;> simp [populated, h, g]

theorem ExporterConfig.mem_populated_otlp {e : ExporterConfig} :
    ExporterKind.otlp ∈ e.populated ↔ e.otlp.isSome = true := by
  cases h : e.console <;> cases g : e.otlp <;> simp [populated, h, g]

/-! ## §2. Processors. -/

/-- The settings of a batching processor.  Delays and timeouts are
    in milliseconds. -/
structure BatchConfig where
  maxExportBatchSize : Option Int
  exportTimeout : Option Int
  maxQueueSize : Option Int
  scheduleDelay : Option Int
  exporter : ExporterConfig
  deriving DecidableEq, Repr

/-- The kinds of processors. -/
inductive ProcessorKind where
  | simple
  | batch
  deriving DecidableEq, Repr

/-- The name of the kind. -/
def ProcessorKind.name : ProcessorKind → String
  | .simple => "simple"
  | .batch => "batch"

/-- A choice of one processor; a simple one has but its exporter. -/
structure ProcessorConfig where
  simple : Option ExporterConfig
  batch : Option BatchConfig
  deriving DecidableEq, Repr

/-- The variants that are present, in order. -/
def ProcessorConfig.populated (p : ProcessorConfig) : List ProcessorKind :=
  (if p.simple.isSome then [.simple] else []) ++ (if p.batch.isSome then [.batch] else [])

/-- The exporters of the kinds that are present. -/
def ProcessorConfig.exporters (p : ProcessorConfig) : List ExporterConfig :=
  p.simple.toList ++ (p.batch.map BatchConfig.exporter).toList

theorem ProcessorConfig.mem_populated_simple {p : ProcessorConfig} :
    ProcessorKind.simple ∈ p.populated ↔ p.simple.isSome = true := by
  cases h : p.simple <;> cases g : p.batch <;> simp [populated, h, g]

theorem ProcessorConfig.mem_populated_batch {p : ProcessorConfig} :
    ProcessorKind.batch ∈ p.populated ↔ p.batch.isSome = true := by
  cases h : p.simple <;> cases g : p.batch <;> simp [populated, h, g]

/-- A pipeline: span processors in order. -/
structure PipelineConfig where
  processors : List ProcessorConfig
  deriving DecidableEq, Repr

/-! ## §3. The whole configuration. -/

/-- Attributes of everything the pipeline sends. -/
structure ResourceConfig where
  attributes : Record Datum
  schemaUrl : Option String

/-- No attributes. -/
def ResourceConfig.unset : ResourceConfig := ⟨.empty, none⟩

/-- The levels a configuration may set for the whole program. -/
inductive LogLevel where
  | debug
  | info
  | warning
  | error
  | critical
  deriving DecidableEq, Repr

namespace LogLevel

/-- All levels, from the least severe one. -/
def all : List LogLevel := [.debug, .info, .warning, .error, .critical]

/-- The name of a level. -/
def name : LogLevel → String
  | .debug => "DEBUG"
  | .info => "INFO"
  | .warning => "WARNING"
  | .error => "ERROR"
  | .critical => "CRITICAL"

/-- The severity of a level. -/
def severity : LogLevel → Int
  | .debug => 10
  | .info => 20
  | .warning => 30
  | .error => 40
  | .critical => 50

/-- The level of a name. -/
def ofName? (s : String) : Option LogLevel :=
  all.find? fun l => l.name == s

theorem ofName?_name (l : LogLevel) : ofName? l.name = some l := by
  cases l <;> decide

end LogLevel

/-- Settings of a single logger. -/
structure LoggerConfig where
  name : String
  level : String
  propagate : Bool
  deriving DecidableEq, Repr

/-- A configuration. -/
structure Config where
  disabled : Bool
  resource : ResourceConfig
  tracerProvider : Option PipelineConfig
  logLevel : LogLevel
  logFormat : String
  logDateFormat : String
  loggers : List LoggerConfig

/-- The format of log lines, unless one is set. -/
def defaultLogFormat : String := "%(asctime)s %(levelname)s %(name)s %(message)s"

/-- The format of times in log lines, unless one is set. -/
def defaultLogDateFormat : String := "%Y-%m-%d %H:%M:%S"

/-- Nothing configured. -/
def Config.default : Config where
  disabled := false
  resource := .unset
  tracerProvider := none
  logLevel := .info
  logFormat := defaultLogFormat
  logDateFormat := defaultLogDateFormat
  loggers := []

instance : Inhabited Config := ⟨.default⟩

end SpanPipeline
