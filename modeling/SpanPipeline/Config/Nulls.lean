/-
  SpanPipeline.Config.Nulls
  ─────────────────────────
  Writing configurations as data with nulls.

  A configuration is written field by field.  Whether a field that
  has no value is left out or null is chosen anew at every place of
  the tree.  Null chooses nothing, but for the console of an
  exporter: there it selects the console.

  Main results:
    * `Config.selecting_spared` — nulls that are no consoles select
      none.
-/
import SpanPipeline.Config.Encode

namespace SpanPipeline

open Encode (Field)

/-! ## §1. Nulls. -/

/-- The places where null is written, each by the steps that lead
    there. -/
abbrev Nulls := List LocStep → Bool

namespace Nulls

/-- No null is written. -/
def nowhere : Nulls := fun _ => false

/-- The places one step further in. -/
def inside (n : Nulls) (step : LocStep) : Nulls := fun path => n (step :: path)

/-- Null is written for the field. -/
def has (n : Nulls) (name : String) : Bool := n [.field name]

/-- The places below the field. -/
def below (n : Nulls) (name : String) : Nulls := n.inside (.field name)

/-- No null is written as a console. -/
def SparesConsoles (n : Nulls) : Prop :=
  ∀ path, n (path ++ [.field "console"]) = false

theorem SparesConsoles.inside {n : Nulls} (h : n.SparesConsoles) (step : LocStep) :
    (n.inside step).SparesConsoles :=
  fun path => h (step :: path)

theorem SparesConsoles.below {n : Nulls} (h : n.SparesConsoles) (name : String) :
    (n.below name).SparesConsoles :=
  h.inside (.field name)

theorem SparesConsoles.has {n : Nulls} (h : n.SparesConsoles) : n.has "console" = false :=
  h []

/-- Null is written wherever it may be, but as no console. -/
def besidesConsoles : Nulls := fun path => path.getLast? != some (.field "console")

theorem sparesConsoles_besidesConsoles : besidesConsoles.SparesConsoles := by
  intro path
  rw [besidesConsoles, List.getLast?_concat]
  decide

theorem sparesConsoles_nowhere : nowhere.SparesConsoles := fun _ => rfl

end Nulls

/-! ## §2. Writing. -/

namespace Write

/-- A field that has a value. -/
def given (n : Nulls) (name : String) (write : Nulls → α → Datum) (x : α) : Field :=
  (name, some (write (n.below name) x))

/-- A field that may have no value: then it is null, or left out. -/
def optional (n : Nulls) (name : String) (write : Nulls → α → Datum) (x? : Option α) : Field :=
  (name, match x? with
    | some x => some (write (n.below name) x)
    | none => if n.has name then some .null else none)

/-- A text. -/
def text (_ : Nulls) (s : String) : Datum := .text s

/-- A number. -/
def int (_ : Nulls) (k : Int) : Datum := .int k

/-- A truth value. -/
def bool (_ : Nulls) (b : Bool) : Datum := .bool b

/-- A list. -/
def list (write : Nulls → α → Datum) (n : Nulls) (xs : List α) : Datum :=
  .list (xs.mapIdx fun i x => write (n.inside (.index i)) x)

/-- A model by its fields. -/
def model (fields : Nulls → α → List Field) (n : Nulls) (x : α) : Datum :=
  Encode.model .leftOut (fields n x)

/-- The fields of a header. -/
def headerFields (n : Nulls) (h : Header) : List Field :=
  [given n "name" text h.name, optional n "value" text h.value]

/-- The fields of an OTLP exporter. -/
def otlpFields (n : Nulls) (o : OtlpConfig) : List Field :=
  [ optional n "protocol" text o.protocol, optional n "endpoint" text o.endpoint,
    optional n "compression" text o.compression, optional n "timeout" int o.timeout,
    given n "headers" (list (model headerFields)) o.headers,
    optional n "certificate" text o.certificate ]

/-- The console of a choice of an exporter. -/
def console (n : Nulls) (selected : Bool) : Field :=
  ("console", if n.has "console" then some .null else if selected then some (.map []) else none)

/-- The fields of a choice of an exporter. -/
def exporterFields (n : Nulls) (e : ExporterConfig) : List Field :=
  [console n e.console, optional n "otlp" (model otlpFields) e.otlp]

/-- The fields of a simple processor. -/
def simpleFields (n : Nulls) (e : ExporterConfig) : List Field :=
  [given n "exporter" (model exporterFields) e]

/-- The fields of a batching processor. -/
def batchFields (n : Nulls) (b : BatchConfig) : List Field :=
  [ optional n "max_export_batch_size" int b.maxExportBatchSize,
    optional n "export_timeout" int b.exportTimeout,
    optional n "max_queue_size" int b.maxQueueSize,
    optional n "schedule_delay" int b.scheduleDelay,
    given n "exporter" (model exporterFields) b.exporter ]

/-- The fields of a choice of a processor. -/
def processorFields (n : Nulls) (p : ProcessorConfig) : List Field :=
  [ optional n "simple" (model simpleFields) p.simple,
    optional n "batch" (model batchFields) p.batch ]

/-- The fields of a pipeline. -/
def pipelineFields (n : Nulls) (p : PipelineConfig) : List Field :=
  [given n "processors" (list (model processorFields)) p.processors]

/-- The attributes of a resource, whatever their values. -/
def attributes (_ : Nulls) (r : Record Datum) : Datum := .record r.entries

/-- The fields of a resource. -/
def resourceFields (n : Nulls) (r : ResourceConfig) : List Field :=
  [given n "attributes" attributes r.attributes, optional n "schema_url" text r.schemaUrl]

/-- The fields of a logger. -/
def loggerFields (n : Nulls) (l : LoggerConfig) : List Field :=
  [given n "name" text l.name, given n "level" text l.level, given n "propagate" bool l.propagate]

/-- The name of a level. -/
def logLevel (_ : Nulls) (l : LogLevel) : Datum := .text l.name

/-- The fields of a configuration. -/
def configFields (n : Nulls) (c : Config) : List Field :=
  [ given n "disabled" bool c.disabled, given n "resource" (model resourceFields) c.resource,
    optional n "tracer_provider" (model pipelineFields) c.tracerProvider,
    given n "log_level" logLevel c.logLevel, given n "log_format" text c.logFormat,
    given n "log_date_format" text c.logDateFormat,
    given n "loggers" (list (model loggerFields)) c.loggers ]

/-- A configuration, with the given nulls. -/
def config (n : Nulls) (c : Config) : Datum := model configFields n c

end Write

/-! ## §3. What the nulls select. -/

/-- The choice with the console, if its console is null. -/
def ExporterConfig.selecting (n : Nulls) (e : ExporterConfig) : ExporterConfig :=
  { e with console := e.console || n.has "console" }

/-- The exporter of a batching processor may select the console. -/
def BatchConfig.selecting (n : Nulls) (b : BatchConfig) : BatchConfig :=
  { b with exporter := b.exporter.selecting (n.below "exporter") }

/-- The exporters of a processor may select the console. -/
def ProcessorConfig.selecting (n : Nulls) (p : ProcessorConfig) : ProcessorConfig where
  simple := p.simple.map (ExporterConfig.selecting ((n.below "simple").below "exporter"))
  batch := p.batch.map (BatchConfig.selecting (n.below "batch"))

/-- The processors of a pipeline may select the console, each for
    itself. -/
def PipelineConfig.selecting (n : Nulls) (p : PipelineConfig) : PipelineConfig where
  processors := p.processors.mapIdx fun i q =>
    q.selecting ((n.below "processors").inside (.index i))

/-- The pipeline of a configuration may select the console. -/
def Config.selecting (n : Nulls) (c : Config) : Config :=
  { c with
    tracerProvider := c.tracerProvider.map (PipelineConfig.selecting (n.below "tracer_provider")) }

theorem mapIdx_self (xs : List α) : xs.mapIdx (fun _ x => x) = xs :=
  List.ext_getElem List.length_mapIdx fun _ _ _ => List.getElem_mapIdx

section Spared

variable {n : Nulls} (h : n.SparesConsoles)
include h

theorem ExporterConfig.selecting_spared (e : ExporterConfig) : e.selecting n = e := by
  rw [selecting, h.has, Bool.or_false]

theorem BatchConfig.selecting_spared (b : BatchConfig) : b.selecting n = b := by
  rw [selecting, ExporterConfig.selecting_spared (h.below _)]

theorem ProcessorConfig.selecting_spared (p : ProcessorConfig) : p.selecting n = p := by
  have hs : ExporterConfig.selecting ((n.below "simple").below "exporter") = id :=
    funext (ExporterConfig.selecting_spared ((h.below _).below _))
  have hb : BatchConfig.selecting (n.below "batch") = id :=
    funext (BatchConfig.selecting_spared (h.below _))
  rw [selecting, hs, hb, Option.map_id_apply, Option.map_id_apply]

theorem PipelineConfig.selecting_spared (p : PipelineConfig) : p.selecting n = p := by
  have hq : ∀ (i : Nat) (q : ProcessorConfig),
      q.selecting ((n.below "processors").inside (.index i)) = q := by
    intro i q
    exact q.selecting_spared ((h.below _).inside _)
  simp only [selecting, hq, mapIdx_self]

/-- Nulls that spare the consoles select none. -/
theorem Config.selecting_spared (c : Config) : c.selecting n = c := by
  have hp : PipelineConfig.selecting (n.below "tracer_provider") = id :=
    funext (PipelineConfig.selecting_spared (h.below _))
  rw [selecting, hp, Option.map_id_apply]

end Spared

end SpanPipeline
