/-
  SpanPipeline.Config.Model
  ─────────────────────────
  The parts of a configuration as values of their own: each can be
  decoded under its name, looked at, and have a field set.

  The parts of the tracing tree never change once they are decoded.
  A whole configuration and the settings of a logger do; what is
  set there is taken as it comes.

  Main results:
    * `assign_frozen` — setting a field of a part of the tracing
      tree is refused.
-/
import SpanPipeline.Config.Encode

namespace SpanPipeline

/-! ## §1. Kinds of models. -/

/-- The kinds of models. -/
inductive ModelKind where
  | header
  | console
  | otlp
  | exporter
  | simple
  | batch
  | processor
  | pipeline
  | resource
  | logger
  | config
  deriving DecidableEq, Repr

namespace ModelKind

/-- All kinds. -/
def all : List ModelKind :=
  [ .header, .console, .otlp, .exporter, .simple, .batch, .processor, .pipeline, .resource,
    .logger, .config ]

/-- The name of a kind. -/
def name : ModelKind → String
  | .header => "NameStringValuePair"
  | .console => "ConsoleExporterConfig"
  | .otlp => "OTLPExporterConfig"
  | .exporter => "SpanExporterConfig"
  | .simple => "SimpleSpanProcessorConfig"
  | .batch => "BatchSpanProcessorConfig"
  | .processor => "SpanProcessorConfig"
  | .pipeline => "PipelineConfig"
  | .resource => "ResourceConfig"
  | .logger => "LoggerConfig"
  | .config => "Config"

/-- The kind of a name. -/
def ofName? (s : String) : Option ModelKind :=
  all.find? fun k => k.name == s

/-- Values of the kind never change. -/
def isFrozen : ModelKind → Bool
  | .logger => false
  | .config => false
  | _ => true

end ModelKind

/-! ## §2. Models. -/

/-- A part of a configuration. -/
inductive Model where
  | header (h : Header)
  | console
  | otlp (o : OtlpConfig)
  | exporter (e : ExporterConfig)
  | simple (e : ExporterConfig)
  | batch (b : BatchConfig)
  | processor (p : ProcessorConfig)
  | pipeline (p : PipelineConfig)
  | resource (r : ResourceConfig)
  | logger (l : LoggerConfig)
  | config (c : Config)

namespace Model

/-- The kind of a model. -/
def kind : Model → ModelKind
  | .header _ => .header
  | .console => .console
  | .otlp _ => .otlp
  | .exporter _ => .exporter
  | .simple _ => .simple
  | .batch _ => .batch
  | .processor _ => .processor
  | .pipeline _ => .pipeline
  | .resource _ => .resource
  | .logger _ => .logger
  | .config _ => .config

/-- Decode a model of a kind from its fields. -/
def decode (kind : ModelKind) (fields : Decode.Fields) : Checked Model :=
  match kind with
  | .header => .header <$> Decode.header fields
  | .console => .ok .console
  | .otlp => .otlp <$> Decode.otlp fields
  | .exporter => .exporter <$> Decode.exporter fields
  | .simple => .simple <$> Decode.simple fields
  | .batch => .batch <$> Decode.batch fields
  | .processor => .processor <$> Decode.processor fields
  | .pipeline => .pipeline <$> Decode.pipeline fields
  | .resource => .resource <$> Decode.resource fields
  | .logger => .logger <$> Decode.logger fields
  | .config => .config <$> Decode.config fields

/-- The fields of a model. -/
def fields : Model → List Encode.Field
  | .header h => Encode.headerFields h
  | .console => []
  | .otlp o => Encode.otlpFields .asNull o
  | .exporter e => Encode.exporterFields .asNull e
  | .simple e => Encode.simpleFields .asNull e
  | .batch b => Encode.batchFields .asNull b
  | .processor p => Encode.processorFields .asNull p
  | .pipeline p => Encode.pipelineFields .asNull p
  | .resource r => Encode.resourceFields r
  | .logger l => Encode.loggerFields l
  | .config c => Encode.configFields .asNull c

/-! ## §3. Setting fields. -/

/-- Why a field is not set. -/
inductive AssignFault where
  /-- The model never changes. -/
  | frozen (issue : Issue)
  /-- The model has no such field. -/
  | noField (kind : ModelKind) (field : String)

/-- The fault in words, for a field that does not exist. -/
def noFieldMessage (kind : ModelKind) (field : String) : String :=
  "\"" ++ kind.name ++ "\" object has no field \"" ++ field ++ "\""

/-- A name kept for private use: it starts with an underscore. -/
def isPrivate (field : String) : Bool :=
  field.toList.head? == some '_'

/-- The field that is set to a value of any form, if setting it
    shows at all. -/
def assign (m : Model) (field : String) (value : Datum) :
    Except AssignFault (Option (String × Datum)) :=
  if isPrivate field then .ok none
  else if m.kind.isFrozen then .error (.frozen ⟨[.field field], .frozen⟩)
  else if (m.fields.map Prod.fst).contains field then .ok (some (field, value))
  else .error (.noField m.kind field)

theorem assign_frozen {m : Model} (h : m.kind.isFrozen = true) {field : String}
    (hf : isPrivate field = false) (value : Datum) :
    m.assign field value = .error (.frozen ⟨[.field field], .frozen⟩) := by
  simp [assign, h, hf]

end Model

end SpanPipeline
