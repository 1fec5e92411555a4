/-
  SpanPipeline.Config.Decode
  ──────────────────────────
  Reading configurations from data.

  Fields are taken by name and unknown ones are ignored.  Texts,
  numbers and truth values are accepted in the forms in which a
  document may spell them: a number as text, a truth value as a
  word.  Ranges and choices are not looked at here.

  An exporter's `console` field selects the console as soon as it
  is there, also without a value.
-/
import SpanPipeline.Config
import SpanPipeline.Config.Issue
import SpanPipeline.Text.Case
import SpanPipeline.Text.Utf8
import SpanPipeline.Text.Digits

namespace SpanPipeline.Decode

open Text

/-! ## §1. Plain values. -/

/-- The text of a value that is text or encodes one. -/
def textLike? : Datum → Option (Option (List Char))
  | .text s => some (some s.toList)
  | .bytes bs => some (decodeUtf8 bs).toOption
  | _ => none

/-- A text. -/
def text (d : Datum) : Checked String :=
  match textLike? d with
  | some (some cs) => .ok (String.ofList cs)
  | some none => .fault .notUtf8
  | none => .fault .notText

/-- The digits of a number text without its sign: single underscores
    between digits, and a fraction of zeros that is dropped. -/
def intDigits? (cs : List Char) : Option (List Char) :=
  let whole := cs.takeWhile (· != '.')
  let fraction := cs.dropWhile (· != '.')
  let zeros := match fraction with
    | [] => true
    | _ :: zs => !zs.isEmpty && zs.all (· == '0')
  if zeros && (digitRun? whole).isSome then
    let ds := whole.filter (· != '_')
    if ds.all Char.isDigit then some ds else none
  else none

/-- A whole number that a text spells. -/
def intOfText (cs : List Char) : Checked Int :=
  let (sign, unsigned) : Int × List Char := match trimBy isSpace cs with
    | '-' :: ds => (-1, ds)
    | '+' :: ds => (1, ds)
    | ds => (1, ds)
  match intDigits? unsigned with
  | none => .fault .intText
  | some ds =>
    if maxDigits < (ds.dropWhile (· == '0')).length then .fault .intSize
    else .ok (sign * ofAscii 10 ds)

/-- The bounds between which a float counts as a whole number. -/
def floatIntBound : Int := 0x8000000000000000

/-- A whole number. -/
def int (d : Datum) : Checked Int :=
  match d with
  | .int n => .ok n
  | .bool b => .ok (if b then 1 else 0)
  | .float x =>
    match x with
    | .finite .. =>
      match x.toInt? with
      | none => .fault .intFraction
      | some n =>
        if -floatIntBound < n && n < floatIntBound then .ok n else .fault .intSize
    | _ => .fault .notFinite
  | d =>
    match textLike? d with
    | some (some cs) => intOfText cs
    | some none => .fault .intText
    | none => .fault .notInt

/-- The words for true and for false, in lower case. -/
def boolOfWord? (word : String) : Option Bool :=
  if ["1", "true", "t", "on", "yes", "y"].contains word then some true
  else if ["0", "false", "f", "off", "no", "n"].contains word then some false
  else none

/-- The truth value of a whole number. -/
def boolOfInt (n : Int) : Checked Bool :=
  if n = 0 then .ok false else if n = 1 then .ok true else .fault .boolText

/-- A truth value. -/
def bool (d : Datum) : Checked Bool :=
  match d with
  | .bool b => .ok b
  | .int n =>
    if -floatIntBound ≤ n && n < floatIntBound then boolOfInt n else .fault .notBool
  | .float x =>
    match x.toInt? with
    | some n =>
      if -floatIntBound < n && n < floatIntBound then boolOfInt n else .fault .notBool
    | none => .fault .notBool
  | d =>
    match textLike? d with
    | some (some cs) =>
      match boolOfWord? (String.ofList (cs.map Char.toLower)) with
      | some b => .ok b
      | none => .fault .boolText
    | some none => .fault .boolText
    | none => .fault .notBool

/-- A value that may be null. -/
def optional (decode : Datum → Checked α) (d : Datum) : Checked (Option α) :=
  match d with
  | .null => .ok none
  | d => some <$> decode d

/-- A list. -/
def list (decode : Datum → Checked α) (d : Datum) : Checked (List α) :=
  match d with
  | .list xs => Checked.each decode 0 xs
  | .set xs => Checked.each decode 0 xs
  | _ => .fault .notList

/-- How a key is named in the place of an issue. -/
def keyStep : Datum → LocStep
  | .text s => .field s
  | .bool b => .index (if b then 1 else 0)
  | .int n => if -floatIntBound ≤ n && n < floatIntBound then .index n else .field (toString n)
  | d => .field d.display

/-- The entries of a mapping from texts to any values. -/
def entries : List (Datum × Datum) → Checked (List (String × Datum))
  | [] => .ok []
  | (k, v) :: es =>
    (fun key rest => (key, v) :: rest)
      <$> ((text k).within (.field "[key]")).within (keyStep k) <*> entries es

/-- A mapping from texts to any values. -/
def dict (d : Datum) : Checked (Record Datum) :=
  match d with
  | .map es => Record.ofList <$> entries es
  | _ => .fault .notDict

/-! ## §2. Fields. -/

/-- The fields of a mapping. -/
abbrev Fields := List (Datum × Datum)

/-- A field that has a default. -/
def field (fields : Fields) (name : String) (default : α) (decode : Datum → Checked α) :
    Checked α :=
  match Datum.lookup (.text name) fields with
  | none => .ok default
  | some d => (decode d).within (.field name)

/-- A field that must be there. -/
def required (fields : Fields) (name : String) (decode : Datum → Checked α) : Checked α :=
  match Datum.lookup (.text name) fields with
  | none => (Checked.fault .missing).within (.field name)
  | some d => (decode d).within (.field name)

/-- A nested model. -/
def model (name : String) (decode : Fields → Checked α) (d : Datum) : Checked α :=
  match d with
  | .map fields => decode fields
  | _ => .fault (.notModel name)

/-! ## §3. Models. -/

/-- A request header. -/
def header (fs : Fields) : Checked Header :=
  Header.mk <$> required fs "name" text <*> field fs "value" none (optional text)

/-- The settings of an OTLP exporter. -/
def otlp (fs : Fields) : Checked OtlpConfig :=
  OtlpConfig.mk
    <$> field fs "protocol" none (optional text)
    <*> field fs "endpoint" none (optional text)
    <*> field fs "compression" none (optional text)
    <*> field fs "timeout" none (optional int)
    <*> field fs "headers" [] (list (model "NameStringValuePair" header))
    <*> field fs "certificate" none (optional text)

/-- The console exporter, which any mapping and null select. -/
def console (d : Datum) : Checked Bool :=
  match d with
  | .null => .ok true
  | d => model "ConsoleExporterConfig" (fun _ => .ok true) d

/-- A choice of an exporter. -/
def exporter (fs : Fields) : Checked ExporterConfig :=
  ExporterConfig.mk
    <$> field fs "console" false console
    <*> field fs "otlp" none (optional (model "OTLPExporterConfig" otlp))

/-- The exporter of a processor. -/
def exporterField (fs : Fields) : Checked ExporterConfig :=
  field fs "exporter" .unset (model "SpanExporterConfig" exporter)

/-- The settings of a simple processor: its exporter. -/
def simple (fs : Fields) : Checked ExporterConfig :=
  exporterField fs

/-- The settings of a batching processor. -/
def batch (fs : Fields) : Checked BatchConfig :=
  BatchConfig.mk
    <$> field fs "max_export_batch_size" none (optional int)
    <*> field fs "export_timeout" none (optional int)
    <*> field fs "max_queue_size" none (optional int)
    <*> field fs "schedule_delay" none (optional int)
    <*> exporterField fs

/-- A choice of a processor. -/
def processor (fs : Fields) : Checked ProcessorConfig :=
  ProcessorConfig.mk
    <$> field fs "simple" none (optional (model "SimpleSpanProcessorConfig" simple))
    <*> field fs "batch" none (optional (model "BatchSpanProcessorConfig" batch))

/-- A pipeline. -/
def pipeline (fs : Fields) : Checked PipelineConfig :=
  PipelineConfig.mk <$> field fs "processors" [] (list (model "SpanProcessorConfig" processor))

/-- The attributes of a resource. -/
def resource (fs : Fields) : Checked ResourceConfig :=
  ResourceConfig.mk <$> field fs "attributes" .empty dict
    <*> field fs "schema_url" none (optional text)

/-- Settings of a single logger. -/
def logger (fs : Fields) : Checked LoggerConfig :=
  LoggerConfig.mk
    <$> required fs "name" text
    <*> field fs "level" "INFO" text
    <*> field fs "propagate" true bool

/-- Why a name is no level. -/
def levelReason (name : String) : String :=
  "Invalid log level: " ++ name ++ ". Must be one of "
    ++ quoteList (LogLevel.all.map LogLevel.name)

/-- A log level, in any letter case. -/
def logLevel (d : Datum) : Checked LogLevel :=
  match text d with
  | .faulty is => .faulty is
  | .ok s =>
    let name := String.ofList (upper s.toList)
    match LogLevel.ofName? name with
    | some level => .ok level
    | none => .fault (.rejected (levelReason name))

/-- A whole configuration. -/
def config (fs : Fields) : Checked Config :=
  Config.mk
    <$> field fs "disabled" false bool
    <*> field fs "resource" .unset (model "ResourceConfig" resource)
    <*> field fs "tracer_provider" none (optional (model "PipelineConfig" pipeline))
    <*> field fs "log_level" .info logLevel
    <*> field fs "log_format" defaultLogFormat text
    <*> field fs "log_date_format" defaultLogDateFormat text
    <*> field fs "loggers" [] (list (model "LoggerConfig" logger))

end SpanPipeline.Decode
