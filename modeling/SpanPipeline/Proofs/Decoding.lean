/-
  SpanPipeline.Proofs.Decoding
  ────────────────────────────
  Decoding loses and rejects nothing of a configuration.

  A field without a value may be left out or be null, at every place
  of the tree as one likes; decoding gives the configuration back.
  Only the console of an exporter tells null from nothing: null
  selects it, and changes nothing else.

  The argument climbs the tree.  The names of a model's fields are
  distinct, so each field is found under its name, and what is found
  there is decoded one level below.

  Main results:
    * `lookup_written` — each field is found under its name.
    * `reads_exporter`, `reads_processor`, `reads_pipeline`,
      `reads_config` — decoding gives back what was written, with the
      consoles selected.
    * `populated_exporter`, `populated_processor` — a choice lists
      what is present in the data.
    * `written_round_trip` — all of it for whole configurations.
-/
import SpanPipeline.Config.Nulls
import Mathlib

namespace SpanPipeline

open Encode (Field)

/-! ## §1. Finding fields. -/

namespace Write

/-- What is written of the fields. -/
def written (fields : List Field) : Decode.Fields := fields.filterMap (Encode.entry .leftOut)

theorem sameKey_text (s t : String) : (Datum.text s).sameKey (.text t) = (s == t) := rfl

/-- The first field, under its own name. -/
theorem lookup_written_self (name : String) (v? : Option Datum) (fields : List Field) :
    Datum.lookup (.text name) (written ((name, v?) :: fields))
      = v?.or (Datum.lookup (.text name) (written fields)) := by
  cases v? with
  | none => rfl
  | some v =>
    show ((List.find? _ ((.text name, v) :: written fields)).map Prod.snd) = some v
    rw [List.find?_cons_of_pos (by rw [sameKey_text, beq_self_eq_true])]
    rfl

/-- The first field, under another name. -/
theorem lookup_written_of_ne {k name : String} (h : k ≠ name) (v? : Option Datum)
    (fields : List Field) :
    Datum.lookup (.text name) (written ((k, v?) :: fields))
      = Datum.lookup (.text name) (written fields) := by
  cases v? with
  | none => rfl
  | some v =>
    show ((List.find? _ ((.text k, v) :: written fields)).map Prod.snd) = _
    rw [List.find?_cons_of_neg (by rw [sameKey_text, beq_false_of_ne h]; exact Bool.false_ne_true)]
    rfl

theorem lookup_written_of_not_mem {fields : List Field} {name : String}
    (h : name ∉ fields.map Prod.fst) : Datum.lookup (.text name) (written fields) = none := by
  induction fields with
  | nil => rfl
  | cons f fs ih =>
    rw [List.map_cons, List.mem_cons, not_or] at h
    rw [lookup_written_of_ne (Ne.symm h.1)]
    exact ih h.2

/-- **Each field is found under its name**, when the names are
    distinct. -/
theorem lookup_written {fields : List Field} (hn : (fields.map Prod.fst).Nodup) {name : String}
    {v? : Option Datum} (hm : (name, v?) ∈ fields) :
    Datum.lookup (.text name) (written fields) = v? := by
  induction fields with
  | nil => cases hm
  | cons f fs ih =>
    rw [List.map_cons, List.nodup_cons] at hn
    rcases List.mem_cons.mp hm with rfl | hm
    -- a field without a value leaves its name to later ones, but none has it
    · rw [lookup_written_self, lookup_written_of_not_mem hn.1, Option.or_none]
    · have hne : f.1 ≠ name := by
        rintro rfl
        exact hn.1 (List.mem_map.mpr ⟨_, hm, rfl⟩)
      rw [lookup_written_of_ne hne]
      exact ih hn.2 hm

/-! ## §2. Reading fields. -/

/-- Decoding what is written gives a value back, up to a change `g`
    that the nulls make. -/
structure Reads (decode : Datum → Checked α) (write : Nulls → α → Datum) (g : Nulls → α → α) :
    Prop where
  /-- What is written is more than null. -/
  notNull : ∀ n x, write n x ≠ .null
  reads : ∀ n x, decode (write n x) = .ok (g n x)

/-- No change. -/
abbrev same (_ : Nulls) (x : α) : α := x

theorem optional_of_notNull {decode : Datum → Checked α} {d : Datum} (h : d ≠ .null) :
    Decode.optional decode d = some <$> decode d := by
  cases d with
  | null => exact absurd rfl h
  | _ => rfl

section Fields

variable {fields : List Field} (hn : (fields.map Prod.fst).Nodup) {n : Nulls} {name : String}
  {decode : Datum → Checked α} {write : Nulls → α → Datum} {g : Nulls → α → α}
  (hr : Reads decode write g)
include hn hr

theorem field_given {x : α} (i : Nat) (hi : fields[i]? = some (given n name write x))
    (default : α) :
    Decode.field (written fields) name default decode = .ok (g (n.below name) x) := by
  rw [Decode.field, lookup_written hn (List.mem_of_getElem? hi)]
  show (decode (write (n.below name) x)).within (.field name) = _
  rw [hr.reads, Checked.within_ok]

theorem required_given {x : α} (i : Nat) (hi : fields[i]? = some (given n name write x)) :
    Decode.required (written fields) name decode = .ok (g (n.below name) x) := by
  rw [Decode.required, lookup_written hn (List.mem_of_getElem? hi)]
  show (decode (write (n.below name) x)).within (.field name) = _
  rw [hr.reads, Checked.within_ok]

/-- A field without a value reads as none, whether it is null or left
    out. -/
theorem field_optional {x? : Option α} (i : Nat)
    (hi : fields[i]? = some (optional n name write x?)) :
    Decode.field (written fields) name none (Decode.optional decode)
      = .ok (x?.map (g (n.below name))) := by
  rw [Decode.field, lookup_written hn (List.mem_of_getElem? hi)]
  cases x? with
  | some x =>
    show (Decode.optional decode (write (n.below name) x)).within (.field name) = _
    rw [optional_of_notNull (hr.notNull _ _), hr.reads]
    rfl
  | none =>
    -- null is found and reads as none; nothing is found and the default is none
    cases n.has name with
    | true => rfl
    | false => rfl

end Fields

/-- A value that does not change. -/
theorem field_optional_same {fields : List Field} (hn : (fields.map Prod.fst).Nodup) {n : Nulls}
    {name : String} {decode : Datum → Checked α} {write : Nulls → α → Datum}
    (hr : Reads decode write same) {x? : Option α} (i : Nat)
    (hi : fields[i]? = some (optional n name write x?)) :
    Decode.field (written fields) name none (Decode.optional decode) = .ok x? := by
  rw [field_optional hn hr i hi]
  exact congrArg Checked.ok Option.map_id'

theorem reads_text : Reads Decode.text text same where
  notNull := nofun
  reads _ s := Encode.text_text s

theorem reads_int : Reads Decode.int int same where
  notNull := nofun
  reads _ _ := rfl

theorem reads_bool : Reads Decode.bool bool same where
  notNull := nofun
  reads _ _ := rfl

theorem Reads.list {decode : Datum → Checked α} {write : Nulls → α → Datum} {g : Nulls → α → α}
    (h : Reads decode write g) :
    Reads (Decode.list decode) (list write)
      (fun n xs => xs.mapIdx fun i x => g (n.inside (.index i)) x) where
  notNull := nofun
  reads n xs := Checked.each_mapIdx (fun i x => h.reads (n.inside (.index i)) x) 0 xs

/-- Lists of values that do not change. -/
theorem Reads.list_same {decode : Datum → Checked α} {write : Nulls → α → Datum}
    (h : Reads decode write same) : Reads (Decode.list decode) (Write.list write) same where
  notNull := nofun
  reads n xs := by
    rw [h.list.reads, mapIdx_self]

/-- A model is read when its fields are. -/
theorem reads_model {decode : Decode.Fields → Checked α} {fields : Nulls → α → List Field}
    {g : Nulls → α → α} (title : String)
    (h : ∀ n x, decode (written (fields n x)) = .ok (g n x)) :
    Reads (Decode.model title decode) (model fields) g where
  notNull := nofun
  reads := h

/-! ## §3. Reading models. -/

theorem reads_header :
    Reads (Decode.model "NameStringValuePair" Decode.header) (model headerFields) same := by
  refine reads_model _ fun n h => ?_
  have hn : ((headerFields n h).map Prod.fst).Nodup :=
    show ["name", "value"].Nodup by decide
  rw [Decode.header, required_given hn reads_text 0 rfl, field_optional_same hn reads_text 1 rfl]
  rfl

theorem reads_otlp :
    Reads (Decode.model "OTLPExporterConfig" Decode.otlp) (model otlpFields) same := by
  refine reads_model _ fun n o => ?_
  have hn : ((otlpFields n o).map Prod.fst).Nodup :=
    show ["protocol", "endpoint", "compression", "timeout", "headers", "certificate"].Nodup
    by decide
  have hprotocol := field_optional_same hn reads_text 0 rfl
  have hendpoint := field_optional_same hn reads_text 1 rfl
  have hcompression := field_optional_same hn reads_text 2 rfl
  have htimeout := field_optional_same hn reads_int 3 rfl
  have hheaders := field_given hn reads_header.list_same 4 rfl []
  have hcertificate := field_optional_same hn reads_text 5 rfl
  rw [Decode.otlp, hprotocol, hendpoint, hcompression, htimeout, hheaders, hcertificate]
  rfl

/-- The console is selected by a value and by null alike. -/
theorem field_console {fields : List Field} (hn : (fields.map Prod.fst).Nodup) {n : Nulls}
    {selected : Bool} (i : Nat) (hi : fields[i]? = some (console n selected)) :
    Decode.field (written fields) "console" false Decode.console
      = .ok (selected || n.has "console") := by
  rw [Decode.field, lookup_written hn (List.mem_of_getElem? hi)]
  -- null stands in for the value, so it counts even for a console that is not selected
  cases n.has "console" with
  | true =>
    rw [Bool.or_true]
    rfl
  | false =>
    rw [Bool.or_false]
    cases selected with
    | true => rfl
    | false => rfl

theorem reads_exporter :
    Reads (Decode.model "SpanExporterConfig" Decode.exporter) (model exporterFields)
      ExporterConfig.selecting := by
  refine reads_model _ fun n e => ?_
  have hn : ((exporterFields n e).map Prod.fst).Nodup :=
    show ["console", "otlp"].Nodup by decide
  rw [Decode.exporter, field_console hn 0 rfl, field_optional_same hn reads_otlp 1 rfl]
  rfl

theorem reads_simple :
    Reads (Decode.model "SimpleSpanProcessorConfig" Decode.simple) (model simpleFields)
      fun n => ExporterConfig.selecting (n.below "exporter") := by
  refine reads_model _ fun n e => ?_
  have hn : ((simpleFields n e).map Prod.fst).Nodup :=
    show ["exporter"].Nodup by decide
  exact field_given hn reads_exporter 0 rfl .unset

theorem reads_batch :
    Reads (Decode.model "BatchSpanProcessorConfig" Decode.batch) (model batchFields)
      BatchConfig.selecting := by
  refine reads_model _ fun n b => ?_
  have hn : ((batchFields n b).map Prod.fst).Nodup :=
    show ["max_export_batch_size", "export_timeout", "max_queue_size", "schedule_delay",
      "exporter"].Nodup by decide
  have hsize := field_optional_same hn reads_int 0 rfl
  have htimeout := field_optional_same hn reads_int 1 rfl
  have hqueue := field_optional_same hn reads_int 2 rfl
  have hdelay := field_optional_same hn reads_int 3 rfl
  have hexporter := field_given hn reads_exporter 4 rfl .unset
  rw [Decode.batch, hsize, htimeout, hqueue, hdelay, Decode.exporterField, hexporter]
  rfl

theorem reads_processor :
    Reads (Decode.model "SpanProcessorConfig" Decode.processor) (model processorFields)
      ProcessorConfig.selecting := by
  refine reads_model _ fun n p => ?_
  have hn : ((processorFields n p).map Prod.fst).Nodup :=
    show ["simple", "batch"].Nodup by decide
  have hsimple := field_optional hn reads_simple 0 rfl
  have hbatch := field_optional hn reads_batch 1 rfl
  rw [Decode.processor, hsimple, hbatch]
  rfl

theorem reads_pipeline :
    Reads (Decode.model "PipelineConfig" Decode.pipeline) (model pipelineFields)
      PipelineConfig.selecting := by
  refine reads_model _ fun n p => ?_
  have hn : ((pipelineFields n p).map Prod.fst).Nodup :=
    show ["processors"].Nodup by decide
  rw [Decode.pipeline, field_given hn reads_processor.list 0 rfl []]
  rfl

/-- Attributes keep their names, values and order. -/
theorem entries_record (es : List (String × Datum)) :
    Decode.entries (es.map fun (k, v) => (.text k, v)) = .ok es := by
  induction es with
  | nil => rfl
  | cons e es ih =>
    obtain ⟨k, v⟩ := e
    rw [List.map_cons, Decode.entries, ih, Encode.text_text]
    rfl

theorem reads_attributes : Reads Decode.dict attributes same where
  notNull := nofun
  reads _ r := by
    -- the names of a record are distinct, so setting them again gives it back
    show Record.ofList <$> Decode.entries (r.entries.map _) = _
    rw [entries_record, Checked.map_ok, Record.ofList_entries]

theorem reads_resource :
    Reads (Decode.model "ResourceConfig" Decode.resource) (model resourceFields) same := by
  refine reads_model _ fun n r => ?_
  have hn : ((resourceFields n r).map Prod.fst).Nodup :=
    show ["attributes", "schema_url"].Nodup by decide
  rw [Decode.resource, field_given hn reads_attributes 0 rfl .empty,
    field_optional_same hn reads_text 1 rfl]
  rfl

theorem reads_logger :
    Reads (Decode.model "LoggerConfig" Decode.logger) (model loggerFields) same := by
  refine reads_model _ fun n l => ?_
  have hn : ((loggerFields n l).map Prod.fst).Nodup :=
    show ["name", "level", "propagate"].Nodup by decide
  have hname := required_given hn reads_text 0 rfl
  have hlevel := field_given hn reads_text 1 rfl "INFO"
  have hpropagate := field_given hn reads_bool 2 rfl true
  rw [Decode.logger, hname, hlevel, hpropagate]
  rfl

/-- The names of the levels are in upper case. -/
theorem reads_logLevel : Reads Decode.logLevel logLevel same where
  notNull := nofun
  reads _ l := by
    cases l <;> rfl

/-- **Whole configurations are read back**, with the consoles selected
    that are null. -/
theorem reads_config :
    Reads (Decode.model "Config" Decode.config) config Config.selecting := by
  refine reads_model _ fun n c => ?_
  have hn : ((configFields n c).map Prod.fst).Nodup :=
    show ["disabled", "resource", "tracer_provider", "log_level", "log_format", "log_date_format",
      "loggers"].Nodup by decide
  have hdisabled := field_given hn reads_bool 0 rfl false
  have hresource := field_given hn reads_resource 1 rfl .unset
  have hprovider := field_optional hn reads_pipeline 2 rfl
  have hlevel := field_given hn reads_logLevel 3 rfl .info
  have hformat := field_given hn reads_text 4 rfl defaultLogFormat
  have hdates := field_given hn reads_text 5 rfl defaultLogDateFormat
  have hloggers := field_given hn reads_logger.list_same 6 rfl []
  rw [Decode.config, hdisabled, hresource, hprovider, hlevel, hformat, hdates, hloggers]
  rfl

/-! ## §4. Without nulls. -/

theorem optional_nowhere (name : String) (write : Nulls → α → Datum) (x? : Option α) :
    optional .nowhere name write x? = (name, x?.map (write .nowhere)) := by
  cases x? with
  | none => rfl
  | some x => rfl

theorem given_nowhere (name : String) {write : Nulls → α → Datum} {x : α} {d : Datum}
    (h : write .nowhere x = d) : given .nowhere name write x = (name, some d) :=
  congrArg (fun d => (name, some d)) h

theorem list_nowhere {write : Nulls → α → Datum} {encode : α → Datum}
    (h : ∀ x, write .nowhere x = encode x) (xs : List α) :
    list write .nowhere xs = .list (xs.map encode) := by
  have hmap : (xs.mapIdx fun _ x => write .nowhere x) = xs.map encode :=
    List.ext_getElem (by rw [List.length_mapIdx, List.length_map]) fun i _ _ => by
      rw [List.getElem_mapIdx, List.getElem_map, h]
  exact congrArg Datum.list hmap

theorem header_nowhere (h : Header) :
    model headerFields .nowhere h = Encode.header .leftOut h := by
  rw [model, headerFields, optional_nowhere]
  rfl

theorem otlp_nowhere (o : OtlpConfig) : model otlpFields .nowhere o = Encode.otlp .leftOut o := by
  have hheaders := given_nowhere "headers" (list_nowhere header_nowhere o.headers)
  simp only [model, otlpFields, optional_nowhere, hheaders]
  rfl

theorem exporter_nowhere (e : ExporterConfig) :
    model exporterFields .nowhere e = Encode.exporter .leftOut e := by
  have hotlp : model otlpFields .nowhere = Encode.otlp .leftOut := funext otlp_nowhere
  rw [model, exporterFields, optional_nowhere, hotlp]
  rfl

theorem simple_nowhere (e : ExporterConfig) :
    model simpleFields .nowhere e = Encode.simple .leftOut e := by
  rw [model, simpleFields, given_nowhere "exporter" (exporter_nowhere e)]
  rfl

theorem batch_nowhere (b : BatchConfig) :
    model batchFields .nowhere b = Encode.batch .leftOut b := by
  have hexporter := given_nowhere "exporter" (exporter_nowhere b.exporter)
  simp only [model, batchFields, optional_nowhere, hexporter]
  rfl

theorem processor_nowhere (p : ProcessorConfig) :
    model processorFields .nowhere p = Encode.processor .leftOut p := by
  have hsimple : model simpleFields .nowhere = Encode.simple .leftOut := funext simple_nowhere
  have hbatch : model batchFields .nowhere = Encode.batch .leftOut := funext batch_nowhere
  rw [model, processorFields, optional_nowhere, optional_nowhere, hsimple, hbatch]
  rfl

theorem pipeline_nowhere (p : PipelineConfig) :
    model pipelineFields .nowhere p = Encode.pipeline .leftOut p := by
  have hprocessors := given_nowhere "processors" (list_nowhere processor_nowhere p.processors)
  rw [model, pipelineFields, hprocessors]
  rfl

theorem resource_nowhere (r : ResourceConfig) :
    model resourceFields .nowhere r = Encode.resource .leftOut r := by
  rw [model, resourceFields, optional_nowhere]
  rfl

theorem logger_nowhere (l : LoggerConfig) :
    model loggerFields .nowhere l = Encode.logger .leftOut l := rfl

/-- Without nulls a configuration is written with the fields that have
    values. -/
theorem config_nowhere (c : Config) : config .nowhere c = Encode.config .leftOut c := by
  have hresource := given_nowhere "resource" (resource_nowhere c.resource)
  have hpipeline : model pipelineFields .nowhere = Encode.pipeline .leftOut :=
    funext pipeline_nowhere
  have hloggers := given_nowhere "loggers" (list_nowhere logger_nowhere c.loggers)
  simp only [config, model, configFields, optional_nowhere, hresource, hpipeline, hloggers]
  rfl

end Write

/-! ## §5. What is present. -/

/-- There is a value under the name, and not null. -/
def Decode.hasValue (fs : Decode.Fields) (name : String) : Bool :=
  match Datum.lookup (.text name) fs with
  | none | some .null => false
  | some _ => true

/-- The data choose the kind: a console may be null. -/
def ExporterKind.isPresent (fs : Decode.Fields) : ExporterKind → Bool
  | .console => (Datum.lookup (.text "console") fs).isSome
  | .otlp => Decode.hasValue fs "otlp"

/-- The data choose the kind. -/
def ProcessorKind.isPresent (fs : Decode.Fields) (k : ProcessorKind) : Bool :=
  Decode.hasValue fs k.name

namespace Decode

/-- An optional field has a value when one is there and it is not
    null. -/
theorem isSome_of_field_optional {fs : Fields} {name : String} {decode : Datum → Checked α}
    {x? : Option α} (h : field fs name none (optional decode) = .ok x?) :
    x?.isSome = hasValue fs name := by
  unfold field at h
  unfold hasValue
  cases hl : Datum.lookup (.text name) fs with
  | none =>
    rw [hl] at h
    cases h
    rfl
  | some d =>
    rw [hl] at h
    have h := Checked.within_eq_ok h
    by_cases hd : d = .null
    · subst hd
      cases h
      rfl
    · rw [Write.optional_of_notNull hd] at h
      obtain ⟨x, -, rfl⟩ := Checked.map_eq_ok h
      cases d with
      | null => exact absurd rfl hd
      | _ => rfl

/-- A console is selected when one is there. -/
theorem console_of_field {fs : Fields} {selected : Bool}
    (h : field fs "console" false console = .ok selected) :
    selected = (Datum.lookup (.text "console") fs).isSome := by
  unfold field at h
  cases hl : Datum.lookup (.text "console") fs with
  | none =>
    rw [hl] at h
    cases h
    rfl
  | some d =>
    rw [hl] at h
    have h := Checked.within_eq_ok h
    cases d with
    | null | map es =>
      cases h
      rfl
    | _ => cases h

/-- **The populated exporters are those that are present.** -/
theorem populated_exporter {fs : Fields} {e : ExporterConfig} (h : exporter fs = .ok e) :
    e.populated = [ExporterKind.console, .otlp].filter (ExporterKind.isPresent fs) := by
  obtain ⟨_, otlp, hfirst, ho, rfl⟩ := Checked.seq_eq_ok h
  obtain ⟨selected, hc, rfl⟩ := Checked.map_eq_ok hfirst
  have hconsole : selected = ExporterKind.isPresent fs .console := console_of_field hc
  have hotlp : otlp.isSome = ExporterKind.isPresent fs .otlp := isSome_of_field_optional ho
  rw [ExporterConfig.populated, hotlp, hconsole, List.filter_cons, List.filter_cons,
    List.filter_nil]
  cases ExporterKind.isPresent fs .console <;> rfl

/-- **The populated processors are those that are present.** -/
theorem populated_processor {fs : Fields} {p : ProcessorConfig} (h : processor fs = .ok p) :
    p.populated = [ProcessorKind.simple, .batch].filter (ProcessorKind.isPresent fs) := by
  obtain ⟨_, batch, hfirst, hb, rfl⟩ := Checked.seq_eq_ok h
  obtain ⟨simple, hs, rfl⟩ := Checked.map_eq_ok hfirst
  have hsimple : simple.isSome = ProcessorKind.isPresent fs .simple := isSome_of_field_optional hs
  have hbatch : batch.isSome = ProcessorKind.isPresent fs .batch := isSome_of_field_optional hb
  rw [ProcessorConfig.populated, hsimple, hbatch, List.filter_cons, List.filter_cons,
    List.filter_nil]
  cases ProcessorKind.isPresent fs .simple <;> rfl

end Decode

/-! ## §6. Round trip. -/

/-- **Decoding loses and rejects nothing**: written without the fields
    that have no value, or with nulls for any of them, a configuration
    comes back, with the consoles selected that are null.  What an
    exporter or a processor then lists is what is present. -/
theorem Config.written_round_trip (c : Config) :
    Decode.model "Config" Decode.config (Encode.config .leftOut c) = .ok c ∧
    (∀ n : Nulls, n.SparesConsoles →
      Decode.model "Config" Decode.config (Write.config n c) = .ok c) ∧
    (∀ n : Nulls, Decode.model "Config" Decode.config (Write.config n c) = .ok (c.selecting n)) ∧
    (∀ fs e, Decode.exporter fs = .ok e →
      e.populated = [ExporterKind.console, .otlp].filter (ExporterKind.isPresent fs)) ∧
    (∀ fs p, Decode.processor fs = .ok p →
      p.populated = [ProcessorKind.simple, .batch].filter (ProcessorKind.isPresent fs)) := by
  have hread (n : Nulls) := Write.reads_config.reads n c
  refine ⟨?_, ?_, hread, fun _ _ => Decode.populated_exporter,
    fun _ _ => Decode.populated_processor⟩
  · rw [← Write.config_nowhere, hread, selecting_spared Nulls.sparesConsoles_nowhere]
  · intro n hn
    rw [hread, selecting_spared hn]

/-- A batching processor with numbers out of every range, and a simple
    one that chooses no exporter. -/
def Config.outOfRange : Config :=
  { Config.default with
    logLevel := .critical
    tracerProvider := some ⟨
      [ ⟨none, some ⟨some (-1), none, some (10 ^ 40), none,
          ⟨false, some ⟨some "", none, none, some 0, [⟨"a", none⟩, ⟨"a", some "b"⟩], none⟩⟩⟩⟩,
        ⟨some .unset, none⟩ ]⟩ }

theorem Config.written_round_trip_outOfRange :
    Nulls.besidesConsoles.SparesConsoles ∧
    Decode.model "Config" Decode.config (Write.config .besidesConsoles outOfRange)
      = .ok outOfRange ∧
    Decode.model "Config" Decode.config (Write.config (fun _ => true) outOfRange)
      = .ok (outOfRange.selecting fun _ => true) ∧
    Decode.exporter [(.text "console", .null)] = .ok ⟨true, none⟩ ∧
    (⟨true, none⟩ : ExporterConfig).populated
      = [ExporterKind.console, .otlp].filter (ExporterKind.isPresent [(.text "console", .null)]) ∧
    Decode.processor [(.text "batch", .null)] = .ok ⟨none, none⟩ ∧
    (⟨none, none⟩ : ProcessorConfig).populated
      = [ProcessorKind.simple, .batch].filter (ProcessorKind.isPresent [(.text "batch", .null)]) :=
  have h := written_round_trip outOfRange
  ⟨Nulls.sparesConsoles_besidesConsoles, h.2.1 _ Nulls.sparesConsoles_besidesConsoles,
    h.2.2.1 _, rfl, h.2.2.2.1 _ _ rfl, rfl, h.2.2.2.2 _ _ rfl⟩

end SpanPipeline
