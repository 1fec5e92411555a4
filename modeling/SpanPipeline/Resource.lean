/-
  SpanPipeline.Resource
  ─────────────────────
  What every span says about the program that sends it.

  A resource starts from the defaults of the instrumentation.  Over
  them come the attributes that the environment names, then the
  configured ones; each later source wins.  A program without a
  service name is an unknown service.

  Attribute values are truth values, texts, numbers, and sequences
  of one of these kinds, possibly with gaps.  Others are dropped.

  Main results:
    * `get?_merge` — the attributes of the later resource win.
    * `merge_of_conflict` — two different schemas do not merge.
-/
import SpanPipeline.Host
import SpanPipeline.Text.Percent
import SpanPipeline.Text.Blank
import SpanPipeline.Text.Utf8

namespace SpanPipeline

open Text

/-! ## §1. Attribute values. -/

/-- The kinds of simple attribute values. -/
inductive AttributeKind where
  | bool
  | int
  | float
  | text
  deriving DecidableEq, Repr

/-- The kind of a value that may stand in an attribute. -/
def Datum.attributeKind? : Datum → Option AttributeKind
  | .bool _ => some .bool
  | .int _ => some .int
  | .float _ => some .float
  | .text _ => some .text
  | _ => none

namespace Attribute

/-- A simple value; bytes become the text they encode. -/
def simple? : Datum → Option Datum
  | .bytes bs => (decodeUtf8 bs).toOption.map fun cs => .text (String.ofList cs)
  | d => if d.attributeKind?.isSome then some d else none

/-- An element of a sequence.  Bytes that encode no text leave a
    gap; `none` is a value that no sequence may hold. -/
def element? : Datum → Option Datum
  | .null => some .null
  | .bytes bs => some ((simple? (.bytes bs)).getD .null)
  | d => simple? d

/-- The elements of a sequence have one kind, gaps apart. -/
def isUniform (xs : List Datum) : Bool :=
  match xs.filterMap Datum.attributeKind? with
  | [] => true
  | k :: ks => ks.all (· == k)

/-- The value that an attribute takes. -/
def clean? : Datum → Option Datum
  | .list xs =>
    (xs.mapM element?).bind fun ys => if isUniform ys then some (.list ys) else none
  | d => simple? d

/-- The attributes with a name and a value that can be kept. -/
def cleanAll (es : List (String × Datum)) : Record Datum :=
  .ofList (es.filterMap fun e =>
    if e.1.isEmpty then none else (clean? e.2).map (e.1, ·))

end Attribute

/-! ## §2. Resources. -/

/-- Attributes and the schema they follow; an empty schema is
    none. -/
structure Resource where
  attributes : Record Datum
  schemaUrl : String

namespace Resource

/-- The resource with the given attributes. -/
def ofAttributes (es : List (String × Datum)) (schemaUrl : String) : Resource :=
  ⟨Attribute.cleanAll es, schemaUrl⟩

/-- Both resources name a schema, and not the same one. -/
def conflicts (a b : Resource) : Bool :=
  a.schemaUrl != "" && b.schemaUrl != "" && a.schemaUrl != b.schemaUrl

/-- The attributes of both resources; those of the second win. -/
def merge (a b : Resource) : Resource :=
  if a.conflicts b then a
  else ⟨a.attributes.setAll b.attributes.entries,
    if a.schemaUrl = "" then b.schemaUrl else a.schemaUrl⟩

/-- The name of the attribute that names the service. -/
def serviceName : String := "service.name"

/-- The name of a service that has none. -/
def unknownService : String := "unknown_service"

/-- What the instrumentation of a version says about itself. -/
def default (version : String) : Resource :=
  ofAttributes
    [ ("telemetry.sdk.language", .text "python"), ("telemetry.sdk.name", .text "opentelemetry"),
      ("telemetry.sdk.version", .text version) ] ""

/-- The attribute that one item of the environment's list sets. -/
def environmentItem? (item : List Char) : Option (String × Datum) :=
  (cut? '=' item).map fun (name, value) =>
    (String.ofList (trim name), .text (String.ofList (percentDecode (trim value))))

/-- The attributes that the environment names. -/
def ofEnvironment (env : Environment) : Resource :=
  let items := match env "OTEL_RESOURCE_ATTRIBUTES" with
    | none => []
    | some list => if list.isEmpty then []
        else (splitOn ',' list.toList).filterMap environmentItem?
  let service := match env "OTEL_SERVICE_NAME" with
    | none => []
    | some name => if name.isEmpty then [] else [(serviceName, Datum.text name)]
  ofAttributes (items ++ service) ""

/-- The resource with a name for its service. -/
def withService (r : Resource) : Resource :=
  match r.attributes.get? serviceName with
  | some name =>
    if name.isFalsy then
      { r with attributes := r.attributes.set serviceName (.text unknownService) }
    else r
  | none => { r with attributes := r.attributes.set serviceName (.text unknownService) }

/-- The resource of a program with the given attributes of its
    own. -/
def create (host : Host) (es : List (String × Datum)) (schemaUrl : String) : Resource :=
  (((default host.libraries.version).merge (ofEnvironment host.env)).merge
    (ofAttributes es schemaUrl)).withService

/-- The resource that a configuration describes. -/
def ofConfig (host : Host) (c : Option ResourceConfig) : Resource :=
  match c with
  | none => create host [] ""
  | some c => create host c.attributes.entries (c.schemaUrl.getD "")

theorem get?_merge {a b : Resource} {name : String} {value : Datum}
    (hc : a.conflicts b = false) (h : (name, value) ∈ b.attributes.entries) :
    (a.merge b).attributes.get? name = some value := by
  simp only [merge, hc, Bool.false_eq_true, ↓reduceIte]
  exact Record.get?_setAll b.attributes.nodup h

theorem merge_of_conflict {a b : Resource} (h : a.conflicts b = true) : a.merge b = a := by
  simp [merge, h]

end Resource

end SpanPipeline
