/-
  SpanPipeline.Exporter
  ─────────────────────
  From the configuration of an exporter to the exporter.

  Precisely one exporter must be chosen.  The settings of an OTLP
  exporter are resolved in a fixed order: protocol, compression,
  timeout, endpoint, trusted certificates, headers.  The first step
  that fails ends the resolution, because later steps depend on the
  transport that earlier ones pick.  Only when none fails is an
  exporter created.

  Main results:
    * `resolve_error` — a failed resolution creates no exporter.
    * `resolve_ok` — a successful one creates one exporter, with
      the next free number.
-/
import SpanPipeline.Endpoint
import SpanPipeline.Failure.Check
import SpanPipeline.Tls.Trust

namespace SpanPipeline

open Number

/-! ## §1. Headers. -/

namespace Header

/-- Headers as names and values, in order; a missing value is an
    empty one. -/
def pairs (hs : List Header) : List (String × String) :=
  hs.map fun h => (h.name, h.value.getD "")

/-- Add a value to those of its name. -/
def merge (r : Record (List String)) (p : String × String) : Record (List String) :=
  r.set p.1 ((r.get? p.1).getD [] ++ [p.2])

/-- The values of each name, in order. -/
def grouped (hs : List Header) : Record (List String) :=
  (pairs hs).foldl merge .empty

/-- Headers with one value to a name: the values of a repeated name
    are joined by commas. -/
def joined (hs : List Header) : List (String × String) :=
  (grouped hs).entries.map fun e => (e.1, String.intercalate ", " e.2)

end Header

/-! ## §2. Timeouts. -/

/-- The seconds that a timeout in milliseconds stands for.  Zero
    keeps the default of the exporter, as does no timeout. -/
def resolveTimeout (timeout : Option Int) : Except Failure (Option Binary64) :=
  match Check.nonNegative "timeout" timeout with
  | some f => .error f
  | none =>
    match timeout with
    | none => .ok none
    | some t =>
      if t = 0 then .ok none
      else match ofQuotient? t.toNat 1000 with
        | some (m, e) => .ok (some (.finite false m e))
        | none => .error (.foreign (.overflow .timeout))

/-! ## §3. Transports. -/

/-- The ways to reach a collector.  The generic one supports
    nothing; the others are found by the name of their protocol. -/
inductive Transport where
  | generic
  | grpc
  | httpProtobuf
  | httpJson
  deriving DecidableEq, Repr

namespace Transport

/-- The transports that a configuration can name. -/
def all : List Transport := [.grpc, .httpProtobuf, .httpJson]

/-- The name of the protocol. -/
def name : Transport → String
  | .generic => ""
  | .grpc => "grpc"
  | .httpProtobuf => "http/protobuf"
  | .httpJson => "http/json"

/-- Where data are sent unless an endpoint is set. -/
def defaultEndpoint : Transport → String
  | .generic => ""
  | .grpc => "localhost:4317"
  | .httpProtobuf => Endpoint.localCollector
  | .httpJson => Endpoint.localCollector

/-- The compressions that a transport supports. -/
def compressions : Transport → List Compression
  | .generic => []
  | _ => [.gzip, .none]

/-- The protocol used unless one is set. -/
def defaultName : String := Transport.httpProtobuf.name

/-- The transport that a configuration names. -/
def resolve (protocol : Option String) : Except Failure Transport :=
  let value := protocol.getD defaultName
  match all.find? fun t => t.name == value with
  | some t => .ok t
  | none => .error (Check.unsupported "protocol" value)

/-- The compression that a configuration names. -/
def resolveCompression (t : Transport) (compression : Option String) :
    Except Failure Compression :=
  let value := compression.getD Compression.none.name
  match t.compressions.find? fun c => c.name == value with
  | some c => .ok c
  | none => .error (Check.unsupported "compression" value)

end Transport

/-! ## §4. The plan of an exporter. -/

/-- Why there is no exporter, and what is logged about it. -/
structure Refusal where
  failure : Failure
  records : List LogRecord := []

namespace Exporter

/-- Fail without a log record. -/
def plainly (r : Except Failure α) : Except Refusal α :=
  match r with
  | .ok x => .ok x
  | .error f => .error { failure := f }

/-- The bundle of trusted certificates, if one is configured. -/
def trust (host : Host) (c : Tls.Carrier) (path : Option String) :
    Except Refusal (Option (List UInt8)) :=
  match path with
  | none => .ok none
  | some p =>
    match Tls.load host p with
    | .ok content => .ok (some content)
    | .error fault => .error ⟨fault.failure c, fault.records⟩

/-- Headers, if there are any. -/
def headers? (write : List Header → List (String × String)) (hs : List Header) :
    Option (List (String × String)) :=
  if hs.isEmpty then none else some (write hs)

/-- The target of a gRPC exporter, and whether the connection to it
    is left open to others.  Nothing is said about that unless an
    endpoint is set. -/
def grpcTarget (o : OtlpConfig) : Except Failure (String × Option Bool) :=
  match o.endpoint with
  | none => .ok (Transport.grpc.defaultEndpoint, none)
  | some e => do
    let u ← Endpoint.parse e o.certificate.isSome
    return (String.ofList u.netloc, some (u.scheme == "http".toList))

/-- The settings of a gRPC exporter. -/
def planGrpc (host : Host) (o : OtlpConfig) : Except Refusal GrpcSettings := do
  let compression ← plainly (Transport.grpc.resolveCompression o.compression)
  let timeout ← plainly (resolveTimeout o.timeout)
  let (endpoint, insecure) ← plainly (grpcTarget o)
  let credentials ← trust host .grpc o.certificate
  return { compression, timeout, endpoint, insecure, credentials
           headers := headers? Header.pairs o.headers }

/-- The settings of an HTTP exporter. -/
def planHttp (host : Host) (t : Transport) (o : OtlpConfig) : Except Refusal HttpSettings := do
  let compression ← plainly (t.resolveCompression o.compression)
  let timeout ← plainly (resolveTimeout o.timeout)
  let endpoint ← plainly (Endpoint.resolveUrl o.endpoint o.certificate.isSome)
  let _ ← trust host .http o.certificate
  return { compression, timeout, endpoint, certificate := o.certificate
           headers := headers? Header.joined o.headers }

/-- What is logged when a gRPC exporter is created. -/
def grpcRecords (s : GrpcSettings) : List LogRecord :=
  [{ level := .debug, source := .exporters, message := "Creating OTLP gRPC span exporter"
     extra := [ ("endpoint", .text s.endpoint),
                ("insecure", (s.insecure.map Datum.bool).getD .null),
                ("has_certificate", .bool s.credentials.isSome) ] }]

/-- What is logged when an HTTP exporter is created.  Payloads are
    protobuf whatever the protocol says. -/
def httpRecords (t : Transport) (s : HttpSettings) : List LogRecord :=
  let place := [("protocol", Datum.text t.name), ("endpoint", .text s.endpoint)]
  (if t = .httpJson then
    [{ level := .warning, source := .exporters
       message := "OTLP/HTTP exporter only encodes protobuf payloads", extra := place }]
  else [])
  ++ [{ level := .debug, source := .exporters, message := "Creating OTLP HTTP span exporter"
        extra := place ++ [("has_certificate", .bool s.certificate.isSome)] }]

/-- An OTLP exporter on a transport, and what is logged about it. -/
def planOtlp (host : Host) (t : Transport) (o : OtlpConfig) :
    Except Refusal (ExporterSpec × List LogRecord) :=
  match t with
  | .generic => .error { failure := .foreign .notImplemented }
  | .grpc => (planGrpc host o).map fun s => (.grpc s, grpcRecords s)
  | t => (planHttp host t o).map fun s => (.http s, httpRecords t s)

/-- What is logged when a console exporter is created. -/
def consoleRecords : List LogRecord :=
  [{ level := .debug, source := .exporters, message := "Creating console span exporter" }]

/-- The exporter that a configuration describes, and what is logged
    about it. -/
def plan (host : Host) (e : ExporterConfig) :
    Except Refusal (ExporterSpec × List LogRecord) :=
  match e.console, e.otlp with
  | true, some _ => .error { failure := .configuration "must not specify multiple exporters" }
  | false, none => .error { failure := .configuration "no valid span exporter" }
  | true, none => .ok (.console, consoleRecords)
  | false, some o =>
    match plainly (Transport.resolve o.protocol) with
    | .error r => .error r
    | .ok t => planOtlp host t o

end Exporter

/-! ## §5. Creating exporters. -/

/-- An exporter that was created: its number and its kind. -/
structure Exporter where
  id : Nat
  className : String
  deriving DecidableEq, Repr

namespace Exporter

/-- Create the exporter that a configuration describes. -/
def resolve (host : Host) (e : ExporterConfig) : Act Exporter :=
  match plan host e with
  | .error r => do
    Act.log r.records
    Act.fail r.failure
  | .ok (spec, records) => do
    Act.log records
    let id ← Act.created
    Act.event (.create id spec)
    return ⟨id, spec.className⟩

/-- Shut an exporter down.  It may refuse, after the event. -/
def shutdown (host : Host) (e : Exporter) : Act Unit := do
  Act.event (.shutdown e.id)
  match host.refusal e.id with
  | none => return ()
  | some f => Act.fail f

theorem resolve_error {host : Host} {e : ExporterConfig} {r : Refusal}
    (h : plan host e = .error r) (j : Journal) :
    (resolve host e).run j = (.error r.failure, j.addRecords r.records) := by
  simp [resolve, h, Act.run_bind]

theorem resolve_ok {host : Host} {e : ExporterConfig} {spec : ExporterSpec}
    {records : List LogRecord} (h : plan host e = .ok (spec, records)) (j : Journal) :
    (resolve host e).run j = (.ok ⟨j.created, spec.className⟩,
      (j.addRecords records).addEvent (.create j.created spec)) := by
  simp [resolve, h, Act.run_bind, Journal.created, Journal.addRecords]

end Exporter

end SpanPipeline
