/-
  SpanPipeline.Tls.Trust
  ──────────────────────
  Loading the certificates that an exporter trusts.

  The bundle is read once and must be one that the TLS library
  accepts.  A bundle that is none is reported in the words of the
  transport that asked for it; what the library says about it is only
  logged.

  Main results:
    * `load_eq_ok` — loading succeeds exactly when the file can be
      read and nothing is wrong with it as a bundle, and then gives
      its content.
-/
import SpanPipeline.Host

namespace SpanPipeline.Tls

/-- Who asks for a bundle. -/
inductive Carrier where
  | grpc
  | http
  deriving DecidableEq, Repr

/-- How a carrier reports a bundle without certificates. -/
def Carrier.complaint : Carrier → String
  | .grpc => "credentials: failed to append certificates"
  | .http => "failed to append certificate to the cert pool"

/-- Why no bundle is loaded. -/
inductive TrustFault where
  /-- The path holds the character of code zero. -/
  | nulInPath
  /-- The file cannot be read. -/
  | unreadable (fault : FileFault)
  /-- The file is no bundle, for a reason that the library gives. -/
  | rejected (path reason : String)
  deriving DecidableEq, Repr

/-- The fault as a failure.  A path that is none at all is not one
    of the pipeline's own failures. -/
def TrustFault.failure (c : Carrier) : TrustFault → Failure
  | .nulInPath => .foreign (.value "embedded null byte")
  | .unreadable fault => .credentials fault.message
  | .rejected _ _ => .credentials c.complaint

/-- The exception with which the TLS library rejects a bundle. -/
def rejection (reason : String) : Raised := ⟨"SSLError", reason⟩

/-- What is logged about the fault. -/
def TrustFault.records : TrustFault → List LogRecord
  | .rejected path reason =>
    [{ level := .debug, source := .tls, message := "Rejected certificate bundle"
       extra := [("path", .text path)], error := some (.exception (rejection reason)) }]
  | _ => []

/-- The content of the bundle at a path. -/
def load (host : Host) (path : String) : Except TrustFault (List UInt8) :=
  if hasNul path then .error .nulInPath
  else match host.files.read path with
    | .error fault => .error (.unreadable fault)
    | .ok content =>
      match host.libraries.bundleFault? content with
      | some reason => .error (.rejected path reason)
      | none => .ok content

theorem load_eq_ok {host : Host} {path : String} {content : List UInt8} :
    load host path = .ok content ↔ hasNul path = false ∧ host.files.read path = .ok content
      ∧ host.libraries.bundleFault? content = none := by
  unfold load
  grind

end SpanPipeline.Tls
