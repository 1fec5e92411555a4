/-
  SpanPipeline.Trial
  ──────────────────
  Trying a configuration out.

  The configured pipeline is built, one span may be sent through
  it, and it is shut down again, whatever happened before.

  Main results:
    * `run_failed` — a configuration at fault ends the trial.
-/
import SpanPipeline.Session

namespace SpanPipeline.Trial

/-- What is logged when the span was sent. -/
def emittedRecord (name : String) : LogRecord :=
  { level := .info, source := .main, message := "Emitted test span"
    extra := [("span_name", .text name)] }

/-- What is logged at the end of a trial without failures. -/
def validRecord : LogRecord :=
  { level := .info, source := .main, message := "Trace pipeline configuration is valid" }

/-- Send a span of the given name through a setup, unless the name
    is missing or empty. -/
def emit (host : Host) (setup : Setup) (name : Option String) : Act Setup :=
  match name.filter (· ≠ "") with
  | none => return setup
  | some name => do
    Act.log [emittedRecord name]
    let (setup, events) := setup.take host ⟨name, Setup.defaultTracer⟩
    Act.events events
    return setup

/-- Try a configuration out. -/
def run (host : Host) (config : Config) (name : Option String) : Act Unit := do
  let setup ← Setup.build host (some config) none
  let setup ← emit host setup name
  (setup.shutdown host).2
  Act.log [validRecord]

theorem run_failed {host : Host} {config : Config} {name : Option String} {j j' : Journal}
    {f : Failure} (h : (Setup.build host (some config) none).run j = (.error f, j')) :
    (run host config name).run j = (.error f, j') := by
  simp [run, Act.run_bind, h]

end SpanPipeline.Trial
