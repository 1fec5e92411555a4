/-
  SpanPipeline.Session
  ────────────────────
  Tracing setups side by side in one program.

  A setup is built from a configuration.  It owns a live provider,
  or none when tracing is disabled or nothing is configured.  One
  of the setups may be installed for the whole program; the first
  one that is installed stays.

  Spans nest.  A span belongs to the provider through which it was
  opened, which sees it when it ends.

  Main results:
    * `install_of_some` — a later installation changes nothing.
    * `build_disabled` — a disabled configuration makes nothing.
-/
import SpanPipeline.Delivery
import SpanPipeline.Resource

namespace SpanPipeline

/-! ## §1. Setups. -/

/-- A tracing setup: its provider, if it has a live one, with the
    resource of its spans. -/
structure Setup where
  live : Option (Provider × Resource)

namespace Setup

/-- The setup that does nothing. -/
def inactive : Setup := ⟨none⟩

/-- The class of the provider. -/
def providerName (s : Setup) : String :=
  if s.live.isSome then "TracerProvider" else "NoOpTracerProvider"

/-- The tracer that is used unless another one is named. -/
def defaultTracer : String := "ziggiz-courier-trace-pipeline"

/-- What is logged when tracing is disabled. -/
def disabledRecord : LogRecord :=
  { level := .debug, source := .telemetry, message := "Tracing disabled, using no-op SDK" }

/-- Build a setup.  Its resource is the given one, or else what the
    configuration describes. -/
def build (host : Host) (config : Option Config) (resource : Option Resource) : Act Setup :=
  match config.filter fun c => !c.disabled with
  | none => do
    Act.log [disabledRecord]
    return inactive
  | some c => do
    match ← Pipeline.resolve host c.tracerProvider with
    | .inactive => return inactive
    | .failed f => Act.fail f
    | .live ps =>
      return ⟨some (.ofProcessors ps, resource.getD (Resource.ofConfig host (some c.resource)))⟩

/-- The setup after a span ended, and what happens. -/
def take (host : Host) (span : Span) (s : Setup) : Setup × List Event :=
  match s.live with
  | none => (s, [])
  | some (p, r) => (⟨some ((p.take host span).1, r)⟩, (p.take host span).2)

/-- Shut a setup down: the setup afterwards, and what happens. -/
def shutdown (host : Host) (s : Setup) : Setup × Act Unit :=
  match s.live with
  | none => (s, pure ())
  | some (p, r) => (⟨some ((p.shutdown host).1, r)⟩, (p.shutdown host).2)

theorem build_disabled {host : Host} {c : Config} {resource : Option Resource}
    (h : c.disabled = true) (j : Journal) :
    (build host (some c) resource).run j = (.ok inactive, j.addRecords [disabledRecord]) := by
  have hf : Option.filter (fun c : Config => !c.disabled) (some c) = none := by simp [h]
  simp [build, hf, Act.run_bind]

end Setup

/-! ## §2. Sessions. -/

/-- A span that was opened. -/
structure OpenSpan where
  span : Span
  /-- The setup through which it was opened, if that was a known
      one. -/
  setup : Option Nat

/-- All setups of a program, the installed one, and the open spans,
    innermost first. -/
structure Session where
  setups : List Setup := []
  installed : Option Nat := none
  spans : List OpenSpan := []

/-- What can be done in a session. -/
inductive SessionStep where
  /-- Build a setup. -/
  | create (config : Option Config) (resource : Option Resource)
  /-- Build a setup and install it. -/
  | configure (config : Option Config)
  /-- Open a span through a setup, or through the installed one. -/
  | start (setup : Option Nat) (name : String) (tracer : Option String)
  /-- End the innermost span. -/
  | finish
  /-- Shut a setup down. -/
  | shutdown (setup : Nat)

namespace Session

/-- Install a setup, unless one is installed. -/
def install (s : Session) (index : Nat) : Session :=
  { s with installed := s.installed.or (some index) }

/-- Open a span. -/
def start (s : Session) (setup : Option Nat) (name : String) (tracer : Option String) : Session :=
  { s with spans :=
    ⟨⟨name, tracer.getD Setup.defaultTracer⟩, setup.or s.installed⟩ :: s.spans }

/-- The setup at a position is replaced. -/
def replace (s : Session) (index : Nat) (setup : Setup) : Session :=
  { s with setups := s.setups.set index setup }

/-- The session after its innermost span ended, and what happens. -/
def finish (host : Host) (s : Session) : Session × List Event :=
  match s.spans with
  | [] => (s, [])
  | o :: rest =>
    let s := { s with spans := rest }
    match o.setup with
    | none => (s, [])
    | some index =>
      match s.setups[index]? with
      | none => (s, [])
      | some setup => (s.replace index (setup.take host o.span).1, (setup.take host o.span).2)

/-- Build a setup, which takes the next position. -/
def create (host : Host) (s : Session) (config : Option Config) (resource : Option Resource) :
    Act Session := do
  let setup ← Setup.build host config resource
  return { s with setups := s.setups ++ [setup] }

/-- Build a setup and install it. -/
def configure (host : Host) (s : Session) (config : Option Config) : Act Session := do
  let s' ← create host s config none
  return s'.install s.setups.length

/-- Shut the setup at a position down: the session afterwards, and
    what happens. -/
def shutdown (host : Host) (s : Session) (index : Nat) : Session × Act Unit :=
  match s.setups[index]? with
  | none => (s, pure ())
  | some setup => (s.replace index (setup.shutdown host).1, (setup.shutdown host).2)

/-- The session that results, or the old one with the reason why
    there is none. -/
def settle (s : Session) (r : Except Failure Session) : Session × Option Failure :=
  match r with
  | .ok s' => (s', none)
  | .error f => (s, some f)

/-- The failure of an outcome. -/
def failure? : Except Failure α → Option Failure
  | .ok _ => none
  | .error f => some f

/-- Take one step: the session afterwards, and the failure that the
    step ends with. -/
def step (host : Host) (s : Session) : SessionStep → Act (Session × Option Failure)
  | .create config resource => do
    return s.settle (← (s.create host config resource).outcome)
  | .configure config => do
    return s.settle (← (s.configure host config).outcome)
  | .start setup name tracer => return (s.start setup name tracer, none)
  | .finish => do
    Act.events (s.finish host).2
    return ((s.finish host).1, none)
  | .shutdown index => do
    let r ← (s.shutdown host index).2.outcome
    return ((s.shutdown host index).1, failure? r)

/-- Take several steps, whatever failures they end with. -/
def steps (host : Host) (s : Session) : List SessionStep → Act Session
  | [] => return s
  | step :: rest => do
    let (s, _) ← s.step host step
    s.steps host rest

theorem install_of_some {s : Session} {k : Nat} (h : s.installed = some k) (index : Nat) :
    s.install index = s := by
  cases s
  simp_all [install]

end Session

end SpanPipeline
