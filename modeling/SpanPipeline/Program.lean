/-
  SpanPipeline.Program
  ────────────────────
  A run of the program.

  A configuration is loaded, applied to logging, and tried out.
  The first of these that fails ends the run, and what is at fault
  is logged.  When nothing can be logged yet because there is no
  handler, logging is set up for that.

  A run is kept as its steps: records that are logged, and changes
  to logging.  What is printed and which records are taken follow
  from the steps, one after the other, by the state of logging.

  Main results:
    * `stateAfter_append`, `along_append` — a run may be looked at
      in two parts.
    * `exitCode_eq_zero_iff` — the exit code is zero when nothing
      is at fault.
-/
import SpanPipeline.CommandLine
import SpanPipeline.Config.Load
import SpanPipeline.Logging
import SpanPipeline.Trial

namespace SpanPipeline.Program

open CommandLine (Options Stop)

/-! ## §1. Steps. -/

/-- A step of a run. -/
inductive Step where
  | log (r : LogRecord)
  | setUp (level : LogLevel)
  | configure (c : Config)

/-- Logging when a record is about to be handled.  Those of the root
    logger see to it that there is a handler. -/
def ready (s : Logging) (r : LogRecord) : Logging :=
  if r.source = .root then s.ensureHandler else s

/-- Logging after a step. -/
def Step.next (s : Logging) : Step → Logging
  | .log r => ready s r
  | .setUp level =>
    match s.setUp level.name with
    | .ok s => s
    | .error _ => s
  | .configure c => (s.configure c).1

/-- What a step prints. -/
def Step.printed (host : Host) (s : Logging) : Step → List (Logging.Channel × String)
  | .log r => (ready s r).write (Logging.lineOf host r)
  | _ => []

/-- The record of a step, if its logger takes it. -/
def Step.taken (s : Logging) : Step → List LogRecord
  | .log r => if s.accepts r then [r] else []
  | _ => []

/-- Logging after several steps. -/
def stateAfter (s : Logging) (steps : List Step) : Logging := steps.foldl Step.next s

/-- What the steps give, each by the state of logging before it. -/
def along (f : Logging → Step → List α) (s : Logging) : List Step → List α
  | [] => []
  | t :: ts => f s t ++ along f (t.next s) ts

@[simp] theorem stateAfter_nil (s : Logging) : stateAfter s [] = s := rfl

@[simp] theorem stateAfter_cons (s : Logging) (t : Step) (ts : List Step) :
    stateAfter s (t :: ts) = stateAfter (t.next s) ts := rfl

@[simp] theorem along_nil (f : Logging → Step → List α) (s : Logging) : along f s [] = [] := rfl

@[simp] theorem along_cons (f : Logging → Step → List α) (s : Logging) (t : Step)
    (ts : List Step) : along f s (t :: ts) = f s t ++ along f (t.next s) ts := rfl

theorem stateAfter_append (s : Logging) (ts us : List Step) :
    stateAfter s (ts ++ us) = stateAfter (stateAfter s ts) us :=
  List.foldl_append

theorem along_append (f : Logging → Step → List α) (s : Logging) (ts us : List Step) :
    along f s (ts ++ us) = along f s ts ++ along f (stateAfter s ts) us := by
  induction ts generalizing s with
  | nil => rfl
  | cons t ts ih => simp [ih]

/-! ## §2. Faults. -/

/-- Why a run fails. -/
inductive Fault where
  | load (f : LoadFault)
  | logging (f : Logging.ConfigureFault)
  | trial (f : Failure)

namespace Fault

/-- The name of a fault's class. -/
def className : Fault → String
  | .load f => f.className
  | .logging f => f.className
  | .trial f => f.className

/-- The fault in words. -/
def message : Fault → String
  | .load f => f.message
  | .logging f => f.message
  | .trial f => f.text

end Fault

/-- The record that starts a list of faults of the configuration. -/
def invalidRecord (count : Nat) : LogRecord :=
  { level := .error, source := .main, message := "Invalid trace pipeline configuration"
    extra := [("error_count", .int count)] }

/-- The record of one fault of the configuration. -/
def messageRecord (message : String) : LogRecord :=
  { level := .error, source := .main, message }

/-- What is logged about the faults of a configuration. -/
def configurationReport (messages : List String) : List LogRecord :=
  invalidRecord messages.length :: messages.map messageRecord

/-- How a fault that nobody expects is introduced. -/
def unexpectedStart : String := "Unexpected error: "

/-- The record of a fault that nobody expects. -/
def unexpectedRecord (f : Fault) : LogRecord :=
  { level := .error, source := .main, message := unexpectedStart ++ f.message
    exception := some f.className }

/-- What is logged about a fault.  Only a trial finds the faults of
    a configuration, collected in an aggregate. -/
def report (f : Fault) : List LogRecord :=
  match f with
  | .trial (.aggregate children) => configurationReport (Failure.aggregate children).messages
  | f => [unexpectedRecord f]

/-! ## §3. Runs. -/

/-- The configuration with what the options say instead. -/
def override (o : Options) (c : Config) : Config :=
  { c with logLevel := o.logLevel.getD c.logLevel }

/-- The record of a loaded configuration. -/
def loadedRecord (o : Options) : LogRecord :=
  { level := .info, source := .main
    message := match o.config.filter (· ≠ "") with
      | some path => "Loaded configuration from " ++ path
      | none => "Using default or automatically detected configuration" }

/-- What happened in a run. -/
structure Run where
  steps : List Step
  events : List Event := []
  fault : Option Fault := none

/-- A configuration is applied to logging and tried out. -/
def applyAndTry (host : Host) (s : Logging) (o : Options) (c : Config) : Run :=
  match (s.configure c).2 with
  | some f => { steps := [.configure c], fault := some (.logging f) }
  | none =>
    let (result, journal) := (Trial.run host c o.emitSpan).run {}
    { steps := .configure c :: .log (loadedRecord o) :: journal.records.map .log
      events := journal.events
      fault := match result with
        | .ok () => none
        | .error f => some (.trial f) }

/-- A run up to its end or to its fault. -/
def attempt (host : Host) (s : Logging) (o : Options) : Run :=
  let (result, records) := Config.load host o.config
  let steps := records.map Step.log
  match result with
  | .error f => { steps, fault := some (.load f) }
  | .ok c =>
    let rest := applyAndTry host (stateAfter s steps) o (override o c)
    { rest with steps := steps ++ rest.steps }

/-- What is done about a fault. -/
def conclusion (s : Logging) (f : Fault) : List Step :=
  (if s.handlers.isEmpty then [.setUp .error] else []) ++ (report f).map .log

/-- A run that starts from a state of logging. -/
def run (host : Host) (s : Logging) (o : Options) : Run :=
  let attempted := attempt host s o
  { attempted with
    steps := attempted.steps ++ match attempted.fault with
      | none => []
      | some f => conclusion (stateAfter s attempted.steps) f }

/-- The exit code of a run. -/
def Run.exitCode (r : Run) : Nat := if r.fault.isSome then 1 else 0

theorem exitCode_eq_zero_iff {r : Run} : r.exitCode = 0 ↔ r.fault = none := by
  unfold Run.exitCode
  cases r.fault <;> simp

/-! ## §4. The program. -/

/-- What comes of calling the program. -/
structure Outcome where
  exitCode : Nat
  printed : List (Logging.Channel × String)
  events : List Event := []
  /-- The records that were taken. -/
  records : List LogRecord := []
  logging : Logging := .initial
  fault : Option Fault := none

/-- What comes of arguments with which the program does not start. -/
def stopped : Stop → Outcome
  | .help => { exitCode := 0, printed := [(.stdout, CommandLine.help)] }
  | .fault f => { exitCode := 2, printed := [(.stderr, f.report)] }

/-- What comes of a run. -/
def Run.outcome (host : Host) (s : Logging) (r : Run) : Outcome where
  exitCode := r.exitCode
  printed := along (Step.printed host) s r.steps
  events := r.events
  records := along Step.taken s r.steps
  logging := stateAfter s r.steps
  fault := r.fault

/-- Call the program with arguments. -/
def call (host : Host) (args : List String) : Outcome :=
  match CommandLine.parse args with
  | .error stop => stopped stop
  | .ok o => (run host .initial o).outcome host .initial

end SpanPipeline.Program
