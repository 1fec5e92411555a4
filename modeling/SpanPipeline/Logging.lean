/-
  SpanPipeline.Logging
  ────────────────────
  What becomes of log lines.

  Loggers form a tree by their names, under the root logger.  Each
  has a level and may pass lines on to the logger above; the root
  has the handlers, which write lines to a channel.  A logger
  without a level of its own takes the nearest one above.

  Applying a configuration replaces all handlers by one, then sets
  the level of the root, and then the loggers one after the other.
  What goes wrong stops it where it is.

  Main results:
    * `set_self`, `set_other` — setting a logger changes that logger
      alone.
    * `configure_handlers` — a configuration that is applied leaves
      one handler.
-/
import SpanPipeline.Host

namespace SpanPipeline.Logging

open Text

/-! ## §1. Loggers. -/

/-- A logger by its name. -/
inductive LoggerName where
  | root
  | named (path : String)
  deriving DecidableEq, Repr

/-- The name of the root logger in log lines. -/
def rootName : String := "root"

/-- The logger that a text names; the root has two names. -/
def LoggerName.ofText (s : String) : LoggerName :=
  if s = "" || s = rootName then .root else .named s

/-- The name of a logger in log lines. -/
def LoggerName.text : LoggerName → String
  | .root => rootName
  | .named path => path

/-- The starts of a path, given by the characters before its end
    from the last one, that name a logger above: those before a
    point, unless the point starts the path or stands before
    another one that does so. -/
def startsBefore : List Char → List (List Char)
  | [] => []
  | '.' :: c :: rest => (c :: rest).reverse :: startsBefore rest
  | _ :: rest => startsBefore rest

/-- The loggers at which settings are looked up, from the logger
    itself to the root. -/
def LoggerName.chain : LoggerName → List LoggerName
  | .root => [.root]
  | .named path =>
    .named path :: (startsBefore path.toList.reverse).map (fun cs => .named (String.ofList cs))
      ++ [.root]

/-- The settings of a logger. -/
structure LoggerSettings where
  /-- Zero stands for none. -/
  level : Int := 0
  /-- Lines are passed on to the logger above. -/
  propagate : Bool := true
  deriving DecidableEq, Repr

/-! ## §2. The state. -/

/-- Where lines are written to. -/
inductive Channel where
  | stdout
  | stderr
  deriving DecidableEq, Repr

/-- A handler of the root logger. -/
structure Handler where
  channel : Channel
  layout : Layout
  deriving DecidableEq, Repr

end Logging

open Logging in
/-- The settings of all loggers, and the handlers of the root. -/
structure Logging where
  settings : LoggerName → LoggerSettings
  handlers : List Handler

namespace Logging

open Text

/-- The severity of warnings. -/
def warningLevel : Int := LogLevel.warning.severity

/-- Nothing is set but the level of the root. -/
def initial : Logging where
  settings := fun
    | .root => { level := warningLevel }
    | .named _ => {}
  handlers := []

instance : Inhabited Logging := ⟨initial⟩

/-- Set a logger. -/
def set (s : Logging) (name : LoggerName) (f : LoggerSettings → LoggerSettings) : Logging :=
  { s with settings := fun n => if n = name then f (s.settings n) else s.settings n }

@[simp] theorem set_self (s : Logging) (name : LoggerName) (f : LoggerSettings → LoggerSettings) :
    (s.set name f).settings name = f (s.settings name) := by
  simp [set]

theorem set_other (s : Logging) {name other : LoggerName} (f : LoggerSettings → LoggerSettings)
    (h : other ≠ name) : (s.set name f).settings other = s.settings other := by
  simp [set, h]

@[simp] theorem set_handlers (s : Logging) (name : LoggerName)
    (f : LoggerSettings → LoggerSettings) : (s.set name f).handlers = s.handlers := rfl

/-- Give a logger a level. -/
def setLevel (s : Logging) (name : LoggerName) (level : Int) : Logging :=
  s.set name ({ · with level })

/-- The level of the root. -/
def rootLevel (s : Logging) : Int := (s.settings .root).level

/-- Add a handler. -/
def addHandler (s : Logging) (h : Handler) : Logging := { s with handlers := s.handlers ++ [h] }

/-! ## §3. Lines. -/

/-- The level that counts for a logger: the nearest that is set. -/
def effectiveLevel (s : Logging) (name : LoggerName) : Int :=
  ((name.chain.map fun n => (s.settings n).level).find? (· ≠ 0)).getD 0

/-- Lines of a level are taken by a logger. -/
def isEnabled (s : Logging) (name : LoggerName) (level : Int) : Bool :=
  0 < level && s.effectiveLevel name ≤ level

/-- Lines pass from logger to logger up to the root. -/
def reachesRoot (s : Logging) : List LoggerName → Bool
  | [] => false
  | .root :: _ => true
  | n :: ns => (s.settings n).propagate && s.reachesRoot ns

/-- What is written for a line that no handler takes. -/
def lastResort (l : Line) : List (Channel × String) :=
  if warningLevel ≤ l.level then [(.stderr, l.message ++ "\n")] else []

/-- What a handler writes for a line. -/
def Handler.write (h : Handler) (l : Line) : List (Channel × String) :=
  match h.layout.write? l with
  | some text => [(h.channel, text ++ "\n")]
  | none => []

/-- What is written for a line. -/
def write (s : Logging) (l : Line) : List (Channel × String) :=
  let name := LoggerName.ofText l.logger
  if !s.isEnabled name l.level then []
  else if s.reachesRoot name.chain && !s.handlers.isEmpty then s.handlers.flatMap (·.write l)
  else lastResort l

/-- The field of a record that keeps the failure it is about. -/
def mentionField (display : Raised → String) : Mention → String × FieldValue
  | .text text => ("error", .datum (.text text))
  | .exception e => ("error", .object e.text (display e))

/-- The line of a record. -/
def lineOf (host : Host) (r : LogRecord) : Line where
  logger := r.source.logger
  level := r.level.severity
  message := r.message
  extra := (r.extra.map fun f => (f.1, .datum f.2))
    ++ r.error.toList.map (mentionField host.libraries.display)
  circumstance := host.circumstance r

/-- A record is taken by its logger. -/
def accepts (s : Logging) (r : LogRecord) : Bool :=
  s.isEnabled (.ofText r.source.logger) r.level.severity

/-! ## §4. Setting up. -/

/-- The format of lines when nothing is set up. -/
def basicFormat : String := "%(levelname)s:%(name)s:%(message)s"

/-- A handler, unless there is one. -/
def ensureHandler (s : Logging) : Logging :=
  if s.handlers.isEmpty then s.addHandler ⟨.stderr, ⟨basicFormat, ""⟩⟩ else s

/-- The loggers of libraries that say too much. -/
def chattyLoggers : List String := ["grpc", "urllib3"]

/-- Set up logging to the output at a named level, in any letter
    case. -/
def setUp (s : Logging) (level : String) : Except LevelFault Logging := do
  let level ← resolve s.rootLevel (String.ofList (upper level.toList))
  let s := s.setLevel .root level
  let s := s.addHandler ⟨.stdout, ⟨defaultLogFormat, defaultLogDateFormat⟩⟩
  return chattyLoggers.foldl (fun s name => s.setLevel (.named name) warningLevel) s

/-- Why a configuration cannot be applied. -/
inductive ConfigureFault where
  /-- The format of lines has no field. -/
  | format (format : String)
  | level (f : LevelFault)
  deriving DecidableEq, Repr

namespace ConfigureFault

/-- The fault in words. -/
def message : ConfigureFault → String
  | .format text => "Invalid format '" ++ text ++ "' for '%' style"
  | .level f => f.message

/-- The name of the fault's class. -/
def className : ConfigureFault → String
  | .format _ => "ValueError"
  | .level (.text _) => "ValueError"
  | .level (.object _) => "TypeError"

end ConfigureFault

/-- Apply the settings of loggers one after the other.  A level that
    is none stops this; the loggers before it stay set. -/
def applyLoggers (s : Logging) : List LoggerConfig → Logging × Option LevelFault
  | [] => (s, none)
  | c :: cs =>
    match resolve s.rootLevel c.level with
    | .error f => (s, some f)
    | .ok level =>
      (s.set (.ofText c.name) fun _ => ⟨level, c.propagate⟩).applyLoggers cs

/-- Without handlers. -/
def clear (s : Logging) : Logging := { s with handlers := [] }

/-- Apply a configuration; with the state that this ends in. -/
def configure (s : Logging) (c : Config) : Logging × Option ConfigureFault :=
  match Layout.make? c.logFormat c.logDateFormat with
  | none => (s.clear, some (.format c.logFormat))
  | some layout =>
    let s := (s.clear.setLevel .root c.logLevel.severity).addHandler ⟨.stderr, layout⟩
    let (s, fault) := s.applyLoggers c.loggers
    (s, fault.map .level)

theorem applyLoggers_handlers (s : Logging) (cs : List LoggerConfig) :
    (s.applyLoggers cs).1.handlers = s.handlers := by
  induction cs generalizing s with
  | nil => rfl
  | cons c cs ih =>
    unfold applyLoggers
    split
    · rfl
    · rw [ih, set_handlers]

theorem configure_handlers {s : Logging} {c : Config} (h : (s.configure c).2 = none) :
    (s.configure c).1.handlers.length = 1 := by
  unfold configure at h ⊢
  split
  · rename_i hm
    simp [hm] at h
  · simp [applyLoggers_handlers, addHandler, clear, setLevel]

end Logging

end SpanPipeline
