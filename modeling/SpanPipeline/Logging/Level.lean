/-
  SpanPipeline.Logging.Level
  ──────────────────────────
  The levels of log lines, and what the names of levels mean.

  A level is a number; eight names stand for levels.  A name is
  looked up among everything that logging calls by a name.  So
  some names stand for other things, which are no level, and only
  a name that stands for nothing gives the fallback level.

  Main results:
    * `resolve_name` — the names of the five levels give their
      levels.
    * `resolve_unnamed` — a name that stands for nothing gives the
      fallback level.
    * `resolve_eq_ok_iff`, `resolve_eq_error` — a name gives a level
      unless it stands for something else, whatever level the root
      logger has.
-/
import SpanPipeline.Config
import SpanPipeline.Text.Case

namespace SpanPipeline.Logging

open Text

/-- The levels that have names. -/
def levels : List (String × Int) :=
  [ ("CRITICAL", 50), ("FATAL", 50), ("ERROR", 40), ("WARN", 30), ("WARNING", 30), ("INFO", 20),
    ("DEBUG", 10), ("NOTSET", 0) ]

/-- The name of a level in log lines. -/
def levelText (level : Int) : String :=
  match [(50, "CRITICAL"), (40, "ERROR"), (30, "WARNING"), (20, "INFO"), (10, "DEBUG"),
      (0, "NOTSET")].lookup level with
  | some name => name
  | none => s!"Level {level}"

/-- The names of switches, which are on and count as one. -/
def switches : List String :=
  ["logMultiprocessing", "logProcesses", "logThreads", "raiseExceptions"]

/-- What is shown for a text that depends on the machine. -/
def elided : String := "?"

/-- The names of texts. -/
def texts : List (String × String) :=
  [ ("BASIC_FORMAT", "%(levelname)s:%(name)s:%(message)s"), ("__name__", "logging"),
    ("__package__", "logging"), ("__status__", "production"), ("__version__", "0.5.1.2"),
    ("__date__", "07 February 2010"), ("__author__", elided), ("__cached__", elided),
    ("__doc__", elided), ("__file__", elided), ("_srcfile", elided) ]

/-- The names of functions. -/
def functions : List String :=
  [ "_acquireLock", "_addHandlerRef", "_after_at_fork_child_reinit_locks", "_checkLevel",
    "_is_internal_frame", "_register_at_fork_reinit_lock", "_releaseLock",
    "_removeHandlerRef", "_showwarning", "addLevelName", "basicConfig", "captureWarnings",
    "critical", "debug", "disable", "error", "exception", "fatal", "getLevelName",
    "getLevelNamesMapping", "getLogRecordFactory", "getLogger", "getLoggerClass", "info",
    "log", "makeLogRecord", "setLogRecordFactory", "setLoggerClass", "shutdown", "warn",
    "warning" ]

/-- The names of classes of logging. -/
def classes : List String :=
  [ "BufferingFormatter", "FileHandler", "Filter", "Filterer", "Formatter", "Handler",
    "LogRecord", "Logger", "LoggerAdapter", "Manager", "NullHandler", "PercentStyle",
    "PlaceHolder", "RootLogger", "StrFormatStyle", "StreamHandler", "StringTemplateStyle",
    "_StderrHandler" ]

/-- The names of modules that are read from files. -/
def fileModules : List String :=
  ["collections", "re", "threading", "traceback", "warnings", "weakref"]

/-- The names of what can be done with every object. -/
def wrappers : List String :=
  [ "__delattr__", "__eq__", "__ge__", "__getattribute__", "__gt__", "__hash__", "__init__",
    "__le__", "__lt__", "__ne__", "__repr__", "__setattr__", "__str__" ]

/-- The names of functions that every object has. -/
def objectFunctions : List String :=
  ["__dir__", "__format__", "__getstate__", "__reduce__", "__reduce_ex__", "__sizeof__"]

/-- The names of functions that every class has. -/
def classFunctions : List String := ["__init_subclass__", "__new__", "__subclasshook__"]

/-- Names of things whose display depends on the machine. -/
def elidedObjects : List String :=
  [ "__all__", "__builtins__", "__dict__", "__path__", "__spec__",
    "_at_fork_reinit_lock_weakset", "_handlerList", "_startTime" ]

/-- Other names, with what they stand for. -/
def objects : List (String × String) :=
  [ ("GenericAlias", "<class 'types.GenericAlias'>"), ("Template", "<class 'string.Template'>"),
    ("_logRecordFactory", "<class 'logging.LogRecord'>"),
    ("_loggerClass", "<class 'logging.Logger'>"),
    ("currentframe", "<function <lambda> at 0x?>"),
    ("_warnings_showwarning", "None"),
    ("_defaultFormatter", "<logging.Formatter object at 0x?>"),
    ("_str_formatter", "<string.Formatter object at 0x?>"),
    ("_handlers", "<WeakValueDictionary at 0x?>"),
    ("_lock", "<unlocked _thread.RLock object owner=0 count=0 at 0x?>"),
    ("lastResort", "<_StderrHandler (WARNING)>"),
    ("_defaultLastResort", "<_StderrHandler (WARNING)>"),
    ("_levelToName", "\x7b50: 'CRITICAL', 40: 'ERROR', 30: 'WARNING', 20: 'INFO', 10: 'DEBUG', "
      ++ "0: 'NOTSET'\x7d"),
    ("_nameToLevel", "\x7b'CRITICAL': 50, 'FATAL': 50, 'ERROR': 40, 'WARN': 30, 'WARNING': 30, "
      ++ "'INFO': 20, 'DEBUG': 10, 'NOTSET': 0\x7d"),
    ("_STYLES", "\x7b'%': (<class 'logging.PercentStyle'>, '%(levelname)s:%(name)s:%(message)s'), "
      ++ "'\x7b': (<class 'logging.StrFormatStyle'>, "
      ++ "'\x7blevelname\x7d:\x7bname\x7d:\x7bmessage\x7d'), "
      ++ "'$': (<class 'logging.StringTemplateStyle'>, "
      ++ "'$\x7blevelname\x7d:$\x7bname\x7d:$\x7bmessage\x7d')\x7d"),
    ("atexit", "<module 'atexit' (built-in)>"), ("io", "<module 'io' (frozen)>"),
    ("os", "<module 'os' (frozen)>"), ("sys", "<module 'sys' (built-in)>"),
    ("time", "<module 'time' (built-in)>"), ("__annotations__", "\x7b\x7d"),
    ("__class__", "<class 'module'>"),
    ("__loader__", "<_frozen_importlib_external.SourceFileLoader object at 0x?>") ]
    ++ fileModules.map (fun name => (name, s!"<module '{name}' from '{elided}'>"))
    ++ wrappers.map (fun name => (name, s!"<method-wrapper '{name}' of module object at 0x?>"))
    ++ objectFunctions.map (fun name => (name, s!"<built-in function {name}>"))
    ++ classFunctions.map (fun name =>
      (name, s!"<built-in method {name} of type object at 0x?>"))
    ++ elidedObjects.map fun name => (name, elided)

/-- Why a name gives no level. -/
inductive LevelFault where
  /-- The name stands for a text that is no level's name. -/
  | text (s : String)
  /-- The name stands for something else. -/
  | object (display : String)
  deriving DecidableEq, Repr

/-- The fault in words. -/
def LevelFault.message : LevelFault → String
  | .text s => "Unknown level: " ++ quote s
  | .object display => "Level not an integer or a valid string: " ++ display

/-- The level of a name that stands for nothing. -/
def fallback : Int := 20

/-- What a name stands for that is no level, the root logger apart;
    its level is `rootLevel`. -/
def object? (rootLevel : Int) (name : String) : Option String :=
  if functions.contains name then some s!"<function {name} at 0x?>"
  else if classes.contains name then some s!"<class 'logging.{name}'>"
  else if name = "root" then some s!"<RootLogger root ({levelText rootLevel})>"
  else objects.lookup name

/-- The level that a name gives while the root logger has the level
    `rootLevel`. -/
def resolve (rootLevel : Int) (name : String) : Except LevelFault Int :=
  match levels.lookup name, texts.lookup name, object? rootLevel name with
  | some level, _, _ => .ok level
  | none, some s, _ => .error (.text s)
  | none, none, some display => .error (.object display)
  | none, none, none => if switches.contains name then .ok 1 else .ok fallback

theorem resolve_name (rootLevel : Int) (l : LogLevel) :
    resolve rootLevel l.name = .ok l.severity := by
  cases l <;> rfl

theorem resolve_unnamed {rootLevel : Int} {name : String} (hl : levels.lookup name = none)
    (ht : texts.lookup name = none) (ho : object? rootLevel name = none)
    (hs : name ∉ switches) : resolve rootLevel name = .ok fallback := by
  simp [resolve, hl, ht, ho, hs]

/-- The names that stand for something else than a level. -/
def otherNames : List String :=
  texts.map Prod.fst ++ functions ++ classes ++ "root" :: objects.map Prod.fst

/-- The level of a name that stands for nothing else: its own, one
    for a switch, and the fallback level for any other name. -/
def levelOf (name : String) : Int :=
  (levels.lookup name).getD (if switches.contains name then 1 else fallback)

theorem levelOf_name (l : LogLevel) : levelOf l.name = l.severity := by
  cases l <;> rfl

/-- No level has the name of something else. -/
theorem not_mem_otherNames_of_level {name : String} (h : levels.lookup name ≠ none) :
    name ∉ otherNames := by
  have hall : ∀ p ∈ levels, p.1 ∉ otherNames := by decide +kernel
  obtain ⟨level, hl⟩ := Option.ne_none_iff_exists'.mp h
  obtain ⟨before, after, hsplit, -⟩ := List.lookup_eq_some_iff.mp hl
  exact hall (name, level) (by rw [hsplit]; simp)

theorem object?_eq_none_iff {rootLevel : Int} {name : String} :
    object? rootLevel name = none ↔
      name ∉ functions ∧ name ∉ classes ∧ name ≠ "root" ∧ objects.lookup name = none := by
  unfold object?
  simp only [List.contains_iff_mem]
  split
  · exact iff_of_false nofun fun h => h.1 ‹_›
  · split
    · exact iff_of_false nofun fun h => h.2.1 ‹_›
    · split
      · exact iff_of_false nofun fun h => h.2.2.1 ‹_›
      · exact ⟨fun h => ⟨‹_›, ‹_›, ‹_›, h⟩, fun h => h.2.2.2⟩

theorem lookup_eq_none_iff_not_mem {name : String} {table : List (String × String)} :
    table.lookup name = none ↔ name ∉ table.map Prod.fst := by
  rw [List.lookup_eq_none_iff]
  constructor
  · intro h hm
    obtain ⟨p, hp, rfl⟩ := List.mem_map.mp hm
    exact bne_iff_ne.mp (h p hp) rfl
  · intro h p hp
    rw [bne_iff_ne]
    rintro rfl
    exact h (List.mem_map_of_mem hp)

theorem not_mem_otherNames_iff (rootLevel : Int) {name : String} :
    name ∉ otherNames ↔ texts.lookup name = none ∧ object? rootLevel name = none := by
  rw [object?_eq_none_iff, lookup_eq_none_iff_not_mem, lookup_eq_none_iff_not_mem]
  simp only [otherNames, List.mem_append, List.mem_cons, not_or, and_assoc, ne_eq]

/-- **A name gives a level unless it stands for something else.** -/
theorem resolve_eq_ok_iff {rootLevel level : Int} {name : String} :
    resolve rootLevel name = .ok level ↔ name ∉ otherNames ∧ level = levelOf name := by
  unfold resolve levelOf
  cases hl : levels.lookup name with
  | some own =>
    have hother : name ∉ otherNames := not_mem_otherNames_of_level (by rw [hl]; exact nofun)
    simp [hother, eq_comm]
  | none =>
    rw [not_mem_otherNames_iff rootLevel]
    cases ht : texts.lookup name with
    | some s => simp
    | none =>
      cases ho : object? rootLevel name with
      | some display => simp
      | none =>
        rw [Option.getD_none, ← apply_ite]
        simp [eq_comm]

theorem resolve_of_not_mem {name : String} (h : name ∉ otherNames) (rootLevel : Int) :
    resolve rootLevel name = .ok (levelOf name) :=
  resolve_eq_ok_iff.mpr ⟨h, rfl⟩

theorem resolve_eq_error {name : String} (h : name ∈ otherNames) (rootLevel : Int) :
    ∃ f, resolve rootLevel name = .error f := by
  cases hr : resolve rootLevel name with
  | error f => exact ⟨f, rfl⟩
  | ok level => exact absurd h (resolve_eq_ok_iff.mp hr).1

end SpanPipeline.Logging
