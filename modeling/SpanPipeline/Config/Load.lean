/-
  SpanPipeline.Config.Load
  ────────────────────────
  Loading a configuration from a file.

  A given path is the only one that is looked at.  Otherwise the
  first of the search paths that exists is taken, and when there is
  none nothing is configured.  Variables are substituted in the
  text of the file before it is read as a document.  What goes wrong
  once the file is open is logged, what goes wrong before is not.

  Main results:
    * `locate_of_current` — the first candidate that exists is taken,
      and a given path must be one.
    * `load_missing`, `load_default`, `load_file` — the three ways
      in which loading ends.
-/
import SpanPipeline.Host
import SpanPipeline.Yaml

namespace SpanPipeline

open Text

/-! ## §1. What can go wrong. -/

/-- Why a configuration cannot be loaded. -/
inductive LoadFault where
  /-- There is no working directory. -/
  | adrift (fault : FileFault)
  /-- There is nothing at the given path. -/
  | notFound (path : String)
  /-- The path cannot be looked up, or what it leads to cannot be
      opened. -/
  | unreadable (fault : FileFault) (path : String)
  /-- The file was opened, but cannot be read. -/
  | brokenOff (fault : FileFault)
  /-- The file is not UTF-8. -/
  | encoding (fault : DecodeFault)
  /-- The text breaks the rules of documents, in the words of the
      library. -/
  | malformed (wording : String)
  /-- The document holds a value that is none. -/
  | value (fault : Yaml.Fault)
  /-- The document is no mapping, but of the named type. -/
  | notMapping (typeName : String)
  /-- A key of the document is no text. -/
  | keys
  /-- The document is no configuration, in the words of the library. -/
  | invalid (issues : List Issue) (wording : String)

/-- What bytes that are not UTF-8 are reported as. -/
def encodingMessage (f : DecodeFault) : String :=
  let place := match f.covered with
    | [b] => s!"byte 0x{String.ofList (hexDigits 2 b.toNat)} in position {f.position}"
    | bs => s!"bytes in position {f.position}-{f.position + bs.length - 1}"
  s!"'utf-8' codec can't decode {place}: {f.fault.message}"

/-- The name of the configuration's type. -/
def configType : String := "ziggiz_courier_trace_pipeline.config.Config"

namespace LoadFault

/-- The fault of a document that cannot be read. -/
def ofYaml (wording : String) : Yaml.Fault → LoadFault
  | .malformed => .malformed wording
  | f => .value f

/-- The name of a fault's class. -/
def className : LoadFault → String
  | .adrift f => f.className
  | .notFound _ => "FileNotFoundError"
  | .unreadable f _ => f.className
  | .brokenOff f => f.className
  | .encoding _ => "UnicodeDecodeError"
  | .malformed _ => Yaml.Fault.malformed.className
  | .value f => f.className
  | .notMapping _ => "TypeError"
  | .keys => "TypeError"
  | .invalid _ _ => "ValidationError"

/-- The fault in words. -/
def message : LoadFault → String
  | .adrift f => f.message
  | .notFound path => "Configuration file not found: " ++ path
  | .unreadable f path => f.message ++ ": " ++ quote path
  | .brokenOff f => f.message
  | .encoding f => encodingMessage f
  | .malformed wording => wording
  | .value f => f.message
  | .notMapping typeName => configType ++ "() argument after ** must be a mapping, not " ++ typeName
  | .keys => "keywords must be strings"
  | .invalid _ wording => wording

/-- The fault as an exception. -/
def raised (f : LoadFault) : Raised := ⟨f.className, f.message⟩

/-- The text is malformed as a document. -/
def isMalformed : LoadFault → Bool
  | .malformed _ => true
  | _ => false

/-- The fault lies behind the opening of the file. -/
def isContent : LoadFault → Bool
  | .adrift _ => false
  | .notFound _ => false
  | .unreadable _ _ => false
  | _ => true

/-- What is logged about a fault: one record when it lies behind the
    opening of the file. -/
def records (f : LoadFault) : List LogRecord :=
  if f.isContent then
    [ { level := .error, source := .root
        message := if f.isMalformed then "Error parsing configuration file"
          else "Error loading configuration"
        error := some (.exception f.raised) } ]
  else []

end LoadFault

/-! ## §2. The content of a file. -/

/-- The text with every line break as a line feed. -/
def unifyLines : List Char → List Char
  | '\r' :: '\n' :: cs => '\n' :: unifyLines cs
  | '\r' :: cs => '\n' :: unifyLines cs
  | c :: cs => c :: unifyLines cs
  | [] => []

/-- The fields of a document.  One that stands for nothing has
    none. -/
def documentFields (d : Datum) : Except LoadFault Decode.Fields :=
  if d.isFalsy then .ok []
  else match d with
    | .map entries =>
      if entries.all fun e => e.1 matches .text _ then .ok entries else .error .keys
    | d => .error (.notMapping d.typeName)

/-- The configuration that fields say. -/
def Config.ofFields (libraries : Libraries) (fields : Decode.Fields) : Except LoadFault Config :=
  (Decode.config fields).toExcept.mapError fun issues =>
    .invalid issues (libraries.invalidText fields)

/-- The configuration that the content of a file says. -/
def Config.ofContent (host : Host) (content : List UInt8) : Except LoadFault Config := do
  let text ← (decodeUtf8 content).mapError .encoding
  let text := substitute host.env (unifyLines text)
  let d ← (Yaml.load text).mapError (.ofYaml (host.libraries.malformedText text))
  let fields ← documentFields d
  Config.ofFields host.libraries fields

/-! ## §3. Finding the file. -/

/-- The name of the directory for configurations of the whole
    machine. -/
def machineDirectory : String := "/etc/ziggiz-courier-trace-pipeline"

/-- The names of configuration files. -/
def configNames : List String := ["config.yaml", "config.yml"]

/-- Where a configuration is looked for, unless a path is given: in
    the working directory, then in that of the whole machine. -/
def searchPaths (current : String) : List String :=
  [current, machineDirectory].flatMap fun directory =>
    configNames.map (joinPath directory)

/-- There is something at a path.  That the system cannot say so or
    deny it is a fault. -/
def exists? (fs : Files) (path : String) : Except LoadFault Bool :=
  -- the system is not asked about such a path
  if hasNul path then .ok false
  else match fs.lookUp path with
    | none => .ok true
    | some f => if f.saysAbsent then .ok false else .error (.unreadable f path)

/-- The first path at which there is something. -/
def firstExisting (fs : Files) : List String → Except LoadFault (Option String)
  | [] => .ok none
  | path :: paths => do if ← exists? fs path then return some path else firstExisting fs paths

/-- The paths at which a configuration may be: the given path alone, or
    the search paths if none is given. -/
def candidates (current : String) (path : Option String) : List String :=
  match path.filter (· ≠ "") with
  | some path => [tidyPath path]
  | none => searchPaths current

/-- The file to load; none when no path is given and nothing is
    found. -/
def Config.locate (fs : Files) (path : Option String) : Except LoadFault (Option String) := do
  -- the search paths are made first, also when a path is given
  let current ← fs.current.mapError .adrift
  match ← firstExisting fs (candidates current path), path.filter (· ≠ "") with
  | none, some path => throw (.notFound (tidyPath path))
  | found, _ => return found

theorem Config.locate_of_current {fs : Files} {current : String} (h : fs.current = .ok current)
    (path : Option String) :
    Config.locate fs path = (firstExisting fs (candidates current path)).bind fun found =>
      match found, path.filter (· ≠ "") with
      | none, some p => .error (.notFound (tidyPath p))
      | found, _ => .ok found := by
  rw [Config.locate, h]
  rfl

/-! ## §4. Loading. -/

/-- What is logged when no file is found. -/
def noFileRecord : LogRecord :=
  { level := .warning, source := .root
    message := "No configuration file found, using default configuration" }

/-- The configuration in the file at a path. -/
def Config.ofFile (host : Host) (path : String) : Except LoadFault Config := do
  let reading ← (host.files.openFile path).mapError fun f => .unreadable f path
  let content ← reading.mapError .brokenOff
  Config.ofContent host content

/-- Load a configuration, from a given path or from a search path,
    with what is logged meanwhile. -/
def Config.load (host : Host) (path : Option String) :
    Except LoadFault Config × List LogRecord :=
  match Config.locate host.files path with
  | .error f => (.error f, f.records)
  | .ok none => (.ok .default, [noFileRecord])
  | .ok (some path) =>
    match Config.ofFile host path with
    | .error f => (.error f, f.records)
    | .ok c => (.ok c, [])

theorem Config.load_missing {host : Host} {path : Option String} {f : LoadFault}
    (h : Config.locate host.files path = .error f) :
    Config.load host path = (.error f, f.records) := by
  simp [Config.load, h]

theorem Config.load_default {host : Host} {path : Option String}
    (h : Config.locate host.files path = .ok none) :
    Config.load host path = (.ok .default, [noFileRecord]) := by
  simp [Config.load, h]

theorem Config.load_file {host : Host} {path : Option String} {found : String}
    (h : Config.locate host.files path = .ok (some found)) :
    (Config.load host path).1 = Config.ofFile host found := by
  simp only [Config.load, h]
  split <;> simp_all

end SpanPipeline
