/-
  SpanPipeline.Main
  ─────────────────
  The program as it is called.

  The files and variables that a run may look at are read first.
  Then the run is decided by them alone, and what it prints is
  printed.
-/
import SpanPipeline.Surroundings

open SpanPipeline

namespace SpanPipeline.Main

/-- The fault of an error that the system reports. -/
def faultOf : IO.Error → FileFault
  | .alreadyExists _ code text | .otherError code text | .resourceBusy code text
  | .resourceVanished code text | .unsupportedOperation code text | .hardwareFault code text
  | .unsatisfiedConstraints code text | .illegalOperation code text | .protocolError code text
  | .timeExpired code text | .interrupted _ code text | .noFileOrDirectory _ code text
  | .invalidArgument _ code text | .permissionDenied _ code text
  | .resourceExhausted _ code text | .inappropriateType _ code text
  | .noSuchThing _ code text => ⟨code.toNat, text⟩
  | .unexpectedEof => ⟨0, "end of file"⟩
  | .userError text => ⟨0, text⟩

/-- Something stands at a path. -/
def stands (path : String) : IO Bool := do
  try
    let _ ← IO.FS.realPath path
    return true
  catch _ => return false

/-- The content of an open file.  Directories can be opened, but only
    to find that they are none. -/
def readAll (h : IO.FS.Handle) : IO (Except FileFault (Except FileFault (List UInt8))) := do
  try
    return .ok (.ok (← h.readBinToEnd).toList)
  catch e =>
    let f := faultOf e
    return if f.code = FileFault.isDirectory.code then .error f else .ok (.error f)

/-- What the system answers about a path.  Where nothing stands, what
    is in the way of opening is in the way of looking the path up. -/
def ask (path : String) : IO (String × Answer) := do
  if hasNul path then return (path, .absent)
  let opened ←
    try
      readAll (← IO.FS.Handle.mk path .read)
    catch e => pure (.error (faultOf e))
  let found ← stands path
  let lookUp := match opened with
    | .error f => if found then none else some f
    | .ok _ => none
  return (path, { lookUp, opened })

/-- The path of the working directory. -/
def currentDirectory : IO (Except FileFault String) := do
  try
    return .ok (← IO.currentDir).toString
  catch e => return .error (faultOf e)

/-- The variables of this process. -/
def processVariables : IO Environment := do
  try
    let block ← IO.FS.readFile "/proc/self/environ"
    return .ofAssignments (nulTerminated block)
  catch _ => return fun _ => none

/-- What a run may look at. -/
def surroundings (args : List String) : IO Host := do
  let current ← currentDirectory
  let path := match CommandLine.parse args with
    | .ok o => o.config
    | .error _ => none
  let paths := match current with
    | .ok current => candidates current path
    | .error _ => []
  let answers ← paths.mapM ask
  let host : Host := {
    files := .ofAnswers current answers
    env := ← processVariables
    refusal := fun _ => none }
  match (Config.load host path).1 with
  | .error _ => return host
  | .ok c =>
    let bundles ← c.certificatePaths.mapM ask
    return { host with files := .ofAnswers current (answers ++ bundles) }

/-- Print to a channel. -/
def print : Logging.Channel × String → IO Unit
  | (.stdout, text) => do (← IO.getStdout).putStr text
  | (.stderr, text) => do (← IO.getStderr).putStr text

end SpanPipeline.Main

/-- Call the program, and end with its exit code. -/
def main (args : List String) : IO UInt32 := do
  let outcome := Program.call (← Main.surroundings args) args
  outcome.printed.forM Main.print
  return outcome.exitCode.toUInt32
