/-
  SpanPipeline.Files
  ──────────────────
  The files that a program can read.

  The program asks the system.  Looking a path up tells whether
  something stands there; opening it gives a file, whose content is
  read after that.  The system may refuse each of these for reasons
  of its own, which it numbers: a name is missing or too long, links
  lead in a circle, a right is lacking, a disk fails.

  Main results:
    * `Files.read_eq_ok` — a file is read when it is opened and then
      gives its content.
-/
import SpanPipeline.Text.Cut

namespace SpanPipeline

open Text

/-! ## §1. Refusals of the system. -/

/-- Why the system refuses something: the number of the reason, and
    the reason in words. -/
structure FileFault where
  code : Nat
  description : String
  deriving DecidableEq, Repr

namespace FileFault

/-- Something on the path is missing. -/
def notFound : FileFault := ⟨2, "No such file or directory"⟩

/-- There is no such open file. -/
def badDescriptor : FileFault := ⟨9, "Bad file descriptor"⟩

/-- Something on the path is no directory, though the path goes on. -/
def notDirectory : FileFault := ⟨20, "Not a directory"⟩

/-- A directory stands where a file is wanted. -/
def isDirectory : FileFault := ⟨21, "Is a directory"⟩

/-- The path, or a name in it, is too long. -/
def nameTooLong : FileFault := ⟨36, "File name too long"⟩

/-- The links on the path lead in a circle. -/
def linkLoop : FileFault := ⟨40, "Too many levels of symbolic links"⟩

/-- The classes of faults that have one of their own, by number. -/
def classes : List (Nat × String) :=
  [ (1, "PermissionError"), (2, "FileNotFoundError"), (3, "ProcessLookupError"),
    (4, "InterruptedError"), (10, "ChildProcessError"), (11, "BlockingIOError"),
    (13, "PermissionError"), (17, "FileExistsError"), (20, "NotADirectoryError"),
    (21, "IsADirectoryError"), (32, "BrokenPipeError"), (103, "ConnectionAbortedError"),
    (104, "ConnectionResetError"), (108, "BrokenPipeError"), (110, "TimeoutError"),
    (111, "ConnectionRefusedError"), (114, "BlockingIOError"), (115, "BlockingIOError") ]

/-- The name of a fault's class. -/
def className (f : FileFault) : String := (classes.lookup f.code).getD "OSError"

/-- The fault with its number. -/
def message (f : FileFault) : String := s!"[Errno {f.code}] {f.description}"

/-- The numbers of the faults with which the system says that nothing
    stands at a path. -/
def absences : List Nat := [notFound, badDescriptor, notDirectory, linkLoop].map code

/-- The system says that nothing stands at a path. -/
def saysAbsent (f : FileFault) : Bool := absences.contains f.code

end FileFault

/-! ## §2. The system's answers. -/

/-- What the system answers about files. -/
structure Files where
  /-- The fault of looking a path up; none when something stands
      there. -/
  lookUp : String → Option FileFault
  /-- The file at a path, if it can be opened, by what comes of
      reading it. -/
  openFile : String → Except FileFault (Except FileFault (List UInt8))
  /-- The path of the working directory, unless that is gone. -/
  current : Except FileFault String

namespace Files

/-- The system without files. -/
def empty : Files where
  lookUp := fun _ => some .notFound
  openFile := fun _ => .error .notFound
  current := .ok "/"

instance : Inhabited Files := ⟨empty⟩

/-- The content of the file at a path. -/
def read (fs : Files) (path : String) : Except FileFault (List UInt8) :=
  match fs.openFile path with
  | .error f => .error f
  | .ok reading => reading

theorem read_eq_ok {fs : Files} {path : String} {content : List UInt8} :
    fs.read path = .ok content ↔ fs.openFile path = .ok (.ok content) := by
  unfold read
  split <;> simp_all

end Files

/-! ## §3. Paths as texts. -/

/-- The components of a path. -/
def pathComponents (path : String) : List String :=
  (splitOn '/' path.toList).map String.ofList

/-- A path that starts at the root. -/
def isAbsolute (path : String) : Bool :=
  path.toList.head? == some '/'

/-- The path of the components that lead there from the root. -/
def pathOf (components : List String) : String :=
  "/" ++ String.intercalate "/" components

/-- No path holds the character of code zero. -/
def hasNul (path : String) : Bool :=
  path.toList.contains '\x00'

/-- The root of a path: one slash, or two if precisely two stand
    at its start. -/
def pathRoot : List Char → List Char
  | '/' :: '/' :: '/' :: _ => ['/']
  | '/' :: '/' :: _ => ['/', '/']
  | '/' :: _ => ['/']
  | _ => []

/-- The path without empty components and those that stay in
    place. -/
def tidyPath (path : String) : String :=
  let components := (pathComponents path).filter fun c => c != "" && c != "."
  let root := String.ofList (pathRoot path.toList)
  if root = "" && components.isEmpty then "."
  else root ++ String.intercalate "/" components

/-- The path of a name in a directory. -/
def joinPath (directory name : String) : String :=
  let separator := if directory.toList.getLast? = some '/' then "" else "/"
  tidyPath (directory ++ separator ++ name)

end SpanPipeline
