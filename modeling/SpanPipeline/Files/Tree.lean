/-
  SpanPipeline.Files.Tree
  ───────────────────────
  Files that stand in a tree of directories.

  This is a system without links and rights, whose files never fail.
  A path is followed one component at a time, from the root or from
  the working directory.  Following it fails where a component is
  missing, is too long, or is followed by another one without being a
  directory.

  Main results:
    * `FileTree.read_files` — what can be read are the files of the
      tree.
-/
import SpanPipeline.Files

namespace SpanPipeline

/-! ## §1. The tree. -/

/-- A file or a directory. -/
inductive FileTree where
  | file (content : List UInt8)
  | directory (children : List (String × FileTree))
  deriving Inhabited

namespace FileTree

/-- The directory with nothing in it. -/
def empty : FileTree := .directory []

/-- The child of a name. -/
def child? (name : String) (children : List (String × FileTree)) : Option FileTree :=
  children.lookup name

/-- The children with one of them replaced or added. -/
def putChild (name : String) (tree : FileTree) (children : List (String × FileTree)) :
    List (String × FileTree) :=
  (name, tree) :: children.filter fun c => c.1 != name

/-- Put a tree at a path; directories on the way are made. -/
def put (tree : FileTree) : List String → FileTree → FileTree
  | [], _ => tree
  | name :: path, .directory children =>
    .directory (putChild name (put tree path ((child? name children).getD empty)) children)
  | _ :: _, .file content => .file content

end FileTree

/-! ## §2. Following paths. -/

/-- Bytes of the longest component of a path. -/
def longestComponent : Nat := 255

/-- Bytes that a path must not reach. -/
def pathLimit : Nat := 4096

/-- The tree that a path leads to from a place, which is given by
    its tree and the trees around it, the innermost first. -/
def walk : List FileTree → FileTree → List String → Except FileFault FileTree
  | _, tree, [] => .ok tree
  | _, .file _, _ :: _ => .error .notDirectory
  | around, .directory children, name :: path =>
    if name = "" || name = "." then walk around (.directory children) path
    else if name = ".." then
      match around with
      -- the root is its own parent
      | [] => walk [] (.directory children) path
      | outer :: around => walk around outer path
    else if longestComponent < name.utf8ByteSize then .error .nameTooLong
    else match FileTree.child? name children with
      | none => .error .notFound
      | some tree => walk (.directory children :: around) tree path

namespace FileTree

/-- What a path leads to when relative ones start at the given
    components. -/
def locate (root : FileTree) (current : List String) (path : String) :
    Except FileFault FileTree :=
  if path = "" then .error .notFound
  else if pathLimit ≤ path.utf8ByteSize then .error .nameTooLong
  else walk [] root
    (if isAbsolute path then pathComponents path else current ++ pathComponents path)

/-- The files of a tree, in a working directory. -/
def files (root : FileTree) (current : List String) : Files where
  lookUp path :=
    match root.locate current path with
    | .error f => some f
    | .ok _ => none
  openFile path :=
    match root.locate current path with
    | .error f => .error f
    -- it is opening that a directory refuses, not reading
    | .ok (.directory _) => .error .isDirectory
    | .ok (.file content) => .ok (.ok content)
  current := .ok (pathOf current)

theorem lookUp_files_of_error {root : FileTree} {current : List String} {path : String}
    {f : FileFault} (h : root.locate current path = .error f) :
    (root.files current).lookUp path = some f := by
  simp only [files, h]

theorem read_files {root : FileTree} {current : List String} {path : String}
    {content : List UInt8} :
    (root.files current).read path = .ok content
      ↔ root.locate current path = .ok (.file content) := by
  rw [Files.read_eq_ok]
  simp only [files]
  split <;> simp_all

end FileTree

end SpanPipeline
