/-
  SpanPipeline.Surroundings
  ─────────────────────────
  Which of its surroundings the program looks at.

  A run looks at the variables, at the files that may hold its
  configuration, and at the certificates that this names.  So the
  surroundings of a run can be collected before it starts.

  Main results:
    * `load_congr` — a configuration depends on the answers about the
      paths at which it may be, and on no other.
    * `mem_certificatePaths` — the certificates of a configuration
      are those of the exporters in it.
-/
import SpanPipeline.Program

namespace SpanPipeline

open Text

/-! ## §1. Variables. -/

/-- The variables of a list of assignments, each a name, an equals
    sign and a value. -/
def Environment.ofAssignments (assignments : List String) : Environment := fun name =>
  assignments.findSome? fun a =>
    (cut? '=' a.toList).bind fun (n, value) =>
      if n = name.toList then some (String.ofList value) else none

/-- The parts of a text that end with the character of code zero. -/
def nulTerminated (text : String) : List String :=
  ((splitOn '\x00' text.toList).dropLast).map String.ofList

/-! ## §2. Files. -/

/-- What the system answers about a path. -/
structure Answer where
  lookUp : Option FileFault
  opened : Except FileFault (Except FileFault (List UInt8))

/-- The answer about a path at which nothing stands. -/
def Answer.absent : Answer := ⟨some .notFound, .error .notFound⟩

/-- The files that answers about some paths tell of. -/
def Files.ofAnswers (current : Except FileFault String) (answers : List (String × Answer)) :
    Files where
  lookUp path := ((answers.lookup path).getD .absent).lookUp
  openFile path := ((answers.lookup path).getD .absent).opened
  current := current

section Agreement

variable {fs gs : Files}

/-- Two systems answer alike about a path. -/
def Files.AgreeAt (fs gs : Files) (path : String) : Prop :=
  fs.lookUp path = gs.lookUp path ∧ fs.openFile path = gs.openFile path

theorem exists?_congr {path : String} (h : fs.AgreeAt gs path) :
    exists? fs path = exists? gs path := by
  rw [exists?, exists?, h.1]

theorem firstExisting_congr {paths : List String} (h : ∀ p ∈ paths, fs.AgreeAt gs p) :
    firstExisting fs paths = firstExisting gs paths := by
  induction paths with
  | nil => rfl
  | cons p ps ih =>
    rw [firstExisting, firstExisting, exists?_congr (h p List.mem_cons_self),
      ih fun q hq => h q (List.mem_cons_of_mem p hq)]

/-- What is found is one of the paths that are looked up. -/
theorem mem_of_firstExisting {paths : List String} {found : String}
    (h : firstExisting fs paths = .ok (some found)) : found ∈ paths := by
  induction paths with
  | nil => cases h
  | cons p ps ih =>
    rw [firstExisting] at h
    rcases hp : exists? fs p with f | _ | _ <;> rw [hp] at h
    · cases h
    · exact List.mem_cons_of_mem p (ih h)
    · cases h
      exact List.mem_cons_self

theorem locate_congr {current : String} {path : Option String} (hf : fs.current = .ok current)
    (hg : gs.current = .ok current) (h : ∀ p ∈ candidates current path, fs.AgreeAt gs p) :
    Config.locate fs path = Config.locate gs path := by
  rw [Config.locate_of_current hf, Config.locate_of_current hg, firstExisting_congr h]

theorem mem_of_locate {current : String} {path : Option String} {found : String}
    (hf : fs.current = .ok current) (h : Config.locate fs path = .ok (some found)) :
    found ∈ candidates current path := by
  rw [Config.locate_of_current hf] at h
  rcases hfirst : firstExisting fs (candidates current path) with f | _ | first <;> rw [hfirst] at h
  · cases h
  · cases hpath : path.filter (· ≠ "") <;> rw [hpath] at h <;> cases h
  · cases h
    exact mem_of_firstExisting hfirst

end Agreement

/-- **A configuration depends on few paths**: systems that answer alike
    about those at which it may be give the same one. -/
theorem load_congr {host : Host} {files : Files} {current : String} {path : Option String}
    (hf : host.files.current = .ok current) (hg : files.current = .ok current)
    (h : ∀ p ∈ candidates current path, host.files.AgreeAt files p) :
    Config.load host path = Config.load { host with files } path := by
  have hlocate : Config.locate host.files path = Config.locate files path := locate_congr hf hg h
  unfold Config.load
  rw [← hlocate]
  rcases hfound : Config.locate host.files path with f | _ | found
  · rfl
  · rfl
  · have hopen := (h found (mem_of_locate hf hfound)).2
    simp only [Config.ofFile, hopen]
    rfl

/-! ## §3. Certificates. -/

namespace Config

/-- The paths of the certificates that a configuration names. -/
def certificatePaths (c : Config) : List String :=
  c.tracerProvider.toList.flatMap fun pipeline =>
    (pipeline.processors.flatMap ProcessorConfig.exporters).filterMap fun e =>
      e.otlp.bind OtlpConfig.certificate

theorem mem_certificatePaths {c : Config} {path : String} :
    path ∈ c.certificatePaths ↔
      ∃ pipeline ∈ c.tracerProvider, ∃ p ∈ pipeline.processors, ∃ e ∈ p.exporters,
        ∃ o ∈ e.otlp, o.certificate = some path := by
  simp only [certificatePaths, List.mem_flatMap, List.mem_filterMap, Option.mem_toList,
    Option.bind_eq_some_iff, Option.mem_def]
  constructor
  · rintro ⟨pipeline, hp, e, ⟨p, hm, he⟩, o, ho, hc⟩
    exact ⟨pipeline, hp, p, hm, e, he, o, ho, hc⟩
  · rintro ⟨pipeline, hp, p, hm, e, he, o, ho, hc⟩
    exact ⟨pipeline, hp, e, ⟨p, hm, he⟩, o, ho, hc⟩

end Config

end SpanPipeline
