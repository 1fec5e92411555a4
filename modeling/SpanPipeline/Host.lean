/-
  SpanPipeline.Host
  ─────────────────
  What the program finds around it.

  Files and variables come from the system.  Exporters belong to the
  tracing library, and so does the way in which they are shut down.
  Some things are settled by the libraries alone: what their processors
  do with spans that come too late, which bundles of certificates they
  accept, and how they word what is wrong.  All of this is given here,
  and nothing in the program depends on how it comes about.

  Main results:
    * `Libraries.IgnoreLate` — what the tracing library says about
      processors that were shut down.
-/
import SpanPipeline.Config.Decode
import SpanPipeline.Config.Reference
import SpanPipeline.Files
import SpanPipeline.Journal
import SpanPipeline.Logging.Layout
import SpanPipeline.Tls.Bundle

namespace SpanPipeline

/-! ## §1. Libraries. -/

/-- What the libraries settle. -/
structure Libraries where
  /-- The version of the tracing library. -/
  version : String
  /-- Processors of a kind ignore spans once they were shut down. -/
  ignoresLate : ProcessorKind → Bool
  /-- What is wrong with a bundle of certificates, in words. -/
  bundleFault? : List UInt8 → Option String
  /-- How it is said that a text is no document. -/
  malformedText : List Char → String
  /-- How it is said that the fields of a document make no
      configuration. -/
  invalidText : Decode.Fields → String
  /-- The constructor form of an exception. -/
  display : Raised → String

namespace Libraries

/-- Whatever its kind, a processor that was shut down ignores spans. -/
def IgnoreLate (l : Libraries) : Prop := ∀ kind, l.ignoresLate kind = true

instance (l : Libraries) : Decidable l.IgnoreLate :=
  decidable_of_iff (l.ignoresLate .simple = true ∧ l.ignoresLate .batch = true)
    ⟨fun h kind => by cases kind <;> simp [h], fun h => ⟨h .simple, h .batch⟩⟩

/-- The libraries as they are installed; where their wording is free
    there are other words. -/
def installed : Libraries where
  version := "1.45.2"
  ignoresLate _ := true
  bundleFault? := Tls.bundleFault?
  malformedText _ := "no document"
  invalidText fields :=
    match Decode.config fields with
    | .ok _ => ""
    | .faulty issues => String.intercalate "\n" (issues.map Issue.text)
  display e := e.className ++ "(" ++ Text.quote e.text ++ ")"

theorem ignoreLate_installed : installed.IgnoreLate := fun _ => rfl

end Libraries

/-! ## §2. The surroundings. -/

/-- What the program finds around it. -/
structure Host where
  files : Files
  env : Environment
  /-- The failure with which the shutdown of an exporter ends. -/
  refusal : Nat → Option Failure
  libraries : Libraries := .installed
  /-- Where and when a record is logged. -/
  circumstance : LogRecord → Logging.Circumstance := fun _ => {}

/-- No files and no variables; every exporter can be shut down. -/
def Host.bare : Host where
  files := .empty
  env := fun _ => none
  refusal := fun _ => none

end SpanPipeline
