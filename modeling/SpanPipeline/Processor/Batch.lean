/-
  SpanPipeline.Processor.Batch
  ────────────────────────────
  The numeric settings of batching processors.

  No setting may be negative.  A setting that is unset or zero
  leaves the choice to the processor, which looks into the
  environment and then takes its default.  A processor refuses
  limits that are not positive and a batch larger than its queue.

  Main results:
    * `negatives_eq_nil_iff` — when no setting is negative.
    * `refusal_eq_none_iff` — which limits a processor accepts.
-/
import SpanPipeline.Host
import SpanPipeline.Failure.Check
import SpanPipeline.Text.Digits

namespace SpanPipeline

open Number

/-! ## §1. The settings. -/

/-- A numeric setting: its name in messages, its name as an
    argument, and its value in a configuration. -/
structure BatchSetting where
  label : String
  argument : String
  value : BatchConfig → Option Int

namespace BatchConfig

/-- All settings, in the order in which they are checked. -/
def settings : List BatchSetting :=
  [ ⟨"batch size", "max_export_batch_size", maxExportBatchSize⟩,
    ⟨"export timeout", "export_timeout_millis", exportTimeout⟩,
    ⟨"queue size", "max_queue_size", maxQueueSize⟩,
    ⟨"schedule delay", "schedule_delay_millis", scheduleDelay⟩ ]

/-- The failures of the negative settings. -/
def negatives (b : BatchConfig) : List Failure :=
  settings.filterMap fun s => Check.nonNegative s.label (s.value b)

/-- A number that is set and not zero. -/
def given? (n : Option Int) : Option Int := n.filter (· ≠ 0)

/-- The arguments that a processor is created with: the settings
    that are set and not zero. -/
def arguments (b : BatchConfig) : List (String × Int) :=
  settings.filterMap fun s => (given? (s.value b)).map (s.argument, ·)

theorem negatives_eq_nil_iff {b : BatchConfig} :
    b.negatives = [] ↔ ∀ s ∈ settings, ∀ n, s.value b = some n → 0 ≤ n := by
  simp only [negatives, List.filterMap_eq_nil_iff, Check.nonNegative_eq_none_iff]

end BatchConfig

/-! ## §2. The limits of a processor. -/

/-- The limits a processor works with. -/
structure BatchLimits where
  queue : Int
  /-- Milliseconds. -/
  delay : Int
  batch : Int
  deriving DecidableEq, Repr

/-- Why a processor refuses its limits. -/
inductive BatchRefusal where
  | queue
  | delay
  | batch
  | batchAboveQueue
  deriving DecidableEq, Repr

/-- The refusal in words. -/
def BatchRefusal.message : BatchRefusal → String
  | .queue => "max_queue_size must be a positive integer."
  | .delay => "schedule_delay_millis must be positive."
  | .batch => "max_export_batch_size must be a positive integer."
  | .batchAboveQueue => "max_export_batch_size must be less than or equal to max_queue_size."

namespace BatchLimits

/-- The limits used unless others are set. -/
def default : BatchLimits := ⟨2048, 5000, 512⟩

/-- A number from the environment, or a default when there is none
    that can be read. -/
def fromEnvironment (env : Environment) (name : String) (default : Int) : Int :=
  match env name with
  | none => default
  | some text => (Text.readInteger? text.toList).getD default

/-- The limits that result from a configuration. -/
def effective (env : Environment) (b : BatchConfig) : BatchLimits where
  queue := (BatchConfig.given? b.maxQueueSize).getD
    (fromEnvironment env "OTEL_BSP_MAX_QUEUE_SIZE" default.queue)
  delay := (BatchConfig.given? b.scheduleDelay).getD
    (fromEnvironment env "OTEL_BSP_SCHEDULE_DELAY" default.delay)
  batch := (BatchConfig.given? b.maxExportBatchSize).getD
    (fromEnvironment env "OTEL_BSP_MAX_EXPORT_BATCH_SIZE" default.batch)

/-- Why the limits are refused, if they are. -/
def refusal? (l : BatchLimits) : Option BatchRefusal :=
  if l.queue ≤ 0 then some .queue
  else if l.delay ≤ 0 then some .delay
  else if l.batch ≤ 0 then some .batch
  else if l.queue < l.batch then some .batchAboveQueue
  else none

/-- The most elements a queue can have. -/
def longestQueue : Int := 0x7fffffffffffffff

/-- The limit that is too large to be represented, if there is
    one. -/
def excess? (l : BatchLimits) : Option Excess :=
  if (ofQuotient? l.delay.toNat 1).isNone then some .delay
  else if longestQueue < l.queue then some .queue
  else none

theorem refusal_eq_none_iff {l : BatchLimits} :
    l.refusal? = none ↔ 0 < l.queue ∧ 0 < l.delay ∧ 0 < l.batch ∧ l.batch ≤ l.queue := by
  simp only [refusal?]
  split
  · simp; omega
  · split
    · simp; omega
    · split
      · simp; omega
      · split <;> simp <;> omega

end BatchLimits

end SpanPipeline
