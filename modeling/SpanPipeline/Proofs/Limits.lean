/-
  SpanPipeline.Proofs.Limits
  ──────────────────────────
  Which settings make a batching processor.

  Each of the four numbers may be unset, zero, negative or positive.
  Unset and zero mean the same everywhere: no check finds fault with
  either, neither is passed on, and the default of the processor is in
  force for both.  A processor is created when no number is negative
  and the batch in force is no larger than the queue in force, which
  may be a default; otherwise every negative number is reported, or
  the one relation that does not hold.

  Main results:
    * `SameUpToZero.resolve_eq` — unset and zero are not told apart.
    * `refusal_inForce` — without negative numbers only a batch above
      the queue is refused.
    * `resolve_batch` — what a batch of settings comes to.
-/
import SpanPipeline.Proofs.Entry
import Mathlib.Data.List.Basic

namespace SpanPipeline

open Number

/-! ## §1. Unset and zero. -/

/-- Two settings mean the same: they are equal, or each of them is
    unset or zero. -/
def SameSetting (m n : Option Int) : Prop :=
  m = n ∨ (m = none ∨ m = some 0) ∧ (n = none ∨ n = some 0)

namespace SameSetting

variable {m n : Option Int}

theorem given (h : SameSetting m n) : BatchConfig.given? m = BatchConfig.given? n := by
  rcases h with rfl | ⟨rfl | rfl, rfl | rfl⟩ <;> rfl

theorem nonNegative (h : SameSetting m n) (label : String) :
    Check.nonNegative label m = Check.nonNegative label n := by
  rcases h with rfl | ⟨rfl | rfl, rfl | rfl⟩ <;> rfl

end SameSetting

namespace BatchConfig

/-- Two batches of settings differ only in zeros where the other one
    has nothing. -/
structure SameUpToZero (b b' : BatchConfig) : Prop where
  maxExportBatchSize : SameSetting b.maxExportBatchSize b'.maxExportBatchSize
  exportTimeout : SameSetting b.exportTimeout b'.exportTimeout
  maxQueueSize : SameSetting b.maxQueueSize b'.maxQueueSize
  scheduleDelay : SameSetting b.scheduleDelay b'.scheduleDelay
  exporter : b.exporter = b'.exporter

namespace SameUpToZero

variable {b b' : BatchConfig}

theorem setting (h : SameUpToZero b b') {s : BatchSetting} (hs : s ∈ settings) :
    SameSetting (s.value b) (s.value b') := by
  simp only [settings, List.mem_cons, List.not_mem_nil, or_false] at hs
  rcases hs with rfl | rfl | rfl | rfl
  · exact h.maxExportBatchSize
  · exact h.exportTimeout
  · exact h.maxQueueSize
  · exact h.scheduleDelay

theorem negatives (h : SameUpToZero b b') : b.negatives = b'.negatives :=
  List.filterMap_congr fun s hs => (h.setting hs).nonNegative s.label

theorem arguments (h : SameUpToZero b b') : b.arguments = b'.arguments :=
  List.filterMap_congr fun s hs => by rw [(h.setting hs).given]

theorem effective (h : SameUpToZero b b') (env : Environment) :
    BatchLimits.effective env b = BatchLimits.effective env b' := by
  simp only [BatchLimits.effective, h.maxQueueSize.given, h.scheduleDelay.given,
    h.maxExportBatchSize.given]

/-- **Unset and zero are not told apart.** -/
theorem resolve_eq (h : SameUpToZero b b') (host : Host) :
    Processor.resolve host ⟨none, some b⟩ = Processor.resolve host ⟨none, some b'⟩ := by
  simp only [Processor.resolve, Processor.createBatch, Processor.createBatchAround, h.negatives,
    h.arguments, h.effective, h.exporter]

end SameUpToZero

/-! ## §2. The numbers in force. -/

/-- The four numbers of a batch of settings. -/
def numbers (b : BatchConfig) : List (Option Int) :=
  [b.maxExportBatchSize, b.exportTimeout, b.maxQueueSize, b.scheduleDelay]

/-- No number that is set is negative. -/
def NoNegative (b : BatchConfig) : Prop := ∀ n, some n ∈ b.numbers → 0 ≤ n

/-- The settings that are passed on, under the names of the processor's
    arguments: those that are set and not zero. -/
def passed (b : BatchConfig) : List (String × Int) :=
  [ ("max_export_batch_size", b.maxExportBatchSize),
    ("export_timeout_millis", b.exportTimeout), ("max_queue_size", b.maxQueueSize),
    ("schedule_delay_millis", b.scheduleDelay) ].filterMap
      fun (name, value) => match value with
        | some n => if n = 0 then none else some (name, n)
        | none => none

/-- The number in force: the one that is set unless it is zero, and
    else the default. -/
def inForce (default : Int) : Option Int → Int
  | some n => if n = 0 then default else n
  | none => default

/-- The batch in force. -/
def batchInForce (b : BatchConfig) : Int := inForce 512 b.maxExportBatchSize

/-- The queue in force. -/
def queueInForce (b : BatchConfig) : Int := inForce 2048 b.maxQueueSize

/-- A processor can hold the numbers that are set: the queue is no
    longer than an index, and the delay is no larger than a finite
    number. -/
structure Holdable (b : BatchConfig) : Prop where
  queue : ∀ n, b.maxQueueSize = some n → n ≤ 0x7fffffffffffffff
  delay : ∀ n, b.scheduleDelay = some n → (ofQuotient? n.toNat 1).isSome = true

theorem negatives_eq_nil {b : BatchConfig} : b.negatives = [] ↔ b.NoNegative := by
  rw [negatives_eq_nil_iff]
  -- the numbers are the values of the settings, in their order
  have hvalues : b.numbers = settings.map (·.value b) := rfl
  constructor
  · intro h n hn
    rw [hvalues] at hn
    obtain ⟨s, hs, hvalue⟩ := List.mem_map.mp hn
    exact h s hs n hvalue
  · intro h s hs n hvalue
    exact h n (hvalues ▸ hvalue ▸ List.mem_map_of_mem hs)

theorem arguments_eq_passed (b : BatchConfig) : b.arguments = b.passed := by
  have hpassed : b.passed = (settings.map fun s => (s.argument, s.value b)).filterMap
      fun (name, value) => match value with
        | some n => if n = 0 then none else some (name, n)
        | none => none := rfl
  rw [hpassed, List.filterMap_map, arguments]
  apply List.filterMap_congr
  intro s _
  cases hvalue : s.value b with
  | none => simp [given?, hvalue]
  | some n => by_cases hzero : n = 0 <;> simp [given?, Option.filter, hvalue, hzero]

theorem given_getD (default : Int) (value : Option Int) :
    (given? value).getD default = inForce default value := by
  cases value with
  | none => rfl
  | some n => by_cases h : n = 0 <;> simp [given?, inForce, Option.filter, h]

theorem inForce_pos {default : Int} {value : Option Int} (hdefault : 0 < default)
    (h : ∀ n, value = some n → 0 ≤ n) : 0 < inForce default value := by
  cases value with
  | none => exact hdefault
  | some n =>
    have hn := h n rfl
    simp only [inForce]
    split <;> omega

end BatchConfig

namespace BatchLimits

/-- The environment sets no limit. -/
def Unset (env : Environment) : Prop :=
  ∀ name ∈ ["OTEL_BSP_MAX_QUEUE_SIZE", "OTEL_BSP_SCHEDULE_DELAY",
    "OTEL_BSP_MAX_EXPORT_BATCH_SIZE"], env name = none

theorem effective_of_unset {env : Environment} (h : Unset env) (b : BatchConfig) :
    effective env b
      = ⟨b.queueInForce, BatchConfig.inForce 5000 b.scheduleDelay, b.batchInForce⟩ := by
  simp only [Unset, List.mem_cons, List.not_mem_nil, or_false, forall_eq_or_imp, forall_eq] at h
  simp only [effective, fromEnvironment, h, BatchConfig.given_getD]
  rfl

/-- **Without negative numbers only a batch above the queue is
    refused.** -/
theorem refusal_inForce {env : Environment} {b : BatchConfig} (henv : Unset env)
    (hb : b.NoNegative) :
    (effective env b).refusal?
      = if b.queueInForce < b.batchInForce then some .batchAboveQueue else none := by
  have hqueue : 0 < b.queueInForce := BatchConfig.inForce_pos (by decide) fun n hn =>
    hb n (by simp [BatchConfig.numbers, hn])
  have hdelay : 0 < BatchConfig.inForce 5000 b.scheduleDelay :=
    BatchConfig.inForce_pos (by decide) fun n hn => hb n (by simp [BatchConfig.numbers, hn])
  have hbatch : 0 < b.batchInForce := BatchConfig.inForce_pos (by decide) fun n hn =>
    hb n (by simp [BatchConfig.numbers, hn])
  rw [effective_of_unset henv, refusal?, if_neg (by simpa using hqueue),
    if_neg (by simpa using hdelay), if_neg (by simpa using hbatch)]

/-- A number in force is the default, or one that is set. -/
theorem inForce_cases (default : Int) (value : Option Int) :
    BatchConfig.inForce default value = default ∨
      value = some (BatchConfig.inForce default value) := by
  cases value with
  | none => exact .inl rfl
  | some n => by_cases h : n = 0 <;> simp [BatchConfig.inForce, h]

theorem excess_inForce {env : Environment} {b : BatchConfig} (henv : Unset env)
    (hb : b.Holdable) : (effective env b).excess? = none := by
  have hqueue : b.queueInForce ≤ longestQueue := by
    rcases inForce_cases 2048 b.maxQueueSize with h | h
    · rw [BatchConfig.queueInForce, h]
      decide
    · exact hb.queue _ h
  have hdelay : (ofQuotient? (BatchConfig.inForce 5000 b.scheduleDelay).toNat 1).isSome = true := by
    rcases inForce_cases 5000 b.scheduleDelay with h | h
    · rw [h]
      decide
    · exact hb.delay _ h
  rw [effective_of_unset henv, excess?, if_neg (by simpa using Option.isSome_iff_ne_none.mp hdelay),
    if_neg (by simpa using hqueue)]

end BatchLimits

/-! ## §3. What a batch of settings comes to. -/

namespace Processor

/-- What resolving a batching processor comes to once its exporter is
    created, from the journal then; the cases exclude each other. -/
inductive Batched (b : BatchConfig) (x : Exporter) (j : Journal) :
    Except Failure Processor × Journal → Prop where
  /-- The processor is created with the settings that are not zero. -/
  | created (positive : b.NoNegative) (fits : b.batchInForce ≤ b.queueInForce) :
      Batched b x j (.ok ⟨.batch, x⟩,
        j.extend [.batch x.id b.passed] (createdRecords ⟨.batch, x⟩ b.passed))
  /-- Every negative number is reported; no processor is created. -/
  | negative (negative : ¬ b.NoNegative) :
      Batched b x j (.error (.aggregate b.negativeNumbers), j.extend [.shutdown x.id] [])
  /-- The relation of batch and queue is reported, which the processor
      refused. -/
  | oversized (positive : b.NoNegative) (exceeds : b.queueInForce < b.batchInForce) :
      Batched b x j (.error (.aggregate [.configuration
          "max_export_batch_size must be less than or equal to max_queue_size."]),
        j.extend [.batch x.id b.passed, .shutdown x.id] [])

/-- **What a batch of settings comes to.**  A processor is created
    exactly when no number is negative and the batch in force is no
    larger than the queue in force.  Zeros in place of unset numbers,
    or the reverse, change nothing. -/
theorem resolve_batch {host : Host} {b : BatchConfig} {j j' : Journal} {x : Exporter}
    (hx : (Exporter.resolve host b.exporter).run j = (.ok x, j'))
    (hcloses : host.refusal x.id = none) (henv : BatchLimits.Unset host.env)
    (hb : b.Holdable) :
    Batched b x j' ((resolve host ⟨none, some b⟩).run j) ∧
      ∀ b', b.SameUpToZero b' →
        (resolve host ⟨none, some b'⟩).run j = (resolve host ⟨none, some b⟩).run j := by
  refine ⟨?_, fun b' h => by rw [h.resolve_eq host]⟩
  obtain ⟨spec, records, hplan, rfl, rfl⟩ := Exporter.plan_of_run hx
  by_cases hpositive : b.NoNegative
  · have hnil := BatchConfig.negatives_eq_nil.mpr hpositive
    have hcreate := run_createBatch_of_ok host hnil hplan j
    have hrefusal := BatchLimits.refusal_inForce henv hpositive
    have hexcess := BatchLimits.excess_inForce henv hb
    -- whether the batch fits is found out by building the processor
    by_cases hexceeds : b.queueInForce < b.batchInForce
    · rw [if_pos hexceeds] at hrefusal
      have hrun : (resolve host ⟨none, some b⟩).run j
          = (.error (.aggregate [.configuration BatchRefusal.batchAboveQueue.message]),
            (j.extend [.create j.created spec] records).extend
              [.batch j.created b.passed, .shutdown j.created] []) := by
        simp [resolve, conclude, Act.run_bind, hcreate, run_createBatchAround, hrefusal, hcloses,
          BatchConfig.arguments_eq_passed]
      rw [hrun]
      exact .oversized hpositive hexceeds
    · rw [if_neg hexceeds] at hrefusal
      have hrun : (resolve host ⟨none, some b⟩).run j
          = (.ok ⟨.batch, ⟨j.created, spec.className⟩⟩,
            (j.extend [.create j.created spec] records).extend [.batch j.created b.passed]
              (createdRecords ⟨.batch, ⟨j.created, spec.className⟩⟩ b.passed)) := by
        simp [resolve, conclude, Act.run_bind, hcreate, run_createBatchAround, hrefusal, hexcess,
          BatchConfig.arguments_eq_passed]
      rw [hrun]
      exact .created hpositive (by omega)
  · -- the exporter is created all the same, and shut down
    have hne : b.negatives ≠ [] := fun h => hpositive (BatchConfig.negatives_eq_nil.mp h)
    have hcreate := run_createBatch_of_negative host hne j
    have hrun : (resolve host ⟨none, some b⟩).run j
        = (.error (.aggregate b.negatives),
          (j.extend [.create j.created spec] records).extend [.shutdown j.created] []) := by
      simp [resolve, conclude, Act.run_bind, hcreate, tryOut, run_build, hplan, discard,
        run_shutdown, hcloses, List.flatMap_map]
    rw [hrun, BatchConfig.negatives_eq]
    exact .negative hpositive

/-- A queue shorter than the default batch, and a delay of zero. -/
def shortQueue : BatchConfig := ⟨none, some 30000, some 100, some 0, ⟨true, none⟩⟩

/-- The default batch does not fit into a short queue, with a delay of
    zero as without one. -/
theorem resolve_batch_shortQueue :
    (shortQueue.queueInForce < shortQueue.batchInForce ∧
      Batched shortQueue ⟨0, "ConsoleSpanExporter"⟩
        (Journal.extend {} [.create 0 .console] Exporter.consoleRecords)
        ((resolve .bare ⟨none, some shortQueue⟩).run {})) ∧
      (resolve .bare
          ⟨none, some { shortQueue with scheduleDelay := none }⟩).run {}
        = (resolve .bare ⟨none, some shortQueue⟩).run {} := by
  have hholds : shortQueue.Holdable := by
    refine ⟨?_, ?_⟩
    · rintro n ⟨⟩
      decide
    · rintro n ⟨⟩
      decide
  have hsame : shortQueue.SameUpToZero { shortQueue with scheduleDelay := none } :=
    ⟨.inl rfl, .inl rfl, .inl rfl, .inr ⟨.inr rfl, .inl rfl⟩, rfl⟩
  have hx : (Exporter.resolve .bare shortQueue.exporter).run {}
      = (.ok ⟨0, "ConsoleSpanExporter"⟩,
        Journal.extend {} [.create 0 .console] Exporter.consoleRecords) := rfl
  obtain ⟨hbatched, hall⟩ := resolve_batch hx rfl (fun _ _ => rfl) hholds
  exact ⟨⟨by decide, hbatched⟩, hall _ hsame⟩

end Processor

end SpanPipeline
