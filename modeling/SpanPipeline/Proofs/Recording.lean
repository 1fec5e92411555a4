/-
  SpanPipeline.Proofs.Recording
  ─────────────────────────────
  Aggregators keep what is recorded, and nothing else.

  A program records failures in several aggregators, in any order,
  and records results of aggregators as failures again.  Each step
  adds to one aggregator what it is given, and takes nothing away.
  So an aggregator holds what was recorded in it, from the first
  failure to the last.  A result that was saved is what it was when
  it was saved, however much is recorded afterwards.

  Main results:
    * `failures_step`, `failures_after` — one step adds what it
      records, and any number of them do.
    * `saved_after` — what is saved stays, until something else is
      saved under its name.
    * `after_keeps` — what aggregators hold and answer after any
      steps.
-/
import SpanPipeline.Failure.Collection

namespace SpanPipeline.Collection

/-! ## §1. What is recorded. -/

/-- What a step records in an aggregator: the failures among what it
    is given, but of those that a block raises only the pipeline's
    own. -/
def Step.recorded (c : Collection) (name : String) : Step → List Failure
  | .add n item => if n = name then (item.value c).toList else []
  | .extend n items => if n = name then items.flatMap fun i => (i.value c).toList else []
  | .capture n item => if n = name then (item.value c).toList.filter Failure.isOwn else []
  | _ => []

/-- What several steps record in an aggregator, in order. -/
def recorded (c : Collection) (name : String) : List Step → List Failure
  | [] => []
  | s :: ss => s.recorded c name ++ recorded (c.step s).1 name ss

/-- The step saves something under the name. -/
def Step.saves (key : String) : Step → Prop
  | .save _ k => k = key
  | _ => False

/-! ## §2. One step. -/

section Step

variable (c : Collection) (name : String)

/-- A block that raises one of the pipeline's own failures. -/
theorem step_capture_own {item : Item} {f : Failure} (hf : item.value c = some f)
    (hown : f.isOwn = true) :
    c.step (.capture name item) = (c.put name ⟨(c.named name).failures ++ [f]⟩, {}) := by
  simp [step, hf, block, Aggregator.capture_own hown]

/-- A block that raises anything else. -/
theorem step_capture_foreign {item : Item} {f : Failure} (hf : item.value c = some f)
    (hforeign : f.isOwn = false) :
    c.step (.capture name item) = (c, { raised := some f }) := by
  simp [step, hf, block, Aggregator.capture_foreign hforeign]

/-- A block that raises nothing. -/
theorem step_capture_nothing {item : Item} (hf : item.value c = none) :
    c.step (.capture name item) = (c.put name (c.named name), {}) := by
  simp [step, hf, block, Aggregator.capture]

/-- An aggregator that is replaced by one with more failures. -/
theorem failures_put {n : String} {a : Aggregator} {fs : List Failure}
    (ha : a.failures = (c.named n).failures ++ fs) :
    ((c.put n a).named name).failures
      = (c.named name).failures ++ if n = name then fs else [] := by
  by_cases h : n = name
  · subst h
    rw [named_put_self, ha, if_pos rfl]
  · rw [named_put_of_ne (Ne.symm h), if_neg h, List.append_nil]

/-- **One step adds what it records.** -/
theorem failures_step (s : Step) :
    ((c.step s).1.named name).failures = (c.named name).failures ++ s.recorded c name := by
  cases s with
  | add n item => exact failures_put c name (Aggregator.failures_add _ _)
  | extend n items =>
    refine failures_put c name ?_
    rw [Aggregator.failures_extend, List.flatMap_map]
  | capture n item =>
    show ((c.step (.capture n item)).1.named name).failures = (c.named name).failures
      ++ if n = name then (item.value c).toList.filter Failure.isOwn else []
    cases hf : item.value c with
    | none =>
      rw [step_capture_nothing c n hf]
      exact failures_put c name (List.append_nil _).symm
    | some f =>
      cases hown : f.isOwn with
      | true =>
        rw [step_capture_own c n hf hown, Option.toList_some, List.filter_cons_of_pos hown,
          List.filter_nil]
        exact failures_put c name rfl
      | false =>
        -- what passes through is not recorded, under whatever name
        rw [step_capture_foreign c n hf hown, Option.toList_some]
        simp [hown]
  | result n | save n key | look key | check n => exact (List.append_nil _).symm

/-- Only a step that saves under a name changes what is saved there. -/
theorem saved_step {s : Step} {key : String} (h : ¬ s.saves key) :
    (c.step s).1.saved key = c.saved key := by
  cases s with
  | save n k => exact saved_keep_of_ne (Ne.symm h)
  | capture n item =>
    cases hf : item.value c with
    | none => rw [step_capture_nothing c n hf, saved_put]
    | some f =>
      cases hown : f.isOwn with
      | true => rw [step_capture_own c n hf hown, saved_put]
      | false => rw [step_capture_foreign c n hf hown]
  | add n item | extend n items | result n | look k | check n => rfl

end Step

/-! ## §3. Any number of steps. -/

theorem after_append (c : Collection) (ss ts : List Step) :
    c.after (ss ++ ts) = (c.after ss).after ts :=
  List.foldl_append

/-- **Any number of steps add what they record.** -/
theorem failures_after (c : Collection) (name : String) (ss : List Step) :
    ((c.after ss).named name).failures = (c.named name).failures ++ recorded c name ss := by
  induction ss generalizing c with
  | nil => exact (List.append_nil _).symm
  | cons s ss ih =>
    show (((c.step s).1.after ss).named name).failures = _
    rw [ih, failures_step, List.append_assoc]
    rfl

/-- **What is saved stays**, until something is saved under its name. -/
theorem saved_after (c : Collection) {key : String} {ss : List Step}
    (h : ∀ s ∈ ss, ¬ s.saves key) : (c.after ss).saved key = c.saved key := by
  induction ss generalizing c with
  | nil => rfl
  | cons s ss ih =>
    show ((c.step s).1.after ss).saved key = _
    rw [ih _ fun t ht => h t (List.mem_cons_of_mem s ht), saved_step c (h s List.mem_cons_self)]

/-- What is recorded under the given name, from the start on. -/
def recordedIn (name : String) (ss : List Step) : List Failure := recorded empty name ss

theorem failures_after_empty (name : String) (ss : List Step) :
    ((empty.after ss).named name).failures = recordedIn name ss := by
  rw [failures_after]
  exact List.nil_append _

/-- The result of an aggregator stands for what was recorded in it. -/
theorem result?_after_empty (name : String) (ss : List Step) :
    ((empty.after ss).named name).result?
      = if recordedIn name ss = [] then none else some (.aggregate (recordedIn name ss)) := by
  rw [Aggregator.result?, failures_after_empty]
  simp only [List.isEmpty_iff]

/-- Recorded in itself, a result is one more failure, and its messages
    come again. -/
example : (((empty.after [ .add "a" (.failure (.general "x")), .add "a" (.failure (.aggregate [])),
      .add "a" (.result "a") ]).named "a").result?.map fun f => (f.children.length, f.messages))
    = some (3, ["x", "x"]) := rfl

/-! ## §4. What aggregators keep. -/

/-- **What aggregators hold and answer** after the given steps, from
    none recorded. -/
structure Keeps (steps : List Step) : Prop where
  /-- They count what was recorded. -/
  size : ∀ name, ((empty.after steps).named name).size = (recordedIn name steps).length
  truth : ∀ name, ((empty.after steps).named name).nonempty = true ↔
    0 < ((empty.after steps).named name).size
  /-- There is no result when nothing was recorded. -/
  noResult : ∀ name, ((empty.after steps).named name).result? = none ↔
    ((empty.after steps).named name).size = 0
  /-- Otherwise it has the recorded failures as its children, in order,
      and their messages and texts. -/
  hasResult : ∀ name f, ((empty.after steps).named name).result? = some f →
    f.kind? = some .aggregate ∧ f.children = recordedIn name steps ∧
      f.messages = (recordedIn name steps).flatMap Failure.messages ∧
      f.text = String.intercalate "\n" ((recordedIn name steps).map Failure.text)
  /-- A block that raises one of the pipeline's failures records it as
      one child. -/
  caught : ∀ name item f, item.value (empty.after steps) = some f → f.isOwn = true →
    recordedIn name (steps ++ [.capture name item]) = recordedIn name steps ++ [f] ∧
      ((empty.after steps).step (.capture name item)).2.raised = none
  /-- A block that raises anything else passes it on and changes
      nothing. -/
  passed : ∀ name item f, item.value (empty.after steps) = some f → f.isOwn = false →
    (empty.after steps).step (.capture name item) = (empty.after steps, { raised := some f })
  /-- What was saved is the result of that time. -/
  saved : ∀ before name key later, steps = before ++ .save name key :: later →
    (∀ s ∈ later, ¬ s.saves key) →
    ((empty.after steps).step (.look key)).2.shown
      = if recordedIn name before = [] then none else some (.aggregate (recordedIn name before))

/-- **Aggregators keep what is recorded**, whatever steps a program
    takes. -/
theorem after_keeps (steps : List Step) : Keeps steps := by
  refine ⟨?_, ?_, ?_, ?_, ?_, ?_, ?_⟩
  · intro name
    rw [Aggregator.size, failures_after_empty]
  · intro name
    rw [Aggregator.nonempty, Aggregator.size, Bool.not_eq_true', List.isEmpty_eq_false_iff,
      List.length_pos_iff]
  · intro name
    exact Aggregator.result_eq_none_iff
  · intro name f hf
    rw [result?_after_empty] at hf
    split at hf
    · cases hf
    · cases hf
      exact ⟨rfl, rfl, Failure.messages_aggregate _, Failure.text_aggregate _⟩
  · intro name item f hf hown
    refine ⟨?_, ?_⟩
    · rw [← failures_after_empty, after_append, ← failures_after_empty name steps]
      show (((empty.after steps).step (.capture name item)).1.named name).failures = _
      rw [step_capture_own _ name hf hown, named_put_self]
    · rw [step_capture_own _ name hf hown]
  · intro name item f hf hforeign
    exact step_capture_foreign _ name hf hforeign
  · intro before name key later heq hlater
    show (empty.after steps).saved key = _
    rw [heq, after_append, ← result?_after_empty]
    -- the steps after the one that saves leave its result alone
    show (((((empty.after before).step (.save name key)).1).after later).saved key) = _
    rw [saved_after _ hlater]
    exact saved_keep_self _ _ _

end SpanPipeline.Collection
