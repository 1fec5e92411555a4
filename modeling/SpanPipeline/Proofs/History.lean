/-
  SpanPipeline.Proofs.History
  ───────────────────────────
  The history of a program with several setups.

  A history records the steps a program has taken: each with the
  session before it, the failure it ended with, and what happened to
  exporters.  From the history alone follows who owns an exporter,
  which setup is to be installed, through which setup a span was
  opened, and which setups were shut down.

  Main results:
    * `Setup.run_build` — what building a setup can come to.
    * `History` — the runs of a program with what they record.
    * `owned_snoc_of_built`, `endedThrough_snoc`, `shutDown_snoc` —
      what one more step adds.
-/
import SpanPipeline.Proofs.Channel
import SpanPipeline.Proofs.Escape

namespace SpanPipeline

/-! ## §1. Building a setup. -/

/-- The entries of the pipeline that a setup is to have. -/
def Setup.entries (config : Option Config) : List ProcessorConfig :=
  match config.filter fun c => !c.disabled with
  | none => []
  | some c => Pipeline.entries c.tracerProvider

theorem Setup.entries_of_disabled {c : Config} (h : c.disabled = true) :
    Setup.entries (some c) = [] := by
  simp [Setup.entries, Option.filter, h]

theorem Setup.entries_of_enabled {c : Config} (h : c.disabled = false) :
    Setup.entries (some c) = Pipeline.entries c.tracerProvider := by
  simp [Setup.entries, Option.filter, h]

/-- What building a setup can come to, when `n` is the next number:
    a setup for the entries, or a failure that leaves some exporters
    running. -/
inductive Setup.BuildOutcome (n : Nat) (cs : List ProcessorConfig) :
    Except Failure Setup → List Event → Prop where
  | built {s : Setup} {es : List Event} (h : s.Serves n cs es) : BuildOutcome n cs (.ok s) es
  | failed {f : Failure} {es : List Event} {left : List Nat} (h : Ledger.Leaves n es left) :
      BuildOutcome n cs (.error f) es

/-- The setup of a configuration that is not disabled is that of its
    pipeline. -/
theorem Setup.run_build_enabled (host : Host) {c : Config} (hc : c.disabled = false)
    (resource : Option Resource) (j : Journal) :
    (Setup.build host (some c) resource).run j
      = match (Pipeline.resolve host c.tracerProvider).run j with
        | (.error f, j') => (.error f, j')
        | (.ok r, j') =>
          (match r.failure? with
            | some f => .error f
            | none => .ok (r.setup (resource.getD (.ofConfig host (some c.resource)))), j') := by
  have hfilter : (some c).filter (fun c => !c.disabled) = some c := by simp [Option.filter, hc]
  rw [Setup.build, hfilter]
  simp only [Act.run_bind]
  rcases (Pipeline.resolve host c.tracerProvider).run j with ⟨q, j'⟩
  cases q with
  | error f => rfl
  | ok r => cases r <;> rfl

/-- **Building a setup has one of its outcomes.** -/
theorem Setup.run_build (host : Host) (config : Option Config) (resource : Option Resource)
    (j : Journal) :
    ∃ r es rs, (Setup.build host config resource).run j = (r, j.extend es rs) ∧
      BuildOutcome j.created (entries config) r es := by
  cases hc : config.filter fun c => !c.disabled with
  | none =>
    rw [Setup.build, Setup.entries, hc]
    refine ⟨.ok inactive, [], [disabledRecord], ?_, .built (serves_inactive _)⟩
    simp [Act.run_bind, Journal.addRecords_eq]
  | some c =>
    obtain ⟨rfl, henabled⟩ := Option.filter_eq_some_iff.mp hc
    have hoff : c.disabled = false := by simpa using henabled
    rw [run_build_enabled host hoff, entries_of_enabled hoff]
    rcases hrun : (Pipeline.resolve host c.tracerProvider).run j with ⟨q, j₁⟩
    cases q with
    | error f =>
      -- a failure that no entry may end with: what ran before it runs on
      obtain ⟨before, d, hescape⟩ := Pipeline.escape_of_error hrun
      obtain ⟨ps, fs, es, ds, rs, rfl, -, hleaves⟩ := hescape.leftAt.leaves
      exact ⟨.error f, es ++ ds, rs, rfl, .failed hleaves⟩
    | ok r =>
      obtain ⟨es, rs, rfl, ho⟩ := Pipeline.resolve_ok hrun
      cases hr : r.failure? with
      | none =>
        simp only [hr]
        exact ⟨_, es, rs, rfl, .built (ho.serves hr _)⟩
      | some f =>
        simp only [hr]
        exact ⟨_, es, rs, rfl, .failed (ho.leaves_of_failed hr)⟩

/-! ## §2. Histories. -/

/-- A step that was taken. -/
structure Taken where
  /-- The session before the step. -/
  before : Session
  step : SessionStep
  /-- The failure that the step ended with. -/
  failure : Option Failure
  /-- What the step did to exporters. -/
  events : List Event

/-- The steps of a program, oldest first, from a session and a journal
    to a session and a journal. -/
inductive History (host : Host) (s₀ : Session) (j₀ : Journal) :
    List Taken → Session → Journal → Prop where
  | start : History host s₀ j₀ [] s₀ j₀
  | step {past : List Taken} {s s' : Session} {j : Journal} {step : SessionStep}
      {failure : Option Failure} {es : List Event} {rs : List LogRecord}
      (h : History host s₀ j₀ past s j)
      (hrun : (s.step host step).run j = (.ok (s', failure), j.extend es rs)) :
      History host s₀ j₀ (past ++ [⟨s, step, failure, es⟩]) s' (j.extend es rs)

namespace Taken

/-- The configuration from which a step was to build a setup. -/
def config? (t : Taken) : Option (Option Config) :=
  match t.step with
  | .create config _ => some config
  | .configure config => some config
  | _ => none

/-- A setup was built. -/
def built (t : Taken) : Bool := t.config?.isSome && t.failure.isNone

/-- A setup was built to be installed. -/
def configured (t : Taken) : Bool :=
  match t.step with
  | .configure _ => t.failure.isNone
  | _ => false

/-- The entries of the setup that was to be built. -/
def entries (t : Taken) : List ProcessorConfig := t.config?.elim [] Setup.entries

/-- The channels of the setup that was built. -/
def channels (t : Taken) : List Channel := Pipeline.channels t.entries t.events

/-- The open spans after a step, innermost first.  A span is opened
    through the given setup or else the one installed at the time. -/
def nest (spans : List OpenSpan) (t : Taken) : List OpenSpan :=
  match t.step with
  | .start setup name tracer =>
    ⟨⟨name, tracer.getD Setup.defaultTracer⟩, setup.or t.before.installed⟩ :: spans
  | .finish => spans.tail
  | _ => spans

/-- The span that ended with a step, if it was opened through the
    given setup. -/
def ended (k : Nat) (t : Taken) : Option Span :=
  match t.step, t.before.spans with
  | .finish, o :: _ =>
    if o.setup = some k ∧ k < t.before.setups.length then some o.span else none
  | _, _ => none

/-- The step shut the given setup down. -/
def shuts (k : Nat) (t : Taken) : Bool :=
  match t.step with
  | .shutdown i => i = k ∧ k < t.before.setups.length
  | _ => false

end Taken

/-! ## §3. What follows from a history. -/

namespace Past

/-- Everything that happened to exporters. -/
def events (past : List Taken) : List Event := past.flatMap Taken.events

/-- The steps that built the setups, in the order of the setups. -/
def builds (past : List Taken) : List Taken := past.filter Taken.built

/-- The exporters that a setup owns: those that were created when it
    was built. -/
def owned (past : List Taken) (k : Nat) : List Channel := (builds past)[k]?.elim [] Taken.channels

/-- The setup that the first successful installation built. -/
def firstConfigured (past : List Taken) : Option Nat := (builds past).findIdx? Taken.configured

/-- The open spans, innermost first. -/
def opened (past : List Taken) : List OpenSpan := past.foldl Taken.nest []

/-- The spans that ended after they had been opened through a setup. -/
def endedThrough (past : List Taken) (k : Nat) : List Span := past.filterMap (Taken.ended k)

/-- A setup was shut down. -/
def shutDown (past : List Taken) (k : Nat) : Bool := past.any (Taken.shuts k)

variable (past : List Taken) (t : Taken) (k : Nat)

theorem events_snoc : events (past ++ [t]) = events past ++ t.events := by
  simp [events]

theorem builds_snoc : builds (past ++ [t]) = builds past ++ (if t.built then [t] else []) := by
  rw [builds, List.filter_append, List.filter_cons, List.filter_nil]
  rfl

theorem opened_snoc : opened (past ++ [t]) = t.nest (opened past) := by
  simp [opened]

theorem endedThrough_snoc :
    endedThrough (past ++ [t]) k = endedThrough past k ++ (t.ended k).toList := by
  rw [endedThrough, List.filterMap_append]
  cases h : t.ended k <;> simp [h, endedThrough]

theorem shutDown_snoc : shutDown (past ++ [t]) k = (shutDown past k || t.shuts k) := by
  simp [shutDown]

variable {past t k}

theorem owned_of_length_le (h : (builds past).length ≤ k) : owned past k = [] := by
  rw [owned, List.getElem?_eq_none h]
  rfl

/-- A step that builds nothing changes no owner. -/
theorem owned_snoc_of_not_built (h : t.built = false) : owned (past ++ [t]) k = owned past k := by
  rw [owned, builds_snoc, h]
  simp [owned]

/-- A setup that is built owns its channels. -/
theorem owned_snoc_of_built (h : t.built = true) :
    owned (past ++ [t]) k
      = if k = (builds past).length then t.channels else owned past k := by
  rw [owned, builds_snoc, h]
  rcases Nat.lt_trichotomy k (builds past).length with hlt | rfl | hgt
  · rw [if_neg (Nat.ne_of_lt hlt), if_pos rfl, List.getElem?_append_left hlt]
    rfl
  · simp
  · rw [if_neg (Nat.ne_of_gt hgt), if_pos rfl, owned_of_length_le (Nat.le_of_lt hgt),
      List.getElem?_eq_none (by rw [List.length_append]; exact hgt)]
    rfl

theorem firstConfigured_snoc_of_not_built (h : t.built = false) :
    firstConfigured (past ++ [t]) = firstConfigured past := by
  rw [firstConfigured, builds_snoc, h]
  simp [firstConfigured]

/-- A setup that is built to be installed is the first such one,
    unless there is one before. -/
theorem firstConfigured_snoc_of_built (h : t.built = true) :
    firstConfigured (past ++ [t])
      = (firstConfigured past).or (if t.configured then some (builds past).length else none) := by
  rw [firstConfigured, builds_snoc, h, if_pos rfl, List.findIdx?_append]
  cases hc : t.configured <;> simp [hc, firstConfigured]

/-- The first installation stays the first one. -/
theorem firstConfigured_append {later : List Taken} (h : firstConfigured past = some k) :
    firstConfigured (past ++ later) = some k := by
  rw [firstConfigured, builds, List.filter_append, List.findIdx?_append]
  rw [firstConfigured, builds] at h
  rw [h]
  rfl

end Past

end SpanPipeline
