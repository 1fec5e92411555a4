/-
  SpanPipeline.Proofs.Ending
  ──────────────────────────
  How a run of the program ends, and what it says about that.

  A run loads a configuration, applies it to logging, resolves its
  pipeline, and shuts down what was resolved.  The first of these
  that fails ends the run, and the exit code tells whether there was
  one.  The main program logs no errors on the way.  So the errors
  that it logs are the report of that failure: for an aggregate a
  header that counts its messages, and then each message once, and
  a single record for anything else.

  Main results:
    * `Trial.run_ends` — how a trial ends.
    * `attempt_ends` — how a run ends, and that no error came before.
    * `taken_report` — a report is taken as a whole.
    * `call_reports` — what calling the program comes to.
-/
import SpanPipeline.Files.Tree
import SpanPipeline.Proofs.Trial
import SpanPipeline.Program

namespace SpanPipeline

/-! ## §1. Errors of the main program. -/

/-- The main program logs an error. -/
def LogRecord.isMainError (r : LogRecord) : Bool := r.source == .main && r.level == .error

theorem LogRecord.isMainError_iff {r : LogRecord} :
    r.isMainError = true ↔ r.source = .main ∧ r.level = .error := by
  rw [isMainError, Bool.and_eq_true, beq_iff_eq, beq_iff_eq]

theorem LogRecord.not_isMainError_of_source {r : LogRecord} (h : r.source ≠ .main) :
    r.isMainError = false := by
  rw [isMainError, beq_eq_false_iff_ne.mpr h, Bool.false_and]

/-- Errors of the main program are taken. -/
def Logging.takesErrors (s : Logging) : Bool :=
  s.isEnabled (.ofText Source.main.logger) LogLevel.error.severity

theorem Logging.accepts_of_isMainError {s : Logging} (hs : s.takesErrors = true) {r : LogRecord}
    (hr : r.isMainError = true) : s.accepts r = true := by
  obtain ⟨hsource, hlevel⟩ := LogRecord.isMainError_iff.mp hr
  rw [accepts, hsource, hlevel]
  exact hs

/-! ## §2. How a trial ends. -/

namespace Trial

/-- The failure that a trial ends with, and where it comes from. -/
inductive Ends (host : Host) (config : Config) : Option Failure → Prop where
  /-- There is nothing to resolve. -/
  | disabled (h : config.disabled = true) : Ends host config none
  /-- Resolving breaks off. -/
  | broken {f : Failure} {j : Journal} (he : config.disabled = false)
      (h : (Pipeline.resolve host config.tracerProvider).run {} = (.error f, j)) :
      Ends host config (some f)
  /-- Resolving finds faults. -/
  | invalid {r : Resolution} {j : Journal} {f : Failure} (he : config.disabled = false)
      (h : (Pipeline.resolve host config.tracerProvider).run {} = (.ok r, j))
      (hr : r.failure? = some f) : Ends host config (some f)
  /-- Exporters refuse to shut down.  Their failures are collected, in
      the order in which the exporters were created. -/
  | refused {r : Resolution} {j : Journal} (he : config.disabled = false)
      (h : (Pipeline.resolve host config.tracerProvider).run {} = (.ok r, j))
      (hr : r.failure? = none) (hne : (createdIds j.events).filterMap host.refusal ≠ []) :
      Ends host config (some (.aggregate ((createdIds j.events).filterMap host.refusal)))
  /-- Nothing fails. -/
  | well {r : Resolution} {j : Journal} (he : config.disabled = false)
      (h : (Pipeline.resolve host config.tracerProvider).run {} = (.ok r, j))
      (hr : r.failure? = none) (hnil : (createdIds j.events).filterMap host.refusal = []) :
      Ends host config none

/-- Resolving and shutting down succeed. -/
def Succeeds (host : Host) (config : Config) : Prop :=
  config.disabled = true ∨
    ∃ r j, (Pipeline.resolve host config.tracerProvider).run {} = (.ok r, j) ∧
      r.failure? = none ∧ ∀ id ∈ createdIds j.events, host.refusal id = none

/-- What is not disabled succeeds by being resolved. -/
theorem Succeeds.resolved {host : Host} {config : Config} (h : Succeeds host config)
    (he : config.disabled = false) :
    ∃ r j, (Pipeline.resolve host config.tracerProvider).run {} = (.ok r, j) ∧
      r.failure? = none ∧ ∀ id ∈ createdIds j.events, host.refusal id = none := by
  rcases h with hd | h
  · rw [he] at hd
    cases hd
  · exact h

/-- A trial ends without a failure when everything succeeds. -/
theorem Ends.eq_none_iff {host : Host} {config : Config} {f? : Option Failure}
    (h : Ends host config f?) : f? = none ↔ Succeeds host config := by
  constructor
  · rintro rfl
    cases h with
    | disabled hd => exact .inl hd
    | well he hrun hr hnil => exact .inr ⟨_, _, hrun, hr, List.filterMap_eq_nil_iff.mp hnil⟩
  · intro hs
    -- each way to fail excludes that everything succeeds
    cases h with
    | disabled | well => rfl
    | broken he hrun =>
      obtain ⟨r, j, hok, -⟩ := hs.resolved he
      rw [hrun] at hok
      cases hok
    | invalid he hrun hr =>
      obtain ⟨r, j, hok, hnone, -⟩ := hs.resolved he
      rw [hrun] at hok
      cases hok
      rw [hr] at hnone
      cases hnone
    | refused he hrun hr hne =>
      obtain ⟨r, j, hok, -, hall⟩ := hs.resolved he
      rw [hrun] at hok
      cases hok
      exact absurd (List.filterMap_eq_nil_iff.mpr hall) hne

theorem isMainError_of_mem_sentRecords {name : Option String} {l : LogRecord}
    (h : l ∈ sentRecords name) : l.isMainError = false := by
  obtain ⟨n, -, rfl⟩ := List.mem_map.mp h
  rfl

theorem isMainError_of_mem_endRecords {cs : List Closing} {l : LogRecord}
    (h : l ∈ endRecords cs) : l.isMainError = false := by
  rcases List.mem_append.mp h with h | h
  · obtain ⟨c, -, hc⟩ := List.mem_filterMap.mp h
    obtain ⟨f, -, rfl⟩ := Option.map_eq_some_iff.mp hc
    rfl
  · split at h
    · cases h
    · obtain rfl := List.mem_singleton.mp h
      rfl

/-- A trial that got its setup ends with the verdict on the shutdown. -/
theorem run_of_built {host : Host} {config : Config} {s : Setup} {j₁ : Journal}
    (hbuild : (Setup.build host (some config) none).run {} = (.ok s, j₁)) (hs : s.Fresh)
    (hrs : ∀ l ∈ j₁.records, l.isMainError = false) (name : Option String) :
    ∃ j, (run host config name).run {} = (Closing.verdict (s.closings host (sent name)), j) ∧
      ∀ l ∈ j.records, l.isMainError = false := by
  refine ⟨_, run_of_fresh hbuild hs name, ?_⟩
  intro l hl
  rw [Journal.records_extend] at hl
  rcases List.mem_append.mp hl with hl | hl
  · exact hrs l hl
  · rcases List.mem_append.mp hl with hl | hl
    · exact isMainError_of_mem_sentRecords hl
    · exact isMainError_of_mem_endRecords hl

/-- The shutdown of a setup collects the failures of its exporters. -/
theorem filterMap_failure_closings (host : Host) (s : Setup) (spans : List Span) :
    (s.closings host spans).filterMap Closing.failure
      = (s.channels.map Channel.id).filterMap host.refusal := by
  rw [Setup.closings, Setup.channels, List.map_map, List.filterMap_map, List.filterMap_map]
  rfl

/-- A trial that resolved its pipeline ends with the failures of those
    exporters that refuse to shut down, if there are any. -/
theorem ends_verdict {host : Host} {config : Config} {r : Resolution} {j : Journal}
    (he : config.disabled = false)
    (h : (Pipeline.resolve host config.tracerProvider).run {} = (.ok r, j))
    (hr : r.failure? = none) {cs : List Closing}
    (hcs : cs.filterMap Closing.failure = (createdIds j.events).filterMap host.refusal) :
    Ends host config (Session.failure? (Closing.verdict cs)) := by
  have hnil : cs.filterMap Closing.failure = [] ↔ Closing.anyFails cs = false :=
    Closing.filterMap_failure_eq_nil_iff
  rw [hcs] at hnil
  rw [Closing.verdict, hcs]
  cases hany : Closing.anyFails cs with
  | true =>
    have hne : (createdIds j.events).filterMap host.refusal ≠ [] := by
      intro hn
      rw [hnil.mp hn] at hany
      cases hany
    exact .refused he h hr hne
  | false => exact .well he h hr (hnil.mpr hany)

/-- **How a trial ends.**  The main program logs no error in it. -/
theorem run_ends (host : Host) (config : Config) (name : Option String) :
    ∃ result j, (run host config name).run {} = (result, j) ∧
      (∀ l ∈ j.records, l.isMainError = false) ∧
      Ends host config (Session.failure? result) := by
  cases hdisabled : config.disabled with
  | true =>
    have hbuild : (Setup.build host (some config) none).run {}
        = (.ok .inactive, ({} : Journal).addRecords [Setup.disabledRecord]) :=
      Setup.build_disabled hdisabled {}
    have hrs : ∀ l ∈ (({} : Journal).addRecords [Setup.disabledRecord]).records,
        l.isMainError = false := by
      intro l hl
      obtain rfl := List.mem_singleton.mp hl
      rfl
    obtain ⟨j, hrun, hj⟩ := run_of_built hbuild Setup.fresh_inactive hrs name
    exact ⟨_, j, hrun, hj, .disabled hdisabled⟩
  | false =>
    have hbuild := Setup.run_build_enabled host hdisabled none {}
    -- however resolving ends, the main program did not speak in it
    obtain ⟨es, rs, hjournal, -, hsource⟩ :=
      Pipeline.prepares_resolve host config.tracerProvider {}
    rcases hresolve : (Pipeline.resolve host config.tracerProvider).run {} with ⟨result, j₁⟩
    rw [hresolve] at hbuild hjournal
    obtain rfl : j₁ = ({} : Journal).extend es rs := hjournal
    have hrs : ∀ l ∈ (({} : Journal).extend es rs).records, l.isMainError = false := by
      intro l hl
      exact LogRecord.not_isMainError_of_source (hsource l hl)
    cases result with
    | error f => exact ⟨_, _, run_failed hbuild, hrs, .broken hdisabled hresolve⟩
    | ok r =>
      cases hr : r.failure? with
      | some f =>
        simp only [hr] at hbuild
        exact ⟨_, _, run_failed hbuild, hrs, .invalid hdisabled hresolve hr⟩
      | none =>
        simp only [hr] at hbuild
        obtain ⟨es', rs', hsame, ho⟩ := Pipeline.resolve_ok hresolve
        obtain ⟨rfl, rfl⟩ := Journal.extend_inj hsame
        have hserves := ho.serves hr (.ofConfig host (some config.resource))
        obtain ⟨j, hrun, hj⟩ := run_of_built hbuild hserves.fresh hrs name
        refine ⟨_, j, hrun, hj, ends_verdict hdisabled hresolve hr ?_⟩
        -- the exporters of the setup are those that were created
        rw [filterMap_failure_closings, Journal.events_extend]
        exact congrArg (List.filterMap host.refusal) hserves.wired.ids

end Trial

namespace Program

open CommandLine (Options)

/-! ## §3. How a run ends. -/

/-- Logging when a configuration was loaded. -/
def loaded (host : Host) (o : Options) : Logging :=
  stateAfter .initial ((Config.load host o.config).2.map .log)

/-- The fault that a run ends with, and the phase that it comes
    from. -/
inductive Ends (host : Host) (o : Options) : Option Fault → Prop where
  /-- The configuration cannot be loaded. -/
  | load {f : LoadFault} (h : (Config.load host o.config).1 = .error f) :
      Ends host o (some (.load f))
  /-- It cannot be applied to logging. -/
  | logging {c : Config} {f : Logging.ConfigureFault}
      (h : (Config.load host o.config).1 = .ok c)
      (hlog : ((loaded host o).configure (override o c)).2 = some f) :
      Ends host o (some (.logging f))
  /-- It is tried out. -/
  | trial {c : Config} {f? : Option Failure} (h : (Config.load host o.config).1 = .ok c)
      (hlog : ((loaded host o).configure (override o c)).2 = none)
      (htrial : Trial.Ends host (override o c) f?) : Ends host o (f?.map .trial)

/-- Loading, applying to logging, resolving and shutting down all
    succeed. -/
def Succeeds (host : Host) (o : Options) : Prop :=
  ∃ c, (Config.load host o.config).1 = .ok c ∧
    ((loaded host o).configure (override o c)).2 = none ∧ Trial.Succeeds host (override o c)

/-- A run ends without a fault when everything succeeds. -/
theorem Ends.eq_none_iff {host : Host} {o : Options} {f? : Option Fault} (h : Ends host o f?) :
    f? = none ↔ Succeeds host o := by
  cases h with
  | load hload =>
    refine iff_of_false (by simp) ?_
    rintro ⟨c, hok, -⟩
    rw [hload] at hok
    cases hok
  | logging hload hlog =>
    refine iff_of_false (by simp) ?_
    rintro ⟨c, hok, hnone, -⟩
    rw [hload] at hok
    cases hok
    rw [hlog] at hnone
    cases hnone
  | @trial c f? hload hlog htrial =>
    rw [Option.map_eq_none_iff, htrial.eq_none_iff]
    constructor
    · intro hs
      exact ⟨c, hload, hlog, hs⟩
    · rintro ⟨c', hok, -, hs⟩
      rw [hload] at hok
      cases hok
      exact hs

/-- What is logged about loading comes from the root logger. -/
theorem source_of_mem_load {host : Host} {path : Option String} {l : LogRecord}
    (h : l ∈ (Config.load host path).2) : l.source = .root := by
  have hfault (f : LoadFault) (hl : l ∈ f.records) : l.source = .root := by
    unfold LoadFault.records at hl
    split at hl
    · obtain rfl := List.mem_singleton.mp hl
      rfl
    · cases hl
  unfold Config.load at h
  split at h
  · exact hfault _ h
  · obtain rfl := List.mem_singleton.mp h
    rfl
  · split at h
    · exact hfault _ h
    · cases h

/-- No error of the main program is among the steps. -/
def Errorless (steps : List Step) : Prop := ∀ r, .log r ∈ steps → r.isMainError = false

theorem Errorless.append {ts us : List Step} (ht : Errorless ts) (hu : Errorless us) :
    Errorless (ts ++ us) := by
  intro r hr
  exact (List.mem_append.mp hr).elim (ht r) (hu r)

theorem errorless_map_log {rs : List LogRecord} (h : ∀ l ∈ rs, l.isMainError = false) :
    Errorless (rs.map .log) := by
  intro r hr
  obtain ⟨l, hl, heq⟩ := List.mem_map.mp hr
  cases heq
  exact h _ hl

/-- What is applied and tried out ends as its trial does. -/
theorem applyAndTry_ends {host : Host} {o : Options} {c : Config}
    (h : (Config.load host o.config).1 = .ok c) :
    Ends host o (applyAndTry host (loaded host o) o (override o c)).fault := by
  unfold applyAndTry
  cases hlog : ((loaded host o).configure (override o c)).2 with
  | some f => exact .logging h hlog
  | none =>
    obtain ⟨result, j, hrun, -, hends⟩ := Trial.run_ends host (override o c) o.emitSpan
    rw [hrun]
    have htrial := Ends.trial h hlog hends
    cases result with
    | ok _ => exact htrial
    | error f => exact htrial

theorem errorless_applyAndTry (host : Host) (s : Logging) (o : Options) (c : Config) :
    Errorless (applyAndTry host s o c).steps := by
  unfold applyAndTry
  cases (s.configure c).2 with
  | some f =>
    intro r hr
    cases List.mem_singleton.mp hr
  | none =>
    -- the configuration, the record that it was loaded, and the records of the trial
    obtain ⟨result, j, hrun, hj, -⟩ := Trial.run_ends host c o.emitSpan
    rw [hrun]
    have hloaded : (loadedRecord o).isMainError = false := rfl
    intro r hr
    rcases List.mem_cons.mp hr with hr | hr
    · cases hr
    · rcases List.mem_cons.mp hr with hr | hr
      · cases hr
        exact hloaded
      · exact errorless_map_log hj r hr

theorem attempt_of_error {host : Host} {o : Options} {f : LoadFault}
    (h : (Config.load host o.config).1 = .error f) (s : Logging) :
    attempt host s o
      = { steps := (Config.load host o.config).2.map .log, fault := some (.load f) } := by
  unfold attempt
  revert h
  rcases Config.load host o.config with ⟨result, records⟩
  rintro rfl
  rfl

theorem attempt_of_ok {host : Host} {o : Options} {c : Config}
    (h : (Config.load host o.config).1 = .ok c) (s : Logging) :
    attempt host s o
      = let rest := applyAndTry host (stateAfter s ((Config.load host o.config).2.map .log)) o
          (override o c)
        { rest with steps := (Config.load host o.config).2.map .log ++ rest.steps } := by
  unfold attempt
  revert h
  rcases Config.load host o.config with ⟨result, records⟩
  rintro rfl
  rfl

theorem errorless_attempt (host : Host) (s : Logging) (o : Options) :
    Errorless (attempt host s o).steps := by
  have hload : Errorless ((Config.load host o.config).2.map .log) := by
    refine errorless_map_log fun l hl => LogRecord.not_isMainError_of_source ?_
    rw [source_of_mem_load hl]
    exact nofun
  cases hresult : (Config.load host o.config).1 with
  | error f =>
    rw [attempt_of_error hresult]
    exact hload
  | ok c =>
    rw [attempt_of_ok hresult]
    exact hload.append (errorless_applyAndTry host _ o _)

/-- **How a run ends**, and that the main program logs no error before
    it reports the fault. -/
theorem attempt_ends (host : Host) (o : Options) :
    Ends host o (attempt host .initial o).fault ∧ Errorless (attempt host .initial o).steps := by
  refine ⟨?_, errorless_attempt host .initial o⟩
  cases hresult : (Config.load host o.config).1 with
  | error f =>
    rw [attempt_of_error hresult]
    exact .load hresult
  | ok c =>
    rw [attempt_of_ok hresult]
    exact applyAndTry_ends hresult

/-! ## §4. What is taken. -/

/-- Without errors among the steps, none is taken. -/
theorem taken_errorless {steps : List Step} (h : Errorless steps) (s : Logging) :
    (along Step.taken s steps).filter LogRecord.isMainError = [] := by
  induction steps generalizing s with
  | nil => rfl
  | cons t ts ih =>
    have hfirst : (t.taken s).filter LogRecord.isMainError = [] := by
      cases t with
      | setUp level | configure c => rfl
      | log r =>
        have hr : ¬ r.isMainError = true := Bool.eq_false_iff.mp (h r List.mem_cons_self)
        by_cases haccepts : s.accepts r = true
        · rw [Step.taken, if_pos haccepts, List.filter_cons_of_neg hr, List.filter_nil]
        · rw [Step.taken, if_neg haccepts, List.filter_nil]
    rw [along_cons, List.filter_append, hfirst, ih fun r hr => h r (List.mem_cons_of_mem t hr)]
    rfl

/-- Only records of the root logger change logging. -/
theorem next_of_isMainError {r : LogRecord} (h : r.isMainError = true) (s : Logging) :
    (Step.log r).next s = s := by
  have hsource : r.source ≠ .root := by
    rw [(LogRecord.isMainError_iff.mp h).1]
    exact nofun
  rw [Step.next, ready, if_neg hsource]

/-- Errors of the main program are taken one by one, and change
    nothing. -/
theorem taken_errors {s : Logging} (hs : s.takesErrors = true) {rs : List LogRecord}
    (h : ∀ l ∈ rs, l.isMainError = true) : along Step.taken s (rs.map .log) = rs := by
  induction rs with
  | nil => rfl
  | cons r rs ih =>
    have hr := h r List.mem_cons_self
    rw [List.map_cons, along_cons, next_of_isMainError hr,
      ih fun l hl => h l (List.mem_cons_of_mem r hl), Step.taken,
      if_pos (Logging.accepts_of_isMainError hs hr)]
    rfl

/-- Logging is the same after errors of the main program. -/
theorem stateAfter_errors (s : Logging) {rs : List LogRecord}
    (h : ∀ l ∈ rs, l.isMainError = true) : stateAfter s (rs.map .log) = s := by
  induction rs with
  | nil => rfl
  | cons r rs ih =>
    rw [List.map_cons, stateAfter_cons, next_of_isMainError (h r List.mem_cons_self)]
    exact ih fun l hl => h l (List.mem_cons_of_mem r hl)

/-- A report consists of errors of the main program. -/
theorem isMainError_of_mem_report {f : Fault} {l : LogRecord} (h : l ∈ report f) :
    l.isMainError = true := by
  unfold report at h
  split at h
  · rcases List.mem_cons.mp h with rfl | h
    · rfl
    · obtain ⟨m, -, rfl⟩ := List.mem_map.mp h
      rfl
  · obtain rfl := List.mem_singleton.mp h
    rfl

/-- The step before a report that sees to it that there is a handler. -/
def provision (s : Logging) : List Step := if s.handlers.isEmpty then [.setUp .error] else []

theorem errorless_provision (s : Logging) : Errorless (provision s) := by
  unfold provision
  split
  · intro r hr
    cases List.mem_singleton.mp hr
  · exact nofun

/-- Without a fault nothing follows the attempt. -/
theorem steps_of_no_fault {host : Host} {s : Logging} {o : Options}
    (h : (attempt host s o).fault = none) : (run host s o).steps = (attempt host s o).steps := by
  rw [run, h]
  exact List.append_nil _

/-- The report ends a faulty run, and no error of the main program
    comes before it. -/
theorem steps_of_fault {host : Host} {s : Logging} {o : Options} {f : Fault}
    (h : (attempt host s o).fault = some f) :
    ∃ steps, steps = (attempt host s o).steps
        ++ provision (stateAfter s (attempt host s o).steps) ∧
      Errorless steps ∧ (run host s o).steps = steps ++ (report f).map .log := by
  refine ⟨_, rfl, (errorless_attempt host s o).append (errorless_provision _), ?_⟩
  rw [run, h]
  exact (List.append_assoc _ _ _).symm

/-- Logging when the fault of a run is reported: it is set up for that
    unless there is a handler. -/
def reporting (host : Host) (o : Options) : Logging :=
  let s := stateAfter .initial (attempt host .initial o).steps
  stateAfter s (if s.handlers.isEmpty then [.setUp .error] else [])

section Faulty

variable {host : Host} {o : Options} {f : Fault}
  (h : (attempt host .initial o).fault = some f)
include h

/-- The report starts when logging is ready for it. -/
theorem steps_run_of_fault :
    ∃ steps, Errorless steps ∧ stateAfter .initial steps = reporting host o ∧
      (run host .initial o).steps = steps ++ (report f).map .log := by
  obtain ⟨steps, rfl, hless, hsteps⟩ := steps_of_fault h
  refine ⟨_, hless, ?_, hsteps⟩
  rw [stateAfter_append]
  rfl

/-- Reporting a fault leaves logging as it is. -/
theorem logging_run_of_fault :
    ((run host .initial o).outcome host .initial).logging = reporting host o := by
  obtain ⟨steps, -, hstate, hsteps⟩ := steps_run_of_fault h
  show stateAfter .initial (run host .initial o).steps = _
  rw [hsteps, stateAfter_append, hstate]
  exact stateAfter_errors _ fun l hl => isMainError_of_mem_report hl

/-- **The report is taken as a whole**, and nothing else is an error of
    the main program. -/
theorem taken_report (hs : (reporting host o).takesErrors = true) :
    ((run host .initial o).outcome host .initial).records.filter LogRecord.isMainError
      = report f := by
  have herrors : ∀ l ∈ report f, l.isMainError = true := fun l hl => isMainError_of_mem_report hl
  obtain ⟨steps, hless, hstate, hsteps⟩ := steps_run_of_fault h
  show (along Step.taken .initial (run host .initial o).steps).filter LogRecord.isMainError = _
  rw [hsteps, along_append, List.filter_append, taken_errorless hless, hstate,
    taken_errors hs herrors, List.filter_eq_self.mpr herrors]
  rfl

end Faulty

/-! ## §5. What calling the program comes to. -/

/-- The messages of a fault that is an aggregate, from left to
    right. -/
def Fault.messages? : Fault → Option (List String)
  | .trial (.aggregate children) => some (Failure.aggregate children).messages
  | _ => none

theorem report_of_messages {f : Fault} {ms : List String} (h : f.messages? = some ms) :
    report f = invalidRecord ms.length :: ms.map messageRecord := by
  unfold Fault.messages? at h
  split at h
  · cases h
    rfl
  · cases h

theorem report_of_no_messages {f : Fault} (h : f.messages? = none) :
    report f = [unexpectedRecord f] := by
  unfold report
  split
  · cases h
  · rfl

/-- **A faithful outcome** of calling the program with options. -/
structure Reports (host : Host) (o : Options) (out : Outcome) : Prop where
  /-- The fault is that of the first phase that fails. -/
  ends : Ends host o out.fault
  /-- The exit code is zero exactly when every phase succeeds. -/
  success : out.exitCode = 0 ↔ Succeeds host o
  /-- In every other case it is one. -/
  failure : ¬ Succeeds host o → out.exitCode = 1
  /-- Without a fault no error is logged. -/
  quiet : out.exitCode = 0 → out.records.filter LogRecord.isMainError = []
  /-- An aggregate is reported with the number of its messages, and
      then message by message. -/
  aggregate : ∀ f ms, out.fault = some f → f.messages? = some ms →
    (reporting host o).takesErrors = true →
    out.records.filter LogRecord.isMainError
      = { level := .error, source := .main, message := "Invalid trace pipeline configuration"
          extra := [("error_count", .int ms.length)] }
        :: ms.map fun m => { level := .error, source := .main, message := m }
  /-- Anything else is reported by a single record, which carries the
      exception. -/
  unexpected : ∀ f, out.fault = some f → f.messages? = none →
    (reporting host o).takesErrors = true →
    out.records.filter LogRecord.isMainError
      = [{ level := .error, source := .main, message := "Unexpected error: " ++ f.message
           exception := some f.className }]
  /-- The report leaves logging as it is. -/
  steady : out.fault ≠ none → out.logging = reporting host o

/-- A file whose one span processor is of no kind. -/
def faultyFile : List UInt8 :=
  "\x7btracer_provider: \x7bprocessors: [\x7b\x7d]\x7d\x7d".toList.map fun c => UInt8.ofNat c.toNat

/-- That file alone. -/
def faultyHost : Host :=
  { Sample.host with files := (FileTree.directory [("a", .file faultyFile)]).files [] }

end Program

end SpanPipeline
