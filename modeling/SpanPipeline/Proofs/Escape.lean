/-
  SpanPipeline.Proofs.Escape
  ──────────────────────────
  What a foreign exception leaves running.

  The loop over the entries stops for pipeline failures only to
  record them.  A foreign exception leaves it from wherever it is
  raised, past the clean-up: the processors of earlier entries keep
  their exporters, and nobody has them any more.  The exception of
  limits that a batching processor cannot hold leaves the exporter
  of its own entry behind as well.

  Main results:
    * `LeftAt.leaves` — what a resolution that is left leaves running.
    * `LeftAt.released_iff` — when its events have released everything.
    * `build_error` — a setup that is not built fails with a report
      or with such an exception.
    * `escape_releases_iff` — the same for every exception, of a
      pipeline and of a setup.
    * `resolve_leaks` — a configuration that leaves exporters behind.
-/
import SpanPipeline.Proofs.Ownership
import SpanPipeline.Session

namespace SpanPipeline

/-! ## §1. What is left running. -/

/-- Every exporter that was created was shut down. -/
def Released (es : List Event) : Prop :=
  ∀ id spec, .create id spec ∈ es → .shutdown id ∈ es

/-- Exporters are released exactly when none is left running. -/
theorem Ledger.released_iff {n : Nat} {m : Ledger} {es : List Event}
    (h : enterAll ⟨n, []⟩ es = some m) : Released es ↔ m.running = [] := by
  constructor
  · intro hr
    by_cases hm : m.running = []
    · exact hm
    · obtain ⟨id, rest, hcons⟩ := List.exists_cons_of_ne_nil hm
      have hid : id ∈ m.running := by rw [hcons]; exact List.mem_cons_self
      obtain ⟨spec, hc⟩ := create_of_mem_running h hid
      exact absurd (hr id spec hc) ((mem_running_iff h hc).mp hid)
  · intro hm id spec hc
    by_cases hs : .shutdown id ∈ es
    · exact hs
    · have hid := (mem_running_iff h hc).mpr hs
      rw [hm] at hid
      cases hid

/-- The exporter of an entry that its failure leaves running. -/
def orphan (host : Host) (n : Nat) (c : ProcessorConfig) : List Nat :=
  if (c.excess? host).isSome then [n] else []

theorem EntryOutcome.leaves_error {host : Host} {n : Nat} {c : ProcessorConfig} {f : Failure}
    {es : List Event} (h : EntryOutcome host n c (.error f) es) :
    Ledger.Leaves n es (orphan host n c) := by
  have hl := h.leaves
  cases h with
  | faulty hf | refused hf | escaped hf =>
    simpa [orphan, ProcessorConfig.excess?_of_faults hf, hf] using hl
  | exceeded he hf hx => simpa [orphan, hf, hx] using hl

/-! ## §2. Where a resolution is left. -/

namespace Pipeline

/-- The resolution of entries is left at one of them: those before
    it were processed, and it fails with a foreign exception. -/
structure LeftAt (host : Host) (j : Journal) (before : List ProcessorConfig)
    (c : ProcessorConfig) (f : Failure) (j' : Journal) : Prop where
  foreign : f.isOwn = false
  run : ∃ ps errors j₁, (resolveEntries host 0 .empty before).run j = (.ok (ps, errors), j₁) ∧
    (Processor.resolve host c).run j₁ = (.error f, j')

/-- What is left running are the exporters of the processors before,
    and what the entry itself leaves behind. -/
theorem LeftAt.leaves {host : Host} {j j' : Journal} {before : List ProcessorConfig}
    {c : ProcessorConfig} {f : Failure} (h : LeftAt host j before c f j') :
    ∃ ps fs es ds rs, j' = j.extend (es ++ ds) rs ∧ Processed host j.created before ps fs es ∧
      Ledger.Leaves j.created (es ++ ds) ((ps.map fun p => p.exporter.id)
        ++ orphan host (j.created + es.countP Event.isCreate) c) := by
  obtain ⟨ps, errors, j₁, hbefore, hc⟩ := h.run
  obtain ⟨fs, es, rs, -, rfl, hproc, -⟩ := resolveEntries_ok hbefore
  obtain ⟨r, ds, ss, hrun, ho, -⟩ := Processor.run_resolve host c (j.extend es rs)
  rw [hc, Journal.created_extend] at *
  obtain ⟨rfl, rfl⟩ : .error f = r ∧ j' = (j.extend es rs).extend ds ss := by simpa using hrun
  refine ⟨ps, fs, es, ds, rs ++ ss, Journal.extend_extend j es ds rs ss, hproc, ?_⟩
  refine hproc.leaves.append ?_ ho.leaves_error
  intro id hid
  exact (hproc.leaves.bounds id hid).2

/-- Nothing is left running exactly when every entry before has a
    fault, and the exception is not about limits. -/
theorem LeftAt.released_iff {host : Host} {j j' : Journal} {before : List ProcessorConfig}
    {c : ProcessorConfig} {f : Failure} (h : LeftAt host j before c f j') :
    ∃ es, j'.events = j.events ++ es ∧
      (Released es ↔ (∀ b ∈ before, b.faults host ≠ []) ∧ c.excess? host = none) := by
  obtain ⟨ps, fs, es, ds, rs, rfl, hproc, hleaves⟩ := h.leaves
  refine ⟨es ++ ds, rfl, ?_⟩
  rw [Ledger.released_iff (hleaves [] (by simp)), List.nil_append, List.append_eq_nil_iff,
    List.map_eq_nil_iff, hproc.processors_eq_nil_iff]
  cases hx : c.excess? host with
  | none => simp [orphan, hx]
  | some x => simp [orphan, hx]

/-- The resolution of a configuration is left at an entry. -/
structure Escape (host : Host) (config : Option PipelineConfig) (j : Journal) (f : Failure)
    (j' : Journal) (before : List ProcessorConfig) (c : ProcessorConfig) : Prop where
  entry : ∃ after, entries config = before ++ c :: after
  leftAt : LeftAt host j before c f j'
  released_iff : ∃ es, j'.events = j.events ++ es ∧
    (Released es ↔ (∀ b ∈ before, b.faults host ≠ []) ∧ c.excess? host = none)

theorem escape_of_error {host : Host} {config : Option PipelineConfig} {j j' : Journal}
    {f : Failure} (h : (resolve host config).run j = (.error f, j')) :
    ∃ before c, Escape host config j f j' before c := by
  obtain ⟨before, c, after, ps, errors, j₁, hentries, hbefore, hc, hforeign⟩ := resolve_error h
  have hleft : LeftAt host j before c f j' := ⟨hforeign, ps, errors, j₁, hbefore, hc⟩
  exact ⟨before, c, ⟨after, hentries⟩, hleft, hleft.released_iff⟩

/-- A resolution that returns with a failure has released
    everything. -/
theorem released_of_failed {host : Host} {config : Option PipelineConfig} {j j' : Journal}
    {f : Failure} (h : (resolve host config).run j = (.ok (.failed f), j')) :
    f.isOwn = true ∧ ∃ es, j'.events = j.events ++ es ∧ Released es := by
  obtain ⟨es, rs, rfl, ho⟩ := resolve_ok h
  generalize entries config = cs at ho
  cases ho with
  | failed hf hproc hcalm =>
    refine ⟨rfl, _, rfl, ?_⟩
    intro id spec hc
    obtain ⟨before, spec', after, heq, -, -, hcount⟩ := hproc.released hc
    have hmem : .shutdown id ∈ after := List.count_pos_iff.mp (by omega)
    rw [heq]
    exact List.mem_append_right _ (List.mem_cons_of_mem _ hmem)

end Pipeline

/-! ## §3. Setups. -/

/-- A setup that is not built: its pipeline returned a failure, or
    the resolution was left. -/
theorem Setup.build_error {host : Host} {config : Option Config} {resource : Option Resource}
    {j j' : Journal} {f : Failure} (h : (Setup.build host config resource).run j = (.error f, j')) :
    ∃ c, config = some c ∧
      ((Pipeline.resolve host c.tracerProvider).run j = (.ok (.failed f), j') ∨
        (Pipeline.resolve host c.tracerProvider).run j = (.error f, j')) := by
  unfold Setup.build at h
  cases hc : config.filter fun c => !c.disabled with
  | none =>
    rw [hc] at h
    cases h
  | some c =>
    rw [hc] at h
    obtain ⟨rfl, -⟩ := Option.filter_eq_some_iff.mp hc
    refine ⟨c, rfl, ?_⟩
    rcases hrun : (Pipeline.resolve host c.tracerProvider).run j with ⟨r, j₁⟩
    rw [Act.run_bind, hrun] at h
    cases r with
    | error g =>
      cases h
      exact .inr rfl
    | ok r =>
      cases r with
      | inactive => cases h
      | live ps => cases h
      | failed g =>
        cases h
        exact .inl rfl

namespace Pipeline

/-- **What an exception leaves running.**  When resolving a pipeline
    ends with an exception, it is a foreign one, raised for some
    entry.  What was created has been shut down exactly when every
    entry before has a fault and the entry's batching processor can
    hold its limits.  A setup that is not built has the same
    exceptions, or else a report after which nothing is running. -/
theorem escape_releases_iff (host : Host) (j j' : Journal) (f : Failure) :
    (∀ config, (resolve host config).run j = (.error f, j') →
      ∃ before c, Escape host config j f j' before c) ∧
    ∀ config resource, (Setup.build host config resource).run j = (.error f, j') →
      ∃ c, config = some c ∧
        ((f.isOwn = true ∧ ∃ es, j'.events = j.events ++ es ∧ Released es) ∨
          ∃ before d, Escape host c.tracerProvider j f j' before d) := by
  refine ⟨?_, ?_⟩
  · intro config h
    exact escape_of_error h
  · intro config resource h
    obtain ⟨c, rfl, hfailed | herror⟩ := Setup.build_error h
    · exact ⟨c, rfl, .inl (released_of_failed hfailed)⟩
    · exact ⟨c, rfl, .inr (escape_of_error herror)⟩

/-- The second processor is to hold a queue that is too long. -/
def overfull : PipelineConfig :=
  ⟨[ ⟨some Sample.console, none⟩,
     ⟨none, some { Sample.batch none with maxQueueSize := some 1000000000000000000000000000000 }⟩ ]⟩

theorem escape_releases_overfull :
    ∃ f j' before c, (resolve Sample.host (some overfull)).run {} = (.error f, j') ∧
      Escape Sample.host (some overfull) {} f j' before c := by
  obtain ⟨f, j', hrun⟩ :
      ∃ f j', (resolve Sample.host (some overfull)).run {} = (.error f, j') := ⟨_, _, rfl⟩
  obtain ⟨before, c, hescape⟩ := (escape_releases_iff Sample.host {} j' f).1 (some overfull) hrun
  exact ⟨f, j', before, c, hrun, hescape⟩

/-- There the resolution ends with an exception and leaves exporters
    running. -/
theorem resolve_leaks :
    ∃ f j', (resolve Sample.host (some overfull)).run {} = (.error f, j') ∧
      ¬ Released j'.events := by
  refine ⟨.foreign (.overflow .queue), _, rfl, ?_⟩
  intro hr
  have hdown := hr 0 .console (by decide)
  revert hdown
  decide

end Pipeline

end SpanPipeline
