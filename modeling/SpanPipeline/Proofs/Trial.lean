/-
  SpanPipeline.Proofs.Trial
  ─────────────────────────
  A trial leaves nothing running.

  A trial builds a setup, may send one span through it, and shuts
  it down.  Its pipeline may be at fault, and then it was cleaned up
  already; it may be disabled or empty; and any shutdown may end
  with a failure.  In each case every exporter that was created is
  shut down once.  The trial ends well, and says so, when there was
  nothing to complain about on the way.

  Main results:
    * `run_emit`, `run_of_fresh` — a trial with its setup built, in
      one equation.
    * `Tried` — what is said about a trial.
    * `run_tried` — it holds whenever the resolution returns.
-/
import SpanPipeline.Proofs.Channel
import SpanPipeline.Proofs.Frame
import SpanPipeline.Proofs.History
import SpanPipeline.Trial

namespace SpanPipeline

/-! ## §1. From nothing to nothing. -/

namespace Ledger

/-- From nothing running, what is shut down was created. -/
theorem create_of_mem_shutdown {n : Nat} {m : Ledger} {es : List Event} {id : Nat}
    (h : enterAll ⟨n, []⟩ es = some m) (hs : .shutdown id ∈ es) : id ∈ createdIds es := by
  have hb := balance h id
  have hpos : 0 < es.count (.shutdown id) := List.count_pos_iff.mpr hs
  rw [List.count_nil] at hb
  exact mem_createdIds.mpr (Event.countP_creates_pos.mp (by omega))

/-- When nothing is running afterwards, each exporter was shut down
    once. -/
theorem shutOnce_of_mem {n next : Nat} {es : List Event} {id : Nat}
    (h : enterAll ⟨n, []⟩ es = some ⟨next, []⟩) (hid : id ∈ createdIds es) : ShutOnce id es := by
  obtain ⟨spec, hc⟩ := mem_createdIds.mp hid
  exact shutOnce_of_enterAll h hc (by simp)

end Ledger

namespace Trial

/-! ## §2. The span of a trial. -/

/-- The span that a trial sends, if it sends one. -/
def sent (name : Option String) : List Span :=
  (name.filter (· ≠ "")).toList.map fun n => ⟨n, Setup.defaultTracer⟩

/-- What is logged about the span. -/
def sentRecords (name : Option String) : List LogRecord :=
  (name.filter (· ≠ "")).toList.map emittedRecord

theorem sent_of_none_or_empty {name : Option String} (h : name = none ∨ name = some "") :
    sent name = [] := by
  rcases h with rfl | rfl <;> rfl

theorem sent_of_ne_empty {n : String} (h : n ≠ "") :
    sent (some n) = [⟨n, Setup.defaultTracer⟩] := by
  simp [sent, Option.filter, h]

/-- The spans as simple processors hand them over. -/
def passedOn (cs : List Channel) (spans : List Span) : List Event :=
  spans.flatMap fun span => Channel.handOvers (fun kind => kind == .simple) span cs

theorem run_emit (host : Host) (s : Setup) (name : Option String) (j : Journal) :
    (emit host (s.after [] false) name).run j
      = (.ok (s.after (sent name) false),
          j.extend (passedOn s.channels (sent name)) (sentRecords name)) := by
  unfold emit sent sentRecords
  cases name.filter (· ≠ "") with
  | none => simp [passedOn]
  | some n =>
    simp [passedOn, Act.run_bind, Setup.take_after, Channel.passes_running, Journal.addRecords_eq,
      Journal.addEvents_eq]

/-! ## §3. A trial with its setup. -/

/-- What happens to exporters after the setup of a trial was built. -/
def course (cs : List Channel) (spans : List Span) : List Event :=
  passedOn cs spans ++ cs.flatMap (Channel.farewell spans)

/-- What a trial logs about its end. -/
def endRecords (cs : List Closing) : List LogRecord :=
  Closing.warnings cs ++ if Closing.anyFails cs then [] else [validRecord]

/-- **A trial goes on** when its setup was built. -/
theorem run_of_fresh {host : Host} {config : Config} {s : Setup} {j j₁ : Journal}
    (hbuild : (Setup.build host (some config) none).run j = (.ok s, j₁)) (hs : s.Fresh)
    (name : Option String) :
    (run host config name).run j
      = (Closing.verdict (s.closings host (sent name)),
          j₁.extend (course s.channels (sent name))
            (sentRecords name ++ endRecords (s.closings host (sent name)))) := by
  have hemit := run_emit host s name j₁
  rw [hs] at hemit
  rw [run, Act.run_bind, hbuild]
  simp only [Act.run_bind, hemit, Setup.run_shutdown_after, Journal.extend_extend]
  cases hany : Closing.anyFails (s.closings host (sent name)) with
  | true => simp [Closing.verdict, hany, course, endRecords]
  | false => simp [Closing.verdict, hany, course, endRecords, Journal.addRecords_eq]

/-! ## §4. The exporters of a trial. -/

section Course

variable {cs : List Channel} {spans : List Span}

/-- The course of a trial creates nothing. -/
theorem isCreate_of_mem_course {e : Event} (h : e ∈ course cs spans) : e.isCreate = false := by
  rcases List.mem_append.mp h with h | h
  · obtain ⟨span, -, he⟩ := List.mem_flatMap.mp h
    obtain ⟨c, -, rfl⟩ := List.mem_map.mp he
    rfl
  · obtain ⟨c, -, he⟩ := List.mem_flatMap.mp h
    rcases Channel.eq_of_mem_farewell he with rfl | ⟨-, rfl⟩
    · rfl
    · rfl

/-- Without a hand-over nothing is received. -/
theorem received_of_not_handOver {id : Nat} {es : List Event}
    (h : ∀ e ∈ es, e.isHandOver = false) : received id es = [] := by
  rw [received, List.flatMap_eq_nil_iff]
  intro e he
  have hnot := h e he
  cases e with
  | handOver k s => cases hnot
  | create k spec | simple k | batch k a | shutdown k => rfl

theorem createdIds_append_course (es : List Event) :
    createdIds (es ++ course cs spans) = createdIds es := by
  have hnone : creations (course cs spans) = [] := by
    rw [creations, List.filter_eq_nil_iff]
    intro e he
    simp [isCreate_of_mem_course he]
  rw [createdIds_append, createdIds, createdIds, hnone]
  exact List.append_nil _

/-- Without a span, nothing is handed over. -/
theorem isHandOver_of_mem_course {e : Event} (h : e ∈ course cs []) : e.isHandOver = false := by
  rw [course, passedOn, List.flatMap_nil, List.nil_append] at h
  obtain ⟨c, -, he⟩ := List.mem_flatMap.mp h
  rcases Channel.eq_of_mem_farewell he with rfl | ⟨hne, -⟩
  · rfl
  · exact absurd rfl hne

/-- The course of a trial shuts down what was running. -/
theorem enterAll_course {n : Nat} {running : List Nat} (hn : (cs.map Channel.id).Nodup)
    (h : running = cs.map Channel.id) :
    Ledger.enterAll ⟨n, running⟩ (course cs spans) = some ⟨n, []⟩ := by
  subst h
  have hmem : ∀ c ∈ cs, c.id ∈ cs.map Channel.id := fun c hc => List.mem_map_of_mem hc
  have hsent : Ledger.enterAll ⟨n, cs.map Channel.id⟩
      (passedOn cs spans) = some ⟨n, cs.map Channel.id⟩ := by
    induction spans with
    | nil => rfl
    | cons span spans ih =>
      rw [passedOn, List.flatMap_cons, Ledger.enterAll_append,
        Ledger.enterAll_handOvers _ span hmem]
      exact ih
  rw [course, Ledger.enterAll_append, hsent, Option.bind_some,
    Ledger.enterAll_all_farewells n spans hn]

/-- The one span of a trial reaches each exporter before its
    shutdown. -/
theorem received_course {c : Channel} (hc : c ∈ cs) (hn : (cs.map Channel.id).Nodup)
    (span : Span) :
    ∃ pre post, course cs [span] = pre ++ .shutdown c.id :: post ∧
      received c.id pre = [span] ∧ received c.id post = [] := by
  obtain ⟨pre, post, hfarewell, hpre, hpost⟩ := Channel.received_farewells hc hn [span]
  refine ⟨Channel.handOvers (fun kind => kind == .simple) span cs ++ pre, post, ?_, ?_, hpost⟩
  · rw [course, passedOn, hfarewell, List.flatMap_singleton, List.append_assoc]
  · rw [received_append, Channel.received_handOvers_running hc hn, hpre,
      Channel.prompt_append_waiting]

end Course

/-- The shutdowns of a trial go well when no exporter refuses. -/
theorem anyFails_closings {host : Host} {s : Setup} (spans : List Span) :
    Closing.anyFails (s.closings host spans) = false ↔
      ∀ c ∈ s.channels, host.refusal c.id = none := by
  rw [Setup.closings, Setup.channels, Closing.anyFails, List.any_eq_false]
  simp only [List.forall_mem_map]
  refine forall₂_congr fun p _ => ?_
  show ¬ (host.refusal p.exporter.id).isSome = true ↔ host.refusal p.exporter.id = none
  rw [Option.not_isSome_iff_eq_none]

/-! ## §5. What is said about a trial. -/

/-- **A trial that leaves nothing running**: what it ends with, what
    happens to exporters, and what is logged. -/
structure Tried (host : Host) (config : Config) (name : Option String)
    (result : Except Failure Unit) (es : List Event) (rs : List LogRecord) : Prop where
  /-- Each exporter was shut down once, after its creation. -/
  released : ∀ id ∈ createdIds es, ShutOnce id es
  /-- When every entry has its processor, each exporter received the
      span before it was shut down, and nothing else. -/
  received : ∀ n, name = some n → n ≠ "" →
    (∀ c ∈ Setup.entries (some config), c.faults host = []) → ∀ id ∈ createdIds es,
      ∃ pre post, es = pre ++ .shutdown id :: post ∧
        SpanPipeline.received id pre = [⟨n, Setup.defaultTracer⟩] ∧
        SpanPipeline.received id post = []
  /-- Without a name, nothing is handed over. -/
  silent : name = none ∨ name = some "" → ∀ e ∈ es, e.isHandOver = false
  /-- The trial says that it ended well exactly when it did. -/
  valid : validRecord ∈ rs ↔ result = .ok ()
  /-- It ends well exactly when tracing is disabled, or no entry is at
      fault and no shutdown ends with a failure. -/
  verdict : result = .ok () ↔ config.disabled = true ∨
    ((∀ c ∈ Pipeline.entries config.tracerProvider, c.faults host = []) ∧
      ∀ id, .shutdown id ∈ es → host.refusal id = none)

/-- The record of the end is logged at the end of a trial alone. -/
theorem validRecord_mem_iff {rs : List LogRecord} (h : ∀ l ∈ rs, l.source ≠ .main)
    (name : Option String) (cs : List Closing) :
    validRecord ∈ rs ++ (sentRecords name ++ endRecords cs) ↔ Closing.anyFails cs = false := by
  have hbefore : validRecord ∉ rs := fun hmem => h _ hmem rfl
  have hsent : validRecord ∉ sentRecords name := by
    intro hmem
    obtain ⟨n, -, hn⟩ := List.mem_map.mp hmem
    -- both come from the main program, so the message has to tell them apart
    have hmessage : "Emitted test span" = "Trace pipeline configuration is valid" :=
      congrArg LogRecord.message hn
    exact absurd hmessage (by decide)
  have hwarnings : validRecord ∉ Closing.warnings cs := by
    intro hmem
    obtain ⟨c, -, hc⟩ := List.mem_filterMap.mp hmem
    obtain ⟨f, -, hf⟩ := Option.map_eq_some_iff.mp hc
    have hsource : Source.pipeline = Source.main := congrArg LogRecord.source hf
    cases hsource
  cases hany : Closing.anyFails cs with
  | true => simp [endRecords, hany, hbefore, hsent, hwarnings]
  | false => simp [endRecords, hany]

/-- A trial whose setup was built. -/
theorem tried_of_serves {host : Host} {config : Config} {s : Setup} {j : Journal}
    {es : List Event} {rs : List LogRecord}
    (hbuild : (Setup.build host (some config) none).run j = (.ok s, j.extend es rs))
    (hserves : s.Serves j.created (Setup.entries (some config)) es)
    (hfaults : ∀ c ∈ Setup.entries (some config), c.faults host = [])
    (hes : ∀ e ∈ es, e.isHandOver = false) (hrs : ∀ l ∈ rs, l.source ≠ .main)
    (name : Option String) :
    ∃ result ds ss, (run host config name).run j = (result, j.extend ds ss) ∧
      Tried host config name result ds ss := by
  have hrun := run_of_fresh hbuild hserves.fresh name
  rw [Journal.extend_extend] at hrun
  refine ⟨_, _, _, hrun, ?_⟩
  -- what building has left running, the shutdown of the trial stops
  have hledger : Ledger.enterAll ⟨j.created, []⟩ (es ++ course s.channels (sent name))
      = some ⟨j.created + es.countP Event.isCreate, []⟩ := by
    rw [Ledger.enterAll_append, hserves.leaves [] (by simp), Option.bind_some]
    exact enterAll_course hserves.wired.nodup (List.nil_append _)
  -- the exporters of the trial are those of the channels
  have hids : createdIds (es ++ course s.channels (sent name)) = s.channels.map Channel.id := by
    rw [createdIds_append_course, hserves.wired.ids]
  have hok : Closing.verdict (s.closings host (sent name)) = .ok () ↔
      Closing.anyFails (s.closings host (sent name)) = false := by
    cases hany : Closing.anyFails (s.closings host (sent name)) with
    | true => simp [Closing.verdict, hany]
    | false => simp [Closing.verdict, hany]
  refine ⟨fun id hid => Ledger.shutOnce_of_mem hledger hid, ?_, ?_, ?_, ?_⟩
  · intro n hname hn _ id hid
    rw [hids] at hid
    obtain ⟨c, hc, rfl⟩ := List.mem_map.mp hid
    obtain ⟨pre, post, hcourse, hpre, hpost⟩ :=
      received_course hc hserves.wired.nodup ⟨n, Setup.defaultTracer⟩
    refine ⟨es ++ pre, post, ?_, ?_, hpost⟩
    · rw [hname, sent_of_ne_empty hn, hcourse, List.append_assoc]
    · rw [received_append, received_of_not_handOver hes, hpre]
      rfl
  · intro hname e he
    rw [sent_of_none_or_empty hname] at he
    rcases List.mem_append.mp he with he | he
    · exact hes e he
    · exact isHandOver_of_mem_course he
  · rw [hok]
    exact validRecord_mem_iff hrs name _
  · rw [hok, anyFails_closings]
    cases hdisabled : config.disabled with
    | true =>
      -- a setup without tracing has no exporter that could refuse
      have hnone : s.channels = [] := by
        have hkinds := hserves.wired.kinds
        rw [Setup.entries_of_disabled hdisabled] at hkinds
        exact List.map_eq_nil_iff.mp hkinds
      simp [hnone]
    | false =>
      rw [Setup.entries_of_enabled hdisabled] at hfaults
      simp only [Bool.false_eq_true, false_or]
      constructor
      · intro hall
        refine ⟨hfaults, fun id hid => ?_⟩
        have hmem := Ledger.create_of_mem_shutdown hledger hid
        rw [hids] at hmem
        obtain ⟨c, hc, rfl⟩ := List.mem_map.mp hmem
        exact hall c hc
      · rintro ⟨-, hall⟩ c hc
        obtain ⟨pre, post, hfarewell, -⟩ :=
          Channel.received_farewells hc hserves.wired.nodup (sent name)
        refine hall c.id ?_
        rw [course, hfarewell]
        simp

/-- A trial whose pipeline is at fault. -/
theorem tried_of_failed {host : Host} {config : Config} {n : Nat} {r : Resolution} {f : Failure}
    {es : List Event} {rs : List LogRecord} (henabled : config.disabled = false)
    (ho : Pipeline.Outcome host n (Pipeline.entries config.tracerProvider) r es rs)
    (hr : r.failure? = some f) (hes : ∀ e ∈ es, e.isHandOver = false)
    (hrs : ∀ l ∈ rs, l.source ≠ .main) (name : Option String) :
    Tried host config name (.error f) es rs := by
  have hleaves := ho.leaves_of_failed hr
  have hfaults : ¬ ∀ c ∈ Pipeline.entries config.tracerProvider, c.faults host = [] := by
    rw [← ho.failure?_eq_none_iff, hr]
    simp
  refine ⟨fun id hid => Ledger.shutOnce_of_mem (hleaves [] (by simp)) hid, ?_, fun _ => hes, ?_, ?_⟩
  · intro m _ _ hall
    rw [Setup.entries_of_enabled henabled] at hall
    exact absurd hall hfaults
  · exact iff_of_false (fun hmem => hrs _ hmem rfl) (by simp)
  · refine iff_of_false (by simp) ?_
    rw [henabled]
    simp [hfaults]

/-- **A trial leaves nothing running** and says how it ended, if the
    resolution of its pipeline returns. -/
theorem run_tried (host : Host) (config : Config) (name : Option String) (j : Journal)
    (h : config.disabled = false →
      ∃ r j', (Pipeline.resolve host config.tracerProvider).run j = (.ok r, j')) :
    ∃ result es rs, (run host config name).run j = (result, j.extend es rs) ∧
      Tried host config name result es rs := by
  cases hdisabled : config.disabled with
  | true =>
    have hbuild : (Setup.build host (some config) none).run j
        = (.ok .inactive, j.extend [] [Setup.disabledRecord]) := by
      rw [Setup.build_disabled hdisabled, Journal.addRecords_eq]
    have hnone := Setup.entries_of_disabled hdisabled
    refine tried_of_serves hbuild ?_ ?_ (by simp) (by simp [Setup.disabledRecord]) name
    · rw [hnone]
      exact Setup.serves_inactive _
    · simp [hnone]
  | false =>
    obtain ⟨r, j', hresolve⟩ := h hdisabled
    obtain ⟨es, rs, rfl, ho⟩ := Pipeline.resolve_ok hresolve
    obtain ⟨ds, ss, hsame, hds, hss⟩ := Pipeline.prepares_resolve host config.tracerProvider j
    rw [hresolve] at hsame
    obtain ⟨rfl, rfl⟩ := Journal.extend_inj hsame
    have hbuild := Setup.run_build_enabled host hdisabled none j
    rw [hresolve] at hbuild
    -- a pipeline at fault was cleaned up while it was resolved
    cases hr : r.failure? with
    | some f =>
      simp only [hr] at hbuild
      exact ⟨_, es, rs, run_failed hbuild, tried_of_failed hdisabled ho hr hds hss name⟩
    | none =>
      simp only [hr] at hbuild
      have hentries := Setup.entries_of_enabled hdisabled
      refine tried_of_serves hbuild ?_ ?_ hds hss name
      · rw [hentries]
        exact ho.serves hr _
      · rw [hentries]
        exact ho.failure?_eq_none_iff.mp hr

/-- A configuration with one processor of each kind. -/
def sample : Config := { Config.default with tracerProvider := some Sample.bothKinds }

/-- There a trial ends well. -/
theorem run_tried_bothKinds :
    ∃ es rs, (run Sample.host sample (some "test")).run {} = (.ok (), ({} : Journal).extend es rs) ∧
      createdIds es = [0, 1] ∧ Tried Sample.host sample (some "test") (.ok ()) es rs := by
  obtain ⟨r, j', hresolve⟩ : ∃ r j',
      (Pipeline.resolve Sample.host sample.tracerProvider).run {} = (.ok r, j') := ⟨_, _, rfl⟩
  obtain ⟨result, es, rs, hrun, htried⟩ :=
    run_tried Sample.host sample (some "test") {} fun _ => ⟨r, j', hresolve⟩
  obtain ⟨j₁, hwell, hids⟩ : ∃ j₁, (run Sample.host sample (some "test")).run {} = (.ok (), j₁) ∧
      createdIds j₁.events = [0, 1] := ⟨_, rfl, rfl⟩
  rw [hrun] at hwell
  obtain ⟨rfl, rfl⟩ := Prod.mk.inj hwell
  exact ⟨es, rs, hrun, by simpa using hids, htried⟩

end Trial

end SpanPipeline
