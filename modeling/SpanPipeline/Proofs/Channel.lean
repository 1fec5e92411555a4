/-
  SpanPipeline.Proofs.Channel
  ───────────────────────────
  Exporters behind processors, while spans end and after.

  What a setup does depends on little: which kind of processor
  stands in front of which exporter, which spans have ended through
  it, and whether it was shut down.  A simple processor hands each
  span over as it ends.  A batching one keeps them and hands them
  over, all at once, right before its exporter is shut down.  After
  that a span is handed over by the processors that do not ignore it.

  Main results:
    * `Setup.take_after`, `Setup.run_shutdown_after` — a span that
      ends, and the shutdown.
    * `Session.run_finish`, `Session.run_shutdown` — the same in a
      session.
    * `Processed.wired` — the channels of a live pipeline stand in the
      order of its entries, and no two share an exporter.
    * `Channel.received_handOvers`, `Channel.received_farewells` — which
      spans reach an exporter.
    * `Ledger.enterAll_handOvers`, `Ledger.enterAll_farewells` — which
      exporters run on.
-/
import SpanPipeline.Proofs.Ownership
import SpanPipeline.Proofs.Shutdown
import Mathlib.Data.List.Nodup

namespace SpanPipeline

/-! ## §1. Channels. -/

/-- An exporter and the kind of the processor in front of it. -/
structure Channel where
  kind : ProcessorKind
  id : Nat
  deriving DecidableEq, Repr

/-- The channel that a processor makes. -/
def Processor.channel (p : Processor) : Channel := ⟨p.kind, p.exporter.id⟩

namespace Channel

/-- The spans that wait in front of an exporter when the given ones
    have ended. -/
def waiting (kind : ProcessorKind) (spans : List Span) : List Span :=
  match kind with
  | .simple => []
  | .batch => spans

/-- The spans that an exporter has received when the given ones have
    ended, and no shutdown has come. -/
def prompt (kind : ProcessorKind) (spans : List Span) : List Span :=
  match kind with
  | .simple => spans
  | .batch => []

theorem prompt_append (kind : ProcessorKind) (spans more : List Span) :
    prompt kind (spans ++ more) = prompt kind spans ++ prompt kind more := by
  cases kind <;> rfl

theorem prompt_append_waiting (kind : ProcessorKind) (spans : List Span) :
    prompt kind spans ++ waiting kind spans = spans := by
  cases kind
  · exact List.append_nil spans
  · rfl

/-- The kinds of processors that hand a span over as it ends: the
    simple one, and after the shutdown those that do not ignore it. -/
def passes (host : Host) (shut : Bool) (kind : ProcessorKind) : Bool :=
  if shut then !host.libraries.ignoresLate kind else kind == .simple

theorem passes_running (host : Host) : passes host false = fun kind => kind == .simple := rfl

/-- The end of a span: the processors of some kinds hand it over, one
    after the other. -/
def handOvers (kinds : ProcessorKind → Bool) (span : Span) (cs : List Channel) : List Event :=
  (cs.filter fun c => kinds c.kind).map fun c => .handOver c.id [span]

/-- A span that all processors ignore reaches no exporter. -/
theorem handOvers_of_ignored {host : Host} (h : host.libraries.IgnoreLate) (span : Span)
    (cs : List Channel) : handOvers (passes host true) span cs = [] := by
  have hnone : ∀ kind, passes host true kind = false := by
    intro kind
    simp [passes, h kind]
  simp [handOvers, hnone]

/-- The shutdown of an exporter after the given spans have ended: a
    batching processor hands over what it has kept. -/
def farewell (spans : List Span) (c : Channel) : List Event :=
  match c.kind, spans with
  | .batch, _ :: _ => [.handOver c.id spans, .shutdown c.id]
  | _, _ => [.shutdown c.id]

end Channel

/-! ## §2. Providers. -/

namespace Provider

/-- A provider at work, through which the given spans have ended. -/
def holding (ps : List Processor) (spans : List Span) : Provider :=
  { runners := ps.map fun p => { processor := p, pending := Channel.waiting p.kind spans } }

/-- A provider that was shut down. -/
def finished (ps : List Processor) : Provider :=
  { runners := ps.map fun p => { processor := p, closed := true }, stopped := true }

theorem ofProcessors_eq (ps : List Processor) : ofProcessors ps = holding ps [] := by
  have hnone : ∀ p : Processor, Channel.waiting p.kind [] = [] := by
    intro p
    cases p.kind <;> rfl
  simp [ofProcessors, holding, hnone]

theorem take_holding (host : Host) (ps : List Processor) (spans : List Span) (s : Span) :
    (holding ps spans).take host s
      = (holding ps (spans ++ [s]),
          Channel.handOvers (Channel.passes host false) s (ps.map Processor.channel)) := by
  induction ps with
  | nil => rfl
  | cons p ps ih =>
    obtain ⟨hrunners, hevents⟩ := Prod.ext_iff.mp ih
    simp only [take, holding, Provider.mk.injEq, and_true] at hrunners hevents
    simp only [take, holding, List.map_cons, List.flatMap_cons, hrunners, hevents]
    obtain ⟨kind, exporter⟩ := p
    cases kind <;> rfl

theorem take_finished (host : Host) (ps : List Processor) (s : Span) :
    (finished ps).take host s
      = (finished ps,
          Channel.handOvers (Channel.passes host true) s (ps.map Processor.channel)) := by
  induction ps with
  | nil => rfl
  | cons p ps ih =>
    obtain ⟨hrunners, hevents⟩ := Prod.ext_iff.mp ih
    simp only [take, finished, Provider.mk.injEq, and_true] at hrunners hevents
    simp only [take, finished, List.map_cons, List.flatMap_cons, hrunners, hevents]
    obtain ⟨kind, exporter⟩ := p
    cases h : host.libraries.ignoresLate kind with
    | true => simp [Runner.take, Runner.takeLate, Channel.handOvers, Channel.passes,
        Processor.channel, h]
    | false => simp [Runner.take, Runner.takeLate, Channel.handOvers, Channel.passes,
        Processor.channel, h]

theorem shutdown_holding (host : Host) (ps : List Processor) (spans : List Span) :
    (holding ps spans).shutdown host
      = (finished ps, Closing.closeAndCheck
          (ps.map fun p => p.closing host (Channel.waiting p.kind spans))) := by
  simp only [shutdown, holding, finished, List.map_map]
  rfl

end Provider

/-- The shutdown of processors is that of their channels. -/
theorem Channel.events_closing (host : Host) (ps : List Processor) (spans : List Span) :
    (ps.map fun p => p.closing host (Channel.waiting p.kind spans)).flatMap Closing.events
      = (ps.map Processor.channel).flatMap (Channel.farewell spans) := by
  induction ps with
  | nil => rfl
  | cons p ps ih =>
    rw [List.map_cons, List.flatMap_cons, ih, List.map_cons, List.flatMap_cons]
    obtain ⟨kind, exporter⟩ := p
    cases kind with
    | simple => rfl
    | batch => cases spans <;> rfl

/-! ## §3. Setups. -/

namespace Setup

/-- The processors of a setup. -/
def processors (s : Setup) : List Processor :=
  match s.live with
  | none => []
  | some (p, _) => p.runners.map Runner.processor

/-- The channels of a setup. -/
def channels (s : Setup) : List Channel := s.processors.map Processor.channel

/-- A setup through which the given spans have ended, and which was
    shut down or not. -/
def after (s : Setup) (spans : List Span) (shut : Bool) : Setup where
  live := s.live.map fun l =>
    (if shut then .finished s.processors else .holding s.processors spans, l.2)

/-- A setup to which nothing has happened. -/
def Fresh (s : Setup) : Prop := s.after [] false = s

/-- How the shutdown of a setup begins. -/
def closings (host : Host) (s : Setup) (spans : List Span) : List Closing :=
  s.processors.map fun p => p.closing host (Channel.waiting p.kind spans)

theorem fresh_inactive : inactive.Fresh := rfl

theorem processors_ofProcessors (ps : List Processor) (r : Resource) :
    processors ⟨some (.ofProcessors ps, r)⟩ = ps := by
  simp [processors, Provider.ofProcessors, Function.comp_def]

theorem fresh_ofProcessors (ps : List Processor) (r : Resource) :
    Fresh ⟨some (.ofProcessors ps, r)⟩ := by
  rw [Fresh, after, processors_ofProcessors, Provider.ofProcessors_eq]
  rfl

theorem after_shut (s : Setup) (spans spans' : List Span) :
    s.after spans true = s.after spans' true := rfl

/-- A span that ends. -/
theorem take_after (host : Host) (s : Setup) (spans : List Span) (shut : Bool) (span : Span) :
    (s.after spans shut).take host span
      = (s.after (spans ++ [span]) shut,
          Channel.handOvers (Channel.passes host shut) span s.channels) := by
  obtain ⟨live⟩ := s
  cases live with
  | none => cases shut <;> rfl
  | some l =>
    cases shut with
    | true =>
      simp only [take, after, Option.map_some, if_true, Provider.take_finished]
      rfl
    | false =>
      simp only [take, after, Option.map_some, Bool.false_eq_true, if_false,
        Provider.take_holding]
      rfl

theorem shutdown_after (host : Host) (s : Setup) (spans : List Span) :
    ((s.after spans false).shutdown host).1 = s.after spans true := by
  obtain ⟨live⟩ := s
  cases live with
  | none => rfl
  | some l =>
    simp only [shutdown, after, Option.map_some, Bool.false_eq_true, if_false,
      Provider.shutdown_holding, if_true]

/-- The first shutdown: each exporter is shut down in order, and the
    failures are raised afterwards. -/
theorem run_shutdown_after (host : Host) (s : Setup) (spans : List Span) (j : Journal) :
    ((s.after spans false).shutdown host).2.run j
      = (Closing.verdict (s.closings host spans),
          j.extend (s.channels.flatMap (Channel.farewell spans))
            (Closing.warnings (s.closings host spans))) := by
  obtain ⟨live⟩ := s
  cases live with
  | none =>
    show (Except.ok (), j) = (Except.ok (), j.extend [] [])
    rw [Journal.extend_nil]
  | some l =>
    simp only [shutdown, after, Option.map_some, Bool.false_eq_true, if_false,
      Provider.shutdown_holding, Closing.run_closeAndCheck, Closing.after, Channel.events_closing]
    rfl

/-- A later shutdown does nothing. -/
theorem shutdown_after_shut (host : Host) (s : Setup) (spans : List Span) :
    (s.after spans true).shutdown host = (s.after spans true, pure ()) := by
  obtain ⟨live⟩ := s
  cases live with
  | none => rfl
  | some l => exact Setup.shutdown_of_stopped rfl l.2

end Setup

/-! ## §4. Sessions. -/

namespace Session

variable (host : Host) {s : Session} {setup : Setup} {spans : List Span} {shut : Bool} {k : Nat}

theorem run_finish_nil (hs : s.spans = []) (j : Journal) :
    (s.step host .finish).run j = (.ok (s, none), j) := by
  simp [step, finish, hs, Act.run_bind, Journal.addEvents_eq]

/-- A span that ends goes to the setup through which it was opened. -/
theorem run_finish {o : OpenSpan} {rest : List OpenSpan} (hs : s.spans = o :: rest)
    (ho : o.setup = some k) (hk : s.setups[k]? = some (setup.after spans shut)) (j : Journal) :
    (s.step host .finish).run j
      = (.ok ({ s with
            setups := s.setups.set k (setup.after (spans ++ [o.span]) shut), spans := rest }, none),
          j.extend (Channel.handOvers (Channel.passes host shut) o.span setup.channels) []) := by
  simp [step, finish, replace, hs, ho, hk, Setup.take_after, Act.run_bind, Journal.addEvents_eq]

/-- A span that was opened through no setup is lost. -/
theorem run_finish_lost {o : OpenSpan} {rest : List OpenSpan} (hs : s.spans = o :: rest)
    (ho : ∀ k, o.setup = some k → s.setups[k]? = none) (j : Journal) :
    (s.step host .finish).run j = (.ok ({ s with spans := rest }, none), j) := by
  cases hk : o.setup with
  | none => simp [step, finish, hs, hk, Act.run_bind, Journal.addEvents_eq]
  | some k => simp [step, finish, hs, hk, ho k hk, Act.run_bind, Journal.addEvents_eq]

/-- A setup is shut down, unless it was before. -/
theorem run_shutdown (hk : s.setups[k]? = some (setup.after spans shut)) (j : Journal) :
    ∃ failure rs, (s.step host (.shutdown k)).run j
      = (.ok ({ s with setups := s.setups.set k (setup.after spans true) }, failure),
          j.extend (if shut then [] else setup.channels.flatMap (Channel.farewell spans)) rs) := by
  cases shut with
  | true =>
    refine ⟨none, [], ?_⟩
    simp [step, shutdown, replace, hk, Setup.shutdown_after_shut, Act.run_bind, failure?]
  | false =>
    refine ⟨failure? (Closing.verdict (setup.closings host spans)),
      Closing.warnings (setup.closings host spans), ?_⟩
    simp [step, shutdown, replace, hk, Setup.shutdown_after, Setup.run_shutdown_after,
      Act.run_bind]

theorem run_shutdown_none (hk : s.setups[k]? = none) (j : Journal) :
    (s.step host (.shutdown k)).run j = (.ok (s, none), j) := by
  simp [step, shutdown, hk, Act.run_bind, failure?]

end Session

/-! ## §5. The channels of a pipeline. -/

/-- The number of the exporter that an event is about. -/
def Event.exporter : Event → Nat
  | .create id _ => id
  | .simple id => id
  | .batch id _ => id
  | .handOver id _ => id
  | .shutdown id => id

/-- The exporters that the events create, oldest first. -/
def createdIds (es : List Event) : List Nat := (creations es).map Event.exporter

theorem createdIds_append (es fs : List Event) :
    createdIds (es ++ fs) = createdIds es ++ createdIds fs := by
  simp [createdIds, creations]

theorem mem_createdIds {id : Nat} {es : List Event} :
    id ∈ createdIds es ↔ ∃ spec, .create id spec ∈ es := by
  constructor
  · intro h
    obtain ⟨e, he, hid⟩ := List.mem_map.mp h
    obtain ⟨hmem, hcreate⟩ := List.mem_filter.mp he
    cases e with
    | create k spec =>
      obtain rfl : k = id := hid
      exact ⟨spec, hmem⟩
    | simple k | batch k a | handOver k s | shutdown k => cases hcreate
  · rintro ⟨spec, h⟩
    exact List.mem_map.mpr ⟨_, List.mem_filter.mpr ⟨h, rfl⟩, rfl⟩

/-- The channels of a live pipeline, one for each entry, in order: of
    its kind, and to the exporter that was created for it. -/
structure Wired (cs : List ProcessorConfig) (es : List Event) (channels : List Channel) :
    Prop where
  kinds : channels.map (fun c => [c.kind]) = cs.map ProcessorConfig.populated
  ids : channels.map Channel.id = createdIds es
  nodup : (channels.map Channel.id).Nodup

/-- The kinds of the entries with the exporters that the events
    create. -/
def Pipeline.channels (cs : List ProcessorConfig) (es : List Event) : List Channel :=
  List.zipWith Channel.mk (cs.flatMap ProcessorConfig.populated) (createdIds es)

theorem Wired.channels_eq {cs : List ProcessorConfig} {es : List Event} {channels : List Channel}
    (h : Wired cs es channels) : Pipeline.channels cs es = channels := by
  have hkinds : cs.flatMap ProcessorConfig.populated = channels.map Channel.kind := by
    rw [List.flatMap_def, ← h.kinds, ← List.flatMap_def, ← List.map_eq_flatMap]
  rw [Pipeline.channels, hkinds, ← h.ids, List.zipWith_map, List.zipWith_self]
  simp

namespace Processed

variable {host : Host} {n : Nat} {cs : List ProcessorConfig} {ps : List Processor}
  {fs : List Failure} {es : List Event}

/-- No two processors have the same exporter. -/
theorem nodup (h : Processed host n cs ps fs es) : (ps.map fun p => p.exporter.id).Nodup := by
  induction h with
  | nil n => exact .nil
  | @ready n c cs p ps fs es ds h rest ih =>
    obtain ⟨hc, hid⟩ := h.ok
    have hone := h.countP_isCreate hc
    rw [List.map_cons, List.nodup_cons]
    refine ⟨?_, ih⟩
    intro hmem
    obtain ⟨q, hq, heq⟩ := List.mem_map.mp hmem
    have := (rest.bounds q hq).1
    omega
  | failed h hown rest ih => exact ih

/-- Entries without failures make the channels of their processors. -/
theorem wired (h : Processed host n cs ps fs es) (hf : fs = []) :
    Wired cs es (ps.map Processor.channel) := by
  have hnodup := h.nodup
  rw [show (ps.map fun p => p.exporter.id) = (ps.map Processor.channel).map Channel.id by
    rw [List.map_map]; rfl] at hnodup
  refine ⟨?_, ?_, hnodup⟩
  · clear hnodup
    induction h with
    | nil n => rfl
    | ready h rest ih =>
      cases h with
      | ready hk => simpa [hk, Processor.channel] using ih hf
    | failed h hown rest ih => cases hf
  · clear hnodup
    induction h with
    | nil n => rfl
    | ready h rest ih =>
      cases h with
      | ready hk he hp hnone hx hw =>
        rw [createdIds_append, ← ih hf]
        rcases hw with rfl | ⟨a, rfl⟩
        · rfl
        · rfl
    | failed h hown rest ih => cases hf

end Processed

/-- The setup around the provider of a pipeline. -/
def Resolution.setup (r : Resolution) (resource : Resource) : Setup :=
  ⟨r.provider?.map fun ps => (.ofProcessors ps, resource)⟩

/-- A setup for the entries, to which nothing has happened.  What its
    making has left running are the exporters of its channels. -/
structure Setup.Serves (s : Setup) (n : Nat) (cs : List ProcessorConfig) (es : List Event) :
    Prop where
  fresh : s.Fresh
  wired : Wired cs es s.channels
  leaves : Ledger.Leaves n es (s.channels.map Channel.id)

/-- A setup without a provider serves no entries. -/
theorem Setup.serves_inactive (n : Nat) : inactive.Serves n [] [] :=
  ⟨fresh_inactive, ⟨rfl, rfl, .nil⟩, .nil n⟩

/-- A resolution without a failure makes a setup for the entries. -/
theorem Pipeline.Outcome.serves {host : Host} {n : Nat} {cs : List ProcessorConfig}
    {r : Resolution} {es : List Event} {rs : List LogRecord} (h : Outcome host n cs r es rs)
    (hr : r.failure? = none) (resource : Resource) : (r.setup resource).Serves n cs es := by
  cases h with
  | inactive => exact Setup.serves_inactive n
  | @live cs ps es rs hcs hproc hcalm =>
    have hps : ((Resolution.live ps).setup resource).channels = ps.map Processor.channel := by
      rw [Setup.channels]
      exact congrArg _ (Setup.processors_ofProcessors ps resource)
    refine ⟨Setup.fresh_ofProcessors ps resource, ?_, ?_⟩
    · rw [hps]
      exact hproc.wired rfl
    · rw [hps, List.map_map]
      exact hproc.leaves
  | failed hf hproc hcalm => cases hr

/-! ## §6. What reaches an exporter. -/

/-- The spans that an exporter receives in an event. -/
def Event.received (id : Nat) : Event → List Span
  | .handOver k spans => if k = id then spans else []
  | _ => []

/-- The spans that an exporter receives, in order. -/
def received (id : Nat) (es : List Event) : List Span := es.flatMap (Event.received id)

theorem received_append (id : Nat) (es fs : List Event) :
    received id (es ++ fs) = received id es ++ received id fs :=
  List.flatMap_append

theorem received_of_exporter {id : Nat} {es : List Event} (h : ∀ e ∈ es, e.exporter ≠ id) :
    received id es = [] := by
  rw [received, List.flatMap_eq_nil_iff]
  intro e he
  have hne := h e he
  cases e with
  | handOver k spans => exact if_neg hne
  | create k spec | simple k | batch k a | shutdown k => rfl

namespace Channel

theorem exporter_of_mem_handOvers {kinds : ProcessorKind → Bool} {span : Span}
    {cs : List Channel} {e : Event} (h : e ∈ handOvers kinds span cs) :
    ∃ c ∈ cs, e.exporter = c.id := by
  obtain ⟨c, hc, rfl⟩ := List.mem_map.mp h
  exact ⟨c, List.mem_of_mem_filter hc, rfl⟩

/-- A farewell hands over what has waited, if anything has, and shuts
    down. -/
theorem eq_of_mem_farewell {spans : List Span} {c : Channel} {e : Event}
    (h : e ∈ c.farewell spans) :
    e = .shutdown c.id ∨ (spans ≠ [] ∧ e = .handOver c.id spans) := by
  obtain ⟨kind, id⟩ := c
  cases kind with
  | simple => exact .inl (List.mem_singleton.mp h)
  | batch =>
    cases spans with
    | nil => exact .inl (List.mem_singleton.mp h)
    | cons s spans =>
      rcases List.mem_cons.mp h with rfl | h
      · exact .inr ⟨List.cons_ne_nil s spans, rfl⟩
      · exact .inl (List.mem_singleton.mp h)

theorem exporter_of_mem_farewell {spans : List Span} {c : Channel} {e : Event}
    (h : e ∈ c.farewell spans) : e.exporter = c.id := by
  rcases eq_of_mem_farewell h with rfl | ⟨-, rfl⟩
  · rfl
  · rfl

theorem exporter_of_mem_farewells {spans : List Span} {cs : List Channel} {e : Event}
    (h : e ∈ cs.flatMap (farewell spans)) : ∃ c ∈ cs, e.exporter = c.id := by
  obtain ⟨c, hc, he⟩ := List.mem_flatMap.mp h
  exact ⟨c, hc, exporter_of_mem_farewell he⟩

/-- What happens on some channels does not reach another exporter. -/
theorem received_of_channels {id : Nat} {ds : List Channel} {es : List Event}
    (he : ∀ e ∈ es, ∃ d ∈ ds, e.exporter = d.id) (hds : ∀ d ∈ ds, d.id ≠ id) :
    received id es = [] := by
  refine received_of_exporter fun e hmem => ?_
  obtain ⟨d, hd, hid⟩ := he e hmem
  rw [hid]
  exact hds d hd

/-- A channel among others to other exporters. -/
theorem split_of_mem {c : Channel} {cs : List Channel} (h : c ∈ cs) (hn : (cs.map id).Nodup) :
    ∃ xs ys, cs = xs ++ c :: ys ∧ (∀ d ∈ xs, d.id ≠ c.id) ∧ ∀ d ∈ ys, d.id ≠ c.id := by
  obtain ⟨xs, ys, rfl⟩ := List.append_of_mem h
  rw [List.map_append, List.map_cons, List.nodup_append, List.nodup_cons] at hn
  obtain ⟨-, ⟨hys, -⟩, hxs⟩ := hn
  refine ⟨xs, ys, rfl, ?_, ?_⟩
  · intro d hd
    exact hxs d.id (List.mem_map_of_mem hd) c.id List.mem_cons_self
  · intro d hd heq
    exact hys (List.mem_map.mpr ⟨d, hd, heq⟩)

/-- A span that ends reaches the exporters behind processors of the
    given kinds. -/
theorem received_handOvers {c : Channel} {cs : List Channel} (h : c ∈ cs)
    (hn : (cs.map id).Nodup) (kinds : ProcessorKind → Bool) (span : Span) :
    received c.id (handOvers kinds span cs) = if kinds c.kind then [span] else [] := by
  obtain ⟨xs, ys, rfl, hxs, hys⟩ := split_of_mem h hn
  have hothers : ∀ ds : List Channel, (∀ d ∈ ds, d.id ≠ c.id) →
      received c.id (handOvers kinds span ds) = [] :=
    fun ds => received_of_channels fun _ => exporter_of_mem_handOvers
  have hone : received c.id (handOvers kinds span [c]) = if kinds c.kind then [span] else [] := by
    cases hk : kinds c.kind <;> simp [handOvers, received, Event.received, hk]
  -- the channels on both sides lead to other exporters
  have hsplit : handOvers kinds span (xs ++ c :: ys)
      = handOvers kinds span xs ++ handOvers kinds span [c] ++ handOvers kinds span ys := by
    rw [← List.singleton_append]
    simp only [handOvers, List.filter_append, List.map_append, List.append_assoc]
  rw [hsplit, received_append, received_append, hothers xs hxs, hothers ys hys, hone,
    List.nil_append, List.append_nil]

/-- Before the shutdown these are the exporters whose processors keep
    nothing. -/
theorem received_handOvers_running {c : Channel} {cs : List Channel} (h : c ∈ cs)
    (hn : (cs.map id).Nodup) (span : Span) :
    received c.id (handOvers (fun kind => kind == .simple) span cs) = prompt c.kind [span] := by
  rw [received_handOvers h hn]
  cases c.kind <;> rfl

/-- An exporter receives what has waited for it right before it is
    shut down, and nothing else. -/
theorem received_farewells {c : Channel} {cs : List Channel} (h : c ∈ cs)
    (hn : (cs.map id).Nodup) (spans : List Span) :
    ∃ pre post, cs.flatMap (farewell spans) = pre ++ .shutdown c.id :: post ∧
      received c.id pre = waiting c.kind spans ∧ received c.id post = [] := by
  obtain ⟨xs, ys, rfl, hxs, hys⟩ := split_of_mem h hn
  have hothers : ∀ ds : List Channel, (∀ d ∈ ds, d.id ≠ c.id) →
      received c.id (ds.flatMap (farewell spans)) = [] :=
    fun ds => received_of_channels fun _ => exporter_of_mem_farewells
  -- the shutdown is the last event of a farewell
  have hone : ∃ own, farewell spans c = own ++ [.shutdown c.id] ∧
      received c.id own = waiting c.kind spans := by
    obtain ⟨kind, id⟩ := c
    cases kind with
    | simple => exact ⟨[], rfl, rfl⟩
    | batch =>
      cases spans with
      | nil => exact ⟨[], rfl, rfl⟩
      | cons s spans =>
        exact ⟨[.handOver id (s :: spans)], rfl, by simp [received, Event.received, waiting]⟩
  obtain ⟨own, hown, hwaiting⟩ := hone
  refine ⟨xs.flatMap (farewell spans) ++ own, ys.flatMap (farewell spans), ?_, ?_, hothers ys hys⟩
  · rw [List.flatMap_append, List.flatMap_cons, hown]
    simp
  · rw [received_append, hothers xs hxs, hwaiting, List.nil_append]

/-- Each exporter is shut down, in order. -/
theorem shutdowns_farewells (cs : List Channel) (spans : List Span) :
    (cs.flatMap (farewell spans)).filter Event.isShutdown = cs.map fun c => .shutdown c.id := by
  induction cs with
  | nil => rfl
  | cons c cs ih =>
    have hone : (c.farewell spans).filter Event.isShutdown = [.shutdown c.id] := by
      obtain ⟨kind, id⟩ := c
      cases kind with
      | simple => rfl
      | batch => cases spans <;> rfl
    rw [List.flatMap_cons, List.filter_append, hone, ih]
    rfl

theorem shutdowns_handOvers (kinds : ProcessorKind → Bool) (span : Span) (cs : List Channel) :
    (handOvers kinds span cs).filter Event.isShutdown = [] := by
  rw [List.filter_eq_nil_iff]
  intro e he
  obtain ⟨c, -, rfl⟩ := List.mem_map.mp he
  simp [Event.isShutdown]

end Channel

/-! ## §7. The exporters. -/

namespace Ledger

/-- Events that fit are about exporters that ran before or that they
    create. -/
theorem exporter_of_mem {l m : Ledger} {es : List Event} (h : l.enterAll es = some m) {e : Event}
    (he : e ∈ es) : e.exporter ∈ l.running ∨ l.next ≤ e.exporter := by
  induction es generalizing l with
  | nil => cases he
  | cons d es ih =>
    obtain ⟨k, hk, hm⟩ := enterAll_cons_eq_some.mp h
    rcases List.mem_cons.mp he with rfl | he
    · cases e with
      | create id spec =>
        simp only [enter, Option.ite_none_right_eq_some] at hk
        exact .inr (Nat.le_of_eq hk.1.symm)
      | simple id | batch id a | handOver id s | shutdown id =>
        simp only [enter, Option.ite_none_right_eq_some] at hk
        exact .inl hk.1
    · -- the first event adds its own number to what runs, or no number
      have hlater := ih hm he
      cases d with
      | create id spec =>
        simp only [enter, Option.ite_none_right_eq_some, Option.some.injEq] at hk
        obtain ⟨rfl, rfl⟩ := hk
        rcases hlater with hlater | hlater
        · rcases List.mem_append.mp hlater with hlater | hlater
          · exact .inl hlater
          · exact .inr (Nat.le_of_eq (List.mem_singleton.mp hlater).symm)
        · exact .inr (Nat.le_of_succ_le hlater)
      | shutdown id =>
        simp only [enter, Option.ite_none_right_eq_some, Option.some.injEq] at hk
        obtain ⟨-, rfl⟩ := hk
        exact hlater.imp_left List.mem_of_mem_erase
      | simple id | batch id a | handOver id s =>
        simp only [enter, Option.ite_none_right_eq_some, Option.some.injEq] at hk
        obtain ⟨-, rfl⟩ := hk
        exact hlater

/-- Spans are handed over to running exporters, which run on. -/
theorem enterAll_handOvers {l : Ledger} {cs : List Channel} (kinds : ProcessorKind → Bool)
    (span : Span) (h : ∀ c ∈ cs, c.id ∈ l.running) :
    l.enterAll (Channel.handOvers kinds span cs) = some l := by
  have hevents : ∀ ids : List Nat, (∀ id ∈ ids, id ∈ l.running) →
      l.enterAll (ids.map fun id => .handOver id [span]) = some l := by
    intro ids hids
    induction ids with
    | nil => rfl
    | cons id ids ih =>
      rw [List.map_cons, enterAll_cons_eq_some]
      refine ⟨l, if_pos (hids id List.mem_cons_self), ih ?_⟩
      exact fun i hi => hids i (List.mem_cons_of_mem _ hi)
  have := hevents ((cs.filter fun c => kinds c.kind).map Channel.id) (by
    intro id hid
    obtain ⟨c, hc, rfl⟩ := List.mem_map.mp hid
    exact h c (List.mem_of_mem_filter hc))
  rwa [List.map_map] at this

/-- The shutdown of one exporter. -/
theorem enterAll_farewell {n : Nat} {running : List Nat} {c : Channel} (spans : List Span)
    (h : c.id ∈ running) :
    enterAll ⟨n, running⟩ (c.farewell spans) = some ⟨n, running.erase c.id⟩ := by
  obtain ⟨kind, id⟩ := c
  have hid : id ∈ running := h
  cases kind with
  | simple => simp [Channel.farewell, enterAll, enter, hid]
  | batch => cases spans <;> simp [Channel.farewell, enterAll, enter, hid]

/-- Running exporters are shut down, and the others run on. -/
theorem enterAll_farewells {n : Nat} {running : List Nat} {cs : List Channel} (spans : List Span)
    (h : ∀ c ∈ cs, c.id ∈ running) (hn : (cs.map Channel.id).Nodup) :
    enterAll ⟨n, running⟩ (cs.flatMap (Channel.farewell spans))
      = some ⟨n, running.diff (cs.map Channel.id)⟩ := by
  induction cs generalizing running with
  | nil => rfl
  | cons c cs ih =>
    rw [List.map_cons, List.nodup_cons] at hn
    rw [List.flatMap_cons, enterAll_append, enterAll_farewell spans (h c List.mem_cons_self),
      Option.bind_some, List.map_cons, List.diff_cons]
    refine ih ?_ hn.2
    -- the others have other numbers, so they are running still
    intro d hd
    have hne : d.id ≠ c.id := by
      intro heq
      exact hn.1 (List.mem_map.mpr ⟨d, hd, heq⟩)
    exact (List.mem_erase_of_ne hne).mpr (h d (List.mem_cons_of_mem _ hd))

/-- When all running exporters are shut down, none is left. -/
theorem enterAll_all_farewells (n : Nat) {cs : List Channel} (spans : List Span)
    (hn : (cs.map Channel.id).Nodup) :
    enterAll ⟨n, cs.map Channel.id⟩ (cs.flatMap (Channel.farewell spans)) = some ⟨n, []⟩ := by
  have hnil : (cs.map Channel.id).diff (cs.map Channel.id) = [] := by
    rw [List.eq_nil_iff_forall_not_mem]
    intro id hid
    rw [hn.mem_sdiff_iff] at hid
    exact hid.2 hid.1
  rw [enterAll_farewells spans (fun c hc => List.mem_map_of_mem hc) hn, hnil]

end Ledger

end SpanPipeline
