/-
  SpanPipeline.Proofs.Delivery
  ────────────────────────────
  Which spans reach the exporters of a live pipeline.

  A program opens spans, ends them and shuts its pipeline down, in
  any order.  Spans nest, some are open still when the shutdown
  comes, and the shutdown may come again.  Whatever the program
  does, all exporters receive the same spans: those that ended
  before the first shutdown, in the order of their ends.  A simple
  processor passes each of them on at once, a batching one all of
  them right before its exporter is shut down.  Spans that end later
  reach those exporters whose processors do not ignore them.

  Main results:
    * `Flow.run_step`, `Flow.run_steps` — one use of a pipeline, and
      any number of them, in one equation each.
    * `received_events` — what an exporter has received before a
      shutdown.
    * `resolve_delivers` — the whole run of a pipeline that is
      resolved without a failure.
-/
import SpanPipeline.Proofs.Channel
import Mathlib.Data.List.Induction

namespace SpanPipeline

/-! ## §1. Uses of a pipeline. -/

/-- What a program does with a pipeline.  A whole span is one that
    starts and finishes. -/
inductive Use where
  /-- Open a span. -/
  | start (name : String) (tracer : Option String)
  /-- End the innermost span. -/
  | finish
  /-- Shut the pipeline down. -/
  | shutdown
  deriving DecidableEq, Repr

/-- The use of the only setup of a session. -/
def Use.step : Use → SessionStep
  | .start name tracer => .start (some 0) name tracer
  | .finish => .finish
  | .shutdown => .shutdown 0

/-! ## §2. The flow of spans. -/

/-- Which spans are open, innermost first, which have ended before
    the first shutdown, and whether that has come. -/
structure Flow where
  opened : List Span := []
  ended : List Span := []
  stopped : Bool := false
  deriving DecidableEq, Repr

namespace Flow

/-- The flow after a use. -/
def next (f : Flow) : Use → Flow
  | .start name tracer =>
    { f with opened := ⟨name, tracer.getD Setup.defaultTracer⟩ :: f.opened }
  | .finish =>
    { f with
      opened := f.opened.tail
      ended := if f.stopped then f.ended else f.ended ++ f.opened.head?.toList }
  | .shutdown => { f with stopped := true }

/-- The flow after several uses. -/
def after (f : Flow) (uses : List Use) : Flow := uses.foldl next f

/-- The span that ends with a use, if one does. -/
def ending? (f : Flow) : Use → Option Span
  | .finish => f.opened.head?
  | _ => none

/-- The spans that end during several uses. -/
def endings (f : Flow) : List Use → List Span
  | [] => []
  | u :: us => (f.ending? u).toList ++ (f.next u).endings us

/-- What a use does to the exporters behind the channels. -/
def effect (host : Host) (cs : List Channel) (f : Flow) : Use → List Event
  | .start _ _ => []
  | .finish =>
    f.opened.head?.toList.flatMap fun s =>
      Channel.handOvers (Channel.passes host f.stopped) s cs
  | .shutdown => if f.stopped then [] else cs.flatMap (Channel.farewell f.ended)

/-- What several uses do, one after the other. -/
def events (host : Host) (cs : List Channel) (f : Flow) : List Use → List Event
  | [] => []
  | u :: us => f.effect host cs u ++ (f.next u).events host cs us

theorem after_append (f : Flow) (us vs : List Use) :
    f.after (us ++ vs) = (f.after us).after vs :=
  List.foldl_append

theorem events_append (host : Host) (cs : List Channel) (f : Flow) (us vs : List Use) :
    f.events host cs (us ++ vs) = f.events host cs us ++ (f.after us).events host cs vs := by
  induction us generalizing f with
  | nil => rfl
  | cons u us ih =>
    show f.effect host cs u ++ (f.next u).events host cs (us ++ vs) = _
    rw [ih, ← List.append_assoc]
    rfl

/-- A flow is stopped by a shutdown, and stays so. -/
theorem stopped_after_iff (f : Flow) (us : List Use) :
    (f.after us).stopped = true ↔ f.stopped = true ∨ .shutdown ∈ us := by
  induction us generalizing f with
  | nil => simp [after]
  | cons u us ih =>
    show ((f.next u).after us).stopped = true ↔ _
    rw [ih]
    cases u <;> simp [next]

/-- Only a shutdown stops a flow. -/
theorem stopped_after {f : Flow} (hf : f.stopped = false) {us : List Use}
    (h : .shutdown ∉ us) : (f.after us).stopped = false := by
  rw [← Bool.not_eq_true, stopped_after_iff, hf]
  simp [h]

/-- A flow that is stopped stays so with every use. -/
theorem stopped_next {f : Flow} (hf : f.stopped = true) (u : Use) : (f.next u).stopped = true := by
  cases u with
  | start name tracer => exact hf
  | finish => exact hf
  | shutdown => rfl

/-- After a shutdown a use does no more than to end a span. -/
theorem effect_of_stopped {f : Flow} (hf : f.stopped = true) (host : Host) (cs : List Channel)
    (u : Use) :
    f.effect host cs u
      = (f.ending? u).toList.flatMap fun s =>
          Channel.handOvers (Channel.passes host true) s cs := by
  cases u with
  | start name tracer => rfl
  | finish => simp only [effect, ending?, hf]
  | shutdown => exact if_pos hf

/-- After a shutdown spans are handed over where they are not ignored,
    and nothing else happens. -/
theorem events_of_stopped {f : Flow} (hf : f.stopped = true) (host : Host) (cs : List Channel)
    (us : List Use) :
    f.events host cs us
      = (f.endings us).flatMap fun s => Channel.handOvers (Channel.passes host true) s cs := by
  induction us generalizing f with
  | nil => rfl
  | cons u us ih =>
    rw [events, endings, List.flatMap_append, effect_of_stopped hf, ih (stopped_next hf u)]

/-- Nothing happens any more after a shutdown when late spans are
    ignored. -/
theorem events_of_ignored {host : Host} (h : host.libraries.IgnoreLate) {f : Flow}
    (hf : f.stopped = true) (cs : List Channel) (us : List Use) : f.events host cs us = [] := by
  rw [events_of_stopped hf, List.flatMap_eq_nil_iff]
  intro s _
  exact Channel.handOvers_of_ignored h s cs

/-- The events of a run with a shutdown: those before it, what the
    shutdown does, and the late spans. -/
theorem events_of_shutdown {f : Flow} (hf : f.stopped = false) (host : Host) (cs : List Channel)
    {before : List Use} (h : .shutdown ∉ before) (rest : List Use) :
    f.events host cs (before ++ .shutdown :: rest)
      = f.events host cs before ++ (cs.flatMap (Channel.farewell (f.after before).ended)
        ++ (((f.after before).next .shutdown).endings rest).flatMap fun s =>
            Channel.handOvers (Channel.passes host true) s cs) := by
  have hstopped : ((f.after before).next .shutdown).stopped = true := rfl
  rw [events_append, events, events_of_stopped hstopped, effect, stopped_after hf h]
  rfl

/-- Of two spans the inner one ends in time. -/
example : ({} : Flow).events .bare [⟨.simple, 0⟩, ⟨.batch, 1⟩]
    [.start "a" (some "t"), .start "b" (some "t"), .finish, .shutdown, .finish, .shutdown]
      = [ .handOver 0 [⟨"b", "t"⟩], .shutdown 0, .handOver 1 [⟨"b", "t"⟩], .shutdown 1 ] := by
  decide

/-! ## §3. The session of a flow. -/

/-- The session with one setup, through which the spans of a flow
    have gone. -/
def session (f : Flow) (s : Setup) : Session where
  setups := [s.after f.ended f.stopped]
  spans := f.opened.map fun span => ⟨span, some 0⟩

/-- **One use of a pipeline**: the session follows the flow, and what
    happens is the effect of the use. -/
theorem run_step (host : Host) (s : Setup) (f : Flow) (u : Use) (j : Journal) :
    ∃ failure rs, ((f.session s).step host u.step).run j
      = (.ok ((f.next u).session s, failure), j.extend (f.effect host s.channels u) rs) := by
  cases u with
  | start name tracer => exact ⟨none, [], by rw [effect, Journal.extend_nil]; rfl⟩
  | finish =>
    refine ⟨none, [], ?_⟩
    obtain ⟨opened, ended, stopped⟩ := f
    cases opened with
    | nil =>
      rw [Use.step, Session.run_finish_nil host rfl]
      cases stopped <;> simp [effect, next, session]
    | cons span opened =>
      rw [Use.step, Session.run_finish host rfl rfl rfl]
      -- a setup that was shut down does not tell which spans have ended
      cases stopped <;> simp [effect, next, session, s.after_shut (ended ++ [span]) ended]
  | shutdown =>
    obtain ⟨failure, rs, h⟩ := Session.run_shutdown host (s := f.session s) (k := 0) rfl j
    exact ⟨failure, rs, h⟩

/-- **Any number of uses of a pipeline.** -/
theorem run_steps (host : Host) (s : Setup) (f : Flow) (uses : List Use) (j : Journal) :
    ∃ rs, ((f.session s).steps host (uses.map Use.step)).run j
      = (.ok ((f.after uses).session s), j.extend (f.events host s.channels uses) rs) := by
  induction uses generalizing f j with
  | nil => exact ⟨[], by rw [events, Journal.extend_nil]; rfl⟩
  | cons u us ih =>
    obtain ⟨failure, rs, hstep⟩ := run_step host s f u j
    obtain ⟨ss, hrest⟩ := ih (f.next u) (j.extend (f.effect host s.channels u) rs)
    refine ⟨rs ++ ss, ?_⟩
    rw [List.map_cons, Session.steps, Act.run_bind, hstep]
    show (((f.next u).session s).steps host (us.map Use.step)).run _ = _
    rw [hrest, Journal.extend_extend]
    rfl

end Flow

/-! ## §4. What the exporters receive. -/

section Received

variable {host : Host} {cs : List Channel} {c : Channel}

/-- Before a shutdown, an exporter has received what ended, as far as
    its processor does not keep it. -/
theorem received_events (hc : c ∈ cs) (hn : (cs.map Channel.id).Nodup) {uses : List Use}
    (h : .shutdown ∉ uses) :
    received c.id (({} : Flow).events host cs uses)
      = Channel.prompt c.kind (({} : Flow).after uses).ended := by
  induction uses using List.reverseRecOn with
  | nil => cases hk : c.kind <;> rfl
  | append_singleton us u ih =>
    rw [List.mem_append, not_or] at h
    have hgoing : (({} : Flow).after us).stopped = false := Flow.stopped_after rfl h.1
    rw [Flow.events_append, received_append, ih h.1, Flow.after_append]
    generalize ({} : Flow).after us = f at hgoing
    -- what the last use adds on both sides
    cases u with
    | start name tracer => simp [Flow.events, Flow.effect, Flow.after, Flow.next, received]
    | finish =>
      obtain ⟨opened, ended, stopped⟩ := f
      obtain rfl : stopped = false := hgoing
      cases opened with
      | nil => simp [Flow.events, Flow.effect, Flow.after, Flow.next, received]
      | cons span opened =>
        simp [Flow.events, Flow.effect, Flow.after, Flow.next, Channel.prompt_append,
          Channel.passes_running, Channel.received_handOvers_running hc hn]
    | shutdown => exact absurd (List.mem_singleton_self _) h.2

/-- Late spans reach the exporters whose processors do not ignore
    them. -/
theorem received_late (hc : c ∈ cs) (hn : (cs.map Channel.id).Nodup) (spans : List Span) :
    received c.id (spans.flatMap fun s => Channel.handOvers (Channel.passes host true) s cs)
      = if host.libraries.ignoresLate c.kind then [] else spans := by
  induction spans with
  | nil => cases host.libraries.ignoresLate c.kind <;> rfl
  | cons s spans ih =>
    rw [List.flatMap_cons, received_append, ih, Channel.received_handOvers hc hn]
    cases hk : host.libraries.ignoresLate c.kind <;> simp [Channel.passes, hk]

/-- No exporter is shut down without a shutdown. -/
theorem shutdowns_events {f : Flow} {uses : List Use} (h : .shutdown ∉ uses) :
    (f.events host cs uses).filter Event.isShutdown = [] := by
  induction uses generalizing f with
  | nil => rfl
  | cons u us ih =>
    rw [List.mem_cons, not_or] at h
    rw [Flow.events, List.filter_append, ih h.2, List.append_nil]
    cases u with
    | start name tracer => rfl
    | finish =>
      obtain ⟨opened, ended, stopped⟩ := f
      cases opened with
      | nil => rfl
      | cons span opened => simpa [Flow.effect] using Channel.shutdowns_handOvers _ span cs
    | shutdown => exact absurd rfl h.1

theorem shutdowns_late (spans : List Span) :
    (spans.flatMap fun s => Channel.handOvers (Channel.passes host true) s cs).filter
      Event.isShutdown = [] := by
  rw [List.filter_flatMap, List.flatMap_eq_nil_iff]
  intro s _
  exact Channel.shutdowns_handOvers _ s cs

end Received

/-- **What a run does** to the exporters behind the channels. -/
structure Delivers (host : Host) (cs : List Channel) (uses : List Use) (es : List Event) :
    Prop where
  /-- Each use has its effect, after those before it. -/
  effects : es = ({} : Flow).events host cs uses
  /-- As long as no shutdown has come, the simple processors have
      handed over what ended, and the batching ones have kept it. -/
  pending : .shutdown ∉ uses → ∀ c ∈ cs,
    received c.id es = Channel.prompt c.kind (({} : Flow).after uses).ended
  /-- With the first shutdown each exporter is shut down, and it has
      received what ended before.  It receives nothing later if its
      processor ignores late spans, and else those that end later. -/
  received : ∀ before rest, uses = before ++ .shutdown :: rest → .shutdown ∉ before →
    ∀ c ∈ cs, ∃ pre post, es = pre ++ .shutdown c.id :: post ∧
      SpanPipeline.received c.id pre = (({} : Flow).after before).ended ∧
      SpanPipeline.received c.id post
        = if host.libraries.ignoresLate c.kind then []
          else ((({} : Flow).after before).next .shutdown).endings rest
  /-- The exporters are shut down once, in order. -/
  shutdowns : es.filter Event.isShutdown
    = if .shutdown ∈ uses then cs.map fun c => .shutdown c.id else []

theorem delivers_events (host : Host) {cs : List Channel} (hn : (cs.map Channel.id).Nodup)
    (uses : List Use) : Delivers host cs uses (({} : Flow).events host cs uses) := by
  refine ⟨rfl, ?_, ?_, ?_⟩
  · intro h c hc
    exact received_events hc hn h
  · -- what came before the shutdown, and what a batching processor kept until then
    intro before rest huses h c hc
    obtain ⟨pre, post, hfarewell, hpre, hpost⟩ :=
      Channel.received_farewells hc hn (({} : Flow).after before).ended
    refine ⟨({} : Flow).events host cs before ++ pre,
      post ++ List.flatMap (fun s => Channel.handOvers (Channel.passes host true) s cs)
        (((({} : Flow).after before).next .shutdown).endings rest), ?_, ?_, ?_⟩
    · rw [huses, Flow.events_of_shutdown rfl host cs h, hfarewell]
      simp
    · rw [received_append, received_events hc hn h, hpre, Channel.prompt_append_waiting]
    · rw [received_append, hpost, received_late hc hn, List.nil_append]
  · by_cases h : .shutdown ∈ uses
    · obtain ⟨before, rest, rfl, hbefore⟩ := List.eq_append_cons_of_mem h
      rw [if_pos h, Flow.events_of_shutdown rfl host cs hbefore, List.filter_append,
        List.filter_append, shutdowns_events hbefore, Channel.shutdowns_farewells,
        shutdowns_late, List.append_nil, List.nil_append]
    · rw [if_neg h, shutdowns_events h]

/-! ## §5. A pipeline that was resolved. -/

namespace Pipeline

/-- **Delivery through a live pipeline.**  When a pipeline is resolved
    without a failure, each entry has its channel, and whatever a
    program does with the pipeline is delivered. -/
theorem resolve_delivers {host : Host} {config : Option PipelineConfig} {j j' : Journal}
    {r : Resolution} (h : (resolve host config).run j = (.ok r, j')) (hr : r.failure? = none)
    (resource : Resource) :
    ∃ es cs, j'.events = j.events ++ es ∧ Wired (entries config) es cs ∧
      ∀ uses, ∃ s ds rs,
        (Session.steps host { setups := [r.setup resource] } (uses.map Use.step)).run j'
            = (.ok s, j'.extend ds rs) ∧ Delivers host cs uses ds := by
  obtain ⟨es, rs, rfl, ho⟩ := resolve_ok h
  have hserves := ho.serves hr resource
  refine ⟨es, (r.setup resource).channels, rfl, hserves.wired, ?_⟩
  intro uses
  obtain ⟨ss, hrun⟩ := Flow.run_steps host (r.setup resource) {} uses (j.extend es rs)
  have hstart : ({} : Flow).session (r.setup resource) = { setups := [r.setup resource] } := by
    rw [Flow.session, hserves.fresh]
    rfl
  rw [hstart] at hrun
  exact ⟨_, _, ss, hrun, delivers_events host hserves.wired.nodup uses⟩

theorem resolve_delivers_bothKinds :
    ∃ r j', (resolve Sample.host (some Sample.bothKinds)).run {} = (.ok r, j') ∧ r.failure? = none ∧
      ∀ uses, ∃ s ds rs,
        (Session.steps Sample.host { setups := [r.setup (.ofConfig Sample.host none)] }
            (uses.map Use.step)).run j' = (.ok s, j'.extend ds rs) ∧
          Delivers Sample.host [⟨.simple, 0⟩, ⟨.batch, 1⟩] uses ds := by
  obtain ⟨r, j', hrun, hr, hids⟩ : ∃ r j',
      (resolve Sample.host (some Sample.bothKinds)).run {} = (.ok r, j') ∧ r.failure? = none ∧
        createdIds j'.events = [0, 1] := ⟨_, _, rfl, rfl, rfl⟩
  obtain ⟨es, cs, hes, hwired, huses⟩ :=
    resolve_delivers hrun hr (.ofConfig Sample.host none)
  obtain rfl : cs = [⟨.simple, 0⟩, ⟨.batch, 1⟩] := by
    rw [← hwired.channels_eq, channels, ← List.nil_append es]
    rw [show j'.events = [] ++ es from hes] at hids
    rw [hids]
    rfl
  exact ⟨r, j', hrun, hr, huses⟩

end Pipeline

end SpanPipeline
