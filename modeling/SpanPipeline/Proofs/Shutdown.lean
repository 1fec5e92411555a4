/-
  SpanPipeline.Proofs.Shutdown
  ────────────────────────────
  Shutting a pipeline down, again and again.

  Nothing keeps a program from shutting its pipeline down twice, or
  from trying once more after a failure.  The first call does all
  the work: it goes on after a failure and fails afterwards, with
  everything it came across.  A failure counts whatever it is, also
  an aggregate without children.  The later calls have nothing to
  do, even if the first one failed.

  Main results:
    * `calls_of_idle`, `calls_succ` — a shutdown that does nothing
      more after its first call, over any number of calls.
    * `run_closeAndCheck` — the first call in one equation.
    * `shutdown_calls_once` — any number of calls of a pipeline's
      shutdown, or of the shutdown of a setup.
-/
import SpanPipeline.Session

namespace SpanPipeline

/-! ## §1. Calls, one after the other. -/

section Calls

variable {σ : Type} {call : σ → σ × Act Unit} {s : σ}

/-- Call a shutdown several times, whatever it ends with: what each
    call ends with, and the journal after it. -/
def calls (call : σ → σ × Act Unit) : Nat → σ → Journal → List (Except Failure Unit × Journal)
  | 0, _, _ => []
  | n + 1, s, j => (call s).2.run j :: calls call n (call s).1 ((call s).2.run j).2

/-- A shutdown that does nothing does so every time. -/
theorem calls_of_idle (h : call s = (s, pure ())) (n : Nat) (j : Journal) :
    calls call n s j = List.replicate n (.ok (), j) := by
  induction n with
  | zero => rfl
  | succ n ih =>
    show (call s).2.run j :: calls call n (call s).1 ((call s).2.run j).2 = _
    rw [h, Act.run_pure, ih]
    rfl

/-- A shutdown that does nothing once it was called. -/
theorem calls_succ (h : call (call s).1 = ((call s).1, pure ())) (n : Nat) (j : Journal) :
    calls call (n + 1) s j
      = (call s).2.run j :: List.replicate n (.ok (), ((call s).2.run j).2) := by
  show (call s).2.run j :: calls call n (call s).1 ((call s).2.run j).2 = _
  rw [calls_of_idle h]

end Calls

/-! ## §2. The first call. -/

namespace Closing

/-- Some shutdown fails. -/
def anyFails (cs : List Closing) : Bool := cs.any fun c => c.failure.isSome

/-- What shutting everything down ends with: the failures as the
    children of one, in order, if there are any. -/
def verdict (cs : List Closing) : Except Failure Unit :=
  if anyFails cs then .error (.aggregate (cs.filterMap failure)) else .ok ()

/-- The warnings, one for each failure: what was to be shut down, by
    its class, and what the failure says. -/
def warnings (cs : List Closing) : List LogRecord :=
  cs.filterMap fun c => c.failure.map fun f =>
    { level := .warning, source := .pipeline, message := "Span processor failed to shut down"
      extra := [("processor", .text c.className)], error := some (.text f.text) }

/-- The journal after everything was shut down. -/
def after (cs : List Closing) (j : Journal) : Journal :=
  j.extend (cs.flatMap events) (warnings cs)

theorem filterMap_failure_eq_nil_iff {cs : List Closing} :
    cs.filterMap failure = [] ↔ anyFails cs = false := by
  simp [anyFails, List.filterMap_eq_nil_iff]

theorem flatMap_records (cs : List Closing) : cs.flatMap records = warnings cs := by
  induction cs with
  | nil => rfl
  | cons c cs ih =>
    rw [List.flatMap_cons, ih]
    cases hf : c.failure with
    | none => simp [records, warnings, hf]
    | some f => simp [records, warnings, hf, failureRecord]

/-- **Shutting everything down**: it all happens in order, failures
    or not, and afterwards the failures are raised together. -/
theorem run_closeAndCheck (cs : List Closing) (j : Journal) :
    (closeAndCheck cs).run j = (verdict cs, after cs j) := by
  rw [closeAndCheck, Act.run_bind, run_closeAll, flatMap_records]
  show (Act.lift (Aggregator.check ⟨cs.filterMap failure⟩)).run (after cs j) = _
  rw [Act.run_lift]
  congr 1
  cases hany : anyFails cs with
  | false =>
    rw [filterMap_failure_eq_nil_iff.mpr hany]
    simp [Aggregator.check, Aggregator.result?, verdict, hany]
  | true =>
    -- even a failure without messages makes the list of failures longer
    have hne : cs.filterMap failure ≠ [] := by
      rw [ne_eq, filterMap_failure_eq_nil_iff, hany]
      simp
    simp [Aggregator.check, Aggregator.result?, verdict, hany, hne]

/-- What a number of calls come to when only the first one works. -/
def onlyFirst (cs : List Closing) (j : Journal) : Nat → List (Except Failure Unit × Journal)
  | 0 => []
  | n + 1 => (verdict cs, after cs j) :: List.replicate n (.ok (), after cs j)

/-- An aggregate without children is a failure like any other. -/
example : verdict [⟨"A", [], none⟩, ⟨"B", [], some (.aggregate [])⟩]
    = .error (.aggregate [.aggregate []]) := rfl

end Closing

/-! ## §3. Any number of calls. -/

/-- The event is a shutdown. -/
def Event.isShutdown : Event → Bool
  | .shutdown _ => true
  | _ => false

/-- The shutdown of a processor at work is one shutdown of its
    exporter. -/
theorem Runner.shutdowns_closing (host : Host) (rs : List Runner) :
    ((rs.map fun r => r.closing host).flatMap Closing.events).filter Event.isShutdown
      = rs.map fun r => .shutdown r.processor.exporter.id := by
  induction rs with
  | nil => rfl
  | cons r rs ih =>
    have hone : (r.closing host).events.filter Event.isShutdown
        = [.shutdown r.processor.exporter.id] := by
      show List.filter _ (_ ++ [_]) = _
      by_cases hp : r.pending.isEmpty = true
      · simp [hp, Event.isShutdown]
      · simp [hp, Event.isShutdown]
    rw [List.map_cons, List.flatMap_cons, List.filter_append, hone, ih]
    rfl

/-- Of several calls the first one works, when it shuts everything
    down and nothing happens after it. -/
theorem calls_eq_onlyFirst {σ : Type} {call : σ → σ × Act Unit} {s : σ} {cs : List Closing}
    (hfirst : (call s).2 = Closing.closeAndCheck cs)
    (hidle : call (call s).1 = ((call s).1, pure ())) (n : Nat) (j : Journal) :
    calls call n s j = Closing.onlyFirst cs j n := by
  cases n with
  | zero => rfl
  | succ n =>
    rw [calls_succ hidle, hfirst, Closing.run_closeAndCheck]
    rfl

theorem Provider.shutdown_of_stopped {host : Host} {p : Provider} (h : p.stopped = true) :
    p.shutdown host = (p, pure ()) := by
  obtain ⟨runners, stopped⟩ := p
  obtain rfl : stopped = true := h
  rfl

theorem Setup.shutdown_of_stopped {host : Host} {p : Provider} (h : p.stopped = true)
    (resource : Resource) :
    Setup.shutdown host ⟨some (p, resource)⟩ = (⟨some (p, resource)⟩, pure ()) := by
  simp [Setup.shutdown, Provider.shutdown_of_stopped h]

theorem Setup.shutdown_shutdown (host : Host) (s : Setup) :
    (s.shutdown host).1.shutdown host = ((s.shutdown host).1, pure ()) := by
  obtain ⟨live⟩ := s
  cases live with
  | none => rfl
  | some l =>
    obtain ⟨p, resource⟩ := l
    have hstopped : (p.shutdown host).1.stopped = true := by
      show (Shutdown.call _).1.done = true
      exact Shutdown.done_call _
    exact Setup.shutdown_of_stopped hstopped resource

/-- **A pipeline is shut down once, by the first call**, and nothing
    that happens then is dropped.  It makes no difference whether
    the calls are made on the pipeline's shutdown or on a setup with
    any processors at work. -/
theorem shutdown_calls_once (n : Nat) (j : Journal) :
    (∀ cs : List Closing,
      calls Shutdown.call n { closings := cs } j = Closing.onlyFirst cs j n) ∧
    ∀ (host : Host) (rs : List Runner) (resource : Resource),
      calls (Setup.shutdown host) n ⟨some ({ runners := rs }, resource)⟩ j
          = Closing.onlyFirst (rs.map fun r => r.closing host) j n ∧
        ((rs.map fun r => r.closing host).flatMap Closing.events).filter Event.isShutdown
          = rs.map fun r => .shutdown r.processor.exporter.id := by
  refine ⟨?_, ?_⟩
  · intro cs
    exact calls_eq_onlyFirst rfl (Shutdown.call_of_done (Shutdown.done_call _)) n j
  · intro host rs resource
    refine ⟨?_, Runner.shutdowns_closing host rs⟩
    exact calls_eq_onlyFirst rfl (Setup.shutdown_shutdown host _) n j

end SpanPipeline
