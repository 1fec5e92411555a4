/-
  SpanPipeline.Proofs.Isolation
  ─────────────────────────────
  Setups side by side do not get into each other's way.

  A program builds setups, some of them to be installed, some in
  vain.  It opens spans through them or through the installed one,
  ends them, and shuts setups down, in any order.  An exporter
  belongs to the setup it was created for, and nothing happens to
  it but when a span ends that was opened through this setup, or
  when this setup is shut down.

  Spans may be handed over to an exporter that was shut down, when the
  library does not ignore them.  Therefore the ledger is kept without
  the spans that are handed over.

  Main results:
    * `Ledger.enterAll_milestones` — events that fit do so without the
      spans that are handed over.
    * `Accounts`, `Accounts.step` — what a history says about the
      exporters, and that one step preserves it.
    * `obeys_of_outcome` — what one step may do.
    * `steps_isolated` — whatever a program does, its setups are
      isolated from each other.
-/
import SpanPipeline.Proofs.Frame
import SpanPipeline.Proofs.Standing

namespace SpanPipeline

/-! ## §1. The exporters. -/

/-- The events without the spans that are handed over. -/
def milestones (es : List Event) : List Event := es.filter fun e => !e.isHandOver

theorem milestones_append (es fs : List Event) :
    milestones (es ++ fs) = milestones es ++ milestones fs :=
  List.filter_append es fs

theorem milestones_handOvers (kinds : ProcessorKind → Bool) (span : Span) (cs : List Channel) :
    milestones (Channel.handOvers kinds span cs) = [] := by
  rw [milestones, List.filter_eq_nil_iff]
  intro e he
  obtain ⟨c, -, rfl⟩ := List.mem_map.mp he
  simp [Event.isHandOver]

theorem countP_isCreate_milestones (es : List Event) :
    (milestones es).countP Event.isCreate = es.countP Event.isCreate := by
  rw [milestones, List.countP_filter]
  refine List.countP_congr fun e _ => ?_
  cases e <;> simp [Event.isCreate, Event.isHandOver]

theorem count_shutdown_milestones (id : Nat) (es : List Event) :
    (milestones es).count (.shutdown id) = es.count (.shutdown id) :=
  List.count_filter rfl

/-- What is handed over changes nothing for the exporters that run. -/
theorem Ledger.enterAll_milestones {l m : Ledger} {es : List Event} (h : l.enterAll es = some m) :
    l.enterAll (milestones es) = some m := by
  induction es generalizing l with
  | nil => exact h
  | cons e es ih =>
    obtain ⟨k, hk, hm⟩ := enterAll_cons_eq_some.mp h
    cases e with
    | handOver id spans =>
      simp only [enter, Option.ite_none_right_eq_some, Option.some.injEq] at hk
      obtain ⟨-, rfl⟩ := hk
      exact ih hm
    | create id spec | simple id | batch id a | shutdown id =>
      exact enterAll_cons_eq_some.mpr ⟨k, hk, ih hm⟩

/-- **The exporters after a history**, when `n` was the next number at
    its start and `next` is now. -/
structure Accounts (n : Nat) (past : List Taken) (next : Nat) : Prop where
  /-- What happened fits, and the exporters of setups that were not
      shut down are running. -/
  ledger : ∃ running,
    Ledger.enterAll ⟨n, []⟩ (milestones (Past.events past)) = some ⟨next, running⟩ ∧
    ∀ k, Past.shutDown past k = false → ∀ c ∈ Past.owned past k, c.id ∈ running
  bounds : ∀ k, ∀ c ∈ Past.owned past k, c.id < next
  nodup : ∀ k, ((Past.owned past k).map Channel.id).Nodup
  /-- No exporter has two owners. -/
  apart : ∀ k l, ∀ c ∈ Past.owned past k, ∀ d ∈ Past.owned past l, c.id = d.id → k = l

namespace Ledger

/-- The exporters that run after events from nothing running have
    their numbers. -/
theorem running_lt {n : Nat} {m : Ledger} {es : List Event} (h : enterAll ⟨n, []⟩ es = some m) :
    ∀ id ∈ m.running, id < m.next := by
  intro id hid
  obtain ⟨spec, hc⟩ := create_of_mem_running h hid
  exact (lt_next_of_create h hc).2

end Ledger

namespace Accounts

variable {n next : Nat} {past : List Taken} {t : Taken}

theorem start (n : Nat) : Accounts n [] n := by
  refine ⟨⟨[], rfl, ?_⟩, ?_, ?_, ?_⟩
  · intro k _ c hc
    cases hc
  · intro k c hc
    cases hc
  · intro k
    exact .nil
  · intro k l c hc
    cases hc

/-- A step that builds nothing leaves the owners as they are. -/
theorem of_not_built (h : Accounts n past next) (hbuilt : t.built = false) {next' : Nat}
    (hle : next ≤ next')
    (hledger : ∀ running,
      Ledger.enterAll ⟨n, []⟩ (milestones (Past.events past)) = some ⟨next, running⟩ →
      (∀ k, Past.shutDown past k = false → ∀ c ∈ Past.owned past k, c.id ∈ running) →
      ∃ running', Ledger.enterAll ⟨next, running⟩ (milestones t.events)
          = some ⟨next', running'⟩ ∧
        ∀ k, Past.shutDown (past ++ [t]) k = false → ∀ c ∈ Past.owned past k, c.id ∈ running') :
    Accounts n (past ++ [t]) next' := by
  have howned : ∀ k, Past.owned (past ++ [t]) k = Past.owned past k :=
    fun k => Past.owned_snoc_of_not_built hbuilt
  obtain ⟨running, hrun, halive⟩ := h.ledger
  obtain ⟨running', hrun', halive'⟩ := hledger running hrun halive
  refine ⟨⟨running', ?_, ?_⟩, ?_, ?_, ?_⟩
  · rw [Past.events_snoc, milestones_append, Ledger.enterAll_append, hrun]
    exact hrun'
  · intro k hk c hc
    rw [howned] at hc
    exact halive' k hk c hc
  · intro k c hc
    rw [howned] at hc
    exact Nat.lt_of_lt_of_le (h.bounds k c hc) hle
  · intro k
    rw [howned]
    exact h.nodup k
  · intro k l c hc d hd
    rw [howned] at hc hd
    exact h.apart k l c hc d hd

/-- A setup that is built owns the exporters that were created for
    it, and they are new. -/
theorem of_built (h : Accounts n past next) (hbuilt : t.built = true)
    (hidle : ∀ k, t.shuts k = false) (hnodup : (t.channels.map Channel.id).Nodup)
    (hleaves : Ledger.Leaves next t.events (t.channels.map Channel.id)) :
    Accounts n (past ++ [t]) (next + t.events.countP Event.isCreate) := by
  have hnew : ∀ c ∈ t.channels, next ≤ c.id ∧ c.id < next + t.events.countP Event.isCreate :=
    fun c hc => hleaves.bounds c.id (List.mem_map_of_mem hc)
  -- an owner is an old one, or the one that was built
  have howned : ∀ k c, c ∈ Past.owned (past ++ [t]) k →
      (k ≠ (Past.builds past).length ∧ c ∈ Past.owned past k) ∨
        (k = (Past.builds past).length ∧ c ∈ t.channels) := by
    intro k c hc
    rw [Past.owned_snoc_of_built hbuilt] at hc
    by_cases hk : k = (Past.builds past).length
    · rw [if_pos hk] at hc
      exact .inr ⟨hk, hc⟩
    · rw [if_neg hk] at hc
      exact .inl ⟨hk, hc⟩
  obtain ⟨running, hrun, halive⟩ := h.ledger
  refine ⟨⟨running ++ t.channels.map Channel.id, ?_, ?_⟩, ?_, ?_, ?_⟩
  · rw [Past.events_snoc, milestones_append, Ledger.enterAll_append, hrun]
    exact Ledger.enterAll_milestones (hleaves running (Ledger.running_lt hrun))
  · intro k hk c hc
    rw [Past.shutDown_snoc, hidle, Bool.or_false] at hk
    rcases howned k c hc with ⟨-, hold⟩ | ⟨-, hmine⟩
    · exact List.mem_append_left _ (halive k hk c hold)
    · exact List.mem_append_right _ (List.mem_map_of_mem hmine)
  · intro k c hc
    rcases howned k c hc with ⟨-, hold⟩ | ⟨-, hmine⟩
    · exact Nat.lt_of_lt_of_le (h.bounds k c hold) (Nat.le_add_right _ _)
    · exact (hnew c hmine).2
  · intro k
    rw [Past.owned_snoc_of_built hbuilt]
    by_cases hk : k = (Past.builds past).length
    · rw [if_pos hk]
      exact hnodup
    · rw [if_neg hk]
      exact h.nodup k
  · intro k l c hc d hd hid
    rcases howned k c hc with ⟨-, hold⟩ | ⟨hk, hmine⟩
    · rcases howned l d hd with ⟨-, hold'⟩ | ⟨-, hmine'⟩
      · exact h.apart k l c hold d hold' hid
      · have hlt := h.bounds k c hold
        have hge := (hnew d hmine').1
        omega
    · rcases howned l d hd with ⟨-, hold'⟩ | ⟨hl, -⟩
      · have hlt := h.bounds l d hold'
        have hge := (hnew c hmine).1
        omega
      · rw [hk, hl]

/-- The exporters of a setup that is shut down stop, and those of the
    other setups run on. -/
theorem of_shutdown (h : Accounts n past next) {k : Nat} {running : List Nat}
    (hshut : Past.shutDown past k = false)
    (halive : ∀ i, Past.shutDown past i = false → ∀ c ∈ Past.owned past i, c.id ∈ running)
    (spans : List Span) :
    Ledger.enterAll ⟨next, running⟩ ((Past.owned past k).flatMap (Channel.farewell spans))
        = some ⟨next, running.diff ((Past.owned past k).map Channel.id)⟩ ∧
      ∀ i, i ≠ k → Past.shutDown past i = false → ∀ c ∈ Past.owned past i,
        c.id ∈ running.diff ((Past.owned past k).map Channel.id) := by
  refine ⟨Ledger.enterAll_farewells spans (halive k hshut) (h.nodup k), ?_⟩
  intro i hik hi c hc
  refine List.mem_diff_of_mem (halive i hi c hc) ?_
  intro hmem
  obtain ⟨d, hd, heq⟩ := List.mem_map.mp hmem
  exact hik (h.apart i k c hc d hd heq.symm)

/-- What follows from the history fits. -/
theorem effect_fits (h : Accounts n past next) {host : Host} {s : Session}
    (hs : Standing past s) (hbefore : t.before = s)
    (hevents : t.events = Past.effect host past t.step) {running : List Nat}
    (halive : ∀ i, Past.shutDown past i = false → ∀ c ∈ Past.owned past i, c.id ∈ running) :
    ∃ running', Ledger.enterAll ⟨next, running⟩ (milestones t.events) = some ⟨next, running'⟩ ∧
      ∀ i, Past.shutDown (past ++ [t]) i = false → ∀ c ∈ Past.owned past i, c.id ∈ running' := by
  -- what runs on its own account was not shut down before
  have hold : ∀ i, Past.shutDown (past ++ [t]) i = false →
      Past.shutDown past i = false ∧ t.shuts i = false := by
    intro i hi
    rwa [Past.shutDown_snoc, Bool.or_eq_false_iff] at hi
  rcases Past.effect_cases host past t.step with
    hnil | ⟨k, ⟨-, o, -, -, heffect⟩ | ⟨hst, hshut, heffect⟩⟩
  · rw [hevents, hnil]
    exact ⟨running, rfl, fun i hi => halive i (hold i hi).1⟩
  · rw [hevents, heffect, milestones_handOvers]
    exact ⟨running, rfl, fun i hi => halive i (hold i hi).1⟩
  · obtain ⟨hrun, hothers⟩ := h.of_shutdown hshut halive (Past.endedThrough past k)
    refine ⟨_, by rw [hevents, heffect]; exact Ledger.enterAll_milestones hrun, ?_⟩
    intro i hi c hc
    by_cases hik : i = k
    · -- only a setup that does not exist is not shut down by its shutdown
      have hge : s.setups.length ≤ i := by
        have hnot := (hold i hi).2
        rw [Taken.shuts, hst, hbefore] at hnot
        exact Nat.le_of_not_lt fun hlt => of_decide_eq_false hnot ⟨hik.symm, hlt⟩
      rw [hs.owned_of_length_le hge] at hc
      cases hc
    · exact hothers i hik (hold i hi).1 c hc

/-- **One step preserves what a history says about the exporters.** -/
theorem step (h : Accounts n past next) {host : Host} {s : Session} (hs : Standing past s)
    (hbefore : t.before = s) (ho : StepOutcome host past next t) :
    Accounts n (past ++ [t]) (next + t.events.countP Event.isCreate) := by
  cases ho with
  | built hbuilt hidle hwired hleaves => exact h.of_built hbuilt hidle hwired.nodup hleaves
  | @failed hconfig hbuilt hidle left hleaves =>
    refine h.of_not_built hbuilt (Nat.le_add_right _ _) ?_
    intro running hrun halive
    refine ⟨running ++ left,
      Ledger.enterAll_milestones (hleaves running (Ledger.running_lt hrun)), ?_⟩
    intro k hk c hc
    rw [Past.shutDown_snoc, hidle, Bool.or_false] at hk
    exact List.mem_append_left _ (halive k hk c hc)
  | plain hconfig hevents =>
    have hbuilt : t.built = false := by rw [Taken.built, hconfig]; rfl
    refine h.of_not_built hbuilt (Nat.le_add_right _ _) ?_
    intro running hrun halive
    obtain ⟨running', hfits, halive'⟩ := h.effect_fits hs hbefore hevents halive
    -- what fits without a new number creates nothing
    have hnone : t.events.countP Event.isCreate = 0 := by
      have hnext : next = next + (milestones t.events).countP Event.isCreate :=
        Ledger.next_enterAll hfits
      rw [countP_isCreate_milestones] at hnext
      omega
    rw [hnone]
    exact ⟨running', hfits, halive'⟩

end Accounts

/-! ## §2. Isolation. -/

/-- **What a step may do** after the steps before it. -/
structure Obeys (host : Host) (past : List Taken) (t : Taken) : Prop where
  /-- The setup of the first successful installation is installed. -/
  installed : t.before.installed = Past.firstConfigured past
  /-- The open spans are those that were opened and have not ended. -/
  spans : t.before.spans = Past.opened past
  /-- A setup that was built owns all exporters created for it. -/
  built : t.built = true → Wired t.entries t.events t.channels
  /-- Apart from that, what a step does follows from the history. -/
  effect : t.config? = none → t.events = Past.effect host past t.step
  /-- What happens to an exporter of a setup happens because a span
      ends that was opened through it, or because of its shutdown. -/
  touched : ∀ e ∈ t.events, ∀ k, ∀ c ∈ Past.owned past k, e.exporter = c.id →
    t.step = .shutdown k ∨
      (t.step = .finish ∧ ∃ o, (Past.opened past).head? = some o ∧ o.setup = some k)

/-- What follows from the history happens to the exporters of one
    setup. -/
theorem Past.cause_of_mem_effect {host : Host} {past : List Taken} {st : SessionStep}
    {e : Event} (h : e ∈ effect host past st) :
    ∃ k, (st = .shutdown k ∨
        (st = .finish ∧ ∃ o, (opened past).head? = some o ∧ o.setup = some k)) ∧
      ∃ c ∈ owned past k, e.exporter = c.id := by
  rcases effect_cases host past st with
    hnil | ⟨k, ⟨hst, o, ho, hk, heffect⟩ | ⟨hst, -, heffect⟩⟩
  · rw [hnil] at h
    cases h
  · rw [heffect] at h
    exact ⟨k, .inr ⟨hst, o, ho, hk⟩, Channel.exporter_of_mem_handOvers h⟩
  · rw [heffect] at h
    exact ⟨k, .inl hst, Channel.exporter_of_mem_farewells h⟩

theorem obeys_of_outcome {host : Host} {n next : Nat} {past : List Taken} {s : Session}
    {t : Taken} (hs : Standing past s) (ha : Accounts n past next) (hbefore : t.before = s)
    (ho : StepOutcome host past next t) : Obeys host past t := by
  -- the exporters that a building step touches are newer than those with an owner
  have hnew : ∀ left, Ledger.Leaves next t.events left → ∀ e ∈ t.events, ∀ k,
      ∀ c ∈ Past.owned past k, e.exporter ≠ c.id := by
    intro left hleaves e he k c hc hid
    have hlt := ha.bounds k c hc
    rcases Ledger.exporter_of_mem (hleaves [] (by simp)) he with hmem | hle
    · cases hmem
    · exact Nat.not_lt.mpr hle (hid ▸ hlt)
  refine ⟨hbefore ▸ hs.installed, hbefore ▸ hs.spans, ?_, ?_, ?_⟩
  · intro hbuilt
    cases ho with
    | plain hconfig hevents => rw [Taken.built, hconfig] at hbuilt; cases hbuilt
    | built _ hidle hwired hleaves => exact hwired
    | failed hconfig hnot hidle hleaves => rw [hnot] at hbuilt; cases hbuilt
  · intro hnone
    cases ho with
    | plain hconfig hevents => exact hevents
    | built hbuilt hidle hwired hleaves => rw [Taken.built, hnone] at hbuilt; cases hbuilt
    | failed hconfig hnot hidle hleaves => rw [hnone] at hconfig; cases hconfig
  · intro e he k c hc hid
    cases ho with
    | built hbuilt hidle hwired hleaves => exact absurd hid (hnew _ hleaves e he k c hc)
    | failed hconfig hnot hidle hleaves => exact absurd hid (hnew _ hleaves e he k c hc)
    | plain hconfig hevents =>
      rw [hevents] at he
      obtain ⟨i, hcause, d, hd, heq⟩ := Past.cause_of_mem_effect he
      obtain rfl : k = i := ha.apart k i c hc d hd (hid.symm.trans heq)
      exact hcause

/-- A session with its history so far. -/
structure Sound (host : Host) (j₀ : Journal) (past : List Taken) (s : Session) (j : Journal) :
    Prop where
  history : History host {} j₀ past s j
  standing : Standing past s
  accounts : Accounts j₀.created past j.created
  obeys : ∀ before t after, past = before ++ t :: after → Obeys host before t

namespace Sound

variable {host : Host} {j₀ j : Journal} {past : List Taken} {s : Session}

theorem start (host : Host) (j : Journal) : Sound host j [] {} j := by
  refine ⟨.start, .start, .start _, ?_⟩
  intro before t after h
  simp at h

/-- One more step. -/
theorem step (h : Sound host j₀ past s j) (st : SessionStep) :
    ∃ t s' j', t.step = st ∧ (s.step host st).run j = (.ok (s', t.failure), j') ∧
      Sound host j₀ (past ++ [t]) s' j' := by
  obtain ⟨s', failure, es, rs, hrun, hstanding, ho⟩ := h.standing.step host st j
  refine ⟨⟨s, st, failure, es⟩, s', _, rfl, hrun, h.history.step hrun, hstanding, ?_, ?_⟩
  · rw [Journal.created_extend]
    exact h.accounts.step h.standing rfl ho
  · intro before t after heq
    -- the step is the last one, or it comes after the one in question
    rcases List.eq_nil_or_concat after with rfl | ⟨after', u, rfl⟩
    · obtain ⟨rfl, hlast⟩ := List.append_inj' heq rfl
      obtain rfl := (List.cons.inj hlast).1
      exact obeys_of_outcome h.standing h.accounts rfl ho
    · rw [List.concat_eq_append, ← List.cons_append, ← List.append_assoc] at heq
      exact h.obeys before t after' (List.append_inj' heq rfl).1

/-- Any number of steps. -/
theorem steps (h : Sound host j₀ past s j) (sts : List SessionStep) :
    ∃ more s' j', more.map Taken.step = sts ∧ (s.steps host sts).run j = (.ok s', j') ∧
      Sound host j₀ (past ++ more) s' j' := by
  induction sts generalizing past s j with
  | nil => exact ⟨[], s, j, rfl, rfl, by rwa [List.append_nil]⟩
  | cons st sts ih =>
    obtain ⟨t, s₁, j₁, hst, hrun, hsound⟩ := h.step st
    obtain ⟨more, s', j', hmore, hruns, hsound'⟩ := ih hsound
    refine ⟨t :: more, s', j', by rw [List.map_cons, hst, hmore], ?_, ?_⟩
    · rw [Session.steps, Act.run_bind, hrun]
      exact hruns
    · rwa [List.append_assoc] at hsound'

end Sound

/-- **Setups that are isolated from each other** throughout a history
    that ends with the session. -/
structure Isolated (host : Host) (past : List Taken) (s : Session) : Prop where
  /-- The setup of the first successful installation is installed. -/
  installed : s.installed = Past.firstConfigured past
  /-- Whatever is installed stays installed. -/
  kept : ∀ before t after k, past = before ++ t :: after → t.before.installed = some k →
    s.installed = some k
  steps : ∀ before t after, past = before ++ t :: after → Obeys host before t
  /-- No exporter has two owners. -/
  apart : ∀ k l, ∀ c ∈ Past.owned past k, ∀ d ∈ Past.owned past l, c.id = d.id → k = l
  /-- No exporter is shut down twice. -/
  once : ∀ id, (Past.events past).count (.shutdown id) ≤ 1

theorem Sound.isolated {host : Host} {j₀ j : Journal} {past : List Taken} {s : Session}
    (h : Sound host j₀ past s j) : Isolated host past s := by
  refine ⟨h.standing.installed, ?_, h.obeys, h.accounts.apart, ?_⟩
  · intro before t after k heq hk
    rw [h.standing.installed, heq]
    rw [(h.obeys before t after heq).installed] at hk
    exact Past.firstConfigured_append hk
  · intro id
    obtain ⟨running, hrun, -⟩ := h.accounts.ledger
    have hbalance := Ledger.balance_of_empty hrun id
    rw [count_shutdown_milestones] at hbalance
    split at hbalance <;> omega

namespace Session

/-- **Isolation of setups.**  Whatever steps a program takes, they have
    a history in which its setups are isolated from each other. -/
theorem steps_isolated (host : Host) (j : Journal) (sts : List SessionStep) :
    ∃ past s j', History host {} j past s j' ∧ past.map Taken.step = sts ∧
      (Session.steps host {} sts).run j = (.ok s, j') ∧ Isolated host past s := by
  obtain ⟨past, s, j', hsteps, hrun, hsound⟩ := (Sound.start host j).steps sts
  rw [List.nil_append] at hsound
  exact ⟨past, s, j', hsound.history, hsteps, hrun, hsound.isolated⟩

end Session

end SpanPipeline
