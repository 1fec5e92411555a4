/-
  SpanPipeline.Proofs.Standing
  ────────────────────────────
  The session after a history, and what the next step does.

  The session after any history can be read off the history: its
  setups stand in the order in which they were built, each as it
  was built but for the spans that have ended through it and for
  its shutdown.  So can the effect of the next step, unless it
  builds a setup; then the exporters it touches are new.

  Main results:
    * `Past.effect`, `Past.effect_cases` — what a step does to
      exporters when it builds no setup.
    * `Standing` — what a history says about the session.
    * `Standing.step` — one step preserves it, and has one of its
      outcomes.
-/
import SpanPipeline.Proofs.History

namespace SpanPipeline

/-! ## §1. What the next step does. -/

/-- What a step does to exporters when it builds no setup. -/
def Past.effect (host : Host) (past : List Taken) : SessionStep → List Event
  | .finish =>
    match opened past with
    | [] => []
    | o :: _ => o.setup.elim [] fun k =>
      Channel.handOvers (Channel.passes host (shutDown past k)) o.span (owned past k)
  | .shutdown k =>
    if shutDown past k then [] else (owned past k).flatMap (Channel.farewell (endedThrough past k))
  | _ => []

/-- It does nothing, or it concerns one setup, and this was not shut
    down before if it is now. -/
theorem Past.effect_cases (host : Host) (past : List Taken) (st : SessionStep) :
    effect host past st = [] ∨ ∃ k,
      (st = .finish ∧ ∃ o, (opened past).head? = some o ∧ o.setup = some k ∧
          effect host past st
            = Channel.handOvers (Channel.passes host (shutDown past k)) o.span (owned past k)) ∨
        (st = .shutdown k ∧ shutDown past k = false ∧
          effect host past st
            = (owned past k).flatMap (Channel.farewell (endedThrough past k))) := by
  cases st with
  | create config resource => exact .inl rfl
  | configure config => exact .inl rfl
  | start k name tracer => exact .inl rfl
  | finish =>
    rw [effect]
    cases opened past with
    | nil => exact .inl rfl
    | cons o rest =>
      cases ho : o.setup with
      | none => exact .inl (by simp only [ho, Option.elim_none])
      | some k => exact .inr ⟨k, .inl ⟨rfl, o, rfl, ho, by simp [ho]⟩⟩
  | shutdown k =>
    rw [effect]
    cases hshut : shutDown past k with
    | true => exact .inl rfl
    | false => exact .inr ⟨k, .inr ⟨rfl, hshut, rfl⟩⟩

namespace Taken

variable {t : Taken} {k : Nat}

theorem ended_of_length_le (h : t.before.setups.length ≤ k) : t.ended k = none := by
  unfold ended
  split
  · exact if_neg fun hk => Nat.not_lt.mpr h hk.2
  · rfl

theorem shuts_of_length_le (h : t.before.setups.length ≤ k) : t.shuts k = false := by
  unfold shuts
  split
  · exact decide_eq_false fun hk => Nat.not_lt.mpr h hk.2
  · rfl

/-- A step that builds ends no span and shuts nothing down. -/
theorem idle_of_config (h : t.config?.isSome = true) :
    (∀ k, t.ended k = none) ∧ (∀ k, t.shuts k = false) ∧ ∀ spans, t.nest spans = spans := by
  obtain ⟨before, step, failure, events⟩ := t
  cases step with
  | create config resource => exact ⟨fun _ => rfl, fun _ => rfl, fun _ => rfl⟩
  | configure config => exact ⟨fun _ => rfl, fun _ => rfl, fun _ => rfl⟩
  | start k name tracer => cases h
  | finish => cases h
  | shutdown k => cases h

end Taken

/-! ## §2. The session. -/

/-- **The session after a history.** -/
structure Standing (past : List Taken) (s : Session) : Prop where
  size : s.setups.length = (Past.builds past).length
  /-- Each setup is as it was built, but for the spans that ended and
      for the shutdown. -/
  setups : ∀ k, k < s.setups.length → ∃ setup : Setup, setup.channels = Past.owned past k ∧
    s.setups[k]? = some (setup.after (Past.endedThrough past k) (Past.shutDown past k))
  /-- Nothing has happened through a setup before it was built. -/
  unborn : ∀ k, s.setups.length ≤ k →
    Past.endedThrough past k = [] ∧ Past.shutDown past k = false
  installed : s.installed = Past.firstConfigured past
  spans : s.spans = Past.opened past

namespace Standing

variable {past : List Taken} {s s' : Session} {t : Taken}

theorem start : Standing [] {} := by
  refine ⟨rfl, ?_, ?_, rfl, rfl⟩
  · intro k hk
    cases hk
  · intro k _
    exact ⟨rfl, rfl⟩

theorem owned_of_length_le (h : Standing past s) {k : Nat} (hk : s.setups.length ≤ k) :
    Past.owned past k = [] :=
  Past.owned_of_length_le (h.size ▸ hk)

/-- A step that builds nothing changes the setups only as it is
    recorded. -/
theorem of_plain (h : Standing past s) (hbefore : t.before = s) (hbuilt : t.built = false)
    (hsize : s'.setups.length = s.setups.length) (hinstalled : s'.installed = s.installed)
    (hspans : s'.spans = t.nest s.spans)
    (hsetups : ∀ k, k < s.setups.length → ∃ setup : Setup, setup.channels = Past.owned past k ∧
      s'.setups[k]? = some (setup.after (Past.endedThrough past k ++ (t.ended k).toList)
        (Past.shutDown past k || t.shuts k))) :
    Standing (past ++ [t]) s' := by
  refine ⟨?_, ?_, ?_, ?_, ?_⟩
  · rw [hsize, h.size, Past.builds_snoc, hbuilt]
    simp
  · intro k hk
    rw [hsize] at hk
    rw [Past.owned_snoc_of_not_built hbuilt, Past.endedThrough_snoc, Past.shutDown_snoc]
    exact hsetups k hk
  · intro k hk
    rw [hsize] at hk
    obtain ⟨hended, hshut⟩ := h.unborn k hk
    rw [← hbefore] at hk
    rw [Past.endedThrough_snoc, Past.shutDown_snoc, hended, hshut, t.ended_of_length_le hk,
      t.shuts_of_length_le hk]
    exact ⟨rfl, rfl⟩
  · rw [hinstalled, h.installed, Past.firstConfigured_snoc_of_not_built hbuilt]
  · rw [hspans, h.spans, Past.opened_snoc]

/-- A setup that was built joins the others. -/
theorem of_built (h : Standing past s) (hconfig : t.config?.isSome = true)
    (hfailure : t.failure = none) {setup : Setup} (hfresh : setup.Fresh)
    (hchannels : setup.channels = t.channels) :
    Standing (past ++ [t])
      { s with
        setups := s.setups ++ [setup]
        installed := s.installed.or (if t.configured then some s.setups.length else none) } := by
  have hbuilt : t.built = true := by rw [Taken.built, hconfig, hfailure]; rfl
  obtain ⟨hended, hshuts, hnest⟩ := Taken.idle_of_config hconfig
  have hsame : ∀ k, Past.endedThrough (past ++ [t]) k = Past.endedThrough past k ∧
      Past.shutDown (past ++ [t]) k = Past.shutDown past k := by
    intro k
    rw [Past.endedThrough_snoc, Past.shutDown_snoc, hended, hshuts]
    exact ⟨List.append_nil _, Bool.or_false _⟩
  refine ⟨?_, ?_, ?_, ?_, ?_⟩
  · rw [List.length_append, h.size, Past.builds_snoc, hbuilt, List.length_append]
    rfl
  · intro k hk
    rw [(hsame k).1, (hsame k).2, Past.owned_snoc_of_built hbuilt, ← h.size]
    -- the old setups stay where they are, and the new one comes after them
    rcases Nat.lt_or_ge k s.setups.length with hlt | hge
    · rw [if_neg (Nat.ne_of_lt hlt)]
      obtain ⟨old, hold, hget⟩ := h.setups k hlt
      exact ⟨old, hold, by rw [List.getElem?_append_left hlt, hget]⟩
    · obtain rfl : k = s.setups.length := by
        rw [List.length_append, List.length_singleton] at hk
        omega
      obtain ⟨hspans, hshut⟩ := h.unborn _ (Nat.le_refl _)
      refine ⟨setup, ?_, ?_⟩
      · rw [if_pos rfl, hchannels]
      · rw [hspans, hshut, hfresh]
        simp
  · intro k hk
    rw [(hsame k).1, (hsame k).2]
    rw [List.length_append] at hk
    exact h.unborn k (by omega)
  · rw [Past.firstConfigured_snoc_of_built hbuilt, h.installed, h.size]
  · rw [Past.opened_snoc, hnest, h.spans]

/-- A setup that a step leaves alone. -/
theorem alone (h : Standing past s) {k : Nat} (hk : k < s.setups.length)
    (hsame : s'.setups[k]? = s.setups[k]?) (hended : t.ended k = none)
    (hshuts : t.shuts k = false) :
    ∃ setup : Setup, setup.channels = Past.owned past k ∧
      s'.setups[k]? = some (setup.after (Past.endedThrough past k ++ (t.ended k).toList)
        (Past.shutDown past k || t.shuts k)) := by
  obtain ⟨setup, hchannels, hsetup⟩ := h.setups k hk
  exact ⟨setup, hchannels, by rw [hsame, hsetup, hended, hshuts]; simp⟩

/-- A span is opened. -/
theorem opening (h : Standing past s) (host : Host) (k : Option Nat) (name : String)
    (tracer : Option String) (j : Journal) :
    ∃ s', (s.step host (.start k name tracer)).run j = (.ok (s', none), j) ∧
      Standing (past ++ [⟨s, .start k name tracer, none, []⟩]) s' := by
  refine ⟨s.start k name tracer, rfl, h.of_plain rfl rfl rfl rfl rfl ?_⟩
  intro i hi
  exact h.alone hi rfl rfl rfl

/-- There is no span to end. -/
theorem ending_nil (h : Standing past s) (host : Host) (hs : s.spans = []) (j : Journal) :
    (s.step host .finish).run j = (.ok (s, none), j) ∧
      Standing (past ++ [⟨s, .finish, none, []⟩]) s := by
  refine ⟨Session.run_finish_nil host hs j, h.of_plain rfl rfl rfl rfl ?_ ?_⟩
  · rw [hs]
    rfl
  · intro i hi
    exact h.alone hi rfl (by simp [Taken.ended, hs]) rfl

/-- The span that ends was opened through a setup that was built. -/
theorem ending_through (h : Standing past s) (host : Host) {o : OpenSpan} {rest : List OpenSpan}
    (hs : s.spans = o :: rest) {k : Nat} (ho : o.setup = some k) (hk : k < s.setups.length)
    {es : List Event}
    (hes : es = Channel.handOvers (Channel.passes host (Past.shutDown past k)) o.span
      (Past.owned past k))
    (j : Journal) :
    ∃ s', (s.step host .finish).run j = (.ok (s', none), j.extend es []) ∧
      Standing (past ++ [⟨s, .finish, none, es⟩]) s' := by
  obtain ⟨setup, hchannels, hsetup⟩ := h.setups k hk
  have hrun := Session.run_finish host hs ho hsetup j
  rw [hchannels, ← hes] at hrun
  have hended : ∀ i, Taken.ended i ⟨s, .finish, none, es⟩
      = if i = k then some o.span else none := by
    intro i
    simp only [Taken.ended, hs, ho, Option.some.injEq]
    by_cases hik : i = k
    · rw [if_pos hik, if_pos ⟨hik.symm, hik ▸ hk⟩]
    · rw [if_neg hik, if_neg fun hc => hik hc.1.symm]
  refine ⟨_, hrun, h.of_plain rfl rfl List.length_set rfl ?_ ?_⟩
  · rw [hs]
    rfl
  · -- only the setup of the span is another one afterwards
    intro i hi
    by_cases hik : i = k
    · subst hik
      refine ⟨setup, hchannels, ?_⟩
      rw [hended, if_pos rfl]
      simp [hi, Taken.shuts]
    · refine h.alone hi ?_ ?_ rfl
      · exact List.getElem?_set_ne (Ne.symm hik)
      · rw [hended, if_neg hik]

/-- The span that ends was opened through no setup that was built. -/
theorem ending_lost (h : Standing past s) (host : Host) {o : OpenSpan} {rest : List OpenSpan}
    (hs : s.spans = o :: rest) (ho : ∀ k, o.setup = some k → s.setups.length ≤ k) (j : Journal) :
    ∃ s', (s.step host .finish).run j = (.ok (s', none), j) ∧
      Standing (past ++ [⟨s, .finish, none, []⟩]) s' := by
  have hlost : ∀ k, o.setup = some k → s.setups[k]? = none :=
    fun k hk => List.getElem?_eq_none (ho k hk)
  refine ⟨_, Session.run_finish_lost host hs hlost j, h.of_plain rfl rfl rfl rfl ?_ ?_⟩
  · rw [hs]
    rfl
  · intro i hi
    refine h.alone hi rfl ?_ rfl
    simp only [Taken.ended, hs]
    exact if_neg fun hc => Nat.not_lt.mpr (ho i hc.1) hc.2

/-- A span ends. -/
theorem ending (h : Standing past s) (host : Host) (j : Journal) :
    ∃ s', (s.step host .finish).run j
        = (.ok (s', none), j.extend (Past.effect host past .finish) []) ∧
      Standing (past ++ [⟨s, .finish, none, Past.effect host past .finish⟩]) s' := by
  rw [Past.effect, ← h.spans]
  cases hs : s.spans with
  | nil =>
    obtain ⟨hrun, hnext⟩ := h.ending_nil host hs j
    exact ⟨s, by rw [hrun, Journal.extend_nil], hnext⟩
  | cons o rest =>
    cases ho : o.setup with
    | none =>
      obtain ⟨s', hrun, hnext⟩ := h.ending_lost host hs (by simp [ho]) j
      simp only [ho, Option.elim_none]
      exact ⟨s', by rw [hrun, Journal.extend_nil], hnext⟩
    | some k =>
      simp only [ho, Option.elim_some]
      -- a span may name a setup that comes into being only later
      rcases Nat.lt_or_ge k s.setups.length with hlt | hge
      · exact h.ending_through host hs ho hlt rfl j
      · have hle : ∀ i, o.setup = some i → s.setups.length ≤ i := by
          intro i hi
          rw [ho] at hi
          exact Option.some.inj hi ▸ hge
        obtain ⟨s', hrun, hnext⟩ := h.ending_lost host hs hle j
        rw [h.owned_of_length_le hge]
        exact ⟨s', by rw [hrun]; exact congrArg _ (Journal.extend_nil j).symm, hnext⟩

/-- A setup is shut down. -/
theorem closing (h : Standing past s) (host : Host) (k : Nat) (j : Journal) :
    ∃ s' failure rs, (s.step host (.shutdown k)).run j
        = (.ok (s', failure), j.extend (Past.effect host past (.shutdown k)) rs) ∧
      Standing (past ++ [⟨s, .shutdown k, failure, Past.effect host past (.shutdown k)⟩]) s' := by
  generalize hes : Past.effect host past (.shutdown k) = es
  rw [Past.effect] at hes
  rcases Nat.lt_or_ge k s.setups.length with hlt | hge
  · obtain ⟨setup, hchannels, hsetup⟩ := h.setups k hlt
    obtain ⟨failure, rs, hrun⟩ := Session.run_shutdown host hsetup j
    rw [hchannels, hes] at hrun
    have hshuts : ∀ i, Taken.shuts i ⟨s, .shutdown k, failure, es⟩ = decide (i = k) := by
      intro i
      simp only [Taken.shuts, decide_eq_decide]
      exact ⟨fun hc => hc.1.symm, fun hik => ⟨hik.symm, hik ▸ hlt⟩⟩
    refine ⟨_, failure, rs, hrun, h.of_plain rfl rfl List.length_set rfl rfl ?_⟩
    intro i hi
    by_cases hik : i = k
    · subst hik
      refine ⟨setup, hchannels, ?_⟩
      rw [hshuts, decide_eq_true rfl, Bool.or_true]
      exact List.getElem?_set_self hi
    · refine h.alone hi ?_ rfl ?_
      · exact List.getElem?_set_ne (Ne.symm hik)
      · rw [hshuts, decide_eq_false hik]
  · -- there is no such setup yet, and nothing is recorded for it
    obtain rfl : es = [] := by
      rw [← hes, h.owned_of_length_le hge, (h.unborn k hge).2]
      rfl
    refine ⟨s, none, [], ?_, h.of_plain rfl rfl rfl rfl rfl ?_⟩
    · rw [Session.run_shutdown_none host (List.getElem?_eq_none hge), Journal.extend_nil]
    · intro i hi
      refine h.alone hi rfl rfl ?_
      exact decide_eq_false fun hc => Nat.not_lt.mpr hge (hc.1 ▸ hi)

/-- A setup was not built. -/
theorem of_failed (h : Standing past s) (hbefore : t.before = s)
    (hconfig : t.config?.isSome = true) (hfailure : t.failure.isSome = true) :
    Standing (past ++ [t]) s := by
  obtain ⟨hended, hshuts, hnest⟩ := Taken.idle_of_config hconfig
  refine h.of_plain hbefore ?_ rfl rfl (hnest _).symm ?_
  · rw [Taken.built, ← Option.not_isSome, hfailure]
    exact Bool.and_false _
  · intro k hk
    exact h.alone hk rfl (hended k) (hshuts k)

end Standing

/-! ## §3. One step. -/

/-- What a step did, when `n` was the next number before. -/
inductive StepOutcome (host : Host) (past : List Taken) (n : Nat) (t : Taken) : Prop where
  /-- It did what follows from the history. -/
  | plain (hconfig : t.config? = none) (h : t.events = Past.effect host past t.step)
  /-- It built a setup with exporters of its own. -/
  | built (hbuilt : t.built = true) (hidle : ∀ k, t.shuts k = false)
      (hwired : Wired t.entries t.events t.channels)
      (h : Ledger.Leaves n t.events (t.channels.map Channel.id))
  /-- It did not build the setup that it was to build. -/
  | failed (hconfig : t.config?.isSome = true) (hbuilt : t.built = false)
      (hidle : ∀ k, t.shuts k = false) {left : List Nat} (h : Ledger.Leaves n t.events left)

namespace Session

variable {host : Host} {config : Option Config} {resource : Option Resource}
  {r : Except Failure Setup} {j j' : Journal}

theorem run_create (s : Session) (h : (Setup.build host config resource).run j = (r, j')) :
    (s.step host (.create config resource)).run j
      = (.ok (match r with
          | .ok setup => ({ s with setups := s.setups ++ [setup] }, none)
          | .error f => (s, some f)), j') := by
  cases r <;> simp [step, create, Act.run_bind, h, settle]

theorem run_configure (s : Session) (h : (Setup.build host config none).run j = (r, j')) :
    (s.step host (.configure config)).run j
      = (.ok (match r with
          | .ok setup =>
            ({ s with
              setups := s.setups ++ [setup]
              installed := s.installed.or (some s.setups.length) }, none)
          | .error f => (s, some f)), j') := by
  cases r <;> simp [step, configure, create, install, Act.run_bind, h, settle]

end Session

namespace Standing

variable {past : List Taken} {s : Session}

/-- A step that builds a setup, or fails to. -/
theorem building (h : Standing past s) (host : Host) (st : SessionStep) {config : Option Config}
    (hconfig : ∀ f es, (Taken.mk s st f es).config? = some config) {n : Nat}
    {r : Except Failure Setup} {es : List Event}
    (ho : Setup.BuildOutcome n (Setup.entries config) r es) :
    match r with
    | .ok setup =>
      Standing (past ++ [⟨s, st, none, es⟩])
        { s with
          setups := s.setups ++ [setup]
          installed := s.installed.or
            (if (Taken.mk s st none es).configured then some s.setups.length else none) } ∧
        StepOutcome host past n ⟨s, st, none, es⟩
    | .error f =>
      Standing (past ++ [⟨s, st, some f, es⟩]) s ∧ StepOutcome host past n ⟨s, st, some f, es⟩ := by
  cases ho with
  | @built setup es hserves =>
    have hsome : (Taken.mk s st none es).config?.isSome = true := by rw [hconfig]; rfl
    have hentries : (Taken.mk s st none es).entries = Setup.entries config := by
      rw [Taken.entries, hconfig]
      rfl
    have hchannels : setup.channels = (Taken.mk s st none es).channels := by
      rw [Taken.channels, hentries]
      exact hserves.wired.channels_eq.symm
    refine ⟨h.of_built hsome rfl hserves.fresh hchannels, .built ?_ ?_ ?_ ?_⟩
    · rw [Taken.built, hsome]
      rfl
    · exact (Taken.idle_of_config hsome).2.1
    · rw [← hchannels, hentries]
      exact hserves.wired
    · rw [← hchannels]
      exact hserves.leaves
  | @failed f es left hleaves =>
    have hsome : (Taken.mk s st (some f) es).config?.isSome = true := by rw [hconfig]; rfl
    refine ⟨h.of_failed rfl hsome rfl, .failed hsome ?_ ?_ hleaves⟩
    · rw [Taken.built]
      exact Bool.and_false _
    · exact (Taken.idle_of_config hsome).2.1

/-- **One step preserves what a history says about the session**, and
    it has one of its outcomes. -/
theorem step (h : Standing past s) (host : Host) (st : SessionStep) (j : Journal) :
    ∃ s' failure es rs, (s.step host st).run j = (.ok (s', failure), j.extend es rs) ∧
      Standing (past ++ [⟨s, st, failure, es⟩]) s' ∧
      StepOutcome host past j.created ⟨s, st, failure, es⟩ := by
  cases st with
  | create config resource =>
    -- what is built here is never installed
    obtain ⟨r, es, rs, hbuild, ho⟩ := Setup.run_build host config resource j
    have hnext := h.building host (.create config resource) (fun _ _ => rfl) ho
    rw [Session.run_create s hbuild]
    cases r with
    | ok setup =>
      rw [show (Taken.mk s (.create config resource) none es).configured = false from rfl] at hnext
      exact ⟨_, none, es, rs, rfl, by simpa using hnext.1, hnext.2⟩
    | error f => exact ⟨_, some f, es, rs, rfl, hnext⟩
  | configure config =>
    obtain ⟨r, es, rs, hbuild, ho⟩ := Setup.run_build host config none j
    have hnext := h.building host (.configure config) (fun _ _ => rfl) ho
    rw [Session.run_configure s hbuild]
    cases r with
    | ok setup => exact ⟨_, none, es, rs, rfl, hnext⟩
    | error f => exact ⟨_, some f, es, rs, rfl, hnext⟩
  | start k name tracer =>
    obtain ⟨s', hrun, hnext⟩ := h.opening host k name tracer j
    exact ⟨s', none, [], [], by rw [hrun, Journal.extend_nil], hnext, .plain rfl rfl⟩
  | finish =>
    obtain ⟨s', hrun, hnext⟩ := h.ending host j
    exact ⟨s', none, _, [], hrun, hnext, .plain rfl rfl⟩
  | shutdown k =>
    obtain ⟨s', failure, rs, hrun, hnext⟩ := h.closing host k j
    exact ⟨s', failure, _, rs, hrun, hnext, .plain rfl rfl⟩

end Standing

end SpanPipeline
