/-
  SpanPipeline.Proofs.Leaves
  ──────────────────────────
  The text of a failure, line by line.

  An aggregate is read in two ways: as a text, joined from the texts
  of its children, and as a list of messages, with the lists of its
  children one after the other.  The list always has one message for
  each leaf.  The text has the same messages as its lines, unless an
  aggregate somewhere in the tree has no children: it adds nothing to
  the list, but a line without text to its neighbours.

  The pipeline never makes such an aggregate.  One can come in from
  outside only, as the failure that a shutdown ends with.

  Main results:
    * `messages_eq_map_leaves` — the messages are the texts of the
      leaves.
    * `Filled.text_eq` — the text of a failure without empty
      aggregates joins its messages.
    * `Pipeline.filled_of_resolve`, `filled_of_calls` — the failures
      of a pipeline and of its shutdown have none.
    * `texts_agree` — the two readings agree.
-/
import SpanPipeline.Proofs.Report
import SpanPipeline.Proofs.Shutdown

namespace SpanPipeline

namespace Failure

/-! ## §1. Leaves. -/

mutual
/-- The leaves of a failure, from left to right. -/
def leaves : Failure → List Failure
  | .aggregate cs => leavesOf cs
  | .general m => [.general m]
  | .configuration m => [.configuration m]
  | .endpoint url reason => [.endpoint url reason]
  | .credentials cause => [.credentials cause]
  | .foreign e => [.foreign e]

/-- The leaves of several failures, one after the other. -/
def leavesOf : List Failure → List Failure
  | [] => []
  | c :: cs => leaves c ++ leavesOf cs
end

mutual
/-- **The messages of a failure are the texts of its leaves.** -/
theorem messages_eq_map_leaves : (f : Failure) → f.messages = f.leaves.map text
  | .aggregate cs => messagesOf_eq_map_leavesOf cs
  | .general _ | .configuration _ | .endpoint _ _ | .credentials _ | .foreign _ => rfl

theorem messagesOf_eq_map_leavesOf : (cs : List Failure) →
    messagesOf cs = (leavesOf cs).map text
  | [] => rfl
  | c :: cs => by
    rw [messagesOf, leavesOf, List.map_append, messages_eq_map_leaves c,
      messagesOf_eq_map_leavesOf cs]
end

mutual
theorem leaf_of_mem_leaves {l : Failure} : (f : Failure) → l ∈ f.leaves →
    l.kind? ≠ some .aggregate
  | .aggregate cs, h => leaf_of_mem_leavesOf cs h
  | .general _, h | .configuration _, h | .endpoint _ _, h | .credentials _, h
  | .foreign _, h => by
    rw [List.mem_singleton.mp h]
    simp [kind?]

theorem leaf_of_mem_leavesOf {l : Failure} : (cs : List Failure) → l ∈ leavesOf cs →
    l.kind? ≠ some .aggregate
  | [], h => nomatch h
  | c :: cs, h => by
    rcases List.mem_append.mp h with h | h
    · exact leaf_of_mem_leaves c h
    · exact leaf_of_mem_leavesOf cs h
end

/-! ## §2. Lines. -/

/-- Lines joined in groups are joined as they are, if there is no
    group without lines. -/
theorem intercalate_flatten (separator : String) {groups : List (List String)}
    (h : ∀ g ∈ groups, g ≠ []) :
    separator.intercalate (groups.map separator.intercalate)
      = separator.intercalate groups.flatten := by
  induction groups with
  | nil => rfl
  | cons g gs ih =>
    by_cases hnil : gs = []
    · subst hnil
      simp
    · -- some line follows, so a separator stands before it
      obtain ⟨g', hg'⟩ := List.exists_mem_of_ne_nil gs hnil
      have hne : gs.flatten ≠ [] := by
        intro hflat
        exact h g' (List.mem_cons_of_mem g hg') (List.flatten_eq_nil_iff.mp hflat g' hg')
      rw [List.map_cons, String.intercalate_cons_of_ne_nil (by simpa using hnil),
        ih fun g' hg' => h g' (List.mem_cons_of_mem g hg'), List.flatten_cons,
        String.intercalate_append_of_ne_nil (h g List.mem_cons_self) hne]

/-- No aggregate of the tree is without children. -/
inductive Filled : Failure → Prop where
  | leaf {f : Failure} (h : f.kind? ≠ some .aggregate) : Filled f
  | aggregate {cs : List Failure} (hne : cs ≠ []) (h : ∀ c ∈ cs, Filled c) :
      Filled (.aggregate cs)

namespace Filled

variable {f : Failure}

theorem messages_ne_nil (h : f.Filled) : f.messages ≠ [] := by
  induction h with
  | leaf h => simp [messages_leaf h]
  | @aggregate cs hne h ih =>
    obtain ⟨c, hc⟩ := List.exists_mem_of_ne_nil cs hne
    rw [messages_aggregate]
    intro hnil
    exact ih c hc (List.flatMap_eq_nil_iff.mp hnil c hc)

/-- **Without empty aggregates the text joins the messages.** -/
theorem text_eq (h : f.Filled) : f.text = String.intercalate "\n" f.messages := by
  induction h with
  | leaf h => rw [messages_leaf h, String.intercalate_singleton]
  | @aggregate cs hne h ih =>
    have hmap : cs.map text = (cs.map messages).map (String.intercalate "\n") := by
      rw [List.map_map]
      exact List.map_congr_left ih
    rw [text_aggregate, hmap, messages_aggregate, List.flatMap_def]
    apply intercalate_flatten
    intro g hg
    obtain ⟨c, hc, rfl⟩ := List.mem_map.mp hg
    exact (h c hc).messages_ne_nil

theorem of_leaves {cs : List Failure} (hne : cs ≠ []) (h : ∀ c ∈ cs, c.kind? ≠ some .aggregate) :
    (Failure.aggregate cs).Filled :=
  .aggregate hne fun c hc => .leaf (h c hc)

theorem of_foreign (h : f.isOwn = false) : f.Filled := by
  apply leaf
  intro hk
  simp [isOwn, hk] at h

end Filled

/-- An aggregate without children is seen in a text, not in the
    messages. -/
example : (aggregate [.aggregate [], .general "a"]).text = "\na"
    ∧ (aggregate [.aggregate [], .general "a"]).messages = ["a"] := by decide

/-- A failure reads the same as a text and as a list: the text joins
    the messages, which are the texts of the leaves. -/
structure Agrees (f : Failure) : Prop where
  lines : f.text = String.intercalate "\n" f.messages
  messages : f.messages = f.leaves.map text
  leaves : ∀ l ∈ f.leaves, l.kind? ≠ some .aggregate

theorem Filled.agrees {f : Failure} (h : f.Filled) : f.Agrees :=
  ⟨h.text_eq, messages_eq_map_leaves f, fun _ hl => leaf_of_mem_leaves f hl⟩

end Failure

/-! ## §3. The failures of a pipeline. -/

/-- No shutdown of an exporter ends with a failure that has an empty
    aggregate in it. -/
def Host.RefusesFilled (host : Host) : Prop := ∀ id f, host.refusal id = some f → f.Filled

section Resolving

variable {host : Host} (hr : host.RefusesFilled)
include hr

theorem EntryOutcome.filled {n : Nat} {c : ProcessorConfig} {f : Failure} {es : List Event}
    (h : EntryOutcome host n c (.error f) es) : f.Filled := by
  cases h with
  | faulty hf hn hs => exact .of_leaves hf fun g hg => c.leaf_of_fault hg
  | refused hf hrefusal hid hs => exact hr _ f hrefusal
  | escaped hf he hp hown hs => exact .of_foreign hown
  | exceeded he hf hx => exact .of_foreign rfl

theorem Processed.filled {n : Nat} {cs : List ProcessorConfig} {ps : List Processor}
    {fs : List Failure} {es : List Event} (h : Processed host n cs ps fs es) :
    ∀ f ∈ fs, f.Filled := by
  induction h with
  | nil n => simp
  | ready h rest ih => exact ih
  | failed h hown rest ih => exact List.forall_mem_cons.mpr ⟨h.filled hr, ih⟩

theorem Pipeline.filled_combined {fs : List Failure} (ps : List Processor) (hne : fs ≠ [])
    (h : ∀ f ∈ fs, f.Filled) : (combined host fs ps).Filled := by
  refine .aggregate (by simp [hne]) ?_
  intro f hf
  rcases List.mem_append.mp hf with hf | hf
  · exact h f hf
  · obtain ⟨p, -, hp⟩ := List.mem_filterMap.mp hf
    exact hr _ f hp

/-- **The failures of a resolution have no empty aggregates**, both
    the one it returns and the one it ends with. -/
theorem Pipeline.filled_of_resolve {config : Option PipelineConfig} {j j' : Journal}
    {r : Except Failure Resolution} (h : (resolve host config).run j = (r, j')) :
    (∀ f, r = .error f → f.Filled) ∧
      ∀ res f, r = .ok res → res.failure? = some f → f.Filled := by
  refine ⟨?_, ?_⟩
  · rintro f rfl
    obtain ⟨-, -, -, -, -, -, -, -, -, hown⟩ := resolve_error h
    exact .of_foreign hown
  · rintro res f rfl hf
    obtain ⟨es, rs, -, ho⟩ := resolve_ok h
    generalize entries config = cs at ho
    cases ho with
    | inactive => cases hf
    | live hcs hproc hcalm => cases hf
    | failed hne hproc hcalm =>
      cases hf
      exact filled_combined hr _ hne (hproc.filled hr)

end Resolving

/-- **The failures of a shutdown have no empty aggregates**, however
    often it is called. -/
theorem filled_of_calls {cs : List Closing} (h : ∀ c ∈ cs, ∀ f, c.failure = some f → f.Filled)
    {n : Nat} {j : Journal} {p : Except Failure Unit × Journal}
    (hp : p ∈ calls Shutdown.call n { closings := cs } j) {f : Failure} (hf : p.1 = .error f) :
    f.Filled := by
  have hverdict : Closing.verdict cs = .error f → f.Filled := by
    intro hv
    unfold Closing.verdict at hv
    split at hv
    · next hany =>
      cases hv
      refine .aggregate ?_ ?_
      · rw [ne_eq, Closing.filterMap_failure_eq_nil_iff, hany]
        simp
      · intro g hg
        obtain ⟨c, hc, hcg⟩ := List.mem_filterMap.mp hg
        exact h c hc g hcg
    · cases hv
  rw [(calls_eq_onlyFirst rfl (Shutdown.call_of_done (Shutdown.done_call _)) n j :
    calls Shutdown.call n { closings := cs } j = Closing.onlyFirst cs j n)] at hp
  -- the first call fails with the verdict, and the later ones do not fail
  cases n with
  | zero => cases hp
  | succ n =>
    rcases List.mem_cons.mp hp with rfl | hp
    · exact hverdict hf
    · rw [(List.mem_replicate.mp hp).2] at hf
      cases hf

/-! ## §4. Both readings. -/

/-- **The text of a failure and its messages agree**, when there is no
    empty aggregate in it.  So they do for what a pipeline reports or
    ends with, and for what its shutdown ends with, when no shutdown
    of an exporter brings in an empty aggregate. -/
theorem texts_agree :
    (∀ f : Failure, f.Filled → f.Agrees) ∧
    (∀ host : Host, host.RefusesFilled → ∀ config j j' r,
      (Pipeline.resolve host config).run j = (r, j') →
        (∀ f, r = .error f → f.Agrees) ∧
          ∀ res f, r = .ok res → res.failure? = some f → f.Agrees) ∧
    ∀ cs : List Closing, (∀ c ∈ cs, ∀ f, c.failure = some f → f.Filled) →
      ∀ n j, ∀ p ∈ calls Shutdown.call n { closings := cs } j, ∀ f, p.1 = .error f →
        f.Agrees := by
  refine ⟨fun f hf => hf.agrees, ?_, ?_⟩
  · intro host hr config j j' r h
    obtain ⟨herror, hok⟩ := Pipeline.filled_of_resolve hr h
    exact ⟨fun f hf => (herror f hf).agrees, fun res f hres hf => (hok res f hres hf).agrees⟩
  · intro cs h n j p hp f hf
    exact (filled_of_calls h hp hf).agrees

/-- An aggregate within an aggregate. -/
def Sample.nested : Failure :=
  .aggregate [.aggregate [.configuration "a", .foreign (.runtime "b")], .general "c"]

theorem Sample.filled_nested : nested.Filled := by
  have hinner : (Failure.aggregate [.configuration "a", .foreign (.runtime "b")]).Filled :=
    .of_leaves (by simp) (by simp [Failure.kind?])
  have houter : (Failure.general "c").Filled := .leaf (by simp [Failure.kind?])
  exact .aggregate (by simp) (by simp [hinner, houter])

/-- So it is for an aggregate within an aggregate, for the report of
    the sample, and for a shutdown that ends with that aggregate. -/
theorem texts_agree_nested :
    (Sample.nested.text = "a\nb\nc" ∧ Sample.nested.messages = ["a", "b", "c"]) ∧
      (∃ f j', (Pipeline.resolve Sample.host (some Sample.pipeline)).run {} = (.ok (.failed f), j')
        ∧ f.Agrees) ∧
      ∃ f p, p ∈ calls Shutdown.call 2 { closings := [⟨"A", [], some Sample.nested⟩] } {} ∧
        p.1 = .error f ∧ f.Agrees := by
  obtain ⟨hall, hresolve, hcalls⟩ := texts_agree
  have hrefuses : Sample.host.RefusesFilled := by
    intro id f hr
    obtain ⟨-, rfl⟩ : id = 3 ∧ .foreign (.runtime "connection lost") = f := by
      simpa [Sample.host] using hr
    exact .of_foreign rfl
  have hclosings : ∀ c ∈ [(⟨"A", [], some Sample.nested⟩ : Closing)], ∀ f, c.failure = some f →
      f.Filled := by
    intro c hc f hf
    obtain rfl := List.mem_singleton.mp hc
    obtain rfl := Option.some.inj hf
    exact Sample.filled_nested
  refine ⟨?_, ?_, ?_⟩
  · have hnested := hall Sample.nested Sample.filled_nested
    have hmessages : Sample.nested.messages = ["a", "b", "c"] := by
      rw [hnested.messages]
      rfl
    refine ⟨?_, hmessages⟩
    rw [hnested.lines, hmessages]
    rfl
  · obtain ⟨f, j', h⟩ := Sample.resolve_failed
    exact ⟨f, j', h, (hresolve _ hrefuses _ _ _ _ h).2 _ f rfl rfl⟩
  · exact ⟨_, _, List.mem_cons_self, rfl, hcalls _ hclosings 2 {} _ List.mem_cons_self _ rfl⟩

end SpanPipeline
