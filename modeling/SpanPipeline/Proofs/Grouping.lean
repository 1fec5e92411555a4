/-
  SpanPipeline.Proofs.Grouping
  ────────────────────────────
  Failures that count as the same.

  Two of the pipeline's failures are the same when they are of one
  kind and have the same messages.  A hash takes the name of the kind
  in its place; the names are as distinct as the kinds, so equality
  and hashes look at the same things.

  How an aggregate groups its failures makes no difference.  Some of
  its children may be put into an aggregate of their own, or taken
  out of one, and aggregates without children may come and go, at any
  depth: all of that keeps the leaves in their order, and it is all
  that keeps them so.

  Main results:
    * `same_iff_hashed?` — equality and hashes look at the same
      things.
    * `regroupings_iff` — aggregates are regroupings of each other
      when they have the same leaves.
    * `same_but_for_grouping` — equality is an equivalence that
      agrees with hashes and ignores the grouping.
-/
import SpanPipeline.Proofs.Leaves
import Mathlib.Logic.Relation

namespace SpanPipeline

/-! ## §1. Equality and hashes. -/

theorem FailureKind.className_injective : Function.Injective className := by
  intro k l h
  cases k <;> cases l <;> simp_all [className]

/-- One of the pipeline's own failures. -/
abbrev OwnFailure := {f : Failure // f.isOwn = true}

namespace Failure

/-- Hashes are equal, however a name and messages are hashed. -/
def SameHash (a b : Failure) : Prop :=
  ∀ (α : Type) (hash : String × List String → α), a.hashed?.map hash = b.hashed?.map hash

theorem exists_kind (a : OwnFailure) : ∃ k, a.val.kind? = some k :=
  Option.isSome_iff_exists.mp a.property

/-- The pipeline's failures are the same when their kinds and their
    messages are. -/
theorem same_iff_kind_messages (a b : OwnFailure) :
    a.val.same b.val = true ↔ a.val.kind? = b.val.kind? ∧ a.val.messages = b.val.messages := by
  rw [same_iff]
  obtain ⟨k, hk⟩ := exists_kind a
  constructor
  · rintro ⟨l, ha, hb, hm⟩
    exact ⟨ha.trans hb.symm, hm⟩
  · rintro ⟨hkind, hm⟩
    exact ⟨k, hk, hkind ▸ hk, hm⟩

/-- **Equality and hashes look at the same things.** -/
theorem same_iff_hashed? (a b : OwnFailure) :
    a.val.same b.val = true ↔ a.val.hashed? = b.val.hashed? := by
  obtain ⟨k, hk⟩ := exists_kind a
  obtain ⟨l, hl⟩ := exists_kind b
  rw [same_iff_kind_messages]
  simp [hashed?, hk, hl, FailureKind.className_injective.eq_iff]

theorem sameHash_of_same (a b : OwnFailure) (h : a.val.same b.val = true) :
    a.val.SameHash b.val := by
  intro α hash
  rw [(same_iff_hashed? a b).mp h]

theorem same_equivalence : Equivalence fun a b : OwnFailure => a.val.same b.val = true where
  refl a := (same_iff_hashed? a a).mpr rfl
  symm {a b} h := (same_iff_hashed? b a).mpr ((same_iff_hashed? a b).mp h).symm
  trans {a b c} h g :=
    (same_iff_hashed? a c).mpr (((same_iff_hashed? a b).mp h).trans ((same_iff_hashed? b c).mp g))

/-! ## §2. Regrouping. -/

/-- An aggregate is another one but for the grouping at one place. -/
inductive Regrouped : Failure → Failure → Prop where
  /-- Some children in a row are put into an aggregate. -/
  | group (before run after : List Failure) :
      Regrouped (.aggregate (before ++ run ++ after))
        (.aggregate (before ++ .aggregate run :: after))
  /-- An aggregate is replaced by its children. -/
  | ungroup (before run after : List Failure) :
      Regrouped (.aggregate (before ++ .aggregate run :: after))
        (.aggregate (before ++ run ++ after))
  /-- An aggregate without children comes in. -/
  | insert (before after : List Failure) :
      Regrouped (.aggregate (before ++ after)) (.aggregate (before ++ .aggregate [] :: after))
  /-- An aggregate without children goes. -/
  | remove (before after : List Failure) :
      Regrouped (.aggregate (before ++ .aggregate [] :: after)) (.aggregate (before ++ after))
  /-- The place is within a child. -/
  | within (before after : List Failure) {c d : Failure} (h : Regrouped c d) :
      Regrouped (.aggregate (before ++ c :: after)) (.aggregate (before ++ d :: after))

/-- Any number of regroupings, one after the other. -/
abbrev Regroupings : Failure → Failure → Prop := Relation.ReflTransGen Regrouped

theorem leavesOf_append (cs ds : List Failure) :
    leavesOf (cs ++ ds) = leavesOf cs ++ leavesOf ds := by
  induction cs with
  | nil => rfl
  | cons c cs ih => rw [List.cons_append, leavesOf, leavesOf, ih, List.append_assoc]

theorem leaves_aggregate_append (before after : List Failure) (c : Failure) :
    (aggregate (before ++ c :: after)).leaves = leavesOf before ++ (c.leaves ++ leavesOf after) :=
  leavesOf_append before (c :: after)

/-- Regrouping keeps the leaves. -/
theorem Regrouped.leaves_eq {a b : Failure} (h : Regrouped a b) : a.leaves = b.leaves := by
  have hrun : ∀ before run after : List Failure,
      (aggregate (before ++ run ++ after)).leaves
        = (aggregate (before ++ .aggregate run :: after)).leaves := by
    intro before run after
    rw [leaves_aggregate_append]
    show leavesOf (before ++ run ++ after) = leavesOf before ++ (leavesOf run ++ leavesOf after)
    rw [leavesOf_append, leavesOf_append, List.append_assoc]
  have hnone : ∀ before after : List Failure,
      (aggregate (before ++ after)).leaves
        = (aggregate (before ++ .aggregate [] :: after)).leaves := by
    intro before after
    rw [← hrun, List.append_nil]
  induction h with
  | group before run after => exact hrun before run after
  | ungroup before run after => exact (hrun before run after).symm
  | insert before after => exact hnone before after
  | remove before after => exact (hnone before after).symm
  | within before after h ih => rw [leaves_aggregate_append, leaves_aggregate_append, ih]

theorem Regrouped.symm {a b : Failure} (h : Regrouped a b) : Regrouped b a := by
  induction h with
  | group before run after => exact .ungroup before run after
  | ungroup before run after => exact .group before run after
  | insert before after => exact .remove before after
  | remove before after => exact .insert before after
  | within before after h ih => exact .within before after ih

instance : Std.Symm Regrouped := ⟨fun _ _ => Regrouped.symm⟩

mutual
/-- A child can be replaced by its leaves. -/
theorem regroupings_leaves (before after : List Failure) : (c : Failure) →
    Regroupings (.aggregate (before ++ c :: after)) (.aggregate (before ++ c.leaves ++ after))
  | .aggregate cs =>
    .head (.ungroup before cs after) (regroupings_leavesOf before after cs)
  | .general _ | .configuration _ | .endpoint _ _ | .credentials _ | .foreign _ => by
    rw [leaves, List.append_assoc]
    exact .refl

/-- So can children in a row. -/
theorem regroupings_leavesOf (before after : List Failure) : (cs : List Failure) →
    Regroupings (.aggregate (before ++ cs ++ after)) (.aggregate (before ++ leavesOf cs ++ after))
  | [] => .refl
  | c :: cs => by
    have hc := regroupings_leaves before (cs ++ after) c
    have hcs := regroupings_leavesOf (before ++ c.leaves) after cs
    rw [List.append_assoc] at hcs
    rw [leavesOf]
    simpa using hc.trans (by simpa using hcs)
end

/-- Any number of regroupings keep the leaves. -/
theorem leaves_of_regroupings {a b : Failure} (h : Regroupings a b) : a.leaves = b.leaves := by
  induction h with
  | refl => rfl
  | tail _ hstep ih => exact ih.trans hstep.leaves_eq

/-- An aggregate is a regrouping of its leaves. -/
theorem regroupings_flat (cs : List Failure) :
    Regroupings (.aggregate cs) (.aggregate (aggregate cs).leaves) := by
  have h := regroupings_leavesOf [] [] cs
  rwa [List.append_nil, List.append_nil] at h

/-- **Aggregates are regroupings of each other when they have the same
    leaves**, and only then. -/
theorem regroupings_iff (cs ds : List Failure) :
    Regroupings (.aggregate cs) (.aggregate ds)
      ↔ (aggregate cs).leaves = (aggregate ds).leaves := by
  constructor
  · exact leaves_of_regroupings
  · intro h
    have hto := regroupings_flat cs
    have hback : Regroupings (.aggregate (aggregate ds).leaves) (.aggregate ds) :=
      Std.Symm.symm _ _ (regroupings_flat ds)
    rw [h] at hto
    exact hto.trans hback

/-! ## §3. Equality up to grouping. -/

/-- **Failures are the same but for their grouping.**  Over the
    pipeline's failures equality is an equivalence that is decided by
    kinds and messages.  It implies equal hashes, however pairs of a
    name and messages are hashed.  Regrouping an aggregate gives the
    same aggregate, moving its children does when that leaves the
    messages as they are. -/
theorem same_but_for_grouping :
    (Equivalence fun a b : OwnFailure => a.val.same b.val = true) ∧
    (∀ a b : OwnFailure, a.val.same b.val = true ↔
      a.val.kind? = b.val.kind? ∧ a.val.messages = b.val.messages) ∧
    (∀ a b : OwnFailure, a.val.same b.val = true → a.val.SameHash b.val) ∧
    (∀ cs ds, Regroupings (.aggregate cs) (.aggregate ds) →
      (aggregate cs).same (.aggregate ds) = true ∧ (aggregate cs).SameHash (.aggregate ds)) ∧
    ∀ cs ds : List Failure, cs.Perm ds →
      ((aggregate cs).same (.aggregate ds) = true ↔
        (aggregate cs).messages = (aggregate ds).messages) := by
  have haggregates : ∀ cs ds, (aggregate cs).same (.aggregate ds) = true ↔
      (aggregate cs).messages = (aggregate ds).messages := by
    intro cs ds
    rw [same_iff_kind_messages ⟨.aggregate cs, rfl⟩ ⟨.aggregate ds, rfl⟩]
    exact and_iff_right rfl
  refine ⟨same_equivalence, same_iff_kind_messages, sameHash_of_same, ?_,
    fun cs ds _ => haggregates cs ds⟩
  intro cs ds h
  have hsame : (aggregate cs).same (.aggregate ds) = true := by
    rw [haggregates, messages_eq_map_leaves, messages_eq_map_leaves, (regroupings_iff cs ds).mp h]
  exact ⟨hsame, sameHash_of_same ⟨.aggregate cs, rfl⟩ ⟨.aggregate ds, rfl⟩ hsame⟩

/-- An empty aggregate within the inner one of the sample, which is
    then replaced by its children; and two failures of one text that
    change places. -/
theorem same_but_for_grouping_nested :
    (Sample.nested.same (.aggregate
        [.configuration "a", .aggregate [], .foreign (.runtime "b"), .general "c"]) = true ∧
      Sample.nested.SameHash (.aggregate
        [.configuration "a", .aggregate [], .foreign (.runtime "b"), .general "c"])) ∧
      (aggregate [.general "x", .foreign (.runtime "x")]).same
        (.aggregate [.foreign (.runtime "x"), .general "x"]) = true ∧
      (general "x").SameHash (.general "x") := by
  obtain ⟨-, -, hhash, hgroup, hperm⟩ := same_but_for_grouping
  have hinner : Regrouped (.aggregate [.configuration "a", .foreign (.runtime "b")])
      (.aggregate [.configuration "a", .aggregate [], .foreign (.runtime "b")]) :=
    .insert [.configuration "a"] [.foreign (.runtime "b")]
  refine ⟨hgroup _ _ ?_, (hperm _ _ (.swap _ _ [])).mpr rfl,
    hhash ⟨.general "x", rfl⟩ ⟨.general "x", rfl⟩ rfl⟩
  exact .tail (.single (.within [] [.general "c"] hinner)) (.ungroup [] _ [.general "c"])

end Failure

end SpanPipeline
