/-
  SpanPipeline.Proofs.Ledger
  ──────────────────────────
  Which exporters are running.

  A ledger knows the next free number and the exporters that were
  created and not shut down since.  Events are entered one after
  the other; an event that does not fit is refused.  A new exporter
  has to take the next number, and nothing is done to an exporter
  that is not running, least of all a second shutdown.

  Main results:
    * `balance` — over events that fit, what is created is shut
      down or running afterwards.
    * `shutOnce_of_enterAll` — an exporter that is created and not
      running afterwards was shut down once, after its creation.
    * `Leaves.append` — what is left running adds up.
-/
import SpanPipeline.Journal

namespace SpanPipeline

/-- The event creates the exporter of the given number. -/
def Event.creates (id : Nat) : Event → Bool
  | .create k _ => k == id
  | _ => false

theorem Event.countP_creates_pos {id : Nat} {es : List Event} :
    0 < es.countP (Event.creates id) ↔ ∃ spec, .create id spec ∈ es := by
  rw [List.countP_pos_iff]
  constructor
  · rintro ⟨e, he, hc⟩
    cases e with
    | create i spec =>
      obtain rfl : i = id := by simpa [creates] using hc
      exact ⟨spec, he⟩
    | simple i | batch i a | handOver i s | shutdown i => simp [creates] at hc
  · rintro ⟨spec, he⟩
    exact ⟨_, he, by simp [creates]⟩

/-- In the events, an exporter is created once and, after that, shut
    down once. -/
def ShutOnce (id : Nat) (es : List Event) : Prop :=
  ∃ before spec after, es = before ++ .create id spec :: after ∧
    (before ++ after).countP (Event.creates id) = 0 ∧
    .shutdown id ∉ before ∧ after.count (.shutdown id) = 1

/-- The exporters by number: the next free one, and those that are
    running, oldest first. -/
structure Ledger where
  next : Nat
  running : List Nat
  deriving DecidableEq, Repr

namespace Ledger

/-! ## §1. Entering events. -/

/-- The ledger after an event, if the event fits. -/
def enter (l : Ledger) : Event → Option Ledger
  | .create id _ => if id = l.next then some ⟨l.next + 1, l.running ++ [id]⟩ else none
  | .simple id => if id ∈ l.running then some l else none
  | .batch id _ => if id ∈ l.running then some l else none
  | .handOver id _ => if id ∈ l.running then some l else none
  | .shutdown id => if id ∈ l.running then some ⟨l.next, l.running.erase id⟩ else none

/-- The ledger after several events, if they all fit. -/
def enterAll : Ledger → List Event → Option Ledger
  | l, [] => some l
  | l, e :: es => (l.enter e).bind fun l => l.enterAll es

theorem enterAll_append (l : Ledger) (es fs : List Event) :
    l.enterAll (es ++ fs) = (l.enterAll es).bind fun l => l.enterAll fs := by
  induction es generalizing l with
  | nil => rfl
  | cons e es ih =>
    show (l.enter e).bind _ = ((l.enter e).bind _).bind _
    rw [Option.bind_assoc]
    congr
    funext l
    exact ih l

theorem enterAll_cons_eq_some {l m : Ledger} {e : Event} {es : List Event} :
    l.enterAll (e :: es) = some m ↔ ∃ k, l.enter e = some k ∧ k.enterAll es = some m :=
  Option.bind_eq_some_iff

theorem enterAll_append_eq_some {l m : Ledger} {es fs : List Event} :
    l.enterAll (es ++ fs) = some m ↔ ∃ k, l.enterAll es = some k ∧ k.enterAll fs = some m := by
  rw [enterAll_append]
  exact Option.bind_eq_some_iff

/-! ## §2. What one event does, and what several do. -/

theorem next_enter {l m : Ledger} {e : Event} (h : l.enter e = some m) :
    m.next = l.next + if e.isCreate then 1 else 0 := by
  cases e <;> simp only [enter, Option.ite_none_right_eq_some, Option.some.injEq] at h <;>
    obtain ⟨-, rfl⟩ := h <;> simp [Event.isCreate]

theorem next_enterAll {l m : Ledger} {es : List Event} (h : l.enterAll es = some m) :
    m.next = l.next + es.countP Event.isCreate := by
  induction es generalizing l with
  | nil =>
    obtain rfl : l = m := by simpa [enterAll] using h
    rfl
  | cons e es ih =>
    obtain ⟨k, hk, hm⟩ := enterAll_cons_eq_some.mp h
    rw [ih hm, next_enter hk, List.countP_cons]
    omega

/-- A number is given once, and the numbers are given in order. -/
theorem countP_creates {l m : Ledger} {es : List Event} (h : l.enterAll es = some m) (id : Nat) :
    es.countP (Event.creates id) = if l.next ≤ id ∧ id < m.next then 1 else 0 := by
  induction es generalizing l with
  | nil =>
    obtain rfl : l = m := by simpa [enterAll] using h
    rw [if_neg (by omega)]
    rfl
  | cons e es ih =>
    obtain ⟨k, hk, hm⟩ := enterAll_cons_eq_some.mp h
    have hle : k.next ≤ m.next := by rw [next_enterAll hm]; omega
    have hnext := next_enter hk
    rw [List.countP_cons, ih hm]
    cases e with
    | create i spec =>
      simp only [enter, Option.ite_none_right_eq_some] at hk
      simp only [Event.isCreate, if_true] at hnext
      simp only [Event.creates, beq_iff_eq, hk.1]
      -- the number of the event is the first one that the rest does not give
      grind
    | simple i | batch i a | handOver i s | shutdown i =>
      have hsame : k.next = l.next := by simpa [Event.isCreate] using hnext
      simp [Event.creates, hsame]

theorem balance_enter {l m : Ledger} {e : Event} (h : l.enter e = some m) (id : Nat) :
    (if e = .shutdown id then 1 else 0) + m.running.count id
      = (if e.creates id then 1 else 0) + l.running.count id := by
  cases e with
  | create i spec =>
    simp only [enter, Option.ite_none_right_eq_some, Option.some.injEq] at h
    obtain ⟨-, rfl⟩ := h
    simp [Event.creates, List.count_append, List.count_singleton]
    omega
  | shutdown i =>
    simp only [enter, Option.ite_none_right_eq_some, Option.some.injEq] at h
    obtain ⟨hi, rfl⟩ := h
    have hpos : 0 < l.running.count i := List.count_pos_iff.mpr hi
    by_cases hid : i = id
    · subst hid
      simp [Event.creates]
      omega
    · simp [Event.creates, hid, List.count_erase_of_ne (Ne.symm hid)]
  | simple i | batch i a | handOver i s =>
    simp only [enter, Option.ite_none_right_eq_some, Option.some.injEq] at h
    obtain ⟨-, rfl⟩ := h
    simp [Event.creates]

/-- What is created or was running is shut down or still running. -/
theorem balance {l m : Ledger} {es : List Event} (h : l.enterAll es = some m) (id : Nat) :
    es.count (.shutdown id) + m.running.count id
      = es.countP (Event.creates id) + l.running.count id := by
  induction es generalizing l with
  | nil =>
    obtain rfl : l = m := by simpa [enterAll] using h
    rfl
  | cons e es ih =>
    obtain ⟨k, hk, hm⟩ := enterAll_cons_eq_some.mp h
    have hstep := balance_enter hk id
    have hrest := ih hm
    simp only [List.count_cons, List.countP_cons, beq_iff_eq]
    omega

/-! ## §3. From nothing running. -/

/-- From nothing running, an exporter that is created is either shut
    down once or running. -/
theorem balance_of_empty {n : Nat} {m : Ledger} {es : List Event}
    (h : enterAll ⟨n, []⟩ es = some m) (id : Nat) :
    es.count (.shutdown id) + m.running.count id = if n ≤ id ∧ id < m.next then 1 else 0 := by
  rw [balance h id, countP_creates h id]
  rfl

theorem lt_next_of_create {n : Nat} {m : Ledger} {es : List Event} {id : Nat}
    {spec : ExporterSpec} (h : enterAll ⟨n, []⟩ es = some m) (hc : .create id spec ∈ es) :
    n ≤ id ∧ id < m.next := by
  have hpos : 0 < es.countP (Event.creates id) := Event.countP_creates_pos.mpr ⟨spec, hc⟩
  rw [countP_creates h id] at hpos
  by_cases hid : n ≤ id ∧ id < m.next
  · exact hid
  · rw [if_neg hid] at hpos
    omega

theorem mem_running_iff {n : Nat} {m : Ledger} {es : List Event} {id : Nat}
    {spec : ExporterSpec} (h : enterAll ⟨n, []⟩ es = some m) (hc : .create id spec ∈ es) :
    id ∈ m.running ↔ .shutdown id ∉ es := by
  have hb := balance_of_empty h id
  rw [if_pos (lt_next_of_create h hc)] at hb
  rw [← List.count_pos_iff, ← List.count_eq_zero]
  omega

/-- From nothing running, what is running was created. -/
theorem create_of_mem_running {n : Nat} {m : Ledger} {es : List Event} {id : Nat}
    (h : enterAll ⟨n, []⟩ es = some m) (hm : id ∈ m.running) :
    ∃ spec, .create id spec ∈ es := by
  have hb := balance h id
  have hpos : 0 < m.running.count id := List.count_pos_iff.mpr hm
  rw [List.count_nil] at hb
  exact Event.countP_creates_pos.mp (by omega)

theorem shutOnce_of_enterAll {n : Nat} {m : Ledger} {es : List Event} {id : Nat}
    {spec : ExporterSpec} (h : enterAll ⟨n, []⟩ es = some m) (hc : .create id spec ∈ es)
    (hm : id ∉ m.running) : ShutOnce id es := by
  obtain ⟨before, after, rfl⟩ := List.append_of_mem hc
  obtain ⟨k, hk, hrest⟩ := enterAll_append_eq_some.mp h
  obtain ⟨k', hk', hafter⟩ := enterAll_cons_eq_some.mp hrest
  simp only [enter, Option.ite_none_right_eq_some, Option.some.injEq] at hk'
  obtain ⟨rfl, rfl⟩ := hk'
  -- before its creation the number was not given, after it the number is taken
  have hgiven : before.countP (Event.creates k.next) = 0 := by
    rw [countP_creates hk, if_neg (by omega)]
  have htaken : after.countP (Event.creates k.next) = 0 := by
    rw [countP_creates hafter, if_neg (by show ¬(k.next + 1 ≤ k.next ∧ _); omega)]
  have hbefore := balance_of_empty hk k.next
  rw [if_neg (by omega)] at hbefore
  have hlater := balance hafter k.next
  rw [htaken, List.count_append, List.count_singleton_self, List.count_eq_zero.mpr hm] at hlater
  refine ⟨before, spec, after, rfl, ?_, ?_, ?_⟩
  · rw [List.countP_append]
    omega
  · rw [← List.count_eq_zero]
    omega
  · omega

/-! ## §4. What events leave running. -/

/-- Whatever is running before: from the number `n` on the events
    fit, and of what they create they leave the given exporters
    running. -/
def Leaves (n : Nat) (es : List Event) (left : List Nat) : Prop :=
  ∀ held : List Nat, (∀ id ∈ held, id < n) →
    enterAll ⟨n, held⟩ es = some ⟨n + es.countP Event.isCreate, held ++ left⟩

theorem Leaves.nil (n : Nat) : Leaves n [] [] := by
  intro held _
  simp [enterAll]

theorem Leaves.append {n : Nat} {es fs : List Event} {xs ys : List Nat} (he : Leaves n es xs)
    (hx : ∀ id ∈ xs, id < n + es.countP Event.isCreate)
    (hf : Leaves (n + es.countP Event.isCreate) fs ys) : Leaves n (es ++ fs) (xs ++ ys) := by
  intro held hheld
  have hall : ∀ id ∈ held ++ xs, id < n + es.countP Event.isCreate := by
    intro id hid
    rcases List.mem_append.mp hid with h | h
    · have := hheld id h
      omega
    · exact hx id h
  rw [enterAll_append, he held hheld, Option.bind_some, hf _ hall, List.countP_append,
    List.append_assoc, Nat.add_assoc]

/-- What is left running was created meanwhile. -/
theorem Leaves.bounds {n : Nat} {es : List Event} {left : List Nat} (h : Leaves n es left) :
    ∀ id ∈ left, n ≤ id ∧ id < n + es.countP Event.isCreate := by
  intro id hid
  have hrun := h [] (by simp)
  obtain ⟨spec, hc⟩ := create_of_mem_running hrun (show id ∈ [] ++ left by simpa using hid)
  exact lt_next_of_create hrun hc

/-- Shutting down the exporters that run last leaves the others. -/
theorem enterAll_shutdowns (n : Nat) (held ids : List Nat) (h : ∀ id ∈ ids, id ∉ held) :
    enterAll ⟨n, held ++ ids⟩ (ids.map .shutdown) = some ⟨n, held⟩ := by
  induction ids with
  | nil => simp [enterAll]
  | cons i ids ih =>
    have hi : i ∉ held := h i List.mem_cons_self
    rw [List.map_cons, enterAll_cons_eq_some]
    refine ⟨⟨n, held ++ ids⟩, ?_, ih fun id hid => h id (List.mem_cons_of_mem _ hid)⟩
    simp [enter, List.erase_append_right _ hi]

end Ledger

end SpanPipeline
