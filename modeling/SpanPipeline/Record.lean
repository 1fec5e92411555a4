/-
  SpanPipeline.Record
  ───────────────────
  Mappings from names to values.

  The names are distinct and stand in the order in which they were
  first set.  Setting a name again changes its value in place.

  Main results:
    * `get?_set` — what a mapping holds after a name was set.
    * `get?_setAll` — the last of several entries that are set wins.
    * `keys_set` — which names it then has, in order.
    * `ofList_entries` — setting the entries of a mapping one after
      the other gives the mapping back.
-/

namespace SpanPipeline

/-- A mapping from names to values. -/
structure Record (α : Type) where
  entries : List (String × α)
  nodup : (entries.map Prod.fst).Nodup

namespace Record

/-! ## §1. Lists of entries. -/

/-- Set a name in a list of entries: in place when it is there, at
    the end otherwise. -/
def setEntry (name : String) (value : α) : List (String × α) → List (String × α)
  | [] => [(name, value)]
  | e :: es => if e.1 = name then (name, value) :: es else e :: setEntry name value es

theorem setEntry_of_mem {name : String} {value : α} {es : List (String × α)}
    (h : name ∈ es.map Prod.fst) :
    (setEntry name value es).map Prod.fst = es.map Prod.fst := by
  induction es with
  | nil => simp at h
  | cons e es ih =>
    unfold setEntry
    split
    · rename_i he
      simp [he]
    · rename_i he
      have hm : name ∈ es.map Prod.fst := by
        simpa [Ne.symm he] using h
      simp only [List.map_cons, ih hm]

theorem setEntry_of_not_mem {name : String} {value : α} {es : List (String × α)}
    (h : name ∉ es.map Prod.fst) : setEntry name value es = es ++ [(name, value)] := by
  induction es with
  | nil => rfl
  | cons e es ih =>
    simp only [List.map_cons, List.mem_cons, not_or] at h
    simp only [setEntry, Ne.symm h.1, ↓reduceIte, List.cons_append, ih h.2]

theorem nodup_setEntry {name : String} {value : α} {es : List (String × α)}
    (h : (es.map Prod.fst).Nodup) : ((setEntry name value es).map Prod.fst).Nodup := by
  by_cases hm : name ∈ es.map Prod.fst
  · rw [setEntry_of_mem hm]
    exact h
  · rw [setEntry_of_not_mem hm, List.map_append, List.nodup_append]
    refine ⟨h, by simp, ?_⟩
    intro a ha b hb
    simp only [List.map_cons, List.map_nil, List.mem_singleton] at hb
    exact fun hab => hm (hb ▸ hab ▸ ha)

/-! ## §2. Mappings. -/

/-- The mapping without any name. -/
def empty : Record α := ⟨[], List.nodup_nil⟩

instance : Inhabited (Record α) := ⟨empty⟩

/-- The names, in order. -/
def keys (r : Record α) : List String := r.entries.map Prod.fst

/-- The value of a name. -/
def get? (r : Record α) (name : String) : Option α := r.entries.lookup name

/-- The name has a value. -/
def contains (r : Record α) (name : String) : Bool := (r.get? name).isSome

/-- Set a name. -/
def set (r : Record α) (name : String) (value : α) : Record α :=
  ⟨setEntry name value r.entries, nodup_setEntry r.nodup⟩

/-- Set every name of a list of entries, in order. -/
def setAll (r : Record α) (es : List (String × α)) : Record α :=
  es.foldl (fun r e => r.set e.1 e.2) r

/-- The mapping that a list of entries makes. -/
def ofList (es : List (String × α)) : Record α := empty.setAll es

/-- The mapping without the entries that fail a test. -/
def filter (p : String → α → Bool) (r : Record α) : Record α :=
  ⟨r.entries.filter fun e => p e.1 e.2,
    r.nodup.sublist (List.filter_sublist.map Prod.fst)⟩

@[ext] theorem ext {r s : Record α} (h : r.entries = s.entries) : r = s := by
  cases r
  cases s
  simp_all

theorem get?_set (r : Record α) (name other : String) (value : α) :
    (r.set name value).get? other = if other = name then some value else r.get? other := by
  obtain ⟨es, hd⟩ := r
  show (setEntry name value es).lookup other = if other = name then some value else es.lookup other
  clear hd
  induction es with
  | nil => grind [setEntry]
  | cons e es ih => grind [setEntry]

theorem keys_set (r : Record α) (name : String) (value : α) :
    (r.set name value).keys = if name ∈ r.keys then r.keys else r.keys ++ [name] := by
  unfold set keys
  by_cases h : name ∈ r.entries.map Prod.fst
  · simp only [h, ↓reduceIte, setEntry_of_mem h]
  · simp only [h, ↓reduceIte, setEntry_of_not_mem h, List.map_append, List.map_cons, List.map_nil]

theorem entries_setAll {r : Record α} {es : List (String × α)}
    (h : ((r.entries ++ es).map Prod.fst).Nodup) : (r.setAll es).entries = r.entries ++ es := by
  induction es generalizing r with
  | nil => simp [setAll]
  | cons e es ih =>
    have hn : e.1 ∉ r.entries.map Prod.fst := by
      rw [List.map_append, List.nodup_append] at h
      exact fun hm => h.2.2 _ hm e.1 (by simp) rfl
    have hs : (r.set e.1 e.2).entries = r.entries ++ [e] := setEntry_of_not_mem hn
    have := ih (r := r.set e.1 e.2) (by rw [hs]; simpa using h)
    simp only [setAll, List.foldl_cons] at this ⊢
    rw [this, hs, List.append_assoc, List.singleton_append]

theorem get?_setAll_of_not_mem {r : Record α} {es : List (String × α)} {name : String}
    (h : name ∉ es.map Prod.fst) : (r.setAll es).get? name = r.get? name := by
  induction es generalizing r with
  | nil => rfl
  | cons e es ih =>
    simp only [List.map_cons, List.mem_cons, not_or] at h
    have := ih (r := r.set e.1 e.2) h.2
    simp only [setAll, List.foldl_cons] at this ⊢
    simp [this, get?_set, h.1]

theorem get?_setAll {r : Record α} {es : List (String × α)} {name : String} {value : α}
    (hd : (es.map Prod.fst).Nodup) (h : (name, value) ∈ es) :
    (r.setAll es).get? name = some value := by
  induction es generalizing r with
  | nil => simp at h
  | cons e es ih =>
    simp only [List.map_cons, List.nodup_cons] at hd
    rcases List.mem_cons.1 h with he | he
    · subst he
      have := get?_setAll_of_not_mem (r := r.set name value) hd.1
      simp only [setAll, List.foldl_cons] at this ⊢
      simp [this, get?_set]
    · exact ih (r := r.set e.1 e.2) hd.2 he

theorem ofList_entries (r : Record α) : ofList r.entries = r := by
  apply ext
  have h : (((empty : Record α).entries ++ r.entries).map Prod.fst).Nodup := r.nodup
  exact entries_setAll h

end Record

end SpanPipeline
