/-
  SpanPipeline.Yaml
  ─────────────────
  The value that a document stands for.

  Scalars, sequences and mappings become values by their tags.  A
  mapping may take over the entries of others by a merge key; its
  own entries come after those and so win.

  Values are built level by level: the root first, then what it
  holds, and so on.  Of several faults the one nearest to the root
  counts, and of those the leftmost.

  Main results:
    * `gather_eq_ok` — parts without faults make a whole without.
-/
import SpanPipeline.Yaml.Node
import SpanPipeline.Yaml.Scalar

namespace SpanPipeline.Yaml

/-! ## §1. Outcomes. -/

/-- A fault with its distance from the node it is looked at from. -/
structure Located where
  depth : Nat
  fault : Fault

/-- The value of a node, or why there is none. -/
abbrev Outcome : Type := Except Located Datum

/-- A fault of the node itself. -/
def fail (f : Fault) : Except Located α := .error ⟨0, f⟩

/-- An outcome seen from one level further up. -/
def deeper (r : Except Located α) : Except Located α :=
  r.mapError fun l => { l with depth := l.depth + 1 }

/-- The fault that counts: the nearest, of those the first. -/
def nearest : List Outcome → Option Located
  | [] => none
  | .ok _ :: rs => nearest rs
  | .error l :: rs =>
    match nearest rs with
    | some m => some (if m.depth < l.depth then m else l)
    | none => some l

/-- The values of several parts. -/
def gather (rs : List Outcome) : Except Located (List Datum) :=
  match nearest rs with
  | some l => .error l
  | none => .ok (rs.filterMap Except.toOption)

theorem gather_eq_ok (ds : List Datum) : gather (ds.map .ok) = .ok ds := by
  have h : nearest (ds.map .ok) = none := by
    induction ds with
    | nil => rfl
    | cons d ds ih => simpa [nearest] using ih
  simp only [gather, h]
  congr 1
  clear h
  induction ds with
  | nil => rfl
  | cons d ds ih =>
    rw [List.map_cons]
    exact congrArg (d :: ·) ih

/-! ## §2. Built nodes. -/

/-- An entry of a mapping, its parts being built. -/
structure Entry where
  key : Outcome
  value : Outcome

/-- The outcomes of the parts of an entry. -/
def Entry.parts (e : Entry) : List Outcome := [e.key, e.value]

/-- What is known of a node once its parts are built. -/
structure Built where
  tag : Tag
  /-- The text that it stands for where a scalar is wanted: its own,
      or that of the value under an equals sign. -/
  text : Option (List Char)
  /-- The entries of a mapping, those taken over included. -/
  entries : Option (Except Fault (List Entry))
  /-- The entries that a merge of it brings in. -/
  merged : Except Fault (List Entry)
  /-- The entry of a mapping that holds just one, as it is
      written. -/
  single : Option Entry
  value : Outcome

namespace Built

/-- The node as a key: collections are none. -/
def asKey (b : Built) : Outcome :=
  if b.tag = .value then
    match b.text with
    | some text => .ok (.text (String.ofList text))
    | none => fail .malformed
  else if b.tag.isCollection then fail .malformed
  else b.value

/-- The entries of a mapping whose parts are built: those of merge
    keys, and then its own. -/
def flatten : List (Built × Built) → Except Fault (List Entry × List Entry)
  | [] => .ok ([], [])
  | (k, v) :: rest => do
    if k.tag = .merge then
      let here ← v.merged
      let (merged, own) ← flatten rest
      return (here ++ merged, own)
    else
      let (merged, own) ← flatten rest
      return (merged, ⟨k.asKey, v.value⟩ :: own)

/-- The entries that a merge of several mappings brings in; earlier
    mappings win, so that they come last. -/
def mergeAll : List Built → Except Fault (List Entry)
  | [] => .ok []
  | b :: rest => do
    match b.entries with
    | none => throw .malformed
    | some entries =>
      let here ← entries
      return (← mergeAll rest) ++ here

/-! ## §3. The values of nodes. -/

/-- The value of a node that stands for a text. -/
def scalarOutcome (tag : Tag) (text : Option (List Char)) (isMapping : Bool) : Outcome :=
  match text with
  | none => fail .malformed
  | some text =>
    if tag = .timestamp && isMapping then fail .momentOfMapping
    else (tag.scalarValue text).mapError fun f => ⟨0, f⟩

/-- The mapping that entries make. -/
def mapOutcome (entries : Except Fault (List Entry)) : Except Located (List (Datum × Datum)) :=
  deeper do
    let entries ← entries.mapError fun f => (⟨0, f⟩ : Located)
    let _ ← gather (entries.flatMap Entry.parts)
    let keys ← gather (entries.map Entry.key)
    let values ← gather (entries.map Entry.value)
    return Datum.ofEntries (keys.zip values)

/-- The pairs that mappings of one entry make. -/
def pairsOutcome (items : List Built) : Outcome :=
  deeper do
    let pairs := items.map Built.single
    let parts := pairs.flatMap fun
      | some e => e.parts
      | none => [fail .malformed]
    let _ ← gather parts
    let keys ← gather ((pairs.filterMap id).map Entry.key)
    let values ← gather ((pairs.filterMap id).map Entry.value)
    return .list ((keys.zip values).map fun (k, v) => .list [k, v])

/-- The value of a sequence. -/
def sequenceOutcome (tag : Tag) (items : List Built) : Outcome :=
  match tag with
  | .seq => deeper (Datum.list <$> gather (items.map Built.value))
  | .omap => pairsOutcome items
  | .pairs => pairsOutcome items
  | .map => deeper (fail .malformed)
  | .set => deeper (fail .malformed)
  | tag => scalarOutcome tag none false

/-- The value of a mapping. -/
def mappingOutcome (tag : Tag) (text : Option (List Char))
    (entries : Except Fault (List Entry)) : Outcome :=
  match tag with
  | .map => Datum.map <$> mapOutcome entries
  | .set => (fun es => .set (es.map Prod.fst)) <$> mapOutcome entries
  | .seq => deeper (fail .malformed)
  | .omap => deeper (fail .malformed)
  | .pairs => deeper (fail .malformed)
  | tag => scalarOutcome tag text true

/-- A scalar. -/
def scalar (tag : Tag) (text : List Char) : Built :=
  { tag
    text := some text
    entries := none
    merged := .error .malformed
    single := none
    value := if tag.isCollection then deeper (fail .malformed)
      else scalarOutcome tag (some text) false }

/-- A sequence of built items. -/
def sequence (tag : Tag) (items : List Built) : Built :=
  { tag
    text := none
    entries := none
    merged := mergeAll items
    single := none
    value := sequenceOutcome tag items }

/-- A mapping of built entries. -/
def mapping (tag : Tag) (parts : List (Built × Built)) : Built :=
  let text := (parts.find? fun e => e.1.tag = .value).bind fun e => e.2.text
  let entries := (flatten parts).map fun p => p.1 ++ p.2
  { tag
    text
    entries := some entries
    merged := entries
    single := match parts with
      | [(k, v)] => some ⟨k.value, v.value⟩
      | _ => none
    value := mappingOutcome tag text entries }

end Built

mutual
/-- A node with all of its parts built. -/
def Node.build : Node → Built
  | .scalar tag text => .scalar tag text
  | .sequence tag items => .sequence tag (buildAll items)
  | .mapping tag entries => .mapping tag (buildEntries entries)

/-- Several nodes. -/
def buildAll : List Node → List Built
  | [] => []
  | n :: ns => n.build :: buildAll ns

/-- The nodes of several entries. -/
def buildEntries : List (Node × Node) → List (Built × Built)
  | [] => []
  | e :: es => buildEntry e :: buildEntries es

/-- The nodes of one entry. -/
def buildEntry : Node × Node → Built × Built
  | (k, v) => (k.build, v.build)
end

/-- The value that a text stands for; null when it holds no
    document. -/
def load (text : List Char) : Except Fault Datum := do
  match ← compose text with
  | none => return .null
  | some root => root.build.value.mapError Located.fault

end SpanPipeline.Yaml
