/-
  SpanPipeline.Failure.Collection
  ───────────────────────────────
  Aggregators side by side.

  A program works with several aggregators at once, which it knows
  by name.  What it records may come from elsewhere, or be the
  result of an aggregator, of the very one it is recorded in, too.
  It may save a result under a name and look at it later.

  Main results:
    * `named_put_self`, `named_put_of_ne` — a change of an aggregator
      changes no other one.
-/
import SpanPipeline.Failure.Aggregator

namespace SpanPipeline

/-- Aggregators by their names, and the results that were saved. -/
structure Collection where
  named : String → Aggregator
  saved : String → Option Failure

namespace Collection

/-- Nothing recorded, and nothing saved. -/
def empty : Collection := ⟨fun _ => .empty, fun _ => none⟩

instance : Inhabited Collection := ⟨empty⟩

/-- Replace an aggregator. -/
def put (c : Collection) (name : String) (a : Aggregator) : Collection :=
  { c with named := fun n => if n = name then a else c.named n }

/-- Save a result. -/
def keep (c : Collection) (key : String) (result : Option Failure) : Collection :=
  { c with saved := fun k => if k = key then result else c.saved k }

@[simp] theorem named_put_self (c : Collection) (name : String) (a : Aggregator) :
    (c.put name a).named name = a := by
  simp [put]

theorem named_put_of_ne {c : Collection} {name other : String} {a : Aggregator}
    (h : other ≠ name) : (c.put name a).named other = c.named other := by
  simp [put, h]

@[simp] theorem saved_put (c : Collection) (name : String) (a : Aggregator) :
    (c.put name a).saved = c.saved := rfl

@[simp] theorem named_keep (c : Collection) (key : String) (result : Option Failure) :
    (c.keep key result).named = c.named := rfl

@[simp] theorem saved_keep_self (c : Collection) (key : String) (result : Option Failure) :
    (c.keep key result).saved key = result := by
  simp [keep]

theorem saved_keep_of_ne {c : Collection} {key other : String} {result : Option Failure}
    (h : other ≠ key) : (c.keep key result).saved other = c.saved other := by
  simp [keep, h]

/-! ## §1. What can be recorded. -/

/-- A failure as a program has it at hand, or none at all. -/
inductive Item where
  | nothing
  | failure (f : Failure)
  /-- The result of an aggregator. -/
  | result (name : String)
  /-- A result that was saved. -/
  | saved (key : String)
  /-- Several of these in an aggregate of their own. -/
  | aggregate (items : List Item)
  deriving Inhabited

mutual
/-- The failure that an item stands for. -/
def Item.value (c : Collection) : Item → Option Failure
  | .nothing => none
  | .failure f => some f
  | .result name => (c.named name).result?
  | .saved key => c.saved key
  | .aggregate items => some (.aggregate (Item.values c items))

/-- The failures that several items stand for. -/
def Item.values (c : Collection) : List Item → List Failure
  | [] => []
  | i :: is => (i.value c).toList ++ Item.values c is
end

/-! ## §2. Steps. -/

/-- What can be done with the aggregators. -/
inductive Step where
  /-- Record a failure, if it is one. -/
  | add (name : String) (item : Item)
  /-- Record the failures among several. -/
  | extend (name : String) (items : List Item)
  /-- Run a block that raises this failure, or none, and record it. -/
  | capture (name : String) (item : Item)
  /-- Ask for the result. -/
  | result (name : String)
  /-- Save the result. -/
  | save (name key : String)
  /-- Look at a saved result. -/
  | look (key : String)
  /-- Fail with what was recorded, if anything was. -/
  | check (name : String)

/-- What a step answers: the result that was asked for, and the
    failure that it ends with. -/
structure Answer where
  shown : Option Failure := none
  raised : Option Failure := none

/-- How a block ends that raises a failure, or none. -/
def block : Option Failure → Except Failure Unit
  | none => .ok ()
  | some f => .error f

/-- The failure that an outcome ends with. -/
def raised? : Except Failure α → Option Failure
  | .ok _ => none
  | .error f => some f

/-- Take a step: the aggregators afterwards, and the answer. -/
def step (c : Collection) : Step → Collection × Answer
  | .add name item => (c.put name ((c.named name).add (item.value c)), {})
  | .extend name items => (c.put name ((c.named name).extend (items.map (Item.value c))), {})
  | .capture name item =>
    match (c.named name).capture (block (item.value c)) with
    | .ok (_, a) => (c.put name a, {})
    | .error f => (c, { raised := some f })
  | .result name => (c, { shown := (c.named name).result? })
  | .save name key => (c.keep key (c.named name).result?, {})
  | .look key => (c, { shown := c.saved key })
  | .check name => (c, { raised := raised? (c.named name).check })

/-- The aggregators after several steps. -/
def after (c : Collection) (steps : List Step) : Collection :=
  steps.foldl (fun c s => (c.step s).1) c

end Collection

end SpanPipeline
