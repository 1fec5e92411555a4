/-
  SpanPipeline.Config.Issue
  ─────────────────────────
  What decoding finds wrong with data.

  An issue says where in the data it lies and of which kind it is.
  Decoding goes on after an issue, so that one answer lists them
  all, in the order of the fields.

  Main results:
    * `seq_faulty` — two faulty parts report the issues of both.
    * `seq_eq_ok`, `map_eq_ok`, `within_eq_ok` — what is decoded was
      decoded part by part.
    * `each_mapIdx` — a list is decoded element by element.
-/
import SpanPipeline.Datum

namespace SpanPipeline

/-! ## §1. Issues. -/

/-- One step into data: a field, or a position in a list. -/
inductive LocStep where
  | field (name : String)
  | index (n : Int)
  deriving DecidableEq, Repr

/-- What is wrong with a value. -/
inductive IssueKind where
  | missing
  | notText
  | notUtf8
  | notInt
  | intText
  | intSize
  | intFraction
  | notFinite
  | notBool
  | boolText
  | notList
  | notDict
  /-- The data are no mapping that could be the named model. -/
  | notModel (model : String)
  /-- A check of the model itself fails. -/
  | rejected (reason : String)
  /-- A field that cannot be set. -/
  | frozen
  deriving DecidableEq, Repr

/-- The short name of a kind. -/
def IssueKind.code : IssueKind → String
  | .missing => "missing"
  | .notText => "string_type"
  | .notUtf8 => "string_unicode"
  | .notInt => "int_type"
  | .intText => "int_parsing"
  | .intSize => "int_parsing_size"
  | .intFraction => "int_from_float"
  | .notFinite => "finite_number"
  | .notBool => "bool_type"
  | .boolText => "bool_parsing"
  | .notList => "list_type"
  | .notDict => "dict_type"
  | .notModel _ => "model_type"
  | .rejected _ => "value_error"
  | .frozen => "frozen_instance"

/-- The kind in words. -/
def IssueKind.message : IssueKind → String
  | .missing => "Field required"
  | .notText => "Input should be a valid string"
  | .notUtf8 =>
    "Input should be a valid string, unable to parse raw data as a unicode string"
  | .notInt => "Input should be a valid integer"
  | .intText => "Input should be a valid integer, unable to parse string as an integer"
  | .intSize => "Unable to parse input string as an integer, exceeded maximum size"
  | .intFraction => "Input should be a valid integer, got a number with a fractional part"
  | .notFinite => "Input should be a finite number"
  | .notBool => "Input should be a valid boolean"
  | .boolText => "Input should be a valid boolean, unable to interpret input"
  | .notList => "Input should be a valid list"
  | .notDict => "Input should be a valid dictionary"
  | .notModel m => s!"Input should be a valid dictionary or instance of {m}"
  | .rejected reason => s!"Value error, {reason}"
  | .frozen => "Instance is frozen"

/-- Something wrong at a place in the data. -/
structure Issue where
  loc : List LocStep
  kind : IssueKind
  deriving DecidableEq, Repr

/-- The same issue, seen from one step further out. -/
def Issue.within (step : LocStep) (i : Issue) : Issue :=
  { i with loc := step :: i.loc }

/-- The step in words. -/
def LocStep.text : LocStep → String
  | .field name => name
  | .index n => toString n

/-- The place and what is wrong there. -/
def Issue.text (i : Issue) : String :=
  String.intercalate "." (i.loc.map LocStep.text) ++ ": " ++ i.kind.message

/-! ## §2. Collecting issues. -/

/-- A decoded value, or everything that is wrong. -/
inductive Checked (α : Type) where
  | ok (x : α)
  | faulty (issues : List Issue)

namespace Checked

/-- A single issue with the value itself. -/
def fault (kind : IssueKind) : Checked α := .faulty [⟨[], kind⟩]

/-- Apply a decoded function to a decoded value; the issues of the
    function come first. -/
def apply (f : Checked (α → β)) (x : Checked α) : Checked β :=
  match f, x with
  | .ok f, .ok x => .ok (f x)
  | .ok _, .faulty is => .faulty is
  | .faulty is, .ok _ => .faulty is
  | .faulty is, .faulty js => .faulty (is ++ js)

instance : Applicative Checked where
  pure := .ok
  seq f x := f.apply (x ())

/-- Place the issues one step further in. -/
def within (step : LocStep) : Checked α → Checked α
  | .ok x => .ok x
  | .faulty is => .faulty (is.map (·.within step))

/-- Decode every element of a list, counting from `start`. -/
def each (decode : α → Checked β) (start : Nat) : List α → Checked (List β)
  | [] => .ok []
  | x :: xs =>
    List.cons <$> (decode x).within (.index start) <*> each decode (start + 1) xs

/-- The decoded value, if nothing is wrong. -/
def toExcept : Checked α → Except (List Issue) α
  | .ok x => .ok x
  | .faulty is => .error is

@[simp] theorem map_ok (f : α → β) (x : α) : f <$> (Checked.ok x) = .ok (f x) := rfl

@[simp] theorem seq_ok (f : α → β) (x : α) :
    (Checked.ok f) <*> (Checked.ok x) = .ok (f x) := rfl

theorem seq_faulty (is js : List Issue) :
    (Checked.faulty is : Checked (α → β)) <*> (.faulty js) = .faulty (is ++ js) := rfl

@[simp] theorem within_ok (step : LocStep) (x : α) :
    (Checked.ok x).within step = .ok x := rfl

theorem seq_eq_ok {f : Checked (α → β)} {x : Checked α} {y : β} (h : f <*> x = .ok y) :
    ∃ g a, f = .ok g ∧ x = .ok a ∧ g a = y := by
  cases f with
  | ok g =>
    cases x with
    | ok a =>
      cases h
      exact ⟨g, a, rfl, rfl, rfl⟩
    | faulty is => cases h
  | faulty is =>
    cases x with
    | ok a => cases h
    | faulty js => cases h

theorem map_eq_ok {f : α → β} {x : Checked α} {y : β} (h : f <$> x = .ok y) :
    ∃ a, x = .ok a ∧ f a = y := by
  cases x with
  | ok a =>
    cases h
    exact ⟨a, rfl, rfl⟩
  | faulty is => cases h

theorem within_eq_ok {step : LocStep} {x : Checked α} {y : α} (h : x.within step = .ok y) :
    x = .ok y := by
  cases x with
  | ok a => exact h
  | faulty is => cases h

/-- Elements that are written one by one, each in its own way, are
    decoded one by one. -/
theorem each_mapIdx {decode : α → Checked β} {write : Nat → γ → α} {g : Nat → γ → β}
    (h : ∀ i x, decode (write i x) = .ok (g i x)) (start : Nat) (xs : List γ) :
    each decode start (xs.mapIdx write) = .ok (xs.mapIdx g) := by
  -- each step moves the counting on, and with it both functions
  induction xs generalizing start write g with
  | nil => rfl
  | cons x xs ih =>
    rw [List.mapIdx_cons, List.mapIdx_cons, each, h, ih fun i y => h (i + 1) y]
    rfl

end Checked

end SpanPipeline
