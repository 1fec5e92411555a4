/-
  SpanPipeline.Failure
  ────────────────────
  What can go wrong, as a tree of failures.

  A leaf is a failure of the pipeline's own checks or a foreign
  exception, raised by something the pipeline calls.  An aggregate
  stands for an ordered list of independent failures, and may hold
  aggregates itself.

  Main results:
    * `messages_aggregate` — an aggregate's messages are those of
      its children, one after the other.
    * `text_aggregate` — its text joins the texts of its children
      with line feeds.
    * `same_iff` — two pipeline failures are the same when their
      kinds and their flattened messages are.
-/
import SpanPipeline.Text.Quoted

namespace SpanPipeline

/-! ## §1. Foreign exceptions. -/

/-- A quantity too large for the component that has to hold it. -/
inductive Excess where
  /-- A timeout in seconds above the largest finite number. -/
  | timeout
  /-- A queue longer than any index. -/
  | queue
  /-- A delay above the largest finite number. -/
  | delay
  deriving DecidableEq, Repr

/-- The excess in words. -/
def Excess.message : Excess → String
  | .timeout => "integer division result too large for a float"
  | .queue => "Python int too large to convert to C ssize_t"
  | .delay => "int too large to convert to float"

/-- An exception that is not one of the pipeline's own failures. -/
inductive Foreign where
  /-- A component refuses to go on. -/
  | runtime (message : String)
  /-- A value that a component cannot take. -/
  | value (message : String)
  /-- A key that is not there. -/
  | key (key : String)
  /-- A number too large to be represented. -/
  | overflow (excess : Excess)
  /-- An operation that a component lacks. -/
  | notImplemented
  deriving DecidableEq, Repr

/-- The name of an exception's class. -/
def Foreign.className : Foreign → String
  | .runtime _ => "RuntimeError"
  | .value _ => "ValueError"
  | .key _ => "KeyError"
  | .overflow _ => "OverflowError"
  | .notImplemented => "NotImplementedError"

/-- What an exception carries. -/
def Foreign.argument : Foreign → String
  | .runtime m => m
  | .value m => m
  | .key k => k
  | .overflow e => e.message
  | .notImplemented => ""

/-- The text of an exception.  A missing key is shown in quotes. -/
def Foreign.text : Foreign → String
  | .key k => Text.quote k
  | e => e.argument

/-! ## §2. The tree. -/

/-- A failure. -/
inductive Failure where
  /-- A failure of no particular kind. -/
  | general (message : String)
  /-- A structural violation or an invalid field value. -/
  | configuration (message : String)
  /-- An endpoint that is no usable URL, as it was configured. -/
  | endpoint (url reason : String)
  /-- Trust material that cannot be loaded. -/
  | credentials (cause : String)
  /-- Several failures, in the order of the checks. -/
  | aggregate (children : List Failure)
  /-- A foreign exception. -/
  | foreign (e : Foreign)
  deriving Repr, Inhabited

/-- The kinds of pipeline failures. -/
inductive FailureKind where
  | general
  | configuration
  | endpoint
  | credentials
  | aggregate
  deriving DecidableEq, Repr

/-- The name of a kind. -/
def FailureKind.className : FailureKind → String
  | .general => "TracePipelineError"
  | .configuration => "ConfigurationError"
  | .endpoint => "EndpointError"
  | .credentials => "CredentialsError"
  | .aggregate => "AggregatedError"

namespace Failure

/-- The kind of a pipeline failure; foreign exceptions have none. -/
def kind? : Failure → Option FailureKind
  | .general _ => some .general
  | .configuration _ => some .configuration
  | .endpoint _ _ => some .endpoint
  | .credentials _ => some .credentials
  | .aggregate _ => some .aggregate
  | .foreign _ => none

/-- One of the pipeline's own failures, not a foreign exception. -/
def isOwn (f : Failure) : Bool :=
  f.kind?.isSome

/-- The name of a failure's class. -/
def className : Failure → String
  | .foreign e => e.className
  | .general _ => FailureKind.general.className
  | .configuration _ => FailureKind.configuration.className
  | .endpoint _ _ => FailureKind.endpoint.className
  | .credentials _ => FailureKind.credentials.className
  | .aggregate _ => FailureKind.aggregate.className

/-- The children of an aggregate. -/
def children : Failure → List Failure
  | .aggregate cs => cs
  | _ => []

/-- The text of a failure that is not an aggregate. -/
def leafText : Failure → String
  | .general m => m
  | .configuration m => m
  | .endpoint url reason => "parse \"" ++ url ++ "\": " ++ reason
  | .credentials cause => "could not create client tls credentials: " ++ cause
  | .aggregate _ => ""
  | .foreign e => e.text

mutual
/-- The text of a failure. -/
def text : Failure → String
  | .aggregate cs => String.intercalate "\n" (texts cs)
  | .general m => leafText (.general m)
  | .configuration m => leafText (.configuration m)
  | .endpoint url reason => leafText (.endpoint url reason)
  | .credentials cause => leafText (.credentials cause)
  | .foreign e => leafText (.foreign e)

/-- The texts of several failures. -/
def texts : List Failure → List String
  | [] => []
  | c :: cs => text c :: texts cs
end

mutual
/-- The messages a failure carries, from left to right; every leaf
    has one. -/
def messages : Failure → List String
  | .aggregate cs => messagesOf cs
  | .general m => [leafText (.general m)]
  | .configuration m => [leafText (.configuration m)]
  | .endpoint url reason => [leafText (.endpoint url reason)]
  | .credentials cause => [leafText (.credentials cause)]
  | .foreign e => [leafText (.foreign e)]

/-- The messages of several failures, one after the other. -/
def messagesOf : List Failure → List String
  | [] => []
  | c :: cs => messages c ++ messagesOf cs
end

theorem texts_eq_map (cs : List Failure) : texts cs = cs.map text := by
  induction cs with
  | nil => rfl
  | cons c cs ih => simp [texts, ih]

theorem messagesOf_eq_flatMap (cs : List Failure) : messagesOf cs = cs.flatMap messages := by
  induction cs with
  | nil => rfl
  | cons c cs ih => simp [messagesOf, ih]

theorem text_aggregate (cs : List Failure) :
    (aggregate cs).text = String.intercalate "\n" (cs.map text) := by
  simp [text, texts_eq_map]

theorem messages_aggregate (cs : List Failure) :
    (aggregate cs).messages = cs.flatMap messages := by
  rw [messages, messagesOf_eq_flatMap]

/-- Every failure but an aggregate has its text as its one message. -/
theorem messages_leaf {f : Failure} (h : f.kind? ≠ some .aggregate) : f.messages = [f.text] := by
  cases f <;> first | rfl | exact absurd rfl h

/-! ## §3. Comparison and display. -/

/-- What the identity of a pipeline failure depends on. -/
def key? (f : Failure) : Option (FailureKind × List String) :=
  f.kind?.map fun k => (k, f.messages)

/-- Two pipeline failures count as the same when their keys agree.
    A foreign exception is the same as no other failure. -/
def same (a b : Failure) : Bool :=
  a.key?.isSome && a.key? == b.key?

theorem same_iff {a b : Failure} :
    a.same b = true ↔ ∃ k, a.kind? = some k ∧ b.kind? = some k ∧ a.messages = b.messages := by
  unfold same key?
  cases ha : a.kind? with
  | none => simp
  | some k =>
    cases hb : b.kind? with
    | none => simp
    | some l =>
      simp only [Option.map_some, Option.isSome_some, Bool.true_and, beq_iff_eq,
        Option.some.injEq, Prod.mk.injEq]
      exact ⟨fun h => ⟨k, rfl, h.1.symm, h.2⟩, fun ⟨_, h₁, h₂, h⟩ => ⟨h₁.trans h₂.symm, h⟩⟩

/-- What a pipeline failure is hashed by: the name of its class and
    its messages.  A foreign exception has a hash of its own. -/
def hashed? (f : Failure) : Option (String × List String) :=
  f.kind?.map fun k => (k.className, f.messages)

/-- A failure counts as present in a condition, unless it is an
    aggregate without children. -/
def isTruthy : Failure → Bool
  | .aggregate cs => !cs.isEmpty
  | _ => true

/-- The constructor form of a failure: its class with the text, or
    with the list of messages for an aggregate. -/
def display : Failure → String
  | .aggregate cs => FailureKind.aggregate.className ++ "(" ++ Text.quoteList (messagesOf cs) ++ ")"
  | .foreign .notImplemented => Foreign.notImplemented.className ++ "()"
  | .foreign e => e.className ++ "(" ++ Text.quote e.argument ++ ")"
  | f => f.className ++ "(" ++ Text.quote f.text ++ ")"

end Failure

end SpanPipeline
