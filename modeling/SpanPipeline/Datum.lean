/-
  SpanPipeline.Datum
  ──────────────────
  Values of configuration data before they are decoded: what a
  document or a caller supplies for a field.

  Mappings keep the order in which their keys first appeared.  Two
  keys are equal when they are the same text, the same moment, or
  the same number; truth values count as 0 and 1 and whole floats
  as integers.

  Main results:
    * `lookup_put_self`, `lookup_put_of_ne` — what a mapping holds
      after a key was set.
-/
import SpanPipeline.Number.Shortest
import SpanPipeline.Calendar
import SpanPipeline.Text.Quoted

namespace SpanPipeline

open Number Calendar

/-! ## §1. Values. -/

/-- A value of configuration data. -/
inductive Datum where
  | null
  | bool (b : Bool)
  | int (n : Int)
  | float (x : Binary64)
  | text (s : String)
  | bytes (bs : List UInt8)
  | date (d : Date)
  | time (t : DateTime)
  | list (xs : List Datum)
  | set (xs : List Datum)
  | map (entries : List (Datum × Datum))
  deriving Inhabited, Repr

namespace Datum

/-- A mapping whose keys are texts. -/
def record (fields : List (String × Datum)) : Datum :=
  .map (fields.map fun (k, v) => (.text k, v))

/-- A value that stands for nothing in a condition: null, false,
    zero, and whatever is empty. -/
def isFalsy : Datum → Bool
  | .null => true
  | .bool b => !b
  | .int n => n == 0
  | .float x => x.isZero
  | .text s => s.isEmpty
  | .bytes bs => bs.isEmpty
  | .date _ => false
  | .time _ => false
  | .list xs => xs.isEmpty
  | .set xs => xs.isEmpty
  | .map es => es.isEmpty

/-- The name of a value's type. -/
def typeName : Datum → String
  | .null => "NoneType"
  | .bool _ => "bool"
  | .int _ => "int"
  | .float _ => "float"
  | .text _ => "str"
  | .bytes _ => "bytes"
  | .date _ => "datetime.date"
  | .time _ => "datetime.datetime"
  | .list _ => "list"
  | .set _ => "set"
  | .map _ => "dict"

/-- A value that can be a key. -/
def isKey : Datum → Bool
  | .list _ => false
  | .set _ => false
  | .map _ => false
  | _ => true

/-! ## §2. Equality of keys. -/

/-- The whole number that a value counts as. -/
def asWhole? : Datum → Option Int
  | .bool b => some (if b then 1 else 0)
  | .int n => some n
  | .float x => x.toInt?
  | _ => none

/-- Two values are the same key. -/
def sameKey (a b : Datum) : Bool :=
  match a.asWhole?, b.asWhole? with
  | some m, some n => m == n
  | none, none =>
    match a, b with
    | .null, .null => true
    | .float x, .float y => x == y
    | .text s, .text t => s == t
    | .bytes s, .bytes t => s == t
    | .date s, .date t => s == t
    | .time s, .time t => s.sameMoment t
    | _, _ => false
  | _, _ => false

/-- The value under a key. -/
def lookup (key : Datum) (entries : List (Datum × Datum)) : Option Datum :=
  (entries.find? fun e => e.1.sameKey key).map Prod.snd

/-- Set a key: the value changes in place when the key is there,
    otherwise the entry goes to the end. -/
def put (key value : Datum) : List (Datum × Datum) → List (Datum × Datum)
  | [] => [(key, value)]
  | e :: es => if e.1.sameKey key then (e.1, value) :: es else e :: put key value es

/-- The mapping that entries set one after the other. -/
def ofEntries (entries : List (Datum × Datum)) : List (Datum × Datum) :=
  entries.foldl (fun m e => put e.1 e.2 m) []

theorem lookup_put_self {key value : Datum} {entries : List (Datum × Datum)}
    (h : key.sameKey key = true) : lookup key (put key value entries) = some value := by
  induction entries with
  | nil => simp [put, lookup, h]
  | cons e es ih =>
    unfold put
    split
    · rename_i he
      simp [lookup, he]
    · rename_i he
      simpa [lookup, he] using ih

theorem lookup_put_of_ne {key other value : Datum} {entries : List (Datum × Datum)}
    (h : ∀ k : Datum, k.sameKey key = true → k.sameKey other = false)
    (hk : key.sameKey other = false) :
    lookup other (put key value entries) = lookup other entries := by
  induction entries with
  | nil => simp [put, lookup, hk]
  | cons e es ih =>
    unfold put
    split
    · rename_i he
      simp [lookup, h e.1 he]
    · by_cases ho : e.1.sameKey other = true
      · simp [lookup, ho]
      · have ho : e.1.sameKey other = false := by simpa using ho
        simp only [lookup, List.find?_cons, ho] at ih ⊢
        exact ih

/-! ## §3. Display. -/

/-- Bytes in quotes: printable ASCII stands for itself. -/
def bytesDisplay (bs : List UInt8) : String :=
  let mark := if bs.contains 0x27 && !bs.contains 0x22 then '"' else '\''
  let one (b : UInt8) : List Char :=
    let c := Char.ofNat b.toNat
    if c = mark || c = '\\' then ['\\', c]
    else if c = '\n' then ['\\', 'n']
    else if c = '\r' then ['\\', 'r']
    else if c = '\t' then ['\\', 't']
    else if 0x20 ≤ b && b < 0x7f then [c]
    else '\\' :: 'x' :: Text.hexDigits 2 b.toNat
  String.ofList ('b' :: mark :: bs.flatMap one ++ [mark])

mutual
/-- The constructor form of a value, as messages show it. -/
def display : Datum → String
  | .null => "None"
  | .bool b => if b then "True" else "False"
  | .int n => toString n
  | .float x => x.text
  | .text s => Text.quote s
  | .bytes bs => bytesDisplay bs
  | .date d => d.display
  | .time t => t.display
  | .list xs => "[" ++ String.intercalate ", " (displays xs) ++ "]"
  | .set xs => if xs.isEmpty then "set()"
      else "\x7b" ++ String.intercalate ", " (displays xs) ++ "\x7d"
  | .map es => "\x7b" ++ String.intercalate ", " (entryDisplays es) ++ "\x7d"

/-- The forms of several values. -/
def displays : List Datum → List String
  | [] => []
  | x :: xs => display x :: displays xs

/-- The forms of several entries. -/
def entryDisplays : List (Datum × Datum) → List String
  | [] => []
  | e :: es => entryDisplay e :: entryDisplays es

/-- The form of one entry. -/
def entryDisplay : Datum × Datum → String
  | (k, v) => display k ++ ": " ++ display v
end

end Datum

end SpanPipeline
