/-
  SpanPipeline.Text.Digits
  ────────────────────────
  Reading whole numbers from text.

  The decimal digits of every script count, and one underscore may
  stand between two digits.  A number text holds at most 4300
  digits; longer ones are not read.

  Main results:
    * `ofDigits_append` — the value of digits put side by side.
-/
import SpanPipeline.Text.Blank

namespace SpanPipeline.Text

/-! ## §1. Digits and their values. -/

/-- The zero of each script's decimal digits. -/
def digitZeros : List Nat :=
  [ 0x30, 0x660, 0x6f0, 0x7c0, 0x966, 0x9e6, 0xa66, 0xae6, 0xb66, 0xbe6, 0xc66,
    0xce6, 0xd66, 0xde6, 0xe50, 0xed0, 0xf20, 0x1040, 0x1090, 0x17e0, 0x1810,
    0x1946, 0x19d0, 0x1a80, 0x1a90, 0x1b50, 0x1bb0, 0x1c40, 0x1c50, 0xa620,
    0xa8d0, 0xa900, 0xa9d0, 0xa9f0, 0xaa50, 0xabf0, 0xff10, 0x104a0, 0x10d30,
    0x11066, 0x110f0, 0x11136, 0x111d0, 0x112f0, 0x11450, 0x114d0, 0x11650,
    0x116c0, 0x11730, 0x118e0, 0x11950, 0x11c50, 0x11d50, 0x11da0, 0x16a60,
    0x16ac0, 0x16b50, 0x1d7ce, 0x1d7d8, 0x1d7e2, 0x1d7ec, 0x1d7f6, 0x1e140,
    0x1e2f0, 0x1e950, 0x1fbf0 ]

/-- The value of a decimal digit of any script. -/
def digitValue? (c : Char) : Option Nat :=
  (digitZeros.find? fun z => z ≤ c.toNat && c.toNat < z + 10).map (c.toNat - ·)

/-- The value of an ASCII digit, also of one that stands for more
    than nine; zero for any other character. -/
def asciiDigitValue (c : Char) : Nat :=
  if '0' ≤ c && c ≤ '9' then c.toNat - '0'.toNat
  else if 'a' ≤ c && c ≤ 'z' then c.toNat - 'a'.toNat + 10
  else if 'A' ≤ c && c ≤ 'Z' then c.toNat - 'A'.toNat + 10
  else 0

/-- The number that `ds` writes in a base, most significant digit
    first. -/
def ofDigits (base : Nat) (ds : List Nat) : Nat :=
  ds.foldl (fun n d => n * base + d) 0

theorem foldl_digits (base n : Nat) (ds : List Nat) :
    ds.foldl (fun n d => n * base + d) n = n * Nat.pow base ds.length + ofDigits base ds := by
  simp only [Nat.pow_eq]
  induction ds generalizing n with
  | nil => simp [ofDigits]
  | cons d ds ih =>
    simp only [List.foldl_cons, List.length_cons, ofDigits]
    rw [ih, ih (0 * base + d)]
    simp only [Nat.pow_succ, Nat.add_mul, Nat.zero_mul, Nat.zero_add]
    rw [Nat.mul_assoc, Nat.mul_comm base, Nat.add_assoc]

theorem ofDigits_append (base : Nat) (ds es : List Nat) :
    ofDigits base (ds ++ es) = ofDigits base ds * Nat.pow base es.length + ofDigits base es := by
  simp only [ofDigits, List.foldl_append]
  exact foldl_digits base _ es

/-- The number that ASCII digits write in a base. -/
def ofAscii (base : Nat) (cs : List Char) : Nat :=
  ofDigits base (cs.map asciiDigitValue)

/-! ## §2. Number texts. -/

/-- The most digits a number text may hold. -/
def maxDigits : Nat := 4300

/-- The values of digits with single underscores between them;
    `none` for anything else, no digit included. -/
def digitRun? : List Char → Option (List Nat)
  | [] => none
  | [c] => (digitValue? c).map ([·])
  | c :: '_' :: cs => do return (← digitValue? c) :: (← digitRun? cs)
  | c :: cs => do return (← digitValue? c) :: (← digitRun? cs)

/-- The complaint about a number text of too many digits. -/
def tooManyDigits (count : Nat) : String :=
  s!"Exceeds the limit ({maxDigits} digits) for integer string conversion: "
    ++ s!"value has {count} digits; use sys.set_int_max_str_digits() to increase the limit"

/-- An ASCII blank or line break. -/
def isAsciiBlank (c : Char) : Bool :=
  c == ' ' || 0x9 ≤ c.toNat && c.toNat ≤ 0xd

/-- A number text without the blanks at its ends.  Of the ASCII
    characters only blanks and line breaks count. -/
def trimNumber (cs : List Char) : List Char :=
  trimBy (fun c => if c.toNat < 128 then isAsciiBlank c else isBlank c) cs

/-- The whole number a text writes: blanks at the ends, a sign, and
    a run of digits. -/
def readInteger? (text : List Char) : Option Int :=
  let unsigned (cs : List Char) : Option Nat :=
    (digitRun? cs).bind fun ds =>
      if ds.length ≤ maxDigits then some (ofDigits 10 ds) else none
  match trimNumber text with
  | '-' :: cs => (unsigned cs).map fun n => -(n : Int)
  | '+' :: cs => (unsigned cs).map fun n => (n : Int)
  | cs => (unsigned cs).map fun n => (n : Int)

end SpanPipeline.Text
