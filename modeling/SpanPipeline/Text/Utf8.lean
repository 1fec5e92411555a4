/-
  SpanPipeline.Text.Utf8
  ──────────────────────
  Reading UTF-8.

  Bytes are taken one character at a time.  Where no character can
  be read, the fault covers the longest start of a character that
  is there: one byte that starts none, a start that the next byte
  does not continue, or a start cut off by the end of the bytes.

  Main results:
    * `Reading.size_pos` — every reading takes at least one byte,
      so reading a text to its end terminates.
-/

namespace SpanPipeline.Text

/-! ## §1. One character. -/

/-- Why bytes are not UTF-8. -/
inductive Utf8Fault where
  | invalidStart
  | invalidContinuation
  | unexpectedEnd
  deriving DecidableEq, Repr

/-- The fault in words. -/
def Utf8Fault.message : Utf8Fault → String
  | .invalidStart => "invalid start byte"
  | .invalidContinuation => "invalid continuation byte"
  | .unexpectedEnd => "unexpected end of data"

/-- What stands at the start of some bytes. -/
inductive Reading where
  /-- A character and the bytes after its first one. -/
  | char (c : Char) (extra : Nat)
  /-- A fault and the bytes it covers after its first one. -/
  | fault (f : Utf8Fault) (extra : Nat)

/-- The number of bytes read. -/
def Reading.size : Reading → Nat
  | .char _ extra => extra + 1
  | .fault _ extra => extra + 1

theorem Reading.size_pos (r : Reading) : 0 < r.size := by
  cases r <;> simp [Reading.size]

/-- A byte that continues a character. -/
def isContinuation (b : UInt8) : Bool :=
  0x80 ≤ b && b < 0xc0

/-- The second byte that may follow a given first one.  It rules
    out overlong forms, surrogates and what lies beyond the last
    code point. -/
def isSecond (first second : UInt8) : Bool :=
  isContinuation second
    && !(first == 0xe0 && second < 0xa0) && !(first == 0xed && 0xa0 ≤ second)
    && !(first == 0xf0 && second < 0x90) && !(first == 0xf4 && 0x90 ≤ second)

/-- The bytes a character takes after a first byte; `none` when the
    byte starts no character. -/
def continuationCount? (b : UInt8) : Option Nat :=
  if b < 0x80 then some 0
  else if b < 0xc2 then none
  else if b < 0xe0 then some 1
  else if b < 0xf0 then some 2
  else if b < 0xf5 then some 3
  else none

/-- The payload of a continuation byte. -/
def payload (b : UInt8) : Nat := b.toNat % 64

/-- Read one character whose first byte is `b`. -/
def readChar (b : UInt8) (rest : List UInt8) : Reading :=
  match continuationCount? b with
  | none => .fault .invalidStart 0
  | some 0 => .char (Char.ofNat b.toNat) 0
  | some count =>
    match rest with
    | [] => .fault .unexpectedEnd 0
    | b₂ :: rest =>
      if !isSecond b b₂ then .fault .invalidContinuation 0
      else if count = 1 then .char (Char.ofNat ((b.toNat % 32) * 64 + payload b₂)) 1
      else match rest with
        | [] => .fault .unexpectedEnd 1
        | b₃ :: rest =>
          if !isContinuation b₃ then .fault .invalidContinuation 1
          else if count = 2 then
            .char (Char.ofNat ((b.toNat % 16) * 4096 + payload b₂ * 64 + payload b₃)) 2
          else match rest with
            | [] => .fault .unexpectedEnd 2
            | b₄ :: _ =>
              if !isContinuation b₄ then .fault .invalidContinuation 2
              else .char (Char.ofNat ((b.toNat % 8) * 262144 + payload b₂ * 4096
                + payload b₃ * 64 + payload b₄)) 3

/-! ## §2. Texts. -/

/-- Where and why decoding stops. -/
structure DecodeFault where
  position : Nat
  covered : List UInt8
  fault : Utf8Fault
  deriving Repr

/-- Decode bytes, which start at `position`, from the current
    character on; `acc` holds the characters so far, last first. -/
def decodeFrom (position : Nat) (acc : List Char) :
    List UInt8 → Except DecodeFault (List Char)
  | [] => .ok acc.reverse
  | b :: rest =>
    match readChar b rest with
    | .char c extra => decodeFrom (position + extra + 1) (c :: acc) (rest.drop extra)
    | .fault f extra => .error ⟨position, (b :: rest).take (extra + 1), f⟩
  termination_by bytes => bytes.length
  decreasing_by
    simp only [List.length_drop, List.length_cons]
    omega

/-- The text that bytes encode. -/
def decodeUtf8 (bytes : List UInt8) : Except DecodeFault (List Char) :=
  decodeFrom 0 [] bytes

/-- The text that bytes encode, with a replacement character for
    every fault. -/
def decodeLossy : List UInt8 → List Char
  | [] => []
  | b :: rest =>
    match readChar b rest with
    | .char c extra => c :: decodeLossy (rest.drop extra)
    | .fault _ extra => Char.ofNat 0xfffd :: decodeLossy (rest.drop extra)
  termination_by bytes => bytes.length
  decreasing_by
    all_goals
      simp only [List.length_drop, List.length_cons]
      omega

/-- The bytes of a text. -/
def encodeUtf8 (s : String) : List UInt8 :=
  s.toUTF8.toList

end SpanPipeline.Text
