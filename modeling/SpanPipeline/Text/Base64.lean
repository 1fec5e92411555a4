/-
  SpanPipeline.Text.Base64
  ────────────────────────
  Bytes written in the base64 alphabet, six bits to a character.

  Two readers share the alphabet.  The loose one skips whatever is
  not in it and needs padding only to be complete.  The strict one
  allows white space alone, stops at a hyphen, and refuses anything
  after the padding.

  Main results:
    * `length_octets` — four characters make three bytes.
-/

namespace SpanPipeline.Text.Base64

/-- The six bits of a character of the alphabet. -/
def sextet? (b : UInt8) : Option Nat :=
  if 0x41 ≤ b && b ≤ 0x5a then some (b.toNat - 0x41)
  else if 0x61 ≤ b && b ≤ 0x7a then some (b.toNat - 0x61 + 26)
  else if 0x30 ≤ b && b ≤ 0x39 then some (b.toNat - 0x30 + 52)
  else if b = 0x2b then some 62
  else if b = 0x2f then some 63
  else none

/-- The bytes in a sequence of sextets; bits that fill no byte are
    dropped. -/
def octets : List Nat → List UInt8
  | a :: b :: c :: d :: rest =>
    UInt8.ofNat (a * 4 + b / 16) :: UInt8.ofNat (b % 16 * 16 + c / 4)
      :: UInt8.ofNat (c % 4 * 64 + d) :: octets rest
  | [a, b, c] => [UInt8.ofNat (a * 4 + b / 16), UInt8.ofNat (b % 16 * 16 + c / 4)]
  | [a, b] => [UInt8.ofNat (a * 4 + b / 16)]
  | [_] => []
  | [] => []

theorem length_octets (n : Nat) :
    ∀ ss : List Nat, ss.length = 4 * n → (octets ss).length = 3 * n := by
  induction n with
  | zero =>
    intro ss h
    rw [List.length_eq_zero_iff.1 h]
    rfl
  | succ n ih =>
    intro ss h
    match ss, h with
    | a :: b :: c :: d :: rest, h =>
      have := ih rest (by simp only [List.length_cons] at h; omega)
      simp only [octets, List.length_cons, this]
      omega

/-- The padding character. -/
def pad : UInt8 := 0x3d

/-- The sextets of a text read loosely.  `filled` counts the
    characters of the current group of four, `pads` the padding
    directly before. -/
def looseSextets (filled pads : Nat) : List UInt8 → Option (List Nat)
  | [] => if filled = 0 then some [] else none
  | b :: bs =>
    if b = pad then
      if filled < 2 then looseSextets filled pads bs
      else if 4 ≤ filled + pads + 1 then some []
      else looseSextets filled (pads + 1) bs
    else match sextet? b with
      | none => looseSextets filled pads bs
      | some v => (looseSextets ((filled + 1) % 4) 0 bs).map (v :: ·)

/-- The bytes of a text read loosely; `none` when its last group is
    not complete. -/
def decodeLoose (bs : List UInt8) : Option (List UInt8) :=
  (looseSextets 0 0 bs).map octets

/-- White space between the characters of the alphabet. -/
def isGap (b : UInt8) : Bool :=
  b == 0x20 || b == 0x09 || b == 0x0a || b == 0x0d

/-- The sextets of a text read strictly, up to a hyphen. -/
def strictSextets (filled pads : Nat) : List UInt8 → Option (List Nat)
  | [] => if filled = 0 then some [] else none
  | b :: bs =>
    if b = 0x2d then if filled = 0 then some [] else none
    else if isGap b then strictSextets filled pads bs
    else if b = pad then
      if 2 ≤ pads then none else strictSextets ((filled + 1) % 4) (pads + 1) bs
    else match sextet? b with
      | none => none
      | some v =>
        if 0 < pads then none
        else (strictSextets ((filled + 1) % 4) 0 bs).map (v :: ·)

/-- The bytes of a text read strictly. -/
def decodeStrict (bs : List UInt8) : Option (List UInt8) :=
  (strictSextets 0 0 bs).map octets

end SpanPipeline.Text.Base64
