/-
  SpanPipeline.Tls.Der
  ────────────────────
  Structures in tag-length-value encoding, and the shapes that
  certificates, revocation lists and private keys have in it.

  A shape says which elements stand where.  The content of an
  element without structure is looked at only as far as its type
  demands it: a truth value is one byte, a number and an object
  identifier are written in the shortest way.

  Main results:
    * `readElement?_length` — reading an element takes some bytes,
      so that splitting a content into elements ends.
-/
import SpanPipeline.Text.Utf8

namespace SpanPipeline.Tls

/-! ## §1. Elements. -/

/-- An element: its tag byte and its content. -/
structure Element where
  tag : UInt8
  content : List UInt8
  deriving DecidableEq, Repr

/-- The number that bytes make, most significant first. -/
def bigEndian (bs : List UInt8) : Nat :=
  bs.foldl (fun n b => n * 256 + b.toNat) 0

/-- A length and the bytes after it. -/
def readLength? : List UInt8 → Option (Nat × List UInt8)
  | [] => none
  | b :: bs =>
    if b < 0x80 then some (b.toNat, bs)
    else
      let count := b.toNat - 0x80
      if count = 0 || 8 < count || bs.length < count then none
      else some (bigEndian (bs.take count), bs.drop count)

/-- The element at the start of some bytes, and the rest. -/
def readElement? : List UInt8 → Option (Element × List UInt8)
  | [] => none
  | tag :: bs =>
    if tag.toNat % 32 = 31 then none
    else match readLength? bs with
      | none => none
      | some (size, rest) =>
        if rest.length < size then none
        else some (⟨tag, rest.take size⟩, rest.drop size)

theorem readLength?_length {bs rest : List UInt8} {n : Nat}
    (h : readLength? bs = some (n, rest)) : rest.length ≤ bs.length := by
  unfold readLength? at h
  split at h
  · simp at h
  · split at h
    · simp only [Option.some.injEq, Prod.mk.injEq] at h
      simp [← h.2]
    · simp only at h
      split at h
      · simp at h
      · simp only [Option.some.injEq, Prod.mk.injEq] at h
        rw [← h.2]
        simp only [List.length_drop, List.length_cons]
        omega

theorem readElement?_length {bs rest : List UInt8} {e : Element}
    (h : readElement? bs = some (e, rest)) : rest.length < bs.length := by
  unfold readElement? at h
  split at h
  · simp at h
  · split at h
    · simp at h
    · split at h
      · simp at h
      · rename_i hl
        have := readLength?_length hl
        split at h
        · simp at h
        · simp only [Option.some.injEq, Prod.mk.injEq] at h
          rw [← h.2]
          simp only [List.length_drop, List.length_cons]
          omega

/-- The elements that make up a content. -/
def elements? (bs : List UInt8) : Option (List Element) :=
  if bs.isEmpty then some []
  else match h : readElement? bs with
    | none => none
    | some (e, rest) =>
      have : rest.length < bs.length := readElement?_length h
      (elements? rest).map (e :: ·)
  termination_by bs.length

/-! ## §2. Shapes. -/

/-- What an element has to look like. -/
inductive Shape where
  /-- Any element. -/
  | any
  /-- An element without structure, with one of some tags. -/
  | plain (tags : List UInt8)
  /-- Precisely the given element. -/
  | literal (e : Element)
  /-- A fixed sequence of fields; an optional one may be missing. -/
  | fields (tag : UInt8) (items : List (Bool × Shape))
  /-- Any number of elements of one shape. -/
  | repeated (tag : UInt8) (item : Shape)

/-- The content of an object identifier: numbers in base 128, the last
    byte of each below 128, and none with an empty digit in front. -/
def identifierContent (c : List UInt8) : Bool :=
  !c.isEmpty && (c.getLast?.getD 0x80) < 0x80
    && (((0x00 : UInt8) :: c).zip c).all fun (before, b) => !(before < 0x80 && b == 0x80)

/-- A content fit for its type. -/
def plainContent (e : Element) : Bool :=
  match e.tag.toNat, e.content with
  | 1, c => c.length == 1
  | 2, c =>
    match c with
    | [] => false
    | [_] => true
    | a :: b :: _ => !(a == 0x00 && b < 0x80) && !(a == 0xff && 0x80 ≤ b)
  | 3, c =>
    match c with
    | [] => false
    | unused :: _ => unused ≤ 7
  | 5, c => c.isEmpty
  | 6, c => identifierContent c
  | 12, c => (Text.decodeUtf8 c).isOk
  | 28, c => c.length % 4 == 0
  | 30, c => c.length % 2 == 0
  | _, _ => true

namespace Shape

/-- The tag of an element allows the shape. -/
def starts (tag : UInt8) : Shape → Bool
  | .any => true
  | .plain tags => tags.contains tag
  | .literal e => e.tag == tag
  | .fields t _ => t == tag
  | .repeated t _ => t == tag

/-- The first of some elements can be the given field. -/
def startsItem (es : List Element) (item : Bool × Shape) : Bool :=
  match es with
  | [] => false
  | e :: _ => starts e.tag item.2

mutual
/-- An element has the shape. -/
def fits : Shape → Element → Bool
  | .any, _ => true
  | .plain tags, e => tags.contains e.tag && plainContent e
  | .literal x, e => x == e
  | .fields tag items, e =>
    e.tag == tag && match elements? e.content with
      | none => false
      | some es => fitsAll items es
  | .repeated tag item, e =>
    e.tag == tag && match elements? e.content with
      | none => false
      | some es => es.all fun x => fits item x

/-- A sequence of elements has the given fields. -/
def fitsAll : List (Bool × Shape) → List Element → Bool
  | [], es => es.isEmpty
  | item :: items, es =>
    if startsItem es item then fitsHead item es && fitsAll items es.tail
    else item.1 && fitsAll items es

/-- The first of some elements has the shape of a field. -/
def fitsHead : Bool × Shape → List Element → Bool
  | _, [] => false
  | (_, shape), e :: _ => fits shape e
end

/-- A field that must be there. -/
def needed (s : Shape) : Bool × Shape := (false, s)

/-- A field that may be missing. -/
def optional (s : Shape) : Bool × Shape := (true, s)

end Shape

/-! ## §3. Certificates, revocation lists and keys. -/

namespace Shape

/-- A number. -/
def number : Shape := .plain [0x02]

/-- A sequence of bits. -/
def bits : Shape := .plain [0x03]

/-- A sequence of bytes. -/
def bytes : Shape := .plain [0x04]

/-- An object identifier. -/
def identifier : Shape := .plain [0x06]

/-- A point in time. -/
def time : Shape := .plain [0x17, 0x18]

/-- An algorithm with its parameters. -/
def algorithm : Shape := .fields 0x30 [needed identifier, optional .any]

/-- A text in one of several alphabets. -/
def words : Shape := .plain [0x03, 0x0c, 0x12, 0x13, 0x14, 0x16, 0x1c, 0x1e, 0x30]

/-- A distinguished name. -/
def name : Shape :=
  .repeated 0x30 (.repeated 0x31 (.fields 0x30 [needed identifier, needed words]))

/-- A list of extensions. -/
def extensions : Shape :=
  .repeated 0x30
    (.fields 0x30 [needed identifier, optional (.plain [0x01]), needed bytes])

/-- What a certificate says. -/
def certificateBody : Shape :=
  .fields 0x30
    [ optional (.fields 0xa0 [needed number]), needed number, needed algorithm, needed name,
      needed (.fields 0x30 [needed time, needed time]), needed name,
      needed (.fields 0x30 [needed algorithm, needed bits]),
      optional (.plain [0x81]), optional (.plain [0x82]),
      optional (.fields 0xa3 [needed extensions]) ]

/-- A certificate. -/
def certificate : Shape :=
  .fields 0x30 [needed certificateBody, needed algorithm, needed bits]

/-- What may follow a trusted certificate. -/
def trust : Shape :=
  .fields 0x30
    [ optional (.repeated 0x30 identifier), optional (.repeated 0xa0 identifier),
      optional (.plain [0x0c]), optional bytes, optional (.repeated 0xa1 algorithm) ]

/-- What a revocation list says. -/
def revocationBody : Shape :=
  .fields 0x30
    [ optional number, needed algorithm, needed name, needed time, optional time,
      optional (.repeated 0x30 (.fields 0x30 [needed number, needed time, optional extensions])),
      optional (.fields 0xa0 [needed extensions]) ]

/-- A revocation list. -/
def revocationList : Shape :=
  .fields 0x30 [needed revocationBody, needed algorithm, needed bits]

/-- A private key of `count` numbers. -/
def numericKey (count : Nat) : Shape :=
  .fields 0x30 (List.replicate count (needed number) ++ [optional .any])

/-- A private key on a curve. -/
def curveKey : Shape :=
  .fields 0x30
    [ needed number, needed bytes, optional (.fields 0xa0 [needed .any]),
      optional (.fields 0xa1 [needed bits]) ]

/-- A private key with its algorithm in front. -/
def wrappedKey (algorithm : Shape) : Shape :=
  .fields 0x30
    [ needed number, needed (.fields 0x30 [needed algorithm, optional .any]), needed bytes,
      optional (.repeated 0xa0 .any), optional (.plain [0x81]) ]

end Shape

/-! ## §4. Kinds of private keys. -/

/-- The algorithms that private keys belong to. -/
inductive KeyAlgorithm where
  | rsa
  | rsaPss
  | dh
  | dhx
  | dsa
  | curve
  | ed25519
  | ed448
  | x25519
  | x448
  deriving DecidableEq, Repr

namespace KeyAlgorithm

/-- All algorithms. -/
def all : List KeyAlgorithm := 
  [.rsa, .rsaPss, .dh, .dhx, .dsa, .curve, .ed25519, .ed448, .x25519, .x448]

/-- The name of an algorithm. -/
def name : KeyAlgorithm → String
  | .rsa => "RSA"
  | .rsaPss => "RSA-PSS"
  | .dh => "DH"
  | .dhx => "X9.42 DH"
  | .dsa => "DSA"
  | .curve => "EC"
  | .ed25519 => "ED25519"
  | .ed448 => "ED448"
  | .x25519 => "X25519"
  | .x448 => "X448"

/-- The object identifier of an algorithm. -/
def identifier : KeyAlgorithm → List UInt8
  | .rsa => [0x2a, 0x86, 0x48, 0x86, 0xf7, 0x0d, 0x01, 0x01, 0x01]
  | .rsaPss => [0x2a, 0x86, 0x48, 0x86, 0xf7, 0x0d, 0x01, 0x01, 0x0a]
  | .dh => [0x2a, 0x86, 0x48, 0x86, 0xf7, 0x0d, 0x01, 0x03, 0x01]
  | .dhx => [0x2a, 0x86, 0x48, 0xce, 0x3e, 0x02, 0x01]
  | .dsa => [0x2a, 0x86, 0x48, 0xce, 0x38, 0x04, 0x01]
  | .curve => [0x2a, 0x86, 0x48, 0xce, 0x3d, 0x02, 0x01]
  | .ed25519 => [0x2b, 0x65, 0x70]
  | .ed448 => [0x2b, 0x65, 0x71]
  | .x25519 => [0x2b, 0x65, 0x6e]
  | .x448 => [0x2b, 0x65, 0x6f]

/-- The shapes of a private key of the algorithm. -/
def shapes (a : KeyAlgorithm) : List Shape :=
  let own := match a with
    | .rsa => [Shape.numericKey 9]
    | .dsa => [Shape.numericKey 6]
    | .curve => [Shape.curveKey]
    | _ => []
  own ++ [Shape.wrappedKey (.literal ⟨0x06, a.identifier⟩)]

end KeyAlgorithm

/-! ## §5. Whole contents. -/

/-- The bytes start with an element of the shape. -/
def startsWith (shape : Shape) (bs : List UInt8) : Bool :=
  match readElement? bs with
  | none => false
  | some (e, _) => shape.fits e

/-- The bytes start with a certificate; what follows is trust
    information, if anything follows. -/
def startsWithTrusted (bs : List UInt8) : Bool :=
  match readElement? bs with
  | none => false
  | some (e, rest) => Shape.certificate.fits e && (rest.isEmpty || startsWith .trust rest)

end SpanPipeline.Tls
