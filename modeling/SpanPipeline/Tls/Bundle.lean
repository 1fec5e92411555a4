/-
  SpanPipeline.Tls.Bundle
  ───────────────────────
  Bundles of trusted certificates.

  A text is a bundle when all its blocks are well formed and at
  least one of them is a certificate or a revocation list.  Private
  keys may stand in it but must be sound; one with an encryption
  header is taken on trust.  Blocks with other labels are ignored.

  Main results:
    * `bundleFault?_eq_none_iff` — what makes a bundle.
-/
import SpanPipeline.Tls.Armor
import SpanPipeline.Tls.Der

namespace SpanPipeline.Tls

/-! ## §1. Kinds of blocks. -/

/-- What a block holds, by its label. -/
inductive BlockKind where
  | certificate
  | trusted
  | revocationList
  /-- A private key of one of some algorithms. -/
  | key (algorithms : List KeyAlgorithm)
  | other
  deriving DecidableEq, Repr

/-- How the labels of private keys end. -/
def keyLabel : String := "PRIVATE KEY"

/-- The kind of a private key's label.  A name that is no
    algorithm's stands for any of them. -/
def BlockKind.ofKeyLabel (label : String) : BlockKind :=
  if label = "ENCRYPTED " ++ keyLabel then .other
  else match KeyAlgorithm.all.find? fun a => a.name ++ " " ++ keyLabel == label with
    | some a => .key [a]
    | none => .key KeyAlgorithm.all

/-- The kind of a label. -/
def BlockKind.ofLabel (label : List UInt8) : BlockKind :=
  let name := String.ofList (label.map fun b => Char.ofNat b.toNat)
  if name = "CERTIFICATE" || name = "X509 CERTIFICATE" then .certificate
  else if name = "TRUSTED CERTIFICATE" then .trusted
  else if name = "X509 CRL" then .revocationList
  else if name = keyLabel || (" " ++ keyLabel).toList.isSuffixOf name.toList then .ofKeyLabel name
  else .other

/-- A certificate or a revocation list counts as trust material. -/
def BlockKind.isTrust : BlockKind → Bool
  | .certificate => true
  | .trusted => true
  | .revocationList => true
  | _ => false

/-! ## §2. Encryption headers. -/

/-- The ciphers a key may be encrypted with, and the bytes of their
    initial values. -/
def ciphers : List (String × Nat) :=
  [ ("DES-CBC", 8), ("DES-EDE3-CBC", 8), ("AES-128-CBC", 16), ("AES-192-CBC", 16),
    ("AES-256-CBC", 16), ("CAMELLIA-128-CBC", 16), ("CAMELLIA-192-CBC", 16),
    ("CAMELLIA-256-CBC", 16) ]

/-- A space or a tab. -/
def isPadding (c : Char) : Bool := c == ' ' || c == '\t'

/-- A hexadecimal digit. -/
def isHex (c : Char) : Bool :=
  c.isDigit || 'a' ≤ c && c ≤ 'f' || 'A' ≤ c && c ≤ 'F'

/-- What follows `start` in a text that begins with it, without the
    spaces in front. -/
def afterWord? (start : String) (cs : List Char) : Option (List Char) :=
  if start.toList.isPrefixOf cs then some ((cs.drop start.length).dropWhile isPadding) else none

/-- A header that says how a key is encrypted. -/
def isEncryptionHeader (header : List UInt8) : Bool :=
  let cs := header.map fun b => Char.ofNat b.toNat
  let parsed := do
    let cs ← afterWord? "Proc-Type:" cs
    let cs ← afterWord? "4," cs
    let cs ← afterWord? "ENCRYPTED" cs
    let cs ← afterWord? "\n" cs
    let cs ← afterWord? "DEK-Info:" cs
    let name := cs.takeWhile fun c => !isPadding c && c != ','
    let size ← ciphers.lookup (String.ofList name)
    let cs ← afterWord? "," ((cs.drop name.length).dropWhile isPadding)
    let digits := cs.take (2 * size)
    return digits.length == 2 * size && digits.all isHex
  parsed.getD false

/-- The longest header that a key without encryption may have. -/
def longestPlainHeader : Nat := 10

/-! ## §3. Bundles. -/

/-- A block is what its label says. -/
def isSound (b : ArmorBlock) : Bool :=
  match BlockKind.ofLabel b.label with
  | .certificate => b.header.isEmpty && startsWith .certificate b.content
  | .trusted => b.header.isEmpty && startsWithTrusted b.content
  | .revocationList => b.header.isEmpty && startsWith .revocationList b.content
  | .key algorithms =>
    if longestPlainHeader < b.header.length then isEncryptionHeader b.header
    else b.header.isEmpty
      && algorithms.any fun a => a.shapes.any fun shape => startsWith shape b.content
  | .other => true

/-- How the library reports a block that is not well formed. -/
def malformedBlock : String := "[X509] PEM lib (_ssl.c:4166)"

/-- How the library reports a text without trust material. -/
def noTrust : String :=
  "[X509: NO_CERTIFICATE_OR_CRL_FOUND] no certificate or crl found (_ssl.c:4166)"

/-- What is wrong with a text as a bundle of trusted certificates. -/
def bundleFault? (content : List UInt8) : Option String :=
  match armorBlocks? content with
  | none => some malformedBlock
  | some blocks =>
    if !blocks.all isSound then some malformedBlock
    else if blocks.any fun b => (BlockKind.ofLabel b.label).isTrust then none
    else some noTrust

/-- The empty text holds no trust material. -/
theorem bundleFault?_nil : bundleFault? [] = some noTrust := by
  simp [bundleFault?, armorBlocks?, armorLines, readBlocks?, findBlock?]

theorem bundleFault?_eq_none_iff {content : List UInt8} :
    bundleFault? content = none ↔ ∃ blocks, armorBlocks? content = some blocks
      ∧ (∀ b ∈ blocks, isSound b = true)
      ∧ ∃ b ∈ blocks, (BlockKind.ofLabel b.label).isTrust = true := by
  unfold bundleFault?
  cases armorBlocks? content with
  | none => simp
  | some blocks =>
    by_cases hsound : ∀ b ∈ blocks, isSound b = true
    · have hall : blocks.all isSound = true := List.all_eq_true.mpr hsound
      simpa [hall] using fun _ _ _ => hsound
    · have hnot : blocks.all isSound = false := by
        rwa [← Bool.not_eq_true, List.all_eq_true]
      simp [hnot, hsound]

end SpanPipeline.Tls
