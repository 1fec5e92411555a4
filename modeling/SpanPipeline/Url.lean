/-
  SpanPipeline.Url
  ────────────────
  Splitting URLs into their components, and putting them together.

  Before a text is split, the control characters and spaces at its
  start are dropped, and tabs and line breaks wherever they stand.
  The scheme ends at the first colon, the network location follows
  two slashes and ends at a slash, question mark or number sign.

  A network location is refused when its brackets do not enclose an
  address that ends the host, or when a compatibility mapping would
  turn one of its characters into a delimiter.

  Main results:
    * `splitAuthority_append` — location and rest make up what was
      split.
    * `port_le` — a port is at most 65535.
-/
import SpanPipeline.Url.Address
import SpanPipeline.Text.Case
import SpanPipeline.Text.Quoted

namespace SpanPipeline

open Text

/-! ## §1. Components and faults. -/

/-- A URL by its components. -/
structure Url where
  scheme : List Char
  netloc : List Char
  path : List Char
  query : List Char
  fragment : List Char
  deriving DecidableEq, Repr, Inhabited

/-- Why a text is no usable URL. -/
inductive UrlFault where
  /-- Empty, with white space, or without a scheme or a host. -/
  | unusable
  /-- Brackets that do not match or do not enclose the host. -/
  | brackets
  /-- A malformed address of a future version. -/
  | futureAddress
  /-- Bracketed text that is no address. -/
  | notAddress (host : List Char)
  /-- A version 4 address in brackets. -/
  | bracketedAddress4
  /-- A character that a compatibility mapping turns into a
      delimiter. -/
  | foldsToDelimiter (netloc : List Char)
  /-- A port that is no decimal number. -/
  | portText (port : List Char)
  /-- A port above the largest one. -/
  | portRange
  /-- A port with more digits than a number text may hold. -/
  | portDigits (count : Nat)
  deriving DecidableEq, Repr

/-- The fault in words. -/
def UrlFault.message : UrlFault → String
  | .unusable => "invalid URI for request"
  | .brackets => "Invalid IPv6 URL"
  | .futureAddress => "IPvFuture address is invalid"
  | .notAddress host =>
    String.ofList (quoted host) ++ " does not appear to be an IPv4 or IPv6 address"
  | .bracketedAddress4 => "An IPv4 address cannot be in brackets"
  | .foldsToDelimiter netloc =>
    "netloc '" ++ String.ofList netloc ++ "' contains invalid characters under NFKC normalization"
  | .portText port =>
    "Port could not be cast to integer value as " ++ String.ofList (quoted port)
  | .portRange => "Port out of range 0-65535"
  | .portDigits count => tooManyDigits count

namespace Url

/-! ## §2. The network location. -/

/-- A character that ends the network location. -/
def endsAuthority (c : Char) : Bool :=
  c == '/' || c == '?' || c == '#'

/-- The network location at the start of a text, and the rest. -/
def splitAuthority (cs : List Char) : List Char × List Char :=
  (cs.takeWhile (!endsAuthority ·), cs.dropWhile (!endsAuthority ·))

theorem splitAuthority_append (cs : List Char) :
    (splitAuthority cs).1 ++ (splitAuthority cs).2 = cs :=
  List.takeWhile_append_dropWhile

/-- What follows the user information. -/
def hostPart (netloc : List Char) : List Char :=
  match cutLast? '@' netloc with
  | some (_, host) => host
  | none => netloc

/-- A form reserved for later versions: `v`, hexadecimal digits, a
    dot and at least one character. -/
def isFutureAddress (cs : List Char) : Bool :=
  match cut? '.' cs with
  | some ('v' :: version, rest) =>
    !version.isEmpty && version.all isHexDigit && !rest.isEmpty
  | _ => false

/-- What stands between brackets must be an address. -/
def checkBracketed (host : List Char) : Except UrlFault Unit :=
  if host.head? = some 'v' then
    if isFutureAddress host then .ok () else .error .futureAddress
  else if isAddress4 host then .error .bracketedAddress4
  else if isAddress6 host then .ok ()
  else .error (.notAddress host)

/-- Brackets come in pairs, nothing stands before them in the host
    and only a port after them. -/
def checkBrackets (netloc : List Char) : Except UrlFault Unit :=
  let opened := netloc.contains '['
  let closed := netloc.contains ']'
  if opened != closed then .error .brackets
  else if !opened then .ok ()
  else match cut? '[' (hostPart netloc) with
    | none =>
      checkBracketed (match cut? ':' (hostPart netloc) with
        | some (host, _) => host
        | none => hostPart netloc)
    | some (before, inside) =>
      if !before.isEmpty then .error .brackets
      else match cut? ']' inside with
        | none => checkBracketed inside
        | some (host, after) =>
          if !after.isEmpty && after.head? != some ':' then .error .brackets
          else checkBracketed host

/-- The characters that a compatibility mapping turns into one of
    the delimiters, alone or among others. -/
def delimiterLookalikes : List Nat :=
  [ 0x2047, 0x2048, 0x2049, 0x2100, 0x2101, 0x2105, 0x2106, 0x2a74, 0xfe13, 0xfe16,
    0xfe55, 0xfe56, 0xfe5f, 0xfe6b, 0xff03, 0xff0f, 0xff1a, 0xff1f, 0xff20 ]

/-- No character of the location folds to a delimiter. -/
def checkFolding (netloc : List Char) : Except UrlFault Unit :=
  if netloc.any (fun c => delimiterLookalikes.contains c.toNat) then
    .error (.foldsToDelimiter netloc)
  else .ok ()

/-! ## §3. Splitting. -/

/-- A character dropped at the start: a control or a space. -/
def isLeading (c : Char) : Bool := c.toNat ≤ 0x20

/-- A character dropped anywhere. -/
def isDropped (c : Char) : Bool := c == '\t' || c == '\r' || c == '\n'

/-- The text that is split. -/
def cleaned (cs : List Char) : List Char :=
  (cs.dropWhile isLeading).filter (!isDropped ·)

/-- A character of a scheme. -/
def isSchemeChar (c : Char) : Bool :=
  c.isAlphanum || c == '+' || c == '-' || c == '.'

/-- The scheme, in lower case, and what follows its colon. -/
def splitScheme (cs : List Char) : List Char × List Char :=
  match cut? ':' cs with
  | some (c :: scheme, rest) =>
    if c.isAlpha && scheme.all isSchemeChar then ((c :: scheme).map Char.toLower, rest)
    else ([], cs)
  | _ => ([], cs)

/-- What follows two slashes is a network location. -/
def splitNetloc : List Char → List Char × List Char
  | '/' :: '/' :: cs => splitAuthority cs
  | cs => ([], cs)

/-- The part before the first `sep` and the part after it, empty
    when there is none. -/
def splitAt (sep : Char) (cs : List Char) : List Char × List Char :=
  (cut? sep cs).getD (cs, [])

/-- The components of a text. -/
def split (text : List Char) : Except UrlFault Url := do
  let (scheme, rest) := splitScheme (cleaned text)
  let (netloc, rest) := splitNetloc rest
  checkBrackets netloc
  let (rest, fragment) := splitAt '#' rest
  let (path, query) := splitAt '?' rest
  checkFolding netloc
  return ⟨scheme, netloc, path, query, fragment⟩

/-! ## §4. Host, port and user. -/

/-- Host and port as they are written; an empty port is none. -/
def hostInfo (u : Url) : List Char × Option (List Char) :=
  let info := hostPart u.netloc
  let (host, port) := match cut? '[' info with
    | some (_, inside) =>
      let (host, after) := splitAt ']' inside
      (host, (splitAt ':' after).2)
    | none => splitAt ':' info
  (host, if port.isEmpty then none else some port)

/-- The host in lower case, up to a zone.  An empty host is none. -/
def hostname? (u : Url) : Option (List Char) :=
  let host := u.hostInfo.1
  if host.isEmpty then none
  else match cut? '%' host with
    | some (name, zone) => some (lower name ++ '%' :: zone)
    | none => some (lower host)

/-- The largest port. -/
def maxPort : Nat := 65535

/-- The port, if one is given. -/
def port? (u : Url) : Except UrlFault (Option Nat) :=
  match u.hostInfo.2 with
  | none => .ok none
  | some digits =>
    if !digits.all Char.isDigit then .error (.portText digits)
    else if maxDigits < digits.length then .error (.portDigits digits.length)
    else if maxPort < ofAscii 10 digits then .error .portRange
    else .ok (some (ofAscii 10 digits))

theorem port_le {u : Url} {n : Nat} (h : u.port? = .ok (some n)) : n ≤ maxPort := by
  unfold port? at h
  split at h
  · simp at h
  · split at h
    · simp at h
    · split at h
      · simp at h
      · split at h
        · simp at h
        · simp only [Except.ok.injEq, Option.some.injEq] at h
          omega

/-- What stands before the host. -/
def userInfo? (u : Url) : Option (List Char) :=
  (cutLast? '@' u.netloc).map Prod.fst

/-- The user name. -/
def username? (u : Url) : Option (List Char) :=
  u.userInfo?.map fun info => (splitAt ':' info).1

/-- The password, where a colon announces one. -/
def password? (u : Url) : Option (List Char) :=
  u.userInfo?.bind fun info => (cut? ':' info).map Prod.snd

/-! ## §5. Putting together. -/

/-- A component with its mark in front, unless it is empty. -/
def marked (mark : Char) (cs : List Char) : List Char :=
  if cs.isEmpty then [] else mark :: cs

/-- The text of a URL with a scheme and a network location. -/
def unsplit (u : Url) : List Char :=
  u.scheme ++ ':' :: '/' :: '/' :: u.netloc ++ u.path ++ marked '?' u.query
    ++ marked '#' u.fragment

end Url

end SpanPipeline
