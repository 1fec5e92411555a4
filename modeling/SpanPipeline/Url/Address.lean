/-
  SpanPipeline.Url.Address
  ────────────────────────
  Literal internet addresses.

  Version 4: four decimal numbers up to 255 with no needless zero
  in front.  Version 6: eight groups of up to four hexadecimal
  digits, of which one run may be left out as `::` and the last two
  may be written as a version 4 address; a zone may follow after a
  percent sign.
-/
import SpanPipeline.Text.Cut
import SpanPipeline.Text.Percent

namespace SpanPipeline.Url

open Text

/-! ## §1. Version 4. -/

/-- One of the four numbers of a version 4 address. -/
def isOctet (cs : List Char) : Bool :=
  !cs.isEmpty && cs.length ≤ 3 && cs.all Char.isDigit
    && !(cs.head? == some '0' && cs.length != 1) && ofAscii 10 cs ≤ 255

/-- The text is a version 4 address. -/
def isAddress4 (cs : List Char) : Bool :=
  let parts := splitOn '.' cs
  parts.length == 4 && parts.all isOctet

/-! ## §2. Version 6. -/

/-- A group of a version 6 address. -/
def isGroup (cs : List Char) : Bool :=
  cs.length ≤ 4 && cs.all isHexDigit

/-- Where a run of groups is left out: the inner parts that are
    empty. -/
def gaps (parts : List (List Char)) : List Nat :=
  (List.range parts.length).filter fun i =>
    1 ≤ i && i + 1 < parts.length && (parts[i]?.getD []).isEmpty

/-- Groups with a run left out at part `gap`: a part at an end may
    be empty only next to the gap, and something is left out. -/
def isShortened (parts : List (List Char)) (gap : Nat) : Bool :=
  let firstEmpty := (parts.head?.getD []).isEmpty
  let lastEmpty := (parts.getLast?.getD []).isEmpty
  let high := if firstEmpty then gap - 1 else gap
  let low := parts.length - gap - 1 - (if lastEmpty then 1 else 0)
  !(firstEmpty && high != 0) && !(lastEmpty && low != 0) && high + low < 8
    && (parts.take high).all isGroup && (parts.drop (parts.length - low)).all isGroup

/-- The parts between the colons make a version 6 address. -/
def areGroups (parts : List (List Char)) : Bool :=
  if 9 < parts.length then false
  else match gaps parts with
    | [] => parts.length == 8 && parts.all fun p => !p.isEmpty && isGroup p
    | [gap] => isShortened parts gap
    | _ => false

/-- The text is a version 6 address without a zone. -/
def isPlainAddress6 (cs : List Char) : Bool :=
  let parts := splitOn ':' cs
  let last := parts.getLast?.getD []
  if parts.length < 3 then false
  else if last.contains '.' then
    isAddress4 last && areGroups (parts.dropLast ++ [['0'], ['0']])
  else areGroups parts

/-- The text is a version 6 address. -/
def isAddress6 (cs : List Char) : Bool :=
  match cut? '%' cs with
  | none => isPlainAddress6 cs
  | some (address, zone) => !zone.isEmpty && !zone.contains '%' && isPlainAddress6 address

end SpanPipeline.Url
