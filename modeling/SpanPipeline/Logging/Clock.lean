/-
  SpanPipeline.Logging.Clock
  ──────────────────────────
  Times in log lines, laid out by a format with directives.

  A directive is a percent sign and a letter, with flags, a width
  and a modifier between them.  What is no directive stands for
  itself.  Times are universal.

  Main results:
    * `layOut_nil` — an empty format gives an empty text.
-/
import SpanPipeline.Calendar
import SpanPipeline.Text.Blank
import SpanPipeline.Text.Digits

namespace SpanPipeline.Logging

open Calendar Text

/-! ## §1. Parts of a time. -/

/-- The start of the count of seconds. -/
def origin : DateTime := ⟨⟨1970, 1, 1⟩, 0, 0, 0, 0, some 0⟩

/-- The names of the days, from Sunday. -/
def dayNames : List String :=
  ["Sunday", "Monday", "Tuesday", "Wednesday", "Thursday", "Friday", "Saturday"]

/-- The names of the months. -/
def monthNames : List String :=
  [ "January", "February", "March", "April", "May", "June", "July", "August", "September",
    "October", "November", "December" ]

/-- The day of the week, counted from Sunday. -/
def weekday (d : Date) : Nat := (daysBeforeYear d.year + dayOfYear d + 1) % 7

/-- The week of the year, where weeks start at a day of the week and
    the days before the first such day are week zero. -/
def weekFrom (firstDay : Nat) (d : Date) : Nat :=
  (dayOfYear d + 7 - (weekday d + 7 - firstDay) % 7) / 7

/-- The number of weeks of a year, where the first is the one with
    the first Thursday. -/
def weeksIn (year : Nat) : Nat :=
  let first := weekday ⟨year, 1, 1⟩
  if first = 4 || first = 3 && isLeap year then 53 else 52

/-- The year and the week, where the first week is the one with the
    first Thursday. -/
def yearAndWeek (d : Date) : Nat × Nat :=
  let week := (dayOfYear d + 10 - (weekday d + 6) % 7) / 7
  if week = 0 then (d.year - 1, weeksIn (d.year - 1))
  else if weeksIn d.year < week then (d.year + 1, 1)
  else (d.year, week)

/-- The hour on a clock of twelve hours. -/
def hourOfTwelve (hour : Nat) : Nat := if hour % 12 = 0 then 12 else hour % 12

/-- Seconds since the origin. -/
def secondsSince (t : DateTime) : Int :=
  let days (t : DateTime) : Int := daysBeforeYear t.date.year + dayOfYear t.date
  (days t - days origin) * 86400 + t.hour * 3600 + t.minute * 60 + t.second

/-! ## §2. Directives. -/

/-- A part of a time. -/
inductive Part where
  /-- A number with its width, filled with zeros unless blanks are
      said. -/
  | number (n width : Nat) (blanks : Bool)
  /-- A word; `lowered` when the flag for the other case lowers
      it. -/
  | word (s : String) (lowered : Bool)
  /-- Several parts put together, or a character. -/
  | text (s : String)
  /-- The offset from universal time, which is none: a sign and four
      digits. -/
  | offset

/-- The part that a letter stands for. -/
def part? (t : DateTime) (letter : Char) : Option Part :=
  let d := t.date
  let two (n : Nat) : Option Part := some (.number n 2 false)
  let name (names : List String) (i : Nat) (short : Bool) : Option Part :=
    let s := (names[i]?).getD ""
    some (.word (if short then String.ofList (s.toList.take 3) else s) false)
  let clock (parts : List Nat) : String := String.intercalate ":" (parts.map (padded 2))
  let noon := if t.hour < 12 then "AM" else "PM"
  let slashed := String.intercalate "/" [padded 2 d.month, padded 2 d.day, padded 2 (d.year % 100)]
  let short (names : List String) (i : Nat) : String :=
    String.ofList (((names[i]?).getD "").toList.take 3)
  match letter with
  | 'a' => name dayNames (weekday d) true
  | 'A' => name dayNames (weekday d) false
  | 'b' => name monthNames (d.month - 1) true
  | 'h' => name monthNames (d.month - 1) true
  | 'B' => name monthNames (d.month - 1) false
  | 'c' =>
    let day := toString d.day
    some (.text (short dayNames (weekday d) ++ " " ++ short monthNames (d.month - 1) ++ " "
      ++ (if d.day < 10 then " " else "") ++ day ++ " " ++ clock [t.hour, t.minute, t.second]
      ++ " " ++ toString d.year))
  | 'C' => two (d.year / 100)
  | 'd' => two d.day
  | 'D' => some (.text slashed)
  | 'x' => some (.text slashed)
  | 'e' => some (.number d.day 2 true)
  | 'F' => some (.text (toString d.year ++ "-" ++ padded 2 d.month ++ "-" ++ padded 2 d.day))
  | 'g' => two ((yearAndWeek d).1 % 100)
  | 'G' => some (.number (yearAndWeek d).1 1 false)
  | 'H' => two t.hour
  | 'I' => two (hourOfTwelve t.hour)
  | 'j' => some (.number (dayOfYear d + 1) 3 false)
  | 'k' => some (.number t.hour 2 true)
  | 'l' => some (.number (hourOfTwelve t.hour) 2 true)
  | 'm' => two d.month
  | 'M' => two t.minute
  | 'n' => some (.text "\n")
  | 'p' => some (.word noon true)
  | 'P' => some (.text (if t.hour < 12 then "am" else "pm"))
  | 'r' => some (.text (clock [hourOfTwelve t.hour, t.minute, t.second] ++ " " ++ noon))
  | 'R' => some (.text (clock [t.hour, t.minute]))
  | 's' => some (.number (secondsSince t).toNat 1 true)
  | 'S' => two t.second
  | 't' => some (.text "\t")
  | 'T' => some (.text (clock [t.hour, t.minute, t.second]))
  | 'X' => some (.text (clock [t.hour, t.minute, t.second]))
  | 'u' => some (.number ((weekday d + 6) % 7 + 1) 1 false)
  | 'U' => two (weekFrom 0 d)
  | 'V' => two (yearAndWeek d).2
  | 'w' => some (.number (weekday d) 1 false)
  | 'W' => two (weekFrom 1 d)
  | 'y' => two (d.year % 100)
  | 'Y' => some (.number d.year 4 false)
  | 'z' => some .offset
  | 'Z' => some (.text "UTC")
  | '%' => some (.text "%")
  | _ => none

/-- The letters that a modifier may stand before. -/
def modifiable (modifier letter : Char) : Bool :=
  (if modifier = 'E' then "cnprstuxyzCPRTXYZ%"
    else "bdeghjklmnprstuwyzBCGHIMPRSTUVWZ%").toList.contains letter

/-- A directive as it is written. -/
structure Directive where
  /-- What fills the width, unless the letter decides: blanks,
      nothing, or zeros. -/
  fill : Option Char := none
  /-- Upper case. -/
  upper : Bool := false
  /-- The other case. -/
  swapped : Bool := false
  width : Nat := 0
  letter : Option Char

/-- A text at the right of a width. -/
def alignRight (fill : Char) (width : Nat) (cs : List Char) : List Char :=
  List.replicate (width - cs.length) fill ++ cs

namespace Directive

/-- A text of at least the width. -/
def align (d : Directive) (cs : List Char) : List Char :=
  alignRight (if d.fill = some '0' then '0' else ' ') d.width cs

/-- A number of at least the width. -/
def number (d : Directive) (n width : Nat) (blanks : Bool) : List Char :=
  let digits := Nat.toDigits 10 n
  match d.fill.getD (if blanks then '_' else '0') with
  | '-' => alignRight ' ' d.width digits
  | '_' => alignRight ' ' (max d.width width) digits
  | _ => alignRight '0' (max d.width width) digits

/-- A part in the form that a directive asks for. -/
def write (d : Directive) : Part → List Char
  | .number n width blanks => d.number n width blanks
  | .word s lowered =>
    let cs := s.toList
    d.align (if d.swapped then cs.map (if lowered then Char.toLower else Char.toUpper)
      else if d.upper then cs.map Char.toUpper
      else cs)
  | .text s =>
    d.align (if d.upper && d.letter = some 'c' then s.toList.map Char.toUpper else s.toList)
  | .offset => d.align ['+'] ++ d.number 0 4 false

/-- What is no directive stands for itself. -/
def verbatim (d : Directive) (cs : List Char) : List Char :=
  d.align ('%' :: if d.upper then cs.map Char.toUpper else cs)

end Directive

/-- A flag of a directive. -/
def isFlag (c : Char) : Bool :=
  c == '_' || c == '-' || c == '0' || c == '^' || c == '#'

/-- The directive after a percent sign, and what follows it.  The
    letter is that after a modifier; at the end of the text there is
    none. -/
def readDirective (cs : List Char) : Directive × Option Char × List Char :=
  let flags := cs.takeWhile isFlag
  let rest := cs.dropWhile isFlag
  let d : Directive :=
    { fill := (flags.filter fun c => c == '_' || c == '-' || c == '0').getLast?
      upper := flags.contains '^'
      swapped := flags.contains '#'
      width := ofAscii 10 (rest.takeWhile Char.isDigit)
      letter := none }
  match rest.dropWhile Char.isDigit with
  | [] => (d, none, [])
  | m :: rest =>
    if m = 'E' || m = 'O' then ({ d with letter := rest.head? }, some m, rest.tail)
    else ({ d with letter := some m }, none, rest)

/-- The part that a directive stands for. -/
def Directive.part? (d : Directive) (modifier : Option Char) (t : DateTime) : Option Part := do
  let letter ← d.letter
  guard (modifier.all (modifiable · letter))
  Logging.part? t letter

/-- The directive at the start of a text that follows a percent
    sign, written out, and the number of characters it takes. -/
def directiveText (t : DateTime) (cs : List Char) : List Char × Nat :=
  let (d, modifier, rest) := readDirective cs
  let size := cs.length - rest.length
  match d.part? modifier t with
  | some p => (d.write p, size)
  | none => (d.verbatim (cs.take size), size)

/-- Lay out a time; `skip` characters are left out at the start. -/
def layOutFrom (t : DateTime) : Nat → List Char → List Char
  | _, [] => []
  | skip + 1, _ :: cs => layOutFrom t skip cs
  | 0, c :: cs =>
    if c = '%' then
      let (text, size) := directiveText t cs
      text ++ layOutFrom t size cs
    else c :: layOutFrom t 0 cs

/-- A time laid out by a format. -/
def layOut (format : List Char) (t : DateTime) : List Char :=
  layOutFrom t 0 format

theorem layOut_nil (t : DateTime) : layOut [] t = [] := rfl

/-- The time of a line.  Without a format it has the date, the clock
    and the milliseconds. -/
def timeText (format : String) (t : DateTime) : List Char :=
  if format = "" then
    layOut "%Y-%m-%d %H:%M:%S".toList t ++ (',' :: (padded 3 (t.microsecond / 1000)).toList)
  else layOut format.toList t

end SpanPipeline.Logging
