/-
  SpanPipeline.Calendar
  ─────────────────────
  Dates and times of the proleptic Gregorian calendar.

  Years run from 1 to 9999.  A time may carry an offset from
  universal time, in minutes, of less than a day.

  Main results:
    * `Date.make_eq_ok` — which fields make a date.
-/

namespace SpanPipeline.Calendar

/-! ## §1. Fields. -/

/-- A day of the calendar. -/
structure Date where
  year : Nat
  month : Nat
  day : Nat
  deriving DecidableEq, Repr, Inhabited

/-- A day with a time of day, to the microsecond. -/
structure DateTime where
  date : Date
  hour : Nat
  minute : Nat
  second : Nat
  microsecond : Nat
  /-- Minutes ahead of universal time. -/
  offset : Option Int
  deriving DecidableEq, Repr, Inhabited

/-- Why fields make no date or time. -/
inductive CalendarFault where
  | year (n : Nat)
  | month
  | day
  | hour
  | minute
  | second
  | offset (minutes : Int)
  deriving DecidableEq, Repr

/-- The number `n` in at least `width` decimal digits. -/
def padded (width n : Nat) : String :=
  let digits := Nat.toDigits 10 n
  String.ofList (List.replicate (width - digits.length) '0' ++ digits)

/-- A length of time given in minutes, as its days and seconds. -/
def durationText (minutes : Int) : String :=
  let days := minutes / 1440
  let seconds := minutes % 1440 * 60
  let parts := (if days = 0 then [] else [s!"days={days}"])
    ++ (if seconds = 0 then [] else [s!"seconds={seconds}"])
  "datetime.timedelta(" ++ (if parts.isEmpty then "0" else String.intercalate ", " parts) ++ ")"

/-- The fault in words. -/
def CalendarFault.message : CalendarFault → String
  | .year n => s!"year {n} is out of range"
  | .month => "month must be in 1..12"
  | .day => "day is out of range for month"
  | .hour => "hour must be in 0..23"
  | .minute => "minute must be in 0..59"
  | .second => "second must be in 0..59"
  | .offset m => "offset must be a timedelta strictly between -timedelta(hours=24) and "
      ++ "timedelta(hours=24), not " ++ durationText m ++ "."

/-! ## §2. Building dates and times. -/

/-- Every fourth year has a leap day, but of the full centuries
    only every fourth one. -/
def isLeap (year : Nat) : Bool :=
  year % 4 == 0 && (year % 100 != 0 || year % 400 == 0)

/-- The number of days in a month. -/
def daysInMonth (year month : Nat) : Nat :=
  if month = 2 then (if isLeap year then 29 else 28)
  else if [4, 6, 9, 11].contains month then 30
  else 31

/-- The date with the given fields. -/
def Date.make (year month day : Nat) : Except CalendarFault Date :=
  if year < 1 || 9999 < year then .error (.year year)
  else if month < 1 || 12 < month then .error .month
  else if day < 1 || daysInMonth year month < day then .error .day
  else .ok ⟨year, month, day⟩

theorem Date.make_eq_ok {year month day : Nat} {d : Date} :
    Date.make year month day = .ok d ↔
      d = ⟨year, month, day⟩ ∧ (1 ≤ year ∧ year ≤ 9999) ∧ (1 ≤ month ∧ month ≤ 12)
        ∧ 1 ≤ day ∧ day ≤ daysInMonth year month := by
  simp only [Date.make, Bool.or_eq_true, decide_eq_true_eq]
  split
  · simp; omega
  · split
    · simp; omega
    · split
      · simp; omega
      · simp only [Except.ok.injEq]
        constructor
        · intro h
          exact ⟨h.symm, by omega, by omega, by omega, by omega⟩
        · intro h
          exact h.1.symm

/-- The time with the given fields.  An offset is looked at first,
    then the date, then the time of day. -/
def DateTime.make (year month day hour minute second microsecond : Nat) (offset : Option Int) :
    Except CalendarFault DateTime := do
  if let some m := offset then
    if m ≤ -1440 || 1440 ≤ m then throw (.offset m)
  let date ← Date.make year month day
  if 23 < hour then throw .hour
  if 59 < minute then throw .minute
  if 59 < second then throw .second
  return ⟨date, hour, minute, second, microsecond, offset⟩

/-! ## §3. Texts. -/

/-- A date as `YYYY-MM-DD`. -/
def Date.isoText (d : Date) : String :=
  padded 4 d.year ++ "-" ++ padded 2 d.month ++ "-" ++ padded 2 d.day

/-- A time as `YYYY-MM-DDTHH:MM:SS`, with microseconds unless they
    are zero, and with the offset if there is one. -/
def DateTime.isoText (t : DateTime) : String :=
  let offset := match t.offset with
    | none => ""
    | some m => (if m < 0 then "-" else "+") ++ padded 2 (m.natAbs / 60) ++ ":"
        ++ padded 2 (m.natAbs % 60)
  t.date.isoText ++ "T" ++ padded 2 t.hour ++ ":" ++ padded 2 t.minute ++ ":"
    ++ padded 2 t.second
    ++ (if t.microsecond = 0 then "" else "." ++ padded 6 t.microsecond) ++ offset

/-- The constructor form of a date. -/
def Date.display (d : Date) : String :=
  s!"datetime.date({d.year}, {d.month}, {d.day})"

/-- The constructor form of a time.  Seconds and microseconds are
    left out while they and all that follows are zero. -/
def DateTime.display (t : DateTime) : String :=
  let fine :=
    if t.microsecond ≠ 0 then s!", {t.second}, {t.microsecond}"
    else if t.second ≠ 0 then s!", {t.second}"
    else ""
  let zone := match t.offset with
    | none => ""
    | some 0 => ", tzinfo=datetime.timezone.utc"
    | some m => ", tzinfo=datetime.timezone(" ++ durationText m ++ ")"
  s!"datetime.datetime({t.date.year}, {t.date.month}, {t.date.day}, {t.hour}, {t.minute}"
    ++ fine ++ zone ++ ")"

/-! ## §4. Comparison. -/

/-- Days from the first day of year 1 to the start of a year. -/
def daysBeforeYear (year : Nat) : Nat :=
  (year - 1) * 365 + (year - 1) / 4 - (year - 1) / 100 + (year - 1) / 400

/-- The day of the year, the first one being zero. -/
def dayOfYear (d : Date) : Nat :=
  (List.range (d.month - 1)).foldl (fun n i => n + daysInMonth d.year (i + 1)) 0 + d.day - 1

/-- Microseconds of universal time since the start of year 1, where
    the offset is known. -/
def DateTime.universal? (t : DateTime) : Option Int :=
  t.offset.map fun m =>
    ((((daysBeforeYear t.date.year + dayOfYear t.date : Nat) : Int) * 24 + t.hour) * 60
      + t.minute - m) * 60000000 + t.second * 1000000 + t.microsecond

/-- Two times are the same moment: both have an offset and agree in
    universal time, or neither has one and the fields agree. -/
def DateTime.sameMoment (s t : DateTime) : Bool :=
  match s.universal?, t.universal? with
  | some a, some b => a == b
  | none, none => s == t
  | _, _ => false

end SpanPipeline.Calendar
