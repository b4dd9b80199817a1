import Stencil.Text.Basic

/-!
# Moments, dates and times

* **Moments** (`Moment`) and their text (`Moment.text`): date and time of the universal clock, cut to milliseconds.
* **Counting** (`Moment.ofMicroseconds`): the moment so long after the start of 1970. Years are counted from March, so
  that the odd day of a leap year is the last one.
* **Dates** (`Date`) of the Gregorian calendar and **times of day** (`Clock`), possibly with an offset from the
  universal clock. The parts that a date or a time cannot have are faults (`CalendarFault`).
* **The same time** (`isSameTime`): times with offsets are compared by the instant that they are.
* **Texts**: the text of a date or a time, and the form that it has inside a container (`quoted`).
-/

namespace Stencil

/-! ## Moments -/

/-- A moment of the universal clock. -/
structure Moment where
  year : Nat
  month : Nat
  day : Nat
  hour : Nat
  minute : Nat
  second : Nat
  microsecond : Nat
  deriving DecidableEq, Repr

/-- The days of four hundred years. -/
def daysOfEra : Nat := 146097

/-- The days from the first of March of the year zero to the start of 1970. -/
def daysBefore1970 : Nat := 719468

/-- The year, the month and the day of a number of days after the start of 1970. -/
def dateOfDays (days : Nat) : Nat × Nat × Nat :=
  let era := (days + daysBefore1970) / daysOfEra
  let dayOfEra := (days + daysBefore1970) % daysOfEra
  let yearOfEra := (dayOfEra - dayOfEra / 1460 + dayOfEra / 36524 - dayOfEra / 146096) / 365
  let dayOfYear := dayOfEra - (365 * yearOfEra + yearOfEra / 4 - yearOfEra / 100)
  let month := (5 * dayOfYear + 2) / 153
  let day := dayOfYear - (153 * month + 2) / 5 + 1
  if month < 10 then (400 * era + yearOfEra, month + 3, day) else (400 * era + yearOfEra + 1, month - 9, day)

/-- The moment a number of microseconds after the start of 1970. -/
def Moment.ofMicroseconds (n : Nat) : Moment :=
  let seconds := n / 1000000
  let (year, month, day) := dateOfDays (seconds / 86400)
  ⟨year, month, day, seconds / 3600 % 24, seconds / 60 % 60, seconds % 60, n % 1000000⟩

/-- The decimal digits of a number with zeros before them up to a width. -/
def Text.zeroPadded (width n : Nat) : Text :=
  let digits := ofNat n
  List.replicate (width - digits.length) (Point.char '0') ++ digits

/-- The text of a moment. -/
def Moment.text (m : Moment) : Text :=
  Text.zeroPadded 4 m.year ++ "-".text ++ Text.zeroPadded 2 m.month ++ "-".text ++ Text.zeroPadded 2 m.day
    ++ "T".text ++ Text.zeroPadded 2 m.hour ++ ":".text ++ Text.zeroPadded 2 m.minute ++ ":".text
    ++ Text.zeroPadded 2 m.second
    ++ ".".text ++ Text.zeroPadded 3 (m.microsecond / 1000) ++ "Z".text

/-! ## Dates and times -/

/-- What keeps numbers from being a date and a time. -/
inductive CalendarFault where
  | year (n : Nat)
  | month
  | day
  | hour
  | minute
  | second
  /-- An offset of a day or more, in minutes. -/
  | offset (minutes : Int)
  deriving DecidableEq, Repr

/-- The days and seconds of a number of minutes, as a message shows them. -/
def durationText (minutes : Int) : Text :=
  let days := minutes.fdiv 1440
  let seconds := 60 * minutes.fmod 1440
  let parts := (if days ≠ 0 then ["days=".text ++ Text.ofInt days] else [])
    ++ (if seconds ≠ 0 then ["seconds=".text ++ Text.ofInt seconds] else [])
  "datetime.timedelta(".text ++ Text.join ", ".text parts ++ ")".text

/-- The wording of a fault. -/
def CalendarFault.message : CalendarFault → Text
  | year n => "year ".text ++ Text.ofNat n ++ " is out of range".text
  | month => "month must be in 1..12".text
  | day => "day is out of range for month".text
  | hour => "hour must be in 0..23".text
  | minute => "minute must be in 0..59".text
  | second => "second must be in 0..59".text
  | offset minutes =>
    "offset must be a timedelta strictly between -timedelta(hours=24) and timedelta(hours=24), not ".text
      ++ durationText minutes ++ ".".text

/-- Whether a year has a leap day. -/
def isLeapYear (year : Nat) : Bool := year % 4 = 0 && (year % 100 ≠ 0 || year % 400 = 0)

/-- The number of days of a month. -/
def daysInMonth (year month : Nat) : Nat :=
  if month = 2 then (if isLeapYear year then 29 else 28)
  else if month = 4 ∨ month = 6 ∨ month = 9 ∨ month = 11 then 30
  else 31

/-- A date. -/
structure Date where
  year : Nat
  month : Nat
  day : Nat
  deriving DecidableEq, Repr

/-- The date of three numbers. -/
def Date.of (year month day : Nat) : Except CalendarFault Date :=
  if year = 0 ∨ year > 9999 then .error (.year year)
  else if month = 0 ∨ month > 12 then .error .month
  else if day = 0 ∨ day > daysInMonth year month then .error .day
  else .ok ⟨year, month, day⟩

/-- The text of a date. -/
def Date.text (d : Date) : Text :=
  Text.zeroPadded 4 d.year ++ "-".text ++ Text.zeroPadded 2 d.month ++ "-".text ++ Text.zeroPadded 2 d.day

/-- Numbers and other parts between the brackets after a word. -/
def applied (word : String) (parts : List Text) : Text :=
  "datetime.".text ++ word.text ++ "(".text ++ (Text.join ", ".text parts ++ ")".text)

/-- A date inside a container. -/
def Date.quoted (d : Date) : Text := applied "date" ([d.year, d.month, d.day].map Text.ofNat)

/-- The number of days from the start of the calendar to a date. -/
def Date.dayNumber (d : Date) : Nat :=
  let years := d.year - 1
  let leapDays := years / 4 - years / 100 + years / 400
  365 * years + leapDays + ((List.range' 1 (d.month - 1)).map (daysInMonth d.year)).foldl (· + ·) 0 + d.day

/-- A time of day, with an offset in minutes where one is known. -/
structure Clock where
  hour : Nat
  minute : Nat
  second : Nat
  microsecond : Nat
  offset : Option Int
  deriving DecidableEq, Repr

/-- The time of day of some numbers. -/
def Clock.of (hour minute second microsecond : Nat) (offset : Option Int) : Except CalendarFault Clock :=
  if hour > 23 then .error .hour
  else if minute > 59 then .error .minute
  else if second > 59 then .error .second
  else .ok ⟨hour, minute, second, microsecond, offset⟩

/-- Refuses an offset of a day or more. -/
def checkOffset : Option Int → Except CalendarFault Unit
  | some minutes => if minutes.natAbs < 1440 then .ok () else .error (.offset minutes)
  | none => .ok ()

/-- The text of an offset. -/
def offsetText (minutes : Int) : Text :=
  (if minutes < 0 then Point.char '-' else '+') :: Text.zeroPadded 2 (minutes.natAbs / 60)
    ++ ":".text ++ Text.zeroPadded 2 (minutes.natAbs % 60)

/-- The text of a time of day. -/
def Clock.text (c : Clock) : Text :=
  Text.zeroPadded 2 c.hour ++ ":".text ++ Text.zeroPadded 2 c.minute ++ ":".text ++ Text.zeroPadded 2 c.second
    ++ (if c.microsecond = 0 then [] else Point.char '.' :: Text.zeroPadded 6 c.microsecond)
    ++ (match c.offset with
      | some minutes => offsetText minutes
      | none => [])

/-- The clock of an offset inside a container. -/
def offsetQuoted (minutes : Int) : Text :=
  if minutes = 0 then "datetime.timezone.utc".text else applied "timezone" [durationText minutes]

/-- A date with a time of day inside a container. Zero seconds at the end are left out. -/
def quotedTime (d : Date) (c : Clock) : Text :=
  let seconds := if c.microsecond ≠ 0 then [c.second, c.microsecond] else if c.second ≠ 0 then [c.second] else []
  let zone := c.offset.toList.map fun minutes => "tzinfo=".text ++ offsetQuoted minutes
  applied "datetime" (([d.year, d.month, d.day, c.hour, c.minute] ++ seconds).map Text.ofNat ++ zone)

/-- The number of minutes from the start of the calendar to a time, on the universal clock when its offset is known. -/
def minuteNumber (d : Date) (c : Clock) : Int :=
  (1440 * d.dayNumber + 60 * c.hour + c.minute : Nat) - c.offset.getD 0

/-- Whether two dates with times of day are the same time. One with an offset is never the same as one without. -/
def isSameTime (d : Date) (c : Clock) (d' : Date) (c' : Clock) : Bool :=
  c.offset.isSome == c'.offset.isSome && minuteNumber d c == minuteNumber d' c'
    && c.second == c'.second && c.microsecond == c'.microsecond

end Stencil
