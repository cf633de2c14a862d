/-!
# Moments

A moment is a wall clock reading in microseconds, with or without an offset from universal time.
Dates are those of the Gregorian calendar, extended in both directions.

* `Moment.text` — the ISO form, with six digits of a fraction that is not zero;
* `Moment.documentText` — the same with `Z` for offset zero, as it stands in documents;
* `Moment.secondText` — the same without a fraction.
-/

namespace Conduit

/-- A wall clock reading. -/
structure Moment where
  /-- Microseconds from the start of 1970 on the wall clock. -/
  micros : Int
  /-- Microseconds by which the wall clock is ahead of universal time, if that is known. -/
  offset : Option Int
deriving DecidableEq, Inhabited

/-- A date of the calendar. -/
structure Date where
  /-- The year. -/
  year : Int
  /-- The month, from one. -/
  month : Nat
  /-- The day of the month, from one. -/
  day : Nat
deriving DecidableEq, Inhabited

namespace Date

/-- The days from 1970-01-01 to a date. Years are counted from March here, so that the day that a
leap year adds comes last. -/
def toDays (d : Date) : Int :=
  let y := if d.month ≤ 2 then d.year - 1 else d.year
  let era := y.fdiv 400
  let yearOfEra := (y - era * 400).toNat
  let monthFromMarch := (d.month + 9) % 12
  let dayOfYear := (153 * monthFromMarch + 2) / 5 + d.day - 1
  let dayOfEra := yearOfEra * 365 + yearOfEra / 4 - yearOfEra / 100 + dayOfYear
  era * 146097 + dayOfEra - 719468

/-- The date a number of days after 1970-01-01. -/
def ofDays (days : Int) : Date :=
  let z := days + 719468
  let era := z.fdiv 146097
  let dayOfEra := (z - era * 146097).toNat
  let yearOfEra := (dayOfEra - dayOfEra / 1460 + dayOfEra / 36524 - dayOfEra / 146096) / 365
  let dayOfYear := dayOfEra - (365 * yearOfEra + yearOfEra / 4 - yearOfEra / 100)
  let monthFromMarch := (5 * dayOfYear + 2) / 153
  let day := dayOfYear - (153 * monthFromMarch + 2) / 5 + 1
  let month := if monthFromMarch < 10 then monthFromMarch + 3 else monthFromMarch - 9
  let year : Int := yearOfEra + era * 400 + if month ≤ 2 then 1 else 0
  ⟨year, month, day⟩

/-- Whether a year has a leap day. -/
def isLeapYear (year : Int) : Bool :=
  year % 4 == 0 && (year % 100 != 0 || year % 400 == 0)

/-- The number of days of a month. -/
def monthLength (year : Int) (month : Nat) : Nat :=
  if month = 2 then if isLeapYear year then 29 else 28
  else if month = 4 ∨ month = 6 ∨ month = 9 ∨ month = 11 then 30
  else 31

/-- Whether the calendar has this date. -/
def isValid (d : Date) : Bool :=
  1 ≤ d.month && d.month ≤ 12 && 1 ≤ d.day && d.day ≤ monthLength d.year d.month

example : ofDays 0 = ⟨1970, 1, 1⟩ ∧ ofDays 19723 = ⟨2024, 1, 1⟩ ∧ ofDays (-1) = ⟨1969, 12, 31⟩
    ∧ toDays ⟨2024, 2, 29⟩ = 19782 ∧ ofDays 19782 = ⟨2024, 2, 29⟩ := by decide

end Date

namespace Moment

/-- The microseconds of a second. -/
def perSecond : Int := 1000000

/-- The microseconds of a day. -/
def perDay : Int := 86400 * perSecond

/-- A number with at least `width` digits. -/
def padded (width n : Nat) : String :=
  let digits := toString n
  "".pushn '0' (width - digits.length) ++ digits

/-- The text of a fraction of a second, empty when it is zero. -/
def fractionText (micros : Int) : String :=
  let fraction := (micros - micros.fdiv perSecond * perSecond).toNat
  if fraction = 0 then "" else "." ++ padded 6 fraction

/-- The text of an offset: hours and minutes, and what lies below them when it is not zero. -/
def offsetText (offset : Int) : String :=
  let micros : Int := offset.natAbs
  let seconds := (micros / perSecond).toNat
  (if offset < 0 then "-" else "+") ++ padded 2 (seconds / 3600) ++ ":"
    ++ padded 2 (seconds / 60 % 60)
    ++ (if micros % (60 * perSecond) = 0 then ""
        else ":" ++ padded 2 (seconds % 60) ++ fractionText micros)

/-- The text of a reading to the second. -/
def readingText (micros : Int) : String :=
  let days := micros.fdiv perDay
  let seconds := ((micros - days * perDay) / perSecond).toNat
  let date := Date.ofDays days
  padded 4 date.year.toNat ++ "-" ++ padded 2 date.month ++ "-" ++ padded 2 date.day ++ "T"
    ++ padded 2 (seconds / 3600) ++ ":" ++ padded 2 (seconds / 60 % 60) ++ ":"
    ++ padded 2 (seconds % 60)

/-- The text of a moment, without a fraction. -/
def secondText (m : Moment) : String :=
  readingText m.micros ++ (m.offset.map offsetText).getD ""

/-- The text of a moment. -/
def text (m : Moment) : String :=
  readingText m.micros ++ fractionText m.micros ++ (m.offset.map offsetText).getD ""

/-- The text of a moment in documents. -/
def documentText (m : Moment) : String :=
  match m.offset with
  | some 0 => readingText m.micros ++ fractionText m.micros ++ "Z"
  | _ => m.text

/-- The microseconds from one moment to another, when both or neither have an offset. -/
def elapsed? (first last : Moment) : Option Int :=
  match first.offset, last.offset with
  | none, none => some (last.micros - first.micros)
  | some a, some b =>
    some ((last.micros - b) - (first.micros - a))
  | _, _ => none

end Moment

end Conduit
