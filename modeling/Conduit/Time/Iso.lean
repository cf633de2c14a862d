import Conduit.Time.Reading

/-!
# Moments in the forms of the ISO calendar

A moment may be given by a date of a month or of a week, with or without signs between its parts,
any character, a time of day down to the hour, and an offset of the same form.

* `Moment.dateLength` — where the date of a text ends;
* `Moment.ofIso` — the moment of a text, or the `Moment.Flaw` of it.

The forms of a date differ in length, so the length is settled first and the date is read to it.
-/

namespace Conduit.Moment

/-- Why a text gives no moment. -/
inductive Flaw where
  /-- It has none of the forms. -/
  | malformed
  /-- A year that the calendar does not have. -/
  | year (n : Int)
  /-- A month that a year does not have. -/
  | month
  /-- A day that the month does not have. -/
  | day
  /-- An hour that a day does not have. -/
  | hour
  /-- A minute that an hour does not have. -/
  | minute
  /-- A second that a minute does not have. -/
  | second
  /-- An offset of a day or more. -/
  | offset (micros : Int)
deriving DecidableEq, Inhabited

/-! ## Dates -/

/-- The number of characters that the date at the start of a text takes. In a text such as
`2024-W05-10` the second sign is taken for the one before the time. A week without signs has a day
of its own when an odd number of digits would be left for the time. -/
def dateLength (s : List Char) : Nat :=
  if s.length = 7 then 7
  else
    match s.drop 4 with
    | '-' :: 'W' :: _ :: _ :: '-' :: _ :: next :: _ =>
      if ('0' ≤ next ∧ next ≤ '9') then 8 else 10
    | '-' :: 'W' :: _ :: _ :: '-' :: _ => 10
    | '-' :: 'W' :: _ => 8
    | '-' :: _ => 10
    | 'W' :: _ =>
      let stop := 7 + (leadingDigits (s.drop 7)).1.length
      if stop < 9 then stop else if stop % 2 = 0 then 7 else 8
    | _ => 8

/-- The day of the week on which a day after 1970-01-01 falls, from zero for Monday. -/
def weekday (days : Int) : Int := (days + 3) % 7

/-- The Monday of the first week of a year: the week that holds its first Thursday. -/
def firstMonday (year : Int) : Int :=
  let first := Date.toDays ⟨year, 1, 1⟩
  let monday := first - weekday first
  if weekday first ≤ 3 then monday else monday + 7

/-- The number of weeks of a year. -/
def weeksOf (year : Int) : Nat := ((firstMonday (year + 1) - firstMonday year) / 7).toNat

/-- The date of a day of a week, if the year has it. The calendar begins with the year 1, and a week
before it lies in no month. -/
def ofWeek? (year week day : Nat) : Option Date :=
  let weeks := if year = 0 then 52 else weeksOf year
  if 1 ≤ week ∧ week ≤ weeks ∧ 1 ≤ day ∧ day ≤ 7 then
    if year = 0 then some ⟨1, 0, day⟩
    else some (Date.ofDays (firstMonday year + 7 * (week - 1) + (day - 1)))
  else none

/-- Reads a sign between the parts of a date, if its parts are separated. -/
def separator? (separated : Bool) (s : List Char) : Option (List Char) :=
  if separated then mark? '-' s else some s

/-- The parts of the date that a text of the right length gives. A week without a day begins on
Monday. -/
def dateParts? (s : List Char) : Option Date := do
  let (year, s) ← fixedDigits? 4 0 s
  let separated := s.head? == some '-'
  let s ← separator? separated s
  match s with
  | 'W' :: s => do
    let (week, s) ← fixedDigits? 2 0 s
    if s.isEmpty then ofWeek? year week 1
    else
      let s ← separator? separated s
      let (day, _) ← fixedDigits? 1 0 s
      ofWeek? year week day
  | _ => do
    let (month, s) ← fixedDigits? 2 0 s
    let s ← separator? separated s
    let (day, _) ← fixedDigits? 2 0 s
    return ⟨year, month, day⟩

/-! ## Times -/

/-- A time of day as it is spelled. -/
structure Clock where
  /-- The hour, the minute and the second, as many as are given. -/
  parts : List Nat
  /-- The microseconds. -/
  micros : Nat
  /-- Whether nothing is left after it. -/
  complete : Bool
deriving DecidableEq, Inhabited

/-- A part of a time. -/
def Clock.part (c : Clock) (i : Nat) : Nat := c.parts[i]?.getD 0

/-- The microseconds from the start of the day. -/
def Clock.total (c : Clock) : Nat :=
  ((c.part 0 * 60 + c.part 1) * 60 + c.part 2) * 1000000 + c.micros

/-- Reads the fraction of the last part; only the first six characters have to be digits. -/
def clockFraction? (parts : List Nat) (s : List Char) : Option Clock :=
  match leadingDigits (s.take 6) with
  | (digits, []) => some ⟨parts, fractionMicros digits, (leadingDigits (s.drop 6)).2.isEmpty⟩
  | _ => none

/-- Reads up to `count` more parts of a time; `colons` says whether they are separated. After the
last part, or a point or comma, comes the fraction. One plain character may be left over. -/
def clockUpTo (colons : Bool) : Nat → List Nat → List Char → Option Clock
  | 0, parts, s => clockFraction? parts s
  | count + 1, parts, s => do
    let (n, rest) ← fixedDigits? 2 0 s
    let parts := parts ++ [n]
    match rest with
    | [] => some ⟨parts, 0, true⟩
    | [c] => if c.toNat ≤ 127 then some ⟨parts, 0, false⟩ else none
    | c :: more =>
      let colons := if parts.length = 1 then c == ':' else colons
      if colons && c == ':' then clockUpTo colons count parts more
      else if c = '.' ∨ c = ',' then clockFraction? parts more
      else if colons then none
      else clockUpTo colons count parts rest

/-- Reads a time. -/
def clock? (s : List Char) : Option Clock := clockUpTo false 3 [] s

/-- Whether a character begins an offset. -/
def beginsOffset (c : Char) : Bool := c == '+' || c == '-' || c == 'Z'

/-- The offset that the spelling of one gives, in microseconds; a part of a second alone is none. -/
def isoOffset? (s : List Char) : Option Int :=
  match s with
  | ['Z'] => some 0
  | 'Z' :: _ => none
  | mark :: rest => do
    let c ← clock? rest
    if c.complete then
      let size : Int := if c.total < 1000000 then 0 else c.total
      some (if mark = '-' then -size else size)
    else none
  | [] => none

/-- Reads a time with an offset. What is left of a time must be the offset, if there is none. -/
def clockAndOffset? (s : List Char) : Option (Clock × Option Int) := do
  let c ← clock? (s.takeWhile fun c => !beginsOffset c)
  match s.dropWhile fun c => !beginsOffset c with
  | [] => if c.complete then some (c, none) else none
  | rest => do return (c, some (← isoOffset? rest))

/-! ## Moments -/

/-- The first flaw of a date, a time and an offset. -/
def flaw? (date : Date) (c : Clock) (offset : Option Int) : Option Flaw :=
  if let some micros := offset.filter fun o => decide (perDay ≤ o.natAbs) then
    some (.offset micros)
  else if date.year < 1 ∨ 9999 < date.year then some (.year date.year)
  else if date.month < 1 ∨ 12 < date.month then some .month
  else if !date.isValid then some .day
  else if 24 ≤ c.part 0 then some .hour
  else if 60 ≤ c.part 1 then some .minute
  else if 60 ≤ c.part 2 then some .second
  else none

/-- The parts of the moment that a text spells. One character stands between date and time. -/
def isoParts? (s : List Char) : Option (Date × Clock × Option Int) := do
  let length := dateLength s
  let date ← dateParts? (s.take length)
  match s.drop length with
  | [] => some (date, ⟨[], 0, true⟩, none)
  | _ :: rest => do
    let (c, offset) ← clockAndOffset? rest
    return (date, c, offset)

/-- The moment that a text spells. -/
def ofIso (text : String) : Except Flaw Moment :=
  match isoParts? text.toList with
  | none => .error .malformed
  | some (date, c, offset) =>
    match flaw? date c offset with
    | some flaw => .error flaw
    | none => .ok ⟨date.toDays * perDay + c.total, offset⟩

/-! ## Messages -/

/-- A span of time in the parts that are written: days, seconds and microseconds. -/
def spanText (micros : Int) : String :=
  let days := micros.fdiv perDay
  let rest := micros - days * perDay
  let part (name : String) (n : Int) : List String :=
    if n = 0 then [] else [name ++ "=" ++ toString n]
  let parts := part "days" days ++ part "seconds" (rest / perSecond)
    ++ part "microseconds" (rest % perSecond)
  "datetime.timedelta(" ++ (if parts.isEmpty then "0" else ", ".intercalate parts) ++ ")"

/-- The wording of a flaw; `shown` is the text as it is quoted. -/
def Flaw.message (shown : String) : Flaw → String
  | malformed => "Invalid isoformat string: " ++ shown
  | year n => "year " ++ toString n ++ " is out of range"
  | month => "month must be in 1..12"
  | day => "day is out of range for month"
  | hour => "hour must be in 0..23"
  | minute => "minute must be in 0..59"
  | second => "second must be in 0..59"
  | offset micros =>
    "offset must be a timedelta strictly between -timedelta(hours=24) and timedelta(hours=24), not "
      ++ spanText micros ++ "."

example : dateLength "2024-W05-2T10".toList = 10 ∧ dateLength "2024W052T10".toList = 8
    ∧ (ofIso "2024-W05-2").toOption.map secondText = some "2024-01-30T00:00:00" := by
  decide +kernel

end Conduit.Moment
