import Conduit.Number.Numeral
import Conduit.Time.Moment

/-!
# Reading moments

A moment is given as a date with a time of day and an optional offset, as a date alone, or as a
number of seconds since 1970 in universal time. A number too large for seconds counts milliseconds.

* `Moment.ofDateTime?`, `Moment.ofDate?` — the two forms of a text;
* `Moment.ofSeconds?`, `Moment.ofReal?` — numbers;
* `Moment.ofText?` — any text.
-/

namespace Conduit.Moment

/-- Reads a fixed number of plain digits. -/
def fixedDigits? : Nat → Nat → List Char → Option (Nat × List Char)
  | 0, n, s => some (n, s)
  | _ + 1, _, [] => none
  | k + 1, n, c :: rest =>
    if '0' ≤ c ∧ c ≤ '9' then fixedDigits? k (10 * n + (c.toNat - '0'.toNat)) rest else none

/-- Reads one given character. -/
def mark? (c : Char) : List Char → Option (List Char)
  | [] => none
  | d :: rest => if d = c then some rest else none

/-- Reads a date. -/
def date? (s : List Char) : Option (Date × List Char) := do
  let (year, s) ← fixedDigits? 4 0 s
  let s ← mark? '-' s
  let (month, s) ← fixedDigits? 2 0 s
  let s ← mark? '-' s
  let (day, s) ← fixedDigits? 2 0 s
  let date : Date := ⟨year, month, day⟩
  if date.isValid then some (date, s) else none

/-- Microseconds from the digits of a fraction; digits after the sixth are dropped. -/
def fractionMicros (digits : List Nat) : Nat :=
  Numeral.valueOf ((digits ++ List.replicate 6 0).take 6)

/-- The plain digits at the start of a text. -/
def leadingDigits : List Char → List Nat × List Char
  | [] => ([], [])
  | c :: rest =>
    if '0' ≤ c ∧ c ≤ '9' then
      ((c.toNat - '0'.toNat) :: (leadingDigits rest).1, (leadingDigits rest).2)
    else ([], c :: rest)

/-- Reads the fraction of a second, in microseconds; it may be missing. -/
def fraction? (s : List Char) : Option (Nat × List Char) :=
  match s with
  | [] => some (0, [])
  | c :: rest =>
    if c = '.' ∨ c = ',' then
      let (digits, left) := leadingDigits rest
      if digits.isEmpty then none else some (fractionMicros digits, left)
    else some (0, s)

/-- Reads a time of day, in microseconds; the seconds may be missing, and then have no fraction. -/
def timeOfDay? (s : List Char) : Option (Nat × List Char) := do
  let (hour, s) ← fixedDigits? 2 0 s
  let s ← mark? ':' s
  let (minute, s) ← fixedDigits? 2 0 s
  let (second, fraction, s) ←
    match s with
    | ':' :: rest => do
      let (second, s) ← fixedDigits? 2 0 rest
      let (fraction, s) ← fraction? s
      some (second, fraction, s)
    | _ => some (0, 0, s)
  if hour < 24 ∧ minute < 60 ∧ second < 60 then
    some (((hour * 60 + minute) * 60 + second) * 1000000 + fraction, s)
  else none

/-- Reads an offset. -/
def offset? (s : List Char) : Option (Option Int × List Char) :=
  match s with
  | [] => some (none, [])
  | c :: rest =>
    if c = 'Z' ∨ c = 'z' then some (some 0, rest)
    else if c = '+' ∨ c = '-' ∨ c = '−' then do
      let (hour, s) ← fixedDigits? 2 0 rest
      let s := (mark? ':' s).getD s
      let (minute, s) ← fixedDigits? 2 0 s
      if hour < 24 ∧ minute < 60 then
        let micros : Int := (hour * 60 + minute) * 60 * perSecond
        some (some (if c = '+' then micros else -micros), s)
      else none
    else some (none, s)

/-- The moment of a date and a time of day. -/
def ofDateTime? (s : List Char) : Option Moment := do
  let (date, s) ← date? s
  match s with
  | [] => none
  | separator :: s =>
    if separator = 'T' ∨ separator = 't' ∨ separator = ' ' ∨ separator = '_' then
      let (time, s) ← timeOfDay? s
      match ← offset? s with
      | (offset, []) => some ⟨date.toDays * perDay + time, offset⟩
      | _ => none
    else none

/-- The start of a date. -/
def ofDate? (s : List Char) : Option Moment := do
  match ← date? s with
  | (date, []) => some ⟨date.toDays * perDay, none⟩
  | _ => none

/-- The greatest magnitude of a number that counts seconds. -/
def greatestSeconds : Int := 20000000000

/-- The seconds of the start of the year 0. -/
def earliest : Int := -62167219200

/-- The seconds of the end of the year 9999. -/
def latest : Int := 253402300799

/-- The moment a number of seconds, or of milliseconds, and some microseconds after the start of
1970. -/
def ofSeconds? (n : Int) (micros : Nat) : Option Moment :=
  let total : Int :=
    if n.natAbs ≤ greatestSeconds.natAbs then n * perSecond + micros else n * 1000 + micros
  let seconds := total.fdiv perSecond
  if earliest ≤ seconds ∧ seconds ≤ latest then some ⟨total, some 0⟩ else none

/-- The moment that a real number of seconds, or of milliseconds, stands for: the whole seconds to
the floor, and the rest to the nearest microsecond, a half up. -/
def ofReal? (x : Double) : Option Moment :=
  if x.isFinite then
    let scale := if greatestSeconds.natAbs * x.denominator < x.numerator.natAbs then 1000 else 1
    let y := Double.ofRatio x.isNegative x.numerator.natAbs (x.denominator * scale)
    let floor := y.numerator.fdiv y.denominator
    let rest := Double.ofRatio false (y.numerator - floor * y.denominator).natAbs y.denominator
    let micros := Double.ofRatio false (rest.numerator.natAbs * 1000000) rest.denominator
    ofSeconds? floor ((2 * micros.numerator.natAbs + micros.denominator) / (2 * micros.denominator))
  else none

/-- Whether the calendar has the year of a moment: the first year is year 1. -/
def isInCalendar (m : Moment) : Bool := decide (Date.toDays ⟨1, 1, 1⟩ * perDay ≤ m.micros)

/-- The plain integer that a text spells. -/
def plainInteger? (s : List Char) : Option Int :=
  let (negative, body) := Numeral.sign s
  match leadingDigits body with
  | ([], _) => none
  | (digits, []) => some (Numeral.signed negative (Numeral.valueOf digits))
  | _ => none

/-- A plain exponent: the mark, a sign and digits; zero when there is none. -/
def plainExponent? : List Char → Option Int
  | [] => some 0
  | mark :: rest => if mark = 'e' ∨ mark = 'E' then plainInteger? rest else none

/-- The plain decimal that a text spells: it has a point, and a whole part that is no longer than
that of a plain integer. -/
def plainReal? (s : List Char) : Option Double :=
  let (negative, body) := Numeral.sign s
  match leadingDigits body with
  | (whole, '.' :: rest) =>
    let (fraction, rest) := leadingDigits rest
    if (whole.isEmpty && fraction.isEmpty) || decide (twoTo 63 ≤ 10 * Numeral.valueOf whole) then
      none
    else
      (plainExponent? rest).map (Numeral.decimal negative whole fraction)
  | _ => none

/-- The moment that a text names. -/
def ofText? (text : String) : Option Moment :=
  let s := text.toList
  match ofDateTime? s with
  | some m => some m
  | none =>
    match plainInteger? s with
    | some n => ofSeconds? n 0
    | none =>
      match plainReal? s with
      | some x => ofReal? x
      | none => ofDate? s

end Conduit.Moment
