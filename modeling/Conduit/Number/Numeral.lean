import Conduit.Number.Double
import Conduit.Text.Blank
import Conduit.Text.Digit

/-!
# Reading numerals

Numbers as people type them: blanks around the numeral are dropped, digits may come from any script,
and one underscore may stand between two digits.

* `integer` — a sign and digits;
* `decimal` — the double nearest to a decimal of any length;
* `real?` — a decimal with optional point and exponent, or a name of infinity or NaN.
-/

namespace Conduit.Numeral

open Conduit.Text

/-- The blanks that are dropped around numerals: all but the information separators. -/
def isMargin (c : Char) : Bool := isBlank c && !(0x1C ≤ c.toNat && c.toNat ≤ 0x1F)

/-- The text without blanks at its ends. -/
def trimmed (s : List Char) : List Char :=
  ((s.dropWhile isMargin).reverse.dropWhile isMargin).reverse

/-- A sign at the start of a numeral: whether it is negative, and the rest. -/
def sign : List Char → Bool × List Char
  | '-' :: rest => (true, rest)
  | '+' :: rest => (false, rest)
  | s => (false, s)

/-- The value that a list of decimal digits stands for. -/
def valueOf (digits : List Nat) : Nat :=
  digits.foldl (fun n d => 10 * n + d) 0

/-- How many digits of a decimal can matter one by one: a decimal halfway between two doubles has
fewer. -/
def precision : Nat := 800

/-- The double nearest to a decimal with these digits before and after its point. Of the digits
that cannot matter one by one it only matters whether all of them are zero. -/
def decimal (negative : Bool) (whole fraction : List Nat) (power : Int) : Double :=
  let ds := (whole ++ fraction).dropWhile (· == 0)
  let power := power - fraction.length
  if ds.length ≤ precision then Double.ofDecimal negative (valueOf ds) power
  else
    let more := if (ds.drop precision).any (· != 0) then 1 else 0
    Double.ofDecimal negative (10 * valueOf (ds.take precision) + more)
      (power + (ds.length - precision : Nat) - 1)

/-- A magnitude with its sign. -/
def signed (negative : Bool) (n : Nat) : Int := if negative then -(n : Int) else n

/-- Reads digits with single underscores between them; the answer is empty when no digit stands at
the start, and an underscore is taken only when a digit follows it. -/
def digits (value? : Char → Option Nat) : List Char → List Nat × List Char
  | [] => ([], [])
  | '_' :: rest => ([], '_' :: rest)
  | [c] =>
    match value? c with
    | some d => ([d], [])
    | none => ([], [c])
  | c :: '_' :: next :: rest =>
    match value? c with
    | none => ([], c :: '_' :: next :: rest)
    | some d =>
      if (value? next).isSome then
        let (more, left) := digits value? (next :: rest)
        (d :: more, left)
      else ([d], '_' :: next :: rest)
  | c :: rest =>
    match value? c with
    | none => ([], c :: rest)
    | some d =>
      let (more, left) := digits value? rest
      (d :: more, left)

/-- The greatest number of digits of an integer that is read, and in most places written. -/
def digitLimit : Nat := 4300

/-- Whether an integer has more digits than are read and written. -/
def isLong (n : Int) : Bool := decide (tenTo digitLimit ≤ n.natAbs)

/-- Why a text is not read as an integer. -/
inductive Flaw where
  /-- It is no numeral. -/
  | malformed
  /-- It begins with more digits than are read. -/
  | tooLong (count : Nat)
deriving DecidableEq

/-- The integer that a numeral stands for. Too many digits are found before what follows them, but
not before a misplaced underscore. -/
def integer (s : List Char) : Except Flaw Int :=
  let (negative, body) := sign (trimmed s)
  match digits digitValue? body with
  | ([], _) => .error .malformed
  | (_, '_' :: _) => .error .malformed
  | (ds, rest) =>
    if digitLimit < ds.length then .error (.tooLong ds.length)
    else if rest.isEmpty then .ok (signed negative (valueOf ds))
    else .error .malformed

/-- An exponent: the mark, a sign and digits. The answer is zero when there is none at all and
`none` when one is begun and not finished. -/
def exponent? : List Char → Option Int
  | [] => some 0
  | mark :: rest =>
    if mark = 'e' ∨ mark = 'E' then
      let (negative, body) := sign rest
      match digits digitValue? body with
      | ([], _) => none
      | (ds, []) => some (signed negative (valueOf ds))
      | _ => none
    else none

/-- The names of the special values, in lower case. -/
def special? (negative : Bool) (s : List Char) : Option Double :=
  let name := s.map Char.toLower
  if name = ['i', 'n', 'f'] ∨ name = ['i', 'n', 'f', 'i', 'n', 'i', 't', 'y'] then
    some (Double.infinity negative)
  else if name = ['n', 'a', 'n'] then some Double.nan
  else none

/-- The double nearest to what a numeral stands for. -/
def real? (s : List Char) : Option Double :=
  let (negative, body) := sign (trimmed s)
  match special? negative body with
  | some x => some x
  | none =>
    let (whole, rest) := digits digitValue? body
    let (fraction, rest) :=
      match rest with
      | '.' :: tail => digits digitValue? tail
      | _ => ([], rest)
    if whole.isEmpty && fraction.isEmpty then none
    else
      (exponent? rest).map (decimal negative whole fraction)

example : (integer [' ', '-', '1', '_', '0']).toOption = some (-10)
    ∧ (integer ['1', '_']).toOption = none ∧ (integer ['٣']).toOption = some 3
    ∧ (integer ['²']).toOption = none := by decide +kernel

example : real? ['.', '5'] = some (Double.ofFloat 0.5) ∧ real? ['.'] = none
    ∧ real? ['1', 'e'] = none ∧ real? ['-', 'I', 'n', 'f'] = some (Double.infinity true) := by
  decide +kernel

end Conduit.Numeral
