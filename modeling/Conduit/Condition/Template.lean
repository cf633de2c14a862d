import Conduit.Condition.Datum
import Conduit.Number.Places

/-!
# Templates

A text with directives, each of which stands for a value: `%s`, `%5d`, `%(name).2f`. A directive has
a key in brackets, flags, a width, a precision and the letter of a conversion, of which all but the
last may be missing.

* `Directive.read?` — the directive after a percent sign;
* `Directive.write?` — a value as a directive wants it;
* `Template.fill?` — a template with its values. They are used up in order, unless keys are looked
  up in them.
-/

namespace Conduit.Condition

/-- A width or a precision. -/
inductive Amount where
  /-- There is none. -/
  | absent
  /-- It is written down. -/
  | given (n : Nat)
  /-- It is the next value. -/
  | asked

/-- What a directive asks for. -/
structure Directive where
  /-- The key of the value. -/
  key : Option (List Char)
  /-- The flags. -/
  flags : List Char
  /-- The least number of characters. -/
  width : Amount
  /-- The number of digits, or the greatest number of characters. -/
  precision : Amount
  /-- The letter of the conversion. -/
  conversion : Char

namespace Directive

/-! ## Reading -/

/-- A key up to the bracket that closes it. -/
def readKey? : Nat → List Char → Option (List Char × List Char)
  | _, [] => none
  | depth, '(' :: rest => (readKey? (depth + 1) rest).map fun found => ('(' :: found.1, found.2)
  | 0, ')' :: rest => some ([], rest)
  | depth + 1, ')' :: rest => (readKey? depth rest).map fun found => (')' :: found.1, found.2)
  | depth, c :: rest => (readKey? depth rest).map fun found => (c :: found.1, found.2)

/-- The key at the start of a directive. -/
def leadingKey? : List Char → Option (Option (List Char) × List Char)
  | '(' :: rest => (readKey? 0 rest).map fun found => (some found.1, found.2)
  | s => some (none, s)

/-- Whether a character is a flag: aligned to the left, with a sign, with a blank in the place of a
plus sign, in the other form, filled with zeros. -/
def isFlag (c : Char) : Bool := c ∈ ['-', '+', ' ', '#', '0']

/-- A width or a precision. -/
def readAmount : List Char → Amount × List Char
  | '*' :: rest => (.asked, rest)
  | s =>
    match s.takeWhile Char.isDigit with
    | [] => (.absent, s)
    | ds => (.given (Numeral.valueOf (ds.map fun c => c.toNat - 48)), s.dropWhile Char.isDigit)

/-- A precision; one without digits is zero. -/
def readPrecision : List Char → Amount × List Char
  | '.' :: rest =>
    match readAmount rest with
    | (.absent, rest) => (.given 0, rest)
    | found => found
  | s => (.absent, s)

/-- What is left after a mark of length, which says nothing. -/
def dropLength : List Char → List Char
  | 'h' :: rest => rest
  | 'l' :: rest => rest
  | 'L' :: rest => rest
  | s => s

/-- The directive after a percent sign. -/
def read? (s : List Char) : Option (Directive × List Char) := do
  let (key, s) ← leadingKey? s
  let flags := s.takeWhile isFlag
  let (width, s) := readAmount (s.dropWhile isFlag)
  let (precision, s) := readPrecision s
  match dropLength s with
  | [] => none
  | conversion :: rest => return (⟨key, flags, width, precision, conversion⟩, rest)

/-! ## Writing -/

/-- A number in parts: whether it is negative, the mark of its base, and its digits. -/
structure Written where
  /-- Whether a minus sign is before it. -/
  negative : Bool
  /-- The mark of its base. -/
  mark : List Char
  /-- Its digits, or what stands for it. -/
  body : List Char

/-- An integer in a base, with a least number of digits. A decimal one has no more digits than are
written. -/
def integer? (base : Nat) (mark : List Char) (least : Nat) (n : Int) : Option Written :=
  if base = 10 ∧ tenTo Numeral.digitLimit ≤ n.natAbs then none
  else
    let ds := Nat.toDigits base n.natAbs
    some ⟨decide (n < 0), mark, List.replicate (least - ds.length) '0' ++ ds⟩

/-- A double, finite or not. -/
def real (finite : Double → List Char) (x : Double) : Written where
  negative := x.isNegative && !x.isNaN
  mark := []
  body :=
    if x.isNaN then ['n', 'a', 'n'] else if x.isInfinite then ['i', 'n', 'f'] else finite x

/-- The integer of a number that is cut off at its point. -/
def whole? : Datum → Option Int
  | .float x => x.truncate?
  | d => d.index?

/-- The double of a number. -/
def double? (d : Datum) : Option Double := do (← d.number?).toDouble.toOption

/-- A number as a conversion wants it; `none` for the other conversions and for a datum that is no
number. Conversions with a capital letter are written in capitals. -/
def number? (conversion : Char) (alternate : Bool) (precision : Option Nat) (d : Datum) :
    Option Written :=
  let least := precision.getD 0
  let places := precision.getD 6
  let marked (mark : List Char) := if alternate then mark else []
  match conversion with
  | 'd' => do integer? 10 [] least (← whole? d)
  | 'i' => do integer? 10 [] least (← whole? d)
  | 'u' => do integer? 10 [] least (← whole? d)
  | 'o' => do integer? 8 (marked ['0', 'o']) least (← d.index?)
  | 'x' => do integer? 16 (marked ['0', 'x']) least (← d.index?)
  | 'e' => (double? d).map (real (·.scientificText places alternate))
  | 'f' => (double? d).map (real (·.fixedText places alternate))
  | 'g' => (double? d).map (real (·.generalText (max 1 places) alternate))
  | _ => none

/-- A text with plain characters only. -/
def plainOnly (s : List Char) : List Char :=
  s.flatMap fun c => if c.toNat < 128 then [c] else Text.codeEscape c

/-- A text as a conversion wants it; `none` for the other conversions. -/
def text? (conversion : Char) (precision : Option Nat) (d : Datum) : Option (List Char) :=
  let cut (s : List Char) := (precision.map fun n => s.take n).getD s
  match conversion with
  | 's' => d.display?.map cut
  | 'r' => if d.isShowable then some (cut d.shown.toList) else none
  | 'a' => if d.isShowable then some (cut (plainOnly d.shown.toList)) else none
  | 'c' =>
    match d with
    | .str [c] => some [c]
    | _ => do
      let n ← d.index?
      if 0 ≤ n ∧ n.toNat.isValidChar then some [Char.ofNat n.toNat] else none
  | _ => none

/-- Blanks up to a width. -/
def blanks (width : Nat) (s : List Char) : List Char := List.replicate (width - s.length) ' '

/-- A text in the width of a directive. -/
def align (flags : List Char) (width : Nat) (s : List Char) : List Char :=
  if flags.contains '-' then s ++ blanks width s else blanks width s ++ s

/-- A number in the width of a directive, with its sign. -/
def arrange (flags : List Char) (width : Nat) (w : Written) : List Char :=
  let sign :=
    if w.negative then ['-']
    else if flags.contains '+' then ['+']
    else if flags.contains ' ' then [' ']
    else []
  let front := sign ++ w.mark
  if flags.contains '0' && !flags.contains '-' then
    front ++ (List.replicate (width - front.length - w.body.length) '0' ++ w.body)
  else align flags width (front ++ w.body)

/-- A value as a directive wants it, in a width and with a precision. -/
def write? (directive : Directive) (width : Int) (precision : Option Nat) (d : Datum) :
    Option (List Char) :=
  let flags := if width < 0 then '-' :: directive.flags else directive.flags
  let c := directive.conversion
  match text? c precision d with
  | some s => some (align flags width.natAbs s)
  | none => do
    let capital := c ∈ ['X', 'E', 'F', 'G']
    let w ← number? (if capital then c.toLower else c) (flags.contains '#') precision d
    let s := arrange flags width.natAbs w
    return if capital then s.map Char.toUpper else s

end Directive

namespace Template

/-- The values that are left for a template. -/
structure Supply where
  /-- What keys are looked up in, if the values can be. -/
  table : Option (List (Datum × Datum))
  /-- The values, in order. -/
  rest : List Datum

/-- The values that a datum gives. -/
def Supply.ofDatum : Datum → Supply
  | .tuple items => ⟨none, items⟩
  | .dict entries => ⟨some entries, [.dict entries]⟩
  | .list items => ⟨some [], [.list items]⟩
  | d => ⟨none, [d]⟩

/-- The next value. -/
def Supply.next? (s : Supply) : Option (Datum × Supply) :=
  match s.rest with
  | [] => none
  | d :: rest => some (d, { s with rest := rest })

/-- The value of a key as the only one that is left, or all values if there is no key. -/
def Supply.under? (s : Supply) : Option (List Char) → Option Supply
  | none => some s
  | some key => do return { s with rest := [← Datum.under? (← s.table) (.str key)] }

/-- The number of a width or a precision. -/
def Supply.amount? (s : Supply) : Amount → Option (Option Int × Supply)
  | .absent => some (none, s)
  | .given n => some (some n, s)
  | .asked => do
    let (d, s) ← s.next?
    return (some (← d.index?), s)

/-- Whether a template may end here: all values are used, unless keys can be looked up in them. -/
def Supply.isDone (s : Supply) : Bool := s.table.isSome || s.rest.isEmpty

/-- The greatest width or precision. -/
def reach : Nat := twoTo 28

/-- A template filled with values; a doubled percent sign stands for one. `fuel` bounds the number
of its parts. -/
def fillFrom? : Nat → List Char → Supply → Option (List Char)
  | 0, _, _ => none
  | _ + 1, [], supply => if supply.isDone then some [] else none
  | fuel + 1, '%' :: '%' :: rest, supply => (fillFrom? fuel rest supply).map ('%' :: ·)
  | fuel + 1, '%' :: rest, supply => do
    let (directive, rest) ← Directive.read? rest
    let supply ← supply.under? directive.key
    let (width, supply) ← supply.amount? directive.width
    let (precision, supply) ← supply.amount? directive.precision
    let width := width.getD 0
    let precision := precision.map Int.toNat
    if reach < width.natAbs || precision.any fun n => decide (reach < n) then none
    else
      let (d, supply) ← supply.next?
      let written ← directive.write? width precision d
      return written ++ (← fillFrom? fuel rest supply)
  | fuel + 1, c :: rest, supply => (fillFrom? fuel rest supply).map (c :: ·)

/-- A template filled with the values of a datum: those of a tuple one by one, or else the datum
itself. -/
def fill? (template : List Char) (values : Datum) : Option (List Char) :=
  fillFrom? (template.length + 1) template (.ofDatum values)

end Template

end Conduit.Condition
