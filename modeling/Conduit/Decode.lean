import Conduit.Time.Reading
import Conduit.Value.Basic

/-!
# Decoding values

Turns values into the records of the library. A decoder looks at all fields, in order, and reports
everything that is wrong with them, each issue with the place where it was found.

* `Issue`, `IssueKind`, `Place` — what is wrong, and where;
* `Decoded` — a result or the issues; its `<*>` collects the issues of both sides;
* `Decode.field`, `Decode.optional` — the fields of an object;
* `Decode.text`, `Decode.integer`, `Decode.flag`, … — single values.
-/

namespace Conduit

/-- A step on the way to a place: a field or a position in a list. -/
inductive Place where
  /-- A field of an object. -/
  | field (name : String)
  /-- A position in a list. -/
  | item (index : Nat)
deriving DecidableEq, Inhabited

/-- What can be wrong with a value. -/
inductive IssueKind where
  /-- A required field is not there. -/
  | missing
  /-- Not a text. -/
  | notText
  /-- Not an object. -/
  | notObject
  /-- Not a list. -/
  | notList
  /-- Not a record. -/
  | notRecord
  /-- Not a record, in the body of a request. -/
  | notRecordBody
  /-- Not one of the words of a kind. -/
  | notWord
  /-- Not one of the given literals. -/
  | notLiteral
  /-- Not an integer. -/
  | notInteger
  /-- A text that spells no integer. -/
  | integerText
  /-- A text that spells too long an integer. -/
  | integerSize
  /-- A number with a fraction where an integer is wanted. -/
  | integerFraction
  /-- An infinite number or NaN. -/
  | notFinite
  /-- Not a number. -/
  | notReal
  /-- A text that spells no number. -/
  | realText
  /-- Not a truth value. -/
  | notFlag
  /-- A text or number that stands for no truth value. -/
  | flagText
  /-- Not a moment. -/
  | notMoment
  /-- A text that spells no moment. -/
  | momentText
  /-- A number, or a year, outside the calendar. -/
  | momentRange
  /-- A number that is too small. -/
  | tooSmall
  /-- A field that cannot be changed. -/
  | frozen
  /-- A text that is not JSON. -/
  | malformed
deriving DecidableEq, Inhabited

/-- The word for a kind of issue in reports. -/
def IssueKind.name : IssueKind → String
  | missing => "missing"
  | notText => "string_type"
  | notObject => "dict_type"
  | notList => "list_type"
  | notRecord => "model_type"
  | notRecordBody => "model_attributes_type"
  | notWord => "enum"
  | notLiteral => "literal_error"
  | notInteger => "int_type"
  | integerText => "int_parsing"
  | integerSize => "int_parsing_size"
  | integerFraction => "int_from_float"
  | notFinite => "finite_number"
  | notReal => "float_type"
  | realText => "float_parsing"
  | notFlag => "bool_type"
  | flagText => "bool_parsing"
  | notMoment => "datetime_type"
  | momentText => "datetime_from_date_parsing"
  | momentRange => "datetime_parsing"
  | tooSmall => "greater_than_equal"
  | frozen => "frozen_instance"
  | malformed => "json_invalid"

/-- Something that is wrong with a value. -/
structure Issue where
  /-- What is wrong. -/
  kind : IssueKind
  /-- Where. -/
  place : List Place
deriving DecidableEq, Inhabited

/-- The result of decoding: a record, or at least one issue. -/
inductive Decoded (α : Type) where
  /-- Nothing was wrong. -/
  | ok (result : α)
  /-- Something was wrong. -/
  | bad (first : Issue) (more : List Issue)

namespace Decoded

variable {α β : Type}

/-- Changes the result. -/
def map (f : α → β) : Decoded α → Decoded β
  | ok a => ok (f a)
  | bad first more => bad first more

/-- Applies a decoded function; the issues of both sides are kept, those of the function first. -/
def apply (f : Decoded (α → β)) (x : Decoded α) : Decoded β :=
  match f, x with
  | ok f, ok a => ok (f a)
  | ok _, bad first more => bad first more
  | bad first more, ok _ => bad first more
  | bad first more, bad second rest => bad first (more ++ second :: rest)

instance : Functor Decoded where
  map := map

instance : Seq Decoded where
  seq f x := apply f (x ())

/-- Puts a step in front of the place of every issue. -/
def under (step : Place) : Decoded α → Decoded α
  | ok a => ok a
  | bad first more =>
    bad ⟨first.kind, step :: first.place⟩ (more.map fun i => ⟨i.kind, step :: i.place⟩)

/-- The result, or the issues. -/
def toExcept : Decoded α → Except (List Issue) α
  | ok a => .ok a
  | bad first more => .error (first :: more)

/-- Checks a result further. -/
def check (x : Decoded α) (holds : α → Bool) (otherwise : IssueKind) : Decoded α :=
  match x with
  | ok a => if holds a then ok a else bad ⟨otherwise, []⟩ []
  | bad first more => bad first more

end Decoded

namespace Decode

/-- A decoder of values. -/
abbrev Decoder (α : Type) := Value → Decoded α

/-- Refuses a value. -/
def refuse {α : Type} (kind : IssueKind) : Decoded α := .bad ⟨kind, []⟩ []

/-- Any value. -/
def any : Decoder Value := .ok

/-- A text. -/
def text : Decoder String
  | .str s => .ok s
  | _ => refuse .notText

/-- An object, as it is. -/
def object : Decoder Members
  | .object members => .ok members
  | _ => refuse .notObject

/-- Null, or something else. -/
def nullable {α : Type} (inner : Decoder α) : Decoder (Option α)
  | .null => .ok none
  | v => (inner v).map some

/-- Decodes the items of a list from a position on. -/
def items {α : Type} (inner : Decoder α) (index : Nat) : List Value → Decoded (List α)
  | [] => .ok []
  | v :: rest =>
    Decoded.apply (((inner v).under (.item index)).map List.cons) (items inner (index + 1) rest)

/-- A list. -/
def list {α : Type} (inner : Decoder α) : Decoder (List α)
  | .list l => items inner 0 l
  | _ => refuse .notList

/-- Decodes the values of members. -/
def memberValues {α : Type} (inner : Decoder α) :
    List (String × Value) → Decoded (List (String × α))
  | [] => .ok []
  | (key, v) :: rest =>
    Decoded.apply (((inner v).under (.field key)).map fun a => List.cons (key, a))
      (memberValues inner rest)

/-- An object whose members are all of one sort. -/
def table {α : Type} (inner : Decoder α) : Decoder (List (String × α))
  | .object members => memberValues inner members
  | _ => refuse .notObject

/-- One of some words, each with its meaning. -/
def word {α : Type} (otherwise : IssueKind) (words : List (String × α)) : Decoder α
  | .str s =>
    match words.lookup s with
    | some a => .ok a
    | none => refuse otherwise
  | _ => refuse otherwise

/-! ## Numbers and truth values -/

/-- Whether no underscore stands at an end or beside another. -/
def separatesDigits : List Char → Bool
  | [] => true
  | ['_'] => false
  | '_' :: '_' :: _ => false
  | _ :: rest => separatesDigits rest

/-- The plain digit of a character. -/
def plainDigit? (c : Char) : Option Nat :=
  if '0' ≤ c ∧ c ≤ '9' then some (c.toNat - '0'.toNat) else none

/-- The number of plain digits. -/
def plainNumber? (s : List Char) : Option Nat :=
  if s.isEmpty then none else (s.mapM plainDigit?).map Numeral.valueOf

/-- The greatest number of characters of an integer that is read from a text. -/
def integerLimit : Nat := 4300

/-- The integer with this spelling: an optional minus and digits, of which the first is zero only
when it is the only one. -/
def plainInteger (s : List Char) : Except IssueKind Int :=
  let negative := s.head? = some '-'
  let body := if negative then s.drop 1 else s
  let run := body.takeWhile fun c => (plainDigit? c).isSome
  let rest := body.drop run.length
  let length := run.length + if negative then 1 else 0
  if run.head? ≠ some '0' ∧ integerLimit < length then .error .integerSize
  else if rest.isEmpty ∧ (run.head? ≠ some '0' ∨ run.length = 1) then
    match plainNumber? run with
    | some n => .ok (Numeral.signed negative n)
    | none => .error .integerText
  else .error .integerText

/-- Drops the zeros and underscores after a first zero; the last zero stays in front of a point and
at the end, and what stands there otherwise must be a digit or a minus. -/
def withoutZeros (last : Char) : List Char → Option (List Char)
  | [] => some [last]
  | c :: rest =>
    if c = '0' ∨ c = '_' then withoutZeros c rest
    else if c = '.' then some (last :: c :: rest)
    else if c = '-' ∨ (plainDigit? c).isSome then some (c :: rest)
    else none

/-- Drops the leading zeros of a number. -/
def withoutLeadingZeros : List Char → Option (List Char)
  | '0' :: rest => withoutZeros '0' rest
  | c :: rest => if c = '-' ∨ (plainDigit? c).isSome then some (c :: rest) else none
  | [] => none

/-- Drops a point with the zeros after it, of which there must be one. -/
def withoutZeroFraction (s : List Char) : List Char :=
  let fraction := (s.dropWhile (· ≠ '.')).drop 1
  if fraction ≠ [] ∧ fraction.all (· = '0') then s.takeWhile (· ≠ '.') else s

/-- A text without its underscores, when none stands at an end or beside another. -/
def withoutSeparators (s : List Char) : List Char :=
  if s.head? ≠ some '_' && separatesDigits s then s.filter (· ≠ '_') else s

/-- The plain spelling of an integer that is written with a plus, leading zeros, a fraction of zeros
or underscores. -/
def plainSpelling? (s : List Char) : Option (List Char) :=
  let tidied body := (withoutLeadingZeros body).map (withoutSeparators ∘ withoutZeroFraction)
  match Numeral.trimmed s with
  | '+' :: '-' :: _ => none
  | '+' :: rest => tidied rest
  | '-' :: rest => (tidied rest).map ('-' :: ·)
  | rest => tidied rest

/-- The integer that a text spells. -/
def spelledInteger (s : List Char) : Except IssueKind Int :=
  match plainInteger s with
  | .error .integerText =>
    match plainSpelling? s with
    | some plain => plainInteger plain
    | none => .error .integerText
  | found => found

/-- Whether an integer fits into a word of 64 bits. -/
def isWord (n : Int) : Bool := decide (n.natAbs < twoTo 63)

/-- An integer: also a truth value, a number without a fraction or a text that spells an integer. -/
def integer : Decoder Int
  | .int n => .ok n
  | .bool b => .ok (if b then 1 else 0)
  | .float x =>
    match x.truncate? with
    | none => refuse .notFinite
    | some n => if x.isIntegral && isWord n then .ok n else refuse .integerFraction
  | .str s =>
    match spelledInteger s.toList with
    | .ok n => .ok n
    | .error kind => refuse kind
  | _ => refuse .notInteger

/-- The words for truth values, in lower case. -/
def flagWords : List (String × Bool) :=
  [("0", false), ("off", false), ("f", false), ("false", false), ("n", false), ("no", false),
   ("1", true), ("on", true), ("t", true), ("true", true), ("y", true), ("yes", true)]

/-- The truth value of zero and one; an integer that fits into no word is no truth value at all. -/
def flagOf (n : Int) : Decoded Bool :=
  if n = 0 then .ok false
  else if n = 1 then .ok true
  else if isWord n then refuse .flagText
  else refuse .notFlag

/-- A truth value: also zero, one, or a word for it. -/
def flag : Decoder Bool
  | .bool b => .ok b
  | .int n => flagOf n
  | .float x =>
    match x.truncate? with
    | some n => if x.isIntegral then flagOf n else refuse .notFlag
    | none => refuse .notFlag
  | .str s =>
    match flagWords.lookup (String.ofList (s.toList.map Char.toLower)) with
    | some b => .ok b
    | none => refuse .flagText
  | _ => refuse .notFlag

/-- The number that a text spells with plain digits alone. -/
def plainReal? (s : List Char) : Option Double :=
  if s.any fun c => c = '_' || (Text.isDecimal c && (plainDigit? c).isNone) then none
  else Numeral.real? s

/-- The number that a text spells: with blanks around it, or else with underscores inside. -/
def spelledReal? (s : List Char) : Option Double :=
  match plainReal? s with
  | some x => some x
  | none => if Numeral.trimmed s = s then plainReal? (withoutSeparators s) else none

/-- A double: also a truth value, an integer or a text that spells a number. -/
def real : Decoder Double
  | .float x => .ok x
  | .int n => .ok ((Double.ofInt? n).getD (Double.infinity (decide (n < 0))))
  | .bool b => .ok (Double.ofRatio false (if b then 1 else 0) 1)
  | .str s =>
    match spelledReal? s.toList with
    | some x => .ok x
    | none => refuse .realText
  | _ => refuse .notReal

/-- A moment that was read, if the calendar has it. -/
def momentOf (found : Option Moment) (otherwise : IssueKind) : Decoded Moment :=
  match found with
  | some m => if m.isInCalendar then .ok m else refuse .momentRange
  | none => refuse otherwise

/-- A moment. -/
def moment : Decoder Moment
  | .str s => momentOf (Moment.ofText? s) .momentText
  | .int n =>
    if (Double.ofInt? n).isSome then momentOf (Moment.ofSeconds? n 0) .momentRange
    else refuse .notMoment
  | .float x => momentOf (Moment.ofReal? x) .momentRange
  | _ => refuse .notMoment

/-! ## Fields -/

/-- A field that must be there. -/
def field {α : Type} (members : Members) (name : String) (inner : Decoder α) : Decoded α :=
  match members.get? name with
  | some v => (inner v).under (.field name)
  | none => .bad ⟨.missing, [.field name]⟩ []

/-- A field with a default. -/
def optional {α : Type} (members : Members) (name : String) (absent : α) (inner : Decoder α) :
    Decoded α :=
  match members.get? name with
  | some v => (inner v).under (.field name)
  | none => .ok absent

/-- A record, decoded from the members of an object. -/
def record {α : Type} (otherwise : IssueKind) (inner : Members → Decoded α) : Decoder α
  | .object members => inner members
  | _ => refuse otherwise

end Decode

end Conduit
