import Conduit.Location.Label
import Conduit.Text.Punycode
import Conduit.Text.Quoted

/-!
# Hosts

The host of a location is four numbers, groups of digits in square brackets, or a name. In its plain
spelling a name is in lower case, and one with characters of other scripts is spelled with plain
characters, label by label.

* `Host.isNumbers`, `Host.isGroups` — the two forms of an address;
* `Host.plainName?` — the plain spelling of a name with other characters.
-/

namespace Conduit.Location.Host

/-- The parts of a text between the characters of a class. -/
def partsAt (isMark : Char → Bool) (s : List Char) : List (List Char) :=
  s.foldr
    (fun c parts =>
      match parts with
      | [] => [[c]]
      | part :: rest => if isMark c then [] :: part :: rest else (c :: part) :: rest)
    [[]]

/-! ## Addresses -/

/-- Whether a host could be meant as four numbers with one character between each two; that
character may be a digit, too. -/
def resemblesNumbers (s : List Char) : Bool :=
  let runs := partsAt (fun c => !Label.isDigit c) s
  let gaps := (runs.map fun run => (run.length - 1) / 2).foldl (· + ·) 0
  runs.all (!·.isEmpty) && decide (runs.length ≤ 4) && decide (4 ≤ runs.length + gaps)

/-- Whether a text is a number below 256 without leading zeros. -/
def isByte (s : List Char) : Bool :=
  !s.isEmpty && decide (s.length ≤ 3) && s.all Label.isDigit
    && (s.head? != some '0' || s.length == 1)
    && decide (s.foldl (fun n c => 10 * n + (c.toNat - '0'.toNat)) 0 < 256)

/-- Whether a host is four numbers with points between them. -/
def isNumbers (s : List Char) : Bool :=
  let parts := partsAt (· == '.') s
  parts.length == 4 && parts.all isByte

/-- Whether a text is one to four digits in base 16. -/
def isGroup (s : List Char) : Bool :=
  !s.isEmpty && decide (s.length ≤ 4)
    && s.all fun c => Label.isDigit c || ('a' ≤ c && c ≤ 'f') || ('A' ≤ c && c ≤ 'F')

/-- The groups of an address; four numbers at its end count as two groups. -/
def groupsOf? (s : List Char) : Option (List (List Char)) :=
  let parts := partsAt (· == ':') s
  match parts.getLast? with
  | some last =>
    if parts.length < 3 then none
    else if last.contains '.' then
      if isNumbers last then some (parts.dropLast ++ [['0'], ['0']]) else none
    else some parts
  | none => none

/-- Whether groups are eight ones, or fewer with one gap, which an empty group stands for. At an end
the gap is two empty groups. -/
def areGroups (parts : List (List Char)) : Bool :=
  let inner := (parts.drop 1).dropLast
  match inner.filter List.isEmpty with
  | [] => parts.length == 8 && parts.all isGroup
  | [_] =>
    let before := parts.take (inner.idxOf [] + 1)
    let after := parts.drop (inner.idxOf [] + 2)
    let before := if before == [[]] then [] else before
    let after := if after == [[]] then [] else after
    decide (parts.length ≤ 9) && decide (before.length + after.length < 8) && before.all isGroup
      && after.all isGroup
  | _ => false

/-- Whether a text is an address of groups, perhaps with a zone after a percent sign. -/
def isGroups (s : List Char) : Bool :=
  let address := s.takeWhile (· ≠ '%')
  let zone := s.drop address.length
  (zone.isEmpty || (decide (1 < zone.length) && !(zone.drop 1).contains '%'))
    && (groupsOf? address).any areGroups

/-! ## Names -/

/-- The points that separate labels. -/
def isPoint (c : Char) : Bool := c ∈ ['.', '。', '．', '｡']

/-- The greatest length of the plain spelling of a label. -/
def labelLimit : Nat := 63

/-- The greatest length of the plain spelling of a name. -/
def nameLimit : Nat := 253

/-- What the plain spelling of a label with other characters begins with. -/
def spelledMark : List Char := ['x', 'n', '-', '-']

/-- The plain spelling of a label. -/
def plainLabel? (s : List Char) : Option (List Char) :=
  let spelled := s.all (fun c => decide (c.toNat < 0x80)) && s.take 4 == spelledMark
  let plain :=
    if s.all fun c => decide (c.toNat < 0x80) then s else spelledMark ++ Text.Punycode.encode s
  if (spelled || Label.isLabel s) && decide (plain.length ≤ labelLimit) then some plain else none

/-- The plain spelling of a name with other characters, which may end in a point. -/
def plainName? (s : List Char) : Option (List Char) := do
  let labels := partsAt isPoint s
  let ended := decide (1 < labels.length) && labels.getLast? == some []
  let plain ← (if ended then labels.dropLast else labels).mapM plainLabel?
  let name := ['.'].intercalate plain
  if name.length ≤ nameLimit then some (if ended then name ++ ['.'] else name) else none

example : isNumbers ['1', '.', '2', '.', '3', '.', '4'] = true
    ∧ isGroups [':', ':', '1'] = true ∧ isGroups ['1', ':', '2'] = false := by decide +kernel

end Conduit.Location.Host
