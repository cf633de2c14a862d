import Conduit.Text.Normal.Table

/-!
# Normal forms

Different texts can stand for one name: a letter with an accent is one character or two, and there
are wide, bold and joined letters that mean the plain ones. The compatibility normal form is the
same for all of them: characters are taken apart, their marks are put in order, and what can be put
together is put together.

* `compatible` — the normal form of a name.
-/

namespace Conduit.Text.Normal

/-! ## Reading the tables -/

/-- The value of a digit in base 16. -/
def digitOf (c : Char) : Nat :=
  if '0' ≤ c ∧ c ≤ '9' then c.toNat - '0'.toNat else c.toNat - 'A'.toNat + 10

/-- The number of digits in a base. -/
def numberIn (base : Nat) (digits : List Char) : Nat :=
  digits.foldl (fun n c => base * n + digitOf c) 0

/-- The parts of a text between the places where a mark stands. -/
def partsAt (mark : Char) (s : List Char) : List (List Char) :=
  s.foldr
    (fun c parts =>
      match parts with
      | [] => [[c]]
      | part :: rest => if c = mark then [] :: part :: rest else (c :: part) :: rest)
    [[]]

/-- The entries of a table with the number at the head of their group; the first entry of a group
counts as entry zero. -/
def groups (base : Nat) (table : List String) : List (Nat × Nat × List Char) :=
  let step (state : Nat × Nat × List (Nat × Nat × List Char)) (part : List Char) :=
    match state with
    | (head, count, found) =>
      if part.getLast? = some ':' then (numberIn base part.dropLast, 0, found)
      else (head, count + 1, (head, count, part) :: found)
  ((table.flatMap fun line => partsAt ' ' line.toList).foldl step (0, 0, [])).2.2.reverse

/-- The characters that stand for others, with these. -/
def images : List (Nat × List Nat) :=
  (groups 16 imageTable).map fun entry =>
    (entry.1 + entry.2.1, (partsAt '+' entry.2.2).map (numberIn 16))

/-- The pairs of characters that make one, with this. -/
def pairs : List ((Nat × Nat) × Nat) :=
  (groups 16 pairTable).filterMap fun entry =>
    match (partsAt '=' entry.2.2).map (numberIn 16) with
    | [second, whole] => some ((entry.1, second), whole)
    | _ => none

/-- The spans of marks with their classes. -/
def classes : List (Nat × Nat × Nat) :=
  (groups 10 classTable).filterMap fun entry =>
    match (partsAt '-' entry.2.2).map (numberIn 16) with
    | [lo, hi] => some (lo, hi, entry.1)
    | [lo] => some (lo, lo, entry.1)
    | _ => none

/-- The class of a mark; characters that are no marks have class zero. -/
def classOf (n : Nat) : Nat :=
  ((classes.find? fun span => decide (span.1 ≤ n) && decide (n ≤ span.2.1)).map (·.2.2)).getD 0

/-! ## Syllables -/

/-- The first syllable. Syllables are ordered by their first consonant, their vowel and their last
consonant, of which there are 19, 21 and 27. -/
def firstSyllable : Nat := 0xAC00

/-- The number of syllables with one first consonant. -/
def syllablesPerFirst : Nat := 21 * 28

/-- The parts of a syllable. -/
def syllableParts? (n : Nat) : Option (List Nat) :=
  if firstSyllable ≤ n ∧ n < firstSyllable + 19 * syllablesPerFirst then
    let i := n - firstSyllable
    let parts := [0x1100 + i / syllablesPerFirst, 0x1161 + i % syllablesPerFirst / 28]
    some (if i % 28 = 0 then parts else parts ++ [0x11A7 + i % 28])
  else none

/-- The syllable of two parts: a first consonant and a vowel, or a syllable without a last consonant
and one. -/
def syllable? (a b : Nat) : Option Nat :=
  if 0x1100 ≤ a ∧ a < 0x1113 ∧ 0x1161 ≤ b ∧ b < 0x1176 then
    some (firstSyllable + (a - 0x1100) * syllablesPerFirst + (b - 0x1161) * 28)
  else if firstSyllable ≤ a ∧ a < firstSyllable + 19 * syllablesPerFirst
      ∧ (a - firstSyllable) % 28 = 0 ∧ 0x11A7 < b ∧ b < 0x11C3 then
    some (a + (b - 0x11A7))
  else none

/-! ## The form -/

/-- What a character that two make is taken apart into; `depth` bounds how often. -/
def partsOf : Nat → Nat → List Nat
  | 0, n => [n]
  | depth + 1, n =>
    match syllableParts? n with
    | some parts => parts
    | none =>
      match pairs.find? fun pair => pair.2 == n with
      | some pair => partsOf depth pair.1.1 ++ [pair.1.2]
      | none => [n]

/-- What a character is taken apart into. No character is taken apart more than four times. -/
def apart (n : Nat) : List Nat := ((images.lookup n).getD [n]).flatMap (partsOf 4)

/-- Puts a character in front; a mark goes behind the marks of a lower class. -/
def putMark (n : Nat) : List Nat → List Nat
  | [] => [n]
  | m :: rest =>
    if classOf m ≠ 0 ∧ classOf m < classOf n then m :: putMark n rest else n :: m :: rest

/-- What two characters make. -/
def whole? (a b : Nat) : Option Nat := (syllable? a b).or (pairs.lookup (a, b))

/-- Puts characters together. `head` is the last one that is no mark and `marks` holds those after
it, in reverse; a mark goes with the head when none of its class or a higher one is in between. -/
def together (head : Nat) (marks : List Nat) : List Nat → List Nat
  | [] => head :: marks.reverse
  | n :: rest =>
    let free := marks.head?.all fun m => decide (classOf m < classOf n)
    match if free then whole? head n else none with
    | some whole => together whole marks rest
    | none =>
      if classOf n = 0 then head :: marks.reverse ++ together n [] rest
      else together head (n :: marks) rest

/-- The normal form of code points. -/
def form (codes : List Nat) : List Nat :=
  match (codes.flatMap apart).foldr putMark [] with
  | [] => []
  | head :: rest => together head [] rest

end Conduit.Text.Normal

namespace Conduit.Text

/-- The compatibility normal form of a name. -/
def compatible (name : List Char) : List Char :=
  if name.all fun c => decide (c.toNat < 0x80) then name
  else (Normal.form (name.map Char.toNat)).map Char.ofNat

end Conduit.Text
