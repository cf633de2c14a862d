/-!
# Searching and cutting texts

Texts are lists of characters here. A part of a text is a run of consecutive characters.

* `startsWith`, `contains`, `find?` — where a part stands;
* `splitOn` — the pieces between the occurrences of a part.
-/

namespace Conduit.Text

/-- Whether a text begins with `part`. -/
def startsWith : (s part : List Char) → Bool
  | _, [] => true
  | [], _ :: _ => false
  | c :: s, d :: part => c == d && startsWith s part

/-- The number of characters before the first occurrence of `part`. -/
def find? (part : List Char) : List Char → Option Nat
  | [] => if part.isEmpty then some 0 else none
  | c :: s => if startsWith (c :: s) part then some 0 else (find? part s).map (· + 1)

/-- Whether `part` stands somewhere in a text. -/
def contains (s part : List Char) : Bool := (find? part s).isSome

/-- Collects the pieces of the rest of a text; `skip` characters still belong to an occurrence of
the separator and `piece` holds the piece being read, in reverse. -/
def splitOn.go (separator : List Char) (skip : Nat) (piece : List Char) :
    List Char → List (List Char)
  | [] => [piece.reverse]
  | c :: s =>
    match skip with
    | k + 1 => splitOn.go separator k piece s
    | 0 =>
      if startsWith (c :: s) separator then
        piece.reverse :: splitOn.go separator (separator.length - 1) [] s
      else splitOn.go separator 0 (c :: piece) s

/-- The pieces of a text between the occurrences of a nonempty separator, from the left. -/
def splitOn (separator s : List Char) : List (List Char) := splitOn.go separator 0 [] s

example : splitOn ['.'] ['a', '.', '.', 'b'] = [['a'], [], ['b']]
    ∧ find? ['b', 'c'] ['a', 'b', 'b', 'c'] = some 2 := by decide

end Conduit.Text
