import Conduit.Text.Spans

/-!
# Blank characters

The characters that separate words and that are dropped from the ends of a text: the white space of
Unicode together with the four information separators U+001C to U+001F.
-/

namespace Conduit.Text

/-- The blank characters. -/
def blankSpans : Spans :=
  [(0x9, 0xD), (0x1C, 0x20), (0x85, 0x85), (0xA0, 0xA0), (0x1680, 0x1680), (0x2000, 0x200A),
   (0x2028, 0x2029), (0x202F, 0x202F), (0x205F, 0x205F), (0x3000, 0x3000)]

/-- Whether a character separates words. -/
def isBlank (c : Char) : Bool := blankSpans.has c.toNat

/-- The text without the blanks at its start. -/
def dropBlanks (s : List Char) : List Char := s.dropWhile isBlank

/-- The text without the blanks at its ends. -/
def strip (s : List Char) : List Char :=
  (dropBlanks (dropBlanks s).reverse).reverse

/-- Splits off the words of a text one by one; `word` holds the letters of the word being read, in
reverse. -/
def words.go (word : List Char) : List Char → List (List Char)
  | [] => if word.isEmpty then [] else [word.reverse]
  | c :: rest =>
    if isBlank c then
      if word.isEmpty then words.go [] rest else word.reverse :: words.go [] rest
    else words.go (c :: word) rest

/-- The words of a text: its longest runs of characters that are not blank. -/
def words (s : List Char) : List (List Char) := words.go [] s

/-- The text with every run of blanks shortened to one space and none at its ends. -/
def oneLine (s : String) : String :=
  " ".intercalate ((words s.toList).map String.ofList)

end Conduit.Text
