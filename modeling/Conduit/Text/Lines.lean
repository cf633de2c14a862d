import Conduit.Text.Spans

/-!
# Lines

The lines of a file may end in a line feed, a carriage return or both. A text that is read line by
line has line feeds only. A text that is taken apart into lines ends them at every character that
Unicode has for this, and at the information separators U+001C to U+001E.

* `withLineFeeds` — a text as it is read line by line;
* `endsLine`, `splitLines` — the lines of a text.
-/

namespace Conduit.Text

/-- The lines of a text end in a line feed however they were ended. -/
def withLineFeeds : List Char → List Char
  | [] => []
  | '\r' :: '\n' :: rest => '\n' :: withLineFeeds rest
  | '\r' :: rest => '\n' :: withLineFeeds rest
  | c :: rest => c :: withLineFeeds rest

/-- The characters that end a line. -/
def lineBreakSpans : Spans := [(0xA, 0xD), (0x1C, 0x1E), (0x85, 0x85), (0x2028, 0x2029)]

/-- Whether a character ends a line. -/
def endsLine (c : Char) : Bool := lineBreakSpans.has c.toNat

/-- Splits off the lines of a text one by one; `line` holds the characters of the line being read,
in reverse. After the last line break there is a line only if there is something. -/
def splitLines.go (line : List Char) : List Char → List (List Char)
  | [] => if line.isEmpty then [] else [line.reverse]
  | '\r' :: '\n' :: rest => line.reverse :: splitLines.go [] rest
  | c :: rest =>
    if endsLine c then line.reverse :: splitLines.go [] rest else splitLines.go (c :: line) rest

/-- The lines of a text, without what ends them. -/
def splitLines (s : String) : List String := (splitLines.go [] s.toList).map String.ofList

example : splitLines "a\r\nb\u2028\n" = ["a", "b", ""] ∧ splitLines "" = [] := by decide

end Conduit.Text
