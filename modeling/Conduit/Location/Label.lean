import Conduit.Text.Case
import Conduit.Text.Identifier
import Conduit.Text.Normal.Basic

/-!
# Labels

The labels of a host with characters of many scripts. A label is in its plainest form: letters, the
marks that they carry and digits, each of which means itself and nothing else. A few characters need
certain neighbours, and a label with letters that are written from right to left has no others.

* `Label.isLabelChar` — the characters;
* `Label.fitsContext` — the neighbours that they need;
* `Label.keepsDirection` — the directions in which they are written;
* `Label.isLabel` — the labels.
-/

namespace Conduit.Location.Label

open Conduit.Text

/-- Whether a character is a plain digit. -/
def isDigit (c : Char) : Bool := '0' ≤ c && c ≤ '9'

/-! ## Characters -/

/-- The parts of names that no label holds: letters that stand for others, letters that are parts of
syllables, numerals, and marks that cannot be seen or belong to symbols. -/
def unfitSpans : Spans :=
  [(0x345, 0x345), (0x34F, 0x34F), (0x640, 0x640), (0x7FA, 0x7FA), (0x1100, 0x11FF),
   (0x1369, 0x1371), (0x13F8, 0x13FD), (0x16EE, 0x16F0), (0x17B4, 0x17B5), (0x180B, 0x180F),
   (0x19DA, 0x19DA), (0x1C80, 0x1C88), (0x1F80, 0x1FA7), (0x1FB2, 0x1FB4), (0x1FB7, 0x1FC4),
   (0x1FC7, 0x1FC7), (0x1FF2, 0x1FF4), (0x1FF7, 0x1FF7), (0x203F, 0x2054), (0x20D0, 0x212E),
   (0x2180, 0x2182), (0x2185, 0x2188), (0x3021, 0x3029), (0x302E, 0x303B), (0xA6E6, 0xA6EF),
   (0xA960, 0xA97C), (0xAB70, 0xABBF), (0xD7B0, 0xD7FB), (0xFE00, 0xFE0F), (0x10140, 0x10174),
   (0x10341, 0x10341), (0x1034A, 0x1034A), (0x103D1, 0x103D5), (0x12400, 0x1246E),
   (0x1D165, 0x1D244), (0xE0100, 0xE01EF)]

/-- The signs that labels hold beside the parts of names. -/
def signs : List Char := ['͵', '׳', '״', '۽', '۾', '་', 'ⸯ', '・']

/-- Whether a label may hold a character, in fitting company. -/
def isLabelChar (c : Char) : Bool :=
  if c.toNat < 0x80 then ('a' ≤ c && c ≤ 'z') || isDigit c || c == '-'
  else
    c ∈ signs
      || (isIdentifierPart c && !unfitSpans.has c.toNat && lower [c] == [c]
        && compatible [c] == [c])

/-! ## Neighbours -/

/-- Greek letters. -/
def greekSpans : Spans := [(0x370, 0x3E1), (0x3F0, 0x3FF), (0x1F00, 0x1FFF)]

/-- Hebrew letters and their marks. -/
def hebrewSpans : Spans := [(0x591, 0x5F4), (0xFB1D, 0xFB4F)]

/-- The characters of Japanese and Chinese writing. -/
def kanaSpans : Spans :=
  [(0x2E80, 0x2FD5), (0x3005, 0x3005), (0x3007, 0x3007), (0x3041, 0x3096), (0x309D, 0x309F),
   (0x30A1, 0x30FA), (0x30FD, 0x30FF), (0x31F0, 0x31FF), (0x3400, 0x9FFF), (0xF900, 0xFAD9),
   (0x1AFF0, 0x1B167), (0x20000, 0x3134A)]

/-- Whether a character is an Arabic digit. -/
def isArabicDigit (c : Char) : Bool := '٠' ≤ c && c ≤ '٩'

/-- Whether a character is an Arabic digit in the eastern form. -/
def isEasternDigit (c : Char) : Bool := '۰' ≤ c && c ≤ '۹'

/-- Whether the signs of a text stand beside what they belong to: a middle point between two letters
`l`, a numeral sign before a Greek letter, the Hebrew signs behind a Hebrew one. -/
def signsFit : List Char → Bool
  | [] => true
  | 'l' :: '·' :: 'l' :: rest => signsFit ('l' :: rest)
  | '·' :: _ => false
  | '͵' :: c :: rest => greekSpans.has c.toNat && signsFit (c :: rest)
  | ['͵'] => false
  | '׳' :: _ => false
  | '״' :: _ => false
  | c :: '׳' :: rest => hebrewSpans.has c.toNat && signsFit rest
  | c :: '״' :: rest => hebrewSpans.has c.toNat && signsFit rest
  | _ :: rest => signsFit rest

/-- Whether the characters of a label fit together. Beside its signs, the middle point of Japanese
needs a character of that writing anywhere, and the two sorts of Arabic digits do not mix. -/
def fitsContext (s : List Char) : Bool :=
  signsFit s && (!s.contains '・' || s.any fun c => kanaSpans.has c.toNat)
    && !(s.any isArabicDigit && s.any isEasternDigit)

/-! ## Directions -/

/-- The blocks of letters that are written from right to left. -/
def leftwardSpans : Spans :=
  [(0x590, 0x65F), (0x66A, 0x6EF), (0x6FA, 0x8FF), (0xFB1D, 0xFDFF), (0xFE70, 0xFEFC),
   (0x10800, 0x10FFF), (0x1E800, 0x1EFFF)]

/-- Whether a character is written from right to left. A mark goes with any letter. -/
def isLeftward (c : Char) : Bool := leftwardSpans.has c.toNat && !markSpans.has c.toNat

/-- Whether a character may stand among letters that are written from right to left. -/
def isAmongLeftward (c : Char) : Bool :=
  isLeftward c || isArabicDigit c || isEasternDigit c || isDigit c || c == '-'
    || markSpans.has c.toNat

/-- Whether a text is written in one direction: from right to left as a whole if any part of it is,
beginning with a letter and with one sort of digits. -/
def keepsDirection (s : List Char) : Bool :=
  if s.any fun c => isLeftward c || isArabicDigit c then
    s.head?.any isLeftward && s.all isAmongLeftward
      && !(s.any isArabicDigit && s.any fun c => isDigit c || isEasternDigit c)
  else true

/-! ## Labels -/

/-- Whether a text begins with a mark that a letter would carry. -/
def beginsWithMark (s : List Char) : Bool :=
  s.head?.any fun c => markSpans.has c.toNat && c != '·'

/-- Whether a text is a label. -/
def isLabel (s : List Char) : Bool :=
  !s.isEmpty && compatible s == s && (s.drop 2).take 2 != ['-', '-'] && s.head? != some '-'
    && s.getLast? != some '-' && !beginsWithMark s && s.all isLabelChar && fitsContext s
    && keepsDirection s

end Conduit.Location.Label
