import Conduit.Text.Printable

/-!
# Quoted text

A text between quotes, in one line, with everything that does not show as itself written as an
escape. Single quotes are used unless the text holds a single quote and no double quote.
-/

namespace Conduit.Text

/-- A digit of a hexadecimal numeral, in lower case. -/
def hexDigit (d : Nat) : Char :=
  if d < 10 then Char.ofNat (0x30 + d) else Char.ofNat (0x57 + d)

/-- The last `width` hexadecimal digits of a number. -/
def hexDigits : Nat → Nat → List Char
  | 0, _ => []
  | width + 1, n => hexDigits width (n / 16) ++ [hexDigit (n % 16)]

/-- The quote that stands around a text. -/
def quoteFor (s : List Char) : Char :=
  if s.contains '\'' && !s.contains '"' then '"' else '\''

/-- The escape of a character by its code point. -/
def codeEscape (c : Char) : List Char :=
  if c.toNat < 0x100 then '\\' :: 'x' :: hexDigits 2 c.toNat
  else if c.toNat < 0x10000 then '\\' :: 'u' :: hexDigits 4 c.toNat
  else '\\' :: 'U' :: hexDigits 8 c.toNat

/-- A character as it stands between quotes. -/
def quotedChar (quote c : Char) : List Char :=
  if c = quote ∨ c = '\\' then ['\\', c]
  else if c = '\n' then ['\\', 'n']
  else if c = '\r' then ['\\', 'r']
  else if c = '\t' then ['\\', 't']
  else if isPrintable c then [c]
  else codeEscape c

/-- A text in quotes, as characters. -/
def quotedChars (s : List Char) : List Char :=
  let quote := quoteFor s
  quote :: (s.flatMap (quotedChar quote) ++ [quote])

/-- A text in quotes. -/
def quoted (s : String) : String := String.ofList (quotedChars s.toList)

example : quoted "it's" = "\"it's\"" ∧ quoted "a\n" = "'a\\n'" ∧ quoted "é\u00a0" = "'é\\xa0'" := by
  decide +kernel

end Conduit.Text
