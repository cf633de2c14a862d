import Conduit.Number.Layout
import Conduit.Number.Numeral
import Conduit.Text.Quoted
import Conduit.Value.Basic

/-!
# Writing JSON

The texts of values. A handle has no text, so a writer may fail; the one that writes lines fails on
integers of too many digits as well.

* `Json.line?` — one line, plain ASCII, the members of every object sorted by name;
* `Json.lineFlaw?` — what it fails on;
* `Json.page?` — one member or item a line, in order, the layout of stored files.
-/

namespace Conduit.Json

/-- A code unit as an escape. -/
def unitEscape (n : Nat) : List Char := '\\' :: 'u' :: Text.hexDigits 4 n

/-- A code point as one or two escapes. -/
def codeEscape (n : Nat) : List Char :=
  if n < 0x10000 then unitEscape n
  else unitEscape (0xD800 + (n - 0x10000) / 0x400) ++ unitEscape (0xDC00 + (n - 0x10000) % 0x400)

/-- The short escapes. -/
def shortEscape? : Char → Option Char
  | '"' => some '"'
  | '\\' => some '\\'
  | '\n' => some 'n'
  | '\r' => some 'r'
  | '\t' => some 't'
  | '\x0c' => some 'f'
  | '\x08' => some 'b'
  | _ => none

/-- A character between quotes; with `ascii`, nothing beyond plain ASCII is left. -/
def quotedChar (ascii : Bool) (c : Char) : List Char :=
  match shortEscape? c with
  | some e => ['\\', e]
  | none =>
    if c.toNat < 0x20 || (ascii && 0x7F ≤ c.toNat) then codeEscape c.toNat else [c]

/-- A text between quotes. -/
def quoted (ascii : Bool) (s : String) : String :=
  String.ofList ('"' :: (s.toList.flatMap (quotedChar ascii) ++ ['"']))

/-- Puts something named before what comes after it by name. -/
def insertNamed {α : Type} (a : String × α) : List (String × α) → List (String × α)
  | [] => [a]
  | b :: rest => if b.1 < a.1 then b :: insertNamed a rest else a :: b :: rest

/-- Named things in the order of their names. -/
def sortNamed {α : Type} (l : List (String × α)) : List (String × α) := l.foldr insertNamed []

/-! ## One line -/

/-- The words for null and the truth values. -/
structure Words where
  /-- The word for null. -/
  null : String
  /-- The word for true. -/
  true : String
  /-- The word for false. -/
  false : String

/-- The words of JSON. -/
def Words.json : Words := ⟨"null", "true", "false"⟩

mutual

/-- The text of a value in one line, the members of objects sorted by name. -/
def lineWith? (words : Words) : Value → Option String
  | .null => some words.null
  | .bool b => some (if b then words.true else words.false)
  | .int n => if Numeral.isLong n then none else some (toString n)
  | .float x => some (NumberStyle.json.text x)
  | .str s => some (quoted true s)
  | .list items => (lineItems? words items).map fun texts => "[" ++ ", ".intercalate texts ++ "]"
  | .object members =>
    (lineMembers? words members).map fun texts =>
      "\x7b" ++ ", ".intercalate ((sortNamed texts).map fun m => quoted true m.1 ++ ": " ++ m.2)
        ++ "\x7d"
  | .opaqueHandle => none

/-- The texts of the items of a list. -/
def lineItems? (words : Words) : List Value → Option (List String)
  | [] => some []
  | v :: rest => do return (← lineWith? words v) :: (← lineItems? words rest)

/-- The texts of the members of an object under their names. -/
def lineMembers? (words : Words) : List (String × Value) → Option (List (String × String))
  | [] => some []
  | (key, v) :: rest => do return (key, ← lineWith? words v) :: (← lineMembers? words rest)

end

/-- The JSON document of a value in one line. -/
def line? (v : Value) : Option String := lineWith? Words.json v

/-- Why a value has no line. -/
inductive LineFlaw where
  /-- A handle. -/
  | handle
  /-- An integer of too many digits. -/
  | longInteger
deriving DecidableEq, Inhabited

mutual

/-- What keeps a value from having a line, the first flaw in the order in which it is written. -/
def lineFlaw? : Value → Option LineFlaw
  | .int n => if Numeral.isLong n then some .longInteger else none
  | .list items => itemsLineFlaw? items
  | .object members => (sortNamed (membersLineFlaws members)).head?.map (·.2)
  | .opaqueHandle => some .handle
  | _ => none

/-- The first flaw of the items of a list. -/
def itemsLineFlaw? : List Value → Option LineFlaw
  | [] => none
  | v :: rest => lineFlaw? v <|> itemsLineFlaw? rest

/-- The flaws of the members of an object that have one, each with its name. -/
def membersLineFlaws : List (String × Value) → List (String × LineFlaw)
  | [] => []
  | (key, v) :: rest =>
    match lineFlaw? v with
    | some flaw => (key, flaw) :: membersLineFlaws rest
    | none => membersLineFlaws rest

end

/-! ## Pages -/

/-- A line break and the indentation of a depth. -/
def newLine (depth : Nat) : String := "\n" ++ "".pushn ' ' (2 * depth)

/-- Parts between brackets, one a line; without parts the brackets stand together. -/
def bracketed (opening closing : String) (depth : Nat) (parts : List String) : String :=
  if parts.isEmpty then opening ++ closing
  else
    opening ++ newLine (depth + 1) ++ ("," ++ newLine (depth + 1)).intercalate parts
      ++ newLine depth ++ closing

mutual

/-- The text of a value over several lines; `depth` is the depth of the line that it begins on. -/
def page? (depth : Nat) : Value → Option String
  | .null => some "null"
  | .bool b => some (if b then "true" else "false")
  | .int n => some (toString n)
  | .float x => some (NumberStyle.stored.text x)
  | .str s => some (quoted false s)
  | .list items => (pageItems? (depth + 1) items).map (bracketed "[" "]" depth)
  | .object members => (pageMembers? (depth + 1) members).map (bracketed "\x7b" "\x7d" depth)
  | .opaqueHandle => none

/-- The texts of the items of a list. -/
def pageItems? (depth : Nat) : List Value → Option (List String)
  | [] => some []
  | v :: rest => do return (← page? depth v) :: (← pageItems? depth rest)

/-- The members of an object, each with its name. -/
def pageMembers? (depth : Nat) : List (String × Value) → Option (List String)
  | [] => some []
  | (key, v) :: rest => do
    return (quoted false key ++ ": " ++ (← page? depth v)) :: (← pageMembers? depth rest)

end

end Conduit.Json
