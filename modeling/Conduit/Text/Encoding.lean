import Conduit.Text.Bytes
import Conduit.Text.Quoted

/-!
# Encodings

A text that arrives as bytes tells its encoding by where its first zeros stand: a document begins
with two plain characters, so that zeros come from characters of two or four bytes.

* `Encoding.ofBytes` — the encoding that bytes tell of;
* `Encoding.decode` — the text of bytes of two or four to a character;
* `Encoding.reread` — the text of the bytes of a text.
-/

namespace Conduit.Text

/-- How the characters of a text are written as bytes. -/
inductive Encoding where
  /-- One to four bytes a character. -/
  | narrow
  /-- Units of two bytes, the lower one first or last. -/
  | units (lowFirst : Bool)
  /-- Four bytes a character, the lowest one first or last. -/
  | wide (lowFirst : Bool)
deriving DecidableEq, Inhabited

namespace Encoding

/-- The name of an encoding. -/
def name : Encoding → String
  | narrow => "utf-8"
  | units lowFirst => if lowFirst then "utf-16-le" else "utf-16-be"
  | wide lowFirst => if lowFirst then "utf-32-le" else "utf-32-be"

/-- The encoding that bytes tell of. -/
def ofBytes : List Nat → Encoding
  | 0 :: b :: _ :: _ :: _ => if b = 0 then wide false else units false
  | _ :: 0 :: c :: d :: _ => if c = 0 ∧ d = 0 then wide true else units true
  | [0, _] => units false
  | [_, 0] => units true
  | _ => narrow

/-- What is wrong with bytes. -/
structure Flaw where
  /-- The encoding in which they are read. -/
  encoding : Encoding
  /-- The bytes from the first wrong one to the last one that goes with it. -/
  bytes : List Nat
  /-- Where the first wrong byte stands. -/
  position : Nat
  /-- What is wrong. -/
  what : String
deriving DecidableEq, Inhabited

/-- The wording of a flaw. -/
def Flaw.message (f : Flaw) : String :=
  let hex (b : Nat) := String.ofList [hexDigit (b / 16), hexDigit (b % 16)]
  let place :=
    match f.bytes with
    | [b] => "byte 0x" ++ hex b ++ " in position " ++ toString f.position
    | bs =>
      "bytes in position " ++ toString f.position ++ "-" ++ toString (f.position + bs.length - 1)
  "'" ++ f.encoding.name ++ "' codec can't decode " ++ place ++ ": " ++ f.what

/-- The number that some bytes stand for. -/
def number (lowFirst : Bool) (bytes : List Nat) : Nat :=
  (if lowFirst then bytes.reverse else bytes).foldl (fun n b => 256 * n + b) 0

/-- The character of a code point; half a pair of units is replaced. -/
def charOf (code : Nat) : Char :=
  if 0xD800 ≤ code ∧ code ≤ 0xDFFF then replacement else Char.ofNat code

/-- The characters of units: two units, the first from `D800` on and the second from `DC00` on, make
one character. -/
def ofUnits : List Nat → List Char
  | [] => []
  | [u] => [charOf u]
  | u :: v :: rest =>
    if 0xD800 ≤ u ∧ u ≤ 0xDBFF ∧ 0xDC00 ≤ v ∧ v ≤ 0xDFFF then
      charOf (0x10000 + (u - 0xD800) * 0x400 + (v - 0xDC00)) :: ofUnits rest
    else charOf u :: ofUnits (v :: rest)

/-- The numbers of pairs of bytes, the first of which stands at `position`. -/
def pairs (lowFirst : Bool) (position : Nat) : List Nat → Except Flaw (List Nat)
  | [] => .ok []
  | [b] => .error ⟨units lowFirst, [b], position, "truncated data"⟩
  | a :: b :: rest =>
    (pairs lowFirst (position + 2) rest).map fun more => number lowFirst [a, b] :: more

/-- The characters of four bytes each, the first of which stands at `position`. -/
def quadruples (lowFirst : Bool) (position : Nat) : List Nat → Except Flaw (List Char)
  | a :: b :: c :: d :: rest =>
    let code := number lowFirst [a, b, c, d]
    if 0x110000 ≤ code then
      .error ⟨wide lowFirst, [a, b, c, d], position, "code point not in range(0x110000)"⟩
    else (quadruples lowFirst (position + 4) rest).map fun more => charOf code :: more
  | [] => .ok []
  | bytes => .error ⟨wide lowFirst, bytes, position, "truncated data"⟩

/-- The text of bytes. -/
def decode (bytes : List Nat) : Encoding → Except Flaw (List Char)
  | narrow => .ok (Text.ofBytes bytes)
  | units lowFirst => (pairs lowFirst 0 bytes).map ofUnits
  | wide lowFirst => quadruples lowFirst 0 bytes

/-- The text that the bytes of a text stand for, without the mark that tells its encoding. -/
def reread (s : List Char) : Except Flaw (List Char) :=
  match s with
  | '\ufeff' :: rest => .ok rest
  | _ =>
    if s.contains '\x00' then
      let bytes := s.flatMap bytesOf
      decode bytes (ofBytes bytes)
    else .ok s

end Encoding

end Conduit.Text
