/-!
# Texts as bytes

A character is written as one to four bytes. The first tells how many follow, and which values the
next may have.

* `bytesOf` — the bytes of a character;
* `ofBytes` — the text of bytes; what stands for no character is replaced.
-/

namespace Conduit.Text

/-- The bytes of a character. -/
def bytesOf (c : Char) : List Nat := (String.utf8EncodeChar c).map UInt8.toNat

/-- What stands in the place of bytes that stand for no character. -/
def replacement : Char := '\ufffd'

/-- A character of which some bytes are still to come. -/
structure Unfinished where
  /-- How many bytes are to come. -/
  left : Nat
  /-- The least value that the next byte may have. -/
  low : Nat
  /-- The greatest value that the next byte may have. -/
  high : Nat
  /-- The code point as far as it is known. -/
  code : Nat

/-- What the first byte of a character tells: the character, or what is to come. -/
def firstByte (b : Nat) : Except Char Unfinished :=
  if b < 0x80 then .error (Char.ofNat b)
  else if 0xC2 ≤ b ∧ b ≤ 0xDF then .ok ⟨1, 0x80, 0xBF, b - 0xC0⟩
  else if b = 0xE0 then .ok ⟨2, 0xA0, 0xBF, 0⟩
  else if b = 0xED then .ok ⟨2, 0x80, 0x9F, 0xD⟩
  else if 0xE1 ≤ b ∧ b ≤ 0xEF then .ok ⟨2, 0x80, 0xBF, b - 0xE0⟩
  else if b = 0xF0 then .ok ⟨3, 0x90, 0xBF, 0⟩
  else if b = 0xF4 then .ok ⟨3, 0x80, 0x8F, 4⟩
  else if 0xF1 ≤ b ∧ b ≤ 0xF3 then .ok ⟨3, 0x80, 0xBF, b - 0xF0⟩
  else .error replacement

/-- The text of bytes, the first of which may go on with an unfinished character. -/
def ofBytesAfter : Option Unfinished → List Nat → List Char
  | none, [] => []
  | some _, [] => [replacement]
  | pending, b :: rest =>
    let begin (found : List Char) : List Char :=
      found ++
        match firstByte b with
        | .error c => c :: ofBytesAfter none rest
        | .ok u => ofBytesAfter (some u) rest
    match pending with
    | none => begin []
    | some u =>
      if u.low ≤ b ∧ b ≤ u.high then
        let code := u.code * 64 + (b - 0x80)
        if u.left ≤ 1 then Char.ofNat code :: ofBytesAfter none rest
        else ofBytesAfter (some ⟨u.left - 1, 0x80, 0xBF, code⟩) rest
      else begin [replacement]

/-- The text of bytes. -/
def ofBytes (bytes : List Nat) : List Char := ofBytesAfter none bytes

end Conduit.Text
