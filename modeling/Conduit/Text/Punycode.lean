/-!
# Names in plain characters

A name of any characters is spelled with plain letters, digits and hyphens: first its plain
characters, then a hyphen, then numbers that say which characters stand between them and where. The
others are put in from the smallest to the largest, and each number counts the places and code
points that are passed over since the one before.

* `Punycode.encode` — the plain spelling of a name.
-/

namespace Conduit.Text.Punycode

/-- The digit of a value below 36. -/
def digit (n : Nat) : Char := if n < 26 then Char.ofNat ('a'.toNat + n) else Char.ofNat (n + 22)

/-- The values of a digit that end a number lie below its threshold, which depends on the place of
the digit and on the numbers before. -/
def threshold (place bias : Nat) : Nat := min 26 (max 1 (place - bias))

theorem one_le_threshold (place bias : Nat) : 1 ≤ threshold place bias := by
  unfold threshold
  omega

/-- The digits of a number, the least one first; `place` is that of the first digit. -/
def numeral (bias place n : Nat) : List Char :=
  let t := threshold place bias
  if n < t then [digit n]
  else digit (t + (n - t) % (36 - t)) :: numeral bias (place + 36) ((n - t) / (36 - t))
termination_by n
decreasing_by
  have := one_le_threshold place bias
  have := Nat.div_le_self (n - threshold place bias) (36 - threshold place bias)
  omega

/-- Divides by 35 until at most 455 is left; the quotient, and 36 for every division. -/
def scaled (n : Nat) : Nat × Nat :=
  if 455 < n then ((scaled (n / 35)).1, (scaled (n / 35)).2 + 36) else (n, 0)
termination_by n
decreasing_by all_goals exact Nat.div_lt_self (by omega) (by omega)

/-- The bias after a number that was written for one of `count` characters. -/
def biasAfter (n count : Nat) (first : Bool) : Nat :=
  let halved := if first then n / 700 else n / 2
  let (rest, bias) := scaled (halved + halved / count)
  bias + 36 * rest / (rest + 38)

/-- A spelling in the making. -/
structure Writer where
  /-- What is written. -/
  written : List Char := []
  /-- What was passed over since the last number. -/
  passed : Nat := 0
  /-- The bias of the next number. -/
  bias : Nat := 72
  /-- How many characters have their place. -/
  placed : Nat

/-- Passes a character of a name: one that has its place is passed over, and one of the code point
in turn gets its place. `plain` is the number of plain characters. -/
def Writer.pass (plain turn : Nat) (w : Writer) (c : Char) : Writer :=
  if c.toNat < turn then { w with passed := w.passed + 1 }
  else if c.toNat = turn then
    { written := w.written ++ numeral w.bias 36 w.passed
      passed := 0
      bias := biasAfter w.passed (w.placed + 1) (w.placed == plain)
      placed := w.placed + 1 }
  else w

/-- Puts a code point into an ascending list, unless it is there. -/
def insertCode (n : Nat) : List Nat → List Nat
  | [] => [n]
  | m :: rest =>
    if n < m then n :: m :: rest else if n = m then m :: rest else m :: insertCode n rest

/-- Gives the characters of each code point their places; `next` is the least code point that is
left. -/
def Writer.placeAll (name : List Char) (plain : Nat) (w : Writer) (next : Nat) : List Nat → Writer
  | [] => w
  | turn :: rest =>
    let w := { w with passed := w.passed + (turn - next) * (w.placed + 1) }
    let w := name.foldl (Writer.pass plain turn) w
    placeAll name plain { w with passed := w.passed + 1 } (turn + 1) rest

/-- Whether a character is a plain one. -/
def isPlain (c : Char) : Bool := decide (c.toNat < 0x80)

/-- The plain spelling of a name. -/
def encode (name : List Char) : List Char :=
  let plain := name.filter isPlain
  let codes := ((name.filter (!isPlain ·)).map Char.toNat).foldr insertCode []
  let w := Writer.placeAll name plain.length { placed := plain.length } 0x80 codes
  (if plain.isEmpty then [] else plain ++ ['-']) ++ w.written

example : encode ['é'] = ['9', 'c', 'a'] := by decide +kernel

end Conduit.Text.Punycode
