import Conduit.Condition.Datum
import Conduit.Text.Identifier
import Conduit.Text.Lines
import Conduit.Text.Normal.Basic

/-!
# Tokens of conditions

A condition is cut into words, names, numbers, texts and signs. Blanks and comments fall away, and
so do line breaks inside brackets; outside of brackets a line break ends the condition.

* `Token` — the tokens;
* `Token.scan` — the tokens of a condition, or `none` when it cannot be cut.
-/

namespace Conduit.Condition

/-- A token of a condition. -/
inductive Token where
  /-- A word of the language. -/
  | word (s : String)
  /-- A name. -/
  | name (s : String)
  /-- An integer. -/
  | int (n : Int)
  /-- A double. -/
  | float (x : Double)
  /-- A multiple of the imaginary unit. -/
  | imaginary (x : Double)
  /-- A text. -/
  | text (s : List Char)
  /-- A sign of the language. -/
  | sign (s : String)
deriving DecidableEq, Inhabited

namespace Token

/-! ## Numbers -/

/-- The words that may follow a number without a blank. -/
def wordsAfterNumber : List (List Char) :=
  [['a', 'n', 'd'], ['e', 'l', 's', 'e'], ['f', 'o', 'r'], ['i', 'f'], ['i', 'n'], ['i', 's'],
   ['o', 'r'], ['n', 'o', 't']]

/-- Whether a character is a digit of plain decimal numbers. -/
def isPlainDigit (c : Char) : Bool := '0' ≤ c && c ≤ '9'

/-- Whether a character continues a word: a plain letter or digit, an underscore, or any character
beyond the plain ones. -/
def continuesWord (c : Char) : Bool := c.isAlphanum || c == '_' || decide (127 < c.toNat)

/-- Whether a number may end before this rest. -/
def endsNumber (rest : List Char) : Bool :=
  match rest with
  | [] => true
  | c :: _ => !continuesWord c || wordsAfterNumber.any (Text.startsWith rest)

/-- The value of a digit in a base. -/
def digitIn? (base : Nat) (c : Char) : Option Nat :=
  let value? :=
    if '0' ≤ c ∧ c ≤ '9' then some (c.toNat - '0'.toNat)
    else if 'a' ≤ c ∧ c ≤ 'z' then some (c.toNat - 'a'.toNat + 10)
    else if 'A' ≤ c ∧ c ≤ 'Z' then some (c.toNat - 'A'.toNat + 10)
    else none
  value?.filter (· < base)

/-- The value of digits in a base. -/
def valueIn (base : Nat) (digits : List Nat) : Nat := digits.foldl (fun n d => base * n + d) 0

/-- The base that a mark after a leading zero stands for. -/
def markedBase? : Char → Option Nat
  | 'x' => some 16
  | 'X' => some 16
  | 'o' => some 8
  | 'O' => some 8
  | 'b' => some 2
  | 'B' => some 2
  | _ => none

/-- An integer in another base, after the mark of the base. -/
def basedNumber (base : Nat) (s : List Char) : Option (Token × List Char) :=
  let body :=
    match s with
    | '_' :: rest => rest
    | _ => s
  let (digits, rest) := Numeral.digits (digitIn? base) body
  if digits.isEmpty || !endsNumber rest then none else some (int (valueIn base digits), rest)

/-- The exponent of a number: `none` is a broken one, zero stands for a missing one. -/
def exponent (s : List Char) : Option (Option Int × List Char) :=
  match s with
  | mark :: rest =>
    if mark = 'e' ∨ mark = 'E' then
      let (negative, body) := Numeral.sign rest
      let (digits, left) := Numeral.digits (digitIn? 10) body
      if digits.isEmpty then if endsNumber s then some (none, s) else none
      else some (some (Numeral.signed negative (Numeral.valueOf digits)), left)
    else some (none, s)
  | [] => some (none, s)

/-- What is left after the mark of the imaginary unit. -/
def imaginaryRest? : List Char → Option (List Char)
  | 'j' :: rest => some rest
  | 'J' :: rest => some rest
  | _ => none

/-- A decimal number. An integer has no leading zeros, unless it is zero. -/
def decimalNumber (s : List Char) : Option (Token × List Char) := do
  let (whole, rest) := Numeral.digits (digitIn? 10) s
  let (fraction, rest, pointed) :=
    match rest with
    | '.' :: tail =>
      let (digits, left) := Numeral.digits (digitIn? 10) tail
      (digits, left, true)
    | _ => ([], rest, false)
  let (power, rest) ← exponent rest
  let value := Numeral.decimal false whole fraction (power.getD 0)
  if let some rest := imaginaryRest? rest then
    if endsNumber rest then some (imaginary value, rest) else none
  else if !endsNumber rest then none
  else if pointed || power.isSome then some (float value, rest)
  else if Numeral.digitLimit < whole.length then none
  else if whole.head? = some 0 && whole.any (· ≠ 0) then none
  else some (int (Numeral.valueOf whole), rest)

/-- The number at the start of a text. -/
def number (s : List Char) : Option (Token × List Char) :=
  match s with
  | '0' :: mark :: rest =>
    match markedBase? mark with
    | some base => basedNumber base rest
    | none => decimalNumber s
  | _ => decimalNumber s

/-! ## Texts -/

/-- Reads a fixed number of hexadecimal digits. -/
def hexCode? : Nat → Nat → List Char → Option (Nat × List Char)
  | 0, n, s => some (n, s)
  | _ + 1, _, [] => none
  | k + 1, n, c :: rest =>
    match digitIn? 16 c with
    | some d => hexCode? k (16 * n + d) rest
    | none => none

/-- The character of a code point, when there is one. -/
def codeChar? (n : Nat) : Option Char :=
  if 0x10FFFF < n then none
  else if 0xD800 ≤ n ∧ n ≤ 0xDFFF then some '\uFFFD'
  else some (Char.ofNat n)

/-- Reads up to `k` octal digits. -/
def octalCode : Nat → Nat → List Char → Nat × List Char
  | 0, n, s => (n, s)
  | _ + 1, n, [] => (n, [])
  | k + 1, n, c :: rest =>
    match digitIn? 8 c with
    | some d => octalCode k (8 * n + d) rest
    | none => (n, c :: rest)

/-- What an escape stands for; `s` begins after the backslash. An escape that there is not stands
for itself. -/
def escape? (s : List Char) : Option (List Char × List Char) :=
  match s with
  | [] => none
  | '\n' :: rest => some ([], rest)
  | '\\' :: rest => some (['\\'], rest)
  | '\'' :: rest => some (['\''], rest)
  | '"' :: rest => some (['"'], rest)
  | 'a' :: rest => some (['\x07'], rest)
  | 'b' :: rest => some (['\x08'], rest)
  | 'f' :: rest => some (['\x0c'], rest)
  | 'n' :: rest => some (['\n'], rest)
  | 'r' :: rest => some (['\r'], rest)
  | 't' :: rest => some (['\t'], rest)
  | 'v' :: rest => some (['\x0b'], rest)
  | 'N' :: _ => none
  | 'x' :: rest => do
    let (n, left) ← hexCode? 2 0 rest
    return ([← codeChar? n], left)
  | 'u' :: rest => do
    let (n, left) ← hexCode? 4 0 rest
    return ([← codeChar? n], left)
  | 'U' :: rest => do
    let (n, left) ← hexCode? 8 0 rest
    return ([← codeChar? n], left)
  | c :: rest =>
    if (digitIn? 8 c).isSome then do
      let (n, left) := octalCode 3 0 (c :: rest)
      return ([← codeChar? n], left)
    else some (['\\', c], rest)

/-- Reads a text up to its closing quotes: one quote, or three when `long` holds. A short text ends
in its line. `fuel` bounds the number of characters. -/
def closeText (raw long : Bool) (quote : Char) :
    Nat → List Char → List Char → Option (List Char × List Char)
  | 0, _, _ => none
  | fuel + 1, before, s =>
    match s with
    | [] => none
    | c :: rest =>
      if c = quote then
        if long then
          match rest with
          | a :: b :: left =>
            if a = quote ∧ b = quote then some (before.reverse, left)
            else closeText raw long quote fuel (c :: before) rest
          | _ => none
        else some (before.reverse, rest)
      else if c = '\\' then
        if raw then
          match rest with
          | [] => none
          | next :: left => closeText raw long quote fuel (next :: c :: before) left
        else
          match escape? rest with
          | none => none
          | some (meaning, left) => closeText raw long quote fuel (meaning.reverse ++ before) left
      else if c = '\n' && !long then none
      else closeText raw long quote fuel (c :: before) rest

/-- The text that begins with a quote. -/
def quotedText (raw : Bool) (s : List Char) : Option (Token × List Char) :=
  match s with
  | [] => none
  | quote :: rest => do
    let (long, body) :=
      match rest with
      | a :: b :: left => if a = quote ∧ b = quote then (true, left) else (false, rest)
      | _ => (false, rest)
    let (t, left) ← closeText raw long quote (body.length + 1) [] body
    return (.text t, left)

/-! ## Names and signs -/

/-- The signs, longer ones before their beginnings. -/
def signs : List String :=
  ["**", "//", "<<", ">>", "==", "!=", "<=", ">=", "+", "-", "*", "/", "%", "&", "|", "^", "~", "<",
   ">", "=", "(", ")", "[", "]", "\x7b", "\x7d", ",", ":", "."]

/-- The sign at the start of a text. -/
def sign? (s : List Char) : Option (Token × List Char) :=
  (signs.find? fun t => Text.startsWith s t.toList).map fun t => (.sign t, s.drop t.length)

/-- Whether a text begins with a quote. -/
def beginsText (s : List Char) : Bool :=
  match s with
  | c :: _ => c = '\'' || c = '"'
  | [] => false

/-- The words of the language. -/
def reserved : List String :=
  ["False", "None", "True", "and", "as", "assert", "async", "await", "break", "class", "continue",
   "def", "del", "elif", "else", "except", "finally", "for", "from", "global", "if", "import", "in",
   "is", "lambda", "nonlocal", "not", "or", "pass", "raise", "return", "try", "while", "with",
   "yield"]

/-- The token of a run of characters of words. A name with characters beyond the plain ones stands
for its compatible form, and is a name even where that form is a word of the language. -/
def wordOrName? (run : List Char) : Option Token :=
  if run.all fun c => decide (c.toNat ≤ 127) then
    let s := String.ofList run
    some (if reserved.contains s then .word s else .name s)
  else if Text.isIdentifier run then some (.name (String.ofList (Text.compatible run)))
  else none

/-- The marks before a quote that begin a text of another kind, in lower case. -/
def otherMarks : List (List Char) :=
  [['b'], ['f'], ['b', 'r'], ['r', 'b'], ['f', 'r'], ['r', 'f']]

/-- The word or name at the start of a text, or the text that it marks: a mark before a quote says
whether escapes are taken as they stand. -/
def wordOrText (s : List Char) : Option (Token × List Char) :=
  let run := s.takeWhile continuesWord
  let rest := s.dropWhile continuesWord
  let mark := run.map Char.toLower
  if beginsText rest && mark == ['r'] then quotedText true rest
  else if beginsText rest && mark == ['u'] then quotedText false rest
  else if beginsText rest && otherMarks.contains mark then none
  else (wordOrName? run).map fun token => (token, rest)

/-- The token at the start of a text that begins with no blank. -/
def first (s : List Char) : Option (Token × List Char) :=
  match s with
  | [] => none
  | c :: rest =>
    if isPlainDigit c then number s
    else if c = '.' && (match rest with
        | d :: _ => isPlainDigit d
        | [] => false) then
      number s
    else if continuesWord c then wordOrText s
    else if beginsText s then quotedText false s
    else sign? s

/-! ## Conditions -/

/-- Whether nothing but blanks, line breaks and comments is left, with no blank at the start of a
last line that is not ended. A form feed begins a line anew, and a backslash joins it with the next.
-/
def isIdle (indented inComment : Bool) : List Char → Bool
  | [] => inComment || !indented
  | '\\' :: '\n' :: rest =>
    if inComment then isIdle false false rest else !rest.isEmpty && isIdle indented false rest
  | c :: rest =>
    if c = '\n' then isIdle false false rest
    else if inComment || c = '#' then isIdle indented true rest
    else if c = '\x0c' then isIdle false false rest
    else (c = ' ' || c = '\t') && isIdle true false rest

/-- The greatest number of brackets inside each other. -/
def depthLimit : Nat := 200

/-- The change of the depth of brackets at a token. -/
def depthAfter (depth : Nat) (t : Token) : Option Nat :=
  if t = .sign "(" ∨ t = .sign "[" ∨ t = .sign "\x7b" then
    if depth < depthLimit then some (depth + 1) else none
  else if t = .sign ")" ∨ t = .sign "]" ∨ t = .sign "\x7d" then
    if depth = 0 then none else some (depth - 1)
  else some depth

/-- The text from the end of its first line. -/
def skipLine : List Char → List Char
  | [] => []
  | c :: rest => if c = '\n' then c :: rest else skipLine rest

/-- Cuts the rest of a condition. `depth` is the number of open brackets and `before` holds the
tokens so far, in reverse. Every round uses at least one character, so one round more than there are
characters is enough fuel. -/
def scanUpTo (depth : Nat) (before : List Token) : Nat → List Char → Option (List Token)
  | 0, _ => none
  | _ + 1, [] => if depth = 0 then some before.reverse else none
  | fuel + 1, c :: rest =>
    if c = ' ' ∨ c = '\t' ∨ c = '\x0c' then scanUpTo depth before fuel rest
    else if c = '#' then scanUpTo depth before fuel (skipLine rest)
    else if c = '\n' then
      if depth = 0 then if isIdle false false rest then some before.reverse else none
      else scanUpTo depth before fuel rest
    else if c = '\\' then
      match rest with
      | '\n' :: left => if left.isEmpty then none else scanUpTo depth before fuel left
      | _ => none
    else
      match first (c :: rest) with
      | none => none
      | some (token, left) =>
        match depthAfter depth token with
        | none => none
        | some depth => scanUpTo depth (token :: before) fuel left

/-- The condition from its first line that holds a token. That line must begin without a blank,
unless it is the first line of all. -/
def firstLine (indented inComment : Bool) : List Char → Option (List Char)
  | [] => some []
  | '\\' :: '\n' :: rest =>
    if inComment then firstLine false false rest
    else if rest.isEmpty then none
    else firstLine indented false rest
  | c :: rest =>
    if c = '\n' then firstLine false false rest
    else if inComment || c = '#' then firstLine false true rest
    else if c = ' ' || c = '\t' then firstLine true false rest
    else if c = '\x0c' then firstLine false false rest
    else if indented then none
    else some (c :: rest)

/-- The tokens of a condition. A null character makes a condition unreadable. -/
def scan (condition : String) : Option (List Token) := do
  let body := (Text.withLineFeeds condition.toList).dropWhile fun c => c = ' ' || c = '\t'
  if body.contains '\x00' then none
  else
    let line ← firstLine false false body
    scanUpTo 0 [] (line.length + 1) line

end Token

end Conduit.Condition
