import Conduit.Number.Numeral
import Conduit.Text.Encoding
import Conduit.Text.Quoted
import Conduit.Value.Compare

/-!
# Reading JSON

A JSON document is read from the front; every function here takes the rest of the text and gives
back a shorter rest. A problem remembers the rest at which it was found, from which `read` computes
the line, the column and the position that the message shows.

* `Json.read` — the value of a document, or a `ReadError`;
* `Json.readBytes` — the same for the bytes of a document, whose encoding they tell themselves;
* `Json.Problem` — what can be wrong at a place.

Beside the standard documents, the names `NaN`, `Infinity` and `-Infinity` are read as numbers.
-/

namespace Conduit.Json

/-- What is wrong at a place of a text. -/
inductive Problem where
  /-- No value begins here. -/
  | value
  /-- The items of a list or the members of an object are not separated. -/
  | comma
  /-- A name of a member is not followed by a colon. -/
  | colon
  /-- No name of a member begins here. -/
  | name
  /-- The document goes on after its value. -/
  | extraData
  /-- A text is not closed. -/
  | unterminated
  /-- A text holds a control character. -/
  | control
  /-- A text holds an escape that there is not. -/
  | escape
  /-- A text holds an escape of a code point with a wrong digit. -/
  | codeEscape
  /-- The document begins with a byte order mark. -/
  | byteOrderMark
deriving DecidableEq, Inhabited

/-- The wording of a problem. -/
def Problem.message : Problem → String
  | value => "Expecting value"
  | comma => "Expecting ',' delimiter"
  | colon => "Expecting ':' delimiter"
  | name => "Expecting property name enclosed in double quotes"
  | extraData => "Extra data"
  | unterminated => "Unterminated string starting at"
  | control => "Invalid control character at"
  | escape => "Invalid \\escape"
  | codeEscape => "Invalid \\uXXXX escape"
  | byteOrderMark => "Unexpected UTF-8 BOM (decode using utf-8-sig)"

/-- What can stand inside itself. -/
inductive Nesting where
  /-- A list. -/
  | list
  /-- An object. -/
  | object
deriving DecidableEq, Inhabited

/-- The word for what can stand inside itself. -/
def Nesting.name : Nesting → String
  | list => "array"
  | object => "object"

/-- A document that cannot be read. -/
inductive ReadError where
  /-- A problem at a place, given by line and column from one and position from zero. -/
  | malformed (problem : Problem) (line column position : Nat)
  /-- An integer with more digits than are read. -/
  | tooManyDigits (count : Nat)
  /-- Lists and objects inside each other, more than are read; the last was one of these. -/
  | tooDeep (kind : Nesting)
  /-- Bytes that stand for no text. -/
  | undecodable (flaw : Text.Encoding.Flaw)
deriving DecidableEq, Inhabited

/-- The wording for an integer with too many digits. -/
def digitLimitMessage (count : Nat) : String :=
  "Exceeds the limit (" ++ toString Numeral.digitLimit
    ++ " digits) for integer string conversion: value has " ++ toString count
    ++ " digits; use sys.set_int_max_str_digits() to increase the limit"

/-- The wording of a reading error. -/
def ReadError.message : ReadError → String
  | malformed problem line column position =>
    problem.message ++ ": line " ++ toString line ++ " column " ++ toString column
      ++ " (char " ++ toString position ++ ")"
  | tooManyDigits count => digitLimitMessage count
  | tooDeep kind =>
    "maximum recursion depth exceeded while decoding a JSON " ++ kind.name
      ++ " from a unicode string"
  | undecodable flaw => flaw.message

/-- A problem found while reading, with the length of the rest of the text at its place. -/
inductive Obstacle where
  /-- A problem at the place where `left` characters are left. -/
  | problem (problem : Problem) (left : Nat)
  /-- An integer with more digits than are read. -/
  | digits (count : Nat)
  /-- Lists and objects inside each other, more than are read. -/
  | depth (kind : Nesting)

/-- Something read from a text, with a rest that is shorter than the text. -/
structure Step (s : List Char) (α : Type) where
  /-- What was read. -/
  result : α
  /-- What is left of the text. -/
  rest : List Char
  /-- Something of the text was used. -/
  shorter : rest.length < s.length

/-- Whether a character may stand between the parts of a document. -/
def isSpace (c : Char) : Bool := c = ' ' || c = '\t' || c = '\n' || c = '\r'

/-- The text without the spaces at its start. -/
def skipSpaces (s : List Char) : List Char := s.dropWhile isSpace

theorem length_skipSpaces_le (s : List Char) : (skipSpaces s).length ≤ s.length := by
  induction s with
  | nil => simp [skipSpaces]
  | cons c s ih =>
    simp only [skipSpaces, List.dropWhile_cons] at ih ⊢
    split
    · exact Nat.le_succ_of_le ih
    · exact Nat.le_refl _

/-! ## Texts -/

/-- The value of a hexadecimal digit. -/
def hexValue? (c : Char) : Option Nat :=
  if '0' ≤ c ∧ c ≤ '9' then some (c.toNat - '0'.toNat)
  else if 'a' ≤ c ∧ c ≤ 'f' then some (c.toNat - 'a'.toNat + 10)
  else if 'A' ≤ c ∧ c ≤ 'F' then some (c.toNat - 'A'.toNat + 10)
  else none

/-- The code unit of four hexadecimal digits. -/
def codeUnit? (a b c d : Char) : Option Nat := do
  return (((← hexValue? a) * 16 + (← hexValue? b)) * 16 + (← hexValue? c)) * 16 + (← hexValue? d)

/-- Whether a code unit is the first of a pair. -/
def isHighUnit (n : Nat) : Bool := 0xD800 ≤ n && n ≤ 0xDBFF

/-- Whether a code unit is the second of a pair. -/
def isLowUnit (n : Nat) : Bool := 0xDC00 ≤ n && n ≤ 0xDFFF

/-- The character of a pair of code units. -/
def joinUnits (high low : Nat) : Char :=
  Char.ofNat (0x10000 + (high - 0xD800) * 0x400 + (low - 0xDC00))

/-- The character of a code unit; half a pair has none and gives the replacement character. -/
def unitChar (n : Nat) : Char :=
  if isHighUnit n || isLowUnit n then '\uFFFD' else Char.ofNat n

/-- The character that a single letter after a backslash stands for. -/
def escapeChar? : Char → Option Char
  | '"' => some '"'
  | '\\' => some '\\'
  | '/' => some '/'
  | 'b' => some '\x08'
  | 'f' => some '\x0c'
  | 'n' => some '\n'
  | 'r' => some '\r'
  | 't' => some '\t'
  | _ => none

/-- The second code unit of a pair whose first unit was read, when the text goes on with one. An
escape of a code point is looked at only when it does not end the text. -/
def secondUnit? (first : Nat) : List Char → Except Obstacle (Option Nat)
  | '\\' :: 'u' :: a :: b :: c :: d :: _ :: rest =>
    if isHighUnit first then
      match codeUnit? a b c d with
      | none => .error (.problem .codeEscape (rest.length + 6))
      | some second => .ok (if isLowUnit second then some second else none)
    else .ok none
  | _ => .ok none

/-- Reads a text up to its closing quote; `opening` is the length of the rest at the opening quote
and `before` holds the characters read so far, in reverse. -/
def closeText (opening : Nat) (before : List Char) :
    List Char → Except Obstacle (List Char × List Char)
  | [] => .error (.problem .unterminated opening)
  | '"' :: rest => .ok (before.reverse, rest)
  | ['\\'] => .error (.problem .unterminated opening)
  | '\\' :: 'u' :: a :: b :: c :: d :: next :: rest =>
    match codeUnit? a b c d with
    | none => .error (.problem .codeEscape (rest.length + 6))
    | some first =>
      match secondUnit? first (next :: rest) with
      | .error obstacle => .error obstacle
      | .ok none => closeText opening (unitChar first :: before) (next :: rest)
      | .ok (some second) => closeText opening (joinUnits first second :: before) (rest.drop 5)
  | '\\' :: 'u' :: rest => .error (.problem .codeEscape (rest.length + 1))
  | '\\' :: c :: rest =>
    match escapeChar? c with
    | none => .error (.problem .escape (rest.length + 2))
    | some e => closeText opening (e :: before) rest
  | c :: rest =>
    if c.toNat < 0x20 then .error (.problem .control (rest.length + 1))
    else closeText opening (c :: before) rest
termination_by s => s.length

theorem length_closeText_lt {opening : Nat} {before s t rest : List Char}
    (h : closeText opening before s = .ok (t, rest)) : rest.length < s.length := by
  fun_induction closeText opening before s <;> simp_all <;> try omega

/-- The text that begins after an opening quote. -/
def text (s : List Char) : Except Obstacle (Step s String) :=
  match h : closeText (s.length + 1) [] s with
  | .error obstacle => .error obstacle
  | .ok (t, rest) => .ok ⟨String.ofList t, rest, length_closeText_lt h⟩

/-! ## Numbers -/

/-- The value of an ASCII digit. -/
def digitValue? (c : Char) : Option Nat :=
  if '0' ≤ c ∧ c ≤ '9' then some (c.toNat - '0'.toNat) else none

/-- The digits at the start of a text. -/
def digits : List Char → List Nat × List Char
  | [] => ([], [])
  | c :: rest =>
    match digitValue? c with
    | none => ([], c :: rest)
    | some d => (d :: (digits rest).1, (digits rest).2)

theorem length_digits (s : List Char) : (digits s).2.length + (digits s).1.length = s.length := by
  fun_induction digits s with
  | case1 => simp
  | case2 => simp_all
  | case3 => simp_all; omega

/-- The whole part of a number: a zero, or digits that do not begin with zero. -/
def wholePart (s : List Char) : List Nat × List Char :=
  match s with
  | '0' :: rest => ([0], rest)
  | _ => digits s

/-- A part of a number that may be missing. -/
structure Part (α : Type) where
  /-- Whether the part is there. -/
  present : Bool
  /-- What the part stands for. -/
  meaning : α
  /-- What is left of the text. -/
  rest : List Char

/-- The point and the digits after it. A point without a digit is left unread. -/
def fraction (s : List Char) : Part (List Nat) :=
  match s with
  | '.' :: rest =>
    if (digits rest).1.isEmpty then ⟨false, [], s⟩ else ⟨true, (digits rest).1, (digits rest).2⟩
  | _ => ⟨false, [], s⟩

/-- The exponent with its mark. A mark without a digit is left unread. -/
def exponent (s : List Char) : Part Int :=
  match s with
  | mark :: rest =>
    if mark = 'e' ∨ mark = 'E' then
      let body := digits (Numeral.sign rest).2
      if body.1.isEmpty then ⟨false, 0, s⟩
      else
        ⟨true, Numeral.signed (Numeral.sign rest).1 (Numeral.valueOf body.1), body.2⟩
    else ⟨false, 0, s⟩
  | [] => ⟨false, 0, s⟩

/-- The number that a whole part, a fraction and an exponent stand for: a double when there is a
fraction or an exponent, else an integer. -/
def numberOf (negative : Bool) (whole : List Nat) (fraction : Part (List Nat)) (power : Part Int) :
    Except Obstacle Value :=
  if fraction.present || power.present then
    .ok (.float (Numeral.decimal negative whole fraction.meaning power.meaning))
  else if Numeral.digitLimit < whole.length then .error (.digits whole.length)
  else .ok (.int (Numeral.signed negative (Numeral.valueOf whole)))

theorem length_sign_le (s : List Char) : (Numeral.sign s).2.length ≤ s.length := by
  unfold Numeral.sign
  split <;> simp

theorem length_wholePart_lt {s : List Char} (h : (wholePart s).1.isEmpty = false) :
    (wholePart s).2.length < s.length := by
  unfold wholePart at h ⊢
  split
  · simp
  · next hs =>
    have hd : (digits s).1.isEmpty = false := by
      revert h
      split
      · exact absurd rfl (hs _)
      · exact id
    have := length_digits s
    have : 0 < (digits s).1.length := List.length_pos_iff.2 (by simpa using hd)
    omega

theorem length_fraction_le (s : List Char) : (fraction s).rest.length ≤ s.length := by
  unfold fraction
  split
  · next tail =>
    have := length_digits tail
    split
    · simp
    · simp; omega
  · exact Nat.le_refl _

theorem length_exponent_le (s : List Char) : (exponent s).rest.length ≤ s.length := by
  unfold exponent
  split
  · next mark tail =>
    have h1 := length_digits (Numeral.sign tail).2
    have h2 := length_sign_le tail
    split
    · dsimp only
      split
      · simp
      · simp; omega
    · exact Nat.le_refl _
  · exact Nat.le_refl _

/-- The number at the start of a text without its sign. -/
def unsigned (negative : Bool) (s : List Char) : Except Obstacle (Step s Value) :=
  if h : (wholePart s).1.isEmpty = false then
    match numberOf negative (wholePart s).1 (fraction (wholePart s).2)
        (exponent (fraction (wholePart s).2).rest) with
    | .error obstacle => .error obstacle
    | .ok v =>
      .ok ⟨v, (exponent (fraction (wholePart s).2).rest).rest,
        Nat.lt_of_le_of_lt (length_exponent_le _)
          (Nat.lt_of_le_of_lt (length_fraction_le _) (length_wholePart_lt h))⟩
  else .error (.problem .value (s.length + if negative then 1 else 0))

/-! ## Values -/

/-- A value that is spelled by a word. -/
def word? (s : List Char) : Option (Step s Value) :=
  match s with
  | 'n' :: 'u' :: 'l' :: 'l' :: rest => some ⟨.null, rest, by simp; omega⟩
  | 't' :: 'r' :: 'u' :: 'e' :: rest => some ⟨.bool true, rest, by simp; omega⟩
  | 'f' :: 'a' :: 'l' :: 's' :: 'e' :: rest => some ⟨.bool false, rest, by simp; omega⟩
  | 'N' :: 'a' :: 'N' :: rest => some ⟨.float Double.nan, rest, by simp; omega⟩
  | 'I' :: 'n' :: 'f' :: 'i' :: 'n' :: 'i' :: 't' :: 'y' :: rest =>
    some ⟨.float (Double.infinity false), rest, by simp; omega⟩
  | '-' :: 'I' :: 'n' :: 'f' :: 'i' :: 'n' :: 'i' :: 't' :: 'y' :: rest =>
    some ⟨.float (Double.infinity true), rest, by simp; omega⟩
  | _ => none

/-- A value that holds no other values: a word, a text or a number. -/
def scalar (s : List Char) : Except Obstacle (Step s Value) :=
  match word? s with
  | some step => .ok step
  | none =>
    match s with
    | '"' :: rest =>
      match text rest with
      | .error obstacle => .error obstacle
      | .ok t => .ok ⟨.str t.result, t.rest, Nat.lt_succ_of_lt t.shorter⟩
    | '-' :: rest =>
      match unsigned true rest with
      | .error obstacle => .error obstacle
      | .ok n => .ok ⟨n.result, n.rest, Nat.lt_succ_of_lt n.shorter⟩
    | s => unsigned false s

/-- The name of a member with the colon after it, and the spaces around the colon. -/
def memberName (s : List Char) : Except Obstacle (Step s String) :=
  match s with
  | '"' :: rest =>
    match text rest with
    | .error obstacle => .error obstacle
    | .ok t =>
      match h : skipSpaces t.rest with
      | ':' :: after =>
        .ok ⟨t.result, skipSpaces after, by
          have h1 := length_skipSpaces_le after
          have h2 := length_skipSpaces_le t.rest
          have h3 := t.shorter
          simp [h] at h2 ⊢
          omega⟩
      | left => .error (.problem .colon left.length)
  | _ => .error (.problem .name s.length)

mutual

/-- The value at the start of a text; at most `room` lists and objects may stand inside each other.
-/
def value (room : Nat) (s : List Char) : Except Obstacle (Step s Value) :=
  match s with
  | '[' :: rest =>
    if room = 0 then .error (.depth .list)
    else
      match h : skipSpaces rest with
      | ']' :: after =>
        .ok ⟨.list [], after, by
          have := length_skipSpaces_le rest
          simp [h] at this ⊢
          omega⟩
      | _ =>
        match items (room - 1) (skipSpaces rest) with
        | .error obstacle => .error obstacle
        | .ok step =>
          .ok ⟨.list step.result, step.rest, Nat.lt_succ_of_le
            (Nat.le_trans (Nat.le_of_lt step.shorter) (length_skipSpaces_le rest))⟩
  | '{' :: rest =>
    if room = 0 then .error (.depth .object)
    else
      match h : skipSpaces rest with
      | '}' :: after =>
        .ok ⟨.object [], after, by
          have := length_skipSpaces_le rest
          simp [h] at this ⊢
          omega⟩
      | _ =>
        match members (room - 1) (skipSpaces rest) with
        | .error obstacle => .error obstacle
        | .ok step =>
          .ok ⟨.object (Members.ofPairs step.result), step.rest, Nat.lt_succ_of_le
            (Nat.le_trans (Nat.le_of_lt step.shorter) (length_skipSpaces_le rest))⟩
  | s => scalar s
termination_by (s.length, 0)
decreasing_by
  all_goals exact Prod.Lex.left _ _ (Nat.lt_succ_of_le (length_skipSpaces_le rest))

/-- The items of a list up to its closing bracket. -/
def items (room : Nat) (s : List Char) : Except Obstacle (Step s (List Value)) :=
  match value room s with
  | .error obstacle => .error obstacle
  | .ok first =>
    match h : skipSpaces first.rest with
    | ']' :: after =>
      .ok ⟨[first.result], after, by
        have h1 := length_skipSpaces_le first.rest
        have h2 := first.shorter
        simp [h] at h1
        omega⟩
    | ',' :: after =>
      match items room (skipSpaces after) with
      | .error obstacle => .error obstacle
      | .ok more =>
        .ok ⟨first.result :: more.result, more.rest, by
          have h1 := length_skipSpaces_le first.rest
          have h2 := first.shorter
          have h3 := length_skipSpaces_le after
          have h4 := more.shorter
          simp [h] at h1
          omega⟩
    | left => .error (.problem .comma left.length)
termination_by (s.length, 1)
decreasing_by
  · exact Prod.Lex.right _ Nat.zero_lt_one
  · have h1 := length_skipSpaces_le first.rest
    have h2 := first.shorter
    have h3 := length_skipSpaces_le after
    simp [h] at h1
    exact Prod.Lex.left _ _ (by omega)

/-- The members of an object up to its closing brace. -/
def members (room : Nat) (s : List Char) : Except Obstacle (Step s (List (String × Value))) :=
  match memberName s with
  | .error obstacle => .error obstacle
  | .ok name =>
    match value room name.rest with
    | .error obstacle => .error obstacle
    | .ok first =>
      match h : skipSpaces first.rest with
      | '}' :: after =>
        .ok ⟨[(name.result, first.result)], after, by
          have h1 := length_skipSpaces_le first.rest
          have h2 := first.shorter
          have h3 := name.shorter
          simp [h] at h1
          omega⟩
      | ',' :: after =>
        match members room (skipSpaces after) with
        | .error obstacle => .error obstacle
        | .ok more =>
          .ok ⟨(name.result, first.result) :: more.result, more.rest, by
            have h1 := length_skipSpaces_le first.rest
            have h2 := first.shorter
            have h3 := name.shorter
            have h4 := length_skipSpaces_le after
            have h5 := more.shorter
            simp [h] at h1
            omega⟩
      | left => .error (.problem .comma left.length)
termination_by (s.length, 1)
decreasing_by
  · exact Prod.Lex.left _ _ name.shorter
  · have h1 := length_skipSpaces_le first.rest
    have h2 := first.shorter
    have h3 := name.shorter
    have h4 := length_skipSpaces_le after
    simp [h] at h1
    exact Prod.Lex.left _ _ (by omega)

end

/-! ## Documents -/

/-- The error for an obstacle at a place of a document. The column counts from the last line break
before the place. -/
def errorAt (document : List Char) : Obstacle → ReadError
  | .digits count => .tooManyDigits count
  | .depth kind => .tooDeep kind
  | .problem problem left =>
    let position := document.length - left
    let before := document.take position
    let line := before.count '
' + 1
    let column := (before.reverse.takeWhile (· ≠ '
')).length + 1
    .malformed problem line column position

/-- How many lists and objects of a document may stand inside each other. -/
def depthLimit : Nat := 990

/-- The value of a document, whatever it begins with. -/
def readUnmarked (document : List Char) : Except ReadError Value :=
  match value depthLimit (skipSpaces document) with
  | .error obstacle => .error (errorAt document obstacle)
  | .ok step =>
    match skipSpaces step.rest with
    | [] => .ok step.result
    | left => .error (errorAt document (.problem .extraData left.length))

/-- The value of a document. -/
def readChars (document : List Char) : Except ReadError Value :=
  match document with
  | '\ufeff' :: _ => .error (errorAt document (.problem .byteOrderMark document.length))
  | _ => readUnmarked document

/-- The value of a document. -/
def read (document : String) : Except ReadError Value := readChars document.toList

/-- The value of a document that arrives as the bytes of a text: they may tell of another encoding
than the usual one. -/
def readBytes (text : String) : Except ReadError Value :=
  match Text.Encoding.reread text.toList with
  | .ok document => readUnmarked document
  | .error flaw => .error (.undecodable flaw)

end Conduit.Json
