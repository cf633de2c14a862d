import Conduit.Condition.Grammar
import Conduit.Condition.Template
import Conduit.Connector.ControlFlow

/-!
# What a condition says

Evaluates the expression of a condition over named values. Everything that goes wrong, from a broken
condition to an unknown name or an operand of the wrong kind, makes the condition false. This is the
part of the language of conditions that changes no value: of the methods, those of `Method.table`.
What lies outside of it fails here. Control flow steps are defined, and what is known of them is
proved, for every `Evaluator`; this is the one that runs.

* `Expr.eval?` — the datum of an expression;
* `holds` — whether a condition holds;
* `evaluator` — the evaluation of conditions for control flow steps.

Inside a collection such as `[x for x in items if x > 1]` the element and the tests see the bound
names and the functions only; the source sees all names.
-/

namespace Conduit.Condition

namespace Datum

/-! ## Operators -/

/-- Applies an operation on numbers. -/
def onNumbers? (op : Number → Number → Except Fault Number) (a b : Datum) : Option Datum := do
  let x ← a.number?
  let y ← b.number?
  match op x y with
  | .ok n => some (ofNumber n)
  | .error _ => none

/-- Whether a datum is a complex number. -/
def isComplex : Datum → Bool
  | complex _ => true
  | _ => false

/-- Applies an operation on numbers, or its form on complex numbers when one of them takes part. -/
def arithmetic? (op : Number → Number → Except Fault Number)
    (complexOp : Complex → Complex → Option Complex) (a b : Datum) : Option Datum :=
  if a.isComplex || b.isComplex then do
    return complex (← complexOp (← a.complex?) (← b.complex?))
  else onNumbers? op a b

/-- A list several times over; a negative count gives none. -/
def timesOver {α : Type} (items : List α) (n : Int) : List α :=
  (List.replicate n.toNat items).flatten

/-- The sum of two data. -/
def add? : Datum → Datum → Option Datum
  | str a, str b => some (str (a ++ b))
  | list a, list b => some (list (a ++ b))
  | tuple a, tuple b => some (tuple (a ++ b))
  | a, b => arithmetic? Number.add (fun z w => some (z.add w)) a b

/-- The greatest size of a datum that an operator makes: parts of a list, bits of an integer. It
stands in for the memory of the machine. -/
def sizeLimit : Nat := twoTo 28

/-- Whether a count is one that a machine word holds. -/
def isWordSized (n : Int) : Bool := -(twoTo 63 : Int) ≤ n && n < (twoTo 63 : Int)

/-- A list several times over, unless that is too long. -/
def timesOver? {α : Type} (items : List α) (n : Int) : Option (List α) :=
  if !isWordSized n then none
  else if items.isEmpty then some []
  else if items.length * n.toNat ≤ sizeLimit then some (timesOver items n)
  else none

/-- A datum repeated, when it is of a kind that can be. -/
def repeat? (d : Datum) (n : Int) : Option Datum :=
  match d with
  | str s => (timesOver? s n).map str
  | list items => (timesOver? items n).map list
  | tuple items => (timesOver? items n).map tuple
  | _ => none

/-- Whether a datum can be repeated. -/
def isSequence : Datum → Bool
  | str _ => true
  | list _ => true
  | tuple _ => true
  | _ => false

/-- The product of two data. -/
def mul? (a b : Datum) : Option Datum :=
  if a.isSequence then do repeat? a (← b.index?)
  else if b.isSequence then do repeat? b (← a.index?)
  else arithmetic? Number.mul (fun z w => some (z.mul w)) a b

/-- The remainder of two data; a text is a template that is filled. -/
def modulo? : Datum → Datum → Option Datum
  | str s, d => (Template.fill? s d).map str
  | a, b => onNumbers? Number.modulo a b

/-- The bits that two integers have in common; a negative one has ones without end. -/
def commonBits : Int → Int → Int
  | .ofNat m, .ofNat n => .ofNat (m &&& n)
  | .ofNat m, .negSucc n => .ofNat (m - (m &&& n))
  | .negSucc m, .ofNat n => .ofNat (n - (n &&& m))
  | .negSucc m, .negSucc n => .negSucc (m ||| n)

/-- The bits that one of two integers has. -/
def allBits : Int → Int → Int
  | .ofNat m, .ofNat n => .ofNat (m ||| n)
  | .ofNat m, .negSucc n => .negSucc (n - (n &&& m))
  | .negSucc m, .ofNat n => .negSucc (m - (m &&& n))
  | .negSucc m, .negSucc n => .negSucc (m &&& n)

/-- The bits that exactly one of two integers has. -/
def unequalBits : Int → Int → Int
  | .ofNat m, .ofNat n => .ofNat (m ^^^ n)
  | .ofNat m, .negSucc n => .negSucc (m ^^^ n)
  | .negSucc m, .ofNat n => .negSucc (m ^^^ n)
  | .negSucc m, .negSucc n => .ofNat (m ^^^ n)

/-- Applies an operation on bits to two truth values or two integers. -/
def onBits? (onBools : Bool → Bool → Bool) (onInts : Int → Int → Int) (a b : Datum) :
    Option Datum :=
  match a, b with
  | bool p, bool q => some (bool (onBools p q))
  | _, _ => do return int (onInts (← a.index?) (← b.index?))

/-- The items of a set that do not lie in another. -/
def without (as bs : List Datum) : List Datum := as.filter fun a => !isAmong a bs

/-- What two data have in common. The items are those of the smaller set, or of the second one. -/
def bitAnd? : Datum → Datum → Option Datum
  | set as, set bs =>
    let (as, bs) := if as.length < bs.length then (as, bs) else (bs, as)
    some (set (as.filter fun a => isAmong a bs))
  | a, b => onBits? (· && ·) commonBits a b

/-- What is in one of two data. -/
def bitOr? : Datum → Datum → Option Datum
  | set as, set bs => some (set (as ++ without bs as))
  | dict as, dict bs => some (dict (bs.foldl (fun acc e => setEntry acc e.1 e.2) as))
  | a, b => onBits? (· || ·) allBits a b

/-- What is in exactly one of two data. -/
def bitXor? : Datum → Datum → Option Datum
  | set as, set bs => some (set (without bs as ++ without as bs))
  | a, b => onBits? (· != ·) unequalBits a b

/-- The difference of two data. -/
def sub? : Datum → Datum → Option Datum
  | set as, set bs => some (set (without as bs))
  | a, b => arithmetic? Number.sub (fun z w => some (z.sub w)) a b

/-- An integer with its bits moved. -/
def shift? (left : Bool) (a b : Datum) : Option Datum := do
  let n ← a.index?
  let k ← b.index?
  if k < 0 then none
  else if left then
    if n = 0 then some (int 0)
    else if sizeLimit < k.toNat then none
    else some (int (n * (twoTo k.toNat : Int)))
  else some (int (n.fdiv (twoTo (min k.toNat (n.natAbs.log2 + 1)) : Int)))

/-- The power of two integers, unless it is too long. -/
def integerPower? (n k : Int) : Option Datum :=
  if 1 < n.natAbs && sizeLimit < n.natAbs.log2 * k.toNat then none
  else if n.natAbs ≤ 1 && 0 < k then onNumbers? Number.power (int n) (int (2 - k % 2))
  else onNumbers? Number.power (int n) (int k)

/-- Whether a power of two data is a complex number, although they are none. -/
def leavesReals (a b : Datum) : Bool :=
  match a.complex?, b.complex? with
  | some z, some w => Number.hasComplexPower z.re w.re
  | _, _ => false

/-- The power of two data. -/
def power? (a b : Datum) : Option Datum :=
  match a.index?, b.index? with
  | some n, some k => integerPower? n k
  | _, _ =>
    if a.isComplex || b.isComplex || leavesReals a b then do
      return complex (← Complex.power? (← a.complex?) (← b.complex?))
    else onNumbers? Number.power a b

/-- Applies an operator with two operands. -/
def binary? : BinaryOp → Datum → Datum → Option Datum
  | .add => add?
  | .sub => sub?
  | .mul => mul?
  | .divide => arithmetic? Number.divide Complex.divide?
  | .floorDivide => onNumbers? Number.floorDivide
  | .modulo => modulo?
  | .power => power?
  | .bitAnd => bitAnd?
  | .bitOr => bitOr?
  | .bitXor => bitXor?
  | .shiftLeft => shift? true
  | .shiftRight => shift? false

/-- Applies an operator with one operand. -/
def unary? : UnaryOp → Datum → Option Datum
  | .plus, float x => some (float x)
  | .minus, float x => some (float x.neg)
  | .plus, nan origin => some (nan origin)
  | .minus, nan _ => some (float .nan)
  | .plus, complex z => some (complex z)
  | .minus, complex z => some (complex z.neg)
  | .plus, d => d.index?.map int
  | .minus, d => d.index?.map fun n => int (-n)
  | .invert, d => d.index?.map fun n => int (-n - 1)

/-- Whether an item lies in a datum. A set can be looked for among the items of a set, none of which
is one. -/
def holds? : Datum → Datum → Option Bool
  | str s, str part => some (Text.contains s part)
  | str _, _ => none
  | list items, d => some (isAmong d items)
  | tuple items, d => some (isAmong d items)
  | set items, set others => some (isAmong (set others) items)
  | set items, d => if d.isKey then some (isAmong d items) else none
  | dict entries, d => if d.isKey then some (under? entries d).isSome else none
  | _, _ => none

/-- Whether there is only one text with these characters: it is empty or has one simple one. -/
def isUniqueText : List Char → Bool
  | [] => true
  | [c] => decide (c.toNat < 256)
  | _ => false

/-- Whether two data are one and the same: null and the truth values are unique, and so are small
integers, small texts and every NaN of one origin. -/
def same : Datum → Datum → Bool
  | nan a, nan b => a == b
  | null, null => true
  | bool a, bool b => a == b
  | int a, int b => a == b && -5 ≤ a && a ≤ 256
  | str a, str b => a == b && isUniqueText a
  | tuple [], tuple [] => true
  | function f, function g => f == g
  | _, _ => false

/-- Whether two literals are one: they are alike and of one kind. -/
def sameLiteral : Datum → Datum → Bool
  | int a, int b => a == b
  | float x, float y => x == y
  | complex z, complex w => z.re == w.re && z.im == w.im
  | str a, str b => a == b
  | a, b => same a b

/-- Whether a comparison holds, or `none` when it makes no sense. `one` says that the operands are
known to be one and the same. -/
def compare? (op : Comparison) (one : Bool) (a b : Datum) : Option Bool :=
  match op with
  | .eq => some (equals a b)
  | .ne => some (!equals a b)
  | .order op => ordered? op a b
  | .isIn => holds? b a
  | .notIn => (holds? b a).map (!·)
  | .same => some (one || same a b)
  | .notSame => some !(one || same a b)

/-! ## Parts -/

/-- The item at a position, counted from the end when negative. -/
def itemAt? {α : Type} (items : List α) (i : Int) : Option α :=
  if 0 ≤ i then items[i.toNat]?
  else if -i ≤ items.length then items[(items.length + i).toNat]?
  else none

/-- The part of a datum under a key. -/
def part? (container key : Datum) : Option Datum :=
  match container with
  | str s => do return str [← itemAt? s (← key.index?)]
  | list items => do itemAt? items (← key.index?)
  | tuple items => do itemAt? items (← key.index?)
  | dict entries => if key.isKey then under? entries key else none
  | _ => none

/-- A bound of a slice: null means that there is none. -/
def bound? : Datum → Option (Option Int)
  | null => some none
  | d => d.index?.map some

/-- A bound as a place between `low` and `high`, counted from the end when negative. -/
def place (length low high : Int) (i : Int) : Int :=
  let i := if i < 0 then i + length else i
  max low (min high i)

/-- The items from `start` on that are less than `stop`, in steps; `count` bounds their number. -/
def stepped {α : Type} (items : List α) (stop step : Int) : Nat → Int → List α
  | 0, _ => []
  | count + 1, i =>
    if (0 < step ∧ i < stop) ∨ (step < 0 ∧ stop < i) then
      match items[i.toNat]? with
      | some x => x :: stepped items stop step count (i + step)
      | none => []
    else []

/-- The slice of a list. -/
def slice? {α : Type} (items : List α) (start stop step : Option Int) : Option (List α) :=
  let length : Int := items.length
  let step := step.getD 1
  if step = 0 then none
  else if 0 < step then
    let first := (start.map (place length 0 length)).getD 0
    let last := (stop.map (place length 0 length)).getD length
    some (stepped items last step items.length first)
  else
    let first := (start.map (place length (-1) (length - 1))).getD (length - 1)
    let last := (stop.map (place length (-1) (length - 1))).getD (-1)
    some (stepped items last step items.length first)

/-- The slice of a datum. -/
def sliceOf? (container start stop step : Datum) : Option Datum := do
  let start ← bound? start
  let stop ← bound? stop
  let step ← bound? step
  match container with
  | str s => return str (← slice? s start stop step)
  | list items => return list (← slice? items start stop step)
  | tuple items => return tuple (← slice? items start stop step)
  | _ => none

/-! ## Functions -/

/-- The value of a digit of any script in a base. -/
def anyDigitIn? (base : Nat) (c : Char) : Option Nat :=
  ((Text.digitValue? c).filter (· < base)).or (Token.digitIn? base c)

/-- Whether every number of digits is read in a base: it is a power of two. -/
def isUnlimited (base : Nat) : Bool := twoTo base.log2 == base

/-- The integer of digits in a base. -/
def digitsIn? (base : Nat) (body : List Char) : Option Nat :=
  match Numeral.digits (anyDigitIn? base) body with
  | ([], _) => none
  | (ds, []) =>
    if isUnlimited base || ds.length ≤ Numeral.digitLimit then some (Token.valueIn base ds)
    else none
  | _ => none

/-- The body of a numeral after the mark of its base, with that base. -/
def markedBody? : List Char → Option (Nat × List Char)
  | '0' :: mark :: '_' :: rest => (Token.markedBase? mark).map fun b => (b, rest)
  | '0' :: mark :: rest => (Token.markedBase? mark).map fun b => (b, rest)
  | _ => none

/-- The integer of a numeral in a base. Base zero takes the base from the mark of the numeral; one
without a mark is decimal and has no leading zeros, unless it is zero. -/
def integerIn? (s : List Char) (base : Int) : Option Int := do
  let (negative, body) := Numeral.sign (Numeral.trimmed s)
  let marked := (markedBody? body).filter fun found => base = 0 ∨ base = found.1
  if base ≠ 0 ∧ (base < 2 ∨ 36 < base) then none
  else
    match marked with
    | some (b, rest) => return Numeral.signed negative (← digitsIn? b rest)
    | none =>
      let n ← digitsIn? (if base = 0 then 10 else base.toNat) body
      if base = 0 ∧ n ≠ 0 ∧ (body.head?.bind Text.digitValue?) = some 0 then none
      else return Numeral.signed negative n

/-- The integer of a datum. -/
def integer? : Datum → Option Int
  | bool b => some (if b then 1 else 0)
  | int n => some n
  | float x => x.truncate?
  | str s =>
    match Numeral.integer s with
    | .ok n => some n
    | .error _ => none
  | _ => none

/-- The double of a datum. -/
def real? : Datum → Option Double
  | str s => Numeral.real? s
  | d => do
    match (← d.number?).toDouble with
    | .ok x => some x
    | .error _ => none

/-- The number of parts of a datum. -/
def size? : Datum → Option Nat
  | str s => some s.length
  | list items => some items.length
  | tuple items => some items.length
  | set items => some items.length
  | dict entries => some entries.length
  | _ => none

/-- Calls a function. -/
def callFunction? : Builtin → List Datum → Option Datum
  | .integer, [] => some (int 0)
  | .integer, [d] => d.integer?.map int
  | .integer, [str s, base] => do return int (← integerIn? s (← base.index?))
  | .real, [] => some (float ⟨0⟩)
  | .real, [nan origin] => some (nan origin)
  | .real, [d] => d.real?.map float
  | .text, [] => some (str [])
  | .text, [d] => d.display?.map str
  | .size, [d] => d.size?.map fun n => int n
  | _, _ => none

/-! ## Methods -/

/-- A part of a text between optional bounds, with the place where it begins. `none` stands for
bounds that leave nothing, not even the empty text. -/
def window (s : List Char) (bounds : List Datum) : Option (Option (Nat × List Char)) := do
  let length : Int := s.length
  let clamp (d : Datum) (absent : Int) : Option Int := do
    return match ← bound? d with
      | none => absent
      | some i => if i < 0 then max 0 (i + length) else i
  match bounds with
  | [] => return some (0, s)
  | [start] =>
    let first ← clamp start 0
    return if length < first then none else some (first.toNat, s.drop first.toNat)
  | [start, stop] =>
    let first ← clamp start 0
    let last := min length (← clamp stop length)
    return if length < first ∨ last < first then none
      else some (first.toNat, (s.take last.toNat).drop first.toNat)
  | _ => none

/-- How often a part occurs in a text, without overlaps. -/
def occurrences (s part : List Char) : Nat :=
  if part.isEmpty then s.length + 1 else (Text.splitOn part s).length - 1

/-- The text without the characters of a set at its ends. -/
def stripOf (drop : Char → Bool) (s : List Char) : List Char :=
  ((s.dropWhile drop).reverse.dropWhile drop).reverse

/-- The words of a text; after `limit` of them the rest stays together. -/
def wordsUpTo : Nat → List Char → List (List Char)
  | 0, s =>
    let rest := ((Text.dropBlanks s).reverse.dropWhile Text.isBlank).reverse
    if rest.isEmpty then [] else [Text.dropBlanks s]
  | limit + 1, s =>
    let body := Text.dropBlanks s
    if body.isEmpty then []
    else
      body.takeWhile (fun c => !Text.isBlank c)
        :: wordsUpTo limit (body.dropWhile fun c => !Text.isBlank c)

/-- Joins all but the first pieces again. -/
def joinFrom (limit : Nat) (separator : List Char) (pieces : List (List Char)) :
    List (List Char) :=
  if pieces.length ≤ limit + 1 then pieces
  else pieces.take limit ++ [separator.intercalate (pieces.drop limit)]

/-- The pieces of a text. -/
def splitText? (s : List Char) : List Datum → Option (List (List Char))
  | [] => some (Text.words s)
  | [null] => some (Text.words s)
  | [null, limit] => do
    let n ← limit.index?
    return if n < 0 then Text.words s else wordsUpTo n.toNat s
  | [str separator] => if separator.isEmpty then none else some (Text.splitOn separator s)
  | [str separator, limit] => do
    let n ← limit.index?
    if separator.isEmpty then none
    else
      let pieces := Text.splitOn separator s
      return if n < 0 then pieces else joinFrom n.toNat separator pieces
  | _ => none

/-- Whether one of some texts stands at the start of another, or at its end. -/
def meetsEnd? (atEnd : Bool) (s : List Char) : List Datum → Option Bool
  | [] => some false
  | str part :: rest =>
    if if atEnd then Text.startsWith s.reverse part.reverse else Text.startsWith s part then
      some true
    else meetsEnd? atEnd s rest
  | _ :: _ => none

/-- Whether a datum is a text. -/
def isText : Datum → Bool
  | str _ => true
  | _ => false

/-- Whether a text begins or ends with another, or with one of a tuple, between optional bounds. -/
def affixed? (atEnd : Bool) (s : List Char) : List Datum → Option Bool
  | [] => none
  | part :: bounds => do
    let options ←
      match part with
      | str _ => some [part]
      | tuple options => some options
      | _ => none
    match ← window s bounds with
    | none => if options.all isText then some false else none
    | some (_, inside) => meetsEnd? atEnd inside options

/-- The place of the first item that equals a datum, between optional bounds. -/
def placeOf? (items : List Datum) (d : Datum) (bounds : List Datum) : Option Int := do
  let length : Int := items.length
  let clamp (d : Datum) : Option Int := do
    let i ← d.index?
    return if i < 0 then max 0 (i + length) else i
  let window : Option (Int × Int) :=
    match bounds with
    | [] => some (0, length)
    | [start] => do return (← clamp start, length)
    | [start, stop] => do return (← clamp start, min length (← clamp stop))
    | _ => none
  let (first, last) ← window
  let inside := (items.take last.toNat).drop first.toNat
  let i ← inside.findIdx? fun item => agrees item d
  return first + i

/-- Calls a method of a text. -/
def callTextMethod? (s : List Char) : Method → List Datum → Option Datum
  | .lower, [] => some (str (Text.lower s))
  | .upper, [] => some (str (Text.upper s))
  | .startsWith, arguments => (affixed? false s arguments).map bool
  | .endsWith, arguments => (affixed? true s arguments).map bool
  | .strip, [] => some (str (Text.strip s))
  | .strip, [null] => some (str (Text.strip s))
  | .strip, [str drop] => some (str (stripOf (fun c => drop.contains c) s))
  | .split, arguments => (splitText? s arguments).map fun pieces => list (pieces.map str)
  | .count, str part :: bounds => do
    match ← window s bounds with
    | none => return int 0
    | some (_, inside) => return int (occurrences inside part)
  | .index, str part :: bounds => do
    let (first, inside) ← ← window s bounds
    return int (first + (← Text.find? part inside))
  | _, _ => none

/-- Calls a method. -/
def callMethod? : Datum → Method → List Datum → Option Datum
  | str s, m, arguments => callTextMethod? s m arguments
  | list items, .count, [d] => some (int (items.countP fun item => agrees item d))
  | tuple items, .count, [d] => some (int (items.countP fun item => agrees item d))
  | list items, .index, d :: bounds => (placeOf? items d bounds).map int
  | tuple items, .index, d :: bounds => (placeOf? items d bounds).map int
  | dict entries, .get, [key] =>
    if key.isKey then some ((under? entries key).getD null) else none
  | dict entries, .get, [key, absent] =>
    if key.isKey then some ((under? entries key).getD absent) else none
  | _, _, _ => none

/-- Whether a kind of datum has a method. -/
def hasMethod : Datum → Method → Bool
  | str _, m => m != .get
  | list _, m => m == .count || m == .index
  | tuple _, m => m == .count || m == .index
  | dict _, m => m == .get
  | _, _ => false

/-- The method of a datum. -/
def member? (d : Datum) (name : String) : Option Datum := do
  let m ← Method.table.lookup name
  if d.hasMethod m then some (method d m) else none

/-- The parameters that can be given by name, with what they are by default. Those of a function
come after its first argument, unless that one has a name itself. -/
def parameters : Datum → List (String × Datum)
  | method (str _) .split => [("sep", null), ("maxsplit", int (-1))]
  | function .integer => [("", null), ("base", int 10)]
  | function .text => [("object", str [])]
  | _ => []

/-- The arguments of a call in order: those with a name, which must be a name of a parameter that
is not given yet, come after the others. -/
def inOrder? (f : Datum) (arguments : List Datum) (named : List (String × Datum)) :
    Option (List Datum) :=
  let missing := f.parameters.drop arguments.length
  if named.isEmpty then some arguments
  else if named.all fun n => missing.any fun p => p.1 == n.1 then
    some (arguments ++ missing.map fun p => (named.lookup p.1).getD p.2)
  else none

/-- Calls a datum. -/
def call? (f : Datum) (arguments : List Datum) (named : List (String × Datum)) :
    Option Datum := do
  let arguments ← f.inOrder? arguments named
  match f with
  | function f => callFunction? f arguments
  | method receiver m => callMethod? receiver m arguments
  | _ => none

/-- The set of some data. -/
def setOf? (items : List Datum) : Option Datum :=
  if areKeys items then some (set (items.foldl addItem [])) else none

end Datum

/-! ## Names -/

/-- The functions and constants with their names. -/
def builtins : List (String × Datum) :=
  [("int", .function .integer), ("float", .function .real), ("str", .function .text),
   ("len", .function .size), ("__builtins__", .dict []), ("True", .bool true),
   ("False", .bool false), ("None", .null)]

/-- The names that an expression sees. -/
structure Scope where
  /-- The names with what they stand for; an earlier one hides a later one. -/
  names : List (String × Datum)
  /-- Whether the expression stands inside a collection. -/
  inner : Bool

/-- What a name stands for. -/
def Scope.lookup? (scope : Scope) (name : String) : Option Datum :=
  (scope.names.lookup name).or (builtins.lookup name)

mutual

/-- The names of a target with the parts of a datum that they are bound to. -/
def Target.bind? : Target → Datum → Option (List (String × Datum))
  | name s, d => some [(s, d)]
  | parts targets, d => do bindAll? targets (← d.parts?)

/-- The names of targets with what they are bound to, one datum for each. -/
def Target.bindAll? : List Target → List Datum → Option (List (String × Datum))
  | [], [] => some []
  | t :: targets, d :: rest => do return (← t.bind? d) ++ (← bindAll? targets rest)
  | _, _ => none

end

/-- The scope of the element and the tests of a collection. -/
def Scope.enter (scope : Scope) (bound : List (String × Datum)) : Scope where
  names := bound.reverse ++ if scope.inner then scope.names else []
  inner := true

/-! ## Evaluation -/

/-- An evaluation may fail, and counts the NaN that it makes. -/
abbrev Evaluation := StateT Nat Option

/-- A datum that an operation made: NaN gets an origin of its own. -/
def Evaluation.make (d : Datum) : Evaluation Datum := do
  match d with
  | .float x =>
    if x.isNaN then
      let origin := (← get) + 1
      set origin
      return .nan origin
    else return d
  | _ => return d

namespace Expr

/-- Whether two expressions stand for one and the same datum: the same name, or one literal. -/
def areOne : Expr → Expr → Bool
  | name s, name t => s == t
  | literal a, literal b => Datum.sameLiteral a b
  | _, _ => false

mutual

/-- The datum of an expression. -/
def eval (scope : Scope) : Expr → Evaluation Datum
  | literal d => return d
  | name s => scope.lookup? s
  | list items => return .list (← evalAll scope items)
  | tuple items => return .tuple (← evalAll scope items)
  | set items => do Datum.setOf? (← evalAll scope items)
  | dict entries => return .dict (← evalEntries scope [] entries)
  | collect intoSet element target source tests => do
    let parts ← (← eval scope source).parts?
    let found ← parts.mapM fun d => do
      let inside := scope.enter (← target.bind? d)
      if ← passes inside tests then return some (← eval inside element) else return none
    let items := found.filterMap id
    if intoSet then Datum.setOf? items else return .list items
  | member receiver s => do (← eval scope receiver).member? s
  | call f arguments named => do
    let d ← (← eval scope f).call? (← evalAll scope arguments) (← evalNamed scope named)
    Evaluation.make d
  | item container key => do Datum.part? (← eval scope container) (← eval scope key)
  | slice container start stop step => do
    Datum.sliceOf? (← eval scope container) (← eval scope start) (← eval scope stop)
      (← eval scope step)
  | unary op e => do
    let d ← Datum.unary? op (← eval scope e)
    Evaluation.make d
  | binary op a b => do
    let d ← Datum.binary? op (← eval scope a) (← eval scope b)
    Evaluation.make d
  | compare first rest => do evalChain scope first (← eval scope first) rest
  | both a b => do
    let d ← eval scope a
    if d.isTruthy then eval scope b else return d
  | either a b => do
    let d ← eval scope a
    if d.isTruthy then return d else eval scope b
  | negation e => do return .bool !(← eval scope e).isTruthy
  | choice test yes no => do
    if (← eval scope test).isTruthy then eval scope yes else eval scope no

/-- The data of expressions. -/
def evalAll (scope : Scope) : List Expr → Evaluation (List Datum)
  | [] => return []
  | e :: rest => do return (← eval scope e) :: (← evalAll scope rest)

/-- The data of expressions with names. -/
def evalNamed (scope : Scope) : List (String × Expr) → Evaluation (List (String × Datum))
  | [] => return []
  | (s, e) :: rest => do return (s, ← eval scope e) :: (← evalNamed scope rest)

/-- The entries of a table, a later one overwriting an earlier one. -/
def evalEntries (scope : Scope) (before : List (Datum × Datum)) :
    List (Expr × Expr) → Evaluation (List (Datum × Datum))
  | [] => return before
  | (key, e) :: rest => do
    let k ← eval scope key
    let d ← eval scope e
    if k.isKey then evalEntries scope (Datum.setEntry before k d) rest else failure

/-- Whether all tests hold. -/
def passes (scope : Scope) : List Expr → Evaluation Bool
  | [] => return true
  | test :: rest => do
    if (← eval scope test).isTruthy then passes scope rest else return false

/-- The rest of a chain of comparisons; each operand is compared with the one before it. -/
def evalChain (scope : Scope) (operand : Expr) (before : Datum) :
    List (Comparison × Expr) → Evaluation Datum
  | [] => return .bool true
  | (op, e) :: rest => do
    let d ← eval scope e
    if ← Datum.compare? op (areOne operand e) before d then evalChain scope e d rest
    else return .bool false

end

/-- The datum of an expression, if it has one. -/
def eval? (scope : Scope) (e : Expr) : Option Datum := ((e.eval scope).run 0).map (·.1)

end Expr

/-- Whether a condition counts as true of named values, if it can be evaluated. -/
def truth? (condition : String) (values : Members) : Option Bool :=
  let names := values.map fun m => (m.1, Datum.ofValue m.2)
  ((Expr.parse? condition).bind (Expr.eval? ⟨names, false⟩)).map Datum.isTruthy

/-- Whether a condition holds of named values. -/
def holds (condition : String) (values : Members) : Bool := (truth? condition values).getD false

/-- The evaluation of conditions for control flow steps. -/
def evaluator : Evaluator := fun condition names => ⟨truth? condition names, names⟩

/-- The name and the value of a pair: a list of two, a text of two characters, or the two names of
an object. -/
def pair? : Value → Option (Value × Value)
  | .list [key, v] => some (key, v)
  | .str s =>
    match s.toList with
    | [a, b] => some (.str (String.singleton a), .str (String.singleton b))
    | _ => none
  | .object [(a, _), (b, _)] => some (.str a, .str b)
  | _ => none

/-- The named values of a list of pairs. Names that are no texts can never be asked for. -/
def namedPairs? : List Value → Option Members
  | [] => some []
  | v :: rest => do
    let (key, value) ← pair? v
    let more ← namedPairs? rest
    match key with
    | .str name => return (name, value) :: more
    | .list _ => none
    | .object _ => none
    | _ => return more

/-- The named values that a value gives: the members of an object or a list of pairs. -/
def namedValues? : Value → Option Members
  | .object members => some members
  | .list pairs => (namedPairs? pairs).map Members.ofPairs
  | .str s => if s.isEmpty then some [] else none
  | _ => none

/-- Whether a condition holds of the named values that a value gives; of any other value nothing
holds. -/
def holdsOf (condition : String) (values : Value) : Bool :=
  match namedValues? values with
  | some members => holds condition members
  | none => false

end Conduit.Condition
