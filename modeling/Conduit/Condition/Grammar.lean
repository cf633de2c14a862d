import Conduit.Condition.Expr
import Conduit.Condition.Token

/-!
# The grammar of conditions

Reads the tokens of a condition as an expression. From weak to strong the operators are: the choice
`a if t else b`; `or`; `and`; `not`; comparisons, which form chains; `|`; `^`; `&`; shifts; sums;
products; signs; powers, which bind to the right; calls, members and parts.

* `Expr.parse?` — the expression of a condition, or `none` when it is none.

Every function takes fuel and gives back what is left of the tokens. One level of brackets goes down
less than twenty functions and every other call uses a token, so `fuelFor` is enough.
-/

namespace Conduit.Condition

namespace Expr

/-- The operators of each level, from the weakest. -/
def levels : List (List (String × BinaryOp)) :=
  [[("|", .bitOr)], [("^", .bitXor)], [("&", .bitAnd)], [("<<", .shiftLeft), (">>", .shiftRight)],
   [("+", .add), ("-", .sub)],
   [("*", .mul), ("/", .divide), ("//", .floorDivide), ("%", .modulo)]]

/-- The comparison at the start of some tokens. -/
def comparison? : List Token → Option (Comparison × List Token)
  | .sign "==" :: rest => some (.eq, rest)
  | .sign "!=" :: rest => some (.ne, rest)
  | .sign "<" :: rest => some (.order .lt, rest)
  | .sign "<=" :: rest => some (.order .le, rest)
  | .sign ">" :: rest => some (.order .gt, rest)
  | .sign ">=" :: rest => some (.order .ge, rest)
  | .word "in" :: rest => some (.isIn, rest)
  | .word "not" :: .word "in" :: rest => some (.notIn, rest)
  | .word "is" :: .word "not" :: rest => some (.notSame, rest)
  | .word "is" :: rest => some (.same, rest)
  | _ => none

mutual

/-- A name, or targets in brackets. -/
def target? : Nat → List Token → Option (Target × List Token)
  | 0, _ => none
  | _ + 1, .name s :: rest => some (.name s, rest)
  | fuel + 1, .sign "(" :: rest => do
    let (found, comma, rest) ← targets? fuel rest
    match found, comma, rest with
    | [only], false, .sign ")" :: rest => return (only, rest)
    | _, _, .sign ")" :: rest => return (.parts found, rest)
    | _, _, _ => none
  | fuel + 1, .sign "[" :: rest => do
    let (found, _, rest) ← targets? fuel rest
    match rest with
    | .sign "]" :: rest => return (.parts found, rest)
    | _ => none
  | _, _ => none

/-- Targets separated by commas, and whether a comma was last. -/
def targets? : Nat → List Token → Option (List Target × Bool × List Token)
  | 0, _ => none
  | fuel + 1, ts =>
    match target? fuel ts with
    | none => some ([], false, ts)
    | some (first, .sign "," :: rest) => do
      let (more, comma, rest) ← targets? fuel rest
      return (first :: more, comma || more.isEmpty, rest)
    | some (first, rest) => some ([first], false, rest)

end

/-- Joins texts that stand side by side. -/
def joinTexts (before : List Char) : List Token → List Char × List Token
  | .text s :: rest => joinTexts (before ++ s) rest
  | rest => (before, rest)

mutual

/-- An expression. -/
def expression : Nat → List Token → Option (Expr × List Token)
  | 0, _ => none
  | fuel + 1, ts => do
    let (e, rest) ← disjunction fuel ts
    match rest with
    | .word "if" :: rest =>
      let (test, rest) ← disjunction fuel rest
      match rest with
      | .word "else" :: rest =>
        let (no, rest) ← expression fuel rest
        return (.choice test e no, rest)
      | _ => none
    | _ => return (e, rest)

/-- Operands joined by `or`. -/
def disjunction : Nat → List Token → Option (Expr × List Token)
  | 0, _ => none
  | fuel + 1, ts => do
    let (e, rest) ← conjunction fuel ts
    match rest with
    | .word "or" :: rest =>
      let (other, rest) ← disjunction fuel rest
      return (.either e other, rest)
    | _ => return (e, rest)

/-- Operands joined by `and`. -/
def conjunction : Nat → List Token → Option (Expr × List Token)
  | 0, _ => none
  | fuel + 1, ts => do
    let (e, rest) ← inversion fuel ts
    match rest with
    | .word "and" :: rest =>
      let (other, rest) ← conjunction fuel rest
      return (.both e other, rest)
    | _ => return (e, rest)

/-- A negation or a chain of comparisons. -/
def inversion : Nat → List Token → Option (Expr × List Token)
  | 0, _ => none
  | fuel + 1, ts =>
    match ts with
    | .word "not" :: rest => do
      let (e, rest) ← inversion fuel rest
      return (.negation e, rest)
    | _ => do
      let (e, rest) ← operation fuel levels ts
      let (chain, rest) ← comparisons fuel rest
      return (if chain.isEmpty then e else .compare e chain, rest)

/-- The rest of a chain of comparisons. -/
def comparisons : Nat → List Token → Option (List (Comparison × Expr) × List Token)
  | 0, _ => none
  | fuel + 1, ts =>
    match comparison? ts with
    | none => some ([], ts)
    | some (op, rest) => do
      let (e, rest) ← operation fuel levels rest
      let (chain, rest) ← comparisons fuel rest
      return ((op, e) :: chain, rest)

/-- Operands joined by the operators of these levels. -/
def operation : Nat → List (List (String × BinaryOp)) → List Token → Option (Expr × List Token)
  | 0, _, _ => none
  | fuel + 1, [], ts => signed fuel ts
  | fuel + 1, level :: stronger, ts => do
    let (e, rest) ← operation fuel stronger ts
    operands fuel level stronger e rest

/-- The operands of a level that follow its first one, joined from the left. -/
def operands : Nat → List (String × BinaryOp) → List (List (String × BinaryOp)) → Expr →
    List Token → Option (Expr × List Token)
  | 0, _, _, _, _ => none
  | fuel + 1, level, stronger, e, ts =>
    match ts with
    | .sign s :: rest =>
      match level.lookup s with
      | none => some (e, ts)
      | some op => do
        let (other, rest) ← operation fuel stronger rest
        operands fuel level stronger (.binary op e other) rest
    | _ => some (e, ts)

/-- An operand with signs before it, or a power. -/
def signed : Nat → List Token → Option (Expr × List Token)
  | 0, _ => none
  | fuel + 1, ts =>
    match ts with
    | .sign "+" :: rest => do
      let (e, rest) ← signed fuel rest
      return (.unary .plus e, rest)
    | .sign "-" :: rest => do
      let (e, rest) ← signed fuel rest
      return (.unary .minus e, rest)
    | .sign "~" :: rest => do
      let (e, rest) ← signed fuel rest
      return (.unary .invert e, rest)
    | _ => do
      let (e, rest) ← atom fuel ts
      let (e, rest) ← trailers fuel e rest
      match rest with
      | .sign "**" :: rest =>
        let (other, rest) ← signed fuel rest
        return (.binary .power e other, rest)
      | _ => return (e, rest)

/-- Members, calls and parts that follow an operand. -/
def trailers : Nat → Expr → List Token → Option (Expr × List Token)
  | 0, _, _ => none
  | fuel + 1, e, ts =>
    match ts with
    | .sign "." :: .name s :: rest => trailers fuel (.member e s) rest
    | .sign "(" :: rest => do
      let (items, named, rest) ← arguments fuel [] rest
      match rest with
      | .sign ")" :: rest => trailers fuel (.call e items named) rest
      | _ => none
    | .sign "[" :: rest => do
      let (found, rest) ← subscript fuel e rest
      match rest with
      | .sign "]" :: rest => trailers fuel found rest
      | _ => none
    | _ => some (e, ts)

/-- The arguments of a call up to its closing bracket: those with a name come last, and no name
comes twice. -/
def arguments : Nat → List String → List Token →
    Option (List Expr × List (String × Expr) × List Token)
  | 0, _, _ => none
  | fuel + 1, names, ts =>
    match ts with
    | .sign ")" :: _ => some ([], [], ts)
    | .name s :: .sign "=" :: rest => do
      let (e, rest) ← expression fuel rest
      if names.contains s then none
      else
        let (items, named, rest) ← furtherArguments fuel (s :: names) rest
        return (items, (s, e) :: named, rest)
    | _ => do
      let (e, rest) ← expression fuel ts
      if !names.isEmpty then none
      else
        let (items, named, rest) ← furtherArguments fuel names rest
        return (e :: items, named, rest)

/-- The arguments after one, which a comma separates from it. -/
def furtherArguments : Nat → List String → List Token →
    Option (List Expr × List (String × Expr) × List Token)
  | 0, _, _ => none
  | fuel + 1, names, ts =>
    match ts with
    | .sign "," :: rest => arguments fuel names rest
    | _ => some ([], [], ts)

/-- The part of an operand that stands between square brackets. -/
def subscript : Nat → Expr → List Token → Option (Expr × List Token)
  | 0, _, _ => none
  | fuel + 1, container, ts => do
    let (start, rest) ← bound fuel ts
    match start, rest with
    | start, .sign ":" :: rest =>
      let (stop, rest) ← bound fuel rest
      match rest with
      | .sign ":" :: rest =>
        let (step, rest) ← bound fuel rest
        return (.slice container (start.getD (.literal .null)) (stop.getD (.literal .null))
          (step.getD (.literal .null)), rest)
      | _ =>
        return (.slice container (start.getD (.literal .null)) (stop.getD (.literal .null))
          (.literal .null), rest)
    | some key, .sign "," :: rest =>
      let (keys, _, rest) ← expressions fuel rest
      return (.item container (.tuple (key :: keys)), rest)
    | some key, rest => return (.item container key, rest)
    | none, _ => none

/-- An expression that may be missing before a colon or a closing bracket. -/
def bound : Nat → List Token → Option (Option Expr × List Token)
  | 0, _ => none
  | fuel + 1, ts =>
    match ts with
    | .sign ":" :: _ => some (none, ts)
    | .sign "]" :: _ => some (none, ts)
    | _ => do
      let (e, rest) ← expression fuel ts
      return (some e, rest)

/-- Expressions separated by commas up to a closing bracket or the end; whether a comma was last. -/
def expressions : Nat → List Token → Option (List Expr × Bool × List Token)
  | 0, _ => none
  | fuel + 1, ts =>
    match ts with
    | [] => some ([], false, [])
    | .sign ")" :: _ => some ([], false, ts)
    | .sign "]" :: _ => some ([], false, ts)
    | .sign "\x7d" :: _ => some ([], false, ts)
    | _ => do
      let (e, rest) ← expression fuel ts
      match rest with
      | .sign "," :: rest =>
        let (more, comma, rest) ← expressions fuel rest
        return (e :: more, comma || more.isEmpty, rest)
      | _ => return ([e], false, rest)

/-- The entries of a table after its first one. -/
def furtherEntries : Nat → List Token → Option (List (Expr × Expr) × List Token)
  | 0, _ => none
  | fuel + 1, ts =>
    match ts with
    | .sign "," :: .sign "\x7d" :: rest => some ([], .sign "\x7d" :: rest)
    | .sign "," :: rest => do
      let (key, rest) ← expression fuel rest
      match rest with
      | .sign ":" :: rest =>
        let (e, rest) ← expression fuel rest
        let (more, rest) ← furtherEntries fuel rest
        return ((key, e) :: more, rest)
      | _ => none
    | _ => some ([], ts)

/-- The names, the source and the tests that follow the element of a collection. -/
def collection : Nat → Bool → Expr → List Token → Option (Expr × List Token)
  | 0, _, _, _ => none
  | fuel + 1, intoSet, element, ts => do
    let (found, comma, rest) ← targets? fuel ts
    match found, rest with
    | [], _ => none
    | first :: more, .word "in" :: rest =>
      let (source, rest) ← disjunction fuel rest
      let (tests, rest) ← conditions fuel rest
      let target := if more.isEmpty && !comma then first else .parts found
      return (.collect intoSet element target source tests, rest)
    | _, _ => none

/-- The tests of a collection. -/
def conditions : Nat → List Token → Option (List Expr × List Token)
  | 0, _ => none
  | fuel + 1, ts =>
    match ts with
    | .word "if" :: rest => do
      let (test, rest) ← disjunction fuel rest
      let (more, rest) ← conditions fuel rest
      return (test :: more, rest)
    | _ => some ([], ts)

/-- An operand without signs. -/
def atom : Nat → List Token → Option (Expr × List Token)
  | 0, _ => none
  | fuel + 1, ts =>
    match ts with
    | .int n :: rest => some (.literal (.int n), rest)
    | .float x :: rest => some (.literal (.float x), rest)
    | .imaginary x :: rest => some (.literal (.complex ⟨Double.signedZero false, x⟩), rest)
    | .text s :: rest =>
      let (t, rest) := joinTexts s rest
      some (.literal (.str t), rest)
    | .word "None" :: rest => some (.literal .null, rest)
    | .word "True" :: rest => some (.literal (.bool true), rest)
    | .word "False" :: rest => some (.literal (.bool false), rest)
    | .name s :: rest => some (.name s, rest)
    | .sign "(" :: rest => do
      let (items, comma, rest) ← expressions fuel rest
      match items, comma, rest with
      | [e], false, .sign ")" :: rest => return (e, rest)
      | items, _, .sign ")" :: rest => return (.tuple items, rest)
      | _, _, _ => none
    | .sign "[" :: rest => do
      let (items, comma, rest) ← expressions fuel rest
      match items, comma, rest with
      | [element], false, .word "for" :: rest =>
        let (e, rest) ← collection fuel false element rest
        match rest with
        | .sign "]" :: rest => return (e, rest)
        | _ => none
      | items, _, .sign "]" :: rest => return (.list items, rest)
      | _, _, _ => none
    | .sign "\x7b" :: rest =>
      match rest with
      | .sign "\x7d" :: rest => some (.dict [], rest)
      | _ => do
        let (first, rest) ← expression fuel rest
        match rest with
        | .sign ":" :: rest =>
          let (e, rest) ← expression fuel rest
          let (more, rest) ← furtherEntries fuel rest
          match rest with
          | .sign "\x7d" :: rest => return (.dict ((first, e) :: more), rest)
          | _ => none
        | .word "for" :: rest =>
          let (e, rest) ← collection fuel true first rest
          match rest with
          | .sign "\x7d" :: rest => return (e, rest)
          | _ => none
        | .sign "," :: rest =>
          let (items, _, rest) ← expressions fuel rest
          match rest with
          | .sign "\x7d" :: rest => return (.set (first :: items), rest)
          | _ => none
        | .sign "\x7d" :: rest => return (.set [first], rest)
        | _ => none
    | _ => none

end

/-- Enough fuel for a number of tokens. -/
def fuelFor (count : Nat) : Nat := 32 * (count + 2)

/-- The expression that some tokens form; several ones separated by commas form a tuple. -/
def ofTokens? (ts : List Token) : Option Expr :=
  match expressions (fuelFor ts.length) ts with
  | some ([e], false, []) => some e
  | some (e :: more, _, []) => some (.tuple (e :: more))
  | _ => none

/-- The greatest depth of an expression that is evaluated. -/
def depthLimit : Nat := 2975

/-- The expression of a condition. -/
def parse? (condition : String) : Option Expr := do
  let e ← ofTokens? (← Token.scan condition)
  if e.depth ≤ depthLimit then some e else none

end Expr

end Conduit.Condition
