import Conduit.Condition.Datum

/-!
# Expressions of conditions

The tree of a condition.

* `Expr` — expressions, and `Expr.depth`, how deep they go;
* `UnaryOp`, `BinaryOp`, `Comparison` — the operators;
* `Target` — what the parts of a source are bound to.
-/

namespace Conduit.Condition

/-- The operators with one operand. -/
inductive UnaryOp where
  /-- The number itself. -/
  | plus
  /-- The negated number. -/
  | minus
  /-- All bits inverted. -/
  | invert
deriving DecidableEq

/-- The operators with two operands that are both evaluated. -/
inductive BinaryOp where
  /-- Sum, or texts, lists and tuples one after the other. -/
  | add
  /-- Difference, also of sets. -/
  | sub
  /-- Product, or repetition. -/
  | mul
  /-- Quotient. -/
  | divide
  /-- Quotient rounded to the floor. -/
  | floorDivide
  /-- Remainder, or the filling in of a text. -/
  | modulo
  /-- Power. -/
  | power
  /-- Common bits, or intersection. -/
  | bitAnd
  /-- All bits, or union. -/
  | bitOr
  /-- Differing bits, or symmetric difference. -/
  | bitXor
  /-- Bits moved up. -/
  | shiftLeft
  /-- Bits moved down. -/
  | shiftRight
deriving DecidableEq

/-- The comparisons. -/
inductive Comparison where
  /-- Equality. -/
  | eq
  /-- Inequality. -/
  | ne
  /-- A comparison of order. -/
  | order (op : Datum.Order)
  /-- Membership. -/
  | isIn
  /-- No membership. -/
  | notIn
  /-- Identity. -/
  | same
  /-- No identity. -/
  | notSame
deriving DecidableEq

/-- What the parts of a source are bound to. -/
inductive Target where
  /-- A name. -/
  | name (s : String)
  /-- The parts of a part, one by one. -/
  | parts (targets : List Target)

/-- An expression. -/
inductive Expr where
  /-- A datum that stands in the condition. -/
  | literal (d : Datum)
  /-- A name. -/
  | name (s : String)
  /-- A list of expressions. -/
  | list (items : List Expr)
  /-- A tuple of expressions. -/
  | tuple (items : List Expr)
  /-- A set of expressions. -/
  | set (items : List Expr)
  /-- A table of expressions. -/
  | dict (entries : List (Expr × Expr))
  /-- The list or set of an element for every part of a source that passes the tests. -/
  | collect (intoSet : Bool) (element : Expr) (target : Target) (source : Expr)
    (tests : List Expr)
  /-- A method of a datum. -/
  | member (receiver : Expr) (name : String)
  /-- A call, with arguments in order and by name. -/
  | call (f : Expr) (arguments : List Expr) (named : List (String × Expr))
  /-- A part of a datum. -/
  | item (container key : Expr)
  /-- A slice of a datum. -/
  | slice (container start stop step : Expr)
  /-- An operator with one operand. -/
  | unary (op : UnaryOp) (e : Expr)
  /-- An operator with two operands. -/
  | binary (op : BinaryOp) (a b : Expr)
  /-- A chain of comparisons. -/
  | compare (first : Expr) (rest : List (Comparison × Expr))
  /-- The second operand if the first counts as true, else the first. -/
  | both (a b : Expr)
  /-- The first operand if it counts as true, else the second. -/
  | either (a b : Expr)
  /-- The opposite truth value. -/
  | negation (e : Expr)
  /-- One of two expressions. -/
  | choice (test yes no : Expr)
deriving Inhabited

namespace Expr

mutual

/-- How many expressions lie inside each other. The operands of a chain of the same word lie side by
side. -/
def depth : Expr → Nat
  | literal _ => 1
  | name _ => 1
  | list items => depths items + 1
  | tuple items => depths items + 1
  | set items => depths items + 1
  | dict entries => entryDepths entries + 1
  | collect _ element _ source tests =>
    max (depth element) (max (depth source) (depths tests)) + 1
  | member receiver _ => depth receiver + 1
  | call f arguments named =>
    max (depth f) (max (depths arguments) (namedDepths named + 1)) + 1
  | item container key => max (depth container) (depth key) + 1
  | slice container start stop step =>
    max (depth container) (max (depth start) (max (depth stop) (depth step)) + 1) + 1
  | unary _ e => depth e + 1
  | binary _ a b => max (depth a) (depth b) + 1
  | compare first rest => max (depth first) (chainDepths rest) + 1
  | both a b => max (depth a + 1) (depth b)
  | either a b => max (depth a + 1) (depth b)
  | negation e => depth e + 1
  | choice test yes no => max (depth test) (max (depth yes) (depth no)) + 1

/-- The greatest depth of some expressions. -/
def depths : List Expr → Nat
  | [] => 0
  | e :: rest => max (depth e) (depths rest)

/-- The greatest depth of the expressions of entries. -/
def entryDepths : List (Expr × Expr) → Nat
  | [] => 0
  | (key, e) :: rest => max (max (depth key) (depth e)) (entryDepths rest)

/-- The greatest depth of the arguments with a name. -/
def namedDepths : List (String × Expr) → Nat
  | [] => 0
  | (_, e) :: rest => max (depth e) (namedDepths rest)

/-- The greatest depth of the operands of a chain of comparisons. -/
def chainDepths : List (Comparison × Expr) → Nat
  | [] => 0
  | (_, e) :: rest => max (depth e) (chainDepths rest)

end

end Expr

end Conduit.Condition
