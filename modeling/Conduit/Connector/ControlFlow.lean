import Conduit.Connector.Basic
import Conduit.Path

/-!
# Branches, merges and loops

Steps that work on nothing but their input. A branch takes the route of the first rule that holds, a
merge joins the members of its input, and a loop picks items of a list. How conditions are evaluated
is left open.

* `Evaluation`, `Evaluator` — how conditions are evaluated;
* `ControlFlow` — the settings of such a step;
* `ControlFlow.branch`, `ControlFlow.merge`, `ControlFlow.loop` — what it does;
* `ControlFlow.connector` — the connector.
-/

namespace Conduit

/-- What evaluating a condition comes to. -/
structure Evaluation where
  /-- Whether the value of the condition counts as true; there is none when the evaluation fails. -/
  truth? : Option Bool
  /-- What the names stand for afterwards: a condition may change values in place. -/
  names : Members

/-- How conditions are evaluated: a condition, and what the names in it stand for. -/
abbrev Evaluator := (condition : String) → (names : Members) → Evaluation

/-- A route with the condition under which it is taken. -/
structure BranchRule where
  /-- The condition. -/
  condition : String
  /-- The route. -/
  route : String
deriving DecidableEq, Inhabited

/-- What a control flow step does. -/
inductive FlowKind where
  /-- Takes a route. -/
  | branch
  /-- Joins values. -/
  | merge
  /-- Picks items. -/
  | loop
  /-- Passes its input on. -/
  | passthrough
deriving DecidableEq, Inhabited

/-- How values are joined. -/
inductive MergeStrategy where
  /-- All of them. -/
  | all
  /-- The first that is not null. -/
  | first
deriving DecidableEq, Inhabited

/-- The settings of a control flow step. -/
structure ControlFlow where
  /-- What the step does. -/
  kind : FlowKind := .passthrough
  /-- The rules of a branch. -/
  branches : List BranchRule := []
  /-- The route when no rule holds. -/
  defaultRoute : Option String := none
  /-- How a merge joins. -/
  strategy : MergeStrategy := .all
  /-- Where a loop finds its items. -/
  itemsPath : Option String := none
  /-- Which part of an item a loop picks. -/
  partPath : Option String := none
  /-- Which items a loop picks. -/
  condition : Option String := none
deriving DecidableEq, Inhabited

namespace ControlFlow

open Decode

/-- Decodes a rule. -/
def decodeRule (m : Members) : Decoded BranchRule :=
  BranchRule.mk <$> field m "condition" text <*> field m "route" text

/-- Decodes the settings. -/
def decode (m : Members) : Decoded ControlFlow :=
  ControlFlow.mk
    <$> optional m "kind" .passthrough (word .notLiteral
      [("branch", .branch), ("merge", .merge), ("loop", .loop), ("passthrough", .passthrough)])
    <*> optional m "branches" [] (list (record .notRecord decodeRule))
    <*> optional m "default_route" none (nullable text)
    <*> optional m "merge_strategy" .all (word .notLiteral [("all", .all), ("first", .first)])
    <*> optional m "iterable_field" none (nullable text)
    <*> optional m "item_path" none (nullable text)
    <*> optional m "condition" none (nullable text)

/-- The names that a condition on a value sees: the members of the value, and the value as `input`.
-/
def scope (v : Value) : Members := Members.set (v.members?.getD []) "input" v

/-- The route of the first rule that holds, and what the names stand for when it is found. A rule
whose condition cannot be evaluated does not hold. -/
def route (evaluate : Evaluator) : List BranchRule → Members → Option String × Members
  | [], names => (none, names)
  | rule :: rules, names =>
    let e := evaluate rule.condition names
    if e.truth?.getD false then (some rule.route, e.names) else route evaluate rules e.names

/-- Takes the route of the first rule that holds. -/
def branch (evaluate : Evaluator) (c : ControlFlow) (input : Value) : Value :=
  let (taken, names) := route evaluate c.branches (scope input)
  .object
    [("route", .ofText? (taken <|> c.defaultRoute)),
     ("value", (Members.get? names "input").getD input)]

/-- Joins the members of an object: members that are objects themselves are taken apart. -/
def mergeAll (members : Members) : Members :=
  members.foldl
    (fun merged m =>
      match m.2 with
      | .object inner => Members.update merged inner
      | v => Members.set merged m.1 v)
    []

/-- Joins the members of the input. -/
def merge (c : ControlFlow) (input : Value) : Value :=
  match input with
  | .object members =>
    match c.strategy with
    | .first =>
      .object [("value", ((members.map (·.2)).find? fun v => !v.isNull).getD .null)]
    | .all => .object (mergeAll members)
  | v => .object [("value", v)]

/-- The items that a value stands for: those of a list, none for null, else the value itself. -/
def itemsOf : Value → List Value
  | .null => []
  | .list items => items
  | v => [v]

/-- Whether a text is given and not empty. -/
def given? (s : Option String) : Option String := s.filter (!·.isEmpty)

/-- Whether a loop picks an item, and the item afterwards. -/
def wants (evaluate : Evaluator) (c : ControlFlow) (item : Value) : Bool × Value :=
  match given? c.condition with
  | none => (true, item)
  | some condition =>
    let e := evaluate condition (Members.set (scope item) "item" item)
    (e.truth?.getD false, (Members.get? e.names "item").getD item)

/-- The part of an item that a loop picks, if it picks the item and the part is there. -/
def pick (evaluate : Evaluator) (c : ControlFlow) (item : Value) : Except Fault (Option Value) :=
  let (wanted, item) := c.wants evaluate item
  if wanted then
    match given? c.partPath with
    | none => .ok (some item)
    | some path => Path.lookup? item path
  else .ok none

/-- Picks items of the input. -/
def loop (evaluate : Evaluator) (c : ControlFlow) (input : Value) : Except Fault Value := do
  let found ← Path.lookup? input (c.itemsPath.getD "")
  let picked ← (itemsOf (found.getD .null)).mapM (c.pick evaluate)
  let results := picked.filterMap id
  return .object [("items", .list results), ("count", .ofNat results.length)]

/-- What the step makes of its input. -/
def run (evaluate : Evaluator) (c : ControlFlow) (input : Value) : Except Fault Value :=
  match c.kind with
  | .branch => .ok (c.branch evaluate input)
  | .merge => .ok (c.merge input)
  | .loop => c.loop evaluate input
  | .passthrough => .ok input

/-- Carries out a control flow step. -/
def answer (evaluate : Evaluator) (step : Step) (input : Value) (_ : Context) :
    Except Trouble Value :=
  match (decode step.config).toExcept with
  | .error issues =>
    .error (.failure (invalidConfig .connector "control flow" "ControlFlowConfig" step issues))
  | .ok c =>
    match c.run evaluate input with
    | .ok v => .ok v
    | .error fault => .error (.fault fault)

/-- The connector of control flow steps. -/
def connector (evaluate : Evaluator) : Connector :=
  Connector.pure "ControlFlowConnector" .controlFlow (answer evaluate)

end ControlFlow

end Conduit
