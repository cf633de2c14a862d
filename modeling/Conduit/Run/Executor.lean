import Conduit.Connector.Registry
import Conduit.Pipeline.Compile
import Conduit.Value.Shown

/-!
# How runs are made

* `Executor` — the connectors, how many steps may be in flight, and the time limits;
* `Pipeline.effectiveInputs` — the inputs of a run with the defaults below them.
-/

namespace Conduit

/-- A limit of time in seconds, as it was given. An empty value sets no limit, and a value that is
no number of seconds shows when time is first taken by it. -/
structure TimeLimit where
  /-- What was given. -/
  given : Value
deriving DecidableEq

namespace TimeLimit

/-- The limit as it is shown in messages. -/
def text (l : TimeLimit) : String := l.given.shown

/-- Whether there is a limit. -/
def isSet (l : TimeLimit) : Bool := l.given.isTruthy

/-- The seconds, if the limit is a number of them. -/
def seconds? (l : TimeLimit) : Option Number := l.given.number?

/-- Whether the limit leaves any time. -/
def leavesTime (l : TimeLimit) : Bool := l.seconds?.any fun n => (Number.int 0).less n

/-- The limit in microseconds, none for a negative one. -/
def micros (l : TimeLimit) : Nat :=
  match l.seconds? with
  | some (.int n) => (n * 1000000).toNat
  | some (.float x) => Double.roundHalfEven (x.numerator * 1000000).toNat x.denominator
  | none => 0

/-- Whether the limit is an integer beyond the readings of a clock. -/
def isBeyondClock (l : TimeLimit) : Bool :=
  match l.seconds? with
  | some (.int n) => (Double.ofInt? n).isNone
  | _ => false

/-- Why the limit cannot be added to a reading of the clock. -/
def sumFault? (l : TimeLimit) : Option Fault :=
  if l.seconds?.isNone then some (.badOperands "+" "float" l.given.kindName)
  else if l.isBeyondClock then some .beyondDouble
  else none

/-- Why nothing can be limited by it: it is compared with zero first, and then added to a reading of
the clock. -/
def callFault? (l : TimeLimit) : Option Fault :=
  if l.seconds?.isNone then some (.unorderedBy "<=" l.given.kindName "int")
  else if l.leavesTime && l.isBeyondClock then some .beyondDouble
  else none

end TimeLimit

/-- How runs are made. -/
structure Executor where
  /-- The connectors. -/
  registry : Registry
  /-- How many steps may be in flight at once. -/
  concurrency : Nat := 1
  /-- It is at least one. -/
  concurrency_pos : 0 < concurrency := by decide
  /-- How long a run may take. -/
  timeout : Option TimeLimit := none
  /-- How long a step may take. -/
  stepTimeout : Option TimeLimit := none

instance : Inhabited Executor := ⟨{ registry := {} }⟩

namespace Executor

/-- How many steps may be in flight when fewer than `n` are to be. -/
def countBelow : Number → Int
  | .int n => n
  | .float x => -(-x.numerator / (x.denominator : Int))

/-- An executor with the given settings. -/
def ofSettings (registry : Registry) (concurrency : Value)
    (timeout stepTimeout : Option TimeLimit) : Except Fault Executor :=
  match concurrency.number? with
  | none => .error (.unordered ⟨concurrency.kindName, "int"⟩)
  | some n =>
    if n.less (.int 1) then .error .noConcurrency
    else if h : 0 < countBelow n then
      .ok
        { registry := registry, concurrency := (countBelow n).toNat,
          concurrency_pos := by omega, timeout := timeout, stepTimeout := stepTimeout }
    else .error .noConcurrency

/-- How long a run may take, if that is limited. -/
def limit? (e : Executor) : Option TimeLimit := e.timeout.filter TimeLimit.isSet

/-- How long a step may take, if that is limited. -/
def stepLimit? (e : Executor) : Option TimeLimit := e.stepTimeout.filter TimeLimit.isSet

/-- Whether a step may be interrupted when the run is cancelled: its connector says so, or it has
none. -/
def mayInterrupt (e : Executor) (step : Step) : Bool :=
  match e.registry.connectorOf step with
  | .ok c => c.cancellable
  | .error _ => true

end Executor

/-! ## Inputs -/

/-- The required names that inputs lack. -/
def missingNames (inputs : Members) : List Value → Except Fault (List Value)
  | [] => .ok []
  | name :: rest => do
    Schema.checkName name
    let more ← missingNames inputs rest
    match name with
    | .str s => return if Members.has inputs s then more else name :: more
    | _ => return name :: more

/-- Texts joined by a comma. -/
def joinNames (index : Nat) : List Value → Except Fault (List String)
  | [] => .ok []
  | .str s :: rest => do return s :: (← joinNames (index + 1) rest)
  | v :: _ => .error (.notJoinable index v.kindName)

/-- The failure of a run without its required inputs. -/
def missingInputs (names : List String) : Failure where
  kind := .invalidInputs
  message := "Missing required inputs: " ++ ", ".intercalate names
  details := [("missing", .ofTexts names)]

/-- The inputs of a run: those of its context over the defaults of the pipeline. A run that lacks a
required input has none. -/
def Pipeline.effectiveInputs (p : Pipeline) (context : Context) :
    Except Fault (Except Failure Members) := do
  let defaults ← p.inputDefaults
  let inputs := Members.update defaults context.inputs
  let required ← Schema.requiredOf p.inputSchema
  let missing ← missingNames inputs required
  if missing.isEmpty then return .ok inputs
  else return .error (missingInputs (← joinNames 0 missing))

end Conduit
