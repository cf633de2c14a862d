import Conduit.Connector.Basic

/-!
# Functions of the caller

A step either names a function that was registered, or carries a program text that defines one.
Whatever goes wrong in a function is reported as a failure of custom code, but for a function that
gives itself up.

* `CustomFunction` — a function;
* `Loaded`, `CodeLoader` — what a program text defines;
* `CustomCode.connector` — the connector.
-/

namespace Conduit

/-- A function of the caller. -/
structure CustomFunction where
  /-- How long the function takes. -/
  wait : Wait
  /-- What the function does and gives back. -/
  apply : Value → Environment → Environment × Except Trouble Output

/-- What a program text defines. -/
inductive Loaded where
  /-- A function. -/
  | function (f : CustomFunction)
  /-- No function. -/
  | nothing
  /-- The text cannot be loaded. -/
  | broken (message : String)
  /-- Loading the text gives itself up. -/
  | cancelled

/-- Loads the program text of the step with a given id. -/
abbrev CodeLoader := (stepId code : String) → Loaded

namespace CustomCode

/-- Registers a function, in place of one of the same name. -/
def register (functions : List (String × CustomFunction)) (name : String) (f : CustomFunction) :
    List (String × CustomFunction) :=
  match functions with
  | [] => [(name, f)]
  | (other, g) :: rest =>
    if other = name then (name, f) :: rest else (other, g) :: register rest name f

/-- A failure of custom code. -/
def failure (message : String) : Failure where
  kind := .customCode
  message := message

/-- The function of a step. -/
def load (functions : List (String × CustomFunction)) (loader : CodeLoader) (step : Step) :
    Except Trouble CustomFunction :=
  match step.code.filter (!·.isEmpty) with
  | some code =>
    match loader step.id code with
    | .function f => .ok f
    | .nothing =>
      .error (.failure (failure ("Step '" ++ step.id ++ "' code must define run(input)")))
    | .broken message =>
      .error (.failure (failure ("Step '" ++ step.id ++ "' code failed to load: " ++ message)))
    | .cancelled => .error .cancelled
  | none =>
    match (step.action.filter (!·.isEmpty)).bind fun name => functions.lookup name with
    | some f => .ok f
    | none =>
      .error
        (.failure (failure ("Step '" ++ step.id ++ "' has no code and no registered function")))

/-- The answer of a function as the answer of a step. -/
def answerOf : Except Trouble Output → Except Trouble Output
  | .ok output => .ok output
  | .error .cancelled => .error .cancelled
  | .error trouble => .error (.failure (failure trouble.report))

/-- The connector of functions. -/
def connector (functions : List (String × CustomFunction)) (loader : CodeLoader) : Connector where
  name := "CustomCodeConnector"
  kind := .customCode
  call := fun step input _ environment =>
    match load functions loader step with
    | .error trouble => (environment, Call.answered (.error trouble))
    | .ok f =>
      (environment,
       { wait := f.wait
         finish := fun environment =>
           ((f.apply input environment).1, answerOf (f.apply input environment).2) })

end CustomCode

end Conduit
