import Conduit.Connector.CustomCode
import Conduit.Connector.RemoteTool
import Conduit.Number.Arithmetic

/-!
# Scripted services

Functions and action services that follow a script, for rehearsing workflows without the services
that they will use.

* `FunctionScript` — what a scripted function does;
* `ActionScript` — what a scripted service answers;
* `Trouble.named` — trouble by the word for its kind;
* `knownPrograms` — program texts with their meaning.
-/

namespace Conduit

/-- The part of a value under a name. -/
def Value.part (v : Value) (key : String) : Except Fault Value :=
  match v with
  | .object members =>
    match Members.get? members key with
    | some part => .ok part
    | none => .error (.noMember key)
  | .list _ => .error .listAtName
  | .str _ => .error .textAtName
  | _ => .error (.noParts v.kindName)

/-! ## Trouble by name -/

/-- A failure of a kind that is made from one text: what it is about for some kinds, its message for
the others. -/
def Failure.ofText (kind : FailureKind) (text : String) : Failure :=
  match kind with
  | .workflowNotFound => Failure.workflowNotFound text
  | .cyclicGraph =>
    { kind := .cyclicGraph,
      message := Failure.cycleMessage (text.toList.map String.singleton),
      details := [("cycle", .str text)] }
  | .missingConnection =>
    { kind := .missingConnection, message := Failure.missingConnectionMessage text,
      details := [("toolkit_slug", .str text)] }
  | kind => { kind := kind, message := text }

/-- The classes of faults that a script can name. -/
def namedFaults : List FaultClass :=
  [.value, .type, .key, .operation, .overflow, .zeroDivision, .runtime, .system]

/-- A fault of a class with a wording; that of a missing name is the name. -/
def Fault.ofText (kind : FaultClass) (text : String) : Fault :=
  match kind with
  | .key => .noMember text
  | kind => .other kind text

/-- Trouble by the word for its kind. -/
def Trouble.named (name text : String) : Trouble :=
  match FailureKind.all.find? fun k => k.name == name with
  | some kind => .failure (Failure.ofText kind text)
  | none =>
    match namedFaults.find? fun k => k.name == name with
    | some kind => .fault (Fault.ofText kind text)
    | none => .fault (.other .runtime text)

/-! ## Functions -/

/-- What a scripted function does. -/
inductive FunctionScript where
  /-- Gives back a value. -/
  | constant (v : Value)
  /-- Gives back its input. -/
  | echo
  /-- Gives back a part of its input. -/
  | pick (key : String)
  /-- Makes trouble. -/
  | fail (trouble : Trouble)
  /-- Adds a value to a list in its input and gives the input back. -/
  | append (key : String) (v : Value)
  /-- Adds its input to the shared list and gives that list back. -/
  | share
  /-- Asks for the run to be cancelled and gives back a value. -/
  | stop (v : Value)
  /-- Gives back something that cannot be copied. -/
  | uncopyable
  /-- Gives back a handle. -/
  | handle

/-- The input with a value added to the list under a name. -/
def appendTo (input : Value) (key : String) (v : Value) : Except Fault Value := do
  let part ← input.part key
  match input, part with
  | .object members, .list items => return .object (Members.set members key (.list (items ++ [v])))
  | _, part => throw (.noOperation part.kindName "append")

/-- A fault as the answer of a function. -/
def answerOfFault : Except Fault Value → Except Trouble Output
  | .ok v => .ok (.value v)
  | .error fault => .error (.fault fault)

namespace FunctionScript

/-- What a scripted function does with its input. -/
def apply (script : FunctionScript) (input : Value) (environment : Environment) :
    Environment × Except Trouble Output :=
  match script with
  | constant v => (environment, .ok (.value v))
  | echo => (environment, .ok (.value input))
  | pick key => (environment, answerOfFault (input.part key))
  | fail trouble => (environment, .error trouble)
  | append key v => (environment, answerOfFault (appendTo input key v))
  | share => ({ environment with shared := environment.shared ++ [input] }, .ok .shared)
  | stop v => ({ environment with stopRequested := true }, .ok (.value v))
  | uncopyable =>
    (environment, .ok (.uncopyable (.other .type "cannot pickle 'generator' object")))
  | handle => (environment, .ok (.value (.object [("handle", .opaqueHandle)])))

/-- The function that follows a script. -/
def function (script : FunctionScript) (wait : Wait) : CustomFunction where
  wait := wait
  apply := script.apply

/-- The connector that follows a script. -/
def connector (script : FunctionScript) (wait : Wait) (cancellable : Bool) : Connector where
  name := "ScriptedConnector"
  kind := .remoteTool
  cancellable := cancellable
  call := fun _ input _ environment =>
    (environment, { wait := wait, finish := script.apply input })

end FunctionScript

/-! ## Action services -/

/-- What a scripted service does when it is asked for an action. -/
structure ActionScript where
  /-- How long the answer takes. -/
  wait : Wait := .none
  /-- The trouble that the service makes instead of answering. -/
  trouble : Option Trouble := none
  /-- Whether the answer holds the arguments. -/
  echo : Bool := false
  /-- The members of the answer. -/
  answer : Members := [("successful", .bool true)]

/-- The answer of a scripted service. -/
def ActionScript.reply (s : ActionScript) (request : ActionRequest) : ActionReply where
  wait := s.wait
  result :=
    match s.trouble with
    | some trouble => .error trouble
    | none =>
      let members :=
        if s.echo then Members.set s.answer "data" (.object request.arguments) else s.answer
      match (ActionResult.decode members).toExcept with
      | .ok result => .ok result
      | .error issues => .error (.undecodable issues)

/-- The client of a service that follows a script for some actions and answers all others with an
empty object. -/
def scriptedClient (scripts : List (String × ActionScript)) : ActionClient := fun request =>
  match scripts.lookup request.action with
  | some script => script.reply request
  | none => { wait := .none, result := .ok { successful := true, data := .object [] } }

/-! ## Program texts -/

/-- A value added to itself: numbers are doubled, texts and lists repeated. -/
def doubled (v : Value) : Except Fault Value :=
  match v with
  | .str s => .ok (.str (s ++ s))
  | .list items => .ok (.list (items ++ items))
  | .bool b => .ok (.int (if b then 2 else 0))
  | .int n => .ok (.int (n * 2))
  | .float x => .ok (.float (x.mul (Double.ofFloat 2)))
  | v => .error (.badOperands "*" v.kindName "int")

/-- A number with one added to it. -/
def incremented (v : Value) : Except Fault Value :=
  match v with
  | .str _ => .error (.notAddable "int")
  | .list _ => .error (.notAddableToList "int")
  | .bool b => .ok (.int (if b then 2 else 1))
  | .int n => .ok (.int (n + 1))
  | .float x => .ok (.float (x.add (Double.ofFloat 1)))
  | v => .error (.badOperands "+" v.kindName "int")

/-- A function of a value alone. -/
def pureFunction (wait : Wait) (f : Value → Except Fault Value) : CustomFunction where
  wait := wait
  apply := fun input environment => (environment, answerOfFault (f input))

/-- Program texts with what they define; the id is that of the step that carries the text. -/
def knownPrograms (stepId : String) : List (String × Loaded) :=
  [("def run(input):\n    return \x7b'double': input['n'] * 2\x7d\n",
      .function (pureFunction .turn fun input => do
        return .object [("double", ← doubled (← input.part "n"))])),
   ("async def run(input):\n    return input['n'] + 1\n",
      .function (pureFunction .none fun input => do incremented (← input.part "n"))),
   ("def run(input):\n    return \x7b'n': input['n'] + 1\x7d\n",
      .function (pureFunction .turn fun input => do
        return .object [("n", ← incremented (← input.part "n"))])),
   ("def run(input):\n    return \x7b'n': 1\x7d\n",
      .function (pureFunction .turn fun _ => .ok (.object [("n", .int 1)]))),
   ("def run(input):\n    return 1 / 0\n",
      .function (pureFunction .turn fun _ => .error .divisionByZero)),
   ("x = 1", .nothing),
   ("run = 5", .nothing),
   ("from asyncio import CancelledError\nasync def run(input):\n    raise CancelledError()\n",
      .function { wait := .none, apply := fun _ environment => (environment, .error .cancelled) }),
   ("def run(:", .broken ("invalid syntax (<step " ++ stepId ++ ">, line 1)")),
   ("raise ValueError('bad module')", .broken "bad module")]

end Conduit
