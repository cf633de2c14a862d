import Conduit.Failure
import Conduit.Path
import Conduit.Transform

/-!
# Bindings

A binding says where a value comes from and where it lands; a mapper is a list of bindings, with
defaults below them. Building starts from the defaults and lets each binding write its value, after
its transform, at its place; a binding whose source is not there is passed over.

* `Source`, `Binding`, `Mapper` — the parts;
* `Mapper.build` — the value that a mapper builds.
-/

namespace Conduit

/-- Where the value of a binding comes from. -/
inductive Source where
  /-- The binding itself. -/
  | fixed (value : Value)
  /-- A place in the inputs of the run. -/
  | input (path : String)
  /-- A place in the output of a step, which is also given by its position in the pipeline. -/
  | step (id : String) (index : Nat) (path : String)
deriving DecidableEq, Inhabited

/-- Where a value comes from and where it lands. -/
structure Binding where
  /-- The place in the value that is built; the empty path stands for all of it. -/
  target : String
  /-- Where the value comes from. -/
  source : Source
  /-- The transform that it goes through. -/
  transform : Option Transform := none
  /-- Whether the binding comes from the name of an input and not from a mapping. -/
  implicit : Bool := false
deriving DecidableEq, Inhabited

/-- Builds the input of a step or the output of a run. -/
structure Mapper where
  /-- The bindings, in the order in which they write. -/
  bindings : List Binding := []
  /-- The values that are there before any binding writes. -/
  defaults : List (String × Value) := []
deriving DecidableEq, Inhabited

/-- Why a value could not be built. -/
inductive BuildFault where
  /-- A transform does not take the value it was given. -/
  | transform (t : Transform) (target : String) (fault : Fault)
  /-- Anything else. -/
  | other (fault : Fault)
deriving DecidableEq, Inhabited

/-- What a transform is called. -/
def Transform.name (t : Transform) : String :=
  ((Transform.table.find? fun entry => entry.2 == t).map (·.1)).getD ""

/-- The trouble that a fault of building makes. -/
def BuildFault.trouble : BuildFault → Trouble
  | .transform t target fault =>
    .failure
      { kind := .inputMapping,
        message := "Transform '" ++ t.name ++ "' failed for "
          ++ (if target.isEmpty then "output" else target) ++ ": " ++ fault.message,
        details := [("target_path", .str target), ("transform", .str t.name)] }
  | .other fault => .fault fault

/-- Whether a fault says that a transform does not take its value. -/
def FaultClass.isRefusal : FaultClass → Bool
  | value => true
  | type => true
  | json => true
  | _ => false

namespace Binding

/-- The value that a binding carries, before its transform, when its source is there. -/
def resolve (b : Binding) (outputs : String → Option Value) (inputs : Members) :
    Except Fault (Option Value) :=
  match b.source with
  | .fixed v => .ok (some v)
  | .input path => Path.lookup? (.object inputs) path
  | .step id _ path =>
    match outputs id with
    | none => .ok none
    | some v => Path.lookup? v path

/-- The value after the transform. -/
def convert (b : Binding) (v : Value) : Except BuildFault Value :=
  match b.transform with
  | none => .ok v
  | some t =>
    match t.apply v with
    | .ok w => .ok w
    | .error fault =>
      .error (if fault.kind.isRefusal then .transform t b.target fault else .other fault)

/-- Writes a value at the place of a binding. Anything but an object gives way to a fresh one. -/
def write (b : Binding) (result v : Value) : Except BuildFault Value :=
  if b.target.isEmpty then .ok v
  else
    match Path.assignAt (result.members?.getD []) b.target v with
    | (written, none) => .ok (.object written)
    | (_, some fault) => .error (.other fault)

/-- Lets a binding write into what was built so far. -/
def run (b : Binding) (outputs : String → Option Value) (inputs : Members) (result : Value) :
    Except BuildFault Value :=
  match b.resolve outputs inputs with
  | .error fault => .error (.other fault)
  | .ok none => .ok result
  | .ok (some v) =>
    match b.convert v with
    | .error fault => .error fault
    | .ok w => b.write result w

end Binding

namespace Mapper

/-- The object that holds the defaults. -/
def base (m : Mapper) : Value := .object (Members.ofPairs m.defaults)

/-- The value that a mapper builds from the outputs of steps and the inputs of the run. -/
def build (m : Mapper) (outputs : String → Option Value) (inputs : Members) :
    Except BuildFault Value :=
  m.bindings.foldlM (fun result b => b.run outputs inputs result) m.base

/-- The steps that a mapper takes values from, in order. -/
def sourceSteps (m : Mapper) : List String :=
  (m.bindings.filterMap fun b =>
    match b.source with
    | .step id _ _ => some id
    | _ => none).eraseDups

end Mapper

end Conduit
