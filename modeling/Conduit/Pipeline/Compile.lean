import Conduit.Pipeline.Binding
import Conduit.Schema
import Conduit.Value.Items
import Conduit.Workflow.Linear

/-!
# Compiled pipelines

Compiling a graph puts its steps in order and gives each a mapper that builds its input. Fields that
no mapping fills take the input of the run with their name; a required field that nothing fills is
an error, and so is a mapping from a place that a schema rules out.

* `PipelineStep`, `Pipeline` — the result;
* `CompileFault` — why a graph cannot be compiled;
* `Graph.linearize` — the order of the steps;
* `Graph.compile` — compiles a graph.
-/

namespace Conduit

/-- A step with its place in the order and its mapper. -/
structure PipelineStep where
  /-- The position in the pipeline. -/
  index : Nat
  /-- The step. -/
  step : Step
  /-- Builds the input of the step. -/
  mapper : Mapper
  /-- The steps whose outputs the step waits for, in pipeline order. -/
  dependsOn : List String
deriving DecidableEq, Inhabited

/-- A workflow ready to be run. -/
structure Pipeline where
  /-- The id of the workflow. -/
  workflowId : String
  /-- The name of the workflow. -/
  workflowName : String
  /-- The steps, in order. -/
  steps : List PipelineStep
  /-- What the inputs of a run look like. -/
  inputSchema : Members
  /-- Builds the output of a run; without it the output of the last step is taken. -/
  outputMapper : Option Mapper
deriving DecidableEq, Inhabited

/-- Why a graph cannot be compiled. -/
inductive CompileFault where
  /-- A mapping names a transform that there is not. -/
  | unknownTransform (name target path : String)
  /-- A mapping reads an input that the schema of the inputs rules out. -/
  | noSuchInput (path : String)
  /-- A mapping reads an output that the schema of its step rules out. -/
  | noSuchOutput (step path target : String)
  /-- A step requires a field that nothing fills. -/
  | missingRequired (step : String) (field : Value)
  /-- A schema has a shape that cannot be read. -/
  | badSchema (fault : Fault)
  /-- Steps of the graph have no place in its linear order. -/
  | unlisted
deriving DecidableEq, Inhabited

/-- The text of a name in a list of required fields. -/
def requiredName (v : Value) : String :=
  match v with
  | .null => "None"
  | v =>
    match Transform.textOf v with
    | .ok s => s
    | .error _ => ""

/-- The trouble that a fault of compiling makes. -/
def CompileFault.trouble : CompileFault → Trouble
  | unknownTransform name target path =>
    .failure
      { kind := .schemaMismatch,
        message := "Unknown transform '" ++ name ++ "' on mapping into " ++ target ++ "." ++ path,
        details := [("transform", .str name), ("target_step_id", .str target)] }
  | noSuchInput path =>
    .failure
      { kind := .schemaMismatch, message := "Global inputs have no field '" ++ path ++ "'",
        details := [("source_step_id", .str Origin.input.id), ("source_field_path", .str path)] }
  | noSuchOutput step path target =>
    .failure
      { kind := .schemaMismatch,
        message := "Step '" ++ step ++ "' does not output '" ++ path ++ "'",
        details := [("source_step_id", .str step), ("source_field_path", .str path),
          ("target_step_id", .str target)] }
  | missingRequired step name =>
    .failure
      { kind := .missingRequiredInput,
        message := "Step '" ++ step ++ "' requires input '" ++ requiredName name
          ++ "' but nothing maps to it",
        details := [("step_id", .str step), ("field", name)] }
  | badSchema fault => .fault fault
  | unlisted => .fault .notAcyclic

namespace Schema

/-- A declared part of a schema, an empty object when it is missing or empty. -/
def declared (schema : Members) (key : String) : Value := orEmpty (Members.getD schema key)

/-- Checks that a value can be looked up among names. -/
def checkName : Value → Except Fault Unit
  | .list _ => .error (.notName "list")
  | .object _ => .error (.notName "dict")
  | _ => .ok ()

/-- Whether a name is among the declared properties. -/
def declaresName (properties name : Value) : Except Fault Bool :=
  match properties, name with
  | properties, .str s => declares properties s
  | .object _, _ => .ok false
  | .list items, name => .ok (items.any fun item => item.equals name)
  | .str _, name => .error (.searchedInText name.kindName)
  | properties, _ => .error (.notSearchable properties.kindName)

/-- The defaults that the properties of a schema declare. -/
def defaultsOf (properties : Value) : Except Fault (List (String × Value)) :=
  match properties with
  | .object members =>
    .ok (members.filterMap fun m =>
      match m.2 with
      | .object property => (Members.get? property "default").map fun v => (m.1, v)
      | _ => none)
  | _ => .error (.noOperation properties.kindName "items")

/-- The names that a schema requires. -/
def requiredOf (schema : Members) : Except Fault (List Value) :=
  let required := Members.getD schema "required"
  if required.isTruthy then required.entries else .ok []

end Schema

/-! ## Bindings -/

/-- What the mappings of a graph are compiled against. -/
structure Surroundings where
  /-- The workflow. -/
  definition : Definition
  /-- The order of the steps. -/
  order : List String
  /-- The schema of the inputs of a run. -/
  inputSchema : Members

/-- Turns a fault of a schema into one of compiling. -/
def liftSchema {α : Type} : Except Fault α → Except CompileFault α
  | .ok a => .ok a
  | .error fault => .error (.badSchema fault)

/-- The transform of a mapping. -/
def Mapping.transform? (m : Mapping) : Except CompileFault (Option Transform) :=
  match m.transform with
  | none => .ok none
  | some name =>
    match Transform.named? name with
    | some t => .ok (some t)
    | none => .error (.unknownTransform name m.target.id m.targetPath)

/-- The source of a mapping. -/
def Mapping.source? (m : Mapping) (around : Surroundings) : Except CompileFault Source :=
  match m.source with
  | .fixed => .ok (.fixed m.value)
  | .input => do
    if ← liftSchema (Schema.hasPath (.object around.inputSchema) m.sourcePath) then
      return .input m.sourcePath
    else throw (.noSuchInput m.sourcePath)
  | .step id => do
    let schema := ((around.definition.step? id).map (·.outputSchema)).getD []
    if ← liftSchema (Schema.hasPath (.object schema) m.sourcePath) then
      return .step id (around.order.idxOf id) m.sourcePath
    else throw (.noSuchOutput id m.sourcePath m.target.id)

/-- The binding of a mapping. -/
def Mapping.binding? (m : Mapping) (around : Surroundings) : Except CompileFault Binding := do
  let transform ← m.transform?
  let source ← m.source? around
  return { target := m.targetPath, source := source, transform := transform }

/-- The member that a mapping writes to. -/
def Mapping.targetHead (m : Mapping) : String := m.targetSegments.headD ""

/-! ## Steps -/

/-- The fields that take the input of the run with their name. -/
def implicitFields (properties globals : Value) (mapped : List String) :
    List Value → Except Fault (List String)
  | [] => .ok []
  | name :: rest => do
    Schema.checkName name
    match name with
    | .str s =>
      if s ∈ mapped then implicitFields properties globals mapped rest
      else if ← Schema.declaresName globals name then
        return s :: (← implicitFields properties globals (s :: mapped) rest)
      else implicitFields properties globals mapped rest
    | _ =>
      let _ ← Schema.declaresName globals name
      implicitFields properties globals mapped rest

/-- The fault of a required field that nothing fills. A name that is an integer of too many digits
cannot be reported. -/
def missing (step : String) (name : Value) : CompileFault :=
  if name.hasLongInteger then .badSchema .longInteger else .missingRequired step name

/-- Checks that everything required is filled. -/
def checkRequired (step : String) (filled : List String) : List Value → Except CompileFault Unit
  | [] => .ok ()
  | name :: rest => do
    liftSchema (Schema.checkName name)
    match name with
    | .str s =>
      if s ∈ filled then checkRequired step filled rest else throw (missing step name)
    | _ => throw (missing step name)

/-- The mapper of a step. -/
def Step.mapper? (s : Step) (around : Surroundings) : Except CompileFault Mapper := do
  let mappings := around.definition.into (.step s.id)
  let explicit ← mappings.mapM fun m => m.binding? around
  let mapped := mappings.map (·.targetHead)
  let properties := Schema.declared s.inputSchema "properties"
  let globals := Schema.declared around.inputSchema "properties"
  let names ← liftSchema (properties.entries)
  let fields ← liftSchema (implicitFields properties globals mapped names)
  let implicit : List Binding := fields.map fun name =>
    { target := name, source := .input name, implicit := true }
  let defaults ← liftSchema (Schema.defaultsOf properties)
  let required ← liftSchema (Schema.requiredOf s.inputSchema)
  checkRequired s.id (mapped ++ fields ++ defaults.map (·.1)) required
  return { bindings := explicit ++ implicit, defaults := defaults }

/-- The predecessors of a step, in pipeline order. -/
def Surroundings.dependsOn (around : Surroundings) (id : String) : List String :=
  let needed := around.definition.predecessors id
  around.order.filter fun source => decide (source ∈ needed)

/-- Compiles the steps of an order from a position on. -/
def compileSteps (around : Surroundings) (index : Nat) :
    List String → Except CompileFault (List PipelineStep)
  | [] => .ok []
  | id :: rest => do
    let step := (around.definition.step? id).getD default
    let mapper ← step.mapper? around
    let more ← compileSteps around (index + 1) rest
    let placed : PipelineStep :=
      { index := index, step := step, mapper := mapper, dependsOn := around.dependsOn id }
    return placed :: more

namespace Graph

/-- The linear order of a graph, which has to list all of its steps. -/
def linearize (g : Graph) : Except CompileFault (List String) :=
  let order := g.order
  if order.length = g.definition.stepIds.length then .ok order else .error .unlisted

/-- Compiles a graph; the schema of the inputs is that of the workflow unless another is given. -/
def compile (g : Graph) (inputSchema : Option Members) : Except CompileFault Pipeline := do
  let order ← g.linearize
  let around : Surroundings :=
    { definition := g.definition, order := order,
      inputSchema := inputSchema.getD g.definition.inputSchema }
  let steps ← compileSteps around 0 order
  let outputs ← (g.definition.into .output).mapM fun m => m.binding? around
  return {
    workflowId := g.definition.id
    workflowName := g.definition.name
    steps := steps
    inputSchema := around.inputSchema
    outputMapper := if outputs.isEmpty then none else some { bindings := outputs } }

end Graph

/-- Checks and compiles a workflow. -/
def Definition.compile (d : Definition) (inputSchema : Option Members) : Except Trouble Pipeline :=
  match Graph.ofDefinition d with
  | .error fault => .error (.failure fault.failure)
  | .ok g =>
    match g.compile inputSchema with
    | .error fault => .error fault.trouble
    | .ok p => .ok p

namespace Pipeline

/-- The ids of the steps, in order. -/
def stepIds (p : Pipeline) : List String := p.steps.map fun s => s.step.id

/-- The step of an id. -/
def step? (p : Pipeline) (id : String) : Option PipelineStep :=
  p.steps.find? fun s => s.step.id == id

/-- The defaults that the schema of the inputs declares. -/
def inputDefaults (p : Pipeline) : Except Fault Members :=
  Schema.defaultsOf (Schema.declared p.inputSchema "properties")

/-- The output of a run: what the output mapper builds, or else the output of the last step. -/
def buildOutput (p : Pipeline) (outputs : String → Option Value) (inputs : Members) :
    Except BuildFault Value :=
  match p.outputMapper with
  | some mapper => mapper.build outputs inputs
  | none =>
    match p.steps.getLast? with
    | none => .ok .null
    | some last => .ok ((outputs last.step.id).getD .null)

end Pipeline

end Conduit
