import Conduit.Decode
import Conduit.Value.Document

/-!
# Workflow definitions

A workflow consists of steps and of mappings between them. A mapping carries a value from a place in
the output of a step, from the inputs of the run, or from the definition itself, to a place in the
input of a step or in the output of the run.

* `StepKind`, `Step` — the steps;
* `Origin`, `Destination`, `Mapping` — the mappings;
* `Definition` — a workflow, with `Definition.decode`, `Definition.encode` and `Definition.summary`.
-/

namespace Conduit

/-- The kinds of steps. -/
inductive StepKind where
  /-- An action of an outside service. -/
  | remoteTool
  /-- A function of the caller. -/
  | customCode
  /-- Reads rows of a table. -/
  | tableQuery
  /-- Writes a row of a table. -/
  | tableWrite
  /-- Branches, merges and loops. -/
  | controlFlow
deriving DecidableEq, Inhabited

namespace StepKind

/-- The word for a kind of step. -/
def name : StepKind → String
  | remoteTool => "remote_tool"
  | customCode => "custom_code"
  | tableQuery => "table_query"
  | tableWrite => "table_write"
  | controlFlow => "control_flow"

/-- All kinds of steps. -/
def all : List StepKind := [remoteTool, customCode, tableQuery, tableWrite, controlFlow]

/-- The kind that a word stands for. -/
def named? (s : String) : Option StepKind := all.find? fun k => k.name == s

/-- Whether a step of this kind works on a table. -/
def usesTable : StepKind → Bool
  | tableQuery => true
  | tableWrite => true
  | _ => false

end StepKind

/-- A step of a workflow. -/
structure Step where
  /-- What mappings call the step. -/
  id : String
  /-- What kind of step it is. -/
  kind : StepKind
  /-- What people call the step. -/
  name : String := ""
  /-- What the step is for. -/
  description : Option String := none
  /-- The toolkit whose connection a remote action uses. -/
  toolkit : Option String := none
  /-- The remote action, or the custom function. -/
  action : Option String := none
  /-- What the step calls its table. -/
  table : Option String := none
  /-- The program text of a custom function. -/
  code : Option String := none
  /-- What the input of the step looks like. -/
  inputSchema : Members := []
  /-- What the output of the step looks like. -/
  outputSchema : Members := []
  /-- The settings of the step. -/
  config : Members := []
deriving DecidableEq, Inhabited

/-- What people call a step: its name, or else its id. -/
def Step.displayName (s : Step) : String := if s.name.isEmpty then s.id else s.name

/-- Where the value of a mapping comes from. -/
inductive Origin where
  /-- The inputs of the run. -/
  | input
  /-- The mapping itself. -/
  | fixed
  /-- The output of a step. -/
  | step (id : String)
deriving DecidableEq, Inhabited

/-- Where the value of a mapping goes. -/
inductive Destination where
  /-- The output of the run. -/
  | output
  /-- The input of a step. -/
  | step (id : String)
deriving DecidableEq, Inhabited

namespace Origin

/-- The id that stands for an origin. -/
def id : Origin → String
  | input => "__input__"
  | fixed => "__static__"
  | step id => id

/-- The origin that an id stands for. -/
def ofId (s : String) : Origin :=
  if s = "__input__" then input else if s = "__static__" then fixed else step s

@[simp] theorem id_ofId (s : String) : (ofId s).id = s := by
  unfold ofId
  split
  · simp [id, *]
  · split <;> simp [id, *]

end Origin

namespace Destination

/-- The id that stands for a destination. -/
def id : Destination → String
  | output => "__output__"
  | step id => id

/-- The destination that an id stands for. -/
def ofId (s : String) : Destination := if s = "__output__" then output else step s

@[simp] theorem id_ofId (s : String) : (ofId s).id = s := by
  unfold ofId
  split <;> simp [id, *]

end Destination

/-- The ids that no step may have. -/
def reservedIds : List String := [Origin.input.id, Origin.fixed.id, Destination.output.id]

/-- A mapping of a workflow. -/
structure Mapping where
  /-- Where the value comes from. -/
  source : Origin
  /-- The place in the source. -/
  sourcePath : String := ""
  /-- Where the value goes. -/
  target : Destination
  /-- The place in the target. -/
  targetPath : String
  /-- The name of the transform that the value goes through. -/
  transform : Option String := none
  /-- The value of a fixed mapping. -/
  value : Value := .null
deriving DecidableEq, Inhabited

/-- A workflow. -/
structure Definition where
  /-- The id of the workflow. -/
  id : String
  /-- What people call the workflow. -/
  name : String
  /-- What the workflow is for. -/
  description : String := ""
  /-- The steps, in order of declaration. -/
  steps : List Step := []
  /-- The mappings, in order of declaration. -/
  mappings : List Mapping := []
  /-- What the inputs of a run look like. -/
  inputSchema : Members := []
  /-- Counts how often the workflow was stored. -/
  version : Int := 1
  /-- When the workflow was stored. -/
  lastModified : Option Moment := none
deriving DecidableEq, Inhabited

/-! ## Decoding -/

open Decode

/-- Decodes a step. -/
def Step.decode (m : Members) : Decoded Step :=
  Step.mk <$> field m "id" text
    <*> field m "type" (word .notWord (StepKind.all.map fun k => (k.name, k)))
    <*> optional m "name" "" text
    <*> optional m "description" none (nullable text)
    <*> optional m "toolkit_slug" none (nullable text)
    <*> optional m "action_id" none (nullable text)
    <*> optional m "table_ref" none (nullable text)
    <*> optional m "code" none (nullable text)
    <*> optional m "input_schema" [] object
    <*> optional m "output_schema" [] object
    <*> optional m "config" [] object

/-- Decodes a mapping. -/
def Mapping.decode (m : Members) : Decoded Mapping :=
  Mapping.mk <$> field m "source_step_id" (fun v => (text v).map Origin.ofId)
    <*> optional m "source_field_path" "" text
    <*> field m "target_step_id" (fun v => (text v).map Destination.ofId)
    <*> field m "target_field_path" text
    <*> optional m "transform" none (nullable text)
    <*> optional m "value" .null any

/-- Decodes the members of a workflow; `otherwise` is the issue of a step or a mapping that is no
object. -/
def Definition.decode (otherwise : IssueKind) (m : Members) : Decoded Definition :=
  Definition.mk <$> field m "id" text
    <*> field m "name" text
    <*> optional m "description" "" text
    <*> optional m "nodes" [] (list (record otherwise Step.decode))
    <*> optional m "edges" [] (list (record otherwise Mapping.decode))
    <*> optional m "input_schema" [] object
    <*> optional m "version" 1 integer
    <*> optional m "last_modified" none (nullable moment)

/-- Decodes a workflow. -/
def Definition.ofValue : Decoder Definition := record .notRecord (Definition.decode .notRecord)

/-! ## Encoding -/

/-- The members of a step. -/
def Step.encode (s : Step) : Value :=
  .object
    [("id", .str s.id), ("type", .str s.kind.name), ("name", .str s.name),
     ("description", .ofText? s.description), ("toolkit_slug", .ofText? s.toolkit),
     ("action_id", .ofText? s.action), ("table_ref", .ofText? s.table), ("code", .ofText? s.code),
     ("input_schema", .object s.inputSchema), ("output_schema", .object s.outputSchema),
     ("config", .object s.config)]

/-- The members of a mapping. -/
def Mapping.encode (m : Mapping) : Value :=
  .object
    [("source_step_id", .str m.source.id), ("source_field_path", .str m.sourcePath),
     ("target_step_id", .str m.target.id), ("target_field_path", .str m.targetPath),
     ("transform", .ofText? m.transform), ("value", m.value)]

/-- The members of a workflow, as they are. -/
def Definition.plain (d : Definition) : Value :=
  .object
    [("id", .str d.id), ("name", .str d.name), ("description", .str d.description),
     ("nodes", .list (d.steps.map Step.encode)), ("edges", .list (d.mappings.map Mapping.encode)),
     ("input_schema", .object d.inputSchema), ("version", .int d.version),
     ("last_modified", .ofText? (d.lastModified.map Moment.documentText))]

/-- The document of a workflow. -/
def Definition.encode (d : Definition) : Value := d.plain.finite

/-- The values that a step holds. -/
def Step.values (s : Step) : List Value :=
  (s.inputSchema ++ s.outputSchema ++ s.config).map (·.2)

/-- The values that a workflow holds, in the order of its document. -/
def Definition.values (d : Definition) : List Value :=
  d.steps.flatMap Step.values ++ d.mappings.map (·.value) ++ d.inputSchema.map (·.2)

/-- What keeps a workflow out of a document: one of the values that it holds. -/
def Definition.documentFlaw? (d : Definition) : Option Value.DocumentFlaw :=
  d.values.findSome? fun v => v.documentFlaw? Value.documentDepth

/-! ## Summaries -/

/-- Puts a text into an ascending list, unless it is there. -/
def insertDistinct (s : String) : List String → List String
  | [] => [s]
  | t :: rest =>
    if s < t then s :: t :: rest else if s = t then t :: rest else t :: insertDistinct s rest

/-- The distinct texts of a list, ascending. -/
def sortedDistinct (l : List String) : List String := l.foldr insertDistinct []

namespace Definition

/-- The ids of the steps, in order of declaration. -/
def stepIds (d : Definition) : List String := d.steps.map (·.id)

/-- The step of an id. -/
def step? (d : Definition) (id : String) : Option Step := d.steps.find? fun s => s.id == id

/-- The mappings into a destination, in order of declaration. -/
def into (d : Definition) (target : Destination) : List Mapping :=
  d.mappings.filter fun m => m.target == target

/-- The toolkits that steps use. -/
def toolkits (d : Definition) : List String :=
  sortedDistinct ((d.steps.filterMap (·.toolkit)).filter (!·.isEmpty))

/-- A short description of a workflow. -/
def summary (d : Definition) : Value :=
  .object
    [("id", .str d.id), ("name", .str d.name), ("description", .str d.description),
     ("step_count", .ofNat d.steps.length), ("edge_count", .ofNat d.mappings.length),
     ("toolkits", .ofTexts d.toolkits), ("version", .int d.version),
     ("last_modified", .ofText? (d.lastModified.map Moment.text))]

end Definition

end Conduit
