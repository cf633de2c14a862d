import Conduit.Failure
import Conduit.Text.Lines
import Conduit.Value.Items
import Conduit.Workflow.Definition

/-!
# The catalog of remote actions

The catalog knows remote actions and their schemas. A step whose schemas are empty takes them from
the catalog.

* `ActionSpec` — an action;
* `Catalog` — the actions, with `Catalog.list` and `Catalog.hydrate`;
* `Catalog.ofText` — reads a catalog file.
-/

namespace Conduit

/-- What the catalog knows of an action. -/
structure ActionSpec where
  /-- The toolkit of the action. -/
  toolkit : String
  /-- The action. -/
  action : String
  /-- What people call it. -/
  name : String := ""
  /-- What it does. -/
  description : String := ""
  /-- What its input looks like. -/
  inputSchema : Members := []
  /-- What its output looks like. -/
  outputSchema : Members := []
deriving DecidableEq, Inhabited

namespace ActionSpec

open Decode

/-- Decodes an action. -/
def decode (m : Members) : Decoded ActionSpec :=
  ActionSpec.mk <$> field m "toolkit_slug" text
    <*> field m "action_id" text
    <*> optional m "name" "" text
    <*> optional m "description" "" text
    <*> optional m "input_schema" [] object
    <*> optional m "output_schema" [] object

/-- The members of an action. -/
def encode (s : ActionSpec) : Value :=
  .object
    [("toolkit_slug", .str s.toolkit), ("action_id", .str s.action), ("name", .str s.name),
     ("description", .str s.description), ("input_schema", .object s.inputSchema),
     ("output_schema", .object s.outputSchema)]

/-- Whether two entries are about the same action. -/
def sameAction (s other : ActionSpec) : Bool :=
  s.toolkit == other.toolkit && s.action == other.action

/-- Whether an entry comes before another: by toolkit, then by action. -/
def comesBefore (s other : ActionSpec) : Bool :=
  if s.toolkit = other.toolkit then decide (s.action < other.action)
  else decide (s.toolkit < other.toolkit)

end ActionSpec

/-- Known remote actions, none of them twice. -/
structure Catalog where
  /-- The entries. -/
  specs : List ActionSpec := []
deriving DecidableEq, Inhabited

namespace Catalog

/-- Adds an entry; an entry about the same action is replaced. -/
def add (specs : List ActionSpec) (s : ActionSpec) : List ActionSpec :=
  if specs.any s.sameAction then specs.map fun other => if s.sameAction other then s else other
  else specs ++ [s]

/-- The catalog of some entries. -/
def ofSpecs (specs : List ActionSpec) : Catalog := ⟨specs.foldl add []⟩

/-- The entry that an item of a catalog file stands for. -/
def specOf : Value → Except Trouble ActionSpec
  | .object members =>
    match (ActionSpec.decode members).toExcept with
    | .ok s => .ok s
    | .error issues => .error (.undecodable issues)
  | v => .error (.fault (.notFields "stepflow.connectors.registry.ActionSpec" v.kindName))

/-- The entries of a catalog file. -/
def specsOfText (text : String) : Except Trouble (List ActionSpec) :=
  match Json.readChars (Text.withLineFeeds text.toList) with
  | .error e => .error (.fault (.badJson e))
  | .ok document =>
    match document.entries with
    | .error fault => .error (.fault fault)
    | .ok items => items.mapM specOf

/-- The catalog of a catalog file. -/
def ofText (text : String) : Except Trouble Catalog := do return ofSpecs (← specsOfText text)

/-- The number of entries. -/
def size (c : Catalog) : Nat := c.specs.length

/-- The entry of an action. -/
def get? (c : Catalog) (toolkit action : Option String) : Option ActionSpec :=
  c.specs.find? fun s => some s.toolkit == toolkit && some s.action == action

/-- Puts an entry into its place. -/
def insertSpec (s : ActionSpec) : List ActionSpec → List ActionSpec
  | [] => [s]
  | other :: rest => if other.comesBefore s then other :: insertSpec s rest else s :: other :: rest

/-- The entries by toolkit and action, or those of one toolkit. -/
def list (c : Catalog) (toolkit : Option String) : List ActionSpec :=
  let sorted := c.specs.foldr insertSpec []
  match toolkit.filter (!·.isEmpty) with
  | none => sorted
  | some t => sorted.filter fun s => s.toolkit == t

/-- Fills the empty schemas of a remote action. -/
def hydrateStep (c : Catalog) (s : Step) : Step :=
  if s.kind = .remoteTool then
    match c.get? s.toolkit s.action with
    | none => s
    | some spec =>
      { s with
        inputSchema := if s.inputSchema.isEmpty then spec.inputSchema else s.inputSchema
        outputSchema := if s.outputSchema.isEmpty then spec.outputSchema else s.outputSchema }
  else s

/-- Fills the empty schemas of the remote actions of a workflow. -/
def hydrate (c : Catalog) (d : Definition) : Definition :=
  { d with steps := d.steps.map c.hydrateStep }

/-- Whether a step takes a schema from the catalog. -/
def hydratesStep (c : Catalog) (s : Step) : Bool :=
  s.kind == .remoteTool && (c.get? s.toolkit s.action).isSome
    && (s.inputSchema.isEmpty || s.outputSchema.isEmpty)

/-- Whether hydrating makes a new workflow. -/
def hydrates (c : Catalog) (d : Definition) : Bool := d.steps.any c.hydratesStep

end Catalog

end Conduit
