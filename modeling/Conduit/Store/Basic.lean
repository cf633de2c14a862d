import Conduit.Failure
import Conduit.Json.Writer
import Conduit.Store.FileTree
import Conduit.Text.Lines
import Conduit.Workflow.Definition

/-!
# Stores of workflows

Where workflows are between their runs: in memory, or in files, one directory a workflow. Saving a
workflow again raises its version by one, whatever version it comes with. Requests answer with the
store that they leave, also when they fail on the way.

* `Store` — a store of either kind;
* `Store.load`, `Store.save`, `Store.delete`, `Store.list` — the workflows;
* `Store.saveListing` — keeps the listing of a workflow beside it.
-/

namespace Conduit

/-- A store in memory. -/
structure MemoryStore where
  /-- The workflows by id. -/
  definitions : List (String × Definition) := []
  /-- The listings by the id of their workflow. -/
  listings : List (String × String) := []
deriving DecidableEq, Inhabited

/-- Where workflows are between their runs. -/
inductive Store where
  /-- In memory. -/
  | memory (m : MemoryStore)
  /-- In files. -/
  | files (t : FileTree)
deriving DecidableEq, Inhabited

/-- A workflow as it is stored at a moment, after the one that it replaces. -/
def Definition.stamped (d : Definition) (previous : Option Definition) (now : Moment) :
    Definition :=
  { d with
    version := (previous.map fun p => p.version + 1).getD d.version
    lastModified := some now }

/-- Writes an entry, in place when it is there. -/
def putEntry {α : Type} (key : String) (a : α) : List (String × α) → List (String × α)
  | [] => [(key, a)]
  | (other, b) :: rest =>
    if other = key then (key, a) :: rest else (other, b) :: putEntry key a rest

namespace MemoryStore

/-- The workflow of an id. -/
def load (m : MemoryStore) (id : String) : Except Trouble Definition :=
  match m.definitions.lookup id with
  | some d => .ok d
  | none => .error (.failure (Failure.workflowNotFound id))

/-- Stores a workflow at a moment. -/
def save (m : MemoryStore) (d : Definition) (now : Moment) : MemoryStore × Definition :=
  let stored := d.stamped (m.definitions.lookup d.id) now
  ({ m with definitions := putEntry d.id stored m.definitions }, stored)

/-- Puts an entry in its place by id. -/
def insertById (entry : String × Definition) :
    List (String × Definition) → List (String × Definition)
  | [] => [entry]
  | other :: rest =>
    if other.1 < entry.1 then other :: insertById entry rest else entry :: other :: rest

/-- The workflows by id. -/
def sorted (m : MemoryStore) : List Definition :=
  (m.definitions.foldr insertById []).map (·.2)

/-- A store without a workflow and its listing. -/
def without (m : MemoryStore) (id : String) : MemoryStore where
  definitions := m.definitions.filter fun entry => entry.1 != id
  listings := m.listings.filter fun entry => entry.1 != id

/-- Removes a workflow and its listing. -/
def delete (m : MemoryStore) (id : String) : MemoryStore × Except Trouble Unit :=
  if (m.definitions.lookup id).isSome then (m.without id, .ok ())
  else (m, .error (.failure (Failure.workflowNotFound id)))

/-- Keeps the listing of a workflow, and says where. -/
def saveListing (m : MemoryStore) (id code : String) : MemoryStore × String :=
  ({ m with listings := putEntry id code m.listings }, "memory://" ++ id ++ "/workflow.py")

end MemoryStore

namespace FileTree

/-- The name of the file of a workflow. -/
def definitionName : String := "workflow.json"

/-- The name of the file of a listing. -/
def listingName : String := "workflow.py"

/-- Whether a character is a plain letter or digit. -/
def isPlain (c : Char) : Bool := c.isAlphanum

/-- Whether an id may be the name of a directory: it begins with a plain letter or digit and goes on
with these, underscores and hyphens; a line feed may end it. -/
def isSafeId (id : String) : Bool :=
  let chars :=
    match id.toList.reverse with
    | '\n' :: rest => rest.reverse
    | _ => id.toList
  match chars with
  | [] => false
  | c :: rest => isPlain c && rest.all fun d => isPlain d || d == '_' || d == '-'

/-- The directory of a workflow. -/
def directoryOf (id : String) : Except Trouble (List String) :=
  if isSafeId id then .ok [id]
  else
    .error (.failure
      { kind := .definitionStore, message := "Invalid workflow id: " ++ Text.quoted id,
        details := [("workflow_id", .str id)] })

/-- The failure of a workflow whose file cannot be read. -/
def invalid (id report : String) (issues : List Issue) : Trouble :=
  .failure
    { kind := .definitionStore, message := "Workflow '" ++ id ++ "' is invalid: " ++ report,
      details := [("workflow_id", .str id)], issues := issues }

/-- The workflow that the text of a file stands for. -/
def definitionOf (id text : String) : Except Trouble Definition :=
  match Json.readChars (Text.withLineFeeds text.toList) with
  | .error (.tooDeep kind) => .error (.fault (.badJson (.tooDeep kind)))
  | .error e => .error (invalid id e.message [])
  | .ok (.object members) =>
    match (Definition.decode .notRecord members).toExcept with
    | .ok d => .ok d
    | .error issues => .error (invalid id (issueReport "WorkflowDefinition" issues) issues)
  | .ok v => .error (.fault (.notFields "stepflow.engine.models.WorkflowDefinition" v.kindName))

/-- Turns a fault of a file into trouble. -/
def lift {α : Type} : Except Fault α → Except Trouble α
  | .ok a => .ok a
  | .error fault => .error (.fault fault)

/-- The workflow of an id. -/
def loadDefinition (t : FileTree) (id : String) : Except Trouble Definition := do
  let path := (← directoryOf id) ++ [definitionName]
  if t.exists? path then definitionOf id (← lift (t.read? path))
  else throw (.failure (Failure.workflowNotFound id))

/-- The workflow that a new one of an id replaces. -/
def previous (t : FileTree) (id : String) : Except Trouble (Option Definition) := do
  let path := (← directoryOf id) ++ [definitionName]
  if t.exists? path then return some (← t.loadDefinition id) else return none

/-- The text of the file of a workflow. Values that have no place in a document keep the whole
workflow out of one. -/
def documentText (d : Definition) : Except Fault String :=
  match d.documentFlaw?, Json.page? 0 d.encode with
  | none, some text => .ok text
  | flaw, _ => .error (.notDocument (flaw.getD .handle))

/-- Writes a file into a directory, which is made first. The directory stays when there is no text
to write, or when it cannot be written. -/
def place (t : FileTree) (directory : List String) (name : String) (text : Except Fault String) :
    FileTree × Except Fault Unit :=
  match t.makeDirectory directory with
  | .error fault => (t, .error fault)
  | .ok made =>
    match text >>= made.write (directory ++ [name]) with
    | .error fault => (made, .error fault)
    | .ok written => (written, .ok ())

/-- Where a workflow is stored at a moment, and as what: after the one that it replaces. -/
def prepared (t : FileTree) (d : Definition) (now : Moment) :
    Except Trouble (List String × Definition) := do
  return (← directoryOf d.id, d.stamped (← t.previous d.id) now)

/-- Stores a workflow at a moment. What was made before a failure stays. -/
def saveDefinition (t : FileTree) (d : Definition) (now : Moment) :
    FileTree × Except Trouble Definition :=
  match t.prepared d now with
  | .error trouble => (t, .error trouble)
  | .ok (directory, stored) =>
    let (after, placed) := t.place directory definitionName (documentText stored)
    (after, (lift placed).map fun _ => stored)

/-- Whether a name is that of the directory of a workflow. -/
def isWorkflow (t : FileTree) (name : String) : Bool :=
  t.isDirectory [name] && name.toList.head? != some '.' && t.exists? [name, definitionName]

/-- The workflows of directories; those that cannot be read for a failure of the store are passed
over. -/
def loadAll (t : FileTree) : List String → Except Trouble (List Definition)
  | [] => .ok []
  | name :: rest =>
    match t.loadDefinition name with
    | .ok d => do return d :: (← loadAll t rest)
    | .error (.failure f) =>
      if f.kind = .definitionStore then loadAll t rest else .error (.failure f)
    | .error trouble => .error trouble

/-- The workflows by the names of their directories. -/
def definitions (t : FileTree) : Except Trouble (List Definition) :=
  t.loadAll ((t.names []).filter t.isWorkflow)

/-- Removes files of a directory, one after the other, and then the directory unless it holds
anything else. What was removed before a failure stays away. -/
def removeAll (t : FileTree) (directory : List String) :
    List String → FileTree × Except Fault Unit
  | [] => (t.removeIfEmpty directory, .ok ())
  | name :: rest =>
    match t.remove (directory ++ [name]) with
    | .error fault => (t, .error fault)
    | .ok t => t.removeAll directory rest

/-- The directory of a workflow that is stored. -/
def stored (t : FileTree) (id : String) : Except Trouble (List String) := do
  let directory ← directoryOf id
  if t.exists? (directory ++ [definitionName]) then return directory
  else throw (.failure (Failure.workflowNotFound id))

/-- Removes a workflow and its listing. -/
def deleteDefinition (t : FileTree) (id : String) : FileTree × Except Trouble Unit :=
  match t.stored id with
  | .error trouble => (t, .error trouble)
  | .ok directory =>
    let (after, removed) := t.removeAll directory [definitionName, listingName]
    (after, lift removed)

/-- Keeps the listing of a workflow, and says where. -/
def saveListing (t : FileTree) (id code : String) : FileTree × Except Trouble String :=
  match directoryOf id with
  | .error trouble => (t, .error trouble)
  | .ok directory =>
    let (after, placed) := t.place directory listingName (.ok code)
    (after, (lift placed).map fun _ => t.pathText (directory ++ [listingName]))

end FileTree

namespace Store

/-- The kind of a store in listings. -/
def name : Store → String
  | memory _ => "InMemoryDefinitionStore"
  | files _ => "JsonFileDefinitionStore"

/-- The workflow of an id. -/
def load : Store → String → Except Trouble Definition
  | memory m, id => m.load id
  | files t, id => t.loadDefinition id

/-- Stores a workflow at a moment. -/
def save : Store → Definition → Moment → Store × Except Trouble Definition
  | memory m, d, now => (memory (m.save d now).1, .ok (m.save d now).2)
  | files t, d, now => (files (t.saveDefinition d now).1, (t.saveDefinition d now).2)

/-- The workflows in order. -/
def list : Store → Except Trouble (List Definition)
  | memory m => .ok m.sorted
  | files t => t.definitions

/-- Removes a workflow. -/
def delete : Store → String → Store × Except Trouble Unit
  | memory m, id => (memory (m.delete id).1, (m.delete id).2)
  | files t, id => (files (t.deleteDefinition id).1, (t.deleteDefinition id).2)

/-- Keeps the listing of a workflow, and says where. -/
def saveListing : Store → String → String → Store × Except Trouble String
  | memory m, id, code => (memory (m.saveListing id code).1, .ok (m.saveListing id code).2)
  | files t, id, code => (files (t.saveListing id code).1, (t.saveListing id code).2)

/-- The store of a kind; the root is where a store in files has them. -/
def ofKind (kind root : String) : Except Fault Store :=
  if kind = "file" then .ok (files { root := root })
  else if kind = "memory" then .ok (memory {})
  else .error (.unknownStore kind)

end Store

end Conduit
