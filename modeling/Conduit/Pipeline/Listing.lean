import Conduit.Pipeline.Compile
import Conduit.Text.Word

/-!
# Listings of pipelines

A pipeline can be written down as a program text, for review and for version control. Only the first
line, which tells when the listing was made, is not a function of the pipeline.

* `Pipeline.listing` — the whole text;
* `Pipeline.listingBody` — the lines below the first;
* `Listing.literal` — a value as it stands in a listing;
* `Listing.Statement`, `Listing.mapperStatements` — how a listing builds what a mapper builds.
-/

namespace Conduit

namespace Listing

/-- One level of indentation. -/
def indent : String := "    "

/-! ## Values -/

/-- The words of the listing for null and the truth values. -/
def words : Json.Words := ⟨"None", "True", "False"⟩

/-- The words of documents with those of the listing. -/
def exchanges : List (String × String) :=
  [(Json.Words.json.true, words.true), (Json.Words.json.false, words.false),
   (Json.Words.json.null, words.null)]

/-- The number of characters behind an opening quote, the closing one included. -/
def closingLength? : List Char → Option Nat
  | [] => none
  | '"' :: _ => some 1
  | ['\\'] => none
  | '\\' :: c :: rest => if c = '\n' then none else (closingLength? rest).map (· + 2)
  | _ :: rest => (closingLength? rest).map (· + 1)

/-- The word of a document that characters begin with, with that of the listing. No further
character of a word may stand before or behind it. -/
def wordAt? (inWord : Bool) (s : List Char) : Option (String × String) :=
  if inWord then none
  else exchanges.find? fun e =>
    Text.startsWith s e.1.toList && !(s.drop e.1.length).head?.any Text.isWord

/-- What takes the place of the first characters, and how many they are. A text between quotes takes
its own place. -/
def exchange? (inWord : Bool) : List Char → Option (List Char × Nat)
  | '"' :: s => (closingLength? s).map fun n => ('"' :: s.take n, n + 1)
  | s => (wordAt? inWord s).map fun e => (e.2.toList, e.1.length)

/-- Characters with the words of documents exchanged outside of texts, when a place has been taken
that reaches over the first `taken` of them. -/
def exchanged (taken : Nat) (inWord : Bool) : List Char → List Char
  | [] => []
  | c :: s =>
    match taken with
    | taken + 1 => exchanged taken (Text.isWord c) s
    | 0 =>
      match exchange? inWord (c :: s) with
      | some (place, n) => place ++ exchanged (n - 1) (Text.isWord c) s
      | none => c :: exchanged 0 (Text.isWord c) s

/-- A value in a listing. -/
def literal (v : Value) : String :=
  String.ofList (exchanged 0 false ((Json.line? v).getD "").toList)

/-! ## Names and steps -/

/-- A text in a listing. -/
def quoted (s : String) : String := Text.quoted s

/-- A text that may be missing, inside a remark. -/
def remark (s : Option String) : String := s.getD "None"

/-- The word for a letter of an identifier. -/
def identifierChar (c : Char) : Char := if Text.isWord c then c else '_'

/-- A text without underscores at its ends. -/
def trimUnderscores (s : List Char) : List Char :=
  ((s.dropWhile (· = '_')).reverse.dropWhile (· = '_')).reverse

/-- The variable that holds the input of a step. -/
def inputVariable (s : PipelineStep) : String :=
  let name := String.ofList (Text.lower (trimUnderscores (s.step.id.toList.map identifierChar)))
  "s" ++ toString s.index ++ "_" ++ (if name.isEmpty then "step" else name) ++ "_input"

/-- An entry of a table of steps that is left out when it is missing or empty. -/
def given (key : String) (s : Option String) : Members :=
  match s with
  | some t => if t.isEmpty then [] else [(key, .str t)]
  | none => []

/-- A step in the table of steps. -/
def stepRow (s : PipelineStep) : Value :=
  .object
    ([("id", .str s.step.id), ("type", .str s.step.kind.name), ("depends_on", .ofTexts s.dependsOn)]
      ++ given "toolkit_slug" s.step.toolkit ++ given "action_id" s.step.action
      ++ given "table_ref" s.step.table ++ given "code" s.step.code
      ++ if s.step.config.isEmpty then [] else [("config", .object s.step.config)])

/-- Whether a text is there and not empty. -/
def isGiven (s : Option String) : Bool :=
  match s with
  | some t => !t.isEmpty
  | none => false

/-- What kind of step a step is, in a few words. -/
def description (s : PipelineStep) : String :=
  let action :=
    if isGiven s.step.toolkit || isGiven s.step.action then
      [remark s.step.toolkit ++ "/" ++ remark s.step.action]
    else []
  let table := if isGiven s.step.table then ["table=" ++ remark s.step.table] else []
  " ".intercalate ([s.step.kind.name] ++ action ++ table)

/-! ## Statements -/

/-- An expression of a listing. -/
inductive Expression where
  /-- A value that is written out. -/
  | value (v : Value)
  /-- A place in the inputs of the run. -/
  | inInputs (path : String)
  /-- A place in the output of a step. -/
  | inOutput (step path : String)
  /-- What a transform makes of a value. -/
  | transformed (t : Transform) (e : Expression)
deriving DecidableEq, Inhabited

/-- The text of an expression. -/
def Expression.text : Expression → String
  | value v => literal v
  | inInputs path => "get_value(inputs, " ++ quoted path ++ ")"
  | inOutput step path => "get_value(outputs[" ++ quoted step ++ "], " ++ quoted path ++ ")"
  | transformed t e => "_transform(" ++ quoted t.name ++ ", " ++ e.text ++ ")"

/-- A statement about the value that is being built. -/
inductive Statement where
  /-- Says how transforms are applied. -/
  | transforms
  /-- Begins with a value. -/
  | begin (v : Value)
  /-- Writes at a place, unless there is nothing to write. -/
  | put (path : String) (e : Expression)
  /-- Takes another value instead. -/
  | become (e : Expression)
deriving DecidableEq, Inhabited

/-- The line of a statement about the value of a name. -/
def Statement.line (name : String) : Statement → String
  | transforms =>
    indent ++ "_transform = lambda name, v: v if v is MISSING else TRANSFORMS[name](v)"
  | begin v => indent ++ name ++ " = " ++ literal v
  | put path e => indent ++ "_put(" ++ name ++ ", " ++ quoted path ++ ", " ++ e.text ++ ")"
  | become e => indent ++ name ++ " = " ++ e.text

/-- The expression for the value of a source. -/
def sourceExpression : Source → Expression
  | .fixed v => .value v
  | .input path => .inInputs path
  | .step id _ path => .inOutput id path

/-- The expression for the value of a binding. -/
def bindingExpression (b : Binding) : Expression :=
  match b.transform with
  | none => sourceExpression b.source
  | some t => .transformed t (sourceExpression b.source)

/-- The statement of a binding. -/
def bindingStatement (b : Binding) : Statement :=
  if b.target.isEmpty then .become (bindingExpression b) else .put b.target (bindingExpression b)

/-- The statements that build what a mapper builds. -/
def mapperStatements (m : Mapper) : List Statement :=
  (if m.bindings.any (·.transform.isSome) then [.transforms] else [])
    ++ .begin m.base :: m.bindings.map bindingStatement

/-- The lines that build a value. -/
def mapperLines (m : Mapper) (name : String) : List String :=
  (mapperStatements m).map (Statement.line name)

/-! ## What is written out -/

/-- The values that an expression writes out. -/
def Expression.values : Expression → List Value
  | value v => [v]
  | inInputs _ => []
  | inOutput _ _ => []
  | transformed _ e => e.values

/-- The values that a statement writes out. -/
def Statement.values : Statement → List Value
  | transforms => []
  | begin v => [v]
  | put _ e => e.values
  | become e => e.values

/-- The values that the lines of a mapper write out. -/
def mapperValues (m : Mapper) : List Value := (mapperStatements m).flatMap Statement.values

/-- The values that the lines of a pipeline write out, but for the schema of its inputs and their
defaults. -/
def stepValues (p : Pipeline) : List Value :=
  p.steps.map stepRow ++ (p.steps.flatMap fun s => mapperValues s.mapper)
    ++ p.outputMapper.toList.flatMap mapperValues

/-- Checks that values can be written out, which integers of too many digits cannot. -/
def checkWritten (values : List Value) : Except Fault Unit :=
  if values.any Value.hasLongInteger then .error .longInteger else .ok ()

/-! ## Lines -/

/-- The lines of a step. -/
def stepLines (s : PipelineStep) : List String :=
  ["", indent ++ "# " ++ toString (s.index + 1) ++ ". " ++ Text.oneLine s.step.displayName ++ " ["
      ++ description s ++ "]"]
    ++ (if s.dependsOn.isEmpty then []
        else [indent ++ "# depends on: " ++ ", ".intercalate s.dependsOn])
    ++ mapperLines s.mapper (inputVariable s)
    ++ [indent ++ "outputs[" ++ quoted s.step.id ++ "] = await execute_step(" ++ quoted s.step.id
          ++ ", " ++ inputVariable s ++ ")"]

/-- The lines that end a listing. -/
def resultLines (p : Pipeline) : List String :=
  match p.outputMapper with
  | some m => mapperLines m "result" ++ [indent ++ "return result"]
  | none =>
    match p.steps.getLast? with
    | some last => [indent ++ "return outputs[" ++ quoted last.step.id ++ "]"]
    | none => [indent ++ "return None"]

/-- The lines before the steps. -/
def openingLines (p : Pipeline) (defaults : Members) : List String :=
  ["# Workflow: " ++ Text.oneLine p.workflowName ++ " (" ++ p.workflowId ++ ")",
   "# Auto-generated from the workflow definition - DO NOT EDIT DIRECTLY",
   "",
   "from copy import deepcopy",
   "",
   "from stepflow.engine.paths import MISSING, get_value, set_value",
   "from stepflow.engine.transforms import TRANSFORMS",
   "",
   "INPUT_SCHEMA = " ++ literal (.object p.inputSchema),
   "INPUT_DEFAULTS = " ++ literal (.object defaults),
   "",
   "STEPS = ["]
    ++ p.steps.map (fun s => indent ++ literal (stepRow s) ++ ",")
    ++ ["]",
        "",
        "",
        "def _put(target, path, value):",
        indent ++ "if value is not MISSING:",
        indent ++ indent ++ "set_value(target, path, value)",
        "",
        "",
        "async def run(inputs, execute_step):",
        indent ++ "\"\"\"Execute the steps in compiled order; execute_step(step_id, input) "
          ++ "performs one step.\"\"\"",
        indent ++ "inputs = \x7b**deepcopy(INPUT_DEFAULTS), **inputs\x7d",
        indent ++ "outputs = \x7b\x7d"]

end Listing

open Listing

/-- The lines of a listing below its first line. -/
def Pipeline.listingBody (p : Pipeline) : Except Fault (List String) := do
  checkWritten [.object p.inputSchema]
  let defaults ← p.inputDefaults
  checkWritten (.object defaults :: stepValues p)
  return openingLines p defaults ++ p.steps.flatMap stepLines ++ [""] ++ resultLines p

/-- The listing of a pipeline made at a moment. -/
def Pipeline.listing (p : Pipeline) (moment : Moment) : Except Fault String := do
  let body ← p.listingBody
  return "\n".intercalate (("# Generated by stepflow at " ++ moment.secondText) :: body) ++ "\n"

end Conduit
