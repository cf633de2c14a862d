import Conduit.Api.Address
import Conduit.Api.Response
import Conduit.Run.Context
import Conduit.Workflow.Definition

/-!
# Requests

What a client asks for, and how the document that comes with it is decoded.

* `Request` — a method, an address and a text;
* `Request.required`, `Request.optional` — the record that the text stands for.
-/

namespace Conduit

/-- What a client asks for. -/
structure Request where
  /-- The method. -/
  method : String
  /-- The address. -/
  address : Address
  /-- The text that comes with it. -/
  text : String := ""
deriving DecidableEq, Inhabited

namespace Request

/-- Where the parts of the document are, in issues. -/
def place : Place := .field "body"

/-- The document that comes with a request; null stands for none. -/
def document (r : Request) : Except Response (Option Value) :=
  if r.text.isEmpty then .ok none
  else
    match Json.readBytes r.text with
    | .ok .null => .ok none
    | .ok v => .ok (some v)
    | .error (.malformed _ _ _ position) =>
      .error (Response.ofIssues [⟨.malformed, [place, .item position]⟩])
    | .error _ =>
      .error (Response.refusal 400 (.str "There was an error parsing the body"))

/-- A decoded part of a request. -/
def accepted {α : Type} (x : Decoded α) : Except Response α :=
  match x.toExcept with
  | .ok a => .ok a
  | .error issues => .error (Response.ofIssues issues)

/-- What an issue is about: the part of a document at its place, or the object that a member is
missing from. -/
def partAt : List Place → Value → Value
  | [], v => v
  | .field name :: rest, .object m =>
    match Members.get? m name with
    | some v => partAt rest v
    | none => .object m
  | .item i :: rest, .list items =>
    match items[i]? with
    | some v => partAt rest v
    | none => .list items
  | _, v => v

/-- The response to a document that cannot be decoded. It tells what the issues are about, so there
is none when that is infinite. -/
def refusalOf (v : Value) (issues : List Issue) : Response :=
  let parts := issues.map fun i => partAt i.place v
  if parts.map Value.finite = parts then
    Response.ofIssues (issues.map fun i => ⟨i.kind, place :: i.place⟩)
  else Response.crash (.fault .outOfRangeNumber)

/-- The record that the document of a request stands for. -/
def recordOf {α : Type} (inner : Members → Decoded α) (v : Value) : Except Response α :=
  match (Decode.record .notRecordBody inner v).toExcept with
  | .ok a => .ok a
  | .error issues => .error (refusalOf v issues)

/-- The record that comes with a request and must be there. -/
def required {α : Type} (r : Request) (inner : Members → Decoded α) : Except Response α := do
  match ← r.document with
  | some v => recordOf inner v
  | none => throw (Response.ofIssues [⟨.missing, [place]⟩])

/-- The record that may come with a request. -/
def optional {α : Type} (r : Request) (absent : α) (inner : Members → Decoded α) :
    Except Response α := do
  match ← r.document with
  | some v => recordOf inner v
  | none => return absent

/-- A truth value in the query of a request. -/
def flag (r : Request) (name : String) (absent : Bool) : Except Response Bool :=
  match r.address.parameter? name with
  | none => .ok absent
  | some text => accepted (((Decode.flag (.str text)).under (.field name)).under (.field "query"))

end Request

open Decode in
/-- Decodes the connections and the tables of a context. -/
def Context.decodeBindings (m : Members) : Decoded Context :=
  Context.ofFields [] <$> optional m "connection_bindings" [] (table text)
    <*> optional m "table_bindings" [] (table text)
    <*> .ok none

/-- The context of an object with the given fields. -/
def Context.ofBindings (connections tables : List (String × String)) (inputs : Members)
    (resource : Option String) : Context :=
  ⟨resource, connections, tables, inputs⟩

open Decode in
/-- Decodes the context in which a client wants a workflow to be run. -/
def Context.decodePayload (m : Members) : Decoded Context :=
  Context.ofBindings <$> optional m "connection_bindings" [] (table text)
    <*> optional m "table_bindings" [] (table text)
    <*> optional m "inputs" [] object
    <*> optional m "resource_id" none (nullable text)

end Conduit
