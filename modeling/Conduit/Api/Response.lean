import Conduit.Failure
import Conduit.Value.Document

/-!
# Responses

What the service answers to a request.

* `Response` — a status with a document or a text;
* `Response.ofTrouble`, `Response.ofIssues` — what trouble and undecodable requests are answered
  with;
* `Value.published` — a value as responses show it.
-/

namespace Conduit

namespace Value

/-- Whether responses leave out the members of a name. -/
def isInternalName (name : String) : Bool :=
  match name.toList with
  | '_' :: 's' :: 'a' :: _ => true
  | _ => false

mutual

/-- A value as responses show it: without internal members, and with an empty object in the place of
a handle. -/
def published : Value → Value
  | list items => list (publishedItems items)
  | object members => object (publishedMembers members)
  | opaqueHandle => object []
  | v => v

/-- The items of a list as responses show them. -/
def publishedItems : List Value → List Value
  | [] => []
  | v :: rest => published v :: publishedItems rest

/-- The members of an object as responses show them. -/
def publishedMembers : List (String × Value) → List (String × Value)
  | [] => []
  | (name, v) :: rest =>
    if isInternalName name then publishedMembers rest
    else (name, published v) :: publishedMembers rest

end

end Value

/-- A step of a place as a value. -/
def Place.encode : Place → Value
  | .field name => .str name
  | .item index => .ofNat index

/-- The members of an issue. -/
def Issue.encode (i : Issue) : Value :=
  .object [("type", .str i.kind.name), ("loc", .list (i.place.map Place.encode))]

/-- What a response holds. -/
inductive Content where
  /-- A document. -/
  | document (v : Value)
  /-- A text. -/
  | text (s : String)
deriving DecidableEq, Inhabited

/-- An answer to a request. -/
structure Response where
  /-- The status. -/
  status : Nat
  /-- What it holds. -/
  content : Content
  /-- The trouble behind it, when nobody expected that. -/
  trouble : Option Trouble := none
deriving Inhabited

namespace Response

/-- The response to a request that met trouble nobody expected. -/
def crash (trouble : Trouble) : Response where
  status := 500
  content := .text "Internal Server Error"
  trouble := some trouble

/-- A response with a document, in which infinities and NaN have no place. -/
def ofDocument (status : Nat) (v : Value) : Response :=
  if v.finite = v then { status := status, content := .document v }
  else crash (.fault .outOfRangeNumber)

/-- A response with a value. -/
def ofValue (v : Value) : Response :=
  if v.published.hasLongInteger then crash (.fault .longInteger) else ofDocument 200 v.published

/-- A response that tells why there is nothing else. -/
def refusal (status : Nat) (detail : Value) : Response :=
  ofDocument status (.object [("detail", detail)])

/-- The response to a request for something that there is not. -/
def notFound (detail : String) : Response := refusal 404 (.str detail)

/-- The response to a request that something is offered for, but not by this method. -/
def otherMethod : Response := refusal 405 (.str "Method Not Allowed")

/-- The response that sends a request to another place. -/
def moved : Response where
  status := 307
  content := .text ""

/-- The response to a request that cannot be decoded. -/
def ofIssues (issues : List Issue) : Response := refusal 422 (.list (issues.map Issue.encode))

/-- The status for a kind of failure. -/
def statusOf (kind : FailureKind) : Nat :=
  if kind = .workflowNotFound then 404
  else if kind.isGraph || kind.isCompile then 422
  else if kind = .definitionStore then 400
  else 500

/-- The response to a request that met trouble. -/
def ofTrouble : Trouble → Response
  | .failure f => ofDocument (statusOf f.kind) f.report
  | trouble => crash trouble

end Response

end Conduit
