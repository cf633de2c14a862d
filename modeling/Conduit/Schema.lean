import Conduit.Path

/-!
# Places in schemas

A schema says which places the values of a step have. One that declares nothing is open: every place
below it is allowed. Schemas come from outside and may have any shape; a shape that cannot be read
is a fault.

* `Schema.at?` — the schema of a place, `none` when the place is ruled out;
* `Schema.hasPath` — whether a place is allowed;
* `Schema.properties`, `Schema.required`, `Schema.defaults` — what a schema declares.
-/

namespace Conduit.Schema

/-- An empty value where nothing was declared. -/
def orEmpty (v : Value) : Value := if v.isTruthy then v else .object []

/-- The members of a value that must be an object. -/
def membersOf (v : Value) (operation : String) : Except Fault Members :=
  match v with
  | .object members => .ok members
  | _ => .error (.noOperation v.kindName operation)

/-- Whether a segment is among the declared properties. -/
def declares (properties : Value) (segment : String) : Except Fault Bool :=
  match properties with
  | .object members => .ok (Members.has members segment)
  | .list items => .ok (items.any fun item => item.equals (.str segment))
  | .str s => .ok (Text.contains s.toList segment.toList)
  | _ => .error (.notSearchable properties.kindName)

/-- The schema of a declared property. -/
def property (properties : Value) (segment : String) : Except Fault Value :=
  match properties with
  | .object members => .ok (Members.getD members segment)
  | .list _ => .error .listAtName
  | _ => .error .textAtName

/-- Whether a schema is of the kind that has properties. -/
def isObjectKind (kind : Value) : Bool :=
  match kind with
  | .null => true
  | .str s => s == "object"
  | _ => false

/-- What a schema says about the next segment of a path. -/
inductive Hop where
  /-- The path goes on in this schema. -/
  | into (schema : Value)
  /-- Every place below is allowed. -/
  | anything
  /-- The place is ruled out. -/
  | nothing

/-- What a schema says about a segment. -/
def hop (schema : Value) (segment : String) : Except Fault Hop := do
  let members ← membersOf schema "get"
  let kind := Members.getD members "type"
  if kind.equals (.str "array") then
    if Path.isPosition segment then return .into (orEmpty (Members.getD members "items"))
    else return .nothing
  else
    let properties := Members.getD members "properties"
    if !properties.isTruthy then
      return if isObjectKind kind then .anything else .nothing
    else if ← declares properties segment then
      return .into (orEmpty (← property properties segment))
    else return .nothing

/-- The schema at the place that the segments name. -/
def descend (schema : Value) : List String → Except Fault (Option Value)
  | [] => .ok (some schema)
  | segment :: rest =>
    match hop schema segment with
    | .error fault => .error fault
    | .ok .nothing => .ok none
    | .ok .anything => .ok (some (.object []))
    | .ok (.into inner) => descend inner rest

/-- The schema at the place that a path names, `none` when the place is ruled out. -/
def at? (schema : Value) (path : String) : Except Fault (Option Value) :=
  match Path.split path with
  | .error fault => .error fault
  | .ok segments => descend (orEmpty schema) segments

/-- Whether a schema allows the place that a path names. -/
def hasPath (schema : Value) (path : String) : Except Fault Bool :=
  match at? schema path with
  | .error fault => .error fault
  | .ok found => .ok found.isSome

end Conduit.Schema
