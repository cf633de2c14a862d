import Conduit.Proofs.Workflow.Checks
import Conduit.Schema

/-!
# Schemas that cannot be read

Schemas come from outside and may have any shape. To follow a path through one it takes an object at
every segment, with properties that can be searched, and where the segment is found among them, that
they have values by name. Following a path through a schema ends in a fault exactly where this is
not so.

* `Schema.Misshapen`, `Schema.Blocked` — a schema that cannot be asked about a segment, and one that
  a path cannot be followed through;
* `Schema.hasPath_eq_error_iff` — when asking a schema about a path is a fault.
-/

namespace Conduit

namespace Value

/-- Whether a value can be gone through and searched: a text, a list or an object. -/
def isSearchable : Value → Bool
  | str _ => true
  | list _ => true
  | object _ => true
  | _ => false

theorem isObject_iff {v : Value} : v.isObject = true ↔ ∃ members, v = .object members := by
  cases v <;> simp [isObject]

end Value

namespace Schema

/-- A schema that cannot be asked about a segment. -/
inductive Misshapen (segment : String) : Value → Prop
  /-- It is no object. -/
  | bare {schema : Value} (kind : schema.isObject = false) : Misshapen segment schema
  /-- It has properties that cannot be searched. -/
  | unsearchable {members : Members}
      (kind : (members.getD "type").equals (.str "array") = false)
      (declared : (members.getD "properties").isTruthy = true)
      (unfit : (members.getD "properties").isSearchable = false) :
      Misshapen segment (.object members)
  /-- It has properties that are no object, and the segment is found among them. -/
  | unkeyed {members : Members}
      (kind : (members.getD "type").equals (.str "array") = false)
      (declared : (members.getD "properties").isTruthy = true)
      (found : declares (members.getD "properties") segment = .ok true)
      (unfit : (members.getD "properties").isObject = false) :
      Misshapen segment (.object members)

/-- A schema that a path cannot be followed through: it is misshapen at a segment that the path
comes to. -/
inductive Blocked : Value → List String → Prop
  | here {schema : Value} {segment : String} {rest : List String}
      (misshapen : Misshapen segment schema) : Blocked schema (segment :: rest)
  | deeper {schema inner : Value} {segment : String} {rest : List String}
      (step : hop schema segment = .ok (.into inner)) (blocked : Blocked inner rest) :
      Blocked schema (segment :: rest)

theorem declares_eq_error_iff {properties : Value} (segment : String) :
    (∃ fault, declares properties segment = .error fault) ↔ properties.isSearchable = false := by
  cases properties <;> simp [declares, Value.isSearchable]

theorem property_eq_error_iff {properties : Value} {segment : String} :
    (∃ fault, property properties segment = .error fault) ↔ properties.isObject = false := by
  cases properties <;> simp [property, Value.isObject]

/-- A schema of objects with properties says what these say about a segment. -/
theorem hop_properties {members : Members} {segment : String}
    (kind : (members.getD "type").equals (.str "array") = false)
    (declared : (members.getD "properties").isTruthy = true) :
    hop (.object members) segment = do
      if ← declares (members.getD "properties") segment then
        return .into (orEmpty (← property (members.getD "properties") segment))
      else return .nothing := by
  simp [hop, membersOf, kind, declared, bind, Except.bind]

/-- A schema of lists, and one without properties, says something about every segment. -/
theorem exists_hop {members : Members} (segment : String)
    (plain : (members.getD "type").equals (.str "array") = true ∨
      (members.getD "properties").isTruthy = false) :
    ∃ next, hop (.object members) segment = .ok next := by
  cases kind : (members.getD "type").equals (.str "array") with
  | true =>
    cases hposition : Path.isPosition segment <;>
      simp [hop, membersOf, kind, hposition, bind, Except.bind, pure, Except.pure]
  | false =>
    have hnone : (members.getD "properties").isTruthy = false := by simpa [kind] using plain
    simp [hop, membersOf, kind, hnone, bind, Except.bind, pure, Except.pure]

/-- A schema says something about a segment unless it is misshapen there. -/
theorem hop_eq_error_iff {schema : Value} {segment : String} :
    (∃ fault, hop schema segment = .error fault) ↔ Misshapen segment schema := by
  constructor
  · rintro ⟨fault, h⟩
    cases hobject : schema.isObject with
    | false => exact .bare hobject
    | true =>
      obtain ⟨members, rfl⟩ := Value.isObject_iff.1 hobject
      by_cases plain : (Members.getD members "type").equals (.str "array") = true ∨
          (Members.getD members "properties").isTruthy = false
      · obtain ⟨next, hnext⟩ := exists_hop segment plain
        rw [h] at hnext
        cases hnext
      · rw [not_or, Bool.not_eq_true, Bool.not_eq_false] at plain
        rw [hop_properties plain.1 plain.2, except_bind_eq_error] at h
        rcases h with h | ⟨found, hfound, h⟩
        · exact .unsearchable plain.1 plain.2 ((declares_eq_error_iff segment).1 ⟨fault, h⟩)
        · cases found with
          | false => cases h
          | true =>
            rw [if_pos rfl, except_bind_eq_error] at h
            rcases h with h | ⟨inner, -, h⟩
            · exact .unkeyed plain.1 plain.2 hfound (property_eq_error_iff.1 ⟨fault, h⟩)
            · cases h
  · intro h
    cases h with
    | bare kind =>
      cases schema with
      | object members => cases kind
      | _ => exact ⟨_, rfl⟩
    | unsearchable kind declared unfit =>
      obtain ⟨fault, hfault⟩ := (declares_eq_error_iff segment).2 unfit
      exact ⟨fault, by rw [hop_properties kind declared, hfault]; rfl⟩
    | unkeyed kind declared found unfit =>
      obtain ⟨fault, hfault⟩ := property_eq_error_iff.2 unfit
      refine ⟨fault, ?_⟩
      rw [hop_properties kind declared, found]
      change (property _ segment >>= _) = _
      rw [hfault]
      rfl

/-- A path can be followed through a schema unless it is blocked. -/
theorem descend_eq_error_iff {segments : List String} :
    ∀ {schema : Value},
      (∃ fault, descend schema segments = .error fault) ↔ Blocked schema segments := by
  induction segments with
  | nil =>
    intro schema
    exact ⟨nofun, nofun⟩
  | cons segment rest ih =>
    intro schema
    rw [descend]
    constructor
    · rintro ⟨fault, h⟩
      split at h
      · next fault' hhop => exact .here (hop_eq_error_iff.1 ⟨fault', hhop⟩)
      · cases h
      · cases h
      · next inner hhop => exact .deeper hhop (ih.1 ⟨fault, h⟩)
    · intro h
      cases h with
      | here misshapen =>
        obtain ⟨fault, hfault⟩ := hop_eq_error_iff.2 misshapen
        exact ⟨fault, by rw [hfault]⟩
      | deeper step blocked =>
        obtain ⟨fault, hfault⟩ := ih.2 blocked
        exact ⟨fault, by rw [step]; exact hfault⟩

@[simp] theorem orEmpty_object (members : Members) : orEmpty (.object members) = .object members := by
  cases members <;> rfl

/-- A schema that a path can be followed through, which the path has to have segments for. -/
def Legible (schema : Members) (path : String) : Prop :=
  ∃ segments, Path.split path = .ok segments ∧ ¬Blocked (.object schema) segments

/-- Whether a schema has a place can be told exactly if it is legible there. -/
theorem hasPath_eq_error_iff {schema : Members} {path : String} :
    (∃ fault, hasPath (.object schema) path = .error fault) ↔ ¬Legible schema path := by
  rw [hasPath, at?, orEmpty_object]
  cases hsplit : Path.split path with
  | error fault => simp [Legible, hsplit]
  | ok segments =>
    have hlegible : ¬Legible schema path ↔ Blocked (.object schema) segments := by
      simp [Legible, hsplit]
    rw [hlegible, ← descend_eq_error_iff]
    dsimp only
    cases descend (.object schema) segments <;> simp

end Schema

end Conduit
