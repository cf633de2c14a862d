import Conduit.Proofs.Path.Failure
import Conduit.Proofs.Pipeline.Demands
import Conduit.Proofs.Value.Equality

/-!
# Schemas and the values that conform to them

A schema describes values: lists of a kind, objects with the properties that it declares and no
other, anything, or what has no parts. Compiling asks the schema of a source whether it allows the
path of a mapping. It allows every path at which some value that conforms to it has something, so a
mapping that can resolve is not rejected, and it allows no other, but for segments that look like
positions in a list and stand for none.

* `Schema.Plain`, `Schema.Conforms` — schemas of the usual shape, and the values that conform to
  one;
* `Schema.hop_list`, `Schema.hop_closed`, `Schema.hop_open`, `Schema.hop_flat` — what each of the
  four kinds of schema says about a segment;
* `Schema.exists_descend`, `Schema.exists_conforming` — a path followed in a value is followed in
  its schema, and the other way round;
* `Schema.hasPath_exact` — which paths a schema allows.
-/

namespace Conduit

namespace Schema

/-! ## Conformance -/

/-- A schema of the usual shape: its type, if it says one, is a text, its properties are an object
or count as none, and the schemas inside it are objects of the same shape. -/
inductive Plain : Value → Prop
  | intro {schema : Members}
      (kind : ∀ v, schema.get? "type" = some v → ∃ s, v = .str s)
      (items : ∀ v, schema.get? "items" = some v → Plain v)
      (properties : ∀ v, schema.get? "properties" = some v → v.isTruthy = true → v.isObject = true)
      (declared : ∀ members : Members, schema.get? "properties" = some (.object members) →
        ∀ name v, members.get? name = some v → Plain v) :
      Plain (.object schema)

/-- The properties that a schema declares. -/
def propertiesOf (schema : Members) : Members :=
  match schema.get? "properties" with
  | some (.object members) => members
  | _ => []

/-- A value conforms to a schema. Null conforms to every schema. -/
inductive Conforms : Value → Value → Prop
  | null (schema : Value) : Conforms schema .null
  /-- A list of items that conform. -/
  | list {schema : Members} {items : List Value}
      (kind : schema.get? "type" = some (.str "array"))
      (each : ∀ inner, schema.get? "items" = some inner → ∀ v ∈ items, Conforms inner v) :
      Conforms (.object schema) (.list items)
  /-- An object with declared members only, each of which conforms to what is declared of it. -/
  | closed {schema members : Members}
      (kind : schema.get? "type" ≠ some (.str "array"))
      (declares : propertiesOf schema ≠ [])
      (known : ∀ name, members.has name = true → (propertiesOf schema).has name = true)
      (each : ∀ name inner v, (propertiesOf schema).get? name = some inner →
        members.get? name = some v → Conforms inner v) :
      Conforms (.object schema) (.object members)
  /-- Anything, where nothing is declared. -/
  | anything {schema : Members} (v : Value)
      (kind : schema.get? "type" = none ∨ schema.get? "type" = some (.str "object"))
      (declares : propertiesOf schema = []) : Conforms (.object schema) v
  /-- A value without parts, where the type says so. -/
  | flat {schema : Members} {s : String} {v : Value}
      (kind : schema.get? "type" = some (.str s)) (noList : s ≠ "array") (noObject : s ≠ "object")
      (declares : propertiesOf schema = []) (list : v.isList = false) (object : v.isObject = false) :
      Conforms (.object schema) v

theorem Plain.isObject {v : Value} (h : Plain v) : v.isObject = true := by
  cases h with
  | intro => rfl

/-- Where a schema of the usual shape stands inside another, it counts as it is. -/
theorem Plain.orEmpty_eq {v : Value} (h : Plain v) : orEmpty v = v := by
  obtain ⟨members, rfl⟩ := Value.isObject_iff.1 h.isObject
  exact orEmpty_object members

/-- What a schema of the usual shape declares are schemas of the usual shape. -/
theorem Plain.property {schema : Members} (h : Plain (.object schema)) {name : String} {v : Value}
    (found : (propertiesOf schema).get? name = some v) : Plain v := by
  cases h with
  | intro kind items properties declared =>
    unfold propertiesOf at found
    split at found
    · next members hmembers => exact declared members hmembers name v found
    · cases found

/-- What a schema of the usual shape says of the items of its lists is one itself. -/
theorem Plain.items {schema : Members} (h : Plain (.object schema)) {v : Value}
    (found : schema.get? "items" = some v) : Plain v := by
  cases h with
  | intro kind items properties declared => exact items v found

/-- The type of a schema of the usual shape is a text, if it says one. -/
theorem Plain.type {schema : Members} (h : Plain (.object schema)) {v : Value}
    (found : schema.get? "type" = some v) : ∃ s, v = .str s := by
  cases h with
  | intro kind items properties declared => exact kind v found

/-- The properties of a schema of the usual shape are an object, if there are any. -/
theorem Plain.properties_cases {schema : Members} (h : Plain (.object schema)) :
    (propertiesOf schema = [] ∧ (schema.getD "properties").isTruthy = false) ∨
      propertiesOf schema ≠ [] ∧ schema.getD "properties" = .object (propertiesOf schema) := by
  cases h with
  | intro kind items properties declared =>
    unfold propertiesOf Members.getD
    cases hfound : schema.get? "properties" with
    | none => exact .inl ⟨rfl, rfl⟩
    | some v =>
      cases htruthy : v.isTruthy with
      | false =>
        refine .inl ⟨?_, htruthy⟩
        cases v <;> simp_all [Value.isTruthy]
      | true =>
        obtain ⟨members, rfl⟩ := Value.isObject_iff.1 (properties v hfound htruthy)
        exact .inr ⟨by simpa [Value.isTruthy] using htruthy, rfl⟩

theorem getD_equals_iff {schema : Members} {key s : String} :
    (schema.getD key).equals (.str s) = true ↔ schema.get? key = some (.str s) := by
  rw [Value.equals_str_iff, Members.getD]
  cases schema.get? key <;> simp

/-! ## What a schema says about a segment -/

/-- A schema of lists allows what looks like a position. -/
theorem hop_list {schema : Members} (kind : schema.get? "type" = some (.str "array"))
    (a : String) :
    hop (.object schema) a =
      .ok (if Path.isPosition a = true then .into (orEmpty (schema.getD "items"))
        else .nothing) := by
  have hkind : (schema.getD "type").equals (.str "array") = true := getD_equals_iff.2 kind
  cases hposition : Path.isPosition a <;>
    simp [hop, membersOf, hkind, hposition, bind, Except.bind, pure, Except.pure]

/-- A schema that declares properties allows these. -/
theorem hop_closed {schema : Members} (plain : Plain (.object schema))
    (kind : schema.get? "type" ≠ some (.str "array")) (declares : propertiesOf schema ≠ [])
    (a : String) :
    hop (.object schema) a =
      .ok (match (propertiesOf schema).get? a with
        | some inner => .into inner
        | none => .nothing) := by
  have hproperties := plain.properties_cases.resolve_left fun h => declares h.1
  have hkind : (schema.getD "type").equals (.str "array") = false := by
    rw [← Bool.not_eq_true, getD_equals_iff]
    exact kind
  have htruthy : (schema.getD "properties").isTruthy = true := by
    rw [hproperties.2]
    simpa [Value.isTruthy] using declares
  rw [hop_properties hkind htruthy, hproperties.2, Schema.declares, Members.has]
  cases hfound : (propertiesOf schema).get? a with
  | none => rfl
  | some inner =>
    have hinner : (propertiesOf schema).getD a = inner := by simp [Members.getD, hfound]
    simp only [Option.isSome_some, property, hinner, (plain.property hfound).orEmpty_eq, bind,
      Except.bind, if_true, pure, Except.pure]

/-- What a schema without properties says does not depend on the segment. -/
theorem hop_undeclared {schema : Members} (plain : Plain (.object schema))
    (kind : schema.get? "type" ≠ some (.str "array")) (declares : propertiesOf schema = [])
    (a : String) :
    hop (.object schema) a =
      .ok (if isObjectKind (schema.getD "type") then .anything else .nothing) := by
  have hproperties := plain.properties_cases.resolve_right fun h => h.1 declares
  have hkind : (schema.getD "type").equals (.str "array") = false := by
    rw [← Bool.not_eq_true, getD_equals_iff]
    exact kind
  simp only [hop, membersOf, hkind, hproperties.2, bind, Except.bind, pure, Except.pure,
    Bool.not_false, if_true, Bool.false_eq_true, if_false]

/-- A schema that says nothing allows everything. -/
theorem hop_open {schema : Members} (plain : Plain (.object schema))
    (kind : schema.get? "type" = none ∨ schema.get? "type" = some (.str "object"))
    (declares : propertiesOf schema = []) (a : String) :
    hop (.object schema) a = .ok .anything := by
  rcases kind with h | h
  · rw [hop_undeclared plain (by simp [h]) declares, Members.getD, h]
    rfl
  · rw [hop_undeclared plain (by simp [h]) declares, Members.getD, h]
    rfl

/-- A schema of values without parts allows nothing. -/
theorem hop_flat {schema : Members} (plain : Plain (.object schema)) {s : String}
    (kind : schema.get? "type" = some (.str s)) (noList : s ≠ "array") (noObject : s ≠ "object")
    (declares : propertiesOf schema = []) (a : String) :
    hop (.object schema) a = .ok .nothing := by
  rw [hop_undeclared plain (by simp [kind, noList]) declares, Members.getD, kind]
  simp [isObjectKind, noObject]

/-- Everything below a schema that says nothing is allowed. -/
theorem exists_descend_empty (p : List String) :
    ∃ s, descend (.object []) p = .ok (some s) := by
  cases p with
  | nil => exact ⟨_, rfl⟩
  | cons a p => exact ⟨_, rfl⟩

/-! ## Paths in values and in schemas -/

/-- A path at which a value has something leads somewhere in every schema that the value conforms
to. -/
theorem exists_descend {p : List String} :
    ∀ {schema v u : Value}, Plain schema → Conforms schema v → Path.get? v p = .ok (some u) →
      ∃ s, descend schema p = .ok (some s) := by
  induction p with
  | nil =>
    intro schema v u _ _ _
    exact ⟨schema, rfl⟩
  | cons a p ih =>
    intro schema v u plain conforms hget
    obtain ⟨part, holds, hrest⟩ := Path.get?_cons_eq_some_iff.1 hget
    cases conforms with
    | null => cases holds
    | @list schema items kind each =>
      cases holds with
      | item digits stands there =>
        rw [descend, hop_list kind, if_pos digits, Members.getD]
        cases hitems : schema.get? "items" with
        | none => exact exists_descend_empty p
        | some inner =>
          have hinner : Plain inner := plain.items hitems
          rw [Option.getD_some, hinner.orEmpty_eq]
          exact ih hinner (each inner hitems part (List.mem_of_getElem? there)) hrest
    | @closed schema members kind declares known each =>
      cases holds with
      | member there =>
        obtain ⟨inner, hinner⟩ : ∃ inner, (propertiesOf schema).get? a = some inner :=
          Option.isSome_iff_exists.1 (known a (by rw [Members.has, there]; rfl))
        rw [descend, hop_closed plain kind declares, hinner]
        exact ih (plain.property hinner) (each a inner part hinner there) hrest
    | anything v kind declares =>
      rw [descend, hop_open plain kind declares]
      exact ⟨_, rfl⟩
    | flat kind noList noObject declares list object =>
      cases holds with
      | member there => cases object
      | item digits stands there => cases list

/-- Some value has something at the path. -/
theorem exists_get? (p : List String) : ∃ v u, Path.get? v p = .ok (some u) := by
  induction p with
  | nil => exact ⟨.null, .null, rfl⟩
  | cons a p ih =>
    obtain ⟨v, u, hget⟩ := ih
    exact ⟨.object [(a, v)], u,
      Path.get?_cons_eq_some_iff.2 ⟨v, .member (by simp [Members.get?]), hget⟩⟩

/-- A list with one item that is not null has it at its end. -/
theorem getElem?_replicate_concat (i : Nat) (v : Value) :
    (List.replicate i Value.null ++ [v])[i]? = some v := by
  rw [List.getElem?_append_right (by simp)]
  simp

/-- An object with one member, declared and as it is declared. -/
theorem Conforms.single {schema : Members} {a : String} {inner v : Value}
    (kind : schema.get? "type" ≠ some (.str "array"))
    (declared : (propertiesOf schema).get? a = some inner) (conforms : Conforms inner v) :
    Conforms (.object schema) (.object [(a, v)]) := by
  have declares : propertiesOf schema ≠ [] := by
    intro h
    rw [h] at declared
    cases declared
  have hmember : ∀ {name w}, Members.get? [(a, v)] name = some w → name = a ∧ w = v := by
    intro name w hw
    simp only [Members.get?, Option.ite_none_right_eq_some, Option.some_inj] at hw
    exact ⟨hw.1.symm, hw.2.symm⟩
  refine .closed kind declares ?_ ?_
  · intro name hname
    obtain ⟨w, hw⟩ := Option.isSome_iff_exists.1 hname
    rw [(hmember hw).1, Members.has, declared]
    rfl
  · intro name other w hother hw
    obtain ⟨rfl, rfl⟩ := hmember hw
    cases declared.symm.trans hother
    exact conforms

/-- Behind as many nulls as a position says, an item of a list has at the position what it has. -/
theorem Conforms.exists_list {schema : Members} {a : String} {p : List String} {v u : Value}
    (kind : schema.get? "type" = some (.str "array")) (digits : Path.isPosition a = true)
    (stands : ¬Path.Misleading a)
    (conforms : ∀ inner, schema.get? "items" = some inner → Conforms inner v)
    (found : Path.get? v p = .ok (some u)) :
    ∃ w, Conforms (.object schema) w ∧ Path.get? w (a :: p) = .ok (some u) := by
  obtain ⟨i, hi⟩ := Path.exists_position digits stands
  refine ⟨.list (List.replicate i .null ++ [v]), .list kind fun inner hinner w hw => ?_,
    Path.get?_cons_eq_some_iff.2 ⟨v, .item digits hi (getElem?_replicate_concat i v), found⟩⟩
  rcases List.mem_append.1 hw with hw | hw
  · rw [List.eq_of_mem_replicate hw]
    exact .null inner
  · rw [List.mem_singleton.1 hw]
    exact conforms inner hinner

/-- A schema without properties that allows a segment allows anything. -/
theorem Plain.isOpen_of_hop {schema : Members} (plain : Plain (.object schema))
    (kind : schema.get? "type" ≠ some (.str "array")) (declares : propertiesOf schema = [])
    {a : String} (allowed : hop (.object schema) a ≠ .ok .nothing) :
    schema.get? "type" = none ∨ schema.get? "type" = some (.str "object") := by
  cases htype : schema.get? "type" with
  | none => exact .inl rfl
  | some v =>
    obtain ⟨t, rfl⟩ := plain.type htype
    by_cases hobject : t = "object"
    · exact .inr (by rw [hobject])
    · refine absurd (hop_flat plain htype ?_ hobject declares a) allowed
      rintro rfl
      exact kind htype

/-- Where a path leads somewhere in a schema, a value that conforms to the schema has something at
it, if no segment of it is misleading. -/
theorem exists_conforming {p : List String} (readable : ∀ a ∈ p, ¬Path.Misleading a) :
    ∀ {schema s : Value}, Plain schema → descend schema p = .ok (some s) →
      ∃ v u, Conforms schema v ∧ Path.get? v p = .ok (some u) := by
  induction p with
  | nil =>
    intro schema s _ _
    exact ⟨.null, .null, .null schema, rfl⟩
  | cons a p ih =>
    intro schema s plain hdescend
    rw [List.forall_mem_cons] at readable
    obtain ⟨(schema : Members), rfl⟩ := Value.isObject_iff.1 plain.isObject
    rw [descend] at hdescend
    by_cases hlist : schema.get? "type" = some (.str "array")
    · rw [hop_list hlist] at hdescend
      cases digits : Path.isPosition a with
      | false => simp [digits] at hdescend
      | true =>
        rw [if_pos digits, Members.getD] at hdescend
        cases hitems : schema.get? "items" with
        | none =>
          obtain ⟨v, u, hget⟩ := exists_get? p
          obtain ⟨w, hw⟩ := Conforms.exists_list hlist digits readable.1 (by simp [hitems]) hget
          exact ⟨w, u, hw⟩
        | some inner =>
          have hinner : Plain inner := plain.items hitems
          rw [hitems, Option.getD_some, hinner.orEmpty_eq] at hdescend
          obtain ⟨v, u, conforms, hget⟩ := ih readable.2 hinner hdescend
          obtain ⟨w, hw⟩ := Conforms.exists_list hlist digits readable.1
            (fun other hother => Option.some.inj (hitems.symm.trans hother) ▸ conforms) hget
          exact ⟨w, u, hw⟩
    · by_cases hdeclares : propertiesOf schema = []
      · have hopen := plain.isOpen_of_hop hlist hdeclares (a := a)
          fun hnothing => by rw [hnothing] at hdescend; cases hdescend
        obtain ⟨v, u, hget⟩ := exists_get? (a :: p)
        exact ⟨v, u, .anything v hopen hdeclares, hget⟩
      · -- an object with this member alone
        rw [hop_closed plain hlist hdeclares] at hdescend
        cases hfound : (propertiesOf schema).get? a with
        | none => simp [hfound] at hdescend
        | some inner =>
          rw [hfound] at hdescend
          obtain ⟨v, u, conforms, hget⟩ := ih readable.2 (plain.property hfound) hdescend
          exact ⟨.object [(a, v)], u, .single hlist hfound conforms,
            Path.get?_cons_eq_some_iff.2 ⟨v, .member (by simp [Members.get?]), hget⟩⟩

/-! ## Paths as texts -/

/-- A schema allows a path exactly if the path leads somewhere in it. -/
theorem hasPath_eq_ok_true_iff {schema : Members} {path : String} :
    hasPath (.object schema) path = .ok true ↔
      ∃ p s, Path.split path = .ok p ∧ descend (.object schema) p = .ok (some s) := by
  rw [hasPath, at?, orEmpty_object]
  cases hsplit : Path.split path with
  | error fault => simp
  | ok p =>
    cases hdescend : descend (.object schema) p with
    | error fault => simp [hdescend]
    | ok found => cases found <;> simp [hdescend]

/-- A path at which some value that conforms to a schema has something is allowed by the schema, and
a mapping from there is not rejected. Every path that a schema allows is one at which some value
that conforms has something, if no segment of the path is misleading. -/
theorem hasPath_exact {schema : Members} (plain : Plain (.object schema)) (path : String) :
    (∀ v found, Conforms (.object schema) v → Path.lookup? v path = .ok (some found) →
      hasPath (.object schema) path = .ok true ∧
      ∀ (m : Mapping) (around : Surroundings), m.sourceSchema? around = some schema →
        m.sourcePath = path → ∃ source, m.source? around = .ok source) ∧
    ∀ p, Path.split path = .ok p → (∀ a ∈ p, ¬Path.Misleading a) →
      hasPath (.object schema) path = .ok true →
        ∃ v found, Conforms (.object schema) v ∧ Path.lookup? v path = .ok (some found) := by
  refine ⟨fun v found conforms hlookup => ?_, fun p hsplit readable allowed => ?_⟩
  · have hallowed : hasPath (.object schema) path = .ok true := by
      rw [Path.lookup?] at hlookup
      cases hsplit : Path.split path with
      | error fault =>
        rw [hsplit] at hlookup
        cases hlookup
      | ok p =>
        rw [hsplit] at hlookup
        obtain ⟨s, hs⟩ := exists_descend plain conforms hlookup
        exact hasPath_eq_ok_true_iff.2 ⟨p, s, hsplit, hs⟩
    refine ⟨hallowed, fun m around hschema hpath => ?_⟩
    unfold Mapping.sourceSchema? at hschema
    unfold Mapping.source?
    cases hsource : m.source with
    | fixed => exact ⟨_, rfl⟩
    | input =>
      rw [hsource] at hschema
      cases hschema
      rw [hpath, hallowed]
      exact ⟨_, rfl⟩
    | step id =>
      rw [hsource] at hschema
      cases hschema
      dsimp only
      rw [hpath, hallowed]
      exact ⟨_, rfl⟩
  · obtain ⟨q, s, hsplit', hdescend⟩ := hasPath_eq_ok_true_iff.1 allowed
    cases hsplit.symm.trans hsplit'
    obtain ⟨v, found, conforms, hget⟩ := exists_conforming readable plain hdescend
    refine ⟨v, found, conforms, ?_⟩
    rw [Path.lookup?, hsplit]
    exact hget

/-- The schema of an object with a name. -/
def rowSchema : Members := [("properties", .object [("name", .object [("type", .str "string")])])]

/-- The schema of an object with rows. -/
def rowsSchema : Members :=
  [("type", .str "object"),
    ("properties",
      .object [("rows", .object [("type", .str "array"), ("items", .object rowSchema)])])]

theorem plain_rowSchema : Plain (.object rowSchema) := by
  refine .intro (by simp [rowSchema, Members.get?]) (by simp [rowSchema, Members.get?])
    (by simp [rowSchema, Members.get?, Value.isObject]) ?_
  rintro members ⟨⟩ name v found
  simp only [Members.get?, Option.ite_none_right_eq_some] at found
  obtain ⟨-, ⟨⟩⟩ := found
  exact .intro (by simp [Members.get?]) (by simp [Members.get?]) (by simp [Members.get?])
    (by simp [Members.get?])

theorem plain_rowsSchema : Plain (.object rowsSchema) := by
  refine .intro (by simp [rowsSchema, Members.get?]) (by simp [rowsSchema, Members.get?])
    (by simp [rowsSchema, Members.get?, Value.isObject]) ?_
  rintro members ⟨⟩ name v found
  simp only [Members.get?, Option.ite_none_right_eq_some] at found
  obtain ⟨-, ⟨⟩⟩ := found
  refine .intro (by simp [Members.get?]) ?_ (by simp [Members.get?]) (by simp [Members.get?])
  rintro v ⟨⟩
  exact plain_rowSchema

/-- An object with a row that is null and one that has a name. -/
def rows : Value := .object [("rows", .list [.null, .object [("name", .str "Ada")]])]

theorem conforms_rows : Conforms (.object rowsSchema) rows := by
  have name : Conforms (.object [("type", .str "string")]) (.str "Ada") :=
    .flat rfl (by decide) (by decide) rfl rfl rfl
  have row : Conforms (.object rowSchema) (.object [("name", .str "Ada")]) :=
    .single (by decide) rfl name
  refine .single (by decide) rfl (.list rfl ?_)
  rintro inner ⟨⟩ v hv
  rcases List.mem_pair.1 hv with rfl | rfl
  · exact .null _
  · exact row

/-- What is found in the second row is allowed. -/
theorem hasPath_exact_rows :
    Plain (.object rowsSchema) ∧ Conforms (.object rowsSchema) rows ∧
      Path.lookup? rows "rows[1].name" = .ok (some (.str "Ada")) ∧
      hasPath (.object rowsSchema) "rows[1].name" = .ok true := by
  have found : Path.lookup? rows "rows[1].name" = .ok (some (.str "Ada")) := by decide +kernel
  exact ⟨plain_rowsSchema, conforms_rows, found,
    ((hasPath_exact plain_rowsSchema "rows[1].name").1 rows _ conforms_rows found).1⟩

end Schema

end Conduit
