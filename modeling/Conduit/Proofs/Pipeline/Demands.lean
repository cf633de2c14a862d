import Conduit.Api.Response
import Conduit.Proofs.Pipeline.Coverage
import Conduit.Proofs.Pipeline.Sequence
import Conduit.Proofs.Pipeline.Supply
import Conduit.Proofs.Schema
import Conduit.Proofs.Value.Document

/-!
# What compiling demands

Compiling a graph asks for one thing after the other: that a transform is known, that a schema can
be followed along a path and allows it, that the fields of a step can be gone through, that what it
requires is filled. The first demand that is not met decides how compiling ends. Some are reported
to the caller; those about the shape of a schema are not, and end in a fault that nobody expects.

* `Demand`, `Demand.Met`, `Demand.report?` — a demand, and what it is reported as;
* `Graph.demands`, `Graph.FirstUnmet` — the demands in order, and the first that is not met;
* `Meets` — a computation that ends as its demands say;
* `Definition.compile_exact` — how compiling ends, whatever the schemas are.
-/

namespace Conduit

/-- Something that compiling a graph asks for. -/
inductive Demand where
  /-- The transform of a mapping is known. -/
  | transform (m : Mapping)
  /-- The schema of the source of a mapping can be followed along its path. -/
  | legible (m : Mapping)
  /-- The schema of the source of a mapping allows its path. -/
  | allowed (m : Mapping)
  /-- The properties of a step are an object. -/
  | properties (s : Step)
  /-- The inputs of the run can be searched for the fields of a step that no mapping writes to. -/
  | inputs (s : Step)
  /-- What a step requires can be gone through. -/
  | listed (s : Step)
  /-- Something that a step requires can be looked up. -/
  | named (s : Step) (v : Value)
  /-- Something that a step requires is filled. -/
  | filled (s : Step) (v : Value)

/-- The schema of what a mapping takes its value from. -/
def Mapping.sourceSchema? (m : Mapping) (around : Surroundings) : Option Members :=
  match m.source with
  | .fixed => none
  | .input => some around.inputSchema
  | .step id => some (((around.definition.step? id).map (·.outputSchema)).getD [])

/-- The fields that a step declares. -/
def Step.fields (s : Step) : Value := Schema.declared s.inputSchema "properties"

/-- What a step requires, nothing if that cannot be gone through. -/
def Step.required (s : Step) : List Value := (Schema.requiredOf s.inputSchema).toOption.getD []

/-- A step declares a field. -/
def Step.HasField (s : Step) (name : String) : Prop :=
  ∃ members, s.fields = .object members ∧ name ∈ members.map (·.1)

/-- A step declares a default for a field. -/
def Step.HasDefault (s : Step) (name : String) : Prop :=
  ∃ defaults, Schema.defaultsOf s.fields = .ok defaults ∧ name ∈ defaults.map (·.1)

/-- A field of a step is filled: by a mapping, by the input of its name, or by a default. -/
def Step.Fills (s : Step) (around : Surroundings) (name : String) : Prop :=
  ¬around.definition.Unmapped s.id name ∨
    (s.HasField name ∧ Declares around.inputSchema name) ∨ s.HasDefault name

namespace Demand

/-- A demand is met. -/
def Met (around : Surroundings) : Demand → Prop
  | transform m => ∀ name, m.transform = some name → ∃ t, Transform.named? name = some t
  | legible m => ∀ schema, m.sourceSchema? around = some schema → Schema.Legible schema m.sourcePath
  | allowed m => ∀ schema, m.sourceSchema? around = some schema →
      Schema.hasPath (.object schema) m.sourcePath ≠ .ok false
  | properties s => s.fields.isObject = true
  | inputs s => ∀ name, s.HasField name → around.definition.Unmapped s.id name →
      (Schema.declared around.inputSchema "properties").isSearchable = true
  | listed s => (Members.getD s.inputSchema "required").isTruthy = true →
      (Members.getD s.inputSchema "required").isSearchable = true
  | named _ v => ∃ u, Schema.checkName v = .ok u
  | filled s v => ∃ name, v = .str name ∧ s.Fills around name

/-- What it is reported as that a demand is not met. Nothing reports that a schema has a shape that
cannot be read, or that a required name cannot be written. -/
def report? : Demand → Option CompileFault
  | transform m => some (.unknownTransform (m.transform.getD "") m.target.id m.targetPath)
  | allowed m =>
    match m.source with
    | .step id => some (.noSuchOutput id m.sourcePath m.target.id)
    | _ => some (.noSuchInput m.sourcePath)
  | filled s v => if v.hasLongInteger then none else some (.missingRequired s.id v)
  | _ => none

/-- A computation ends in this fault because the demand is not met. -/
def Causes (d : Demand) (e : CompileFault) : Prop :=
  match d.report? with
  | some report => e = report
  | none => ∃ fault, e = .badSchema fault

theorem causes_missing (s : Step) (v : Value) : Causes (.filled s v) (missing s.id v) := by
  rw [Causes, report?, missing]
  cases v.hasLongInteger with
  | false => rfl
  | true => exact ⟨_, rfl⟩

end Demand

/-! ## Demands in order -/

/-- What a mapping demands. -/
def Mapping.demands (m : Mapping) : List Demand := [.transform m, .legible m, .allowed m]

/-- What a step demands. -/
def Step.demands (s : Step) (around : Surroundings) : List Demand :=
  (around.definition.into (.step s.id)).flatMap Mapping.demands ++
    ([.properties s, .inputs s, .listed s] ++
      s.required.flatMap fun v => [.named s v, .filled s v])

/-- What compiling a graph demands: step by step in the order of the graph, and then for the
output. -/
def Graph.demands (g : Graph) (schema : Option Members) : List Demand :=
  (g.order.flatMap fun id =>
      ((g.definition.step? id).getD default).demands (g.surroundings schema)) ++
    (g.definition.into .output).flatMap Mapping.demands

/-- The first of a list of demands that is not met. -/
def FirstUnmet (around : Surroundings) (demands : List Demand) (d : Demand) : Prop :=
  ∃ front back, demands = front ++ d :: back ∧ (∀ other ∈ front, other.Met around) ∧ ¬d.Met around

theorem FirstUnmet.unique {around : Surroundings} {demands : List Demand} {d d' : Demand}
    (h : FirstUnmet around demands d) (h' : FirstUnmet around demands d') : d = d' := by
  obtain ⟨front, back, hsplit, hbefore, hunmet⟩ := h
  obtain ⟨front', back', hsplit', hbefore', hunmet'⟩ := h'
  exact Definition.eq_of_first_not (hsplit.symm.trans hsplit') hbefore hunmet hbefore' hunmet'

/-- A computation ends as its demands say: it succeeds only if all are met, and otherwise the first
that is not met causes its fault. -/
def Meets {α : Type} (around : Surroundings) (demands : List Demand) (x : Except CompileFault α) :
    Prop :=
  match x with
  | .ok _ => ∀ d ∈ demands, d.Met around
  | .error e => ∃ d, FirstUnmet around demands d ∧ d.Causes e

namespace Meets

variable {α β : Type} {around : Surroundings} {demands more : List Demand}

theorem pure (a : α) : Meets around [] (.ok a : Except CompileFault α) := by
  simp [Meets]

/-- A demand that is met does not matter. -/
theorem cons {d : Demand} {x : Except CompileFault α} (met : d.Met around)
    (h : Meets around demands x) : Meets around (d :: demands) x := by
  cases x with
  | ok a => exact List.forall_mem_cons.2 ⟨met, h⟩
  | error e =>
    obtain ⟨d', ⟨front, back, hsplit, hbefore, hunmet⟩, hcauses⟩ := h
    exact ⟨d', ⟨d :: front, back, by rw [hsplit, List.cons_append],
      List.forall_mem_cons.2 ⟨met, hbefore⟩, hunmet⟩, hcauses⟩

/-- A demand that is not met decides. -/
theorem unmet {d : Demand} {e : CompileFault} (unmet : ¬d.Met around) (causes : d.Causes e) :
    Meets around (d :: demands) (.error e : Except CompileFault α) :=
  ⟨d, ⟨[], demands, rfl, by simp, unmet⟩, causes⟩

/-- A demand that nothing reports ends in a fault when it is not met. -/
theorem escapes {d : Demand} {x : Except CompileFault α} (unmet : ¬d.Met around)
    (unreported : d.report? = none) (h : ∃ fault, x = .error (.badSchema fault)) :
    Meets around (d :: demands) x := by
  obtain ⟨fault, rfl⟩ := h
  exact Meets.unmet unmet (by rw [Demand.Causes, unreported]; exact ⟨fault, rfl⟩)

/-- The demands of two computations, one after the other. -/
theorem bind {x : Except CompileFault α} {f : α → Except CompileFault β}
    (hx : Meets around demands x) (hf : ∀ a, x = .ok a → Meets around more (f a)) :
    Meets around (demands ++ more) (x >>= f) := by
  cases x with
  | error e =>
    obtain ⟨d, ⟨front, back, hsplit, hbefore, hunmet⟩, hcauses⟩ := hx
    exact ⟨d, ⟨front, back ++ more, by rw [hsplit, List.append_assoc, List.cons_append], hbefore,
      hunmet⟩, hcauses⟩
  | ok a =>
    have hrest := hf a rfl
    change Meets around (demands ++ more) (f a)
    cases hfa : f a with
    | ok b =>
      rw [hfa] at hrest
      exact List.forall_mem_append.2 ⟨hx, hrest⟩
    | error e =>
      rw [hfa] at hrest
      obtain ⟨d, ⟨front, back, hsplit, hbefore, hunmet⟩, hcauses⟩ := hrest
      exact ⟨d, ⟨demands ++ front, back, by rw [hsplit, List.append_assoc],
        List.forall_mem_append.2 ⟨hx, hbefore⟩, hunmet⟩, hcauses⟩

/-- A computation that nothing is demanded for once it has succeeded. -/
theorem bind_pure {x : Except CompileFault α} {f : α → β} (hx : Meets around demands x) :
    Meets around demands (x >>= fun a => .ok (f a)) := by
  have h : Meets around (demands ++ []) (x >>= fun a => .ok (f a)) :=
    hx.bind fun a _ => Meets.pure (f a)
  rwa [List.append_nil] at h

/-- The demands of a list of computations. -/
theorem mapM {ι : Type} {f : ι → Except CompileFault α} {wants : ι → List Demand} (l : List ι)
    (h : ∀ i ∈ l, Meets around (wants i) (f i)) : Meets around (l.flatMap wants) (l.mapM f) := by
  induction l with
  | nil => exact Meets.pure []
  | cons i rest ih =>
    rw [List.mapM_cons, List.flatMap_cons]
    refine (h i List.mem_cons_self).bind fun a _ => ?_
    exact (ih fun j hj => h j (List.mem_cons_of_mem _ hj)).bind_pure

end Meets

/-! ## Mappings -/

section Mappings

variable (around : Surroundings) (m : Mapping)

theorem Mapping.transform?_meets : Meets around [.transform m] m.transform? := by
  unfold Mapping.transform?
  split
  · next hnone =>
    refine Meets.cons ?_ (.pure none)
    intro name hname
    rw [hnone] at hname
    cases hname
  · next name hname =>
    split
    · next t ht =>
      refine Meets.cons ?_ (.pure (some t))
      intro name' hname'
      rw [hname] at hname'
      cases hname'
      exact ⟨t, ht⟩
    · next hunknown =>
      refine Meets.unmet (fun hmet => ?_) ?_
      · obtain ⟨t, ht⟩ := hmet name hname
        rw [hunknown] at ht
        cases ht
      · simp [Demand.Causes, Demand.report?, hname]

/-- A source is there if its schema can be followed along the path and allows it. -/
theorem Mapping.source_meets {schema : Members} (hschema : m.sourceSchema? around = some schema)
    {source : Source} {report : CompileFault} (hreport : Demand.report? (.allowed m) = some report) :
    Meets around [.legible m, .allowed m]
      (liftSchema (Schema.hasPath (.object schema) m.sourcePath) >>= fun found =>
        if found then pure source else throw report) := by
  have hlegible : Demand.Met around (.legible m) ↔ Schema.Legible schema m.sourcePath := by
    simp [Demand.Met, hschema]
  have hallowed : Demand.Met around (.allowed m) ↔
      Schema.hasPath (.object schema) m.sourcePath ≠ .ok false := by
    simp [Demand.Met, hschema]
  cases hpath : Schema.hasPath (.object schema) m.sourcePath with
  | error fault =>
    refine Meets.unmet ?_ ⟨fault, rfl⟩
    rw [hlegible]
    exact Schema.hasPath_eq_error_iff.1 ⟨fault, hpath⟩
  | ok found =>
    have hmet : Demand.Met around (.legible m) := by
      rw [hlegible]
      by_contra hnot
      obtain ⟨fault, hfault⟩ := Schema.hasPath_eq_error_iff.2 hnot
      rw [hpath] at hfault
      cases hfault
    refine Meets.cons hmet ?_
    cases found with
    | true => exact Meets.cons (hallowed.2 (by simp [hpath])) (.pure source)
    | false =>
      refine Meets.unmet (fun hmet => hallowed.1 hmet hpath) ?_
      simp [Demand.Causes, hreport]

theorem Mapping.source?_meets : Meets around [.legible m, .allowed m] (m.source? around) := by
  unfold Mapping.source?
  cases hsource : m.source with
  | fixed =>
    have hschema : m.sourceSchema? around = none := by simp [Mapping.sourceSchema?, hsource]
    exact Meets.cons (by simp [Demand.Met, hschema])
      (Meets.cons (by simp [Demand.Met, hschema]) (.pure _))
  | input =>
    exact Mapping.source_meets around m (by simp [Mapping.sourceSchema?, hsource])
      (by simp [Demand.report?, hsource])
  | step id =>
    exact Mapping.source_meets around m (by simp [Mapping.sourceSchema?, hsource])
      (by simp [Demand.report?, hsource])

theorem Mapping.binding?_meets : Meets around m.demands (m.binding? around) := by
  unfold Mapping.binding?
  refine Meets.bind (m.transform?_meets around) fun transform _ => ?_
  exact (m.source?_meets around).bind_pure

end Mappings

/-! ## Fields -/

theorem Schema.declaresName_eq_error_iff {properties : Value} (name : String) :
    (∃ fault, Schema.declaresName properties (.str name) = .error fault) ↔
      properties.isSearchable = false := by
  rw [← Schema.declares_eq_error_iff name]
  cases properties <;> rfl

/-- Fields are only looked for among the inputs when no mapping writes to them. -/
theorem implicitFields_eq_error_iff (properties globals : Value) (names : List String) :
    ∀ mapped : List String,
      (∃ fault, implicitFields properties globals mapped (names.map .str) = .error fault) ↔
        globals.isSearchable = false ∧ ∃ name ∈ names, name ∉ mapped := by
  induction names with
  | nil =>
    intro mapped
    simp [implicitFields]
  | cons name rest ih =>
    intro mapped
    rw [List.map_cons, implicitFields]
    change (∃ fault, (if name ∈ mapped then _ else _) = Except.error fault) ↔ _
    by_cases hmapped : name ∈ mapped
    · rw [if_pos hmapped, ih mapped]
      simp [hmapped]
    · rw [if_neg hmapped]
      have hfree : ∃ other ∈ name :: rest, other ∉ mapped := ⟨name, List.mem_cons_self, hmapped⟩
      rw [and_iff_left hfree]
      cases hdeclared : Schema.declaresName globals (.str name) with
      | error fault =>
        exact ⟨fun _ => (Schema.declaresName_eq_error_iff name).1 ⟨fault, hdeclared⟩,
          fun _ => ⟨fault, rfl⟩⟩
      | ok declared =>
        have hsearch : ¬globals.isSearchable = false := by
          rw [← Schema.declaresName_eq_error_iff name, hdeclared]
          simp
        -- the inputs can be searched for this name, and so for the names after it
        have hrest : ∀ mapped, ∃ fields,
            implicitFields properties globals mapped (rest.map .str) = .ok fields := by
          intro mapped
          cases hfields : implicitFields properties globals mapped (rest.map .str) with
          | ok fields => exact ⟨fields, rfl⟩
          | error fault => exact absurd ((ih mapped).1 ⟨fault, hfields⟩).1 hsearch
        refine ⟨?_, fun h => absurd h hsearch⟩
        rintro ⟨fault, h⟩
        cases declared with
        | true =>
          obtain ⟨fields, hfields⟩ := hrest (name :: mapped)
          change (implicitFields properties globals (name :: mapped) (rest.map .str) >>= _) = _ at h
          rw [hfields] at h
          cases h
        | false =>
          obtain ⟨fields, hfields⟩ := hrest mapped
          change implicitFields properties globals mapped (rest.map .str) = _ at h
          rw [hfields] at h
          cases h

/-- Fields that are no object end in a fault, whatever kind of value they are. -/
theorem exists_fault_of_fields {β : Type} {properties globals : Value} (mapped : List String)
    (kind : properties.isObject = false)
    (rest : List String → List (String × Value) → Except CompileFault β) :
    ∃ fault, (do
      let names ← liftSchema properties.entries
      let fields ← liftSchema (implicitFields properties globals mapped names)
      let defaults ← liftSchema (Schema.defaultsOf properties)
      rest fields defaults) = .error (.badSchema fault) := by
  cases hnames : properties.entries with
  | error fault => exact ⟨fault, rfl⟩
  | ok names =>
    cases hfields : implicitFields properties globals mapped names with
    | error fault => exact ⟨fault, by simp [liftSchema, hfields, bind, Except.bind]⟩
    | ok fields =>
      cases properties with
      | object members => cases kind
      | _ => exact ⟨_, by simp [liftSchema, hfields, Schema.defaultsOf, bind, Except.bind]; rfl⟩

/-! ## Steps -/

section Steps

variable (s : Step) (around : Surroundings)

theorem Step.listed_iff :
    Demand.Met around (.listed s) ↔ ∃ required, Schema.requiredOf s.inputSchema = .ok required := by
  unfold Schema.requiredOf
  change (_ → _) ↔ _
  generalize Members.getD s.inputSchema "required" = required
  cases htruthy : required.isTruthy with
  | false => simp [htruthy]
  | true =>
    cases required <;> simp [htruthy, Value.entries, Value.isSearchable]

/-- A required name that is not a text is missing. -/
theorem nameless_meets {v : Value} (known : Schema.checkName v = .ok ())
    (nameless : ∀ name, v ≠ .str name) (filled : List String) (rest : List Value)
    (demands : List Demand) :
    Meets around (.named s v :: .filled s v :: demands) (checkRequired s.id filled (v :: rest)) := by
  have hends : checkRequired s.id filled (v :: rest) = .error (missing s.id v) := by
    rw [checkRequired, known]
    · rfl
    · exact nameless
  have hmissing : ¬Demand.Met around (.filled s v) := by
    rintro ⟨name, hname, -⟩
    exact nameless name hname
  rw [hends]
  exact Meets.cons ⟨(), known⟩ (Meets.unmet hmissing (Demand.causes_missing s v))

/-- What a step requires is checked one by one: that it can be looked up, and that it is filled. -/
theorem checkRequired_meets {filled : List String}
    (hfilled : ∀ name, name ∈ filled ↔ s.Fills around name) (required : List Value) :
    Meets around (required.flatMap fun v => [.named s v, .filled s v])
      (checkRequired s.id filled required) := by
  induction required with
  | nil => exact .pure ()
  | cons v rest ih =>
    rw [List.flatMap_cons]
    have hmissing : (∀ name, v = .str name → name ∉ filled) → ¬Demand.Met around (.filled s v) := by
      rintro hnone ⟨name, hname, hfills⟩
      exact hnone name hname ((hfilled name).2 hfills)
    cases v with
    | str name =>
      refine Meets.cons ⟨(), rfl⟩ ?_
      rw [checkRequired]
      change Meets around _ (if name ∈ filled then _ else _)
      split
      · next hname => exact Meets.cons ⟨name, rfl, (hfilled name).1 hname⟩ ih
      · next hname =>
        refine Meets.unmet (hmissing ?_) (Demand.causes_missing s _)
        rintro _ ⟨⟩
        exact hname
    | list items => exact Meets.unmet (by simp [Demand.Met, Schema.checkName]) ⟨_, rfl⟩
    | object members => exact Meets.unmet (by simp [Demand.Met, Schema.checkName]) ⟨_, rfl⟩
    | _ => exact nameless_meets s _ rfl (by simp) filled rest _

theorem Definition.unmapped_iff {d : Definition} {id name : String} :
    d.Unmapped id name ↔ name ∉ (d.into (.step id)).map (·.targetHead) := by
  simp [Definition.Unmapped]

/-- The fields that are filled are those that mappings write to, those that take the input of their
name, and those with a default. -/
theorem Step.fills_iff {members : Members} (hmembers : s.fields = .object members)
    {fields : List String} {defaults : List (String × Value)}
    (hfields : implicitFields s.fields (Schema.declared around.inputSchema "properties")
      ((around.definition.into (.step s.id)).map (·.targetHead))
      ((members.map (·.1)).map .str) = .ok fields)
    (hdefaults : Schema.defaultsOf s.fields = .ok defaults) (name : String) :
    name ∈ (around.definition.into (.step s.id)).map (·.targetHead) ++ fields ++
      defaults.map (·.1) ↔ s.Fills around name := by
  have hdefault : s.HasDefault name ↔ name ∈ defaults.map (·.1) := by
    simp [Step.HasDefault, hdefaults]
  have hfield : s.HasField name ↔ name ∈ members.map (·.1) := by
    simp [Step.HasField, hmembers]
  have himplicit : name ∈ fields ↔ name ∈ members.map (·.1) ∧
      name ∉ (around.definition.into (.step s.id)).map (·.targetHead) ∧
      Declares around.inputSchema name := by
    rw [mem_implicitFields_iff _ hfields, List.mem_map_of_injective (fun _ _ h => by cases h; rfl)]
    rfl
  rw [List.mem_append, List.mem_append, Step.Fills, Definition.unmapped_iff, not_not, hfield,
    hdefault, himplicit]
  tauto

/-- The inputs of the run can be searched, or no field has to be looked for among them. -/
theorem Step.inputs_iff {members : Members} (hmembers : s.fields = .object members) :
    Demand.Met around (.inputs s) ↔ ∃ fields,
      implicitFields s.fields (Schema.declared around.inputSchema "properties")
        ((around.definition.into (.step s.id)).map (·.targetHead))
        ((members.map (·.1)).map .str) = .ok fields := by
  have herror := implicitFields_eq_error_iff s.fields
    (Schema.declared around.inputSchema "properties") (members.map (·.1))
    ((around.definition.into (.step s.id)).map (·.targetHead))
  rw [exists_ok_iff, herror]
  have hfield : ∀ name, s.HasField name ↔ name ∈ members.map (·.1) := by
    simp [Step.HasField, hmembers]
  constructor
  · rintro hmet ⟨hunfit, name, hname, hfree⟩
    have hfit := hmet name ((hfield name).2 hname) (Definition.unmapped_iff.2 hfree)
    rw [hunfit] at hfit
    cases hfit
  · intro hnot name hname hfree
    by_contra hunfit
    exact hnot ⟨Bool.not_eq_true _ ▸ hunfit, name, (hfield name).1 hname,
      Definition.unmapped_iff.1 hfree⟩

theorem Step.mapper?_meets : Meets around (s.demands around) (s.mapper? around) := by
  unfold Step.mapper? Step.demands
  refine Meets.bind (Meets.mapM _ fun m _ => m.binding?_meets around) fun explicit _ => ?_
  cases hkind : s.fields.isObject with
  | false =>
    refine Meets.escapes ?_ rfl (exists_fault_of_fields _ hkind _)
    simp [Demand.Met, hkind]
  | true =>
    obtain ⟨members, hmembers⟩ := Value.isObject_iff.1 hkind
    have hnames : s.fields.entries = .ok ((members.map (·.1)).map .str) := by
      rw [hmembers, Value.entries, List.map_map]
      rfl
    obtain ⟨defaults, hdefaults⟩ : ∃ defaults, Schema.defaultsOf s.fields = .ok defaults := by
      rw [hmembers]
      exact ⟨_, rfl⟩
    refine Meets.cons hkind ?_
    change Meets around _ (liftSchema s.fields.entries >>= _)
    rw [hnames]
    change Meets around _ (liftSchema (implicitFields s.fields _ _ _) >>= _)
    have hinputs := Step.inputs_iff s around hmembers
    cases hfields : implicitFields s.fields (Schema.declared around.inputSchema "properties")
        ((around.definition.into (.step s.id)).map (·.targetHead))
        ((members.map (·.1)).map .str) with
    | error fault =>
      refine Meets.escapes (fun hmet => ?_) rfl ⟨fault, rfl⟩
      obtain ⟨fields, hok⟩ := hinputs.1 hmet
      rw [hfields] at hok
      cases hok
    | ok fields =>
      refine Meets.cons (hinputs.2 ⟨fields, hfields⟩) ?_
      change Meets around _ (liftSchema (Schema.defaultsOf s.fields) >>= _)
      rw [hdefaults]
      change Meets around _ (liftSchema (Schema.requiredOf s.inputSchema) >>= _)
      cases hrequired : Schema.requiredOf s.inputSchema with
      | error fault =>
        refine Meets.escapes ?_ rfl ⟨fault, rfl⟩
        simp [Step.listed_iff, hrequired]
      | ok required =>
        refine Meets.cons ((Step.listed_iff s around).2 ⟨required, hrequired⟩) ?_
        rw [Step.required, hrequired]
        have hfills := Step.fills_iff s around hmembers hfields hdefaults
        exact (checkRequired_meets s around hfills required).bind_pure

theorem compileSteps_meets (ids : List String) : ∀ index,
    Meets around
      (ids.flatMap fun id => ((around.definition.step? id).getD default).demands around)
      (compileSteps around index ids) := by
  induction ids with
  | nil => exact fun _ => .pure []
  | cons id rest ih =>
    intro index
    rw [List.flatMap_cons, compileSteps]
    exact (Step.mapper?_meets _ around).bind fun mapper _ => (ih (index + 1)).bind_pure

end Steps

/-! ## Graphs -/

namespace Graph

theorem compile_meets (g : Graph) (schema : Option Members) :
    Meets (g.surroundings schema) (g.demands schema) (g.compile schema) := by
  rw [Graph.compile, linearize_eq]
  refine (compileSteps_meets (g.surroundings schema) g.order 0).bind fun steps _ => ?_
  exact (Meets.mapM _ fun m _ => m.binding?_meets _).bind_pure

end Graph

/-! ## How compiling ends -/

/-- A demand that is not met is reported in words that have a place in a document. A required name
that is infinite or NaN has none. -/
def Demand.Writable : Demand → Prop
  | filled _ v => v.finite = v
  | _ => True

/-- What a demand is reported as says that the workflow cannot be compiled. -/
theorem Demand.trouble_of_report? {d : Demand} {report : CompileFault}
    (h : d.report? = some report) :
    ∃ f, report.trouble = .failure f ∧ f.kind.isCompile = true ∧
      (f.report.finite = f.report ↔ d.Writable) := by
  cases d with
  | transform m =>
    cases h
    exact ⟨_, rfl, rfl, iff_of_true rfl trivial⟩
  | allowed m =>
    rw [report?] at h
    split at h
    all_goals
      cases h
      exact ⟨_, rfl, rfl, iff_of_true rfl trivial⟩
  | filled s v =>
    rw [report?, Option.ite_none_left_eq_some] at h
    obtain ⟨-, ⟨⟩⟩ := h
    refine ⟨_, rfl, rfl, ?_⟩
    simp [Failure.report, Value.finite, Value.finiteMembers, Writable]
  | _ => cases h

theorem GraphFault.isGraph_failure (fault : GraphFault) : fault.failure.kind.isGraph = true := by
  cases fault with
  | unknownStep stepEnd id => cases stepEnd <;> rfl
  | _ => rfl

theorem GraphFault.finite_report (fault : GraphFault) :
    fault.failure.report.finite = fault.failure.report := by
  cases fault with
  | unknownStep stepEnd id => cases stepEnd <;> rfl
  | cycle ids =>
    have htexts : ∀ l : List String, Value.finiteItems (l.map .str) = l.map .str := by
      intro l
      rw [Value.finiteItems_eq, List.map_map]
      rfl
    simp [failure, Failure.report, Value.finite, Value.finiteMembers, Value.ofTexts, htexts]
  | _ => rfl

namespace Definition

/-- Compiling a workflow ends in a fault that nothing reports: the first demand that is not met is
about the shape of a schema, or about a required name that cannot be written. -/
def Escapes (d : Definition) (schema : Option Members) : Prop :=
  ∃ g demand, Graph.ofDefinition d = .ok g ∧
    FirstUnmet (g.surroundings schema) (g.demands schema) demand ∧ demand.report? = none

/-- Compiling a workflow ends in a report that has no place in a document. -/
def Unwritable (d : Definition) (schema : Option Members) : Prop :=
  ∃ g demand, Graph.ofDefinition d = .ok g ∧
    FirstUnmet (g.surroundings schema) (g.demands schema) demand ∧ ¬demand.Writable

/-- How compiling a workflow ends. -/
inductive Ends (d : Definition) (schema : Option Members) : Except Trouble Pipeline → Prop
  /-- All that is demanded is met. -/
  | compiled {g : Graph} {p : Pipeline} (graph : Graph.ofDefinition d = .ok g)
      (met : ∀ demand ∈ g.demands schema, demand.Met (g.surroundings schema)) :
      Ends d schema (.ok p)
  /-- The workflow is not well formed. -/
  | unfit {fault : GraphFault} (graph : Graph.ofDefinition d = .error fault) :
      Ends d schema (.error (.failure fault.failure))
  /-- The first demand that is not met is reported. -/
  | reported {g : Graph} {demand : Demand} {report : CompileFault}
      (graph : Graph.ofDefinition d = .ok g)
      (first : FirstUnmet (g.surroundings schema) (g.demands schema) demand)
      (known : demand.report? = some report) : Ends d schema (.error report.trouble)
  /-- The first demand that is not met is not reported. -/
  | escaped {g : Graph} {demand : Demand} {fault : Fault}
      (graph : Graph.ofDefinition d = .ok g)
      (first : FirstUnmet (g.surroundings schema) (g.demands schema) demand)
      (unknown : demand.report? = none) : Ends d schema (.error (.fault fault))

theorem compile_ends (d : Definition) (schema : Option Members) :
    d.Ends schema (d.compile schema) := by
  unfold Definition.compile
  cases hgraph : Graph.ofDefinition d with
  | error fault => exact .unfit hgraph
  | ok g =>
    have hmeets := g.compile_meets schema
    dsimp only
    cases hcompile : g.compile schema with
    | ok p =>
      rw [hcompile] at hmeets
      exact .compiled hgraph hmeets
    | error e =>
      rw [hcompile] at hmeets
      obtain ⟨demand, hfirst, hcauses⟩ := hmeets
      unfold Demand.Causes at hcauses
      split at hcauses
      · next report hreport =>
        subst hcauses
        exact .reported hgraph hfirst hreport
      · next hreport =>
        obtain ⟨fault, rfl⟩ := hcauses
        exact .escaped hgraph hfirst hreport

theorem Escapes.iff_of_first {d : Definition} {schema : Option Members} {g : Graph}
    {demand : Demand} (graph : Graph.ofDefinition d = .ok g)
    (first : FirstUnmet (g.surroundings schema) (g.demands schema) demand) :
    (d.Escapes schema ↔ demand.report? = none) ∧ (d.Unwritable schema ↔ ¬demand.Writable) := by
  constructor
  · refine ⟨fun ⟨g', demand', graph', first', h⟩ => ?_, fun h => ⟨g, demand, graph, first, h⟩⟩
    cases graph.symm.trans graph'
    exact first.unique first' ▸ h
  · refine ⟨fun ⟨g', demand', graph', first', h⟩ => ?_, fun h => ⟨g, demand, graph, first, h⟩⟩
    cases graph.symm.trans graph'
    exact first.unique first' ▸ h

/-- The status for a failure of a workflow that is not well formed or cannot be compiled. -/
theorem status_of_failure {f : Failure} (kind : f.kind.isGraph = true ∨ f.kind.isCompile = true) :
    (Response.ofTrouble (.failure f)).status = if f.report.finite = f.report then 422 else 500 := by
  have hstatus : Response.statusOf f.kind = 422 := by
    revert kind
    cases f.kind <;> decide
  rw [Response.ofTrouble, Response.ofDocument, hstatus]
  split <;> rfl

/-- Whatever the schemas of a workflow are, the first demand that is not met decides how compiling
it ends. A workflow that does not compile is reported with a failure of the graph or of compiling
unless that demand is about the shape of a schema, and the service answers with the status for such
failures unless nothing is reported or the report has no place in a document. -/
theorem compile_exact (d : Definition) (schema : Option Members) :
    d.Ends schema (d.compile schema) ∧
    ∀ trouble, d.compile schema = .error trouble →
      ((∃ fault, trouble = .fault fault) ↔ d.Escapes schema) ∧
      ((∃ f, trouble = .failure f ∧ (f.kind.isGraph = true ∨ f.kind.isCompile = true)) ↔
        ¬d.Escapes schema) ∧
      ((Response.ofTrouble trouble).status = 422 ↔ ¬d.Escapes schema ∧ ¬d.Unwritable schema) ∧
      ((Response.ofTrouble trouble).status = 500 ↔ d.Escapes schema ∨ d.Unwritable schema) := by
  refine ⟨d.compile_ends schema, fun trouble htrouble => ?_⟩
  have hends := d.compile_ends schema
  rw [htrouble] at hends
  cases hends with
  | @unfit fault graph =>
    have hescapes : ¬d.Escapes schema := fun ⟨g, _, graph', _⟩ => by cases graph.symm.trans graph'
    have hwritable : ¬d.Unwritable schema :=
      fun ⟨g, _, graph', _⟩ => by cases graph.symm.trans graph'
    have hkind := fault.isGraph_failure
    have hstatus := status_of_failure (.inl hkind)
    rw [if_pos fault.finite_report] at hstatus
    simp [hescapes, hwritable, hkind, hstatus]
  | @reported g demand report graph first known =>
    obtain ⟨hescapes, hwritable⟩ := Escapes.iff_of_first graph first
    obtain ⟨f, hf, hkind, hreport⟩ := Demand.trouble_of_report? known
    have hstatus := status_of_failure (.inr hkind)
    rw [hescapes, hwritable, hf, known]
    by_cases hw : demand.Writable
    · rw [if_pos (hreport.2 hw)] at hstatus
      simp [hw, hkind, hstatus]
    · rw [if_neg (hreport.not.2 hw)] at hstatus
      simp [hw, hkind, hstatus]
  | escaped graph first unknown =>
    have hescapes := (Escapes.iff_of_first graph first).1.2 unknown
    simp [hescapes, Response.ofTrouble, Response.crash]

/-! ## A schema that nothing reports -/

/-- A workflow of one step, with a property of the output of which the schema says that it may be
anything. The output of the run is taken from below it. -/
def flagged : Definition where
  id := "w"
  name := "W"
  steps :=
    [{ id := "a", kind := .controlFlow,
       outputSchema := [("properties", .object [("meta", .bool true)])] }]
  mappings :=
    [{ source := .step "a", sourcePath := "meta.author", target := .output, targetPath := "x" }]

/-- The workflow is well formed, and compiling it ends in a fault. -/
theorem flagged_escapes :
    flagged.check = .ok () ∧ flagged.compile none = .error (.fault (.noOperation "bool" "get")) ∧
      (Response.ofTrouble (.fault (.noOperation "bool" "get"))).status = 500 := by
  decide +kernel

end Definition

end Conduit
