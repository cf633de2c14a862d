import Conduit.Proofs.Pipeline.Overwrite

/-!
# What steps are supplied with

A step is compiled only if something fills each field that it requires: a mapping, the input of the
run with the name of the field, or a default. Whether the field is filled in the end is another
matter, for a field that takes the input of its name reads and writes that name as a path. A name
with a dot in it reads and writes elsewhere, and the empty name takes the inputs as a whole, in the
place of everything that was written before.

* `Step.Composed`, `Step.composed_of_mapper?` — what the mapper of a step is made of;
* `Binding.Fills`, `Binding.foldlM_has` — which members bindings write;
* `Binding.ofField_agrees` — fields that take inputs keep what agrees with the inputs;
* `Pipeline.Supply`, `Pipeline.required_supplied` — what becomes of the fields that a step requires.
-/

namespace Conduit

/-! ## What a mapper is made of -/

/-- Every computation of a list that succeeds has its result. -/
theorem exists_of_mapM_eq_ok {ε α β : Type} {f : α → Except ε β} {l : List α} {results : List β}
    (h : l.mapM f = .ok results) : ∀ a ∈ l, ∃ b ∈ results, f a = .ok b := by
  induction l generalizing results with
  | nil => simp
  | cons a rest ih =>
    rw [List.mapM_cons, except_bind_eq_ok] at h
    obtain ⟨first, hfirst, h⟩ := h
    rw [except_bind_eq_ok] at h
    obtain ⟨others, hothers, h⟩ := h
    cases h
    rw [List.forall_mem_cons]
    refine ⟨⟨first, List.mem_cons_self, hfirst⟩, fun c hc => ?_⟩
    obtain ⟨b, hb, hcb⟩ := ih hothers c hc
    exact ⟨b, List.mem_cons_of_mem _ hb, hcb⟩

/-- The fields that take the input of their name are the properties that are not mapped to and that
the inputs declare. -/
theorem mem_implicitFields_iff {properties globals : Value} {name : String} (names : List Value) :
    ∀ {mapped fields : List String}, implicitFields properties globals mapped names = .ok fields →
      (name ∈ fields ↔ .str name ∈ names ∧ name ∉ mapped ∧
        Schema.declaresName globals (.str name) = .ok true) := by
  induction names with
  | nil =>
    intro mapped fields h
    cases h
    simp
  | cons first rest ih =>
    intro mapped fields h
    cases first with
    | str s =>
      rw [implicitFields, except_bind_eq_ok] at h
      obtain ⟨-, -, h⟩ := h
      rw [List.mem_cons, Value.str.injEq]
      split at h
      · next hs =>
        rw [ih h]
        refine and_congr_left fun hfree => (or_iff_right ?_).symm
        rintro rfl
        exact hfree.1 hs
      · next hs =>
        rw [except_bind_eq_ok] at h
        obtain ⟨declared, hdeclared, h⟩ := h
        cases declared with
        | true =>
          rw [if_pos rfl, except_bind_eq_ok] at h
          obtain ⟨more, hmore, h⟩ := h
          cases h
          rw [List.mem_cons, ih hmore, List.mem_cons, not_or]
          -- the first name is one of the fields, and the others are as they are without it
          by_cases hname : name = s
          · subst hname
            simp [hs, hdeclared]
          · simp [hname]
        | false =>
          rw [if_neg Bool.false_ne_true] at h
          rw [ih h]
          refine and_congr_left fun hfree => (or_iff_right ?_).symm
          rintro rfl
          have hname := hfree.2
          rw [hdeclared] at hname
          cases hname
    | _ =>
      rw [implicitFields, except_bind_eq_ok] at h
      · obtain ⟨-, -, h⟩ := h
        rw [except_bind_eq_ok] at h
        obtain ⟨-, -, h⟩ := h
        rw [ih h]
        simp
      · simp

/-- Everything that is required is a name that is filled. -/
theorem mem_of_checkRequired {step : String} {filled : List String} {required : List Value}
    (h : checkRequired step filled required = .ok ()) :
    ∀ v ∈ required, ∃ name ∈ filled, v = .str name := by
  induction required with
  | nil => simp
  | cons first rest ih =>
    cases first with
    | str s =>
      rw [checkRequired, except_bind_eq_ok] at h
      obtain ⟨-, -, h⟩ := h
      split at h
      · next hs =>
        rw [List.forall_mem_cons]
        exact ⟨⟨s, hs, rfl⟩, ih h⟩
      · cases h
    | _ =>
      rw [checkRequired, except_bind_eq_ok] at h
      · obtain ⟨-, -, h⟩ := h
        cases h
      · simp

/-- The names of the inputs that a schema declares. -/
def Declares (schema : Members) (name : String) : Prop :=
  Schema.declaresName (Schema.declared schema "properties") (.str name) = .ok true

/-- No mapping writes to a field of a step. -/
def Definition.Unmapped (d : Definition) (id name : String) : Prop :=
  ∀ m ∈ d.into (.step id), m.targetHead ≠ name

/-- The mapper of a step consists of the bindings of its mappings, then those of the fields that
take the input of their name, over the defaults. These fill all that the step requires. -/
structure Step.Composed (s : Step) (around : Surroundings) (mapper : Mapper)
    (explicit : List Binding) (fields : List String) (required : List Value) : Prop where
  bindings : mapper.bindings = explicit ++ fields.map Binding.ofField
  mapped : (around.definition.into (.step s.id)).mapM (fun m => m.binding? around) = .ok explicit
  distinct : fields.Nodup
  unmapped : ∀ name ∈ fields, around.definition.Unmapped s.id name
  declared : ∀ name ∈ fields, Declares around.inputSchema name
  defaulted : ∀ name ∈ mapper.defaults.map (·.1), around.definition.Unmapped s.id name →
    Declares around.inputSchema name → name ∈ fields
  requires : Schema.requiredOf s.inputSchema = .ok required
  filled : ∀ v ∈ required, ∃ name, v = Value.str name ∧
    (¬around.definition.Unmapped s.id name ∨ name ∈ fields ∨ name ∈ mapper.defaults.map (·.1))

/-- Defaults are those of properties. -/
theorem mem_entries_of_defaults {properties : Value} {defaults : List (String × Value)}
    {names : List Value} (h : Schema.defaultsOf properties = .ok defaults)
    (entries : properties.entries = .ok names) :
    ∀ name ∈ defaults.map (·.1), .str name ∈ names := by
  cases properties with
  | object members =>
    cases h
    cases entries
    intro name hname
    obtain ⟨entry, hentry, rfl⟩ := List.mem_map.1 hname
    obtain ⟨member, hmember, hdefault⟩ := List.mem_filterMap.1 hentry
    refine List.mem_map.2 ⟨member, hmember, ?_⟩
    split at hdefault
    · obtain ⟨v, -, rfl⟩ := Option.map_eq_some_iff.1 hdefault
      rfl
    · cases hdefault
  | _ => cases h

theorem liftSchema_eq_ok {α : Type} {x : Except Fault α} {a : α} :
    liftSchema x = .ok a ↔ x = .ok a := by
  cases x <;> simp [liftSchema]

theorem Step.composed_of_mapper? {s : Step} {around : Surroundings} {mapper : Mapper}
    (h : s.mapper? around = .ok mapper) :
    ∃ explicit fields required, s.Composed around mapper explicit fields required := by
  rw [Step.mapper?] at h
  simp only [except_bind_eq_ok, liftSchema_eq_ok] at h
  obtain ⟨explicit, hexplicit, names, hnames, fields, hfields, defaults, hdefaults, required,
    hrequired, ⟨⟩, hfilled, h⟩ := h
  cases h
  have hunmapped : ∀ name, around.definition.Unmapped s.id name ↔
      name ∉ (around.definition.into (.step s.id)).map (·.targetHead) := fun name => by
    simp [Definition.Unmapped]
  have hmem : ∀ name, name ∈ fields ↔ _ := fun name => mem_implicitFields_iff names hfields
  refine ⟨explicit, fields, required, rfl, hexplicit, (implicitFields_spec names _ _ hfields).1, ?_,
    fun name hname => ((hmem name).1 hname).2.2, ?_, hrequired, fun v hv => ?_⟩
  · exact fun name hname => (hunmapped name).2 ((hmem name).1 hname).2.1
  · intro name hname hfree hdeclared
    exact (hmem name).2
      ⟨mem_entries_of_defaults hdefaults hnames name hname, (hunmapped name).1 hfree, hdeclared⟩
  · obtain ⟨name, hname, rfl⟩ := mem_of_checkRequired hfilled v hv
    refine ⟨name, rfl, ?_⟩
    rw [List.mem_append, List.mem_append, or_assoc] at hname
    exact hname.imp_left fun hmapped hfree => (hunmapped name).1 hfree hmapped

/-! ## What bindings write -/

namespace Binding

/-- A binding writes to the member that its path begins with. -/
def Fills (b : Binding) (outputs : String → Option Value) (inputs : Members) (name : String) :
    Prop :=
  b.Writes outputs inputs ∧ ∃ q, Path.split b.target = .ok (name :: q)

variable {outputs : String → Option Value} {inputs : Members}

/-- A binding leaves what was built as it is if its source is not there, and else writes. -/
theorem run_cases {b : Binding} {result after : Value}
    (h : b.run outputs inputs result = .ok after) :
    (¬b.Writes outputs inputs ∧ after = result) ∨
      ∃ v w, b.resolve outputs inputs = .ok (some v) ∧ b.convert v = .ok w ∧
        b.write result w = .ok after := by
  unfold run at h
  split at h
  · cases h
  · next hresolve =>
    cases h
    refine .inl ⟨?_, rfl⟩
    rintro ⟨v, hv⟩
    rw [hresolve] at hv
    cases hv
  · next v hresolve =>
    split at h
    · cases h
    · next w hconvert => exact .inr ⟨v, w, hresolve, hconvert, h⟩

/-- A binding with a place of its own adds the member that its path begins with. -/
theorem run_has {b : Binding} {members : Members} {after : Value}
    (placed : Path.split b.target ≠ .ok [])
    (h : b.run outputs inputs (.object members) = .ok after) :
    ∃ written : Members, after = .object written ∧
      ∀ name, written.has name = true ↔ members.has name = true ∨ b.Fills outputs inputs name := by
  rcases run_cases h with ⟨hsilent, rfl⟩ | ⟨v, w, hresolve, -, hwrite⟩
  · refine ⟨members, rfl, fun name => ?_⟩
    simp [Fills, hsilent]
  · rcases write_cases hwrite with ⟨hsplit, -⟩ | ⟨a, q, written, hsplit, rfl, hassign⟩
    · exact absurd hsplit placed
    · obtain ⟨x, hput⟩ := Path.exists_put_of_assign hassign
      cases hput
      refine ⟨_, rfl, fun name => ?_⟩
      rw [Members.has_set, or_comm]
      refine or_congr_right ⟨?_, ?_⟩
      · rintro rfl
        exact ⟨⟨v, hresolve⟩, q, hsplit⟩
      · rintro ⟨-, q', hsplit'⟩
        rw [hsplit] at hsplit'
        cases hsplit'
        rfl

/-- What is built has the members that were there before, and those that the bindings fill. -/
theorem foldlM_has {bindings : List Binding} {members : Members} {built : Value}
    (placed : ∀ b ∈ bindings, Path.split b.target ≠ .ok [])
    (h : bindings.foldlM (fun result b => b.run outputs inputs result) (.object members) =
      .ok built) :
    ∃ written : Members, built = .object written ∧ ∀ name, written.has name = true ↔
      members.has name = true ∨ ∃ b ∈ bindings, b.Fills outputs inputs name := by
  induction bindings generalizing members with
  | nil =>
    cases h
    exact ⟨members, rfl, by simp⟩
  | cons b rest ih =>
    rw [List.forall_mem_cons] at placed
    rw [List.foldlM_cons, except_bind_eq_ok] at h
    obtain ⟨after, hrun, h⟩ := h
    obtain ⟨written, rfl, hwritten⟩ := run_has placed.1 hrun
    obtain ⟨more, rfl, hmore⟩ := ih placed.2 h
    refine ⟨more, rfl, fun name => ?_⟩
    rw [hmore, hwritten]
    simp [or_assoc]

/-! ## Fields that take inputs -/

/-- A field that takes the input of its name, read as a path, writes what it reads. -/
theorem ofField_run_cases {name : String} {members : Members} {after : Value}
    (h : (ofField name).run outputs inputs (.object members) = .ok after) :
    after = .object members ∨ (Path.split name = .ok [] ∧ after = .object inputs) ∨
      ∃ a q v written, Path.split name = .ok (a :: q) ∧
        Path.get? (.object inputs) (a :: q) = .ok (some v) ∧ after = .object written ∧
        Path.assign (.object members) (a :: q) v = (.object written, none) := by
  rcases run_cases h with ⟨-, rfl⟩ | ⟨v, w, hresolve, hconvert, hwrite⟩
  · exact .inl rfl
  · cases hconvert
    have hread : Path.lookup? (.object inputs) name = .ok (some v) := hresolve
    unfold Path.lookup? at hread
    rcases write_cases hwrite with ⟨hsplit, rfl⟩ | ⟨a, q, written, hsplit, rfl, hassign⟩
    · have hsplit : Path.split name = .ok [] := hsplit
      rw [hsplit] at hread
      cases hread
      exact .inr (.inl ⟨hsplit, rfl⟩)
    · have hsplit : Path.split name = .ok (a :: q) := hsplit
      rw [hsplit] at hread
      exact .inr (.inr ⟨a, q, v, written, hsplit, hread, rfl, hassign⟩)

/-- A member that agrees with the inputs still does after a field took an input: what the field
writes below the member is there already. -/
theorem ofField_agrees {field name : String} {members : Members} {after : Value}
    (agrees : members.get? name = inputs.get? name)
    (h : (ofField field).run outputs inputs (.object members) = .ok after) :
    ∃ written : Members, after = .object written ∧ written.get? name = inputs.get? name := by
  rcases ofField_run_cases h with rfl | ⟨-, rfl⟩ | ⟨a, q, v, written, -, hread, rfl, hassign⟩
  · exact ⟨members, rfl, agrees⟩
  · exact ⟨inputs, rfl, rfl⟩
  · refine ⟨written, rfl, ?_⟩
    by_cases hname : name = a
    · subst hname
      obtain ⟨part, holds, hinner⟩ := Path.get?_cons_eq_some_iff.1 hread
      cases holds with
      | member there =>
        have hpresent : Path.get? (.object members) (name :: q) = .ok (some v) :=
          Path.get?_cons_eq_some_iff.2 ⟨part, .member (agrees.trans there), hinner⟩
        rw [Path.assign_eq_self hpresent] at hassign
        cases hassign
        exact agrees
    · obtain ⟨x, hput⟩ := Path.exists_put_of_assign hassign
      cases hput
      rw [Members.get?_set_of_ne members x hname]
      exact agrees

/-- Members that agree with the inputs still do after several fields took theirs. -/
theorem foldlM_agrees {fields : List String} {name : String} {members : Members} {built : Value}
    (agrees : members.get? name = inputs.get? name)
    (h : (fields.map ofField).foldlM (fun result b => b.run outputs inputs result)
      (.object members) = .ok built) :
    ∃ written : Members, built = .object written ∧ written.get? name = inputs.get? name := by
  induction fields generalizing members with
  | nil =>
    cases h
    exact ⟨members, rfl, agrees⟩
  | cons field rest ih =>
    rw [List.map_cons, List.foldlM_cons, except_bind_eq_ok] at h
    obtain ⟨after, hrun, h⟩ := h
    obtain ⟨written, rfl, hwritten⟩ := ofField_agrees agrees hrun
    exact ih hwritten h

/-- Fields that take inputs leave the inputs themselves as they are. -/
theorem foldlM_inputs {fields : List String} {built : Value}
    (h : (fields.map ofField).foldlM (fun result b => b.run outputs inputs result)
      (.object inputs) = .ok built) : built = .object inputs := by
  induction fields with
  | nil =>
    cases h
    rfl
  | cons field rest ih =>
    rw [List.map_cons, List.foldlM_cons, except_bind_eq_ok] at h
    obtain ⟨after, hrun, h⟩ := h
    have hsame : after = .object inputs := by
      rcases ofField_run_cases hrun with rfl | ⟨-, rfl⟩ | ⟨a, q, v, written, -, hread, rfl, hassign⟩
      · rfl
      · rfl
      · exact (congrArg Prod.fst (hassign.symm.trans (Path.assign_eq_self hread)) :)
    rw [hsame] at h
    exact ih h

/-- A field of the empty name takes the inputs as a whole. -/
theorem ofField_empty_run {result after : Value}
    (h : (ofField "").run outputs inputs result = .ok after) : after = .object inputs := by
  cases h
  rfl

/-- A field whose name is one segment takes the input of its name. -/
theorem ofField_run_plain {name : String} {members : Members} {after : Value}
    (plain : Path.split name = .ok [name]) (there : inputs.has name = true)
    (h : (ofField name).run outputs inputs (.object members) = .ok after) :
    ∃ written : Members, after = .object written ∧ written.get? name = inputs.get? name := by
  obtain ⟨v, hv⟩ := Option.isSome_iff_exists.1 there
  have hread : Path.get? (.object inputs) [name] = .ok (some v) :=
    Path.get?_cons_eq_some_iff.2 ⟨v, .member hv, rfl⟩
  have hresolve : (ofField name).resolve outputs inputs = .ok (some v) := by
    show Path.lookup? (.object inputs) name = _
    rw [Path.lookup?, plain]
    exact hread
  rcases run_cases h with ⟨hsilent, -⟩ | ⟨v', w, hresolve', hconvert, hwrite⟩
  · exact absurd ⟨v, hresolve⟩ hsilent
  · rw [hresolve] at hresolve'
    cases hresolve'
    cases hconvert
    obtain ⟨p, hsplit, hstands⟩ := stands_write hwrite
    cases plain.symm.trans hsplit
    obtain ⟨written, rfl⟩ := hstands.object (List.cons_ne_nil _ _)
    obtain ⟨u, holds, hinner⟩ := Path.get?_cons_eq_some_iff.1 hstands.read
    cases hinner
    cases holds with
    | member there => exact ⟨written, rfl, there.trans hv.symm⟩

end Binding

/-! ## Building the input of a step -/

/-- The binding of a mapping into a step has a place of its own, below the member of its target. -/
theorem Mapping.exists_split {m : Mapping} {around : Surroundings} {b : Binding} {id : String}
    (fits : m.PathsFit) (into : m.target = .step id) (h : m.binding? around = .ok b) :
    ∃ q, Path.split b.target = .ok (m.targetHead :: q) := by
  obtain ⟨segments, hsegments, hempty⟩ := fits.target
  rw [(Mapping.binding?_eq h).1, Mapping.targetHead, Mapping.targetSegments, hsegments]
  cases segments with
  | nil =>
    rw [into] at hempty
    cases hempty rfl
  | cons a q => exact ⟨q, rfl⟩

namespace Step.Composed

variable {s : Step} {around : Surroundings} {mapper : Mapper} {explicit : List Binding}
  {fields : List String} {required : List Value} {outputs : String → Option Value}
  {inputs : Members} {built : Value}

/-- If a field of a step has the empty name, the step is given the inputs as a whole. -/
theorem build_whole (h : s.Composed around mapper explicit fields required) (whole : "" ∈ fields)
    (builds : mapper.build outputs inputs = .ok built) : built = .object inputs := by
  obtain ⟨front, back, rfl⟩ := List.append_of_mem whole
  rw [Mapper.build, h.bindings, List.map_append, List.map_cons, ← List.append_assoc,
    List.foldlM_append, except_bind_eq_ok] at builds
  obtain ⟨before, -, builds⟩ := builds
  rw [List.foldlM_cons, except_bind_eq_ok] at builds
  obtain ⟨after, hrun, hback⟩ := builds
  rw [Binding.ofField_empty_run hrun] at hback
  exact Binding.foldlM_inputs hback

/-- Bindings of a step have places of their own, unless a field has the empty name. -/
theorem placed (h : s.Composed around mapper explicit fields required)
    (valid : around.definition.Valid) (parts : "" ∉ fields) :
    ∀ b ∈ mapper.bindings, Path.split b.target ≠ .ok [] := by
  intro b hb
  rw [h.bindings] at hb
  rcases List.mem_append.1 hb with hb | hb
  · obtain ⟨m, hm, hbinding⟩ := mem_of_mapM_eq_ok h.mapped b hb
    obtain ⟨hmapping, htarget⟩ := List.mem_filter.1 hm
    obtain ⟨q, hsplit⟩ :=
      Mapping.exists_split (valid.mappings m hmapping).2 (beq_iff_eq.1 htarget) hbinding
    rw [hsplit]
    exact fun hnil => by cases hnil
  · obtain ⟨name, hname, rfl⟩ := List.mem_map.1 hb
    intro hsplit
    have hsplit : Path.split name = .ok [] := hsplit
    rw [Path.split_eq_nil_iff] at hsplit
    exact parts (hsplit ▸ hname)

/-- The input of a step has the members that have defaults, and those that bindings fill. -/
theorem build_has (h : s.Composed around mapper explicit fields required)
    (valid : around.definition.Valid) (parts : "" ∉ fields)
    (builds : mapper.build outputs inputs = .ok built) :
    ∃ members : Members, built = .object members ∧ ∀ name, members.has name = true ↔
      name ∈ mapper.defaults.map (·.1) ∨
        ∃ b ∈ mapper.bindings, b.Fills outputs inputs name := by
  obtain ⟨members, rfl, hmembers⟩ := Binding.foldlM_has (h.placed valid parts) builds
  refine ⟨members, rfl, fun name => ?_⟩
  rw [hmembers, Members.has_ofPairs]

/-- A field whose name is one segment is given the input of its name. -/
theorem build_plain (h : s.Composed around mapper explicit fields required)
    (valid : around.definition.Valid) (parts : "" ∉ fields)
    (builds : mapper.build outputs inputs = .ok built) {name : String} (field : name ∈ fields)
    (plain : Path.split name = .ok [name]) (there : inputs.has name = true) :
    ∃ members : Members, built = .object members ∧ members.get? name = inputs.get? name := by
  obtain ⟨front, back, rfl⟩ := List.append_of_mem field
  have hplaced := h.placed valid parts
  rw [h.bindings, List.map_append, List.map_cons, ← List.append_assoc] at hplaced
  rw [Mapper.build, h.bindings, List.map_append, List.map_cons, ← List.append_assoc,
    List.foldlM_append, except_bind_eq_ok] at builds
  obtain ⟨before, hfront, builds⟩ := builds
  obtain ⟨members, rfl, -⟩ :=
    Binding.foldlM_has (fun b hb => hplaced b (List.mem_append_left _ hb)) hfront
  rw [List.foldlM_cons, except_bind_eq_ok] at builds
  obtain ⟨after, hrun, hback⟩ := builds
  obtain ⟨written, rfl, hwritten⟩ := Binding.ofField_run_plain plain there hrun
  exact Binding.foldlM_agrees hwritten hback

/-- Every mapping that writes something fills the member of its target. -/
theorem fills (h : s.Composed around mapper explicit fields required)
    (valid : around.definition.Valid)
    (resolves : ∀ b ∈ mapper.bindings, b.implicit = false → b.Writes outputs inputs) {name : String}
    (mapped : ¬around.definition.Unmapped s.id name) :
    ∃ b ∈ mapper.bindings, b.Fills outputs inputs name := by
  rw [Definition.Unmapped] at mapped
  push Not at mapped
  obtain ⟨m, hm, rfl⟩ := mapped
  obtain ⟨b, hb, hbinding⟩ := exists_of_mapM_eq_ok h.mapped m hm
  obtain ⟨hmapping, htarget⟩ := List.mem_filter.1 hm
  have hmem : b ∈ mapper.bindings := by
    rw [h.bindings]
    exact List.mem_append_left _ hb
  exact ⟨b, hmem, resolves b hmem (Mapping.binding?_eq hbinding).2,
    Mapping.exists_split (valid.mappings m hmapping).2 (beq_iff_eq.1 htarget) hbinding⟩

end Step.Composed

namespace Pipeline

/-- A pipeline has the schema of inputs that it is compiled against. -/
theorem inputSchema_of_graph {g : Graph} {schema : Option Members} {p : Pipeline}
    (h : g.compile schema = .ok p) : p.inputSchema = (g.surroundings schema).inputSchema := by
  rw [Graph.compile] at h
  simp only [except_bind_eq_ok] at h
  obtain ⟨order, -, steps, -, outputs, -, h⟩ := h
  cases h
  rfl

/-- What becomes of a field that a step requires. It is there, and it is the input of its name if no
mapping writes to it and there is such an input. Otherwise that input is read at the path that the
name stands for, which is another place, and the field is there only if something else fills it; or
a field of the empty name has put the inputs in the place of all that was written. -/
inductive Supply (d : Definition) (p : Pipeline) (s : PipelineStep)
    (outputs : String → Option Value) (inputs members : Members) (name : String) : Prop
  | given (there : members.has name = true)
      (input : d.Unmapped s.step.id name → Declares p.inputSchema name →
        members.get? name = inputs.get? name)
  | misread (field : .ofField name ∈ s.mapper.bindings) (odd : Path.split name ≠ .ok [name])
      (there : members.has name = true ↔ name ∈ s.mapper.defaults.map (·.1) ∨
        ∃ b ∈ s.mapper.bindings, b.Fills outputs inputs name)
  | replaced (field : .ofField "" ∈ s.mapper.bindings) (whole : members = inputs)
      (missing : inputs.has name = false)

/-- When a step of a compiled workflow is given an input, all mappings into the step write something
and there is an input for every name that is declared, whatever the step requires is there, and is
the input of its name if nothing is mapped to it, except where the name is no path of one segment or
the step has a field of the empty name. -/
theorem required_supplied {d : Definition} {schema : Option Members} {p : Pipeline}
    (compiled : d.compile schema = .ok p) {s : PipelineStep} (hs : s ∈ p.steps)
    {outputs : String → Option Value} {inputs : Members}
    (declared : ∀ name, Declares p.inputSchema name → inputs.has name = true)
    (resolves : ∀ b ∈ s.mapper.bindings, b.implicit = false → b.Writes outputs inputs)
    {built : Value} (builds : s.mapper.build outputs inputs = .ok built) :
    ∃ members required, built = .object members ∧
      Schema.requiredOf s.step.inputSchema = .ok required ∧
      ∀ v ∈ required, ∃ name, v = .str name ∧ Supply d p s outputs inputs members name := by
  obtain ⟨g, rfl, hg⟩ := exists_graph_of_compile compiled
  obtain ⟨explicit, fields, required, hcomposed⟩ :=
    Step.composed_of_mapper? ((Graph.compiles hg).steps s hs).1
  have hvalid : (g.surroundings schema).definition.Valid := g.valid
  have hfield : ∀ name ∈ fields, .ofField name ∈ s.mapper.bindings := fun name hname => by
    rw [hcomposed.bindings]
    exact List.mem_append_right _ (List.mem_map_of_mem hname)
  have hthere : ∀ name ∈ fields, inputs.has name = true := fun name hname =>
    declared name (inputSchema_of_graph hg ▸ hcomposed.declared name hname)
  by_cases hwhole : "" ∈ fields
  · -- the input of the step is that of the run, which has every name or lacks it
    cases hcomposed.build_whole hwhole builds
    refine ⟨inputs, required, rfl, hcomposed.requires, fun v hv => ?_⟩
    obtain ⟨name, rfl, -⟩ := hcomposed.filled v hv
    refine ⟨name, rfl, ?_⟩
    cases hname : inputs.has name with
    | true => exact .given hname fun _ _ => rfl
    | false => exact .replaced (hfield "" hwhole) rfl hname
  · obtain ⟨members, rfl, hmembers⟩ := hcomposed.build_has hvalid hwhole builds
    refine ⟨members, required, rfl, hcomposed.requires, fun v hv => ?_⟩
    obtain ⟨name, rfl, hfilled⟩ := hcomposed.filled v hv
    refine ⟨name, rfl, ?_⟩
    by_cases hname : name ∈ fields
    · by_cases hplain : Path.split name = .ok [name]
      · obtain ⟨_, ⟨⟩, hinput⟩ :=
          hcomposed.build_plain hvalid hwhole builds hname hplain (hthere name hname)
        refine .given ?_ fun _ _ => hinput
        rw [Members.has, hinput]
        exact hthere name hname
      · exact .misread (hfield name hname) hplain (hmembers name)
    · rcases hfilled with hmapped | hname' | hdefault
      · exact .given ((hmembers name).2 (.inr (hcomposed.fills hvalid resolves hmapped)))
          fun hfree => absurd hfree hmapped
      · exact absurd hname' hname
      · refine .given ((hmembers name).2 (.inl hdefault)) fun hfree hdeclared => ?_
        -- a field with a default takes the input of its name if there is one
        rw [inputSchema_of_graph hg] at hdeclared
        exact absurd (hcomposed.defaulted name hdefault hfree hdeclared) hname

/-! ## A field that is not supplied -/

/-- The schema of objects with the members `n` and `b.c`. -/
def dottedSchema : Members :=
  [("properties", .object [("n", .object []), ("b.c", .object [])]),
    ("required", .list [.str "n", .str "b.c"])]

/-- A workflow of one step that requires the inputs `n` and `b.c` of the run. -/
def dotted : Definition where
  id := "w"
  name := "W"
  steps := [{ id := "a", kind := .controlFlow, inputSchema := dottedSchema }]
  inputSchema := dottedSchema

/-- The step in the pipeline of that workflow. -/
def dottedStep : PipelineStep where
  index := 0
  step := { id := "a", kind := .controlFlow, inputSchema := dottedSchema }
  mapper := { bindings := [.ofField "n", .ofField "b.c"] }
  dependsOn := []

/-- The pipeline of that workflow. -/
def dottedPipeline : Pipeline where
  workflowId := "w"
  workflowName := "W"
  steps := [dottedStep]
  inputSchema := dottedSchema
  outputMapper := none

/-- Inputs of both names. -/
def dottedInputs : Members := [("n", .int 1), ("b.c", .int 2)]

theorem dotted_compile : dotted.compile none = .ok dottedPipeline := by
  decide +kernel

theorem dotted_build :
    dottedStep.mapper.build (fun _ => none) dottedInputs = .ok (.object [("n", .int 1)]) := by
  decide +kernel

theorem dotted_declared (name : String) (h : Declares dottedPipeline.inputSchema name) :
    dottedInputs.has name = true := by
  have h : Members.has [("n", .object []), ("b.c", .object [])] name = true := Except.ok.inj h
  revert h
  simp only [Members.has, dottedInputs, Members.get?]
  split <;> [simp; split <;> simp]

theorem required_supplied_dotted :
    ∃ members required, Value.object [("n", .int 1)] = .object members ∧
      Schema.requiredOf dottedStep.step.inputSchema = .ok required ∧
      ∀ v ∈ required, ∃ name, v = .str name ∧
        Supply dotted dottedPipeline dottedStep (fun _ => none) dottedInputs members name := by
  refine required_supplied dotted_compile List.mem_cons_self dotted_declared ?_ dotted_build
  intro b hb himplicit
  have hfields : ∀ b ∈ dottedStep.mapper.bindings, b.implicit = true := by decide
  rw [hfields b hb] at himplicit
  cases himplicit

/-- The step requires `b.c` and the input of this name is there, but it is read at the member `c` of
a member `b`, and the step is not given it. -/
theorem dotted_not_supplied :
    dotted.compile none = .ok dottedPipeline ∧ dottedStep ∈ dottedPipeline.steps ∧
      (∀ name, Declares dottedPipeline.inputSchema name → dottedInputs.has name = true) ∧
      Schema.requiredOf dottedStep.step.inputSchema = .ok [.str "n", .str "b.c"] ∧
      dotted.Unmapped "a" "b.c" ∧ dottedInputs.has "b.c" = true ∧
      ∃ members : Members,
        dottedStep.mapper.build (fun _ => none) dottedInputs = .ok (.object members) ∧
        members.has "b.c" = false := by
  refine ⟨dotted_compile, List.mem_cons_self, dotted_declared, by decide +kernel, ?_,
    by decide +kernel, [("n", .int 1)], dotted_build, by decide +kernel⟩
  intro m hm
  cases hm

end Pipeline

end Conduit
