import Conduit.Proofs.Pipeline.Demands

/-!
# Requirements that nothing fills

Compiling a graph reports a missing input where a step requires a field that nothing fills. That is
so where no mapping writes to the field, the inputs of the run have none of its name, and the step
has no default for it. It is also so where the inputs have one of its name, but the step requires
the field without declaring it: only declared fields take the input of their name.

* `FirstUnmet.of_flatMap` — the part of the demands in which the first unmet one is found;
* `Graph.Passes`, `Step.Shaped` — mappings and schemas about which nothing is to be said;
* `Step.Unprovided`, `Step.Untaken` — the two ways in which a required field is not filled;
* `Graph.misses_input_iff` — when a missing input is reported.
-/

namespace Conduit

/-! ## Where the first unmet demand is found -/

namespace FirstUnmet

variable {around : Surroundings} {d : Demand}

theorem mem {demands : List Demand} (h : FirstUnmet around demands d) : d ∈ demands := by
  obtain ⟨front, back, rfl, -⟩ := h
  exact List.mem_append_right _ List.mem_cons_self

theorem not_met {demands : List Demand} (h : FirstUnmet around demands d) : ¬d.Met around := by
  obtain ⟨front, back, -, -, hunmet⟩ := h
  exact hunmet

/-- The first unmet demand is among the former ones, or all of these are met. -/
theorem of_append {demands more : List Demand} (h : FirstUnmet around (demands ++ more) d) :
    FirstUnmet around demands d ∨
      (∀ other ∈ demands, other.Met around) ∧ FirstUnmet around more d := by
  obtain ⟨front, back, hsplit, hbefore, hunmet⟩ := h
  rcases List.append_eq_append_iff.1 hsplit with ⟨middle, rfl, hmore⟩ | ⟨middle, rfl, hrest⟩
  · rw [List.forall_mem_append] at hbefore
    exact .inr ⟨hbefore.1, middle, back, hmore, hbefore.2, hunmet⟩
  · cases middle with
    | nil =>
      rw [List.append_nil]
      exact .inr ⟨hbefore, [], back, by simpa using hrest.symm, by simp, hunmet⟩
    | cons first middle =>
      obtain ⟨rfl, -⟩ := List.cons.inj hrest
      exact .inl ⟨front, middle, rfl, hbefore, hunmet⟩

/-- The first unmet demand of a list of parts is the first one of a part, and the parts before are
met. -/
theorem of_flatMap {ι : Type} {wants : ι → List Demand} {parts : List ι}
    (h : FirstUnmet around (parts.flatMap wants) d) :
    ∃ front part back, parts = front ++ part :: back ∧
      (∀ other ∈ front, ∀ demand ∈ wants other, demand.Met around) ∧
      FirstUnmet around (wants part) d := by
  induction parts with
  | nil => exact absurd h.mem List.not_mem_nil
  | cons first rest ih =>
    rw [List.flatMap_cons] at h
    rcases h.of_append with hfirst | ⟨hmet, hrest⟩
    · exact ⟨[], first, rest, rfl, by simp, hfirst⟩
    · obtain ⟨front, part, back, rfl, hbefore, hpart⟩ := ih hrest
      exact ⟨first :: front, part, back, rfl, List.forall_mem_cons.2 ⟨hmet, hbefore⟩, hpart⟩

end FirstUnmet

/-- Where a list is split twice, the first item of one rest is the other's or stands before it. -/
theorem mem_of_split {α : Type} {front front' back back' : List α} {a b : α}
    (split : front ++ a :: back = front' ++ b :: back') (later : b ∉ front) :
    a ∈ front' ++ [b] := by
  induction front generalizing front' with
  | nil =>
    cases front' with
    | nil =>
      obtain ⟨rfl, -⟩ := List.cons.inj split
      exact List.mem_cons_self
    | cons c front' =>
      obtain ⟨rfl, -⟩ := List.cons.inj split
      exact List.mem_cons_self
  | cons c front ih =>
    rw [List.mem_cons, not_or] at later
    cases front' with
    | nil =>
      obtain ⟨rfl, -⟩ := List.cons.inj split
      exact absurd rfl later.1
    | cons d front' => exact List.mem_cons_of_mem _ (ih (List.cons.inj split).2 later.2)

/-! ## Mappings and schemas about which nothing is to be said -/

/-- The transforms of all mappings are known, and the schemas of their sources can be followed along
their paths and allow them. -/
def Graph.Passes (g : Graph) (schema : Option Members) : Prop :=
  ∀ m ∈ g.definition.mappings, ∀ d ∈ m.demands, d.Met (g.surroundings schema)

/-- The fields that a step declares are an object, if there are any, and what it requires is a list
of names. -/
structure Step.Shaped (s : Step) : Prop where
  properties : ∀ v, Members.get? s.inputSchema "properties" = some v → ∃ fields, v = .object fields
  required : ∀ v, Members.get? s.inputSchema "required" = some v →
    ∃ names : List String, v = .ofTexts names

/-- Something required is filled by nothing: no mapping writes to it, the inputs of the run have
none of its name, and the step has no default for it. -/
structure Step.Unprovided (s : Step) (around : Surroundings) (name : String) : Prop where
  required : .str name ∈ s.required
  unmapped : around.definition.Unmapped s.id name
  undeclared : ¬Declares around.inputSchema name
  undefaulted : ¬s.HasDefault name

/-- Something required is filled by nothing, though the inputs of the run have one of its name: the
step does not declare it as a field. -/
structure Step.Untaken (s : Step) (around : Surroundings) (name : String) : Prop where
  required : .str name ∈ s.required
  unmapped : around.definition.Unmapped s.id name
  declared : Declares around.inputSchema name
  unknown : ¬s.HasField name

theorem Step.HasDefault.hasField {s : Step} {name : String} (h : s.HasDefault name) :
    s.HasField name := by
  obtain ⟨defaults, hdefaults, hname⟩ := h
  cases hfields : s.fields with
  | object members =>
    rw [hfields] at hdefaults
    cases hdefaults
    obtain ⟨entry, hentry, rfl⟩ := List.mem_map.1 hname
    obtain ⟨m, hm, hproperty⟩ := List.mem_filterMap.1 hentry
    refine ⟨members, hfields, ?_⟩
    split at hproperty
    · obtain ⟨v, -, rfl⟩ := Option.map_eq_some_iff.1 hproperty
      exact List.mem_map.2 ⟨m, hm, rfl⟩
    · cases hproperty
  | _ =>
    rw [hfields] at hdefaults
    cases hdefaults

/-- What is required and not filled is not provided or not taken. -/
theorem Step.not_fills_iff {s : Step} {around : Surroundings} {name : String}
    (required : .str name ∈ s.required) :
    ¬s.Fills around name ↔ s.Unprovided around name ∨ s.Untaken around name := by
  unfold Step.Fills
  constructor
  · intro h
    rw [not_or, not_or, not_not] at h
    obtain ⟨hunmapped, hinput, hdefault⟩ := h
    by_cases hdeclared : Declares around.inputSchema name
    · exact .inr ⟨required, hunmapped, hdeclared, fun hfield => hinput ⟨hfield, hdeclared⟩⟩
    · exact .inl ⟨required, hunmapped, hdeclared, hdefault⟩
  · rintro (h | h)
    · rintro (hmapped | ⟨-, hdeclared⟩ | hdefault)
      · exact hmapped h.unmapped
      · exact h.undeclared hdeclared
      · exact h.undefaulted hdefault
    · rintro (hmapped | ⟨hfield, -⟩ | hdefault)
      · exact hmapped h.unmapped
      · exact h.unknown hfield
      · exact h.unknown hdefault.hasField

namespace Step.Shaped

variable {s : Step} (h : s.Shaped)

include h

theorem isObject_fields : s.fields.isObject = true := by
  unfold Step.fields Schema.declared Members.getD
  cases hproperties : Members.get? s.inputSchema "properties" with
  | none => rfl
  | some v =>
    obtain ⟨fields, rfl⟩ := h.properties v hproperties
    exact congrArg Value.isObject (Schema.orEmpty_object fields)

theorem listed (around : Surroundings) : Demand.Met around (.listed s) := by
  intro htruthy
  unfold Members.getD at htruthy ⊢
  cases hrequired : Members.get? s.inputSchema "required" with
  | none =>
    rw [hrequired] at htruthy
    cases htruthy
  | some v =>
    obtain ⟨names, rfl⟩ := h.required v hrequired
    rfl

theorem exists_name {v : Value} (hv : v ∈ s.required) : ∃ name, v = .str name := by
  unfold Step.required Schema.requiredOf Members.getD at hv
  cases hrequired : Members.get? s.inputSchema "required" with
  | none =>
    rw [hrequired] at hv
    cases hv
  | some u =>
    obtain ⟨names, rfl⟩ := h.required u hrequired
    rw [hrequired] at hv
    dsimp only [Option.getD_some] at hv
    split at hv
    · obtain ⟨name, -, rfl⟩ := List.mem_map.1 hv
      exact ⟨name, rfl⟩
    · cases hv

/-- Of a step in shape only two demands can be unmet: that its fields can be looked for among the
inputs, and that what it requires is filled. -/
theorem of_unmet {around : Surroundings} {d : Demand}
    (passes : ∀ m ∈ around.definition.into (.step s.id), ∀ x ∈ m.demands, x.Met around)
    (hd : d ∈ s.demands around) (unmet : ¬d.Met around) :
    d = .inputs s ∨ ∃ name, .str name ∈ s.required ∧ d = .filled s (.str name) := by
  unfold Step.demands at hd
  rcases List.mem_append.1 hd with hd | hd
  · obtain ⟨m, hm, hd⟩ := List.mem_flatMap.1 hd
    exact absurd (passes m hm d hd) unmet
  · rcases List.mem_append.1 hd with hd | hd
    · simp only [List.mem_cons, List.not_mem_nil, or_false] at hd
      rcases hd with rfl | rfl | rfl
      · exact absurd h.isObject_fields unmet
      · exact .inl rfl
      · exact absurd (h.listed around) unmet
    · obtain ⟨v, hv, hd⟩ := List.mem_flatMap.1 hd
      obtain ⟨name, rfl⟩ := h.exists_name hv
      simp only [List.mem_cons, List.not_mem_nil, or_false] at hd
      rcases hd with rfl | rfl
      · exact absurd ⟨(), rfl⟩ unmet
      · exact .inr ⟨name, hv, rfl⟩

end Step.Shaped

/-- If the first unmet demand of a step is that something is filled, its fields could be looked
for. -/
theorem Step.inputs_met_of_first {s t : Step} {around : Surroundings} {v : Value}
    (first : FirstUnmet around (s.demands around) (.filled t v)) :
    Demand.Met around (.inputs s) := by
  rcases first.of_append with hmappings | ⟨-, hrest⟩
  · obtain ⟨m, -, hm⟩ := List.mem_flatMap.1 hmappings.mem
    simp [Mapping.demands] at hm
  · rcases hrest.of_append with hshape | ⟨hmet, -⟩
    · simpa using hshape.mem
    · exact hmet _ (by simp)

/-! ## Graphs -/

namespace Graph

variable {g : Graph} {schema : Option Members}

/-- Compiling a graph ends in a missing input. -/
def MissesInput (g : Graph) (schema : Option Members) : Prop :=
  ∃ fault f, g.compile schema = .error fault ∧ fault.trouble = .failure f ∧
    f.kind = .missingRequiredInput

/-- Compiling a graph comes to what a step requires: the fields of the step, and those of all steps
before it, can be looked for among the inputs of the run where they have to be. -/
def Reaches (g : Graph) (schema : Option Members) (s : Step) : Prop :=
  ∃ front back, g.order = front ++ s.id :: back ∧
    ∀ t ∈ g.definition.steps, t.id ∈ front ++ [s.id] →
      Demand.Met (g.surroundings schema) (.inputs t)

theorem step?_eq {s : Step} (hs : s ∈ g.definition.steps) :
    g.definition.step? s.id = some s := by
  unfold Definition.step?
  cases hfind : g.definition.steps.find? fun t => t.id == s.id with
  | none => exact absurd (List.find?_eq_none.1 hfind s hs) (by simp)
  | some t =>
    have hid : t.id = s.id := by simpa using List.find?_some hfind
    rw [List.inj_on_of_nodup_map g.valid.ids.1 (List.mem_of_find?_eq_some hfind) hs hid]

/-- The demand that decides how compiling a graph ends is found with a step, and all that the steps
before it demand is met. -/
theorem exists_first_of_error (passes : g.Passes schema) {e : CompileFault}
    (h : g.compile schema = .error e) :
    ∃ front s back d, s ∈ g.definition.steps ∧ g.order = front ++ s.id :: back ∧
      (∀ t ∈ g.definition.steps, t.id ∈ front →
        ∀ x ∈ t.demands (g.surroundings schema), x.Met (g.surroundings schema)) ∧
      FirstUnmet (g.surroundings schema) (s.demands (g.surroundings schema)) d ∧ d.Causes e := by
  have hmeets := g.compile_meets schema
  rw [h] at hmeets
  obtain ⟨d, hfirst, hcauses⟩ := hmeets
  rcases hfirst.of_append with hsteps | ⟨-, houtput⟩
  · obtain ⟨front, id, back, horder, hbefore, hpart⟩ := hsteps.of_flatMap
    have hid : id ∈ g.order := by rw [horder]; simp
    obtain ⟨s, hs, rfl⟩ := List.mem_map.1 (g.mem_order.1 hid)
    rw [step?_eq hs] at hpart
    refine ⟨front, s, back, d, hs, horder, fun t ht hfront x hx => ?_, hpart, hcauses⟩
    refine hbefore t.id hfront x ?_
    rw [step?_eq ht]
    exact hx
  · obtain ⟨m, hm, hd⟩ := List.mem_flatMap.1 houtput.mem
    exact absurd (passes m (List.mem_of_mem_filter hm) d hd) houtput.not_met

theorem filled_mem {s : Step} (hs : s ∈ g.definition.steps) {v : Value} (hv : v ∈ s.required) :
    .filled s v ∈ s.demands (g.surroundings schema) ∧ .filled s v ∈ g.demands schema := by
  have hdemands : .filled s v ∈ s.demands (g.surroundings schema) := by
    refine List.mem_append_right _ (List.mem_append_right _ (List.mem_flatMap.2 ⟨v, hv, ?_⟩))
    simp
  refine ⟨hdemands, List.mem_append_left _ (List.mem_flatMap.2 ⟨s.id, ?_, ?_⟩)⟩
  · exact g.mem_order.2 (List.mem_map_of_mem hs)
  · rw [step?_eq hs]
    exact hdemands

/-- A graph whose mappings pass and whose steps are in shape misses an input exactly if compiling
comes to a step that requires something that is not provided, or not taken. It comes to every step
where the inputs of the run can be searched at all. -/
theorem misses_input_iff (passes : g.Passes schema)
    (shaped : ∀ s ∈ g.definition.steps, s.Shaped) :
    (g.MissesInput schema ↔ ∃ s ∈ g.definition.steps, ∃ name,
      (s.Unprovided (g.surroundings schema) name ∨ s.Untaken (g.surroundings schema) name) ∧
        g.Reaches schema s) ∧
      ((Schema.declared (g.surroundings schema).inputSchema "properties").isSearchable = true →
        ∀ s ∈ g.definition.steps, g.Reaches schema s) := by
  have hinto : ∀ s : Step, ∀ m ∈ (g.surroundings schema).definition.into (.step s.id),
      ∀ x ∈ m.demands, x.Met (g.surroundings schema) :=
    fun s m hm => passes m (List.mem_of_mem_filter hm)
  refine ⟨⟨?_, ?_⟩, ?_⟩
  · rintro ⟨e, f, hcompile, hfailure, hkind⟩
    obtain ⟨front, s, back, d, hs, horder, hbefore, hfirst, hcauses⟩ :=
      exists_first_of_error passes hcompile
    rcases (shaped s hs).of_unmet (hinto s) hfirst.mem hfirst.not_met with rfl | ⟨name, hname, rfl⟩
    · obtain ⟨fault, rfl⟩ := hcauses
      cases hfailure
    · have hlacks : ¬s.Fills (g.surroundings schema) name :=
        fun hfills => hfirst.not_met ⟨name, rfl, hfills⟩
      refine ⟨s, hs, name, (Step.not_fills_iff hname).1 hlacks, front, back, horder, ?_⟩
      intro t ht hid
      rcases List.mem_append.1 hid with hid | hid
      · refine hbefore t ht hid _ ?_
        exact List.mem_append_right _ (List.mem_append_left _ (by simp))
      · obtain rfl := List.inj_on_of_nodup_map g.valid.ids.1 ht hs (List.mem_singleton.1 hid)
        exact Step.inputs_met_of_first hfirst
  · rintro ⟨s, hs, name, hlacks, front, back, horder, hinputs⟩
    have hname : .str name ∈ s.required := hlacks.elim (·.required) (·.required)
    have hunmet : ¬Demand.Met (g.surroundings schema) (.filled s (.str name)) := by
      rintro ⟨_, ⟨⟩, hfills⟩
      exact (Step.not_fills_iff hname).2 hlacks hfills
    obtain ⟨hdemands, hall⟩ : .filled s (.str name) ∈ s.demands (g.surroundings schema) ∧
        .filled s (.str name) ∈ g.demands schema := filled_mem hs hname
    cases hcompile : g.compile schema with
    | ok p =>
      have hmeets := g.compile_meets schema
      rw [hcompile] at hmeets
      exact absurd (hmeets _ hall) hunmet
    | error e =>
      obtain ⟨front', t, back', d, ht, horder', hbefore, hfirst, hcauses⟩ :=
        exists_first_of_error passes hcompile
      rcases (shaped t ht).of_unmet (hinto t) hfirst.mem hfirst.not_met with rfl | ⟨other, -, rfl⟩
      · -- a step whose fields cannot be looked for would stand no later than `s`
        have hlater : s.id ∉ front' := fun hid => hunmet (hbefore s hs hid _ hdemands)
        have hid := mem_of_split (horder'.symm.trans horder) hlater
        exact absurd (hinputs t ht hid) hfirst.not_met
      · have hfault : e = .missingRequired t.id (.str other) := hcauses
        subst hfault
        exact ⟨_, _, hcompile, rfl, rfl⟩
  · intro hsearchable s hs
    obtain ⟨front, back, horder⟩ :=
      List.append_of_mem (g.mem_order.2 (List.mem_map_of_mem hs))
    exact ⟨front, back, horder, fun _ _ _ _ _ _ => hsearchable⟩

/-! ## A required field that is not declared -/

/-- A workflow of one step, which requires a field that it does not declare. The inputs of the run
have one of its name. -/
def undeclared : Definition where
  id := "w"
  name := "W"
  steps := [{ id := "a", kind := .controlFlow, inputSchema := [("required", .ofTexts ["url"])] }]
  inputSchema := [("properties", .object [("url", .object [])])]

/-- The graph of that workflow. -/
def undeclaredGraph : Graph := ⟨undeclared, by decide +kernel⟩

theorem undeclared_passes : undeclaredGraph.Passes none := by
  intro m hm
  cases hm

theorem undeclared_shaped : ∀ s ∈ undeclaredGraph.definition.steps, s.Shaped := by
  intro s hs
  rw [List.mem_singleton.1 hs]
  refine ⟨fun v hv => ?_, fun v hv => ?_⟩
  · cases hv
  · cases hv
    exact ⟨["url"], rfl⟩

theorem undeclared_misses : undeclaredGraph.MissesInput none :=
  ⟨.missingRequired "a" (.str "url"), _, by decide +kernel, rfl, rfl⟩

theorem misses_input_iff_undeclared :
    (undeclaredGraph.MissesInput none ↔ ∃ s ∈ undeclaredGraph.definition.steps, ∃ name,
      (s.Unprovided (undeclaredGraph.surroundings none) name ∨
        s.Untaken (undeclaredGraph.surroundings none) name) ∧ undeclaredGraph.Reaches none s) ∧
      ((Schema.declared (undeclaredGraph.surroundings none).inputSchema
          "properties").isSearchable = true →
        ∀ s ∈ undeclaredGraph.definition.steps, undeclaredGraph.Reaches none s) :=
  misses_input_iff undeclared_passes undeclared_shaped

/-- A missing input is reported for the step, though the inputs of the run have one of the name of
everything that it requires. -/
theorem undeclared_all_provided :
    undeclaredGraph.Passes none ∧ (∀ s ∈ undeclaredGraph.definition.steps, s.Shaped) ∧
      undeclaredGraph.MissesInput none ∧
      ¬∃ s ∈ undeclaredGraph.definition.steps, ∃ name,
        s.Unprovided (undeclaredGraph.surroundings none) name := by
  refine ⟨undeclared_passes, undeclared_shaped, undeclared_misses, ?_⟩
  rintro ⟨s, hs, name, h⟩
  have hname : name = "url" := by
    have hrequired := h.required
    rw [List.mem_singleton.1 hs] at hrequired
    cases List.mem_singleton.1 hrequired
    rfl
  subst hname
  exact h.undeclared rfl

end Graph

end Conduit
