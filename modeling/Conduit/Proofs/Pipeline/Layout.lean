import Conduit.Proofs.Pipeline.Sequence
import Conduit.Proofs.Pipeline.Supply

/-!
# How pipelines are laid out

A step of a pipeline is known by its id and by its position, and what it waits for is worked out
apart from what its bindings read. The two agree: positions count up, a binding that reads a step
names its position too and that is an earlier one, a step waits for the steps that it reads and for
no others, and the bindings of a mapper that are not implicit are the mappings into its destination,
one for one.

* `Pipeline.Shows`, `Pipeline.Binds` — what a mapping is turned into;
* `Pipeline.LaidOut` — the layout of a pipeline of a workflow;
* `Pipeline.laidOut_of_compile` — compiled pipelines are laid out so.
-/

namespace Conduit

/-- The results of computations that all succeed stand to what they are computed from, one for
one. -/
theorem forall₂_of_mapM_eq_ok {ε α β : Type} {f : α → Except ε β} {R : α → β → Prop} {l : List α}
    {results : List β} (h : l.mapM f = .ok results) (relates : ∀ a ∈ l, ∀ b, f a = .ok b → R a b) :
    List.Forall₂ R l results := by
  induction l generalizing results with
  | nil =>
    rw [List.mapM_nil] at h
    cases h
    exact .nil
  | cons a rest ih =>
    rw [List.mapM_cons, except_bind_eq_ok] at h
    obtain ⟨first, hfirst, h⟩ := h
    rw [except_bind_eq_ok] at h
    obtain ⟨others, hothers, h⟩ := h
    cases h
    exact .cons (relates a List.mem_cons_self first hfirst)
      (ih hothers fun c hc => relates c (List.mem_cons_of_mem _ hc))

/-- A transform that a name stands for is called by that name. -/
theorem Transform.name_of_named? {name : String} {t : Transform} (h : named? name = some t) :
    t.name = name := by
  have hmem : (name, t) ∈ table := by
    rw [named?, List.lookup_eq_some_iff] at h
    obtain ⟨front, back, htable, -⟩ := h
    rw [htable]
    exact List.mem_append_right _ List.mem_cons_self
  have hnames : ∀ entry ∈ table, entry.2.name = entry.1 := by decide
  exact hnames _ hmem

/-! ## What a mapping is turned into -/

/-- The bindings of a mapper that come from mappings. -/
def Mapper.mapped (mapper : Mapper) : List Binding := mapper.bindings.filter fun b => !b.implicit

theorem Mapper.mem_sourceSteps {mapper : Mapper} {id : String} :
    id ∈ mapper.sourceSteps ↔
      ∃ b ∈ mapper.bindings, ∃ index path, b.source = .step id index path := by
  rw [sourceSteps, List.mem_eraseDups, List.mem_filterMap]
  refine exists_congr fun b => and_congr_right fun _ => ?_
  cases b.source <;> simp

namespace Pipeline

/-- What a mapping reads in a pipeline: its own value, a place in the inputs of the run, or a place
in the output of the step that stands at a position. -/
inductive Shows (p : Pipeline) (m : Mapping) : Source → Prop
  | fixed (origin : m.source = .fixed) : p.Shows m (.fixed m.value)
  | input (origin : m.source = .input) : p.Shows m (.input m.sourcePath)
  | step {id : String} {index : Nat} (origin : m.source = .step id)
      (there : p.stepIds[index]? = some id) : p.Shows m (.step id index m.sourcePath)

namespace Shows

variable {p : Pipeline} {m : Mapping}

/-- A mapping that reads a step leads from there, and the step stands at the position that it is
read at. -/
theorem of_step {id path : String} {index : Nat} (h : p.Shows m (.step id index path)) :
    m.source = .step id ∧ p.stepIds[index]? = some id := by
  cases h with
  | step origin there => exact ⟨origin, there⟩

/-- A mapping from a step reads that step. -/
theorem eq_step {source : Source} {id : String} (h : p.Shows m source)
    (origin : m.source = .step id) : ∃ index, source = .step id index m.sourcePath := by
  cases h with
  | fixed other => cases origin.symm.trans other
  | input other => cases origin.symm.trans other
  | step other _ =>
    cases origin.symm.trans other
    exact ⟨_, rfl⟩

end Shows

/-- The binding of a mapping. -/
structure Binds (p : Pipeline) (m : Mapping) (b : Binding) : Prop where
  target : b.target = m.targetPath
  source : p.Shows m b.source
  transform : b.transform.map Transform.name = m.transform
  explicit : b.implicit = false

/-- The mapper that builds the value of a destination. -/
def mapper? (p : Pipeline) : Destination → Option Mapper
  | .output => p.outputMapper
  | .step id => (p.step? id).map (·.mapper)

/-- How a pipeline of a workflow is laid out. -/
structure LaidOut (p : Pipeline) (d : Definition) : Prop where
  /-- The positions of the steps count up from the first. -/
  positions : p.steps.map (·.index) = List.range p.steps.length
  /-- No two steps have the same id. -/
  distinct : p.stepIds.Nodup
  /-- The steps are those of the workflow. -/
  covers : p.stepIds.Perm d.stepIds
  /-- A binding of a step reads an earlier step and has its position. -/
  earlier : ∀ s ∈ p.steps, ∀ b ∈ s.mapper.bindings, ∀ id index path,
    b.source = .step id index path → p.stepIds[index]? = some id ∧ index < s.index
  /-- A step waits for the steps that its bindings read, each once, in the order of the steps. -/
  dependsOn : ∀ s ∈ p.steps,
    s.dependsOn = p.stepIds.filter fun id => decide (id ∈ s.mapper.sourceSteps)
  /-- A binding of the output has the position of the step that it reads. -/
  output : ∀ mapper, p.outputMapper = some mapper → ∀ b ∈ mapper.bindings, ∀ id index path,
    b.source = .step id index path → p.stepIds[index]? = some id
  /-- Every mapping has a mapper for its destination. -/
  reaches : ∀ m ∈ d.mappings, ∃ mapper, p.mapper? m.target = some mapper
  /-- The bindings of a mapper that are not implicit are the mappings into its destination. -/
  follows : ∀ target mapper, p.mapper? target = some mapper →
    List.Forall₂ p.Binds (d.into target) mapper.mapped

end Pipeline

/-- What a mapping reads in the pipelines of its graph. -/
theorem Mapping.shows_of_source? {g : Graph} {schema : Option Members} {p : Pipeline}
    (stepIds : p.stepIds = g.order) {m : Mapping} (hm : m ∈ g.definition.mappings) {source : Source}
    (h : m.source? (g.surroundings schema) = .ok source) : p.Shows m source := by
  unfold Mapping.source? at h
  cases hsource : m.source with
  | fixed =>
    simp only [hsource] at h
    cases h
    exact .fixed hsource
  | input =>
    simp only [hsource] at h
    rw [except_bind_eq_ok] at h
    obtain ⟨allowed, -, h⟩ := h
    cases allowed
    · cases h
    · cases h
      exact .input hsource
  | step id =>
    simp only [hsource] at h
    rw [except_bind_eq_ok] at h
    obtain ⟨allowed, -, h⟩ := h
    cases allowed
    · cases h
    · cases h
      -- the source is a step of the workflow, so the order lists it
      have hlisted : id ∈ g.order := g.mem_order.2 (g.mem_stepIds_of_source hm hsource)
      exact .step hsource (stepIds ▸ List.getElem?_idxOf hlisted)

theorem Mapping.binds_of_binding? {g : Graph} {schema : Option Members} {p : Pipeline}
    (stepIds : p.stepIds = g.order) {m : Mapping} (hm : m ∈ g.definition.mappings) {b : Binding}
    (h : m.binding? (g.surroundings schema) = .ok b) : p.Binds m b := by
  rw [Mapping.binding?, except_bind_eq_ok] at h
  obtain ⟨transform, htransform, h⟩ := h
  rw [except_bind_eq_ok] at h
  obtain ⟨source, hsource, h⟩ := h
  cases h
  refine ⟨rfl, shows_of_source? stepIds hm hsource, ?_, rfl⟩
  unfold Mapping.transform? at htransform
  split at htransform
  · next hnone =>
    cases htransform
    exact hnone.symm
  · next name hname =>
    split at htransform
    · next t ht =>
      cases htransform
      rw [hname, Option.map_some, Transform.name_of_named? ht]
    · cases htransform

section

variable {g : Graph} {schema : Option Members} {p : Pipeline}

/-- Where the bindings of a mapper come from the mappings into a destination and from fields, those
that are not implicit are the mappings, one for one. -/
theorem Graph.mapped_binds (stepIds : p.stepIds = g.order) {target : Destination}
    {bindings : List Binding} {fields : List String} {mapper : Mapper}
    (h : (g.definition.into target).mapM (fun m => m.binding? (g.surroundings schema)) =
      .ok bindings) (hmapper : mapper.bindings = bindings ++ fields.map .ofField) :
    List.Forall₂ p.Binds (g.definition.into target) mapper.mapped := by
  have hmapped : mapper.mapped = bindings := by
    rw [Mapper.mapped, hmapper, List.filter_append, List.filter_eq_self.2, List.filter_eq_nil_iff.2,
      List.append_nil]
    · intro b hb
      obtain ⟨name, -, rfl⟩ := List.mem_map.1 hb
      simp [Binding.ofField]
    · intro b hb
      obtain ⟨m, -, hm⟩ := mem_of_mapM_eq_ok h b hb
      simp [(Mapping.binding?_eq hm).2]
  rw [hmapped]
  exact forall₂_of_mapM_eq_ok h fun _ hm _ hb =>
    Mapping.binds_of_binding? stepIds (List.mem_of_mem_filter hm) hb

/-- A graph with mappings into the output has an output mapper, made of their bindings. -/
theorem Graph.exists_outputs_of_compile (h : g.compile schema = .ok p) :
    ∃ outputs, (g.definition.into .output).mapM (fun m => m.binding? (g.surroundings schema)) =
        .ok outputs ∧
      p.outputMapper = if outputs.isEmpty then none else some { bindings := outputs } := by
  rw [Graph.compile, linearize_eq] at h
  simp only [except_bind_eq_ok] at h
  obtain ⟨_, ⟨⟩, steps, -, outputs, houtputs, h⟩ := h
  cases h
  exact ⟨outputs, houtputs, rfl⟩

namespace Pipeline

/-! ## Positions -/

theorem positions_of_compile (h : g.compile schema = .ok p) :
    p.steps.map (·.index) = List.range p.steps.length := by
  have hsequence := Graph.sequence_of_compile h
  have hlength : p.steps.length = g.order.length := by
    rw [← (Graph.compiles h).stepIds, stepIds, List.length_map]
  calc p.steps.map (·.index) = p.sequence.map (·.1) := by
        rw [sequence, List.map_map]
        rfl
    _ = g.order.zipIdx.map (·.2) := by
        rw [hsequence, List.map_map]
        rfl
    _ = List.range p.steps.length := by rw [List.zipIdx_map_snd, hlength, List.range_eq_range']

/-- A step stands at its position. -/
theorem getElem?_index (h : g.compile schema = .ok p) {s : PipelineStep} (hs : s ∈ p.steps) :
    p.stepIds[s.index]? = some s.step.id := by
  have hmem : (s.index, s.step.id, s.dependsOn) ∈ p.sequence := List.mem_map_of_mem hs
  rw [Graph.sequence_of_compile h] at hmem
  obtain ⟨⟨id, index⟩, hentry, heq⟩ := List.mem_map.1 hmem
  obtain ⟨rfl, rfl, -⟩ : index = s.index ∧ id = s.step.id ∧ _ := by simpa using heq
  rw [(Graph.compiles h).stepIds]
  exact List.mem_zipIdx_iff_getElem?.1 hentry

/-- The position of a step is where its id is found. -/
theorem idxOf_eq_of_getElem? (nodup : p.stepIds.Nodup) {id : String} {index : Nat}
    (h : p.stepIds[index]? = some id) : p.stepIds.idxOf id = index := by
  obtain ⟨hlt, rfl⟩ := List.getElem?_eq_some_iff.1 h
  exact nodup.idxOf_getElem index hlt

/-- The step that is found by the id of a step is that step. -/
theorem step?_eq (nodup : p.stepIds.Nodup) {s : PipelineStep} (hs : s ∈ p.steps) :
    p.step? s.step.id = some s := by
  rw [step?, List.find?_eq_some_iff_append]
  obtain ⟨front, back, hsplit⟩ := List.append_of_mem hs
  refine ⟨beq_iff_eq.2 rfl, front, back, hsplit, fun other hother => ?_⟩
  rw [stepIds, hsplit, List.map_append, List.map_cons, List.nodup_append] at nodup
  simpa using nodup.2.2 _ (List.mem_map_of_mem hother) _ List.mem_cons_self

/-! ## Steps -/

/-- A binding that reads a step is that of a mapping. -/
theorem exists_binds (h : g.compile schema = .ok p) {s : PipelineStep} (hs : s ∈ p.steps)
    {b : Binding} (hb : b ∈ s.mapper.bindings) {id path : String} {index : Nat}
    (hsource : b.source = .step id index path) :
    ∃ m ∈ g.definition.mappings, m.target = .step s.step.id ∧ p.Binds m b := by
  have hcompiles := Graph.compiles h
  obtain ⟨bindings, fields, hbindings, hexplicit, -⟩ :=
    Step.bindings_of_mapper? (hcompiles.steps s hs).1
  rw [hbindings] at hb
  rcases List.mem_append.1 hb with hb | hb
  · obtain ⟨m, hm, hbinding⟩ := mem_of_mapM_eq_ok hexplicit b hb
    obtain ⟨hm, htarget⟩ := List.mem_filter.1 hm
    exact ⟨m, hm, beq_iff_eq.1 htarget, Mapping.binds_of_binding? hcompiles.stepIds hm hbinding⟩
  · obtain ⟨name, -, rfl⟩ := List.mem_map.1 hb
    cases hsource

/-- A step is read by the bindings of another exactly if it feeds that. -/
theorem mem_sourceSteps_iff_feeds (h : g.compile schema = .ok p) {s : PipelineStep}
    (hs : s ∈ p.steps) {id : String} :
    id ∈ s.mapper.sourceSteps ↔ g.definition.Feeds id s.step.id := by
  have hcompiles := Graph.compiles h
  rw [Mapper.mem_sourceSteps]
  constructor
  · rintro ⟨b, hb, index, path, hsource⟩
    obtain ⟨m, hm, htarget, hbinds⟩ := exists_binds h hs hb hsource
    exact ⟨m, hm, (hsource ▸ hbinds.source).of_step.1, htarget⟩
  · rintro ⟨m, hm, hsource, htarget⟩
    obtain ⟨bindings, fields, hbindings, hexplicit, -⟩ :=
      Step.bindings_of_mapper? (hcompiles.steps s hs).1
    have hinto : m ∈ g.definition.into (.step s.step.id) :=
      List.mem_filter.2 ⟨hm, beq_iff_eq.2 htarget⟩
    obtain ⟨b, hb, hbinding⟩ := exists_of_mapM_eq_ok hexplicit m hinto
    have hbinds := Mapping.binds_of_binding? hcompiles.stepIds hm hbinding
    obtain ⟨index, heq⟩ := hbinds.source.eq_step hsource
    exact ⟨b, hbindings ▸ List.mem_append_left _ hb, index, m.sourcePath, heq⟩

/-- A binding of a step reads an earlier step. -/
theorem earlier_of_compile (h : g.compile schema = .ok p) {s : PipelineStep} (hs : s ∈ p.steps)
    {b : Binding} (hb : b ∈ s.mapper.bindings) {id path : String} {index : Nat}
    (hsource : b.source = .step id index path) :
    p.stepIds[index]? = some id ∧ index < s.index := by
  have hstepIds := (Graph.compiles h).stepIds
  have hnodup : p.stepIds.Nodup := (WellFormed.of_graph h).stepIds_nodup
  obtain ⟨m, hm, htarget, hbinds⟩ := exists_binds h hs hb hsource
  obtain ⟨horigin, hthere⟩ := (hsource ▸ hbinds.source).of_step
  refine ⟨hthere, ?_⟩
  -- the source feeds the step, so the order has it before the step
  have hneeded : id ∈ g.definition.predecessors s.step.id :=
    (Definition.feeds_iff_mem_predecessors g.valid.mappings).1 ⟨m, hm, horigin, htarget⟩
  have hplaced : s.step.id ∈ g.order := hstepIds ▸ List.mem_map_of_mem hs
  have hlt := g.order_precedes.idxOf_lt hplaced hneeded
  rw [← hstepIds, idxOf_eq_of_getElem? hnodup hthere,
    idxOf_eq_of_getElem? hnodup (getElem?_index h hs)] at hlt
  exact hlt

/-- Whatever a mapping leads to has a mapper. -/
theorem exists_mapper? (h : g.compile schema = .ok p) {m : Mapping}
    (hm : m ∈ g.definition.mappings) : ∃ mapper, p.mapper? m.target = some mapper := by
  cases htarget : m.target with
  | output =>
    obtain ⟨outputs, houtputs, hmapper⟩ := Graph.exists_outputs_of_compile h
    have hinto : m ∈ g.definition.into .output := List.mem_filter.2 ⟨hm, beq_iff_eq.2 htarget⟩
    obtain ⟨b, hb, -⟩ := exists_of_mapM_eq_ok houtputs m hinto
    refine ⟨{ bindings := outputs }, hmapper.trans (if_neg ?_)⟩
    rw [List.isEmpty_iff]
    exact List.ne_nil_of_mem hb
  | step id =>
    have hlisted : id ∈ p.stepIds :=
      (Graph.compiles h).stepIds ▸ g.mem_order.2 (g.mem_stepIds_of_target hm htarget)
    obtain ⟨s, hs, rfl⟩ := List.mem_map.1 hlisted
    refine ⟨s.mapper, ?_⟩
    rw [mapper?, step?_eq (WellFormed.of_graph h).stepIds_nodup hs, Option.map_some]

/-- A compiled pipeline is laid out as its workflow says: its steps count up and are distinct, what
reads a step names it by id and by position, a step reads earlier ones only and waits for exactly
those, and every mapping is one binding of the mapper of its destination, in order. -/
theorem laidOut_of_compile (h : g.compile schema = .ok p) : p.LaidOut g.definition where
  positions := positions_of_compile h
  distinct := (WellFormed.of_graph h).stepIds_nodup
  covers := (Graph.compiles h).stepIds ▸ g.order_perm
  earlier := fun _ hs _ hb _ _ _ hsource => earlier_of_compile h hs hb hsource
  dependsOn := fun s hs => by
    have hcompiles := Graph.compiles h
    rw [(hcompiles.steps s hs).2, hcompiles.stepIds]
    refine List.filter_congr fun id _ => decide_eq_decide.2 ?_
    rw [mem_sourceSteps_iff_feeds h hs, Definition.feeds_iff_mem_predecessors g.valid.mappings]
    rfl
  output := fun mapper hmapper b hb id index path hsource => by
    have hcompiles := Graph.compiles h
    obtain ⟨m, hm, hbinding⟩ := mem_of_mapM_eq_ok (hcompiles.output mapper hmapper) b hb
    have hbinds := Mapping.binds_of_binding? hcompiles.stepIds (List.mem_of_mem_filter hm) hbinding
    exact (hsource ▸ hbinds.source).of_step.2
  reaches := fun _ hm => exists_mapper? h hm
  follows := fun target mapper hmapper => by
    have hcompiles := Graph.compiles h
    cases target with
    | output =>
      have hbindings : mapper.bindings = mapper.bindings ++ [].map .ofField :=
        (List.append_nil _).symm
      exact Graph.mapped_binds hcompiles.stepIds (hcompiles.output mapper hmapper) hbindings
    | step id =>
      obtain ⟨s, hfound, rfl⟩ := Option.map_eq_some_iff.1 hmapper
      obtain rfl : s.step.id = id := by simpa using List.find?_some hfound
      have hs : s ∈ p.steps := List.mem_of_find?_eq_some hfound
      obtain ⟨bindings, fields, hbindings, hexplicit, -⟩ :=
        Step.bindings_of_mapper? (hcompiles.steps s hs).1
      exact Graph.mapped_binds hcompiles.stepIds hexplicit hbindings

/-! ## A pipeline in another order than its workflow -/

/-- The step `b`, which has a field of its own. -/
def taker : Step where
  id := "b"
  kind := .controlFlow
  inputSchema := [("properties", .object [("g", .object [])])]

/-- The step `a`. -/
def giver : Step where
  id := "a"
  kind := .controlFlow

/-- A workflow that declares `b` before `a`, from which it takes two values. -/
def handover : Definition where
  id := "w"
  name := "W"
  steps := [taker, giver]
  mappings :=
    [{ source := .step "a", sourcePath := "x", target := .step "b", targetPath := "u" },
     { source := .step "b", target := .output, targetPath := "r" },
     { source := .input, sourcePath := "k", target := .step "b", targetPath := "v",
       transform := some "upper" },
     { source := .step "a", sourcePath := "y", target := .step "b", targetPath := "w" },
     { source := .fixed, target := .output, targetPath := "n", value := .int 7 }]
  inputSchema := [("properties", .object [("g", .object []), ("k", .object [])])]

/-- The graph of that workflow. -/
def handoverGraph : Graph := ⟨handover, by decide +kernel⟩

/-- The pipeline of that workflow. -/
def handoverPipeline : Pipeline where
  workflowId := "w"
  workflowName := "W"
  steps :=
    [{ index := 0, step := giver, mapper := {}, dependsOn := [] },
     { index := 1, step := taker, dependsOn := ["a"],
       mapper :=
         { bindings :=
             [{ target := "u", source := .step "a" 0 "x" },
              { target := "v", source := .input "k", transform := some .upper },
              { target := "w", source := .step "a" 0 "y" },
              .ofField "g"] } }]
  inputSchema := handover.inputSchema
  outputMapper := some
    { bindings :=
        [{ target := "r", source := .step "b" 1 "" }, { target := "n", source := .fixed (.int 7) }] }

theorem laidOut_handover :
    handoverGraph.compile none = .ok handoverPipeline ∧ handoverPipeline.LaidOut handover :=
  ⟨by decide +kernel, laidOut_of_compile (by decide +kernel : handoverGraph.compile none = _)⟩

end Pipeline

end

end Conduit
