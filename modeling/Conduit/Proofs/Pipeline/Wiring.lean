import Conduit.Pipeline.Compile
import Conduit.Proofs.Workflow.Order

/-!
# How pipelines are wired

What compiling guarantees of a pipeline, whatever workflow it comes from: no step stands in it
twice, the steps that a step waits for stand before it, and it waits for every step that one of its
bindings reads.

* `mem_of_mapM_eq_ok` — where the items of a list of results come from;
* `compileSteps_spec`, `Graph.compiles` — what compiling makes of an order, and of a graph;
* `Pipeline.WellFormed`, `Pipeline.WellFormed.of_compile` — the guarantees, and that they are given;
* `Pipeline.WellFormed.build_congr` — what the input of a step depends on.
-/

namespace Conduit

/-- Every result of a list of computations that all succeed is the result of one of them. -/
theorem mem_of_mapM_eq_ok {ε α β : Type} {f : α → Except ε β} {l : List α} {results : List β}
    (h : l.mapM f = .ok results) : ∀ b ∈ results, ∃ a ∈ l, f a = .ok b := by
  induction l generalizing results with
  | nil =>
    rw [List.mapM_nil] at h
    cases h
    simp
  | cons a rest ih =>
    rw [List.mapM_cons, except_bind_eq_ok] at h
    obtain ⟨first, hfirst, h⟩ := h
    rw [except_bind_eq_ok] at h
    obtain ⟨others, hothers, h⟩ := h
    cases h
    intro b hb
    rcases List.mem_cons.1 hb with rfl | hb
    · exact ⟨a, List.mem_cons_self, hfirst⟩
    · obtain ⟨c, hc, hcb⟩ := ih hothers b hb
      exact ⟨c, List.mem_cons_of_mem _ hc, hcb⟩

/-- What holds of pairs in a list of computations that all succeed holds of their results. -/
theorem pairwise_of_mapM_eq_ok {ε α β : Type} {f : α → Except ε β} {R : α → α → Prop}
    {S : β → β → Prop} {l : List α} {results : List β} (h : l.mapM f = .ok results)
    (pairs : l.Pairwise R)
    (transfer : ∀ a a' b b', R a a' → f a = .ok b → f a' = .ok b' → S b b') :
    results.Pairwise S := by
  induction l generalizing results with
  | nil =>
    rw [List.mapM_nil] at h
    cases h
    exact .nil
  | cons a rest ih =>
    rw [List.mapM_cons, except_bind_eq_ok] at h
    obtain ⟨first, hfirst, h⟩ := h
    rw [except_bind_eq_ok] at h
    obtain ⟨others, hothers, h⟩ := h
    cases h
    rw [List.pairwise_cons] at pairs ⊢
    refine ⟨fun b hb => ?_, ih hothers pairs.2⟩
    obtain ⟨a', ha', hab⟩ := mem_of_mapM_eq_ok hothers b hb
    exact transfer a a' first b (pairs.1 a' ha') hfirst hab

/-! ## Bindings -/

theorem Mapping.binding?_eq {m : Mapping} {around : Surroundings} {b : Binding}
    (h : m.binding? around = .ok b) : b.target = m.targetPath ∧ b.implicit = false := by
  rw [Mapping.binding?, except_bind_eq_ok] at h
  obtain ⟨transform, -, h⟩ := h
  rw [except_bind_eq_ok] at h
  obtain ⟨source, -, h⟩ := h
  cases h
  exact ⟨rfl, rfl⟩

/-- A binding reads a step only if its mapping leads from there. -/
theorem source_of_binding? {m : Mapping} {around : Surroundings} {b : Binding} {id path : String}
    {index : Nat} (h : m.binding? around = .ok b) (hb : b.source = .step id index path) :
    m.source = .step id := by
  rw [Mapping.binding?, except_bind_eq_ok] at h
  obtain ⟨transform, -, h⟩ := h
  rw [except_bind_eq_ok] at h
  obtain ⟨source, hsource, h⟩ := h
  cases h
  change source = .step id index path at hb
  subst hb
  unfold Mapping.source? at hsource
  cases hm : m.source with
  | fixed => simp [hm] at hsource
  | input =>
    simp only [hm] at hsource
    rw [except_bind_eq_ok] at hsource
    obtain ⟨allowed, -, hsource⟩ := hsource
    cases allowed
    · exact absurd hsource (by simp [throw, throwThe, MonadExceptOf.throw])
    · exact absurd hsource (by simp [pure, Except.pure])
  | step origin =>
    simp only [hm] at hsource
    rw [except_bind_eq_ok] at hsource
    obtain ⟨allowed, -, hsource⟩ := hsource
    cases allowed
    · exact absurd hsource (by simp [throw, throwThe, MonadExceptOf.throw])
    · simp only [if_true, pure, Except.pure, Except.ok.injEq, Source.step.injEq] at hsource
      rw [hsource.1]

/-- The fields that take the input of their name are distinct and not mapped to. -/
theorem implicitFields_spec {properties globals : Value} (names : List Value) :
    ∀ mapped fields, implicitFields properties globals mapped names = .ok fields →
      fields.Nodup ∧ ∀ name ∈ fields, name ∉ mapped := by
  induction names with
  | nil =>
    intro mapped fields h
    rw [implicitFields] at h
    cases h
    simp
  | cons name rest ih =>
    intro mapped fields h
    cases name with
    | str s =>
      rw [implicitFields, except_bind_eq_ok] at h
      obtain ⟨-, -, h⟩ := h
      split at h
      · exact ih mapped fields h
      · next hnew =>
        rw [except_bind_eq_ok] at h
        obtain ⟨declared, -, h⟩ := h
        split at h
        · rw [except_bind_eq_ok] at h
          obtain ⟨more, hmore, h⟩ := h
          cases h
          -- the name counts as mapped for the names after it
          obtain ⟨hnodup, hapart⟩ := ih (s :: mapped) more hmore
          refine ⟨List.nodup_cons.2 ⟨fun hs => hapart s hs List.mem_cons_self, hnodup⟩, ?_⟩
          rw [List.forall_mem_cons]
          exact ⟨hnew, fun other hother hmapped =>
            hapart other hother (List.mem_cons_of_mem _ hmapped)⟩
        · exact ih mapped fields h
    | _ =>
      rw [implicitFields, except_bind_eq_ok] at h
      · obtain ⟨-, -, h⟩ := h
        rw [except_bind_eq_ok] at h
        obtain ⟨-, -, h⟩ := h
        exact ih mapped fields h
      · simp

/-- The binding of a field that takes the input of its name. -/
def Binding.ofField (name : String) : Binding where
  target := name
  source := .input name
  implicit := true

/-- The bindings of a step come from its mappings, and then from distinct fields that are not mapped
to. -/
theorem Step.bindings_of_mapper? {s : Step} {around : Surroundings} {mapper : Mapper}
    (h : s.mapper? around = .ok mapper) :
    ∃ (explicit : List Binding) (fields : List String),
      mapper.bindings = explicit ++ fields.map Binding.ofField ∧
      (around.definition.into (.step s.id)).mapM (fun m => m.binding? around) = .ok explicit ∧
      fields.Nodup ∧
      ∀ name ∈ fields, ∀ m ∈ around.definition.into (.step s.id), name ≠ m.targetHead := by
  rw [Step.mapper?] at h
  simp only [except_bind_eq_ok] at h
  obtain ⟨explicit, hexplicit, names, -, fields, hfields, defaults, -, required, -, -, -, h⟩ := h
  cases h
  unfold liftSchema at hfields
  split at hfields
  · next fields' hspec =>
    cases hfields
    obtain ⟨hnodup, hapart⟩ := implicitFields_spec names _ _ hspec
    refine ⟨explicit, fields, rfl, hexplicit, hnodup, fun name hname m hm => ?_⟩
    rintro rfl
    exact hapart _ hname (List.mem_map_of_mem hm)
  · cases hfields

/-- A binding of a mapper that reads a step comes from a mapping that leads from there. -/
theorem exists_mapping_of_mapper? {s : Step} {around : Surroundings} {mapper : Mapper}
    (h : s.mapper? around = .ok mapper) {b : Binding} (hb : b ∈ mapper.bindings)
    {id path : String} {index : Nat} (hs : b.source = .step id index path) :
    ∃ m ∈ around.definition.mappings, m.source = .step id ∧ m.target = .step s.id := by
  obtain ⟨explicit, fields, hbindings, hexplicit, -⟩ := s.bindings_of_mapper? h
  rw [hbindings] at hb
  rcases List.mem_append.1 hb with hb | hb
  · obtain ⟨m, hm, hmb⟩ := mem_of_mapM_eq_ok hexplicit b hb
    have hm := List.mem_filter.1 hm
    exact ⟨m, hm.1, source_of_binding? hmb hs, by simpa using hm.2⟩
  · -- a field that takes the input of its name reads no step
    obtain ⟨name, -, rfl⟩ := List.mem_map.1 hb
    cases hs

/-! ## Steps -/

/-- Compiling an order keeps its ids, and gives every step its mapper and the steps it waits for. -/
theorem compileSteps_spec {around : Surroundings} (ids : List String) :
    ∀ (index : Nat) (steps : List PipelineStep), (∀ id ∈ ids, id ∈ around.definition.stepIds) →
      compileSteps around index ids = .ok steps →
      (steps.map fun s => s.step.id) = ids ∧
        ∀ s ∈ steps, s.step.mapper? around = .ok s.mapper ∧
          s.dependsOn = around.dependsOn s.step.id := by
  -- the index counts up along the order, so the hypothesis has it general
  induction ids with
  | nil =>
    intro index steps _ h
    rw [compileSteps] at h
    cases h
    simp
  | cons id rest ih =>
    intro index steps hknown h
    rw [compileSteps, except_bind_eq_ok] at h
    obtain ⟨mapper, hmapper, h⟩ := h
    rw [except_bind_eq_ok] at h
    obtain ⟨more, hmore, h⟩ := h
    cases h
    obtain ⟨hids, hmore⟩ := ih (index + 1) more
      (fun x hx => hknown x (List.mem_cons_of_mem _ hx)) hmore
    have hid : ((around.definition.step? id).getD default).id = id := by
      obtain ⟨s, hs, hsid⟩ := List.mem_map.1 (hknown id List.mem_cons_self)
      cases hfound : around.definition.step? id with
      | none => exact absurd hsid (by simpa using List.find?_eq_none.1 hfound s hs)
      | some t => simpa using List.find?_some hfound
    refine ⟨by rw [List.map_cons, hids, hid], ?_⟩
    intro s hs
    rcases List.mem_cons.1 hs with rfl | hs
    · exact ⟨hmapper, by rw [hid]⟩
    · exact hmore s hs

/-! ## Pipelines -/

/-- The linear order of a graph is its order, if that lists all of its steps. -/
theorem Graph.eq_order_of_linearize {g : Graph} {order : List String}
    (h : g.linearize = .ok order) : order = g.order := by
  unfold linearize at h
  dsimp only at h
  split at h
  · cases h
    rfl
  · cases h

/-- What the mappings of a graph are compiled against, when the inputs have a schema of their own or
that of the workflow. -/
def Graph.surroundings (g : Graph) (schema : Option Members) : Surroundings where
  definition := g.definition
  order := g.order
  inputSchema := schema.getD g.definition.inputSchema

/-- What the parts of a pipeline are compiled from. -/
structure Graph.Compiles (g : Graph) (schema : Option Members) (p : Pipeline) : Prop where
  stepIds : p.stepIds = g.order
  steps : ∀ s ∈ p.steps, s.step.mapper? (g.surroundings schema) = .ok s.mapper ∧
    s.dependsOn = (g.surroundings schema).dependsOn s.step.id
  output : ∀ mapper, p.outputMapper = some mapper →
    (g.definition.into .output).mapM (fun m => m.binding? (g.surroundings schema)) =
      .ok mapper.bindings

theorem Graph.compiles {g : Graph} {schema : Option Members} {p : Pipeline}
    (h : g.compile schema = .ok p) : g.Compiles schema p := by
  rw [Graph.compile, except_bind_eq_ok] at h
  obtain ⟨order, horder, h⟩ := h
  obtain rfl := Graph.eq_order_of_linearize horder
  rw [except_bind_eq_ok] at h
  obtain ⟨steps, hsteps, h⟩ := h
  rw [except_bind_eq_ok] at h
  obtain ⟨outputs, houtputs, h⟩ := h
  cases h
  obtain ⟨hids, hsteps⟩ := compileSteps_spec g.order 0 steps (fun _ => g.order_subset) hsteps
  refine ⟨hids, hsteps, fun mapper hmapper => ?_⟩
  change (if outputs.isEmpty then none else some { bindings := outputs }) = some mapper at hmapper
  split at hmapper
  · cases hmapper
  · cases hmapper
    exact houtputs

/-- A workflow that compiles gives what is taken from its compilation. -/
theorem Definition.compile_of_isSome {d : Definition} {schema : Option Members}
    (h : (d.compile schema).toOption.isSome = true) :
    d.compile schema = .ok ((d.compile schema).toOption.getD default) := by
  cases hcompiled : d.compile schema with
  | ok p => rfl
  | error trouble =>
    rw [hcompiled] at h
    cases h

namespace Pipeline

/-- What compiling guarantees of a pipeline. -/
structure WellFormed (p : Pipeline) : Prop where
  /-- The steps are distinct. -/
  stepIds_nodup : p.stepIds.Nodup
  /-- The steps that a step waits for stand before it. -/
  dependsOn_before : ∀ front s back, p.steps = front ++ s :: back →
    ∀ id ∈ s.dependsOn, id ∈ front.map fun t => t.step.id
  /-- A step waits for the steps that its bindings read. -/
  source_mem : ∀ s ∈ p.steps, ∀ b ∈ s.mapper.bindings, ∀ id index path,
    b.source = .step id index path → id ∈ s.dependsOn

/-- A compiled graph gives a well-formed pipeline. -/
theorem WellFormed.of_graph {g : Graph} {schema : Option Members} {p : Pipeline}
    (h : g.compile schema = .ok p) : p.WellFormed := by
  obtain ⟨hids, hsteps, -⟩ := Graph.compiles h
  refine ⟨?_, ?_, ?_⟩
  · rw [hids]
    exact g.order_nodup
  · intro front s back hsplit id hid
    have hs : s ∈ p.steps := by
      rw [hsplit]
      exact List.mem_append_right _ List.mem_cons_self
    rw [(hsteps s hs).2, Surroundings.dependsOn, List.mem_filter] at hid
    have horder : g.order = (front.map fun t => t.step.id) ++ s.step.id ::
        back.map fun t => t.step.id := by
      rw [← hids, Pipeline.stepIds, hsplit, List.map_append, List.map_cons]
    -- what a step waits for are its predecessors in the order, and the order puts them before it
    exact g.order_precedes _ _ _ horder id (of_decide_eq_true hid.2)
  · intro s hs b hb id index path hsource
    obtain ⟨hmapper, hdepends⟩ := hsteps s hs
    obtain ⟨m, hm, hmsource, hmtarget⟩ := exists_mapping_of_mapper? hmapper hb hsource
    have hplaced : s.step.id ∈ g.order := by
      rw [← hids]
      exact List.mem_map_of_mem hs
    -- a binding comes from a mapping, and its source is then a predecessor
    have hneeded : id ∈ g.definition.predecessors s.step.id :=
      Definition.mem_predecessors hm hmsource hmtarget (g.mem_stepIds_of_source hm hmsource)
        (g.order_subset hplaced)
    obtain ⟨front, back, horder⟩ := List.append_of_mem hplaced
    have hlisted : id ∈ g.order := by
      rw [horder]
      exact List.mem_append_left _ (g.order_precedes _ _ _ horder id hneeded)
    rw [hdepends, Surroundings.dependsOn, List.mem_filter]
    exact ⟨hlisted, decide_eq_true hneeded⟩

/-- A compiled workflow gives a well-formed pipeline. -/
theorem WellFormed.of_compile {d : Definition} {schema : Option Members} {p : Pipeline}
    (h : d.compile schema = .ok p) : p.WellFormed := by
  unfold Definition.compile at h
  split at h
  · cases h
  · next g _ =>
    split at h
    · cases h
    · next q hq =>
      cases h
      exact WellFormed.of_graph hq

end Pipeline

/-! ## Values -/

/-- A binding writes the same when its source shows the same. -/
theorem Binding.run_congr {b : Binding} {outputs outputs' : String → Option Value}
    (h : ∀ id index path, b.source = .step id index path → outputs id = outputs' id)
    (inputs : Members) (result : Value) :
    b.run outputs inputs result = b.run outputs' inputs result := by
  have hresolve : b.resolve outputs inputs = b.resolve outputs' inputs := by
    unfold Binding.resolve
    cases hsource : b.source with
    | fixed v => rfl
    | input path => rfl
    | step id index path =>
      dsimp only
      rw [h id index path hsource]
  unfold Binding.run
  rw [hresolve]

/-- What a mapper builds depends on nothing but what its sources show. -/
theorem Mapper.build_congr {m : Mapper} {outputs outputs' : String → Option Value}
    (h : ∀ b ∈ m.bindings, ∀ id index path, b.source = .step id index path →
      outputs id = outputs' id) (inputs : Members) :
    m.build outputs inputs = m.build outputs' inputs := by
  unfold Mapper.build
  generalize m.base = result
  generalize m.bindings = bindings at h
  induction bindings generalizing result with
  | nil => rfl
  | cons b rest ih =>
    rw [List.forall_mem_cons] at h
    rw [List.foldlM_cons, List.foldlM_cons, Binding.run_congr h.1 inputs result]
    cases b.run outputs' inputs result with
    | error fault => rfl
    | ok next => exact ih next h.2

/-- The input of a step depends on nothing but the outputs of the steps that it waits for. -/
theorem Pipeline.WellFormed.build_congr {p : Pipeline} (formed : p.WellFormed) {s : PipelineStep}
    (hs : s ∈ p.steps) {outputs outputs' : String → Option Value}
    (h : ∀ id ∈ s.dependsOn, outputs id = outputs' id) (inputs : Members) :
    s.mapper.build outputs inputs = s.mapper.build outputs' inputs :=
  Mapper.build_congr (fun b hb id index path hsource =>
    h id (formed.source_mem s hs b hb id index path hsource)) inputs

end Conduit
