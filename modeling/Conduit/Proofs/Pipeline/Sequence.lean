import Conduit.Proofs.Pipeline.Coverage
import Mathlib.Data.List.Perm.Basic

/-!
# What determines the sequence of a pipeline

The order of the steps of a pipeline, and what each of them waits for, depend on the order in which
the steps are declared and on which of them feed each other; neither the order of the mappings nor
how many of them lead from one step to another makes a difference.

* `Graph.linearize_eq` — a graph always has a linear order;
* `Pipeline.sequence`, `Graph.sequence_of_compile` — the order of a pipeline with what is waited
  for;
* `Graph.sequence_congr` — what they depend on;
* `Graph.exists_compile_of_perm` — a graph still compiles with its mappings in another order;
* `Graph.linearize_determined` — the order of a graph, and all that it depends on.
-/

namespace Conduit

/-! ## Lists of computations -/

/-- A list of computations succeeds when each of them does. -/
theorem exists_mapM_eq_ok_iff {ε α β : Type} {f : α → Except ε β} {l : List α} :
    (∃ results, l.mapM f = .ok results) ↔ ∀ a ∈ l, ∃ b, f a = .ok b := by
  induction l with
  | nil => simp [pure, Except.pure]
  | cons a rest ih =>
    rw [List.forall_mem_cons, ← ih, List.mapM_cons]
    simp only [except_bind_eq_ok]
    constructor
    · rintro ⟨-, b, hb, others, hothers, -⟩
      exact ⟨⟨b, hb⟩, others, hothers⟩
    · rintro ⟨⟨b, hb⟩, others, hothers⟩
      exact ⟨b :: others, b, hb, others, hothers, rfl⟩

/-- A list of computations fails when one of them does. -/
theorem exists_mapM_eq_error_iff {ε α β : Type} {f : α → Except ε β} {l : List α} :
    (∃ e, l.mapM f = .error e) ↔ ∃ a ∈ l, ∃ e, f a = .error e := by
  rw [← not_iff_not, ← exists_ok_iff, exists_mapM_eq_ok_iff]
  simp only [exists_ok_iff, not_exists, not_and]

theorem exists_mapM_of_perm {ε α β : Type} {f : α → Except ε β} {l l' : List α} (perm : l'.Perm l)
    {results : List β} (h : l.mapM f = .ok results) : ∃ results', l'.mapM f = .ok results' :=
  exists_mapM_eq_ok_iff.2 fun a ha => exists_mapM_eq_ok_iff.1 ⟨results, h⟩ a (perm.subset ha)

/-! ## Compiling with the mappings in another order -/

/-- Which fields take an input depends on what is mapped, not on the order of it. -/
theorem implicitFields_congr {properties globals : Value} (names : List Value) :
    ∀ {mapped mapped' : List String}, (∀ s, s ∈ mapped ↔ s ∈ mapped') →
      implicitFields properties globals mapped names =
        implicitFields properties globals mapped' names := by
  induction names with
  | nil =>
    intro mapped mapped' _
    rfl
  | cons name rest ih =>
    intro mapped mapped' same
    have hcons : ∀ first s, s ∈ first :: mapped ↔ s ∈ first :: mapped' := fun first s => by
      rw [List.mem_cons, List.mem_cons, same]
    cases name with
    | str s =>
      rw [implicitFields, implicitFields, ih same, ih (hcons s)]
      by_cases hs : s ∈ mapped
      · simp only [if_pos hs, if_pos ((same s).1 hs)]
      · simp only [if_neg hs, if_neg ((same s).not.1 hs)]
    | _ => simp only [implicitFields, ih same]

/-- Whether everything required is filled depends on what is filled, not on the order of it. -/
theorem checkRequired_congr {step : String} (names : List Value) {filled filled' : List String}
    (same : ∀ s, s ∈ filled ↔ s ∈ filled') :
    checkRequired step filled names = checkRequired step filled' names := by
  induction names with
  | nil => rfl
  | cons name rest ih =>
    cases name with
    | str s =>
      rw [checkRequired, checkRequired, ih]
      by_cases hs : s ∈ filled
      · simp only [if_pos hs, if_pos ((same s).1 hs)]
      · simp only [if_neg hs, if_neg ((same s).not.1 hs)]
    | _ => simp only [checkRequired]

namespace Surroundings

/-- The same surroundings with other mappings. -/
def remap (around : Surroundings) (mappings : List Mapping) : Surroundings :=
  { around with definition := { around.definition with mappings := mappings } }

variable {around : Surroundings} {mappings : List Mapping}

/-- What a mapping is bound to does not depend on the other mappings. -/
theorem binding?_remap (m : Mapping) : m.binding? (around.remap mappings) = m.binding? around := rfl

theorem into_remap_perm (perm : mappings.Perm around.definition.mappings) (target : Destination) :
    ((around.remap mappings).definition.into target).Perm (around.definition.into target) :=
  perm.filter _

/-- A step still has a mapper with the mappings in another order. -/
theorem exists_mapper?_of_perm (perm : mappings.Perm around.definition.mappings) {s : Step}
    {mapper : Mapper} (h : s.mapper? around = .ok mapper) :
    ∃ mapper', s.mapper? (around.remap mappings) = .ok mapper' := by
  have hinto := into_remap_perm perm (.step s.id)
  have hmapped : ∀ name, name ∈ (around.definition.into (.step s.id)).map (·.targetHead) ↔
      name ∈ ((around.remap mappings).definition.into (.step s.id)).map (·.targetHead) :=
    fun name => (hinto.map _).mem_iff.symm
  rw [Step.mapper?] at h
  simp only [except_bind_eq_ok] at h
  obtain ⟨explicit, hexplicit, names, hnames, fields, hfields, defaults, hdefaults, required,
    hrequired, ⟨⟩, hfilled, -⟩ := h
  obtain ⟨explicit', hexplicit'⟩ := exists_mapM_of_perm hinto hexplicit
  rw [implicitFields_congr names hmapped] at hfields
  have hsame : ∀ name, name ∈ (around.definition.into (.step s.id)).map (·.targetHead) ++ fields ++
      defaults.map (·.1) ↔
      name ∈ ((around.remap mappings).definition.into (.step s.id)).map (·.targetHead) ++ fields ++
        defaults.map (·.1) := fun name => by
    simp only [List.mem_append, hmapped]
  rw [checkRequired_congr required hsame] at hfilled
  rw [Step.mapper?]
  simp only [except_bind_eq_ok, binding?_remap]
  exact ⟨_, explicit', hexplicit', names, hnames, fields, hfields, defaults, hdefaults, required,
    hrequired, (), hfilled, rfl⟩

/-- An order still compiles with the mappings in another order. -/
theorem exists_compileSteps_of_perm (perm : mappings.Perm around.definition.mappings)
    (ids : List String) :
    ∀ {index : Nat} {steps : List PipelineStep}, compileSteps around index ids = .ok steps →
      ∃ steps', compileSteps (around.remap mappings) index ids = .ok steps' := by
  induction ids with
  | nil =>
    intro index steps _
    exact ⟨[], rfl⟩
  | cons id rest ih =>
    intro index steps h
    rw [compileSteps] at h
    simp only [except_bind_eq_ok] at h
    obtain ⟨mapper, hmapper, more, hmore, -⟩ := h
    obtain ⟨mapper', hmapper'⟩ := exists_mapper?_of_perm perm hmapper
    obtain ⟨more', hmore'⟩ := ih hmore
    rw [compileSteps]
    simp only [except_bind_eq_ok]
    exact ⟨_, mapper', hmapper', more', hmore', rfl⟩

end Surroundings

theorem Mapping.Apart.symm {m other : Mapping} (h : m.Apart other) : other.Apart m :=
  fun same => (h same.symm).symm

/-- A workflow is still valid with its mappings in another order. -/
theorem Definition.Valid.of_perm {d : Definition} (valid : d.Valid) {mappings : List Mapping}
    (perm : mappings.Perm d.mappings) : { d with mappings := mappings : Definition }.Valid where
  ids := valid.ids
  mappings := fun m hm => valid.mappings m (perm.subset hm)
  places := (perm.pairwise_iff fun h => h.symm).2 valid.places
  acyclic := by
    intro id hback
    have hfeeds : ∀ source target, { d with mappings := mappings : Definition }.Feeds source target →
        d.Feeds source target := fun _ _ ⟨m, hm, hends⟩ => ⟨m, perm.subset hm, hends⟩
    exact valid.acyclic id (Relation.TransGen.mono hfeeds id id hback)

/-! ## Sequences -/

/-- The steps of a pipeline in order, each with its place and with the steps that it waits for. -/
def Pipeline.sequence (p : Pipeline) : List (Nat × String × List String) :=
  p.steps.map fun s => (s.index, s.step.id, s.dependsOn)

/-- The places of compiled steps are counted up from the first. -/
theorem sequence_of_compileSteps {around : Surroundings} (ids : List String) :
    ∀ {index : Nat} {steps : List PipelineStep}, (∀ id ∈ ids, id ∈ around.definition.stepIds) →
      compileSteps around index ids = .ok steps →
      (steps.map fun s => (s.index, s.step.id, s.dependsOn)) =
        (ids.zipIdx index).map fun entry => (entry.2, entry.1, around.dependsOn entry.1) := by
  induction ids with
  | nil =>
    intro index steps _ h
    cases h
    rfl
  | cons id rest ih =>
    intro index steps hknown h
    obtain ⟨hids, -⟩ := compileSteps_spec (id :: rest) index steps hknown h
    rw [compileSteps] at h
    simp only [except_bind_eq_ok] at h
    obtain ⟨mapper, -, more, hmore, h⟩ := h
    cases h
    rw [List.map_cons, ih (fun x hx => hknown x (List.mem_cons_of_mem _ hx)) hmore]
    rw [List.map_cons, List.cons.injEq] at hids
    rw [List.zipIdx_cons, List.map_cons, hids.1]

namespace Graph

/-- A graph always has a linear order, and that lists all of its steps. -/
theorem linearize_eq (g : Graph) : g.linearize = .ok g.order :=
  if_pos g.order_perm.length_eq

/-- A pipeline has the steps of its graph in the order of the graph, and each waits for its
predecessors. -/
theorem sequence_of_compile {g : Graph} {schema : Option Members} {p : Pipeline}
    (h : g.compile schema = .ok p) :
    p.sequence = g.order.zipIdx.map fun entry => (entry.2, entry.1,
      g.order.filter fun source => decide (source ∈ g.definition.predecessors entry.1)) := by
  rw [Graph.compile, linearize_eq, except_bind_eq_ok] at h
  obtain ⟨order, horder, h⟩ := h
  cases horder
  rw [except_bind_eq_ok] at h
  obtain ⟨steps, hsteps, h⟩ := h
  rw [except_bind_eq_ok] at h
  obtain ⟨outputs, -, h⟩ := h
  cases h
  rw [Pipeline.sequence, sequence_of_compileSteps g.order (fun _ => g.order_subset) hsteps]
  simp only [Surroundings.dependsOn]

section Congr

variable {g g' : Graph} (ids : g'.definition.stepIds = g.definition.stepIds)
  (feeds : ∀ source target, g'.definition.Feeds source target ↔ g.definition.Feeds source target)

include ids feeds

/-- The order of a graph depends on its declared steps and on which of them feed each other. -/
theorem order_congr : g'.order = g.order := by
  have hfeeds : g'.definition.Feeds = g.definition.Feeds :=
    funext₂ fun source target => propext (feeds source target)
  have hgreedy := g'.order_greedy
  rw [ids, hfeeds] at hgreedy
  refine hgreedy.unique g.order_greedy ?_
  rw [g'.order_perm.length_eq, g.order_perm.length_eq, ids]

theorem linearize_congr : g'.linearize = g.linearize := by
  rw [linearize_eq, linearize_eq, order_congr ids feeds]

/-- The sequence of a pipeline depends on the declared steps of its graph and on which of them feed
each other. -/
theorem sequence_congr {schema schema' : Option Members} {p p' : Pipeline}
    (h : g.compile schema = .ok p) (h' : g'.compile schema' = .ok p') :
    p'.sequence = p.sequence := by
  have hneeds : ∀ source target, source ∈ g'.definition.predecessors target ↔
      source ∈ g.definition.predecessors target := by
    intro source target
    rw [← Definition.feeds_iff_mem_predecessors g'.valid.mappings, feeds,
      Definition.feeds_iff_mem_predecessors g.valid.mappings]
  rw [sequence_of_compile h, sequence_of_compile h', order_congr ids feeds]
  simp only [hneeds]

end Congr

/-- A graph still compiles with its mappings in another order. -/
theorem exists_compile_of_perm {g g' : Graph} {mappings : List Mapping}
    (perm : mappings.Perm g.definition.mappings)
    (hg' : g'.definition = { g.definition with mappings := mappings })
    (order : g'.order = g.order) {schema : Option Members} {p : Pipeline}
    (h : g.compile schema = .ok p) : ∃ p', g'.compile schema = .ok p' := by
  rw [Graph.compile, linearize_eq] at h
  simp only [except_bind_eq_ok] at h
  obtain ⟨_, horder, steps, hsteps, outputs, houtputs, -⟩ := h
  cases horder
  let around : Surroundings :=
    { definition := g.definition, order := g.order,
      inputSchema := schema.getD g.definition.inputSchema }
  obtain ⟨steps', hsteps'⟩ := Surroundings.exists_compileSteps_of_perm perm g.order hsteps
  obtain ⟨outputs', houtputs'⟩ : ∃ outputs',
      ((around.remap mappings).definition.into .output).mapM
        (fun m => m.binding? (around.remap mappings)) = .ok outputs' :=
    exists_mapM_of_perm (Surroundings.into_remap_perm perm .output) houtputs
  rw [Graph.compile, linearize_eq, order, hg']
  simp only [except_bind_eq_ok]
  exact ⟨_, g.order, rfl, steps', hsteps', outputs', houtputs', rfl⟩

/-- The linear order of a graph lists all of its steps, each after the steps that feed it, and each
time the earliest declared one that could be listed. So it depends on the declared steps and on
which of them feed each other, and so does what the steps of a pipeline wait for: neither changes
with the order of the mappings, nor when one more mapping leads from a step to one that it feeds
already. -/
theorem linearize_determined (g : Graph) :
    (∃ order, g.linearize = .ok order ∧ order.Perm g.definition.stepIds ∧
      (∀ source target, g.definition.Feeds source target →
        order.idxOf source < order.idxOf target) ∧
      Greedy g.definition.stepIds g.definition.Feeds order ∧
      ∀ other : List String, other.length = order.length →
        Greedy g.definition.stepIds g.definition.Feeds other → other = order) ∧
    (∀ g' : Graph, g'.definition.stepIds = g.definition.stepIds →
      (∀ source target, g'.definition.Feeds source target ↔ g.definition.Feeds source target) →
      g'.linearize = g.linearize ∧
        ∀ schema schema' p p', g.compile schema = .ok p → g'.compile schema' = .ok p' →
          p'.sequence = p.sequence) ∧
    (∀ mappings : List Mapping, mappings.Perm g.definition.mappings →
      ∃ g', Graph.ofDefinition { g.definition with mappings := mappings } = .ok g' ∧
        g'.linearize = g.linearize ∧
        ∀ schema p, g.compile schema = .ok p →
          ∃ p', g'.compile schema = .ok p' ∧ p'.sequence = p.sequence) ∧
    ∀ front m back more g', g.definition.mappings = front ++ back → m ∈ front ++ back →
      more.source = m.source → more.target = m.target →
      Graph.ofDefinition { g.definition with mappings := front ++ more :: back } = .ok g' →
      g'.linearize = g.linearize ∧
        ∀ schema schema' p p', g.compile schema = .ok p → g'.compile schema' = .ok p' →
          p'.sequence = p.sequence := by
  refine ⟨⟨g.order, g.linearize_eq, g.order_perm, fun source target h => ?_, g.order_greedy,
    fun other hlength hother => hother.unique g.order_greedy hlength⟩, fun g' ids feeds =>
      ⟨linearize_congr ids feeds, fun _ _ _ _ h h' => sequence_congr ids feeds h h'⟩,
    fun mappings perm => ?_, fun front m back more g' hsplit hm hsource htarget hg' => ?_⟩
  · have hneeded := (Definition.feeds_iff_mem_predecessors g.valid.mappings).1 h
    exact g.order_precedes.idxOf_lt (g.mem_order.2 (h.known g.valid.mappings).2) hneeded
  · obtain ⟨g', hg'⟩ := (ofDefinition_exact _).1.2 (g.valid.of_perm perm)
    have hd := definition_of_ofDefinition hg'
    have hids : g'.definition.stepIds = g.definition.stepIds := by rw [hd]; rfl
    have hfeeds : ∀ source target,
        g'.definition.Feeds source target ↔ g.definition.Feeds source target := by
      intro source target
      rw [hd]
      exact exists_congr fun m => and_congr_left fun _ => perm.mem_iff
    refine ⟨g', hg', linearize_congr hids hfeeds, fun schema p h => ?_⟩
    obtain ⟨p', h'⟩ := exists_compile_of_perm perm hd (order_congr hids hfeeds) h
    exact ⟨p', h', sequence_congr hids hfeeds h h'⟩
  · have hd := definition_of_ofDefinition hg'
    have hids : g'.definition.stepIds = g.definition.stepIds := by rw [hd]; rfl
    have hfeeds : ∀ source target,
        g'.definition.Feeds source target ↔ g.definition.Feeds source target := by
      intro source target
      rw [hd, Definition.Feeds, Definition.Feeds, hsplit]
      constructor
      · rintro ⟨x, hx, hends⟩
        rcases List.mem_cons.1 (List.perm_middle.subset hx) with rfl | hx
        · exact ⟨m, hm, hsource ▸ hends.1, htarget ▸ hends.2⟩
        · exact ⟨x, hx, hends⟩
      · rintro ⟨x, hx, hends⟩
        exact ⟨x, List.perm_middle.symm.subset (List.mem_cons_of_mem _ hx), hends⟩
    exact ⟨linearize_congr hids hfeeds, fun _ _ _ _ h h' => sequence_congr hids hfeeds h h'⟩

end Graph

end Conduit
