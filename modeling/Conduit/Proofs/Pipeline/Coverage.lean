import Conduit.Proofs.Pipeline.Wiring
import Conduit.Proofs.Workflow.Validity

/-!
# What pipelines cover

A pipeline has all steps of its workflow, each once, so that whatever its output is built from is
the output of one of its steps.

* `Pipeline.stepIds_perm_of_compile` — the steps of a pipeline are those of its workflow;
* `Pipeline.source_mem_of_outputMapper` — the output of a pipeline reads its own steps only.
-/

namespace Conduit

namespace Pipeline

/-- A graph compiles to its steps in order, and its output reads steps of the workflow only. -/
theorem spec_of_graph {g : Graph} {schema : Option Members} {p : Pipeline}
    (h : g.compile schema = .ok p) :
    p.stepIds = g.order ∧
      ∀ mapper, p.outputMapper = some mapper → ∀ b ∈ mapper.bindings, ∀ id index path,
        b.source = .step id index path → id ∈ g.definition.stepIds := by
  have hcompiles := Graph.compiles h
  refine ⟨hcompiles.stepIds, fun mapper hmapper b hb id index path hsource => ?_⟩
  obtain ⟨m, hm, hbinding⟩ := mem_of_mapM_eq_ok (hcompiles.output mapper hmapper) b hb
  exact g.mem_stepIds_of_source (List.mem_of_mem_filter hm) (source_of_binding? hbinding hsource)

/-- A compiled workflow comes from a graph. -/
theorem exists_graph_of_compile {d : Definition} {schema : Option Members} {p : Pipeline}
    (h : d.compile schema = .ok p) : ∃ g : Graph, g.definition = d ∧ g.compile schema = .ok p := by
  unfold Definition.compile at h
  split at h
  · cases h
  · next g hg =>
    split at h
    · cases h
    · next q hq =>
      cases h
      exact ⟨g, Graph.definition_of_ofDefinition hg, hq⟩

/-- A compiled workflow has every step of the workflow once. -/
theorem stepIds_perm_of_compile {d : Definition} {schema : Option Members} {p : Pipeline}
    (h : d.compile schema = .ok p) : p.stepIds.Perm d.stepIds := by
  obtain ⟨g, rfl, hg⟩ := exists_graph_of_compile h
  rw [(spec_of_graph hg).1]
  exact g.order_perm

/-- The output of a compiled workflow is built from outputs of its steps. -/
theorem source_mem_of_outputMapper {d : Definition} {schema : Option Members} {p : Pipeline}
    (h : d.compile schema = .ok p) {mapper : Mapper} (hmapper : p.outputMapper = some mapper)
    {b : Binding} (hb : b ∈ mapper.bindings) {id path : String} {index : Nat}
    (source : b.source = .step id index path) : id ∈ p.stepIds := by
  refine (stepIds_perm_of_compile h).symm.subset ?_
  obtain ⟨g, rfl, hg⟩ := exists_graph_of_compile h
  exact (spec_of_graph hg).2 mapper hmapper b hb id index path source

end Pipeline

end Conduit
