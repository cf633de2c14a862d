import Conduit.Proofs.Workflow.Cycles

/-!
# Which workflows are valid

The checks of a workflow accept exactly the workflows that are as they should be, and report the
first respect in which another is not.

* `Definition.Valid` — a workflow as it should be;
* `Definition.FirstFlaw` — the first respect in which a workflow is not;
* `Definition.check_cases` — what the checks find;
* `Graph.ofDefinition_exact` — a graph is given exactly for valid workflows, with the links between
  their steps, and otherwise the first flaw.
-/

namespace Conduit

namespace Definition

/-- The ids of the steps are distinct and none of them is reserved. -/
def IdsFit (d : Definition) : Prop := d.stepIds.Nodup ∧ ∀ id ∈ d.stepIds, id ∉ reservedIds

/-- A mapping leads from something that is there to something that is there, by paths that can be
used. -/
def Fits (d : Definition) (m : Mapping) : Prop := m.EndsKnown d.stepIds ∧ m.PathsFit

/-- No way along mappings leads from a step back to it. -/
def Acyclic (d : Definition) : Prop := ∀ id, ¬Relation.TransGen d.Feeds id id

/-- A workflow as it should be. -/
structure Valid (d : Definition) : Prop where
  ids : d.IdsFit
  mappings : ∀ m ∈ d.mappings, d.Fits m
  places : Unambiguous d.mappings
  acyclic : d.Acyclic

/-- The first respect in which a workflow is not as it should be, by the kind of failure that stands
for it: ids come first, then the mappings one by one, then the places that they write to. -/
inductive FirstFlaw (d : Definition) : FailureKind → Prop
  | ids (unfit : ¬d.IdsFit) : FirstFlaw d .duplicateNode
  | ends {front : List Mapping} {m : Mapping} {back : List Mapping} (ids : d.IdsFit)
    (split : d.mappings = front ++ m :: back) (before : ∀ other ∈ front, d.Fits other)
    (unknown : ¬m.EndsKnown d.stepIds) : FirstFlaw d .unknownReference
  | paths {front : List Mapping} {m : Mapping} {back : List Mapping} (ids : d.IdsFit)
    (split : d.mappings = front ++ m :: back) (before : ∀ other ∈ front, d.Fits other)
    (known : m.EndsKnown d.stepIds) (unfit : ¬m.PathsFit) : FirstFlaw d .invalidFieldPath
  | places (ids : d.IdsFit) (mappings : ∀ m ∈ d.mappings, d.Fits m)
    (ambiguous : ¬Unambiguous d.mappings) : FirstFlaw d .ambiguousMapping
  | cycle (ids : d.IdsFit) (mappings : ∀ m ∈ d.mappings, d.Fits m)
    (places : Unambiguous d.mappings) (cyclic : ¬d.Acyclic) : FirstFlaw d .cyclicGraph

/-- A workflow with a flaw is not as it should be. -/
theorem FirstFlaw.not_valid {d : Definition} {kind : FailureKind} (h : d.FirstFlaw kind) :
    ¬d.Valid := by
  intro valid
  cases h with
  | ids unfit => exact unfit valid.ids
  | ends _ split _ unknown => exact unknown (valid.mappings _ (by simp [split])).1
  | paths _ split _ _ unfit => exact unfit (valid.mappings _ (by simp [split])).2
  | places _ _ ambiguous => exact ambiguous valid.places
  | cycle _ _ _ cyclic => exact cyclic valid.acyclic

/-- Where items of a list fail, one of them is the first that does. -/
theorem eq_of_first_not {α : Type} {fits : α → Prop} {front front' back back' : List α} {a a' : α}
    (split : front ++ a :: back = front' ++ a' :: back') (before : ∀ x ∈ front, fits x)
    (fails : ¬fits a) (before' : ∀ x ∈ front', fits x) (fails' : ¬fits a') : a = a' := by
  induction front generalizing front' with
  | nil =>
    cases front' with
    | nil => exact (List.cons.inj split).1
    | cons b front' =>
      obtain ⟨rfl, -⟩ := List.cons.inj split
      exact absurd (before' a List.mem_cons_self) fails
  | cons b front ih =>
    rw [List.forall_mem_cons] at before
    cases front' with
    | nil =>
      obtain ⟨rfl, -⟩ := List.cons.inj split
      exact absurd before.1 fails'
    | cons b' front' =>
      exact ih (List.cons.inj split).2 before.2 fun x hx => before' x (List.mem_cons_of_mem _ hx)

/-- A workflow has one first flaw at most. -/
theorem FirstFlaw.unique {d : Definition} {kind kind' : FailureKind} (h : d.FirstFlaw kind)
    (h' : d.FirstFlaw kind') : kind = kind' := by
  -- a mapping that does not fit rules out the flaws that are looked for after the mappings
  have hall : ∀ {front m back}, d.mappings = front ++ m :: back → (∀ m ∈ d.mappings, d.Fits m) →
      d.Fits m := fun split fits => fits _ (by simp [split])
  cases h with
  | ids unfit => cases h' with
    | ids => rfl
    | ends ids => exact absurd ids unfit
    | paths ids => exact absurd ids unfit
    | places ids => exact absurd ids unfit
    | cycle ids => exact absurd ids unfit
  | ends ids split before unknown => cases h' with
    | ids unfit => exact absurd ids unfit
    | ends => rfl
    | paths _ split' before' known' unfit' =>
      obtain rfl := eq_of_first_not (split.symm.trans split') before (fun fit => unknown fit.1)
        before' fun fit => unfit' fit.2
      exact absurd known' unknown
    | places _ fits => exact absurd (hall split fits).1 unknown
    | cycle _ fits => exact absurd (hall split fits).1 unknown
  | paths ids split before known unfit => cases h' with
    | ids unfit => exact absurd ids unfit
    | ends _ split' before' unknown' =>
      obtain rfl := eq_of_first_not (split.symm.trans split') before (fun fit => unfit fit.2)
        before' fun fit => unknown' fit.1
      exact absurd known unknown'
    | paths => rfl
    | places _ fits => exact absurd (hall split fits).2 unfit
    | cycle _ fits => exact absurd (hall split fits).2 unfit
  | places ids fits ambiguous => cases h' with
    | ids unfit => exact absurd ids unfit
    | ends _ split _ unknown => exact absurd (hall split fits).1 unknown
    | paths _ split _ _ unfit => exact absurd (hall split fits).2 unfit
    | places => rfl
    | cycle _ _ places => exact absurd places ambiguous
  | cycle ids fits places => cases h' with
    | ids unfit => exact absurd ids unfit
    | ends _ split _ unknown => exact absurd (hall split fits).1 unknown
    | paths _ split _ _ unfit => exact absurd (hall split fits).2 unfit
    | places _ _ ambiguous => exact absurd places ambiguous
    | cycle => rfl

variable {d : Definition}

/-- Steps that feed each other are there, when the mappings lead from and to what is. -/
theorem Feeds.known (fits : ∀ m ∈ d.mappings, d.Fits m) {source target : String}
    (h : d.Feeds source target) : source ∈ d.stepIds ∧ target ∈ d.stepIds := by
  obtain ⟨m, hm, hsource, htarget⟩ := h
  obtain ⟨hends, -⟩ := fits m hm
  exact ⟨by simpa [hsource] using hends.source, by simpa [htarget] using hends.target⟩

theorem feeds_iff_mem_predecessors (fits : ∀ m ∈ d.mappings, d.Fits m) {source target : String} :
    d.Feeds source target ↔ source ∈ d.predecessors target := by
  rw [mem_predecessors_iff]
  exact ⟨fun h => ⟨h, h.known fits⟩, fun h => h.1⟩

theorem feeds_iff_mem_successors (fits : ∀ m ∈ d.mappings, d.Fits m) {source target : String} :
    d.Feeds source target ↔ target ∈ d.successors source := by
  rw [mem_successors_iff, feeds_iff_mem_predecessors fits]

/-- The search for a cycle finds one exactly when there is one. -/
theorem findCycle?_eq_none_iff_acyclic (fits : ∀ m ∈ d.mappings, d.Fits m) :
    findCycle? d.stepIds d.successors = none ↔ d.Acyclic := by
  have hrelation : (fun source target => target ∈ d.successors source) = d.Feeds := by
    funext source target
    exact propext (feeds_iff_mem_successors fits).symm
  have hclosed : ∀ source ∈ d.stepIds, ∀ target ∈ d.successors source, target ∈ d.stepIds :=
    fun source _ target htarget => (((feeds_iff_mem_successors fits).2 htarget).known fits).2
  rw [findCycle?_eq_none_iff hclosed, hrelation]
  refine ⟨fun h id hback => ?_, fun h id _ => h id⟩
  -- a step that leads somewhere is there
  obtain ⟨next, hnext, -⟩ := Relation.TransGen.head'_iff.1 hback
  exact h id (hnext.known fits).1 hback

/-- The checks, one after the other; the search for a cycle follows the steps that come next. -/
theorem check_eq (d : Definition) :
    d.check =
      (checkIds [] d.stepIds >>= fun _ =>
        checkMappings d.stepIds d.mappings >>= fun _ =>
          checkDistinct [] d.mappings >>= fun _ =>
            match findCycle? d.stepIds d.successors with
            | some cycle => .error (.cycle cycle)
            | none => .ok ()) :=
  rfl

/-- The checks pass for a workflow that is as it should be, and otherwise report its first flaw. -/
theorem check_cases (d : Definition) :
    (d.check = .ok () ∧ d.Valid) ∨
      ∃ fault, d.check = .error fault ∧ d.FirstFlaw fault.failure.kind := by
  rw [check_eq]
  cases hids : checkIds [] d.stepIds with
  | error fault =>
    refine .inr ⟨fault, rfl, ?_⟩
    rw [failure_of_checkIds hids]
    refine .ids fun fit => ?_
    have hok := checkIds_eq_ok_iff.2 ⟨fit.1, fun id _ => List.not_mem_nil, fit.2⟩
    exact absurd (hids.symm.trans hok) (by simp)
  | ok =>
    have hfit : d.IdsFit := by
      obtain ⟨hnodup, -, hallowed⟩ := checkIds_eq_ok_iff.1 hids
      exact ⟨hnodup, hallowed⟩
    rcases checkMappings_cases d.stepIds d.mappings with
      ⟨hmappings, hall⟩ | ⟨front, m, back, fault, hsplit, hfront, hm, hmappings⟩
    swap
    · -- the first mapping that fails has an end that is not there, or else a path
      refine .inr ⟨fault, by rw [hmappings]; rfl, ?_⟩
      have hbefore : ∀ other ∈ front, d.Fits other := fun other hother =>
        checkMapping_eq_ok_iff.1 (hfront other hother)
      rcases checkMapping_cases d.stepIds m with
        ⟨hok, -⟩ | ⟨fault', hfault, hkind, hends⟩ | ⟨fault', hfault, hkind, hends, hpaths⟩
      · exact absurd (hm.symm.trans hok) (by simp)
      · cases hm.symm.trans hfault
        exact hkind ▸ .ends hfit hsplit hbefore hends
      · cases hm.symm.trans hfault
        exact hkind ▸ .paths hfit hsplit hbefore hends hpaths
    have hfits : ∀ m ∈ d.mappings, d.Fits m := fun m hm => checkMapping_eq_ok_iff.1 (hall m hm)
    rcases checkDistinct_cases [] d.mappings with
      ⟨hdistinct, hplaces, -⟩ | ⟨fault, hdistinct, hkind, hambiguous⟩
    swap
    · refine .inr ⟨fault, by rw [hmappings, hdistinct]; rfl, ?_⟩
      exact hkind ▸ .places hfit hfits fun h => hambiguous ⟨h, by simp⟩
    have hacyclic := findCycle?_eq_none_iff_acyclic hfits
    rw [hmappings, hdistinct]
    cases hcycle : findCycle? d.stepIds d.successors with
    | none => exact .inl ⟨rfl, hfit, hfits, hplaces, hacyclic.1 hcycle⟩
    | some cycle =>
      refine .inr ⟨_, rfl, .cycle hfit hfits hplaces fun h => ?_⟩
      exact absurd ((hacyclic.2 h).symm.trans hcycle) (by simp)

/-- The checks pass exactly for workflows that are as they should be. -/
theorem check_eq_ok_iff (d : Definition) : d.check = .ok () ↔ d.Valid := by
  rcases d.check_cases with ⟨hok, hvalid⟩ | ⟨fault, hfault, hflaw⟩
  · exact ⟨fun _ => hvalid, fun _ => hok⟩
  · exact ⟨fun hok => absurd (hok.symm.trans hfault) (by simp),
      fun hvalid => absurd hvalid hflaw.not_valid⟩

end Definition

namespace Graph

/-- The graph of a workflow is about that workflow. -/
theorem definition_of_ofDefinition {d : Definition} {g : Graph}
    (h : Graph.ofDefinition d = .ok g) : g.definition = d := by
  unfold Graph.ofDefinition at h
  split at h
  · cases h
    rfl
  · cases h

theorem valid (g : Graph) : g.definition.Valid := by
  rcases g.definition.check_cases with ⟨-, h⟩ | ⟨fault, h, -⟩
  · exact h
  · exact absurd (g.checked.symm.trans h) (by simp)

theorem ofDefinition_of_check {d : Definition} (h : d.check = .ok ()) :
    Graph.ofDefinition d = .ok ⟨d, h⟩ := by
  unfold ofDefinition
  split
  · rfl
  · next hfault => exact absurd (h.symm.trans hfault) (by simp)

theorem ofDefinition_of_check_eq_error {d : Definition} {fault : GraphFault}
    (h : d.check = .error fault) : Graph.ofDefinition d = .error fault := by
  unfold ofDefinition
  split
  · next hok => exact absurd (h.symm.trans hok) (by simp)
  · next hfault => rw [Except.error.inj (hfault.symm.trans h)]

theorem check_of_ofDefinition {d : Definition} {fault : GraphFault}
    (h : Graph.ofDefinition d = .error fault) : d.check = .error fault := by
  unfold ofDefinition at h
  split at h
  · cases h
  · next hfault =>
    cases h
    exact hfault

/-- A workflow has a graph exactly when it is valid. Its tables of links then have an entry for
every step, and list, once and from either side, the steps that take values from each other. A
workflow that has no graph is refused for its first flaw. -/
theorem ofDefinition_exact (d : Definition) :
    ((∃ g, Graph.ofDefinition d = .ok g) ↔ d.Valid) ∧
      (∀ g, Graph.ofDefinition d = .ok g → g.definition = d ∧
        d.links.upstream.map Prod.fst = d.stepIds ∧ d.links.downstream.map Prod.fst = d.stepIds ∧
        (∀ id, (d.predecessors id).Nodup ∧ (d.successors id).Nodup) ∧
        ∀ source target, (source ∈ d.predecessors target ↔ target ∈ d.successors source) ∧
          (source ∈ d.predecessors target ↔ d.Feeds source target)) ∧
      ∀ kind, (∃ fault, Graph.ofDefinition d = .error fault ∧ fault.failure.kind = kind) ↔
        d.FirstFlaw kind := by
  refine ⟨⟨?_, fun valid => ?_⟩, ?_, fun kind => ⟨?_, fun flaw => ?_⟩⟩
  · rintro ⟨g, hg⟩
    exact definition_of_ofDefinition hg ▸ g.valid
  · rcases d.check_cases with ⟨hok, -⟩ | ⟨fault, -, hflaw⟩
    · exact ⟨_, ofDefinition_of_check hok⟩
    · exact absurd valid hflaw.not_valid
  · intro g hg
    have hd := definition_of_ofDefinition hg
    have hvalid : d.Valid := hd ▸ g.valid
    refine ⟨hd, d.links_lists.upstream_keys, d.links_lists.downstream_keys, fun id =>
      ⟨d.predecessors_nodup id, d.successors_nodup id⟩, fun source target => ?_⟩
    exact ⟨Definition.mem_successors_iff.symm,
      (Definition.feeds_iff_mem_predecessors hvalid.mappings).symm⟩
  · rintro ⟨fault, h, rfl⟩
    rcases d.check_cases with ⟨hok, -⟩ | ⟨fault', hfault, hflaw⟩
    · exact absurd ((check_of_ofDefinition h).symm.trans hok) (by simp)
    · cases (check_of_ofDefinition h).symm.trans hfault
      exact hflaw
  · rcases d.check_cases with ⟨-, hvalid⟩ | ⟨fault, hfault, hflaw⟩
    · exact absurd hvalid flaw.not_valid
    · exact ⟨fault, ofDefinition_of_check_eq_error hfault, hflaw.unique flaw⟩

end Graph

end Conduit
