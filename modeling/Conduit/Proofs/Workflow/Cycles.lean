import Conduit.Proofs.Workflow.Order
import Mathlib.Data.List.Chain
import Mathlib.Data.List.Perm.Subperm
import Mathlib.Logic.Relation

/-!
# Workflows without cycles

A search in depth that meets no cycle is done with every step after it is done with all steps that
can be reached from it. So the steps that it is done with stand in an order of their own, nothing
leads from a step back to it, and the first of the steps that is not listed yet can be listed next:
the linear order of a graph lists all steps. A search that stops has walked along a cycle.

* `Searched` — what a search that meets no cycle leaves behind;
* `searchFrom_searched`, `searchAll_searched` — that it leaves this behind;
* `IsCycle`, `isCycle_of_findCycle?` — what a search that stops has met;
* `findCycle?_eq_none_iff` — a cycle is met exactly when a step leads back to itself;
* `exists_ready` — some step can be listed next;
* `Graph.mem_order`, `Graph.order_perm` — the order of a graph lists all steps.
-/

namespace Conduit

/-! ## Searches -/

/-- A search that was done with `finished` is done with `found`: with more steps, none of which is
on its path, and with each after all that come next to it. -/
structure Searched (next : String → List String) (ids path finished found : List String) :
    Prop where
  kept : ∀ id ∈ finished, id ∈ found
  fresh : ∀ id ∈ found, id ∈ finished ∨ id ∉ path
  known : ∀ id ∈ found, id ∈ ids
  nodup : found.Nodup
  ordered : Precedes next found.reverse

/-- What a search can start from. -/
theorem Searched.refl {next : String → List String} {ids finished : List String}
    (path : List String) (known : ∀ id ∈ finished, id ∈ ids) (nodup : finished.Nodup)
    (ordered : Precedes next finished.reverse) : Searched next ids path finished finished :=
  ⟨fun _ h => h, fun _ h => .inl h, known, nodup, ordered⟩

theorem Searched.trans {next : String → List String} {ids path finished found more : List String}
    (h : Searched next ids path finished found) (h' : Searched next ids path found more) :
    Searched next ids path finished more where
  kept := fun id hid => h'.kept id (h.kept id hid)
  fresh := by
    intro id hid
    rcases h'.fresh id hid with hid | hid
    · exact h.fresh id hid
    · exact .inr hid
  known := h'.known
  nodup := h'.nodup
  ordered := h'.ordered

section Search

variable {next : String → List String} {ids : List String}

/-- Children are searched one by one, so what holds of a search from a child holds of all. -/
theorem foldlM_searched {path : List String}
    {search : List String → String → Except (List String) (List String)}
    (children : List String)
    (step : ∀ finished child found, child ∈ children → Searched next ids path finished finished →
      search finished child = .ok found →
      Searched next ids path finished found ∧ child ∈ found) :
    ∀ finished found, Searched next ids path finished finished →
      children.foldlM search finished = .ok found →
      Searched next ids path finished found ∧ ∀ child ∈ children, child ∈ found := by
  induction children with
  | nil =>
    intro finished found start h
    cases h
    exact ⟨start, by simp⟩
  | cons child rest ih =>
    intro finished found start h
    rw [List.foldlM_cons, except_bind_eq_ok] at h
    obtain ⟨mid, hmid, h⟩ := h
    obtain ⟨hfirst, hchild⟩ := step finished child mid List.mem_cons_self start hmid
    obtain ⟨hrest, hothers⟩ := ih
      (fun finished child found hmem => step finished child found (List.mem_cons_of_mem _ hmem))
      mid found (.refl path hfirst.known hfirst.nodup hfirst.ordered) h
    refine ⟨hfirst.trans hrest, ?_⟩
    rw [List.forall_mem_cons]
    exact ⟨hrest.kept child hchild, hothers⟩

/-- A search from a step that meets no cycle is done with the step and with what can be reached from
it. The path has no step twice, so the fuel never runs out. -/
theorem searchFrom_searched (closed : ∀ id ∈ ids, ∀ child ∈ next id, child ∈ ids) (fuel : Nat) :
    ∀ (node : String) (ancestors finished found : List String), (node :: ancestors).Nodup →
      (∀ id ∈ node :: ancestors, id ∈ ids) → ids.length < ancestors.length + 1 + fuel →
      node ∉ finished → Searched next ids ancestors finished finished →
      searchFrom next fuel (node :: ancestors) finished = .ok found →
      Searched next ids ancestors finished found ∧ node ∈ found := by
  induction fuel with
  | zero =>
    intro node ancestors finished found nodup known enough
    have hle := (List.subperm_of_subset nodup known).length_le
    rw [List.length_cons] at hle
    omega
  | succ fuel ih =>
    intro node ancestors finished found nodup known enough hnew start h
    rw [searchFrom, except_bind_eq_ok] at h
    obtain ⟨found, hfold, h⟩ := h
    cases h
    have hnode : node ∈ ids := known node List.mem_cons_self
    have hsearch : Searched next ids (node :: ancestors) finished found ∧
        ∀ child ∈ next node, child ∈ found := by
      refine foldlM_searched (next node) ?_ finished found
        (.refl _ start.known start.nodup start.ordered) hfold
      intro finished child found hchild start h
      by_cases hpath : child ∈ node :: ancestors
      · rw [if_pos hpath] at h
        cases h
      · rw [if_neg hpath] at h
        by_cases hdone : child ∈ finished
        · rw [if_pos hdone] at h
          cases h
          exact ⟨start, hdone⟩
        · rw [if_neg hdone] at h
          refine ih child (node :: ancestors) finished found (List.nodup_cons.2 ⟨hpath, nodup⟩) ?_ ?_
            hdone start h
          · rw [List.forall_mem_cons]
            exact ⟨closed node hnode child hchild, known⟩
          · rw [List.length_cons]
            omega
    obtain ⟨hfound, hchildren⟩ := hsearch
    -- the step itself was on the path all along, so no child is done with it
    have hnot : node ∉ found := by
      intro hmem
      rcases hfound.fresh node hmem with hold | hoff
      · exact hnew hold
      · exact hoff List.mem_cons_self
    refine ⟨⟨fun id hid => List.mem_cons_of_mem _ (hfound.kept id hid), ?_, ?_, ?_, ?_⟩,
      List.mem_cons_self⟩
    · intro id hid
      rcases List.mem_cons.1 hid with rfl | hid
      · exact .inr (List.nodup_cons.1 nodup).1
      · exact (hfound.fresh id hid).imp_right fun hoff hmem => hoff (List.mem_cons_of_mem _ hmem)
    · intro id hid
      rcases List.mem_cons.1 hid with rfl | hid
      · exact hnode
      · exact hfound.known id hid
    · exact List.nodup_cons.2 ⟨hnot, hfound.nodup⟩
    · rw [List.reverse_cons]
      exact hfound.ordered.concat fun child hchild => List.mem_reverse.2 (hchildren child hchild)

/-- A search from every step that meets no cycle is done with all of them. -/
theorem searchAll_searched (closed : ∀ id ∈ ids, ∀ child ∈ next id, child ∈ ids)
    (roots : List String) (known : ∀ id ∈ roots, id ∈ ids) :
    ∀ finished found, Searched next ids [] finished finished →
      searchAll next (ids.length + 1) roots finished = .ok found →
      Searched next ids [] finished found ∧ ∀ id ∈ roots, id ∈ found := by
  induction roots with
  | nil =>
    intro finished found start h
    cases h
    exact ⟨start, by simp⟩
  | cons root rest ih =>
    intro finished found start h
    rw [List.forall_mem_cons] at known
    have hroot : ∃ mid, Searched next ids [] finished mid ∧ root ∈ mid ∧
        searchAll next (ids.length + 1) rest mid = .ok found := by
      rw [searchAll] at h
      by_cases hdone : root ∈ finished
      · rw [if_pos hdone] at h
        exact ⟨finished, start, hdone, h⟩
      · rw [if_neg hdone, except_bind_eq_ok] at h
        obtain ⟨mid, hmid, h⟩ := h
        have hknown : ∀ id ∈ [root], id ∈ ids := fun id hid =>
          List.mem_singleton.1 hid ▸ known.1
        obtain ⟨hsearched, hmem⟩ := searchFrom_searched closed (ids.length + 1) root [] finished mid
          (List.nodup_singleton root) hknown (by simp; omega) hdone start hmid
        exact ⟨mid, hsearched, hmem, h⟩
    obtain ⟨mid, hsearched, hmem, h⟩ := hroot
    obtain ⟨hrest, hothers⟩ := ih known.2 mid found
      (.refl [] hsearched.known hsearched.nodup hsearched.ordered) h
    refine ⟨hsearched.trans hrest, ?_⟩
    rw [List.forall_mem_cons]
    exact ⟨hrest.kept root hmem, hothers⟩

/-- Steps among which no cycle is met stand in an order in which each comes before all that come
next to it. -/
theorem exists_precedes_of_findCycle? (closed : ∀ id ∈ ids, ∀ child ∈ next id, child ∈ ids)
    (acyclic : findCycle? ids next = none) :
    ∃ found : List String, found.Nodup ∧ (∀ id ∈ ids, id ∈ found) ∧
      Precedes next found.reverse := by
  unfold findCycle? at acyclic
  split at acyclic
  · cases acyclic
  · next found hfound =>
    obtain ⟨hsearched, hall⟩ := searchAll_searched closed ids (fun _ h => h) [] found
      (.refl [] (by simp) .nil (.nil next)) hfound
    exact ⟨found, hsearched.nodup, hall, hsearched.ordered⟩

end Search

/-! ## Cycles -/

/-- A walk along steps, each next to the one before it, that ends where it began and has no step
twice on the way. -/
def IsCycle (next : String → List String) (cycle : List String) : Prop :=
  ∃ first rest, cycle = first :: rest ++ [first] ∧ (first :: rest).Nodup ∧
    cycle.IsChain fun source target => target ∈ next source

/-- The first and the last step of a walk are related. -/
theorem transGen_of_isChain {α : Type} {r : α → α → Prop} {first last : α} {between : List α}
    (h : (first :: between ++ [last]).IsChain r) : Relation.TransGen r first last := by
  induction between generalizing first with
  | nil => exact .single (List.isChain_cons_cons.1 h).1
  | cons second between ih =>
    obtain ⟨hstep, hrest⟩ := List.isChain_cons_cons.1 h
    exact .head hstep (ih hrest)

theorem IsCycle.transGen {next : String → List String} {cycle : List String}
    (h : IsCycle next cycle) :
    ∃ id ∈ cycle, Relation.TransGen (fun source target => target ∈ next source) id id := by
  obtain ⟨first, rest, rfl, -, hchain⟩ := h
  exact ⟨first, by simp, transGen_of_isChain hchain⟩

/-- A path that leads back to where a search began, from a step next to which one of its steps comes
again, closes to a cycle at that step. -/
theorem isCycle_of_path {next : String → List String} {node child : String}
    {ancestors : List String} (nodup : (node :: ancestors).Nodup)
    (path : (node :: ancestors).IsChain fun target source => target ∈ next source)
    (hnext : child ∈ next node) (hmem : child ∈ node :: ancestors) :
    IsCycle next
      (((node :: ancestors).takeWhile (· ≠ child) ++ [child]).reverse ++ [child]) := by
  obtain ⟨front, back, hsplit, hfront⟩ := List.eq_append_cons_of_mem hmem
  have htake : (node :: ancestors).takeWhile (· ≠ child) = front := by
    rw [hsplit, List.takeWhile_append_of_pos fun id hid => ?_]
    · simp
    · exact decide_eq_true fun heq => hfront (heq ▸ hid)
  have hwalk : (front ++ [child]).reverse = child :: front.reverse := by simp
  rw [htake, hwalk]
  rw [hsplit, ← List.singleton_append, ← List.append_assoc] at nodup path
  refine ⟨child, front.reverse, rfl, ?_, ?_⟩
  · rw [← hwalk, List.nodup_reverse]
    exact (List.nodup_append.1 nodup).1
  · rw [← hwalk, List.isChain_append, List.isChain_reverse]
    refine ⟨path.left_of_append, List.isChain_singleton _, fun source hsource target htarget => ?_⟩
    -- the step before the end of the walk is the one that the search stands at
    rw [List.getLast?_reverse] at hsource
    have hhead : (front ++ [child]).head? = some node := by
      cases front <;> simp_all
    cases hhead.symm.trans hsource
    cases htarget
    exact hnext

section Search

variable {next : String → List String} {ids : List String}

/-- A search from a step that stops has met a cycle. -/
theorem isCycle_of_searchFrom (closed : ∀ id ∈ ids, ∀ child ∈ next id, child ∈ ids) (fuel : Nat) :
    ∀ (node : String) (ancestors finished cycle : List String), (node :: ancestors).Nodup →
      (node :: ancestors).IsChain (fun target source => target ∈ next source) →
      (∀ id ∈ node :: ancestors, id ∈ ids) →
      searchFrom next fuel (node :: ancestors) finished = .error cycle →
      IsCycle next cycle ∧ ∀ id ∈ cycle, id ∈ ids := by
  induction fuel with
  | zero =>
    intro node ancestors finished cycle _ _ _ h
    cases h
  | succ fuel ih =>
    intro node ancestors finished cycle nodup path known h
    rw [searchFrom, except_bind_eq_error] at h
    rcases h with h | ⟨found, -, h⟩
    swap
    · cases h
    obtain ⟨front, child, back, finished, hsplit, -, h⟩ := foldlM_eq_error_iff.1 h
    have hchild : child ∈ next node := hsplit ▸ List.mem_append_right _ List.mem_cons_self
    split at h
    · next hmem =>
      cases h
      refine ⟨isCycle_of_path nodup path hchild hmem, fun id hid => ?_⟩
      have hon : id ∈ node :: ancestors := by
        rcases List.mem_append.1 hid with hid | hid
        · rw [List.mem_reverse, List.mem_append, List.mem_singleton] at hid
          rcases hid with hid | rfl
          · exact (List.takeWhile_sublist _).mem hid
          · exact hmem
        · exact List.mem_singleton.1 hid ▸ hmem
      exact known id hon
    · next hoff =>
      split at h
      · cases h
      · refine ih child (node :: ancestors) finished cycle (List.nodup_cons.2 ⟨hoff, nodup⟩)
          (List.isChain_cons_cons.2 ⟨hchild, path⟩) ?_ h
        exact List.forall_mem_cons.2 ⟨closed node (known node List.mem_cons_self) child hchild, known⟩

/-- A search from every step that stops has met a cycle. -/
theorem isCycle_of_searchAll (closed : ∀ id ∈ ids, ∀ child ∈ next id, child ∈ ids) {fuel : Nat}
    (roots : List String) (known : ∀ id ∈ roots, id ∈ ids) :
    ∀ finished cycle, searchAll next fuel roots finished = .error cycle →
      IsCycle next cycle ∧ ∀ id ∈ cycle, id ∈ ids := by
  induction roots with
  | nil =>
    intro finished cycle h
    cases h
  | cons root rest ih =>
    intro finished cycle h
    rw [List.forall_mem_cons] at known
    rw [searchAll] at h
    split at h
    · exact ih known.2 finished cycle h
    · rw [except_bind_eq_error] at h
      rcases h with h | ⟨found, -, h⟩
      · exact isCycle_of_searchFrom closed fuel root [] finished cycle (List.nodup_singleton root)
          (List.isChain_singleton root) (by simpa using known.1) h
      · exact ih known.2 found cycle h

/-- What is met is a cycle of steps. -/
theorem isCycle_of_findCycle? (closed : ∀ id ∈ ids, ∀ child ∈ next id, child ∈ ids)
    {cycle : List String} (h : findCycle? ids next = some cycle) :
    IsCycle next cycle ∧ ∀ id ∈ cycle, id ∈ ids := by
  unfold findCycle? at h
  split at h
  · next hcycle =>
    cases h
    exact isCycle_of_searchAll closed ids (fun _ hid => hid) [] cycle hcycle
  · cases h

/-- A cycle is met exactly when some step leads back to itself. -/
theorem findCycle?_eq_none_iff (closed : ∀ id ∈ ids, ∀ child ∈ next id, child ∈ ids) :
    findCycle? ids next = none ↔
      ∀ id ∈ ids, ¬Relation.TransGen (fun source target => target ∈ next source) id id := by
  constructor
  · intro acyclic id hid hback
    obtain ⟨found, -, hall, hordered⟩ := exists_precedes_of_findCycle? closed acyclic
    -- along the way from a step, the places in the order fall
    have hfalls : ∀ target, Relation.TransGen (fun source target => target ∈ next source) id target →
        target ∈ ids ∧ found.reverse.idxOf target < found.reverse.idxOf id := by
      intro target hway
      induction hway with
      | single hstep =>
        exact ⟨closed id hid _ hstep,
          hordered.idxOf_lt (List.mem_reverse.2 (hall id hid)) hstep⟩
      | tail _ hstep ih =>
        obtain ⟨hsource, hlt⟩ := ih
        refine ⟨closed _ hsource _ hstep, Nat.lt_trans ?_ hlt⟩
        exact hordered.idxOf_lt (List.mem_reverse.2 (hall _ hsource)) hstep
    exact Nat.lt_irrefl _ (hfalls id hback).2
  · intro acyclic
    cases hfind : findCycle? ids next with
    | none => rfl
    | some cycle =>
      obtain ⟨hcycle, hknown⟩ := isCycle_of_findCycle? closed hfind
      obtain ⟨id, hid, hback⟩ := hcycle.transGen
      exact absurd hback (acyclic id (hknown id hid))

end Search

/-! ## Listings -/

/-- When no cycle is met, some step that waits comes next to listed steps alone: the first that
waits, in the order in which each step stands before all that come next to it. -/
theorem exists_ready {next needs : String → List String} {ids waiting listed : List String}
    (closed : ∀ id ∈ ids, ∀ child ∈ next id, child ∈ ids)
    (acyclic : findCycle? ids next = none)
    (known : ∀ id ∈ ids, ∀ source ∈ needs id, source ∈ ids ∧ id ∈ next source)
    (placed : ∀ id ∈ ids, id ∈ waiting ∨ id ∈ listed) (declared : ∀ id ∈ waiting, id ∈ ids)
    (some_wait : waiting ≠ []) :
    ∃ id ∈ waiting, ∀ source ∈ needs id, source ∈ listed := by
  obtain ⟨found, hnodup, hall, hordered⟩ := exists_precedes_of_findCycle? closed acyclic
  cases hfirst : found.find? fun id => decide (id ∈ waiting) with
  | none =>
    obtain ⟨id, hid⟩ := List.exists_mem_of_ne_nil waiting some_wait
    have hnot := List.find?_eq_none.1 hfirst id (hall id (declared id hid))
    exact absurd (decide_eq_true hid) hnot
  | some id =>
    obtain ⟨hwaits, front, back, hfound, hfront⟩ := List.find?_eq_some_iff_append.1 hfirst
    have hid : id ∈ waiting := of_decide_eq_true hwaits
    refine ⟨id, hid, fun source hsource => ?_⟩
    obtain ⟨hsource, hnext⟩ := known id (declared id hid) source hsource
    refine (placed source hsource).resolve_left fun hw => ?_
    -- a source that waits stands after the first step that waits, and so does that step itself
    have hmem := hall source hsource
    rw [hfound, List.mem_append, List.mem_cons] at hmem
    have hback : ∀ before after, found = before ++ source :: after → id ∈ after := by
      intro before after hsplit
      have hreverse : found.reverse = after.reverse ++ source :: before.reverse := by
        rw [hsplit]
        simp
      exact List.mem_reverse.1 (hordered _ _ _ hreverse id hnext)
    rw [hfound] at hnodup
    have honce := (List.nodup_cons.1 (List.nodup_append'.1 hnodup).2.1).1
    rcases hmem with hbefore | rfl | hafter
    · have hnot := hfront source hbefore
      rw [decide_eq_true hw] at hnot
      cases hnot
    · exact honce (hback front back hfound)
    · obtain ⟨before, after, rfl⟩ := List.append_of_mem hafter
      refine honce (List.mem_append_right _ (List.mem_cons_of_mem _ ?_))
      exact hback (front ++ id :: before) after (by rw [hfound]; simp)

/-! ## Graphs -/

namespace Graph

/-- No cycle is met in a graph. -/
theorem acyclic (g : Graph) : findCycle? g.definition.stepIds g.definition.successors = none := by
  have h := g.checked
  simp only [Definition.check, except_bind_eq_ok] at h
  obtain ⟨-, -, -, -, -, -, h⟩ := h
  split at h
  · cases h
  · assumption

/-- The order of a graph lists all of its steps: as long as steps wait, one of them is ready. -/
theorem mem_order (g : Graph) {id : String} : id ∈ g.order ↔ id ∈ g.definition.stepIds := by
  refine ⟨g.order_subset, ?_⟩
  obtain ⟨hgreedy, hlength | hstuck⟩ := g.order_spec
  · have hperm := (List.subperm_of_subset hgreedy.nodup hgreedy.subset).perm_of_length_le hlength.ge
    exact hperm.mem_iff.2
  intro hid
  by_contra hnew
  have hclosed : ∀ source ∈ g.definition.stepIds, ∀ target ∈ g.definition.successors source,
      target ∈ g.definition.stepIds := by
    intro source _ target htarget
    rw [Definition.mem_successors_iff, Definition.mem_predecessors_iff] at htarget
    exact htarget.2.2
  have hknown : ∀ target ∈ g.definition.stepIds, ∀ source ∈ g.definition.predecessors target,
      source ∈ g.definition.stepIds ∧ target ∈ g.definition.successors source := by
    intro target _ source hsource
    exact ⟨(Definition.mem_predecessors_iff.1 hsource).2.1, Definition.mem_successors_iff.2 hsource⟩
  have hplaced : ∀ other ∈ g.definition.stepIds,
      other ∈ g.definition.stepIds.filter (fun id => decide (id ∉ g.order)) ∨ other ∈ g.order := by
    intro other hother
    by_cases hlisted : other ∈ g.order
    · exact .inr hlisted
    · exact .inl (List.mem_filter.2 ⟨hother, decide_eq_true hlisted⟩)
  obtain ⟨other, hother, hready⟩ := exists_ready hclosed g.acyclic hknown hplaced
    (fun _ h => List.mem_of_mem_filter h)
    (List.ne_nil_of_mem (List.mem_filter.2 ⟨hid, decide_eq_true hnew⟩))
  rw [List.mem_filter] at hother
  exact hstuck other hother.1 (of_decide_eq_true hother.2) hready

/-- The order of a graph is an order of its steps. -/
theorem order_perm (g : Graph) : g.order.Perm g.definition.stepIds :=
  (List.perm_ext_iff_of_nodup g.order_nodup g.stepIds_nodup).2 fun _ => g.mem_order

end Graph

end Conduit
