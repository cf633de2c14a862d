import Conduit.Workflow.Graph
import Mathlib.Data.List.Nodup

/-!
# Which steps take values from which

The two tables of links are filled mapping by mapping, and only one of them is asked whether a link
is there already. They agree all the same: each lists the links from step to step, once and no
others.

* `Definition.Feeds` — some mapping leads from one step to another;
* `Links.Lists` — the tables list a relation between steps, each from its side;
* `Definition.links_lists` — the tables of a workflow list its links.
-/

namespace Conduit

/-- Some mapping leads from one step to another. -/
def Definition.Feeds (d : Definition) (source target : String) : Prop :=
  ∃ m ∈ d.mappings, m.source = .step source ∧ m.target = .step target

/-! ## Tables -/

theorem lookup_cons_eq_ite {α : Type} (key id : String) (entry : α) (rest : List (String × α)) :
    ((key, entry) :: rest).lookup id = if id = key then some entry else rest.lookup id := by
  rw [List.lookup_cons]
  by_cases heq : id = key
  · simp [heq]
  · rw [beq_eq_false_iff_ne.2 heq, if_neg heq]

theorem lookup_amend {α : Type} (change : α → α) (id other : String) (table : List (String × α)) :
    (amend change id table).lookup other =
      if other = id then (table.lookup other).map change else table.lookup other := by
  induction table with
  | nil => simp [amend]
  | cons row rest ih =>
    obtain ⟨key, entry⟩ := row
    rw [amend] at ih
    rw [amend, List.map_cons, lookup_cons_eq_ite]
    by_cases hkey : key = id
    · rw [if_pos hkey, lookup_cons_eq_ite, ih]
      by_cases hother : other = key
      · simp [hother, hkey]
      · simp [hother]
    · rw [if_neg hkey, lookup_cons_eq_ite, ih]
      by_cases hother : other = key
      · simp [hother, hkey]
      · simp [hother]

@[simp] theorem keys_amend {α : Type} (change : α → α) (id : String) (table : List (String × α)) :
    (amend change id table).map Prod.fst = table.map Prod.fst := by
  rw [amend, List.map_map]
  refine List.map_congr_left fun row _ => ?_
  rw [Function.comp_apply]
  split <;> rfl

theorem isSome_lookup_of_mem_keys {α : Type} {id : String} {table : List (String × α)}
    (h : id ∈ table.map Prod.fst) : (table.lookup id).isSome := by
  induction table with
  | nil => cases h
  | cons row rest ih =>
    obtain ⟨key, entry⟩ := row
    rw [lookup_cons_eq_ite]
    split
    · rfl
    · next hne => exact ih ((List.mem_cons.1 h).resolve_left hne)

/-- A table that is made row by row has the row of every key that it is made for. -/
theorem lookup_map_pair {α : Type} (f : String → α) (ids : List String) (id : String) :
    (ids.map fun id => (id, f id)).lookup id = if id ∈ ids then some (f id) else none := by
  induction ids with
  | nil => rfl
  | cons first rest ih =>
    rw [List.map_cons, lookup_cons_eq_ite, ih]
    by_cases heq : id = first
    · simp [heq]
    · simp [heq]

/-- An entry gets longer by what is added to it, the others stay. -/
theorem entryOf_amend {table : List (String × List String)} {id : String}
    (present : id ∈ table.map Prod.fst) (item other : String) :
    entryOf (amend (· ++ [item]) id table) other =
      if other = id then entryOf table other ++ [item] else entryOf table other := by
  unfold entryOf
  rw [lookup_amend]
  by_cases heq : other = id
  · subst heq
    obtain ⟨entry, hentry⟩ := Option.isSome_iff_exists.1 (isSome_lookup_of_mem_keys present)
    simp [hentry]
  · simp [heq]

/-! ## Links -/

namespace Links

/-- The tables of links between some steps list a relation, each from its side. -/
structure Lists (known : List String) (relation : String → String → Prop) (links : Links) :
    Prop where
  upstream_keys : links.upstream.map Prod.fst = known
  downstream_keys : links.downstream.map Prod.fst = known
  mem_upstream : ∀ source target, source ∈ entryOf links.upstream target ↔ relation source target
  mem_downstream : ∀ source target,
    target ∈ entryOf links.downstream source ↔ relation source target
  upstream_nodup : ∀ target, (entryOf links.upstream target).Nodup
  downstream_nodup : ∀ source, (entryOf links.downstream source).Nodup

theorem Lists.congr {known : List String} {relation relation' : String → String → Prop}
    {links : Links} (h : links.Lists known relation)
    (same : ∀ source target, relation source target ↔ relation' source target) :
    links.Lists known relation' where
  upstream_keys := h.upstream_keys
  downstream_keys := h.downstream_keys
  mem_upstream := fun source target => (h.mem_upstream source target).trans (same source target)
  mem_downstream := fun source target => (h.mem_downstream source target).trans (same source target)
  upstream_nodup := h.upstream_nodup
  downstream_nodup := h.downstream_nodup

theorem Lists.ofIds (known : List String) : (Links.ofIds known).Lists known fun _ _ => False := by
  have hentry : ∀ id, entryOf (known.map fun id => (id, [])) id = [] := by
    intro id
    rw [entryOf, lookup_map_pair]
    split <;> rfl
  have hkeys : (known.map fun id => (id, ([] : List String))).map Prod.fst = known := by
    simp [Function.comp_def]
  refine ⟨hkeys, hkeys, ?_, ?_, ?_, ?_⟩ <;> intros <;> simp [Links.ofIds, hentry]

/-- Entering a link adds it to the relation. Whether it is there is asked on one side only, and the
relation is the same on the other. -/
theorem Lists.add {known : List String} {relation : String → String → Prop} {links : Links}
    (h : links.Lists known relation) {source target : String} (hsource : source ∈ known)
    (htarget : target ∈ known) :
    (links.add source target).Lists known fun s t =>
      relation s t ∨ (s = source ∧ t = target) := by
  unfold Links.add
  split
  · next hthere =>
    refine h.congr fun s t => ⟨.inl, ?_⟩
    rintro (hrel | ⟨rfl, rfl⟩)
    · exact hrel
    · exact (h.mem_upstream s t).1 hthere
  · next hnew =>
    have hnew' : target ∉ entryOf links.downstream source := fun hmem =>
      hnew ((h.mem_upstream _ _).2 ((h.mem_downstream _ _).1 hmem))
    have hup : target ∈ links.upstream.map Prod.fst := h.upstream_keys ▸ htarget
    have hdown : source ∈ links.downstream.map Prod.fst := h.downstream_keys ▸ hsource
    refine ⟨?_, ?_, ?_, ?_, ?_, ?_⟩
    · rw [keys_amend, h.upstream_keys]
    · rw [keys_amend, h.downstream_keys]
    · intro s t
      rw [entryOf_amend hup, ← h.mem_upstream]
      by_cases heq : t = target
      · simp [heq]
      · simp [heq]
    · intro s t
      rw [entryOf_amend hdown, ← h.mem_downstream]
      by_cases heq : s = source
      · simp [heq]
      · simp [heq]
    · intro t
      rw [entryOf_amend hup]
      split
      · next heq =>
        subst heq
        exact List.concat_eq_append ▸ (h.upstream_nodup t).concat hnew
      · exact h.upstream_nodup t
    · intro s
      rw [entryOf_amend hdown]
      split
      · next heq =>
        subst heq
        exact List.concat_eq_append ▸ (h.downstream_nodup s).concat hnew'
      · exact h.downstream_nodup s

/-- Entering a mapping adds its link, when both of its ends are steps that are there. -/
theorem Lists.enter {known : List String} {relation : String → String → Prop} {links : Links}
    (h : links.Lists known relation) (m : Mapping) :
    (links.enter known m).Lists known fun s t =>
      relation s t ∨ (m.source = .step s ∧ m.target = .step t ∧ s ∈ known ∧ t ∈ known) := by
  unfold Links.enter
  split
  · next source target hsource htarget =>
    split
    · next hknown =>
      refine (h.add hknown.1 hknown.2).congr fun s t => or_congr_right ?_
      rw [hsource, htarget, Origin.step.injEq, Destination.step.injEq]
      constructor
      · rintro ⟨rfl, rfl⟩
        exact ⟨rfl, rfl, hknown⟩
      · rintro ⟨rfl, rfl, -⟩
        exact ⟨rfl, rfl⟩
    · next hunknown =>
      refine h.congr fun s t => ⟨.inl, ?_⟩
      rintro (hrel | ⟨hs, ht, hboth⟩)
      · exact hrel
      · rw [hsource, Origin.step.injEq] at hs
        rw [htarget, Destination.step.injEq] at ht
        exact absurd (hs ▸ ht ▸ hboth) hunknown
  · next hother =>
    refine h.congr fun s t => ⟨.inl, ?_⟩
    rintro (hrel | ⟨hs, ht, -⟩)
    · exact hrel
    · exact absurd ht (hother s t hs)

/-- Entering mappings one by one adds the links of all of them. -/
theorem Lists.foldl {known : List String} (mappings : List Mapping) :
    ∀ {relation : String → String → Prop} {links : Links}, links.Lists known relation →
      (mappings.foldl (Links.enter known) links).Lists known fun s t =>
        relation s t ∨
          ((∃ m ∈ mappings, m.source = .step s ∧ m.target = .step t) ∧ s ∈ known ∧ t ∈ known) := by
  induction mappings with
  | nil =>
    intro relation links h
    exact h.congr fun s t => by simp
  | cons m rest ih =>
    intro relation links h
    refine (ih (h.enter m)).congr fun s t => ?_
    rw [List.exists_mem_cons_iff]
    tauto

end Links

namespace Definition

/-- The tables of a workflow list the mappings that lead from step to step. -/
theorem links_lists (d : Definition) :
    d.links.Lists d.stepIds fun source target =>
      d.Feeds source target ∧ source ∈ d.stepIds ∧ target ∈ d.stepIds :=
  (Links.Lists.foldl d.mappings (.ofIds d.stepIds)).congr fun _ _ => by
    simp [Feeds]

/-- A step takes values from another if a mapping leads from that to it. -/
theorem mem_predecessors_iff {d : Definition} {source target : String} :
    source ∈ d.predecessors target ↔
      d.Feeds source target ∧ source ∈ d.stepIds ∧ target ∈ d.stepIds :=
  d.links_lists.mem_upstream source target

/-- A step takes values from those whose values go to it. -/
theorem mem_successors_iff {d : Definition} {source target : String} :
    target ∈ d.successors source ↔ source ∈ d.predecessors target :=
  (d.links_lists.mem_downstream source target).trans mem_predecessors_iff.symm

theorem predecessors_nodup (d : Definition) (id : String) : (d.predecessors id).Nodup :=
  d.links_lists.upstream_nodup id

theorem successors_nodup (d : Definition) (id : String) : (d.successors id).Nodup :=
  d.links_lists.downstream_nodup id

/-- A step that a mapping leads from is a predecessor of the step that it leads to. -/
theorem mem_predecessors {d : Definition} {m : Mapping} {source target : String}
    (hm : m ∈ d.mappings) (hs : m.source = .step source) (ht : m.target = .step target)
    (hsource : source ∈ d.stepIds) (htarget : target ∈ d.stepIds) :
    source ∈ d.predecessors target :=
  mem_predecessors_iff.2 ⟨⟨m, hm, hs, ht⟩, hsource, htarget⟩

end Definition

end Conduit
