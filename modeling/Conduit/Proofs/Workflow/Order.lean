import Conduit.Proofs.Workflow.Checks
import Conduit.Proofs.Workflow.Links
import Conduit.Workflow.Linear
import Mathlib.Data.List.Induction

/-!
# The order of a workflow

A listing counts for each step the sources that are not listed. When the count comes down to nothing
the step joins a queue that is ascending by position, so that the step listed next is always the
earliest declared one of those that could be.

* `Stepwise` — every item of a list fits the items before it;
* `Precedes`, `Greedy` — each stands after what it needs, and is the earliest that does;
* `Greedy.unique` — there is one such list of a length at most;
* `Lineup.Tallied` — what the counts and the queue of a listing say about the steps;
* `Graph.order_greedy`, `Graph.order_precedes`, `Graph.order_nodup` — the order of a graph.
-/

namespace Conduit

/-! ## Lists that fit step by step -/

/-- Every item of a list fits the items before it. -/
def Stepwise {α : Type} (fits : List α → α → Prop) (l : List α) : Prop :=
  ∀ front item back, l = front ++ item :: back → fits front item

section Stepwise

variable {α : Type} {fits : List α → α → Prop}

theorem Stepwise.nil (fits : List α → α → Prop) : Stepwise fits [] := by
  intro front item back h
  exact absurd h.symm (by simp)

theorem stepwise_concat {l : List α} {item : α} :
    Stepwise fits (l ++ [item]) ↔ Stepwise fits l ∧ fits l item := by
  constructor
  · intro h
    refine ⟨fun front x back hl => h front x (back ++ [item]) ?_, h l item [] rfl⟩
    rw [hl, List.append_assoc, List.cons_append]
  · rintro ⟨hl, hitem⟩ front x back h
    rcases List.eq_nil_or_concat back with rfl | ⟨back, last, rfl⟩
    · obtain ⟨rfl, hx⟩ := List.append_inj' h rfl
      cases hx
      exact hitem
    · rw [List.concat_eq_append, ← List.cons_append, ← List.append_assoc] at h
      obtain ⟨rfl, -⟩ := List.append_inj' h rfl
      exact hl front x back rfl

theorem Stepwise.mono {fits' : List α → α → Prop} {l : List α} (h : Stepwise fits l)
    (weaker : ∀ front item, fits front item → fits' front item) : Stepwise fits' l :=
  fun front item back hl => weaker front item (h front item back hl)

theorem Stepwise.nodup {l : List α} (h : Stepwise (fun front item => item ∉ front) l) :
    l.Nodup := by
  induction l using List.reverseRecOn with
  | nil => exact List.nodup_nil
  | append_singleton l item ih =>
    obtain ⟨hl, hitem⟩ := stepwise_concat.1 h
    exact List.concat_eq_append ▸ (ih hl).concat hitem

end Stepwise

/-- Every item of a list stands after all items that it needs. -/
def Precedes (needs : String → List String) (l : List String) : Prop :=
  Stepwise (fun front item => ∀ s ∈ needs item, s ∈ front) l

theorem Precedes.nil (needs : String → List String) : Precedes needs [] := Stepwise.nil _

/-- An item may be added at the end when all that it needs is there. -/
theorem Precedes.concat {needs : String → List String} {l : List String} {item : String}
    (hl : Precedes needs l) (hitem : ∀ s ∈ needs item, s ∈ l) : Precedes needs (l ++ [item]) :=
  stepwise_concat.2 ⟨hl, hitem⟩

theorem Precedes.idxOf_lt {needs : String → List String} {l : List String} {item s : String}
    (h : Precedes needs l) (hitem : item ∈ l) (hs : s ∈ needs item) :
    l.idxOf s < l.idxOf item := by
  obtain ⟨front, back, rfl, hfront⟩ := List.eq_append_cons_of_mem hitem
  have hbefore : s ∈ front := h front item back rfl s hs
  rw [List.idxOf_append_of_mem hbefore, List.idxOf_append_of_notMem hfront]
  exact Nat.lt_add_right _ (List.idxOf_lt_length_iff.2 hbefore)

/-- Of the declared items that are not listed, but everything that feeds them is, `item` was
declared first. -/
structure Earliest (ids : List String) (feeds : String → String → Prop) (listed : List String)
    (item : String) : Prop where
  declared : item ∈ ids
  fresh : item ∉ listed
  ready : ∀ s, feeds s item → s ∈ listed
  first : ∀ other ∈ ids, other ∉ listed → (∀ s, feeds s other → s ∈ listed) →
    ids.idxOf item ≤ ids.idxOf other

/-- Every item of a list is the earliest that could stand after the items before it. -/
def Greedy (ids : List String) (feeds : String → String → Prop) (l : List String) : Prop :=
  Stepwise (Earliest ids feeds) l

namespace Greedy

variable {ids l : List String} {feeds : String → String → Prop}

theorem nodup (h : Greedy ids feeds l) : l.Nodup :=
  Stepwise.nodup (h.mono fun _ _ earliest => earliest.fresh)

theorem subset (h : Greedy ids feeds l) : l ⊆ ids := by
  intro item hitem
  obtain ⟨front, back, hl⟩ := List.append_of_mem hitem
  exact (h front item back hl).declared

theorem precedes (h : Greedy ids feeds l) {needs : String → List String}
    (needed : ∀ item, ∀ s ∈ needs item, feeds s item) : Precedes needs l :=
  h.mono fun _ item earliest s hs => earliest.ready s (needed item s hs)

/-- What could stand next depends on what stands there already, and of the items that could only one
is the earliest. So two such lists cannot part. -/
theorem unique {l' : List String} (h : Greedy ids feeds l) (h' : Greedy ids feeds l')
    (length : l.length = l'.length) : l = l' := by
  induction l using List.reverseRecOn generalizing l' with
  | nil => exact (List.length_eq_zero_iff.1 length.symm).symm
  | append_singleton l item ih =>
    rcases List.eq_nil_or_concat l' with rfl | ⟨l', item', rfl⟩
    · simp at length
    · rw [List.concat_eq_append] at h' length ⊢
      obtain ⟨hl, hitem⟩ := stepwise_concat.1 h
      obtain ⟨hl', hitem'⟩ := stepwise_concat.1 h'
      obtain rfl := ih hl hl' (by simpa using length)
      have hposition : ids.idxOf item = ids.idxOf item' :=
        Nat.le_antisymm (hitem.first item' hitem'.declared hitem'.fresh hitem'.ready)
          (hitem'.first item hitem.declared hitem.fresh hitem.ready)
      rw [(List.idxOf_inj hitem.declared).1 hposition]

end Greedy

/-! ## Queues -/

theorem mem_enqueue {entry other : Nat × String} {queue : List (Nat × String)} :
    other ∈ enqueue entry queue ↔ other = entry ∨ other ∈ queue := by
  induction queue with
  | nil => simp [enqueue]
  | cons head rest ih =>
    rw [enqueue]
    split
    · rw [List.mem_cons, ih, List.mem_cons]
      tauto
    · rw [List.mem_cons]

theorem enqueue_pairwise {entry : Nat × String} {queue : List (Nat × String)}
    (ascending : queue.Pairwise fun a b => a.1 < b.1) (new : ∀ other ∈ queue, other.1 ≠ entry.1) :
    (enqueue entry queue).Pairwise fun a b => a.1 < b.1 := by
  induction queue with
  | nil => simp [enqueue]
  | cons head rest ih =>
    obtain ⟨hhead, hrest⟩ := List.pairwise_cons.1 ascending
    rw [List.forall_mem_cons] at new
    rw [enqueue]
    split
    · next hlt =>
      refine List.pairwise_cons.2 ⟨fun other hother => ?_, ih hrest new.2⟩
      rcases mem_enqueue.1 hother with rfl | hother
      · exact hlt
      · exact hhead other hother
    · next hle =>
      have hlt : entry.1 < head.1 := by
        have := new.1
        omega
      refine List.pairwise_cons.2 ⟨fun other hother => ?_, ascending⟩
      rcases List.mem_cons.1 hother with rfl | hother
      · exact hlt
      · exact Nat.lt_trans hlt (hhead other hother)

/-- A queue that is filled entry by entry has them all, ascending. -/
theorem foldr_enqueue (entries : List (Nat × String))
    (distinct : entries.Pairwise fun a b => b.1 ≠ a.1) :
    (∀ entry, entry ∈ entries.foldr enqueue [] ↔ entry ∈ entries) ∧
      (entries.foldr enqueue []).Pairwise fun a b => a.1 < b.1 := by
  induction entries with
  | nil => simp
  | cons first rest ih =>
    obtain ⟨hfirst, hrest⟩ := List.pairwise_cons.1 distinct
    obtain ⟨hmem, hascending⟩ := ih hrest
    rw [List.foldr_cons]
    refine ⟨fun entry => ?_, enqueue_pairwise hascending fun other hother => ?_⟩
    · rw [mem_enqueue, hmem, List.mem_cons]
    · exact hfirst other ((hmem other).1 hother)

/-! ## Listings -/

namespace Lineup

/-- The sources of a step that are not listed. -/
def pending (links : Links) (listed : List String) (id : String) : Nat :=
  (entryOf links.upstream id).countP fun source => decide (source ∉ listed)

theorem pending_eq_zero {links : Links} {listed : List String} {id : String} :
    pending links listed id = 0 ↔ ∀ source ∈ entryOf links.upstream id, source ∈ listed := by
  simp [pending, List.countP_eq_zero]

/-- With one more step listed, one source less is pending of the steps that take values from it. -/
theorem pending_eq {links : Links} {listed : List String} {source id : String}
    (nodup : (entryOf links.upstream id).Nodup) (new : source ∉ listed) :
    pending links listed id = pending links (source :: listed) id +
      if source ∈ entryOf links.upstream id then 1 else 0 := by
  unfold pending
  generalize entryOf links.upstream id = sources at nodup
  induction sources with
  | nil => rfl
  | cons first rest ih =>
    obtain ⟨hfirst, hrest⟩ := List.nodup_cons.1 nodup
    rw [List.countP_cons, List.countP_cons, ih hrest]
    by_cases heq : source = first
    · subst heq
      simp [hfirst, new]
    · by_cases hlisted : first ∈ listed
      · simp [heq, hlisted]
      · simp [heq, hlisted, Ne.symm heq]
        omega

variable {links : Links} {ids : List String} {l : Lineup}

/-- What a listing knows of the steps, while those in `due` have not been counted off for the step
that was listed last: how many sources of each are pending, and which steps are ready. -/
structure Tallied (links : Links) (ids due : List String) (l : Lineup) : Prop where
  missing : ∀ id ∈ ids,
    l.missing.lookup id = some ((pending links l.listed id : Int) + if id ∈ due then 1 else 0)
  ready : ∀ position id, (position, id) ∈ l.ready ↔
    position = ids.idxOf id ∧ id ∈ ids ∧ id ∉ l.listed ∧ id ∉ due ∧
      ∀ source ∈ entryOf links.upstream id, source ∈ l.listed
  ascending : l.ready.Pairwise fun a b => a.1 < b.1

/-- At first every source is pending, and the steps that have none are ready. -/
theorem Tallied.start (links : Links) {ids : List String} (nodup : ids.Nodup) :
    Tallied links ids [] (start links ids) := by
  have hpending : ∀ id, (pending links [] id : Int) = (entryOf links.upstream id).length := by
    intro id
    simp [pending]
  have hdistinct : ((ids.map fun id => (id, ((entryOf links.upstream id).length : Int))).filter
      (fun row => row.2 = 0) |>.map fun row => (ids.idxOf row.1, row.1)).Pairwise
      fun a b => b.1 ≠ a.1 := by
    refine List.Pairwise.map _ (fun _ _ h => h) (List.Pairwise.filter _ ?_)
    rw [List.pairwise_map]
    refine nodup.imp_of_mem fun {a b} ha hb hne heq => hne ?_
    exact ((List.idxOf_inj hb).1 heq).symm
  obtain ⟨hmem, hascending⟩ := foldr_enqueue _ hdistinct
  refine ⟨fun id hid => ?_, fun position id => ?_, hascending⟩
  · rw [Lineup.start, lookup_map_pair, if_pos hid, hpending]
    simp
  · rw [Lineup.start, hmem]
    simp only [List.mem_map, List.mem_filter, Prod.mk.injEq, decide_eq_true_eq]
    constructor
    · rintro ⟨-, ⟨⟨other, hother, rfl⟩, hzero⟩, rfl, rfl⟩
      refine ⟨rfl, hother, by simp, by simp, ?_⟩
      rw [← pending_eq_zero, ← Int.natCast_eq_zero, hpending]
      exact hzero
    · rintro ⟨rfl, hid, -, -, hsources⟩
      refine ⟨_, ⟨⟨id, hid, rfl⟩, ?_⟩, rfl, rfl⟩
      rw [← hpending, Int.natCast_eq_zero, pending_eq_zero]
      exact hsources

@[simp] theorem release_listed (ids : List String) (l : Lineup) (id : String) :
    (l.release ids id).listed = l.listed := by
  unfold release
  dsimp only
  split <;> rfl

/-- A step that was due is counted off; it joins the queue when no source of it is pending. -/
theorem Tallied.release {id : String} {due : List String} (h : Tallied links ids (id :: due) l)
    (declared : id ∈ ids) (unlisted : id ∉ l.listed) (once : id ∉ due) :
    Tallied links ids due (l.release ids id) := by
  have hmissing : ∀ other ∈ ids, (amend (· - 1) id l.missing).lookup other =
      some ((pending links l.listed other : Int) + if other ∈ due then 1 else 0) := by
    intro other hother
    rw [lookup_amend, h.missing other hother]
    by_cases heq : other = id
    · subst heq
      simp [once]
    · simp [heq]
  have hzero : (amend (· - 1) id l.missing).lookup id = some 0 ↔
      ∀ source ∈ entryOf links.upstream id, source ∈ l.listed := by
    rw [hmissing id declared, if_neg once, ← pending_eq_zero, Option.some.injEq]
    omega
  unfold Lineup.release
  dsimp only
  split
  · next hnone =>
    refine ⟨hmissing, fun position other => ?_, enqueue_pairwise h.ascending fun other hother => ?_⟩
    · rw [mem_enqueue, h.ready, Prod.mk.injEq]
      constructor
      · rintro (⟨rfl, rfl⟩ | ⟨hposition, hids, hlisted, hdue, hsources⟩)
        · exact ⟨rfl, declared, unlisted, once, hzero.1 hnone⟩
        · exact ⟨hposition, hids, hlisted, fun hmem => hdue (List.mem_cons_of_mem _ hmem), hsources⟩
      · rintro ⟨hposition, hids, hlisted, hdue, hsources⟩
        by_cases heq : other = id
        · exact .inl ⟨heq ▸ hposition, heq⟩
        · exact .inr ⟨hposition, hids, hlisted, by simp [heq, hdue], hsources⟩
    · -- the step was due until now, so it is not in the queue under another name
      obtain ⟨hposition, hids, -, hdue, -⟩ := (h.ready other.1 other.2).1 hother
      intro heq
      rw [hposition] at heq
      exact hdue ((List.idxOf_inj hids).1 heq ▸ List.mem_cons_self)
  · next hsome =>
    refine ⟨hmissing, fun position other => ?_, h.ascending⟩
    rw [h.ready]
    constructor
    · rintro ⟨hposition, hids, hlisted, hdue, hsources⟩
      exact ⟨hposition, hids, hlisted, fun hmem => hdue (List.mem_cons_of_mem _ hmem), hsources⟩
    · rintro ⟨hposition, hids, hlisted, hdue, hsources⟩
      refine ⟨hposition, hids, hlisted, ?_, hsources⟩
      rw [List.mem_cons, not_or]
      refine ⟨?_, hdue⟩
      rintro rfl
      exact hsome (hzero.2 hsources)

/-- Steps that are due are counted off one by one. -/
theorem Tallied.releaseAll (due : List String) :
    ∀ {l : Lineup}, Tallied links ids due l → due.Nodup → (∀ id ∈ due, id ∈ ids ∧ id ∉ l.listed) →
      Tallied links ids [] (due.foldl (Lineup.release ids) l) ∧
        (due.foldl (Lineup.release ids) l).listed = l.listed := by
  induction due with
  | nil =>
    intro l h _ _
    exact ⟨h, rfl⟩
  | cons id due ih =>
    intro l h nodup waiting
    rw [List.forall_mem_cons] at waiting
    obtain ⟨honce, hdue⟩ := List.nodup_cons.1 nodup
    obtain ⟨htallied, hlisted⟩ := ih (h.release waiting.1.1 waiting.1.2 honce) hdue
      (by simpa using waiting.2)
    exact ⟨htallied, hlisted.trans (release_listed ids l id)⟩

variable {relation : String → String → Prop}

/-- The head of the queue is the earliest step that could be listed. -/
theorem Tallied.earliest (h : Tallied links ids [] l) (lists : links.Lists ids relation)
    {position : Nat} {id : String} {rest : List (Nat × String)}
    (head : l.ready = (position, id) :: rest) :
    Earliest ids relation l.listed.reverse id := by
  obtain ⟨hposition, hids, hlisted, -, hsources⟩ :=
    (h.ready position id).1 (head ▸ List.mem_cons_self)
  refine ⟨hids, by simpa using hlisted, fun source hrel => ?_, fun other hother hnew hready => ?_⟩
  · simpa using hsources source ((lists.mem_upstream source id).2 hrel)
  · have hqueued : (ids.idxOf other, other) ∈ l.ready := by
      refine (h.ready _ other).2 ⟨rfl, hother, by simpa using hnew, by simp, fun source hsource => ?_⟩
      simpa using hready source ((lists.mem_upstream source other).1 hsource)
    have hascending := h.ascending
    rw [head] at hqueued hascending
    rcases List.mem_cons.1 hqueued with heq | hrest
    · cases heq
      exact Nat.le_refl _
    · have hlt : position < ids.idxOf other := (List.pairwise_cons.1 hascending).1 _ hrest
      rw [← hposition]
      exact Nat.le_of_lt hlt

/-- Listing the head of the queue and counting it off keeps the tally. -/
theorem Tallied.list (h : Tallied links ids [] l) (lists : links.Lists ids relation)
    (targets : ∀ source, ∀ target ∈ entryOf links.downstream source, target ∈ ids)
    (greedy : Greedy ids relation l.listed.reverse)
    {position : Nat} {id : String} {rest : List (Nat × String)}
    (head : l.ready = (position, id) :: rest) :
    Tallied links ids [] (l.list links ids id rest) ∧
      (l.list links ids id rest).listed = id :: l.listed := by
  have hearliest := h.earliest lists head
  have hnew : id ∉ l.listed := by simpa using hearliest.fresh
  have hnext : ∀ target, target ∈ entryOf links.downstream id ↔
      id ∈ entryOf links.upstream target := by
    intro target
    rw [lists.mem_upstream, lists.mem_downstream]
  -- what is listed took its values from listed steps, so nothing that is listed waits for the head
  have hwaiting : ∀ target ∈ entryOf links.downstream id, target ∉ id :: l.listed := by
    intro target htarget hmem
    have hrel := (lists.mem_downstream id target).1 htarget
    rcases List.mem_cons.1 hmem with rfl | hmem
    · exact hearliest.fresh (hearliest.ready target hrel)
    · obtain ⟨front, back, hsplit⟩ := List.append_of_mem (List.mem_reverse.2 hmem)
      have hfront := (greedy front target back hsplit).ready id hrel
      exact hearliest.fresh (by rw [hsplit]; exact List.mem_append_left _ hfront)
  have hqueue := h.ascending
  rw [head] at hqueue
  have htallied : Tallied links ids (entryOf links.downstream id)
      { l with ready := rest, listed := id :: l.listed } := by
    refine ⟨fun other hother => ?_, fun place other => ?_, (List.pairwise_cons.1 hqueue).2⟩
    · rw [h.missing other hother, pending_eq (lists.upstream_nodup other) hnew]
      by_cases hmem : id ∈ entryOf links.upstream other
      · simp [hnext, hmem]
      · simp [hnext, hmem]
    · constructor
      · intro hmem
        obtain ⟨hplace, hids, hlisted, -, hsources⟩ :=
          (h.ready place other).1 (head ▸ List.mem_cons_of_mem _ hmem)
        have hne : other ≠ id := by
          rintro rfl
          have hlt : position < place := (List.pairwise_cons.1 hqueue).1 _ hmem
          have hposition := ((h.ready position other).1 (head ▸ List.mem_cons_self)).1
          omega
        refine ⟨hplace, hids, by simp [hne, hlisted], fun hdue => ?_, fun source hsource => ?_⟩
        · exact hnew (hsources id ((hnext other).1 hdue))
        · exact List.mem_cons_of_mem _ (hsources source hsource)
      · rintro ⟨hplace, hids, hlisted, hdue, hsources⟩
        rw [List.mem_cons, not_or] at hlisted
        have hready : (place, other) ∈ l.ready := by
          refine (h.ready place other).2 ⟨hplace, hids, hlisted.2, by simp, fun source hsource => ?_⟩
          rcases List.mem_cons.1 (hsources source hsource) with rfl | hmem
          · exact absurd ((hnext other).2 hsource) hdue
          · exact hmem
        rw [head] at hready
        refine (List.mem_cons.1 hready).resolve_left fun heq => hlisted.1 ?_
        exact (Prod.mk.inj heq).2
  exact Tallied.releaseAll _ htallied (lists.downstream_nodup id) fun target htarget =>
    ⟨targets id target htarget, hwaiting target htarget⟩

/-- Listing goes on until no step is ready, or as often as it is allowed. -/
theorem listAll_spec (lists : links.Lists ids relation)
    (targets : ∀ source, ∀ target ∈ entryOf links.downstream source, target ∈ ids) (fuel : Nat) :
    ∀ {l : Lineup}, Tallied links ids [] l → Greedy ids relation l.listed.reverse →
      Tallied links ids [] (l.listAll links ids fuel) ∧
        Greedy ids relation (l.listAll links ids fuel).listed.reverse ∧
        ((l.listAll links ids fuel).ready = [] ∨
          (l.listAll links ids fuel).listed.length = l.listed.length + fuel) := by
  induction fuel with
  | zero =>
    intro l h greedy
    exact ⟨h, greedy, .inr rfl⟩
  | succ fuel ih =>
    intro l h greedy
    rw [listAll]
    cases hready : l.ready with
    | nil => exact ⟨h, greedy, .inl hready⟩
    | cons entry rest =>
      obtain ⟨position, id⟩ := entry
      obtain ⟨htallied, hlisted⟩ := h.list lists targets greedy hready
      have hgreedy : Greedy ids relation (l.list links ids id rest).listed.reverse := by
        rw [hlisted, List.reverse_cons]
        exact stepwise_concat.2 ⟨greedy, h.earliest lists hready⟩
      obtain ⟨hfinal, hfinalGreedy, hend⟩ := ih htallied hgreedy
      refine ⟨hfinal, hfinalGreedy, hend.imp_right fun hlength => ?_⟩
      rw [hlength, hlisted, List.length_cons]
      omega

end Lineup

/-! ## Graphs -/

namespace Graph

variable (g : Graph)

/-- A step feeds another if a mapping leads from it to the other; in a graph both are there. -/
theorem links_lists : g.definition.links.Lists g.definition.stepIds g.definition.Feeds :=
  g.definition.links_lists.congr fun source target => by
    refine ⟨fun h => h.1, fun h => ⟨h, ?_, ?_⟩⟩
    · obtain ⟨m, hm, hsource, -⟩ := h
      exact g.mem_stepIds_of_source hm hsource
    · obtain ⟨m, hm, -, htarget⟩ := h
      exact g.mem_stepIds_of_target hm htarget

/-- The order of a graph lists the earliest step that is ready again and again, until none is or
all are listed. -/
theorem order_spec :
    Greedy g.definition.stepIds g.definition.Feeds g.order ∧
      (g.order.length = g.definition.stepIds.length ∨
        ∀ id ∈ g.definition.stepIds, id ∉ g.order →
          ¬∀ source ∈ g.definition.predecessors id, source ∈ g.order) := by
  have htargets : ∀ source, ∀ target ∈ entryOf g.definition.links.downstream source,
      target ∈ g.definition.stepIds := fun source target htarget =>
    ((g.definition.links_lists.mem_downstream source target).1 htarget).2.2
  obtain ⟨htallied, hgreedy, hend⟩ := Lineup.listAll_spec g.links_lists htargets
    g.definition.stepIds.length (Lineup.Tallied.start g.definition.links g.stepIds_nodup)
    (Stepwise.nil _)
  have hlisted : ∀ id, id ∈ g.order ↔ id ∈ ((Lineup.start g.definition.links
      g.definition.stepIds).listAll g.definition.links g.definition.stepIds
      g.definition.stepIds.length).listed := fun id => List.mem_reverse
  refine ⟨hgreedy, ?_⟩
  rcases hend with hnone | hlength
  · refine .inr fun id hid hnew hsources => ?_
    have hready := (htallied.ready (g.definition.stepIds.idxOf id) id).2
      ⟨rfl, hid, (hlisted id).not.1 hnew, by simp, fun source hsource =>
        (hlisted source).1 (hsources source hsource)⟩
    rw [hnone] at hready
    cases hready
  · refine .inl (List.length_reverse.trans (hlength.trans ?_))
    exact Nat.zero_add _

/-- The order of a graph lists the earliest step that is ready again and again. -/
theorem order_greedy : Greedy g.definition.stepIds g.definition.Feeds g.order := g.order_spec.1

/-- No step stands in the order twice. -/
theorem order_nodup : g.order.Nodup := g.order_greedy.nodup

/-- Every step stands in the order after its predecessors. -/
theorem order_precedes : Precedes g.definition.predecessors g.order :=
  g.order_greedy.precedes fun _ _ hs => (Definition.mem_predecessors_iff.1 hs).1

/-- The order lists steps of the workflow only. -/
theorem order_subset {id : String} (h : id ∈ g.order) : id ∈ g.definition.stepIds :=
  g.order_greedy.subset h

end Graph

end Conduit
