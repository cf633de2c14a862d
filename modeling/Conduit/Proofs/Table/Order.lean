import Conduit.Proofs.Table.Merge

/-!
# What sorting gives

When the comparison of two items always works and compares their keys, sorting does not fail and
gives the items in the order of their keys, those of one key as they were. Every run that is taken
off the list is the next part of it sorted, and merging two runs that are neighbours sorts both
their parts.

* `Peels`, `takeRun_peels` — a run taken off a list;
* `Piled`, `settle_covers`, `mergeRuns_covers` — the runs that wait are the parts of the list
  before;
* `exists_sortBy`, `exists_sortByDescending` — what sorting gives.
-/

namespace Conduit.Table

variable {α κ ε : Type} [LinearOrder κ] {key : α → κ} {kind : α → Prop}
  {less : α → α → Except ε Bool}

theorem Sorts.areAll {l s : List α} (h : Sorts key l s) (hl : AreAll kind l) : AreAll kind s :=
  fun a ha => hl a (h.mem_iff.1 ha)

/-! ## Runs -/

/-- Some of a list is taken off and sorted, something unless nothing is there. -/
structure Peels (key : α → κ) (items : List α) (r : List α × List α) : Prop where
  sorts : ∃ front, items = front ++ r.2 ∧ Sorts key front r.1
  shorter : items ≠ [] → r.2.length < items.length

section Runs

variable (weighs : Weighs kind key less)

include weighs

theorem descendingRun_descends (rest : List α) : ∀ {previous : α}, kind previous →
    AreAll kind rest →
    Fair Never (fun n => Descends key (previous :: rest.take n))
      (descendingRun less previous rest) := by
  induction rest with
  | nil => exact fun _ _ => List.pairwise_singleton ..
  | cons x rest ih =>
    intro previous hprevious hrest
    obtain ⟨hx, hrest⟩ := List.forall_mem_cons.1 hrest
    rw [descendingRun, weighs x previous hx hprevious]
    by_cases hlt : key x < key previous
    · rw [decide_eq_true hlt]
      exact (ih hx hrest).bind fun n hn => hn.cons hlt
    · rw [decide_eq_false hlt]
      exact List.pairwise_singleton ..

theorem ascendingRun_ascends (rest : List α) : ∀ {previous : α}, kind previous →
    AreAll kind rest →
    Fair Never (fun n => Ascends key (previous :: rest.take n))
      (ascendingRun less previous rest) := by
  induction rest with
  | nil => exact fun _ _ => List.pairwise_singleton ..
  | cons x rest ih =>
    intro previous hprevious hrest
    obtain ⟨hx, hrest⟩ := List.forall_mem_cons.1 hrest
    rw [ascendingRun, weighs x previous hx hprevious]
    by_cases hlt : key x < key previous
    · rw [decide_eq_true hlt]
      exact List.pairwise_singleton ..
    · rw [decide_eq_false hlt]
      exact (ih hx hrest).bind fun n hn => hn.cons (not_lt.1 hlt)

theorem firstRun_peels {items : List α} (h : AreAll kind items) :
    Fair Never (Peels key items) (firstRun less items) := by
  unfold firstRun
  split
  · exact ⟨⟨[], rfl, .of_ascends .nil⟩, fun hne => absurd rfl hne⟩
  · next x => exact ⟨⟨[x], rfl, .of_ascends (List.pairwise_singleton ..)⟩, by simp⟩
  · next x y rest =>
    obtain ⟨hx, h⟩ := List.forall_mem_cons.1 h
    obtain ⟨hy, hrest⟩ := List.forall_mem_cons.1 h
    have hparts : ∀ n, x :: y :: rest = (x :: y :: rest.take n) ++ rest.drop n := by simp
    have hshorter : ∀ n, (rest.drop n).length < (x :: y :: rest).length := by
      intro n
      simp only [List.length_drop, List.length_cons]
      omega
    rw [weighs y x hy hx]
    by_cases hlt : key y < key x
    · rw [decide_eq_true hlt]
      exact (descendingRun_descends weighs rest hy hrest).bind fun n hn =>
        ⟨⟨_, hparts n, .of_descends (hn.cons hlt)⟩, fun _ => hshorter n⟩
    · rw [decide_eq_false hlt]
      exact (ascendingRun_ascends weighs rest hy hrest).bind fun n hn =>
        ⟨⟨_, hparts n, .of_ascends (hn.cons (not_lt.1 hlt))⟩, fun _ => hshorter n⟩

/-- An item is put where weaving puts it. -/
theorem insert_weaves {sorted : List α} {x : α} (hsorted : AreAll kind sorted) (hx : kind x)
    (ascends : Ascends key sorted) : insert less sorted x = .ok (weave key sorted [x]) := by
  have tests : ∀ y ∈ sorted, (do return !(← less x y) : Except ε Bool) =
      .ok (decide (key y ≤ key x)) := fun y hy => weighs.not hx (hsorted y hy)
  obtain ⟨n, cuts⟩ : ∃ n, Cuts (fun y => decide (key y ≤ key x)) sorted n := by
    refine exists_cuts (ascends.imp fun hab h => ?_)
    exact decide_eq_true (hab.trans (of_decide_eq_true h))
  have hplace : halve false (fun y => return !(← less x y)) sorted (sorted.length + 1) 0
      sorted.length = .ok n :=
    halve_cuts tests cuts false _ (Nat.zero_le n) cuts.bound le_rfl (by omega)
  have hfront : weave key sorted [x] = sorted.take n ++ weave key (sorted.drop n) [x] := by
    conv_lhs => rw [← List.take_append_drop n sorted]
    refine weave_append_left fun y hy z hz => ?_
    exact (List.mem_singleton.1 hz) ▸ of_decide_eq_true (cuts.before y hy)
  have hbehind : weave key (sorted.drop n) [x] = x :: sorted.drop n := by
    have hless : ∀ z ∈ [x], ∀ y ∈ sorted.drop n, key z < key y := by
      intro z hz y hy
      exact (List.mem_singleton.1 hz) ▸ not_le.1 (of_decide_eq_false (cuts.behind y hy))
    simpa using weave_append_right (b := []) hless
  rw [insert, hplace, hfront, hbehind]
  rfl

theorem insertAll_sorts (items : List α) : ∀ {l sorted : List α}, AreAll kind l →
    AreAll kind items → Sorts key l sorted →
    Fair Never (Sorts key (l ++ items)) (items.foldlM (insert less) sorted) := by
  induction items with
  | nil =>
    intro l sorted _ _ sorts
    rw [List.append_nil]
    exact sorts
  | cons x rest ih =>
    intro l sorted hl hitems sorts
    obtain ⟨hx, hrest⟩ := List.forall_mem_cons.1 hitems
    have hone : AreAll kind (l ++ [x]) := hl.append (by simpa [AreAll] using hx)
    rw [List.foldlM_cons, insert_weaves weighs (sorts.areAll hl) hx sorts.ascends,
      List.append_cons]
    exact ih hone hrest (sorts.weave (.of_ascends (List.pairwise_singleton ..)))

theorem takeRun_peels (least : Nat) {items : List α} (h : AreAll kind items) :
    Fair Never (Peels key items) (takeRun less least items) := by
  unfold takeRun
  refine (firstRun_peels weighs h).bind fun r hr => ?_
  obtain ⟨front, hparts, sorts⟩ := hr.sorts
  have hkinds : AreAll kind front ∧ AreAll kind r.2 := by
    rw [hparts] at h
    exact List.forall_mem_append.1 h
  dsimp only
  generalize hmissing : least - r.1.length = missing
  refine (insertAll_sorts weighs (r.2.take missing) hkinds.1 (hkinds.2.take _) sorts).bind
    fun run hrun => ⟨⟨_, ?_, hrun⟩, fun hne => ?_⟩
  · rw [List.append_assoc, List.take_append_drop, ← hparts]
  · have hless := hr.shorter hne
    simp only [List.length_drop]
    omega

end Runs

/-! ## The runs that wait -/

/-- Runs, the nearest first, are the parts of a list, each sorted. -/
inductive Piled (key : α → κ) : List α → List (List α) → Prop
  | nil : Piled key [] []
  | cons {l part run : List α} {runs : List (List α)} (pile : Piled key l runs)
      (sorts : Sorts key part run) : Piled key (l ++ part) (run :: runs)

/-- The runs that wait and the last one are the parts of a list. -/
def Covers (key : α → κ) (whole : List α) (r : List (Waiting α) × List α) : Prop :=
  ∃ l part, whole = l ++ part ∧ Piled key l (r.1.map Waiting.items) ∧ Sorts key part r.2

section Waiting

variable (weighs : Weighs kind key less)

include weighs

/-- Merging the runs of two neighbouring parts sorts both. -/
theorem merge_sorts {l l' s s' : List α} (hl : AreAll kind l) (hl' : AreAll kind l')
    (h : Sorts key l s) (h' : Sorts key l' s') :
    FairFrom Never (Sorts key (l ++ l')) (merge less s s') := by
  rw [← bind_pure (merge less s s')]
  refine (merge_weaves weighs (h.areAll hl) (h'.areAll hl') h.ascends h'.ascends).bind ?_
  rintro merged rfl
  exact .pure (h.weave h')

theorem settle_covers (level : Nat) (waiting : List (Waiting α)) : ∀ {l part last : List α},
    AreAll kind (l ++ part) → Piled key l (waiting.map Waiting.items) → Sorts key part last →
    FairFrom Never (Covers key (l ++ part)) (settle less level waiting last) := by
  induction waiting with
  | nil => exact fun _ pile sorts => .pure ⟨_, _, rfl, pile, sorts⟩
  | cons w before ih =>
    intro l part last hkind pile sorts
    rw [settle]
    split
    · cases pile with
      | @cons front second _ _ pile sorts' =>
        have hkinds := List.forall_mem_append.1 hkind
        rw [List.append_assoc] at hkind ⊢
        refine (merge_sorts weighs (List.forall_mem_append.1 hkinds.1).2 hkinds.2 sorts'
          sorts).bind fun merged hmerged => ih hkind pile hmerged
    · exact .pure ⟨_, _, rfl, pile, sorts⟩

theorem mergeRuns_covers (length fuel : Nat) :
    ∀ {whole : List α} {waiting : List (Waiting α)} {last items : List α},
    AreAll kind (whole ++ items) → Covers key whole (waiting, last) → items.length ≤ fuel →
    FairFrom Never (Covers key (whole ++ items))
      (mergeRuns less length fuel waiting last items) := by
  induction fuel with
  | zero =>
    intro whole waiting last items _ covers hfuel
    obtain rfl : items = [] := List.eq_nil_of_length_eq_zero (by omega)
    rw [List.append_nil]
    exact .pure covers
  | succ fuel ih =>
    intro whole waiting last items hkind covers hfuel
    cases items with
    | nil =>
      rw [List.append_nil]
      exact .pure covers
    | cons x rest =>
      change FairFrom Never _ (liftM (takeRun less (leastRun length) (x :: rest)) >>= _)
      obtain ⟨hwhole, hitems⟩ := List.forall_mem_append.1 hkind
      refine FairFrom.bind (.lift (takeRun_peels weighs _ hitems)) fun r hr => ?_
      obtain ⟨front, hparts, sorts⟩ := hr.sorts
      obtain ⟨l, part, rfl, pile, sorts'⟩ := covers
      refine (settle_covers weighs _ waiting hwhole pile sorts').bind fun r' hr' => ?_
      obtain ⟨l', part', hsplit, pile', sorts''⟩ := hr'
      have hshorter := hr.shorter (List.cons_ne_nil _ _)
      have hregroup : l ++ part ++ x :: rest = (l' ++ part' ++ front) ++ r.2 := by
        rw [hsplit, hparts, List.append_assoc (l' ++ part')]
      rw [hregroup] at hkind ⊢
      exact ih hkind ⟨_, _, rfl, pile'.cons sorts'', sorts⟩ (by omega)

theorem mergeAll_sorts (waiting : List (List α)) (last : List α) : ∀ {l part : List α},
    AreAll kind (l ++ part) → Piled key l waiting → Sorts key part last →
    FairFrom Never (Sorts key (l ++ part)) (mergeAll less waiting last) := by
  induction waiting, last using mergeAll.induct with
  | case1 last =>
    intro l part _ pile sorts
    cases pile
    rw [mergeAll]
    exact .pure sorts
  | case2 b last =>
    intro l part hkind pile sorts
    cases pile with
    | cons pile sorts' =>
      cases pile
      obtain ⟨hl, hpart⟩ := List.forall_mem_append.1 hkind
      rw [mergeAll]
      exact merge_sorts weighs hl hpart sorts' sorts
  | case3 b a before last shorter ih =>
    intro l part hkind pile sorts
    rw [mergeAll, if_pos shorter]
    obtain _ | @⟨_, partB, _, _, pile, sortsB⟩ := pile
    obtain _ | @⟨l, partA, _, _, pile, sortsA⟩ := pile
    rw [List.append_assoc l partA partB] at hkind ⊢
    have hkinds := (List.forall_mem_append.1 (List.forall_mem_append.1 hkind).1).2
    obtain ⟨hA, hB⟩ := List.forall_mem_append.1 hkinds
    exact (merge_sorts weighs hA hB sortsA sortsB).bind fun merged hmerged =>
      ih merged hkind (pile.cons hmerged) sorts
  | case4 b a before last longer ih =>
    intro l part hkind pile sorts
    rw [mergeAll, if_neg longer]
    obtain _ | @⟨l, partB, _, _, pile, sortsB⟩ := pile
    obtain ⟨hkinds, hpart⟩ := List.forall_mem_append.1 hkind
    rw [List.append_assoc] at hkind ⊢
    exact (merge_sorts weighs (List.forall_mem_append.1 hkinds).2 hpart sortsB sorts).bind
      fun merged hmerged => ih merged hkind pile hmerged

end Waiting

/-! ## Sorting -/

/-- Sorting gives the items in the order of their keys, those of one key as they were. -/
theorem exists_sortBy {l : List α}
    (weighs : ∀ a ∈ l, ∀ b ∈ l, less a b = .ok (decide (key a < key b))) :
    ∃ s, sortBy less l = .ok s ∧ Sorts key l s := by
  have hweighs : Weighs (· ∈ l) key less := fun a b ha hb => weighs a ha b hb
  have hall : AreAll (· ∈ l) l := fun _ ha => ha
  refine Fair.exists_ok ?_
  unfold sortBy
  refine (takeRun_peels hweighs _ hall).bind fun r hr => ?_
  obtain ⟨front, hparts, sorts⟩ := hr.sorts
  have hrest : r.2.length ≤ l.length := by simp [hparts]
  have hkind : AreAll (· ∈ l) (front ++ r.2) := hparts ▸ hall
  have hmerged : FairFrom Never (Sorts key l) (mergeRuns less l.length l.length [] r.1 r.2 >>=
      fun merged => mergeAll less (merged.1.map fun w => w.items) merged.2) := by
    refine (mergeRuns_covers hweighs l.length l.length hkind
      ⟨[], front, rfl, .nil, sorts⟩ hrest).bind fun r' hr' => ?_
    obtain ⟨l', part, hsplit, pile, sorts'⟩ := hr'
    rw [← hparts] at hsplit
    rw [hsplit]
    exact mergeAll_sorts hweighs _ _ (hsplit ▸ hall) pile sorts'
  exact (hmerged leapLength).bind fun r' hr' => .pure hr'

/-- Sorting downwards gives the items in the opposite order of their keys, those of one key as they
were. -/
theorem exists_sortByDescending {l : List α}
    (weighs : ∀ a ∈ l, ∀ b ∈ l, less a b = .ok (decide (key a < key b))) :
    ∃ s, sortByDescending less l = .ok s ∧ Sorts (fun a => OrderDual.toDual (key a)) l s := by
  obtain ⟨s, hs, sorts⟩ := exists_sortBy (l := l.reverse) (fun a ha b hb =>
    weighs a (List.mem_reverse.1 ha) b (List.mem_reverse.1 hb))
  refine ⟨s.reverse, ?_, sorts.reverse (opposite_dual key).symm⟩
  rw [sortByDescending, hs]
  rfl

end Conduit.Table
