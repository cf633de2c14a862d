import Conduit.Engine.Record
import Conduit.Proofs.Run.State

/-!
# Records of runs that go on and are forgotten

The records of an engine are in the order in which the runs were made. Runs go on, which ends some
of them, and finished runs are forgotten, the first ones first.

* `RunRecord.forgetFirst`, `RunRecord.map_forget_eq` — forgetting the first finished runs;
* `RunRecord.Follows`, `RunRecord.Onward` — records of a run later on;
* `RunRecord.Retains`, `RunRecord.Retains.forgetFirst` — which finished runs are dropped.
-/

namespace Conduit

namespace RunRecord

/-! ## Forgetting -/

/-- Whether a run is over and still known. -/
def isKept (r : RunRecord) : Bool := !r.isActive && !r.forgotten

/-- Forgets the first `n` finished runs that are known. -/
def forgetFirst : Nat → List RunRecord → List RunRecord
  | 0, records => records
  | _ + 1, [] => []
  | n + 1, r :: rest =>
    if r.isKept then { r with forgotten := true } :: forgetFirst n rest
    else r :: forgetFirst (n + 1) rest

@[simp] theorem forgetFirst_zero (records : List RunRecord) : forgetFirst 0 records = records := by
  cases records <;> rfl

@[simp] theorem forgetFirst_nil (n : Nat) : forgetFirst n [] = [] := by
  cases n <;> rfl

theorem forgetFirst_succ_cons (n : Nat) (r : RunRecord) (rest : List RunRecord) :
    forgetFirst (n + 1) (r :: rest) =
      if r.isKept then { r with forgotten := true } :: forgetFirst n rest
      else r :: forgetFirst (n + 1) rest := rfl

/-- The finished runs that are kept are the later ones. -/
theorem filter_forgetFirst (n : Nat) (records : List RunRecord) :
    (forgetFirst n records).filter isKept = (records.filter isKept).drop n := by
  induction records generalizing n with
  | nil => simp
  | cons r rest ih =>
    cases n with
    | zero => simp
    | succ n =>
      rw [forgetFirst_succ_cons]
      by_cases hkept : r.isKept = true
      · have hforgotten : ({ r with forgotten := true } : RunRecord).isKept = false := by
          simp [isKept]
        rw [if_pos hkept, List.filter_cons_of_neg (by simp [hforgotten]), ih,
          List.filter_cons_of_pos hkept, List.drop_succ_cons]
      · rw [if_neg hkept, List.filter_cons_of_neg hkept, List.filter_cons_of_neg hkept, ih]

/-- Runs are forgotten by their ids. -/
theorem map_forget_eq (records : List RunRecord) (once : (records.map id).Nodup) (n : Nat) :
    (records.map fun r =>
      if r.id ∈ ((records.filter isKept).map id).take n then { r with forgotten := true } else r) =
      forgetFirst n records := by
  induction records generalizing n with
  | nil => simp
  | cons r rest ih =>
    obtain ⟨hnew, hrest⟩ := List.nodup_cons.1 once
    cases n with
    | zero => simp
    | succ n =>
      rw [forgetFirst_succ_cons, List.map_cons]
      by_cases hkept : r.isKept = true
      · rw [if_pos hkept, List.filter_cons_of_pos hkept, List.map_cons, List.take_succ_cons,
          if_pos List.mem_cons_self, ← ih hrest n]
        refine congrArg _ (List.map_congr_left fun q hq => ?_)
        have hne : q.id ≠ r.id := fun heq => hnew (heq ▸ List.mem_map_of_mem hq)
        simp only [List.mem_cons, hne, false_or]
      · rw [if_neg hkept, List.filter_cons_of_neg hkept, ← ih hrest (n + 1)]
        rw [if_neg fun hmem => hnew ?_]
        -- what is forgotten is among the rest
        have hmem := List.mem_of_mem_take hmem
        obtain ⟨q, hq, hid⟩ := List.mem_map.1 hmem
        exact hid ▸ List.mem_map_of_mem (List.mem_of_mem_filter hq)

/-- A record but for whether it is forgotten. -/
theorem mem_forgetFirst {n : Nat} {records : List RunRecord} {r' : RunRecord}
    (h : r' ∈ forgetFirst n records) :
    r' ∈ records ∨ ∃ r ∈ records, r.isKept = true ∧ r' = { r with forgotten := true } := by
  induction records generalizing n with
  | nil =>
    rw [forgetFirst_nil] at h
    cases h
  | cons r rest ih =>
    cases n with
    | zero => exact .inl (by simpa using h)
    | succ n =>
      rw [forgetFirst_succ_cons] at h
      split at h
      · next hkept =>
        rcases List.mem_cons.1 h with rfl | h
        · exact .inr ⟨r, List.mem_cons_self, hkept, rfl⟩
        · rcases ih h with hmem | ⟨q, hq, hrest⟩
          · exact .inl (List.mem_cons_of_mem _ hmem)
          · exact .inr ⟨q, List.mem_cons_of_mem _ hq, hrest⟩
      · rcases List.mem_cons.1 h with rfl | h
        · exact .inl List.mem_cons_self
        · rcases ih h with hmem | ⟨q, hq, hrest⟩
          · exact .inl (List.mem_cons_of_mem _ hmem)
          · exact .inr ⟨q, List.mem_cons_of_mem _ hq, hrest⟩

/-- Forgetting runs loses no record. -/
theorem exists_mem_forgetFirst {records : List RunRecord} {r : RunRecord} (h : r ∈ records)
    (n : Nat) :
    ∃ forgotten, (r.forgotten = true → forgotten = true) ∧
      { r with forgotten := forgotten } ∈ forgetFirst n records := by
  induction records generalizing n with
  | nil => cases h
  | cons q rest ih =>
    cases n with
    | zero => exact ⟨r.forgotten, fun hr => hr, by simpa using h⟩
    | succ n =>
      rw [forgetFirst_succ_cons]
      split
      · rcases List.mem_cons.1 h with rfl | h
        · exact ⟨true, fun _ => rfl, List.mem_cons_self⟩
        · obtain ⟨forgotten, hkept, hmem⟩ := ih h n
          exact ⟨forgotten, hkept, List.mem_cons_of_mem _ hmem⟩
      · rcases List.mem_cons.1 h with rfl | h
        · exact ⟨r.forgotten, fun hr => hr, List.mem_cons_self⟩
        · obtain ⟨forgotten, hkept, hmem⟩ := ih h (n + 1)
          exact ⟨forgotten, hkept, List.mem_cons_of_mem _ hmem⟩

/-- Only runs that are over are forgotten. -/
theorem filter_active_forgetFirst (n : Nat) (records : List RunRecord) :
    (forgetFirst n records).filter isActive = records.filter isActive := by
  induction records generalizing n with
  | nil => simp
  | cons r rest ih =>
    cases n with
    | zero => simp
    | succ n =>
      rw [forgetFirst_succ_cons]
      split
      · next hkept =>
        have hover : r.isActive = false := by
          unfold isKept at hkept
          rw [Bool.and_eq_true] at hkept
          simpa using hkept.1
        have hover' : ({ r with forgotten := true } : RunRecord).isActive = false := hover
        rw [List.filter_cons_of_neg (by simp [hover']), List.filter_cons_of_neg (by simp [hover]),
          ih]
      · rw [List.filter_cons, List.filter_cons, ih]

/-- When all finished runs are forgotten, those in progress are known. -/
theorem filter_known_forgetFirst {n : Nat} {records : List RunRecord}
    (known : ∀ r ∈ records, r.isActive = true → r.forgotten = false)
    (all : records.countP isKept ≤ n) :
    ((forgetFirst n records).filter fun r => !r.forgotten) = records.filter isActive := by
  have hnone : (forgetFirst n records).filter isKept = [] := by
    rw [filter_forgetFirst, List.drop_eq_nil_iff, ← List.countP_eq_length_filter]
    exact all
  rw [← filter_active_forgetFirst n records]
  refine List.filter_congr fun r hr => ?_
  have hover : r.isKept = false := by
    simpa using List.filter_eq_nil_iff.1 hnone r hr
  unfold isKept at hover
  cases hactive : r.isActive with
  | true =>
    rcases mem_forgetFirst hr with hmem | ⟨q, hq, hkept, rfl⟩
    · rw [known r hmem hactive]
      rfl
    · have hactive : q.isActive = true := hactive
      rw [isKept, hactive] at hkept
      cases hkept
  | false =>
    rw [hactive] at hover
    simpa using hover

theorem map_id_forgetFirst (n : Nat) (records : List RunRecord) :
    (forgetFirst n records).map id = records.map id := by
  induction records generalizing n with
  | nil => simp
  | cons r rest ih =>
    cases n with
    | zero => simp
    | succ n =>
      rw [forgetFirst_succ_cons]
      split
      · rw [List.map_cons, List.map_cons, ih]
        rfl
      · rw [List.map_cons, List.map_cons, ih]

/-! ## Runs that go on -/

/-- A record tells when its run ended as soon as the run is over. -/
def Dated (r : RunRecord) : Prop := r.isActive = true ↔ r.completedAt? = none

/-- The record of a run that has gone on. -/
structure Follows (r r' : RunRecord) : Prop where
  workflow : r'.workflow = r.workflow
  createdAt : r'.createdAt = r.createdAt
  forgotten : r'.forgotten = r.forgotten
  goes : Run.Goes r.run r'.run
  tended : Run.Tended r.run → Run.Tended r'.run
  dated : r.Dated → r'.Dated
  completed : r.isActive = false → r'.completedAt? = r.completedAt?

/-- A caller who gives up leaves a run as it is that is over. -/
theorem leave_goes {r : RunRecord} (tended : r.run.Tended) :
    Run.Goes r.run r.leave.run ∧ r.leave.run.Tended := by
  unfold leave
  split
  · next reader _ =>
    have hclosed :
        Run.Still r.run { r.run.cancel with reader := some { reader with closed := true } } :=
      (Run.cancel_still r.run).trans ⟨rfl, rfl, rfl, fun h => h⟩
    refine ⟨hclosed.goes, tended.goes hclosed.goes { tended.cancel.placed with } ?_⟩
    intro _ htracked
    obtain ⟨lost, hfaithful⟩ := (Run.cancel_stir r.run).changes.tracked htracked
    exact ⟨lost, { hfaithful with
      placed := { hfaithful.placed with }, booked := { hfaithful.booked with }, called := nofun }⟩
  · exact ⟨Run.abandon_goes tended.placed, tended.abandon⟩

theorem Follows.refl (r : RunRecord) : Follows r r :=
  ⟨rfl, rfl, rfl, .refl _, fun h => h, fun h => h, fun _ => rfl⟩

theorem Follows.id {r r' : RunRecord} (h : Follows r r') : r'.id = r.id :=
  congrArg Plan.id h.goes.plan

theorem isActive_congr {r r' : RunRecord} (h : r'.run.phase = r.run.phase) :
    r'.isActive = r.isActive := congrArg (!·) (Run.isOver_congr h)

/-- A run that is over stays over, as it is. -/
theorem Follows.lasts {r r' : RunRecord} (h : Follows r r') (tended : r.run.Tended)
    (inactive : r.isActive = false) :
    r'.run.phase = r.run.phase ∧ r'.run.state = r.run.state ∧ r'.isActive = false := by
  have hover : r.run.isOver = true := by simpa [isActive] using inactive
  obtain ⟨hphase, hstate⟩ := h.goes.lasts tended.marked hover
  exact ⟨hphase, hstate, (isActive_congr hphase).trans inactive⟩

theorem Follows.isKept {r r' : RunRecord} (h : Follows r r') (tended : r.run.Tended)
    (kept : r.isKept = true) : r'.isKept = true := by
  unfold RunRecord.isKept at kept ⊢
  rw [Bool.and_eq_true] at kept ⊢
  obtain ⟨hover, hknown⟩ := kept
  rw [(h.lasts tended (by simpa using hover)).2.2, h.forgotten]
  exact ⟨rfl, hknown⟩

/-- Runs that go on leave no less finished ones. -/
theorem countP_kept_le {records : List RunRecord} {on : RunRecord → RunRecord}
    (follows : ∀ r ∈ records, Follows r (on r)) (tended : ∀ r ∈ records, r.run.Tended) :
    records.countP RunRecord.isKept ≤ (records.map on).countP RunRecord.isKept := by
  rw [List.countP_map]
  exact List.countP_mono_left fun r hr hkept => (follows r hr).isKept (tended r hr) hkept

/-- A record of a run later on: it may be forgotten by then, but how a run ended stays. -/
structure Onward (r r' : RunRecord) : Prop where
  id : r'.id = r.id
  workflow : r'.workflow = r.workflow
  createdAt : r'.createdAt = r.createdAt
  forgotten : r.forgotten = true → r'.forgotten = true
  lasts : r.isActive = false → r'.run.phase = r.run.phase ∧ r'.run.state = r.run.state ∧
    r'.completedAt? = r.completedAt?

theorem Onward.trans {r q s : RunRecord} (h : Onward r q) (h' : Onward q s) : Onward r s where
  id := h'.id.trans h.id
  workflow := h'.workflow.trans h.workflow
  createdAt := h'.createdAt.trans h.createdAt
  forgotten hr := h'.forgotten (h.forgotten hr)
  lasts := by
    intro hover
    obtain ⟨hphase, hstate, hcompleted⟩ := h.lasts hover
    have hover' : q.isActive = false := (isActive_congr hphase).trans hover
    obtain ⟨hphase', hstate', hcompleted'⟩ := h'.lasts hover'
    exact ⟨hphase'.trans hphase, hstate'.trans hstate, hcompleted'.trans hcompleted⟩

theorem Follows.onward {r r' : RunRecord} (h : Follows r r') (tended : r.run.Tended) :
    Onward r r' where
  id := h.id
  workflow := h.workflow
  createdAt := h.createdAt
  forgotten hr := h.forgotten.trans hr
  lasts hover := ⟨(h.lasts tended hover).1, (h.lasts tended hover).2.1, h.completed hover⟩

/-! ## Finished runs that are dropped -/

/-- Every run that is forgotten, but for those `gone` before, has as many finished runs that are
known after it as are to be kept. -/
def Retains (kept : Option Int) (gone : List String) : List RunRecord → Prop
  | [] => True
  | r :: rest =>
    (r.forgotten = true → r.id ∉ gone →
      ∃ m, kept = some m ∧ m ≤ (rest.countP RunRecord.isKept : Int)) ∧ Retains kept gone rest

theorem Retains.of_gone {kept : Option Int} {gone : List String} {records : List RunRecord}
    (h : ∀ r ∈ records, r.forgotten = true → r.id ∈ gone) : Retains kept gone records := by
  induction records with
  | nil => trivial
  | cons r rest ih =>
    rw [List.forall_mem_cons] at h
    exact ⟨fun hforgotten hnew => absurd (h.1 hforgotten) hnew, ih h.2⟩

/-- What is retained of a list is said of each of its records and those after it. -/
theorem Retains.of_append {kept : Option Int} {gone : List String} {front back : List RunRecord}
    {r : RunRecord} (h : Retains kept gone (front ++ r :: back)) (forgotten : r.forgotten = true)
    (new : r.id ∉ gone) : ∃ m, kept = some m ∧ m ≤ (back.countP RunRecord.isKept : Int) := by
  induction front with
  | nil => exact h.1 forgotten new
  | cons q front ih => exact ih h.2

/-- Runs that go on, and another one that is made, leave retained what is. -/
theorem Retains.moves {kept : Option Int} {gone : List String} {records more : List RunRecord}
    {on : RunRecord → RunRecord} (h : Retains kept gone records)
    (follows : ∀ r ∈ records, Follows r (on r)) (tended : ∀ r ∈ records, r.run.Tended)
    (fresh : ∀ r ∈ more, r.forgotten = false) : Retains kept gone (records.map on ++ more) := by
  induction records with
  | nil =>
    refine .of_gone fun r hr hforgotten => ?_
    rw [fresh r hr] at hforgotten
    cases hforgotten
  | cons r rest ih =>
    rw [List.forall_mem_cons] at follows tended
    refine ⟨fun hforgotten hnew => ?_, ih h.2 follows.2 tended.2⟩
    obtain ⟨m, hkept, hm⟩ := h.1 (follows.1.forgotten ▸ hforgotten) (follows.1.id ▸ hnew)
    refine ⟨m, hkept, Int.le_trans hm ?_⟩
    have hcount := countP_kept_le follows.2 tended.2
    have happend : (rest.map on ++ more).countP RunRecord.isKept =
        (rest.map on).countP RunRecord.isKept + more.countP RunRecord.isKept := List.countP_append
    show (_ : Int) ≤ ((rest.map on ++ more).countP RunRecord.isKept : Int)
    omega

theorem countP_forgetFirst (n : Nat) (records : List RunRecord) :
    (forgetFirst n records).countP RunRecord.isKept = records.countP RunRecord.isKept - n := by
  rw [List.countP_eq_length_filter, filter_forgetFirst, List.length_drop,
    List.countP_eq_length_filter]

/-- Forgetting no more runs than there are too many leaves enough after each that is forgotten. -/
theorem Retains.forgetFirst {m : Int} {gone : List String} {records : List RunRecord} {n : Nat}
    (h : Retains (some m) gone records)
    (few : n = 0 ∨ m + n ≤ (records.countP RunRecord.isKept : Int)) :
    Retains (some m) gone (forgetFirst n records) := by
  induction records generalizing n with
  | nil =>
    rw [forgetFirst_nil]
    trivial
  | cons r rest ih =>
    cases n with
    | zero =>
      rw [forgetFirst_zero]
      exact h
    | succ n =>
      have hfew := few.resolve_left (Nat.succ_ne_zero n)
      rw [RunRecord.forgetFirst_succ_cons]
      by_cases hkept : r.isKept = true
      · rw [List.countP_cons_of_pos hkept] at hfew
        rw [if_pos hkept]
        refine ⟨fun _ _ => ⟨m, rfl, ?_⟩, ih h.2 (.inr ?_)⟩
        · rw [countP_forgetFirst]
          omega
        · omega
      · rw [List.countP_cons_of_neg hkept] at hfew
        rw [if_neg hkept]
        refine ⟨fun hforgotten hnew => ⟨m, rfl, ?_⟩, ih h.2 (.inr hfew)⟩
        rw [countP_forgetFirst]
        omega

end RunRecord

end Conduit
