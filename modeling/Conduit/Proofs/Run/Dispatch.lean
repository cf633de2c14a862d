import Conduit.Proofs.Run.Invariant
import Conduit.Proofs.Run.Liveness

/-!
# What is put in flight

The dispatcher puts steps in flight when a run is begun and in its rounds, and nothing else does.
The steps that waited once are those that were put in flight since and those that still wait, each
of them once.

* `Run.launchesUpTo`, `Run.launches`, `Run.launched` — the steps that are put in flight, in order;
* `Run.may_of_mem_launches` — when a step is put in flight;
* `Run.Placed.waitingIds_perm_performAll` — what waits and what is put in flight.
-/

namespace Conduit.Run

/-! ## Launches -/

/-- The steps that `dispatchUpTo` puts in flight. -/
def launchesUpTo : Nat → Run → List String
  | 0, _ => []
  | fuel + 1, r =>
    if r.mayDispatch then
      match r.waiting.find? r.isReady with
      | none => []
      | some s => s.step.id :: launchesUpTo fuel (r.launch s)
    else []

/-- The steps that an act puts in flight. -/
def launches (r : Run) : Act → List String
  | .round =>
    if r.dispatcherActs && r.expired.isNone then
      launchesUpTo r.heed.collect.waiting.length r.heed.collect
    else []
  | _ => []

/-- The steps that are put in flight in a history. -/
def launched (r : Run) : List Act → List String
  | [] => []
  | a :: acts => r.launches a ++ (r.perform a).launched acts

/-- The dispatcher stops, or it puts the first step in flight that may go and goes on. -/
theorem dispatchUpTo_cases (fuel : Nat) (r : Run) :
    (dispatchUpTo (fuel + 1) r = r ∧ launchesUpTo (fuel + 1) r = []) ∨
      ∃ s, r.mayDispatch = true ∧ r.waiting.find? r.isReady = some s ∧
        dispatchUpTo (fuel + 1) r = dispatchUpTo fuel (r.launch s) ∧
        launchesUpTo (fuel + 1) r = s.step.id :: launchesUpTo fuel (r.launch s) := by
  rw [dispatchUpTo, launchesUpTo]
  by_cases hmay : r.mayDispatch = true
  · rw [if_pos hmay, if_pos hmay]
    cases hfirst : r.waiting.find? r.isReady with
    | none => exact .inl ⟨rfl, rfl⟩
    | some s => exact .inr ⟨s, hmay, rfl, rfl, rfl⟩
  · rw [if_neg hmay, if_neg hmay]
    exact .inl ⟨rfl, rfl⟩

/-- What the dispatcher puts in flight comes after what was in flight. -/
theorem flightIds_dispatchUpTo (fuel : Nat) (r : Run) :
    (dispatchUpTo fuel r).flightIds = r.flightIds ++ launchesUpTo fuel r := by
  induction fuel generalizing r with
  | zero => exact (List.append_nil _).symm
  | succ fuel ih =>
    rcases dispatchUpTo_cases fuel r with ⟨hsame, hnone⟩ | ⟨s, -, -, hrest, hlaunches⟩
    · rw [hsame, hnone, List.append_nil]
    · rw [hrest, hlaunches, ih, flightIds_launch, List.append_assoc, List.singleton_append]

/-- The dispatcher puts a step in flight only if it may when it begins. -/
theorem may_of_mem_launchesUpTo {fuel : Nat} {r : Run} {id : String}
    (h : id ∈ launchesUpTo fuel r) : r.mayDispatch = true := by
  cases fuel with
  | zero => cases h
  | succ fuel =>
    rcases dispatchUpTo_cases fuel r with ⟨-, hnone⟩ | ⟨s, hmay, -⟩
    · rw [hnone] at h
      cases h
    · exact hmay

/-- Steps are put in flight in rounds of a run that no time limit has stopped, if the dispatcher may
after it took the steps that are over out of flight. -/
theorem may_of_mem_launches {r : Run} {a : Act} {id : String} (h : id ∈ r.launches a) :
    a = .round ∧ r.dispatcherActs = true ∧ r.expired = none ∧
      r.heed.collect.mayDispatch = true := by
  cases a with
  | round =>
    change id ∈ (if r.dispatcherActs && r.expired.isNone then _ else []) at h
    by_cases hacts : (r.dispatcherActs && r.expired.isNone) = true
    · rw [if_pos hacts] at h
      rw [Bool.and_eq_true] at hacts
      exact ⟨rfl, hacts.1, Option.isNone_iff_eq_none.1 hacts.2, may_of_mem_launchesUpTo h⟩
    · rw [if_neg hacts] at h
      cases h
  | _ => cases h

/-- A step that is put in flight in a history is put in flight by one of its acts. -/
theorem exists_round_of_mem_launched {r : Run} {acts : List Act} {id : String}
    (h : id ∈ r.launched acts) :
    ∃ front back, acts = front ++ .round :: back ∧ id ∈ (r.performAll front).launches .round := by
  induction acts generalizing r with
  | nil => cases h
  | cons a acts ih =>
    rcases List.mem_append.1 h with h | h
    · obtain ⟨rfl, -⟩ := may_of_mem_launches h
      exact ⟨[], acts, rfl, h⟩
    · obtain ⟨front, back, rfl, hlaunches⟩ := ih h
      exact ⟨a :: front, back, rfl, hlaunches⟩

/-- Nothing is put in flight in a run that is not running. -/
theorem launched_eq_nil {r : Run} (ended : ∀ acts, (r.performAll acts).phase ≠ .running)
    (acts : List Act) : r.launched acts = [] := by
  refine List.eq_nil_iff_forall_not_mem.2 fun id hid => ?_
  obtain ⟨front, back, -, hlaunches⟩ := exists_round_of_mem_launched hid
  obtain ⟨-, hacts, -⟩ := may_of_mem_launches hlaunches
  exact ended front (running_of_dispatcherActs hacts)

/-! ## What waits -/

/-- A step that is put in flight waits no longer, and the others still do. -/
theorem waitingIds_perm_launch {r : Run} {s : PipelineStep} (once : r.waitingIds.Nodup)
    (hs : s ∈ r.waiting) : r.waitingIds.Perm (s.step.id :: (r.launch s).waitingIds) := by
  have hnot : s.step.id ∉ (r.launch s).waitingIds := fun hmem =>
    (mem_waitingIds_launch.1 hmem).2 rfl
  have hrest : (r.launch s).waitingIds.Nodup := once.sublist (List.filter_sublist.map _)
  rw [List.perm_ext_iff_of_nodup once (List.nodup_cons.2 ⟨hnot, hrest⟩)]
  intro id
  rw [List.mem_cons, mem_waitingIds_launch]
  constructor
  · intro hid
    by_cases heq : id = s.step.id
    · exact .inl heq
    · exact .inr ⟨hid, heq⟩
  · rintro (rfl | ⟨hid, -⟩)
    · exact List.mem_map_of_mem hs
    · exact hid

/-- When the first step that waits is put in flight, the others still wait. -/
theorem waitingIds_eq_cons {r : Run} {s : PipelineStep} {rest : List PipelineStep}
    (once : r.waitingIds.Nodup) (waits : r.waiting = s :: rest) :
    r.waitingIds = s.step.id :: (r.launch s).waitingIds := by
  have hrest : (r.launch s).waiting = rest := by
    show (r.waiting.filter fun t => t.step.id != s.step.id) = rest
    unfold waitingIds at once
    rw [waits, List.map_cons, List.nodup_cons] at once
    rw [waits, List.filter_cons_of_neg (by simp), List.filter_eq_self]
    intro t ht
    have hne : t.step.id ≠ s.step.id := fun hid => once.1 (hid ▸ List.mem_map_of_mem ht)
    simpa using hne
  unfold waitingIds
  rw [waits, hrest, List.map_cons]

theorem waitingIds_perm_dispatchUpTo (fuel : Nat) {r : Run} (once : r.waitingIds.Nodup) :
    r.waitingIds.Perm (launchesUpTo fuel r ++ (dispatchUpTo fuel r).waitingIds) := by
  induction fuel generalizing r with
  | zero => exact .refl _
  | succ fuel ih =>
    rcases dispatchUpTo_cases fuel r with ⟨hsame, hnone⟩ | ⟨s, -, hfirst, hrest, hlaunches⟩
    · rw [hsame, hnone]
      exact .refl _
    · have hlaunch := waitingIds_perm_launch once (List.mem_of_find?_eq_some hfirst)
      have honce : (r.launch s).waitingIds.Nodup := once.sublist (List.filter_sublist.map _)
      rw [hrest, hlaunches]
      exact hlaunch.trans ((ih honce).cons s.step.id)

theorem Keeps.waitingIds {r r' : Run} (h : Keeps r r') : r'.waitingIds = r.waitingIds := by
  unfold Run.waitingIds
  rw [h.waiting]

theorem waitingIds_advance (r : Run) (id : String) : (r.advance id).waitingIds = r.waitingIds := by
  rcases advance_cases r id with ⟨hsame, -⟩ | ⟨f, -, hgoes⟩
  · rw [hsame]
  · exact hgoes.keeps.waitingIds

theorem waitingIds_takeTurn (r : Run) : r.takeTurn.waitingIds = r.waitingIds := by
  unfold takeTurn
  split
  · rfl
  · next t rest _ =>
    cases t with
    | flight id => exact waitingIds_advance _ id
    | reader => exact (read_stir _).waitingIds
    | finish =>
      show (finishClosing _).waitingIds = _
      unfold finishClosing
      split <;> rfl

theorem waitingIds_heed (r : Run) : r.heed.waitingIds = r.waitingIds := by
  unfold heed
  split
  · exact (interruptAll_keeps r.interruptible { r with heeded := true }).waitingIds
  · rfl

theorem waitingIds_collect (r : Run) : r.collect.waitingIds = r.waitingIds := by
  rw [collect_eq]
  rfl

theorem concludeIfIdle_alike (r : Run) : Alike r r.concludeIfIdle := by
  unfold concludeIfIdle
  split
  · exact conclude_alike r
  · exact .refl r

/-- Only rounds of the dispatcher take steps out of waiting. -/
theorem waitingIds_perform (r : Run) {a : Act} (other : a ≠ .round) :
    (r.perform a).waitingIds = r.waitingIds := by
  cases a with
  | turn => exact waitingIds_takeTurn r
  | round => exact absurd rfl other
  | read => exact (readNext_stir r).waitingIds
  | hangUp => exact (hangUp_stir r).waitingIds
  | pass time => rfl
  | wake => exact (wake_stir r).waitingIds
  | expire =>
    cases hlimit : r.limitReached? with
    | none => rw [perform_expire_of_none hlimit]
    | some limit =>
      rw [perform_expire hlimit]
      exact (interruptAll_keeps (r.flights.map Flight.id) (r.stoppedBy limit)).waitingIds
  | cancel => exact (cancel_stir r).waitingIds
  | share environment => exact (share_stir r environment).waitingIds

/-- What waits before a round is put in flight in it or waits after it. -/
theorem waitingIds_perm_round {r : Run} (once : r.waitingIds.Nodup) :
    r.waitingIds.Perm (r.launches .round ++ (r.perform .round).waitingIds) := by
  show r.waitingIds.Perm ((if r.dispatcherActs && r.expired.isNone then _ else []) ++
    (if r.dispatcherActs then r.round else r).waitingIds)
  cases hacts : r.dispatcherActs with
  | false => exact .refl _
  | true =>
    unfold round
    cases hexpired : r.expired with
    | some failure =>
      show r.waitingIds.Perm r.collect.concludeIfIdle.waitingIds
      rw [(concludeIfIdle_alike _).waitingIds, waitingIds_collect]
    | none =>
      have hcollect : r.heed.collect.waitingIds = r.waitingIds := by
        rw [waitingIds_collect, waitingIds_heed]
      show r.waitingIds.Perm (launchesUpTo r.heed.collect.waiting.length r.heed.collect ++
        r.heed.collect.dispatch.concludeIfIdle.waitingIds)
      rw [(concludeIfIdle_alike _).waitingIds, ← hcollect]
      exact waitingIds_perm_dispatchUpTo _ (by rw [hcollect]; exact once)

theorem Placed.waitingIds_perm_perform {r : Run} (h : Placed r) (a : Act) :
    r.waitingIds.Perm (r.launches a ++ (r.perform a).waitingIds) := by
  by_cases hround : a = .round
  · rw [hround]
    exact waitingIds_perm_round h.waits_once
  · have hnone : r.launches a = [] := by
      cases a with
      | round => exact absurd rfl hround
      | _ => rfl
    rw [hnone, waitingIds_perform r hround]
    exact .refl _

/-- What waits before a history is put in flight in it or waits after it. -/
theorem Placed.waitingIds_perm_performAll {r : Run} (h : Placed r) (acts : List Act) :
    r.waitingIds.Perm (r.launched acts ++ (r.performAll acts).waitingIds) := by
  induction acts generalizing r with
  | nil => exact .refl _
  | cons a acts ih =>
    have hrest := (ih (h.perform a)).append_left (r.launches a)
    rw [← List.append_assoc] at hrest
    exact (h.waitingIds_perm_perform a).trans hrest

/-- Nothing is put in flight twice, or again while it is in flight. -/
theorem Placed.nodup_launched {r : Run} (h : Placed r) (acts : List Act) :
    (r.flightIds ++ r.launched acts).Nodup := by
  have hperm := h.waitingIds_perm_performAll acts
  have hlaunched : (r.launched acts).Nodup :=
    (hperm.nodup_iff.1 h.waits_once).sublist (List.sublist_append_left _ _)
  refine List.nodup_append'.2 ⟨h.flies_once, hlaunched, fun id hflies hmem => ?_⟩
  exact (h.waits_only id (hperm.symm.subset (List.mem_append_left _ hmem))).1 hflies

end Conduit.Run
