import Conduit.Proofs.Engine.Registry

/-!
# Looking up a run that has finished

Finished runs are dropped in the order in which they were made, not in the order in which they
finished. So a run can be looked up after its end unless as many runs as are to be kept were made
after it and have finished as well. A run that takes long is dropped at its very end when enough
quick ones were made and finished in the meantime.

* `Engine.finished_run_known` — when a finished run is known;
* `Engine.overtaken_run_unknown` — a run that is dropped at its end.
-/

namespace Conduit

namespace Engine

open RunRecord (isKept)

/-- The record of a known run is found by its id. -/
theorem Orderly.run?_eq {e : Engine} (h : Orderly e) {r : RunRecord} (hr : r ∈ e.records) :
    e.run? r.id = if r.forgotten = true then none else some r := by
  have hunique : ∀ q ∈ e.runs, q.id = r.id → q = r := fun q hq hid =>
    List.inj_on_of_nodup_map h.once (List.mem_of_mem_filter hq) hr hid
  unfold run?
  split
  · next hforgotten =>
    refine List.find?_eq_none.2 fun q hq hid => ?_
    have hsame : q = r := hunique q hq (by simpa using hid)
    have hknown := (List.mem_filter.1 hq).2
    rw [hsame, hforgotten] at hknown
    cases hknown
  · next hknown =>
    have hmem : r ∈ e.runs := List.mem_filter.2 ⟨hr, by simpa using hknown⟩
    cases hfind : e.runs.find? fun q => q.id == r.id with
    | none => exact absurd (List.find?_eq_none.1 hfind r hmem) (by simp)
    | some q =>
      have hid : q.id = r.id := by simpa using List.find?_some hfind
      rw [hunique q (List.mem_of_find?_eq_some hfind) hid]

/-- A run that finishes while there is no cleanup is known with its final state and result, unless
as many runs as are to be kept were made after it and are known to have finished: then it is not
known. Either way its record stays as it is. -/
theorem finished_run_known {e : Engine} (fresh : IsNew e) (before acts : List Act)
    (keeps : .cleanup ∉ acts) {id : String}
    (unfinished : ∀ r ∈ (e.undergoAll before).records, r.id = id → r.isActive = true)
    {front back : List RunRecord} {r : RunRecord}
    (records : ((e.undergoAll before).undergoAll acts).records = front ++ r :: back)
    (same : r.id = id) (inactive : r.isActive = false) :
    r.run.state.isTerminal = true ∧
      (∀ result, r.result? = some result → r.run.state = result.state) ∧
      ((∀ m, e.maxRuns = some m → (back.countP isKept : Int) < m) →
        ((e.undergoAll before).undergoAll acts).run? id = some r) ∧
      (∀ m, e.maxRuns = some m → m ≤ (back.countP isKept : Int) →
        ((e.undergoAll before).undergoAll acts).run? id = none) ∧
      ∀ more, ∃ r' ∈ (((e.undergoAll before).undergoAll acts).undergoAll more).records,
        r'.id = id ∧ r'.run.state = r.run.state ∧ r'.result? = r.result? := by
  obtain ⟨horderly, hbefore⟩ := fresh.orderly.undergoAll before
  obtain ⟨hlater, hacts⟩ := horderly.undergoAll acts
  have hretains := horderly.retains acts keeps
  have hmax : ((e.undergoAll before).undergoAll acts).maxRuns = e.maxRuns :=
    hacts.maxRuns.trans hbefore.maxRuns
  -- the run was not forgotten before, as it was in progress or not made yet
  have hnew : r.id ∉ (e.undergoAll before).forgottenIds := by
    intro hmem
    obtain ⟨q, hq, hid⟩ := List.mem_map.1 hmem
    obtain ⟨hq, hforgotten⟩ := List.mem_filter.1 hq
    rw [horderly.known q hq (unfinished q hq (hid.trans same))] at hforgotten
    cases hforgotten
  generalize (e.undergoAll before).undergoAll acts = later at *
  have hr : r ∈ later.records := by
    rw [records]
    exact List.mem_append_right _ List.mem_cons_self
  have hmarked := (hlater.tended r hr).marked
  have hfound := hlater.run?_eq hr
  rw [same] at hfound
  refine ⟨?_, fun result hresult => ?_, fun hfew => ?_, fun m hm hmany => ?_, fun more => ?_⟩
  · rw [hmarked.state]
    simpa [RunRecord.isActive] using inactive
  · unfold RunRecord.result? at hresult
    split at hresult
    · next result' time hphase =>
      cases hresult
      exact hmarked.final _ _ hphase
    · cases hresult
  · rw [hfound]
    refine if_neg fun hforgotten => ?_
    unfold Retains at hretains
    rw [records] at hretains
    obtain ⟨m, hm, hmany⟩ := hretains.of_append hforgotten hnew
    have hless := hfew m (hmax ▸ hm)
    omega
  · rw [hfound]
    refine if_pos ?_
    by_contra hknown
    -- the run itself and those after it are more than may be known
    have hkept : r.isKept = true := by
      rw [isKept, inactive, show r.forgotten = false by simpa using hknown]
      rfl
    have hbound := hlater.bounded m (hmax.trans hm)
    rw [records, List.countP_append, List.countP_cons_of_pos hkept] at hbound
    omega
  · obtain ⟨r', hr', hon⟩ := (hlater.undergoAll more).2.records r hr
    obtain ⟨hphase, hstate, -⟩ := hon.lasts inactive
    refine ⟨r', hr', hon.id.trans same, hstate, ?_⟩
    rw [RunRecord.result?, RunRecord.result?, hphase]

/-- The quick run is known when the slow one has finished as well. -/
theorem finished_run_known_quick :
    ∃ r, (((slowAndQuick (some 1)).undergoAll [requestFor "slow"]).undergoAll
        [requestFor "quick", .await "run-1"]).run? "run-2" = some r ∧
      r.run.state = .completed := by
  obtain ⟨first, r, hrecords⟩ : ∃ first r, (((slowAndQuick (some 1)).undergoAll
      [requestFor "slow"]).undergoAll [requestFor "quick", .await "run-1"]).records = [first, r] :=
    List.length_eq_two.1 (by decide +kernel)
  have hshown : (((slowAndQuick (some 1)).undergoAll [requestFor "slow"]).undergoAll
      [requestFor "quick", .await "run-1"]).records.map
        (fun r => (r.id, r.isActive, r.run.state)) =
      [("run-1", false, .completed), ("run-2", false, .completed)] := by
    decide +kernel
  rw [hrecords] at hshown
  obtain ⟨-, hid, hover, hstate⟩ : first.id = "run-1" ∧ r.id = "run-2" ∧ r.isActive = false ∧
      r.run.state = .completed := by
    simp only [List.map_cons, List.map_nil, List.cons.injEq, Prod.mk.injEq] at hshown
    exact ⟨hshown.1.1, hshown.2.1⟩
  have hsplit : (((slowAndQuick (some 1)).undergoAll [requestFor "slow"]).undergoAll
      [requestFor "quick", .await "run-1"]).records = [first] ++ r :: [] := hrecords
  have hknown := (finished_run_known (slowAndQuick_new (some 1)) [requestFor "slow"]
    [requestFor "quick", .await "run-1"] (by simp [requestFor]) (by decide +kernel) hsplit hid
    hover).2.2.1
  refine ⟨r, hknown fun m hm => ?_, hstate⟩
  cases hm
  decide

/-- The slow run finishes with a result and is dropped at once, since the quick one was made after
it and no more than one finished run is kept. -/
theorem overtaken_run_unknown :
    IsNew (slowAndQuick (some 1)) ∧ (slowAndQuick (some 1)).maxRuns = some 1 ∧
      ((slowAndQuick (some 1)).undergoAll overlapping).activeRuns.map RunRecord.id = ["run-1"] ∧
      (((slowAndQuick (some 1)).undergoAll overlapping).undergo (.go "run-1" 10)).records.map
        (fun r => (r.id, r.run.state, r.result?.isSome)) =
        [("run-1", .completed, true), ("run-2", .completed, true)] ∧
      ((((slowAndQuick (some 1)).undergoAll overlapping).undergo (.go "run-1" 10)).run?
        "run-1").isNone = true := by
  refine ⟨slowAndQuick_new _, rfl, ?_, ?_, ?_⟩
  · decide +kernel
  · decide +kernel
  · decide +kernel

end Engine

end Conduit
