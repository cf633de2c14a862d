import Conduit.Proofs.Engine.Act

/-!
# The records of an engine

Whatever happens to an engine, its tokens, the states of its runs and the times of their ends agree:
a run has a token as long as its state is not terminal, and that is as long as there is no time of
its end. No more finished runs are kept than the engine is to keep; those that are dropped were made
first.

* `Engine.Consistent` — what tokens, states and times say of the runs;
* `Engine.DropsEarliest` — which finished runs are dropped;
* `Engine.registry` — the records in any history.
-/

namespace Conduit

namespace Engine

open RunRecord (isKept)

/-- What tokens, states and times say of the runs. -/
structure Consistent (e : Engine) : Prop where
  /-- Every token is that of a known run. -/
  known : ∀ id ∈ e.tokens, ∃ r ∈ e.runs, r.id = id
  /-- A run has one token at most. -/
  once : e.tokens.Nodup
  /-- A run has a token as long as its state is not terminal. -/
  state : ∀ r ∈ e.records, r.id ∈ e.tokens ↔ r.run.state.isTerminal = false
  /-- It has a token as long as there is no time of its end. -/
  completed : ∀ r ∈ e.records, r.id ∈ e.tokens ↔ r.completedAt? = none
  /-- No more finished runs are known than are to be kept. -/
  bounded : ∀ m, e.maxRuns = some m → 0 ≤ m → (e.finishedRuns.length : Int) ≤ m

theorem Orderly.consistent {e : Engine} (h : Orderly e) : Consistent e where
  known := by
    intro id hid
    rw [h.tokens] at hid
    obtain ⟨r, hr, rfl⟩ := List.mem_map.1 hid
    obtain ⟨hr, hactive⟩ := List.mem_filter.1 hr
    refine ⟨r, List.mem_filter.2 ⟨hr, ?_⟩, rfl⟩
    rw [h.known r hr hactive]
    rfl
  once := by
    rw [h.tokens]
    exact h.once.sublist (List.filter_sublist.map _)
  state := by
    intro r hr
    rw [h.mem_tokens_iff hr, (h.tended r hr).marked.state, RunRecord.isActive]
    simp
  completed r hr := (h.mem_tokens_iff hr).trans (h.dated r hr)
  bounded := by
    intro m hm hpositive
    have hbound := h.bounded m hm
    rw [h.length_finishedRuns]
    omega

/-- A run that the engine drops is over, no finished run that was made before it is kept, and as
many as are to be kept were made after it. -/
def DropsEarliest (e e' : Engine) : Prop :=
  ∀ front r back, e'.records = front ++ r :: back → r.forgotten = true →
    (∀ q ∈ e.records, q.id = r.id → q.forgotten = false) →
      r.id ∉ e'.tokens ∧ (∀ q ∈ front, q ∉ e'.finishedRuns) ∧
        ∃ m, e'.maxRuns = some m ∧ m ≤ (back.countP isKept : Int)

/-- The runs that the engine has forgotten. -/
def forgottenIds (e : Engine) : List String :=
  (e.records.filter fun r => r.forgotten).map RunRecord.id

/-- From any time on the engine retains what it is to keep, unless there is a cleanup. -/
theorem Orderly.retains {e : Engine} (h : Orderly e) (acts : List Act) (keeps : .cleanup ∉ acts) :
    Retains (e.undergoAll acts) e.forgottenIds := by
  refine h.undergoAll_induction (motive := fun q => Retains q e.forgottenIds) acts keeps ?_
    fun q q' hq hretains change => hretains.change hq change
  exact .of_gone fun r hr hforgotten =>
    List.mem_map_of_mem (List.mem_filter.2 ⟨hr, hforgotten⟩)

theorem Retains.dropsEarliest {e e' : Engine} (h : Retains e' e.forgottenIds)
    (orderly : Orderly e') : DropsEarliest e e' := by
  intro front r back hrecords hforgotten hnew
  have hgone : r.id ∉ e.forgottenIds := by
    intro hmem
    obtain ⟨q, hq, hid⟩ := List.mem_map.1 hmem
    obtain ⟨hq, hforgotten⟩ := List.mem_filter.1 hq
    rw [hnew q hq hid] at hforgotten
    cases hforgotten
  unfold Retains at h
  rw [hrecords] at h
  obtain ⟨m, hmax, hm⟩ := h.of_append hforgotten hgone
  have hr : r ∈ e'.records := by
    rw [hrecords]
    exact List.mem_append_right _ List.mem_cons_self
  refine ⟨?_, fun q hq hkept => ?_, m, hmax, hm⟩
  · rw [orderly.mem_tokens_iff hr]
    intro hactive
    rw [orderly.known r hr hactive] at hforgotten
    cases hforgotten
  · -- the runs after it are as many as may be known
    have hbound := orderly.bounded m hmax
    rw [hrecords, List.countP_append, List.countP_cons] at hbound
    have hpositive : 0 < front.countP isKept := by
      rw [orderly.finishedRuns_eq] at hkept
      exact List.countP_pos_iff.2 ⟨q, hq, (List.mem_filter.1 hkept).2⟩
    omega

/-- In any history of an engine its records are consistent with its tokens, a run that is over stays
as it is, and only a cleanup drops finished runs other than the earliest. A cleanup forgets all
finished runs, says how many, and no other. A request whose workflow cannot be compiled leaves the
engine as it is. -/
theorem registry {e : Engine} (fresh : IsNew e) (before acts : List Act) :
    Consistent (e.undergoAll before) ∧
      (∀ r ∈ (e.undergoAll before).records, r.run.state.isTerminal = true →
        ∃ r' ∈ ((e.undergoAll before).undergoAll acts).records, r'.id = r.id ∧
          r'.run.state = r.run.state ∧ r'.result? = r.result? ∧
          r'.completedAt? = r.completedAt?) ∧
      (.cleanup ∉ acts →
        DropsEarliest (e.undergoAll before) ((e.undergoAll before).undergoAll acts)) ∧
      ((e.undergoAll before).cleanup.1.runs = (e.undergoAll before).activeRuns ∧
        (e.undergoAll before).cleanup.1.tokens = (e.undergoAll before).tokens ∧
        (e.undergoAll before).cleanup.2 = (e.undergoAll before).finishedRuns.length) ∧
      ∀ request reader cancelled trouble,
        (e.undergoAll before).compileWorkflow request.workflow = .error trouble →
          (e.undergoAll before).start request reader cancelled =
            (e.undergoAll before, .error trouble) := by
  have horderly := (fresh.orderly.undergoAll before).1
  generalize e.undergoAll before = now at horderly
  obtain ⟨hlater, hon⟩ := horderly.undergoAll acts
  refine ⟨horderly.consistent, fun r hr hterminal => ?_, fun hkeeps => ?_, ⟨?_, rfl, ?_⟩, ?_⟩
  · obtain ⟨r', hr', honward⟩ := hon.records r hr
    have hover : r.isActive = false := by
      rw [(horderly.tended r hr).marked.state] at hterminal
      simp [RunRecord.isActive, hterminal]
    obtain ⟨hphase, hstate, hcompleted⟩ := honward.lasts hover
    refine ⟨r', hr', honward.id, hstate, ?_, hcompleted⟩
    rw [RunRecord.result?, RunRecord.result?, hphase]
  · exact (horderly.retains acts hkeeps).dropsEarliest hlater
  · rw [runs, horderly.toFiled.cleanup.records, horderly.activeRuns_eq]
    exact RunRecord.filter_known_forgetFirst horderly.known (Nat.le_refl _)
  · exact List.length_map _
  · intro request reader cancelled trouble hfails
    rcases now.start_cases request reader cancelled with ⟨trouble', hcompile, hstart⟩ |
      ⟨p, hcompile, -⟩
    · rw [hfails] at hcompile
      cases hcompile
      exact hstart
    · rw [hfails] at hcompile
      cases hcompile

/-! ## A slow run and a quick one -/

/-- A connector that answers after a while. -/
def patient : Connector where
  name := "patient"
  kind := .controlFlow
  call := fun _ input _ environment =>
    (environment,
     { wait := .time 10
       finish := fun environment => (environment, .ok (.value input)) })

/-- A workflow of one step. -/
def slow : Definition where
  id := "slow"
  name := "S"
  steps := [{ id := "a", kind := .controlFlow }]

/-- A workflow without steps. -/
def quick : Definition where
  id := "quick"
  name := "Q"

/-- An engine with these workflows that keeps so many finished runs. -/
def slowAndQuick (kept : Option Int) : Engine where
  store := .memory { definitions := [("slow", slow), ("quick", quick)] }
  executor :=
    { registry := .ofConnectors {} [patient], concurrency := 1, concurrency_pos := Nat.one_pos }
  maxRuns := kept
  origin := default

/-- A request for a run of a workflow. -/
def requestFor (workflow : String) : Act := .request ⟨workflow, {}⟩ none false

/-- A quick run is made while a slow one is in progress. -/
def overlapping : List Act := [requestFor "slow", requestFor "quick"]

theorem slowAndQuick_new (kept : Option Int) : IsNew (slowAndQuick kept) := ⟨rfl, rfl⟩

/-- The slow run has a token while it is in progress, and is dropped at its end, when its token is
gone. -/
theorem registry_overlapping :
    IsNew (slowAndQuick (some 1)) ∧
      Consistent ((slowAndQuick (some 1)).undergoAll overlapping) ∧
      ((slowAndQuick (some 1)).undergoAll overlapping).tokens = ["run-1"] ∧
      DropsEarliest ((slowAndQuick (some 1)).undergoAll overlapping)
        (((slowAndQuick (some 1)).undergoAll overlapping).undergoAll [.await "run-1"]) ∧
      (((slowAndQuick (some 1)).undergoAll overlapping).undergoAll [.await "run-1"]).records.map
        (fun r => (r.id, r.run.state, r.completedAt?, r.forgotten)) =
        [("run-1", .completed, some 10, true), ("run-2", .completed, some 0, false)] ∧
      (((slowAndQuick (some 1)).undergoAll overlapping).undergoAll [.await "run-1"]).tokens =
        [] := by
  obtain ⟨hconsistent, -, hdrops, -⟩ :=
    registry (slowAndQuick_new (some 1)) overlapping [.await "run-1"]
  exact ⟨slowAndQuick_new _, hconsistent, by decide +kernel, hdrops (by simp), by decide +kernel,
    by decide +kernel⟩

end Engine

end Conduit
