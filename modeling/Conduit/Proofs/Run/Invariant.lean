import Conduit.Proofs.Run.Ending
import Conduit.Proofs.Run.Onward

/-!
# Invariants of runs

What holds of a run before anything is dispatched, and is kept by every change and when a time limit
stops the run, holds in all of its history. A run that ends before it is begun has next to nothing
on record, so that of such a run it is to be shown of its own.

* `Run.Sound.invariant` — invariants of runs that are sound;
* `Run.Sound.onward` — what no history takes back;
* `Run.Begins.invariant` — invariants of all runs.
-/

namespace Conduit.Run

variable {motive : Run → List String → Prop}

/-- What every change and every time limit keeps of a sound run holds in all of its history. -/
theorem Sound.invariant {r : Run} {lost : List String} (h : Sound r lost) (start : motive r lost)
    (step : ∀ q q' gone more, Sound q gone → motive q gone → Change q q' more →
      motive q' (gone ++ more))
    (stop : ∀ q gone limit, Sound q gone → q.limitReached? = some limit → motive q gone →
      motive (q.stoppedBy limit) gone) (acts : List Act) :
    motive (r.performAll acts) (lost ++ r.lost acts) := by
  have hall := lost_induction (motive := fun q gone => Sound q gone ∧ motive q gone) acts
    ⟨h, start⟩ ?_
  · exact hall.2
  · intro q gone a ⟨hsound, hmotive⟩
    refine Run.perform_induction (motive := fun q gone => Sound q gone ∧ motive q gone) gone a
      hsound.placed.flies_once ⟨hsound, hmotive⟩ ?_ ?_
    · intro p p' gone more ⟨hsound, hmotive⟩ change
      exact ⟨hsound.change change, step p p' gone more hsound hmotive change⟩
    · intro limit _ hreached
      exact ⟨hsound.stoppedBy hreached, stop q gone limit hsound hreached hmotive⟩

/-- A history goes onward. -/
theorem Sound.onward {r : Run} {lost : List String} (h : Sound r lost) (acts : List Act) :
    Onward r (r.performAll acts) := by
  refine h.invariant (motive := fun q _ => Onward r q) (.refl r) ?_ ?_ acts
  · exact fun q q' gone more _ honward change => honward.trans change.onward
  · exact fun q gone limit _ _ honward => { honward with }

/-- What every change keeps of a run that is loaded holds of it when it is begun. -/
theorem begin_invariant {plan : Plan} (formed : plan.pipeline.WellFormed)
    (step : ∀ q q' gone more, Sound q gone → motive q gone → Change q q' more →
      motive q' (gone ++ more)) (now : Nat) (environment : Environment)
    (reader : Option Reader) (cancelled : Bool) (inputs : Members)
    (start : motive (loaded plan now environment reader cancelled inputs) []) :
    motive ((prepare plan now environment reader cancelled).begin inputs) [] := by
  have hall := (begin_changes plan now environment reader cancelled inputs).induction
    (motive := fun q gone => Sound q gone ∧ motive q gone) []
    ⟨.loaded formed now environment reader cancelled inputs, start⟩ ?_
  · exact hall.2
  · intro q q' gone more ⟨hsound, hmotive⟩ change
    exact ⟨hsound.change change, step q q' gone more hsound hmotive change⟩

/-- A run whose inputs are accepted and whose time limit is one is begun. -/
theorem enter_eq_begin {plan : Plan} {inputs : Members}
    (accepted : plan.pipeline.effectiveInputs plan.context = .ok (.ok inputs))
    (limited : plan.executor.limit?.bind TimeLimit.sumFault? = none) (now : Nat)
    (environment : Environment) (reader : Option Reader) (cancelled : Bool) :
    enter plan now environment reader cancelled =
      (prepare plan now environment reader cancelled).begin inputs := by
  unfold enter
  rw [accepted]
  dsimp only
  rw [limited]

/-- What holds of every run before anything is dispatched, of every run that ends before it is
begun, and is kept by every change and by every time limit, holds in all of the history of a run. -/
theorem Begins.invariant {plan : Plan} {r : Run} (begins : Begins plan r)
    (load : ∀ now environment reader cancelled inputs,
      motive (loaded plan now environment reader cancelled inputs) [])
    (rest : ∀ q told, Rests q plan told → (∀ e ∈ told, e.isDone = true) → motive q [])
    (step : ∀ q q' gone more, Sound q gone → motive q gone → Change q q' more →
      motive q' (gone ++ more))
    (stop : ∀ q gone limit, Sound q gone → q.limitReached? = some limit → motive q gone →
      motive (q.stoppedBy limit) gone) (acts : List Act) :
    motive (r.performAll acts) (r.lost acts) := by
  cases begins.entry with
  | begun inputs accepted timed sound about fresh =>
    obtain ⟨d, schema, hcompiled⟩ := begins.compiled
    obtain ⟨now, environment, reader, cancelled, rfl⟩ := begins.entered
    rw [enter_eq_begin accepted timed] at sound ⊢
    exact sound.invariant
      (begin_invariant (.of_compile hcompiled) step now environment reader cancelled inputs
        (load now environment reader cancelled inputs)) step stop acts
  | refused failure rejected rests reported =>
    obtain ⟨hrests, hlost, -⟩ := rests.performAll acts
    rw [hlost]
    exact rest _ _ hrests (by simp [RunEvent.isDone])
  | raised fault faulty rests ended =>
    obtain ⟨hrests, hlost, -⟩ := rests.performAll acts
    rw [hlost]
    exact rest _ _ hrests (by simp)

end Conduit.Run
