import Conduit.Proofs.Engine.Registry

/-!
# What the record of a run shows while it goes on

Whatever the listener of a run does over an event, however long it takes and whether or not it
fails, the record that it finds is that of the events told so far. The same holds of the runs of an
engine, whatever else happens to the engine, as long as nobody gives up waiting for the run.

* `Engine.Orderly.mirrored` — the runs of an engine whose records are in order;
* `Run.record_mirrors_events` — every run at every moment.
-/

namespace Conduit

/-- A run that nobody gave up shows what was told of it. -/
theorem Engine.Orderly.mirrored {e : Engine} (h : Orderly e) {r : RunRecord} (hr : r ∈ e.records)
    (kept : r.run.isAbandoned = false) : Run.Mirrored r.run :=
  ((h.tended r hr).tracked kept).mirrored

namespace Run

/-- At every moment of every history of a run, whatever its listener does, the steps in progress are
those that were told to begin and not to end, each once, and the run is shown as running from the
first step that begins until its end; a listener sees that over each event, the event itself
included. A run that goes on until all is done is over, and when it is no step is in progress and
the state is terminal. So it is with all runs of an engine that nobody gave up. -/
theorem record_mirrors_events {plan : Plan}
    (compiled : ∃ (d : Definition) (schema : Option Members), d.compile schema = .ok plan.pipeline)
    (now : Nat) (environment : Environment) (reader : Option Reader) (cancelled : Bool)
    (acts : List Act) :
    (Mirrored ((enter plan now environment reader cancelled).performAll acts) ∧
      ((enter plan now environment reader cancelled).performAll acts).finish.isOver = true ∧
      Mirrored ((enter plan now environment reader cancelled).performAll acts).finish) ∧
    ∀ e : Engine, e.IsNew → ∀ deeds : List Engine.Act,
      ∀ r ∈ (e.undergoAll deeds).records, r.run.isAbandoned = false → Mirrored r.run := by
  obtain ⟨d, schema, hcompiled⟩ := compiled
  have htracked : Tracked (enter plan now environment reader cancelled) :=
    .enter (.of_compile hcompiled) now environment reader cancelled
  have hbegins : Begins plan (enter plan now environment reader cancelled) :=
    ⟨⟨d, schema, hcompiled⟩, now, environment, reader, cancelled, rfl⟩
  refine ⟨⟨(htracked.performAll acts).mirrored, ?_⟩, ?_⟩
  · obtain ⟨more, hmore, hover⟩ := hbegins.finish_eq acts
    rw [hmore]
    exact ⟨hover, (htracked.performAll more).mirrored⟩
  · intro e fresh deeds r hr hkept
    exact (fresh.orderly.undergoAll deeds).1.mirrored hr hkept

/-- The listener takes its time over each event; the engine has two runs, neither of them given up.
-/
theorem record_mirrors_events_lateCancel :
    (oneActionRun.performAll lateCancel).sightings.map Sighting.view =
        views blank (oneActionRun.performAll lateCancel).events ∧
      Mirrored (oneActionRun.performAll lateCancel) ∧
      ∃ r ∈ ((Engine.slowAndQuick (some 1)).undergoAll Engine.overlapping).records,
        r.run.isAbandoned = false ∧ Mirrored r.run := by
  obtain ⟨⟨hrun, -⟩, hengine⟩ :=
    record_mirrors_events oneActionRun_begins.compiled 0 {} none false lateCancel
  refine ⟨by decide +kernel, hrun, ?_⟩
  have hkept : ∀ r ∈ ((Engine.slowAndQuick (some 1)).undergoAll Engine.overlapping).records,
      r.run.isAbandoned = false := by decide +kernel
  have hsome : ((Engine.slowAndQuick (some 1)).undergoAll Engine.overlapping).records ≠ [] := by
    decide +kernel
  obtain ⟨r, hr⟩ := List.exists_mem_of_ne_nil _ hsome
  exact ⟨r, hr, hkept r hr, hengine _ (Engine.slowAndQuick_new _) Engine.overlapping r hr (hkept r hr)⟩

end Run

end Conduit
