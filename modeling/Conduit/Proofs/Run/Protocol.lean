import Conduit.Proofs.Run.Listener
import Conduit.Proofs.Run.Results

/-!
# The order of events

Of every step a run that is over has told nothing, or that it begins and later, once, that it ends,
however the step was interrupted or given up. After the end of the run nothing is told of any step.
Whether the listener fails over an event makes no difference, the events and the result are the
same, unless it gives up what the event is about. A step that it gives up over its end has no
result.

* `RunEvent.WellTold` — what the events of a run that is over look like;
* `Run.Concurs` — runs with the same events that come to the same end;
* `Run.events_well_told` — that all runs are so.
-/

namespace Conduit

namespace RunEvent

/-! ## Starts and ends -/

/-- The step whose start an event tells. -/
def startOf? : RunEvent → Option String
  | started s => some s.step.id
  | _ => none

/-- The step whose end an event tells. -/
def endOf? : RunEvent → Option String
  | completed s _ _ => some s.step.id
  | stopped s _ _ _ => some s.step.id
  | _ => none

theorem noticeOf_eq_start_iff {id : String} {e : RunEvent} :
    e.noticeOf id = some .start ↔ e.startOf? = some id := by
  cases e <;> simp [noticeOf, startOf?]

theorem noticeOf_eq_stop_iff {id : String} {e : RunEvent} :
    (∃ status, e.noticeOf id = some (.stop status)) ↔ e.endOf? = some id := by
  cases e <;> simp [noticeOf, endOf?]

/-- What the events of a run that is over look like. -/
structure WellTold (events : List RunEvent) : Prop where
  /-- The start of a step is told at most once. -/
  once : ∀ id, (events.countP fun e => decide (e.startOf? = some id)) ≤ 1
  /-- After the start of a step its end is told, once. -/
  ended : ∀ front s back, events = front ++ .started s :: back →
    (back.countP fun e => decide (e.endOf? = some s.step.id)) = 1
  /-- No end of a step is told before its start. -/
  begun : ∀ front e back id, events = front ++ e :: back → e.endOf? = some id →
    ∃ s, s.step.id = id ∧ .started s ∈ front
  /-- After the end of the run nothing is told of a step. -/
  last : ∀ front result back, events = front ++ .done result :: back → ∀ e ∈ back, e.step? = none

/-- Events of a kind are counted by the notices that they give. -/
theorem countP_eq_countP_notices (events : List RunEvent) (id : String)
    {kind : RunEvent → Option String} {p : Notice → Bool}
    (agrees : ∀ e : RunEvent, kind e = some id ↔ ∃ notice, e.noticeOf id = some notice ∧ p notice) :
    (events.countP fun e => decide (kind e = some id)) =
      (events.filterMap (noticeOf id)).countP p := by
  rw [List.countP_filterMap]
  apply List.countP_congr
  intro e _
  rw [decide_eq_true_iff, agrees]
  cases e.noticeOf id <;> simp

/-- Events are well told if the notices of every step are none, or a start and then an end, and
nothing comes after the end of the run. -/
theorem WellTold.of_notices {events : List RunEvent}
    (notices : ∀ id, events.filterMap (noticeOf id) = [] ∨
      ∃ status, events.filterMap (noticeOf id) = [.start, .stop status])
    (last : ∀ front result back, events = front ++ .done result :: back → back = []) :
    WellTold events := by
  have hnotices : ∀ id front e back notice, events = front ++ e :: back →
      e.noticeOf id = some notice → ∃ status, front.filterMap (noticeOf id) ++
        notice :: back.filterMap (noticeOf id) = [.start, .stop status] := by
    intro id front e back notice hsplit hnotice
    have h := notices id
    rw [hsplit, List.filterMap_append, List.filterMap_cons_some hnotice] at h
    exact h.resolve_left (by simp)
  refine { once := ?_, ended := ?_, begun := ?_, last := ?_ }
  · intro id
    rw [countP_eq_countP_notices (p := fun notice => decide (notice = .start)) events id
      (by simp [← noticeOf_eq_start_iff])]
    rcases notices id with hnone | ⟨status, hboth⟩
    · rw [hnone]
      exact Nat.zero_le 1
    · rw [hboth]
      simp
  · intro front s back hsplit
    obtain ⟨status, h⟩ := hnotices s.step.id front _ back .start hsplit (if_pos rfl)
    rw [countP_eq_countP_notices (p := fun notice => decide (notice ≠ .start)) back s.step.id ?_]
    · rcases List.append_eq_cons_iff.1 h with ⟨-, hrest⟩ | ⟨rest, -, hrest⟩
      · rw [(List.cons.inj hrest).2]
        simp
      · -- a second start would be the end
        rcases List.cons_eq_append_iff.1 hrest with ⟨-, hlast⟩ | ⟨more, -, hlast⟩
        · simp at hlast
        · simp at hlast
    · intro e
      rw [← noticeOf_eq_stop_iff]
      constructor
      · rintro ⟨status, hnotice⟩
        exact ⟨_, hnotice, by simp⟩
      · rintro ⟨notice, hnotice, hstop⟩
        cases notice with
        | start => simp at hstop
        | stop status => exact ⟨status, hnotice⟩
  · intro front e back id hsplit hend
    obtain ⟨status, hstop⟩ := noticeOf_eq_stop_iff.2 hend
    obtain ⟨other, h⟩ := hnotices id front e back _ hsplit hstop
    -- the end comes second, so the start is before it
    have hstart : .start ∈ front.filterMap (noticeOf id) := by
      rcases List.append_eq_cons_iff.1 h with ⟨-, hrest⟩ | ⟨rest, hfront, -⟩
      · simp at hrest
      · rw [hfront]
        exact List.mem_cons_self
    obtain ⟨e', he, hnotice⟩ := List.mem_filterMap.1 hstart
    have hid := noticeOf_eq_start_iff.1 hnotice
    cases e' with
    | started s => exact ⟨s, Option.some.inj hid, he⟩
    | _ => cases hid
  · intro front result back hsplit e he
    rw [last front result back hsplit] at he
    cases he

end RunEvent

namespace Run

open RunEvent

/-! ## Runs -/

/-- A run with nothing in flight has told nothing of a step, or that it begins and that it ends. -/
theorem Booked.told_of_idle {r : Run} {lost : List String} (h : Booked r lost)
    (idle : r.flights = []) (id : String) :
    r.told id = [] ∨ ∃ status, r.told id = [.start, .stop status] := by
  by_cases hreported : id ∈ r.reportIds
  · obtain ⟨x, hx, rfl⟩ := List.mem_map.1 hreported
    exact .inr ⟨x.status, (h.reports x hx).1⟩
  · by_cases hlost : id ∈ lost
    · obtain ⟨status, output, hrecorded⟩ := h.begun id hlost
      exact .inr ⟨status, hrecorded.1⟩
    · exact .inl (h.recorded_of_idle idle hreported hlost).1

/-- Nothing comes after the only end of a run. -/
theorem eq_nil_of_isDone {es front back : List RunEvent} {result other : RunResult}
    (quiet : ∀ e ∈ es, e.isDone = false)
    (split : es ++ [.done result] = front ++ .done other :: back) : back = [] := by
  rcases List.eq_nil_or_concat back with rfl | ⟨init, last, rfl⟩
  · rfl
  · rw [List.concat_eq_append, ← List.cons_append, ← List.append_assoc] at split
    have hmem : .done other ∈ es := by
      rw [(List.append_inj' split rfl).1]
      exact List.mem_append_right _ List.mem_cons_self
    cases quiet _ hmem

/-- The events of a sound run that is over are well told. -/
theorem Sound.well_told {r : Run} {lost : List String} (h : Sound r lost)
    (ended : r.isOver = true) : WellTold r.events := by
  refine .of_notices (h.booked.told_of_idle (h.standing.of_isOver ended).1) ?_
  intro front other back hsplit
  cases h.standing with
  | runs phase quiet =>
    unfold isOver at ended
    rw [phase] at ended
    cases ended
  | ends result phase rest concluded complete told accords =>
    obtain ⟨es, hes, hquiet⟩ := told
    exact eq_nil_of_isDone hquiet (hes.symm.trans hsplit)
  | raises trouble time phase rest concluded complete quiet =>
    have hmem : .done other ∈ r.events := by
      rw [hsplit]
      exact List.mem_append_right _ List.mem_cons_self
    cases quiet _ hmem

/-- Ends of runs alone are well told, if there is at most one. -/
theorem Rests.well_told {r : Run} {plan : Plan} {told : List RunEvent} (h : Rests r plan told)
    (ends : told = [] ∨ ∃ result, told = [.done result]) : WellTold r.events := by
  rw [h.events]
  rcases ends with rfl | ⟨result, rfl⟩
  · exact .of_notices (fun _ => .inl rfl) fun front other back hsplit => by simp at hsplit
  · exact .of_notices (fun _ => .inl rfl) fun front other back hsplit =>
      eq_nil_of_isDone (List.forall_mem_nil _) hsplit

/-- Two runs tell the same, come to the same end at the same time, and their listeners see the
same. -/
structure Concurs (r r' : Run) : Prop where
  events : r'.events = r.events
  phase : r'.phase = r.phase
  seen : r'.sightings.map Sighting.mute = r.sightings.map Sighting.mute

theorem Concurs.of_mute {r r' : Run} (h : r'.mute = r.mute) : Concurs r r' where
  events := (congrArg Run.events h : r'.mute.events = r.mute.events)
  phase := (congrArg Run.phase h : r'.mute.phase = r.mute.phase)
  seen := (congrArg Run.sightings h : r'.mute.sightings = r.mute.sightings)

/-- When a run is over, each step has been told to begin and then to end, or neither, and nothing of
a step after the end of the run. A run whose listener fails over some events, at its entry, in all
of its history and when it goes on until all is done, concurs with the run whose listener takes the
same time over them and gives up the same, but does not fail otherwise. -/
theorem events_well_told {plan : Plan}
    (compiled : ∃ (d : Definition) (schema : Option Members), d.compile schema = .ok plan.pipeline)
    (now : Nat) (environment : Environment) (reader : Option Reader) (cancelled : Bool)
    (acts : List Act) :
    (((enter plan now environment reader cancelled).performAll acts).isOver = true →
      WellTold ((enter plan now environment reader cancelled).performAll acts).events) ∧
    ∀ trouble?, (∀ e, trouble? e = some .cancelled ↔ plan.delivery.trouble? e = some .cancelled) →
      Concurs ((enter plan now environment reader cancelled).performAll acts)
        ((enter (plan.failing trouble?) now environment reader cancelled).performAll acts) ∧
      Concurs ((enter plan now environment reader cancelled).performAll acts).finish
        ((enter (plan.failing trouble?) now environment reader cancelled).performAll
          acts).finish := by
  have hbegins : Begins plan (enter plan now environment reader cancelled) :=
    ⟨compiled, now, environment, reader, cancelled, rfl⟩
  refine ⟨fun ended => ?_, fun trouble? same => ?_⟩
  · cases hbegins.entry with
    | begun inputs accepted timed sound about fresh => exact (sound.performAll acts).well_told ended
    | refused failure rejected rests reported =>
      exact (rests.performAll acts).1.well_told (.inr ⟨_, rfl⟩)
    | raised fault faulty rests raised => exact (rests.performAll acts).1.well_told (.inl rfl)
  · -- without the troubles of their listeners that give nothing up the two runs are one
    have hmute : ((enter (plan.failing trouble?) now environment reader cancelled).performAll
        acts).mute = ((enter plan now environment reader cancelled).performAll acts).mute := by
      rw [performAll_mute, performAll_mute, enter_mute, enter_mute, Plan.calm_failing same]
    refine ⟨.of_mute hmute, .of_mute ?_⟩
    rw [finish_mute, finish_mute, hmute]

theorem events_well_told_lateCancel :
    (oneActionRun.performAll lateCancel).isOver = true ∧
      WellTold (oneActionRun.performAll lateCancel).events ∧
      Concurs (oneActionRun.performAll lateCancel).finish
        ((enter (oneActionPlan.failing fun _ => some (.failure (connectorFailure "a" "no"))) 0 {} none
          false).performAll lateCancel).finish := by
  have hover : (oneActionRun.performAll lateCancel).isOver = true := by decide +kernel
  obtain ⟨htold, hsame⟩ :=
    events_well_told oneActionRun_begins.compiled 0 {} none false lateCancel
  exact ⟨hover, htold hover, (hsame _ (by simp [oneActionPlan])).2⟩

/-! ## A listener that gives up a step over its end -/

/-- Gives up every step over its success. -/
def forsakesSuccess : RunEvent → Option Trouble
  | .completed _ _ _ => some .cancelled
  | _ => none

/-- The step succeeds and has a result; with a listener that gives it up over that, and takes as
long over every event, the result of the run does not list it. -/
theorem forsakesSuccess_not_concurs :
    (∀ e, oneActionPlan.delivery.trouble? e = none) ∧
      ¬Concurs oneActionRun.finish
        (enter (oneActionPlan.failing forsakesSuccess) 0 {} none false).finish := by
  refine ⟨fun _ => rfl, fun concurs => ?_⟩
  have hlisted : oneActionRun.finish.returned?.map (fun x => (x.state, x.steps.length)) =
      some (.completed, 1) := by
    decide +kernel
  have hmissing : (enter (oneActionPlan.failing forsakesSuccess) 0 {} none
      false).finish.returned?.map (fun x => (x.state, x.steps.length)) = some (.completed, 0) := by
    decide +kernel
  unfold returned? at hlisted hmissing
  rw [concurs.phase, hlisted] at hmissing
  cases hmissing

end Run

end Conduit
