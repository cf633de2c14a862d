import Conduit.Proofs.Run.View

/-!
# Moves of steps in flight

What taking a step in flight to its next stage can do to a run, and what interrupting it can do. A
step that is given up goes on as if it were interrupted. Everything that is proved of runs goes back
to these two lists of cases.

* `Run.Shift` — a run in which one step in flight has changed, and what was told of it;
* `Run.Move`, `Run.Cut` — a step goes on, and a step is interrupted;
* `Run.GivesUp` — what gives up a step;
* `Run.advance_cases`, `Run.interrupt_cases` — what going on and interrupting come to.
-/

namespace Conduit

namespace Run

/-! ## Events -/

/-- Making an event adds it to the events; beyond that it changes only what listeners see, and it
may give the reader of the events a turn. -/
theorem emit_eq (r : Run) (e : RunEvent) :
    ∃ ready sightings current state reader,
      r.emit e = { r with
        events := r.events ++ [e], ready := ready, sightings := sightings, current := current,
        state := state, reader := reader } ∧
      (ready = r.ready ∨ ready = r.ready ++ [.reader]) := by
  -- which steps are under way is kept for the listener, and nothing else is
  have htrack : ∃ current state, ({ r with events := r.events ++ [e] } : Run).track e =
      { r with events := r.events ++ [e], current := current, state := state } := by
    cases e <;> exact ⟨_, _, rfl⟩
  obtain ⟨current, state, htrack⟩ := htrack
  unfold emit
  rw [htrack]
  unfold deliver
  dsimp only
  cases r.reader with
  | none => exact ⟨_, _, _, _, _, rfl, .inl rfl⟩
  | some reader =>
    dsimp only
    cases reader.closed with
    | true => exact ⟨_, _, _, _, _, rfl, .inl rfl⟩
    | false =>
      rw [if_neg (by simp)]
      unfold queue
      dsimp only
      split
      · by_cases hin : Turn.reader ∈ r.ready
        · rw [if_pos hin]
          exact ⟨_, _, _, _, _, rfl, .inl rfl⟩
        · rw [if_neg hin]
          exact ⟨_, _, _, _, _, rfl, .inr rfl⟩
      · exact ⟨_, _, _, _, _, rfl, .inl rfl⟩

/-! ## Shifts -/

/-- `r'` is `r` with a step in flight changed to `g`, the events `told` made and `outputs` recorded.
The turns of others are kept, and `g` goes on at a reading of the clock or has a turn, unless it is
over; it waits after an event only if the listener takes time over that. -/
structure Shift (r r' : Run) (g : Flight) (told : List RunEvent) (outputs : Outputs) : Prop where
  plan : r'.plan = r.plan
  now : r'.now = r.now
  inputs : r'.inputs = r.inputs
  waiting : r'.waiting = r.waiting
  flights : r'.flights = r.flights.map fun h => if h.id = g.id then g else h
  succeeded : r'.succeeded = r.succeeded
  outputs : r'.outputs = outputs
  reports : r'.reports = r.reports
  failure : r'.failure = r.failure
  expired : r'.expired = r.expired
  cancelled : r.cancelled = true → r'.cancelled = true
  heeded : r'.heeded = r.heeded
  deadline : r'.deadline = r.deadline
  phase : r'.phase = r.phase
  events : r'.events = r.events ++ told
  turns : ∀ t ∈ r.ready, t ≠ .flight g.id → t ∈ r'.ready
  turns_le : r'.ready.length ≤ r.ready.length + 2
  goes_on : g.stage.isEnded = true ∨ g.due.isSome = true ∨ .flight g.id ∈ r'.ready
  waits : g.due.isSome = true → ∀ e ∈ told, ∃ micros, r.plan.delivery.wait e = .time micros
  shows : Shows r r' told

/-- Entering a stage changes a step in flight and adds at most a turn for it. -/
theorem enterStage_eq (r : Run) (f : Flight) (stage : Stage) (wait : Wait) :
    ∃ ready held due,
      r.enterStage f stage wait = { r with
        flights := r.flights.map fun h =>
          if h.id = f.id then { f with stage := stage, due := due } else h
        ready := ready, held := held } ∧
      (∀ t ∈ r.ready, t ∈ ready) ∧ ready.length ≤ r.ready.length + 1 ∧
      (due.isSome = true ∨ .flight f.id ∈ ready) ∧
      (.reader ∈ ready ↔ .reader ∈ r.ready) ∧
      (due.isSome = true → ∃ micros, wait = .time micros) := by
  cases wait with
  | none =>
    refine ⟨.flight f.id :: r.ready, true, none, rfl, ?_, Nat.le_refl _, .inr List.mem_cons_self,
      by simp, by simp⟩
    intro t ht
    exact List.mem_cons_of_mem _ ht
  | turn =>
    unfold enterStage queue
    dsimp only
    by_cases hin : Turn.flight f.id ∈ (r.setFlight { f with stage := stage, due := none }).ready
    · rw [if_pos hin]
      exact ⟨r.ready, false, none, rfl, fun _ ht => ht, Nat.le_succ _, .inr hin, .rfl, by simp⟩
    · rw [if_neg hin]
      refine ⟨r.ready ++ [.flight f.id], false, none, rfl, ?_, by simp, .inr ?_, by simp, by simp⟩
      · intro t ht
        exact List.mem_append_left _ ht
      · exact List.mem_append_right _ List.mem_cons_self
  | time micros =>
    exact ⟨r.ready, false, some (r.now + micros), rfl, fun _ ht => ht, Nat.le_succ _, .inl rfl,
      .rfl, fun _ => ⟨micros, rfl⟩⟩

/-- A stage that begins in silence: only the step changes. -/
theorem enterStage_shift (r : Run) (f : Flight) (stage : Stage) (wait : Wait) :
    ∃ due,
      Shift r (r.enterStage f stage wait) { f with stage := stage, due := due } [] r.outputs := by
  obtain ⟨ready, held, due, henter, hkept, hle, hon, hline, -⟩ := enterStage_eq r f stage wait
  refine ⟨due, ?_⟩
  rw [henter]
  exact {
    plan := rfl, now := rfl, inputs := rfl, waiting := rfl, flights := rfl, succeeded := rfl
    outputs := rfl, reports := rfl, failure := rfl, expired := rfl, cancelled := id, heeded := rfl
    deadline := rfl, phase := rfl, events := (List.append_nil _).symm
    turns := fun t ht _ => hkept t ht
    turns_le := Nat.le_succ_of_le hle
    goes_on := .inr hon
    waits := fun _ e he => absurd he List.not_mem_nil
    shows := .of_same rfl rfl rfl hline }

/-- A stage that begins with an event: the event is told, and beyond that only the step changes. -/
theorem announceStage_shift (r : Run) (f : Flight) (e : RunEvent) (stage : Bool → Stage) :
    ∃ due,
      Shift r (r.announceStage f e stage)
        { f with stage := stage (r.plan.delivery.givesUp e), due := due } [e] r.outputs := by
  obtain ⟨ready, sightings, current, state, reader, hemit, hready⟩ := emit_eq r e
  have hshows := emit_shows r e
  rw [hemit] at hshows
  obtain ⟨line, held, due, henter, hkept, hle, hon, hline, hdue⟩ := enterStage_eq
    { r with
      events := r.events ++ [e], ready := ready, sightings := sightings, current := current,
      state := state, reader := reader } f (stage (r.plan.delivery.givesUp e))
      (r.plan.delivery.wait e)
  have hmore : (∀ t ∈ r.ready, t ∈ ready) ∧ ready.length ≤ r.ready.length + 1 := by
    rcases hready with rfl | rfl
    · exact ⟨fun _ ht => ht, Nat.le_succ _⟩
    · exact ⟨fun _ ht => List.mem_append_left _ ht, by simp⟩
  refine ⟨due, ?_⟩
  unfold announceStage
  rw [hemit, henter]
  exact {
    plan := rfl, now := rfl, inputs := rfl, waiting := rfl, flights := rfl, succeeded := rfl
    outputs := rfl, reports := rfl, failure := rfl, expired := rfl, cancelled := id, heeded := rfl
    deadline := rfl, phase := rfl, events := rfl
    turns := fun t ht _ => hkept t (hmore.1 t ht)
    turns_le := Nat.le_trans hle (Nat.succ_le_succ hmore.2)
    goes_on := .inr hon
    waits := by
      intro hsome x hx
      rw [List.mem_singleton.1 hx]
      exact hdue hsome
    shows := hshows.congr (.refl r) rfl ⟨rfl, rfl, rfl, rfl⟩ id .rfl hline }

/-- A step that ends: only the step changes. -/
theorem endFlight_shift (r : Run) (f : Flight) (report : Option Report) :
    Shift r (r.endFlight f report) { f with stage := .ended report, due := none } [] r.outputs where
  plan := rfl
  now := rfl
  inputs := rfl
  waiting := rfl
  flights := rfl
  succeeded := rfl
  outputs := rfl
  reports := rfl
  failure := rfl
  expired := rfl
  cancelled := id
  heeded := rfl
  deadline := rfl
  phase := rfl
  events := (List.append_nil _).symm
  turns := fun _ ht _ => ht
  turns_le := Nat.le_add_right _ _
  goes_on := .inl rfl
  waits := fun hsome => absurd hsome (by simp)
  shows := .of_same rfl rfl rfl .rfl

/-- What is told when a step stops. -/
def stopping (r : Run) (f : Flight) (status : StepStatus) (failure : Failure) : RunEvent :=
  .stopped f.item status failure (f.stop r.now status failure).micros

@[simp] theorem stopping_eq (r : Run) (f : Flight) (status : StepStatus) (failure : Failure) :
    r.stopping f status failure =
      .stopped f.item status failure (f.stop r.now status failure).micros := rfl

/-- A step that stops: that is told, and its report is on its way. -/
theorem stopFlight_shift (r : Run) (f : Flight) (status : StepStatus) (failure : Failure) :
    ∃ due, Shift r (r.stopFlight f status failure)
      { f with
        stage := .closing (f.stop r.now status failure)
          (r.plan.delivery.givesUp (r.stopping f status failure))
        due := due }
      [r.stopping f status failure] r.outputs :=
  announceStage_shift _ _ _ _

/-! ## Going on -/

/-- Why a step that goes on fails, and with which failure. -/
inductive Stumbles (r : Run) (f : Flight) : Failure → Prop
  /-- Its input cannot be built. -/
  | unbuilt (fault : BuildFault) (stage : f.stage = .opening false)
      (built : f.item.mapper.build (r.outputs.read r.environment) r.inputs = .error fault) :
      Stumbles r f (fault.trouble.stepFailure f.id)
  /-- It has no connector. -/
  | unconnected (failure : Failure) (stage : f.stage = .opening false)
      (found : r.plan.executor.registry.connectorOf f.item.step = .error failure) :
      Stumbles r f failure
  /-- Its time is limited by what is no limit. -/
  | untimed (limit : TimeLimit) (fault : Fault) (stage : f.stage = .opening false)
      (limited : r.plan.executor.stepLimit? = some limit) (faulty : limit.callFault? = some fault) :
      Stumbles r f ((Trouble.fault fault).stepFailure f.id)
  /-- Its time is over. -/
  | late (limit : TimeLimit)
      (stage : (∃ input connector, f.stage = .entering input connector) ∨
        ∃ call, f.stage = .calling call true)
      (limited : r.plan.executor.stepLimit? = some limit) :
      Stumbles r f (stepTimeoutFailure f.id limit)
  /-- Its connector makes trouble. -/
  | refused (call : Call) (overdue : Bool) (trouble : Trouble)
      (stage : f.stage = .calling call overdue)
      (answer : (call.finish r.environment).2 = .error trouble) (kept : trouble ≠ .cancelled) :
      Stumbles r f (trouble.stepFailure f.id)
  /-- Its output cannot be copied. -/
  | uncopyable (call : Call) (overdue : Bool) (fault : Fault)
      (stage : f.stage = .calling call overdue)
      (answer : (call.finish r.environment).2 = .ok (.uncopyable fault)) :
      Stumbles r f (uncopyableFailure f.id fault)
  /-- It has an output already. -/
  | repeated (call : Call) (overdue : Bool) (fault : Fault)
      (stage : f.stage = .calling call overdue) (taken : r.outputs.has f.id = true) :
      Stumbles r f (connectorFailure f.id fault.report)

/-- What taking the step in flight `f` to its next stage can make of a run. -/
inductive Move (r r' : Run) (f : Flight) : Prop
  /-- Its start is told. -/
  | opens (due : Option Nat) (stage : f.stage = .queued)
      (shift : Shift r r'
        { f with
          startedAt := r.now, stage := .opening (r.plan.delivery.givesUp (.started f.item))
          due := due }
        [.started f.item] r.outputs)
  /-- Its input is built and its connector found. -/
  | prepares (due : Option Nat) (input : Value) (connector : Connector)
      (stage : f.stage = .opening false)
      (built : f.item.mapper.build (r.outputs.read r.environment) r.inputs = .ok input)
      (found : r.plan.executor.registry.connectorOf f.item.step = .ok connector)
      (timed : ∀ limit, r.plan.executor.stepLimit? = some limit → limit.callFault? = none)
      (shift : Shift r r' { f with stage := .entering input connector, due := due } [] r.outputs)
  /-- Its connector is called. -/
  | calls (due : Option Nat) (input : Value) (connector : Connector) (overdue : Bool)
      (stage : f.stage = .entering input connector)
      (shift : Shift r r'
        { f with
          stage := .calling (connector.call f.item.step input r.plan.context r.environment).2 overdue
          due := due } [] r.outputs)
  /-- It fails, which is told. -/
  | fails (due : Option Nat) (failure : Failure) (why : Stumbles r f failure)
      (shift : Shift r r'
        { f with
          stage := .closing (f.stop r.now .error failure)
            (r.plan.delivery.givesUp (r.stopping f .error failure))
          due := due }
        [r.stopping f .error failure] r.outputs)
  /-- It gives an output, which is told. -/
  | succeeds (due : Option Nat) (call : Call) (overdue : Bool) (output : Output) (seen : Value)
      (outputs : Outputs) (stage : f.stage = .calling call overdue)
      (answer : (call.finish r.environment).2 = .ok output)
      (copyable : ∀ fault, output ≠ .uncopyable fault)
      (recorded : r.outputs.record f.id output = .ok outputs)
      (shift : Shift r r'
        { f with
          stage := .closing (f.succeed r.now output)
            (r.plan.delivery.givesUp (.completed f.item seen (f.succeed r.now output).micros))
          due := due }
        [.completed f.item seen (f.succeed r.now output).micros] outputs)
  /-- Its report was told. -/
  | ends (report : Report) (stage : f.stage = .closing report false)
      (shift : Shift r r' { f with stage := .ended (some report), due := none } [] r.outputs)

/-- What interrupting the step in flight `f`, or giving it up, can make of a run. -/
inductive Cut (r r' : Run) (f : Flight) : Prop
  /-- It is over already. -/
  | past (stage : f.stage.isEnded = true) (same : r' = r.dropTurn f.id)
  /-- It has not begun and never will. -/
  | drops (stage : f.stage = .queued)
      (shift : Shift r r' { f with stage := .ended none, due := none } [] r.outputs)
  /-- Its end was being told: its report is lost. -/
  | loses (report : Report) (givenUp : Bool) (stage : f.stage = .closing report givenUp)
      (shift : Shift r r' { f with stage := .ended none, due := none } [] r.outputs)
  /-- It stops, which is told. -/
  | stops (due : Option Nat)
      (stage : (∃ givenUp, f.stage = .opening givenUp) ∨
        (∃ input connector, f.stage = .entering input connector) ∨
        ∃ call overdue, f.stage = .calling call overdue)
      (shift : Shift r r'
        { f with
          stage := .closing (f.stop r.now (r.interruption f).1 (r.interruption f).2)
            (r.plan.delivery.givesUp (r.stopping f (r.interruption f).1 (r.interruption f).2))
          due := due }
        [r.stopping f (r.interruption f).1 (r.interruption f).2] r.outputs)

/-- What gives up the step in flight `f` when it goes on: its connector, or the listener over an
event about it. -/
inductive GivesUp (r : Run) (f : Flight) : Prop
  /-- The listener does over its start. -/
  | start (stage : f.stage = .opening true)
  /-- Its connector does. -/
  | answer (call : Call) (overdue : Bool) (stage : f.stage = .calling call overdue)
      (answer : (call.finish r.environment).2 = .error .cancelled)
  /-- The listener does over its end. -/
  | last (report : Report) (stage : f.stage = .closing report true)

/-- Nobody gives up a step that has not begun. -/
theorem GivesUp.stage_ne_queued {r : Run} {f : Flight} (h : GivesUp r f) : f.stage ≠ .queued := by
  cases h with
  | start stage => simp [stage]
  | answer call overdue stage answer => simp [stage]
  | last report stage => simp [stage]

/-- A step that fails after others acted on the environment fails as it would have before. -/
theorem Move.of_failure {r q : Run} {f : Flight} {failure : Failure}
    (why : Stumbles r f failure)
    (keeps : ∀ g told, Shift q (q.failFlight f failure) g told q.outputs →
      Shift r (q.failFlight f failure) g told r.outputs) (now : q.now = r.now)
    (plan : q.plan = r.plan) : Move r (q.failFlight f failure) f := by
  obtain ⟨due, h⟩ := stopFlight_shift q f .error failure
  have htold : q.stopping f .error failure = r.stopping f .error failure := by
    unfold stopping
    rw [now]
  rw [htold, now, plan] at h
  exact .fails due failure why (keeps _ _ h)

/-- Preparing a step. -/
theorem prepareFlight_move {r : Run} {f : Flight} (stage : f.stage = .opening false) :
    Move r (r.prepareFlight f) f := by
  unfold prepareFlight
  cases hbuilt : f.item.mapper.build (r.outputs.read r.environment) r.inputs with
  | error fault => exact .of_failure (.unbuilt fault stage hbuilt) (fun _ _ h => h) rfl rfl
  | ok input =>
    dsimp only
    cases hfound : r.plan.executor.registry.connectorOf f.item.step with
    | error failure => exact .of_failure (.unconnected failure stage hfound) (fun _ _ h => h) rfl rfl
    | ok connector =>
      dsimp only
      cases hlimit : r.plan.executor.stepLimit? with
      | none =>
        obtain ⟨due, h⟩ := enterStage_shift r f (.entering input connector) .none
        exact .prepares due input connector stage hbuilt hfound (by simp [hlimit]) h
      | some limit =>
        dsimp only
        cases hfault : limit.callFault? with
        | some fault =>
          exact .of_failure (.untimed limit fault stage hlimit hfault) (fun _ _ h => h) rfl rfl
        | none =>
          obtain ⟨due, h⟩ := enterStage_shift r f (.entering input connector) .turn
          refine .prepares due input connector stage hbuilt hfound ?_ h
          intro other hother
          rw [hlimit] at hother
          cases hother
          exact hfault

/-- A shift of a run after a call acted on the environment is one of the run before. -/
theorem Shift.of_afterCall {r r' : Run} {g : Flight} {told : List RunEvent} {outputs : Outputs}
    {environment : Environment} (h : Shift (r.afterCall environment) r' g told outputs) :
    Shift r r' g told outputs :=
  { h with
    cancelled := by
      intro hc
      refine h.cancelled ?_
      show (r.cancelled || environment.stopRequested) = true
      rw [hc, Bool.true_or]
    shows := h.shows.congr ⟨rfl, rfl, rfl, rfl⟩ rfl (.refl r') id .rfl .rfl }

/-- Calling the connector of a step. -/
theorem beginCall_move {r : Run} {f : Flight} {input : Value} {connector : Connector}
    (stage : f.stage = .entering input connector) : Move r (r.beginCall f input connector) f := by
  have hcall : ∀ overdue wait, Move r
      ((r.afterCall (connector.call f.item.step input r.plan.context r.environment).1).enterStage f
          (.calling (connector.call f.item.step input r.plan.context r.environment).2 overdue)
          wait) f := by
    intro overdue wait
    obtain ⟨due, h⟩ := enterStage_shift
      (r.afterCall (connector.call f.item.step input r.plan.context r.environment).1) f
      (.calling (connector.call f.item.step input r.plan.context r.environment).2 overdue) wait
    exact .calls due input connector overdue stage h.of_afterCall
  unfold beginCall
  dsimp only
  rw [show ∀ e, (r.afterCall e).plan.executor = r.plan.executor from fun _ => rfl]
  cases r.plan.executor.stepLimit? with
  | none => exact hcall false _
  | some limit =>
    dsimp only
    split
    · exact hcall true _
    · exact hcall false _

/-- Calling the connector of a step, if there is time for it. -/
theorem callFlight_move {r : Run} {f : Flight} {input : Value} {connector : Connector}
    (stage : f.stage = .entering input connector) : Move r (r.callFlight f input connector) f := by
  unfold callFlight
  cases hlimit : r.plan.executor.stepLimit? with
  | none => exact beginCall_move stage
  | some limit =>
    dsimp only
    split
    · exact beginCall_move stage
    · exact .of_failure (.late limit (.inl ⟨input, connector, stage⟩) hlimit) (fun _ _ h => h) rfl rfl

/-- Recording the output of a step. -/
theorem completeFlight_move {r : Run} {f : Flight} {call : Call} {overdue : Bool} {output : Output}
    (environment : Environment) (stage : f.stage = .calling call overdue)
    (answer : (call.finish r.environment).2 = .ok output)
    (copyable : ∀ fault, output ≠ .uncopyable fault) :
    Move r ((r.afterCall environment).completeFlight f output) f := by
  unfold completeFlight
  dsimp only
  cases hrecord : (r.afterCall environment).outputs.record f.id output with
  | error fault =>
    -- recording fails for one reason only
    have htaken : r.outputs.has f.id = true := by
      change r.outputs.record f.id output = .error fault at hrecord
      unfold Outputs.record at hrecord
      split at hrecord
      · assumption
      · cases hrecord
    exact .of_failure (.repeated call overdue fault stage htaken) (fun _ _ h => h.of_afterCall) rfl rfl
  | ok outputs =>
    obtain ⟨due, h⟩ := announceStage_shift { r.afterCall environment with outputs := outputs } f
      (.completed f.item (output.read (r.afterCall environment).environment)
        (f.succeed r.now output).micros)
      (.closing (f.succeed r.now output))
    have hended : Shift (r.afterCall environment) _ _ _ outputs :=
      { h with shows := h.shows.congr ⟨rfl, rfl, rfl, rfl⟩ rfl (.refl _) id .rfl .rfl }
    exact .succeeds due call overdue output _ outputs stage answer copyable hrecord
      hended.of_afterCall

/-- A step that goes on makes one of the moves, or is given up. -/
def GoesOn (r r' : Run) (f : Flight) : Prop := Move r r' f ∨ GivesUp r f ∧ Cut r r' f

/-- Taking an answer that came in time. -/
theorem takeAnswer_goesOn {r : Run} {f : Flight} {call : Call} {overdue : Bool}
    (stage : f.stage = .calling call overdue) : GoesOn r (r.takeAnswer f call) f := by
  unfold takeAnswer
  dsimp only
  cases hanswer : (call.finish r.environment).2 with
  | error trouble =>
    by_cases hgiven : trouble = .cancelled
    · subst hgiven
      obtain ⟨due, h⟩ := stopFlight_shift (r.afterCall (call.finish r.environment).1) f
        (r.interruption f).1 (r.interruption f).2
      exact .inr ⟨.answer call overdue stage hanswer,
        .stops due (.inr (.inr ⟨call, overdue, stage⟩)) h.of_afterCall⟩
    · have hfails : Move r ((r.afterCall (call.finish r.environment).1).failFlight f
          (trouble.stepFailure f.id)) f :=
        .of_failure (.refused call overdue trouble stage hanswer hgiven)
          (fun _ _ h => h.of_afterCall) rfl rfl
      cases trouble with
      | cancelled => exact absurd rfl hgiven
      | _ => exact .inl hfails
  | ok output =>
    cases output with
    | uncopyable fault =>
      exact .inl (.of_failure (.uncopyable call overdue fault stage hanswer)
        (fun _ _ h => h.of_afterCall) rfl rfl)
    | value v => exact .inl (completeFlight_move _ stage hanswer (by simp))
    | shared => exact .inl (completeFlight_move _ stage hanswer (by simp))

/-- Taking the answer of a connector. -/
theorem answerFlight_goesOn {r : Run} {f : Flight} {call : Call} {overdue : Bool}
    (stage : f.stage = .calling call overdue) : GoesOn r (r.answerFlight f call overdue) f := by
  unfold answerFlight
  cases overdue with
  | false => exact takeAnswer_goesOn stage
  | true =>
    cases hlimit : r.plan.executor.stepLimit? with
    | none => exact takeAnswer_goesOn stage
    | some limit =>
      exact .inl (.of_failure (.late limit (.inr ⟨call, stage⟩) hlimit) (fun _ _ h => h) rfl rfl)

/-- Taking a step to its next stage does nothing, if there is no such step or it is over, or the
step goes on. -/
theorem advance_cases (r : Run) (id : String) :
    (r.advance id = r ∧ ∀ f, r.flight? id = some f → f.stage.isEnded = true) ∨
      ∃ f, r.flight? id = some f ∧ GoesOn r (r.advance id) f := by
  unfold advance
  cases hf : r.flight? id with
  | none => exact .inl ⟨rfl, fun f h => absurd h (by simp)⟩
  | some f =>
    dsimp only
    cases hstage : f.stage with
    | queued =>
      obtain ⟨due, h⟩ :=
        announceStage_shift r { f with startedAt := r.now } (.started f.item) .opening
      exact .inr ⟨f, rfl, .inl (.opens due hstage h)⟩
    | opening givenUp =>
      cases givenUp with
      | false => exact .inr ⟨f, rfl, .inl (prepareFlight_move hstage)⟩
      | true =>
        obtain ⟨due, h⟩ := stopFlight_shift r f (r.interruption f).1 (r.interruption f).2
        exact .inr ⟨f, rfl, .inr ⟨.start hstage, .stops due (.inl ⟨true, hstage⟩) h⟩⟩
    | entering input connector => exact .inr ⟨f, rfl, .inl (callFlight_move hstage)⟩
    | calling call overdue => exact .inr ⟨f, rfl, answerFlight_goesOn hstage⟩
    | closing report givenUp =>
      cases givenUp with
      | false =>
        exact .inr ⟨f, rfl, .inl (.ends report hstage (endFlight_shift r f (some report)))⟩
      | true =>
        exact .inr ⟨f, rfl,
          .inr ⟨.last report hstage, .loses report true hstage (endFlight_shift r f none)⟩⟩
    | ended report =>
      refine .inl ⟨rfl, ?_⟩
      intro g hg
      rw [← Option.some.inj hg, hstage]
      rfl

/-! ## Interruptions -/

/-- Those in line but the step that loses its turn stay there. -/
theorem mem_dropTurn {r : Run} {id : String} {t : Turn} (other : t ≠ .flight id) :
    t ∈ (r.dropTurn id).ready ↔ t ∈ r.ready :=
  List.mem_filter.trans (and_iff_left (by simpa using other))

/-- A shift of a run in which the step had lost its turn. -/
theorem Shift.of_dropTurn {r r' : Run} {g : Flight} {told : List RunEvent} {outputs : Outputs}
    (h : Shift (r.dropTurn g.id) r' g told outputs) : Shift r r' g told outputs :=
  { h with
    turns := fun t ht hne => h.turns t ((mem_dropTurn hne).2 ht) hne
    turns_le := Nat.le_trans h.turns_le (Nat.add_le_add_right (List.length_filter_le _ _) 2)
    shows := h.shows.congr ⟨rfl, rfl, rfl, rfl⟩ rfl (.refl r') id
      (mem_dropTurn Turn.noConfusion) .rfl }

/-- Interrupting a step does nothing, if there is no such step, or cuts it. -/
theorem interrupt_cases (r : Run) (id : String) :
    (r.flight? id = none ∧ r.interrupt id = r) ∨
      ∃ f, r.flight? id = some f ∧ Cut r (r.interrupt id) f := by
  unfold interrupt
  cases hf : r.flight? id with
  | none => exact .inl ⟨rfl, rfl⟩
  | some f =>
    have hid : f.id = id := by simpa using List.find?_some hf
    -- the step loses its turn first, so every shift below is one of the run without it
    subst hid
    refine .inr ⟨f, rfl, ?_⟩
    dsimp only
    have hstop := stopFlight_shift (r.dropTurn f.id) f (r.interruption f).1 (r.interruption f).2
    obtain ⟨due, hstop⟩ := hstop
    cases hstage : f.stage with
    | queued => exact .drops hstage (Shift.of_dropTurn (endFlight_shift (r.dropTurn f.id) f none))
    | opening givenUp => exact .stops due (.inl ⟨givenUp, hstage⟩) (Shift.of_dropTurn hstop)
    | entering input connector =>
      exact .stops due (.inr (.inl ⟨input, connector, hstage⟩)) (Shift.of_dropTurn hstop)
    | calling call overdue =>
      exact .stops due (.inr (.inr ⟨call, overdue, hstage⟩)) (Shift.of_dropTurn hstop)
    | closing report givenUp =>
      exact .loses report givenUp hstage
        (Shift.of_dropTurn (endFlight_shift (r.dropTurn f.id) f none))
    | ended report => exact .past (by rw [hstage]; rfl) rfl

end Run

end Conduit
