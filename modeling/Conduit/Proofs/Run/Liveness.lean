import Conduit.Proofs.Run.Ending

/-!
# Runs go on

Nothing in a run is forgotten: a step in flight is over, waits for a reading of the clock or has a
turn, and so has the end of the run once it is reported. A run that is running has something in
flight after every act. So as long as a run is not over, something is left to do.

* `Flight.Later`, `Run.Move.later`, `Run.Cut.later` — moves take a step to a later stage;
* `Run.Awake`, `Run.Wakeful` — no step in flight is forgotten;
* `Run.Alive`, `Run.Alive.perform` — the invariant, kept by every act;
* `Run.Alive.isOver_of_nextTime?` — a run with nothing left to do is over.
-/

namespace Conduit

/-- `g` is the step in flight `f` at a later stage. -/
structure Flight.Later (f g : Flight) : Prop where
  id : g.id = f.id
  left : g.stage.left < f.stage.left
  unended : g.due.isSome = true → g.stage.isEnded = false

theorem Stage.left_of_isUnderway {stage : Stage} (h : stage.isUnderway = true) :
    1 < stage.left := by
  cases stage <;> first | cases h; done | simp [left]

theorem Stage.isEnded_of_isClosing {stage : Stage} (h : stage.isClosing = true) :
    stage.isEnded = false := by
  cases stage <;> first | cases h; done | rfl

namespace Run

/-- A step that goes on comes to a later stage; one whose end is reported then is told of. -/
theorem Move.later {r r' : Run} {f : Flight} (move : Move r r' f) :
    ∃ g told outputs, Shift r r' g told outputs ∧ f.Later g ∧
      (g.stage.isClosing = true → told ≠ []) := by
  cases move with
  | opens due stage shift =>
    exact ⟨_, _, _, shift, ⟨rfl, by rw [stage]; simp [Stage.left], fun _ => rfl⟩, by simp⟩
  | prepares due input connector stage built found timed shift =>
    refine ⟨_, _, _, shift, ⟨rfl, by rw [stage]; simp [Stage.left], fun _ => rfl⟩, ?_⟩
    simp [Stage.isClosing]
  | calls due input connector overdue stage shift =>
    refine ⟨_, _, _, shift, ⟨rfl, by rw [stage]; simp [Stage.left], fun _ => rfl⟩, ?_⟩
    simp [Stage.isClosing]
  | fails due failure why shift =>
    exact ⟨_, _, _, shift, ⟨rfl, Stage.left_of_isUnderway why.isUnderway, fun _ => rfl⟩, by simp⟩
  | succeeds due call overdue output seen outputs stage answer copyable recorded shift =>
    exact ⟨_, _, _, shift, ⟨rfl, by rw [stage]; simp [Stage.left], fun _ => rfl⟩, by simp⟩
  | ends report stage shift =>
    refine ⟨_, _, _, shift, ⟨rfl, by rw [stage]; simp [Stage.left], by simp⟩, ?_⟩
    simp [Stage.isClosing]

/-- A step that is interrupted comes to a later stage, or was over. -/
theorem Cut.later {r r' : Run} {f : Flight} (cut : Cut r r' f) :
    (f.stage.isEnded = true ∧ r' = r.dropTurn f.id) ∨
      ∃ g told outputs, Shift r r' g told outputs ∧ f.Later g ∧
        (g.stage.isClosing = true → told ≠ []) := by
  cases cut with
  | past stage same => exact .inl ⟨stage, same⟩
  | drops stage shift =>
    refine .inr ⟨_, _, _, shift, ⟨rfl, by rw [stage]; simp [Stage.left], by simp⟩, ?_⟩
    simp [Stage.isClosing]
  | loses report givenUp stage shift =>
    refine .inr ⟨_, _, _, shift, ⟨rfl, by rw [stage]; simp [Stage.left], by simp⟩, ?_⟩
    simp [Stage.isClosing]
  | stops due stage shift =>
    have hunderway : f.stage.isUnderway = true := by
      rcases stage with ⟨givenUp, stage⟩ | ⟨input, connector, stage⟩ | ⟨call, overdue, stage⟩
      · rw [stage]; rfl
      · rw [stage]; rfl
      · rw [stage]; rfl
    exact .inr ⟨_, _, _, shift, ⟨rfl, Stage.left_of_isUnderway hunderway, fun _ => rfl⟩, by simp⟩

/-- A step that goes on is not over. -/
theorem GivesUp.isEnded {r : Run} {f : Flight} (h : GivesUp r f) : f.stage.isEnded = false := by
  cases h with
  | start stage => rw [stage]; rfl
  | answer call overdue stage answer => rw [stage]; rfl
  | last report stage => rw [stage]; rfl

/-- A step that goes on comes to a later stage, also if it is given up. -/
theorem GoesOn.later {r r' : Run} {f : Flight} (h : GoesOn r r' f) :
    ∃ g told outputs, Shift r r' g told outputs ∧ f.Later g ∧
      (g.stage.isClosing = true → told ≠ []) := by
  rcases h with move | ⟨gives, cut⟩
  · exact move.later
  · refine cut.later.resolve_left fun past => ?_
    rw [gives.isEnded] at past
    cases past.1

theorem GoesOn.placed {r r' : Run} {f : Flight} (h : GoesOn r r' f)
    (flies : r.flight? f.id = some f) (placed : Placed r) : Placed r' :=
  h.elim (fun move => move.placed flies placed) fun gives => gives.2.placed flies placed

/-! ## Steps in flight -/

/-- A step in flight is over, goes on at a reading of the clock or has a turn. -/
def Awake (r : Run) (f : Flight) : Prop :=
  f.stage.isEnded = true ∨ f.due.isSome = true ∨ .flight f.id ∈ r.ready

/-- No step in flight is forgotten; one waits after its end only for the listener. -/
structure Wakeful (r : Run) : Prop where
  awake : ∀ f ∈ r.flights, r.Awake f
  unended : ∀ f ∈ r.flights, f.due.isSome = true → f.stage.isEnded = false
  patient : ∀ f ∈ r.flights, f.stage.isClosing = true → f.due.isSome = true →
    ∃ e micros, r.plan.delivery.wait e = .time micros

/-- A step keeps its turn if the turns of its id are kept. -/
theorem Awake.of_ready {r r' : Run} {f : Flight} (h : r.Awake f)
    (kept : .flight f.id ∈ r.ready → .flight f.id ∈ r'.ready) : r'.Awake f := by
  rcases h with hended | hdue | hturn
  · exact .inl hended
  · exact .inr (.inl hdue)
  · exact .inr (.inr (kept hturn))

/-- A shift forgets no step, if no other step was forgotten before. -/
theorem Shift.wakeful {r r' : Run} {f g : Flight} {told : List RunEvent} {outputs : Outputs}
    (shift : Shift r r' g told outputs) (later : f.Later g)
    (telling : g.stage.isClosing = true → told ≠ [])
    (awake : ∀ e ∈ r.flights, e.id ≠ f.id → r.Awake e)
    (unended : ∀ e ∈ r.flights, e.due.isSome = true → e.stage.isEnded = false)
    (patient : ∀ e ∈ r.flights, e.stage.isClosing = true → e.due.isSome = true →
      ∃ e micros, r.plan.delivery.wait e = .time micros) : Wakeful r' where
  awake := by
    intro e he
    rcases shift.mem_flights he with rfl | ⟨he, hne⟩
    · exact shift.goes_on
    · refine (awake e he (later.id ▸ hne)).of_ready fun hturn => ?_
      exact shift.turns _ hturn (by simpa using hne)
  unended := by
    intro e he hdue
    rcases shift.mem_flights he with rfl | ⟨he, -⟩
    · exact later.unended hdue
    · exact unended e he hdue
  patient := by
    intro e he hclosing hdue
    rw [shift.plan]
    rcases shift.mem_flights he with rfl | ⟨he, -⟩
    · obtain ⟨event, hevent⟩ := List.exists_mem_of_ne_nil told (telling hclosing)
      obtain ⟨micros, hmicros⟩ := shift.waits hdue event hevent
      exact ⟨event, micros, hmicros⟩
    · exact patient e he hclosing hdue

/-- Interruptions forget no step. -/
theorem Wakeful.interrupt {r : Run} (placed : Placed r) (h : Wakeful r) (id : String) :
    Wakeful (r.interrupt id) := by
  rcases interrupt_cases r id with ⟨-, hsame⟩ | ⟨f, hf, hcut⟩
  · rw [hsame]
    exact h
  · rcases hcut.later with ⟨hended, hsame⟩ | ⟨g, told, outputs, shift, later, telling⟩
    · rw [hsame]
      refine { awake := ?_, unended := h.unended, patient := h.patient }
      intro e he
      -- the step was over, so it does without the turn that it lost
      by_cases hid : e.id = f.id
      · rw [List.inj_on_of_nodup_map placed.flies_once he (flight?_mem hf) hid]
        exact .inl hended
      · refine (h.awake e he).of_ready fun hturn => ?_
        exact List.mem_filter.2 ⟨hturn, by simpa using hid⟩
    · exact shift.wakeful later telling (fun e he _ => h.awake e he) h.unended h.patient

theorem Placed.interrupt {r : Run} (placed : Placed r) (id : String) : Placed (r.interrupt id) := by
  rcases interrupt_cases r id with ⟨-, hsame⟩ | ⟨f, hf, hcut⟩
  · rw [hsame]
    exact placed
  · have hid := flight?_id hf
    subst hid
    exact hcut.placed hf placed

theorem Wakeful.interruptAll (ids : List String) :
    ∀ r : Run, Placed r → Wakeful r → Wakeful (r.interruptAll ids) := by
  induction ids with
  | nil => exact fun _ _ h => h
  | cons id ids ih => exact fun r placed h => ih _ (placed.interrupt id) (h.interrupt placed id)

theorem Wakeful.heed {r : Run} (placed : Placed r) (h : Wakeful r) : Wakeful r.heed := by
  unfold Run.heed
  split
  · exact Wakeful.interruptAll _ _ { placed with } { h with }
  · exact h

theorem Wakeful.collect {r : Run} (h : Wakeful r) : Wakeful r.collect := by
  rw [collect_eq]
  exact
    { awake := fun f hf => h.awake f (List.mem_of_mem_filter hf)
      unended := fun f hf => h.unended f (List.mem_of_mem_filter hf)
      patient := fun f hf => h.patient f (List.mem_of_mem_filter hf) }

theorem Wakeful.launch {r : Run} (h : Wakeful r) (s : PipelineStep) : Wakeful (r.launch s) := by
  refine { awake := ?_, unended := ?_, patient := ?_ }
  · intro f hf
    rcases List.mem_append.1 hf with hf | hf
    · exact (h.awake f hf).of_ready fun hturn => List.mem_append_left _ hturn
    · rw [List.mem_singleton.1 hf]
      exact .inr (.inr (List.mem_append_right _ List.mem_cons_self))
  · intro f hf hdue
    rcases List.mem_append.1 hf with hf | hf
    · exact h.unended f hf hdue
    · rw [List.mem_singleton.1 hf]
      rfl
  · intro f hf hclosing
    rcases List.mem_append.1 hf with hf | hf
    · exact h.patient f hf hclosing
    · rw [List.mem_singleton.1 hf] at hclosing
      cases hclosing

theorem Wakeful.dispatchUpTo (fuel : Nat) {r : Run} (h : Wakeful r) :
    Wakeful (dispatchUpTo fuel r) := by
  induction fuel generalizing r with
  | zero => exact h
  | succ fuel ih =>
    unfold Run.dispatchUpTo
    split
    · split
      · exact h
      · next s _ => exact ih (h.launch s)
    · exact h

/-! ## The invariant -/

/-- A run that goes on by itself until it is over. -/
structure Alive (r : Run) : Prop where
  placed : Placed r
  wakeful : Wakeful r
  busy : r.phase = .running → r.flights ≠ []
  closing : ∀ result, r.phase = .closing result none → .finish ∈ r.ready
  limited : r.deadline.isSome = true → r.plan.executor.limit?.isSome = true

/-- Every act leaves each step in one place. -/
theorem Placed.perform {r : Run} (h : Placed r) (a : Act) : Placed (r.perform a) :=
  perform_induction (motive := fun q _ => Placed q) [] a h.flies_once h
    (fun _ _ _ _ hq change => hq.change change) (fun _ _ _ => { h with })

/-- No act changes what a run is about. -/
theorem Placed.perform_plan {r : Run} (h : Placed r) (a : Act) : (r.perform a).plan = r.plan :=
  perform_induction (motive := fun q _ => q.plan = r.plan) [] a h.flies_once rfl
    (fun _ _ _ _ hq change => change.keeps.1.trans hq) fun _ _ _ => rfl

theorem Placed.performAll_plan {r : Run} (h : Placed r) (acts : List Act) :
    (r.performAll acts).plan = r.plan :=
  (performAll_induction (motive := fun q => Placed q ∧ q.plan = r.plan) acts ⟨h, rfl⟩
    fun _ a hq => ⟨hq.1.perform a, (hq.1.perform_plan a).trans hq.2⟩).2

/-- A run with nothing in flight forgets no step. -/
theorem Wakeful.of_idle {r : Run} (idle : r.flights = []) : Wakeful r := by
  refine { awake := ?_, unended := ?_, patient := ?_ }
  all_goals
    intro f hf
    rw [idle] at hf
    cases hf

/-- Ending a run with nothing in flight leaves it alive. -/
theorem Alive.conclude {r : Run} (placed : Placed r) (idle : r.flights = [])
    (limited : r.deadline.isSome = true → r.plan.executor.limit?.isSome = true) :
    Alive r.conclude := by
  have halike := conclude_alike r
  refine
    { placed := halike.placed placed, wakeful := .of_idle (halike.flights_eq_nil idle), busy := ?_,
      closing := ?_, limited := by rw [halike.deadline, halike.plan]; exact limited }
  all_goals unfold Run.conclude
  · cases r.result with
    | error trouble => simp [close]
    | ok result =>
      obtain ⟨_, _, _, _, _, due, hannounce, -⟩ := announce_eq r result
      dsimp only
      rw [hannounce]
      simp
  · cases r.result with
    | error trouble => simp [close]
    | ok result =>
      obtain ⟨_, _, _, _, _, due, hannounce, hfinish⟩ := announce_eq r result
      dsimp only
      rw [hannounce]
      intro other hphase
      cases hphase
      exact hfinish rfl

theorem Alive.concludeIfIdle {r : Run} (placed : Placed r) (wakeful : Wakeful r)
    (running : r.phase = .running)
    (limited : r.deadline.isSome = true → r.plan.executor.limit?.isSome = true) :
    Alive r.concludeIfIdle := by
  rw [concludeIfIdle_eq running]
  cases hidle : r.flights.isEmpty with
  | true => exact .conclude placed (List.isEmpty_iff.1 hidle) limited
  | false =>
    rw [if_neg Bool.false_ne_true]
    refine
      { placed := placed, wakeful := wakeful, busy := fun _ hnil => ?_,
        closing := fun _ hphase => ?_, limited := limited }
    · rw [hnil] at hidle
      cases hidle
    · rw [running] at hphase
      cases hphase

/-- Reading events changes neither steps in flight nor turns. -/
theorem Alive.read {r : Run} {rest : List Turn} (h : Alive r) (ready : r.ready = .reader :: rest) :
    Alive ({ r with ready := rest } : Run).read := by
  have hkept : ∀ t, t ∈ r.ready → t ≠ .reader → t ∈ rest := by
    intro t ht hne
    rw [ready] at ht
    exact (List.mem_cons.1 ht).resolve_left hne
  obtain ⟨sightings, reader, cancelled, hread, -⟩ :=
    readUpTo_eq ((r.reader.map fun reader => reader.unread.length).getD 0) { r with ready := rest }
  show Alive (readUpTo ((r.reader.map fun reader => reader.unread.length).getD 0) _)
  rw [hread]
  exact
    { placed := { h.placed with }
      wakeful :=
        { awake := fun f hf =>
            (h.wakeful.awake f hf).of_ready fun hturn => hkept _ hturn (by simp)
          unended := h.wakeful.unended
          patient := h.wakeful.patient }
      busy := h.busy
      closing := fun result hphase => hkept _ (h.closing result hphase) (by simp)
      limited := h.limited }

/-- The end of a run. -/
theorem Alive.finishClosing {r : Run} {rest : List Turn} (h : Alive r)
    (ready : r.ready = .finish :: rest) : Alive ({ r with ready := rest } : Run).finishClosing := by
  have hkept : ∀ t, t ∈ r.ready → t ≠ .finish → t ∈ rest := by
    intro t ht hne
    rw [ready] at ht
    exact (List.mem_cons.1 ht).resolve_left hne
  have hwakeful : Wakeful ({ r with ready := rest } : Run) :=
    { awake := fun f hf => (h.wakeful.awake f hf).of_ready fun hturn => hkept _ hturn (by simp)
      unended := h.wakeful.unended
      patient := h.wakeful.patient }
  unfold Run.finishClosing
  split
  · exact
      { placed := { h.placed with }
        wakeful := { hwakeful with }
        busy := by simp [close]
        closing := by simp [close]
        limited := h.limited }
  · next hphase =>
    exact
      { placed := { h.placed with }
        wakeful := hwakeful
        busy := h.busy
        closing := fun result hclosing => absurd hclosing (hphase result none)
        limited := h.limited }

/-- A turn of a step in flight. -/
theorem Alive.advance {r : Run} {id : String} {rest : List Turn} (h : Alive r)
    (ready : r.ready = .flight id :: rest) :
    Alive (({ r with ready := rest } : Run).advance id) := by
  have hkept : ∀ t, t ∈ r.ready → t ≠ .flight id → t ∈ rest := by
    intro t ht hne
    rw [ready] at ht
    exact (List.mem_cons.1 ht).resolve_left hne
  rcases advance_cases { r with ready := rest } id with ⟨hsame, hended⟩ | ⟨f, hf, hgoes⟩
  · rw [hsame]
    refine
      { placed := { h.placed with }
        wakeful := { awake := ?_, unended := h.wakeful.unended, patient := h.wakeful.patient }
        busy := h.busy
        closing := fun result hphase => hkept _ (h.closing result hphase) (by simp)
        limited := h.limited }
    intro f hf
    -- the turn was wasted on a step that is over
    by_cases hid : f.id = id
    · exact .inl (hended f (hid ▸ h.placed.flight?_eq hf))
    · exact (h.wakeful.awake f hf).of_ready fun hturn => hkept _ hturn (by simpa using hid)
  · have hid := flight?_id hf
    subst hid
    obtain ⟨g, told, outputs, shift, later, telling⟩ := hgoes.later
    refine
      { placed := hgoes.placed hf { h.placed with }
        wakeful := shift.wakeful later telling ?_ h.wakeful.unended h.wakeful.patient
        busy := ?_, closing := ?_, limited := ?_ }
    · intro e he hne
      exact (h.wakeful.awake e he).of_ready fun hturn => hkept _ hturn (by simpa using hne)
    · intro hphase hnil
      rw [shift.phase] at hphase
      -- a move takes nothing out of flight
      refine h.busy hphase (List.map_eq_nil_iff.1 (?_ : r.flightIds = []))
      have hids := shift.flightIds
      unfold flightIds at hids
      rw [hnil] at hids
      exact hids.symm
    · intro result hphase
      rw [shift.phase] at hphase
      exact shift.turns _ (hkept _ (h.closing result hphase) (by simp)) (by simp)
    · rw [shift.deadline, shift.plan]
      exact h.limited

/-- A turn leaves a run alive. -/
theorem Alive.takeTurn {r : Run} (h : Alive r) : Alive r.takeTurn := by
  unfold Run.takeTurn
  split
  · exact h
  · next t rest hready =>
    cases t with
    | flight id => exact h.advance hready
    | reader => exact h.read hready
    | finish => exact h.finishClosing hready

/-- A round of the dispatcher leaves a run alive. -/
theorem Alive.round {r : Run} (h : Alive r) (running : r.phase = .running) : Alive r.round := by
  unfold Run.round
  split
  · refine .concludeIfIdle h.placed.collect h.wakeful.collect ((collect_keeps r).1.trans running) ?_
    rw [collect_eq]
    exact h.limited
  · obtain ⟨hphase, hchanges⟩ := dispatch_changes r running h.placed.flies_once
    -- changes say nothing of turns: that no step is forgotten is shown of the round itself
    have hkept := hchanges.induction
      (motive := fun q _ => Placed q ∧
        (q.deadline.isSome = true → q.plan.executor.limit?.isSome = true))
      [] ⟨h.placed, h.limited⟩ ?_
    · have hwakeful := (h.wakeful.heed h.placed).collect.dispatchUpTo r.heed.collect.waiting.length
      exact .concludeIfIdle hkept.1 hwakeful hphase hkept.2
    · intro q q' gone more ⟨hplaced, hlimited⟩ change
      refine ⟨hplaced.change change, ?_⟩
      rw [change.deadline, change.keeps.1]
      exact hlimited

/-- Others leave a run alive as long as they leave it as it is but for the environment. -/
theorem Alive.of_same {r r' : Run} (h : Alive r) (placed : Placed r')
    (flights : r'.flights = r.flights) (ready : r'.ready = r.ready) (phase : r'.phase = r.phase)
    (plan : r'.plan = r.plan) (deadline : r'.deadline = r.deadline) : Alive r' where
  placed := placed
  wakeful :=
    { awake := by
        intro f hf
        rw [flights] at hf
        exact (h.wakeful.awake f hf).of_ready fun hturn => ready ▸ hturn
      unended := by
        rw [flights]
        exact h.wakeful.unended
      patient := by
        rw [flights, plan]
        exact h.wakeful.patient }
  busy := by
    rw [phase, flights]
    exact h.busy
  closing := by
    rw [phase, ready]
    exact h.closing
  limited := by
    rw [deadline, plan]
    exact h.limited

/-- A step in flight after what is due was put in line. -/
theorem mem_flights_wakeFlights {r : Run} {e : Flight} (he : e ∈ r.wakeFlights.flights) :
    (∃ f ∈ r.flights, e = { f with due := none } ∧ .flight f.id ∈ r.wakeFlights.ready) ∨
      e ∈ r.flights := by
  obtain ⟨f, hf, hef⟩ := List.mem_map.1 he
  by_cases hdue : (f.due.any fun time => decide (time ≤ r.now)) = true
  · rw [if_pos hdue] at hef
    refine .inl ⟨f, hf, hef.symm, List.mem_append_right _ ?_⟩
    exact List.mem_map_of_mem (List.mem_filter.2 ⟨hf, hdue⟩)
  · rw [if_neg hdue] at hef
    exact .inr (hef ▸ hf)

/-- Putting the steps in line that go on now forgets none. -/
theorem Wakeful.wakeFlights {r : Run} (h : Wakeful r) : Wakeful r.wakeFlights := by
  refine { awake := ?_, unended := ?_, patient := ?_ }
  · intro e he
    rcases mem_flights_wakeFlights he with ⟨f, -, rfl, hturn⟩ | he
    · exact .inr (.inr hturn)
    · exact (h.awake e he).of_ready fun hturn => List.mem_append_left _ hturn
  · intro e he hdue
    rcases mem_flights_wakeFlights he with ⟨f, -, rfl, -⟩ | he
    · cases hdue
    · exact h.unended e he hdue
  · intro e he hclosing hdue
    rcases mem_flights_wakeFlights he with ⟨f, -, rfl, -⟩ | he
    · cases hdue
    · exact h.patient e he hclosing hdue

/-- Putting what is due in line forgets nothing. -/
theorem Alive.wake {r : Run} (h : Alive r) (placed : Placed r.wakeFlights.wakeEnd) :
    Alive r.wakeFlights.wakeEnd := by
  have hwakeful := h.wakeful.wakeFlights
  have hbusy : r.phase = .running → r.wakeFlights.flights ≠ [] := by
    intro running hnil
    exact h.busy running (List.map_eq_nil_iff.1 hnil)
  unfold wakeEnd at placed ⊢
  split at placed
  · next result due hphase =>
    split at placed
    · next hdue =>
      rw [if_pos hdue]
      exact
        { placed := placed
          wakeful :=
            { awake := fun f hf =>
                (hwakeful.awake f hf).of_ready fun hturn => List.mem_append_left _ hturn
              unended := hwakeful.unended
              patient := hwakeful.patient }
          busy := by simp
          closing := fun _ _ => List.mem_append_right _ List.mem_cons_self
          limited := h.limited }
    · next hdue =>
      rw [if_neg hdue]
      refine
        { placed := placed, wakeful := hwakeful, busy := hbusy, closing := ?_
          limited := h.limited }
      intro other hclosing
      rw [hphase] at hclosing
      cases hclosing
  · exact
      { placed := placed
        wakeful := hwakeful
        busy := hbusy
        closing := fun result hclosing => List.mem_append_left _ (h.closing result hclosing)
        limited := h.limited }

/-- The time limit interrupts what is in flight, and forgets nothing. -/
theorem Alive.expire {r : Run} (h : Alive r) (limit : TimeLimit) (placed : Placed (r.expire limit))
    (running : r.phase = .running) : Alive (r.expire limit) := by
  have hkept : Keeps (r.stoppedBy limit) (r.expire limit) :=
    interruptAll_keeps (r.flights.map Flight.id) (r.stoppedBy limit)
  refine
    { placed := placed, wakeful := ?_, busy := fun _ hnil => ?_, closing := fun result hphase => ?_,
      limited := ?_ }
  · exact Wakeful.interruptAll _ (r.stoppedBy limit) { h.placed with } { h.wakeful with }
  · refine h.busy running (List.map_eq_nil_iff.1 (?_ : r.flightIds = []))
    rw [show r.flightIds = (r.stoppedBy limit).flightIds from rfl, ← hkept.flightIds]
    unfold flightIds
    rw [hnil]
    rfl
  · rw [hkept.phase, show (r.stoppedBy limit).phase = .running from running] at hphase
    cases hphase
  · rw [hkept.deadline, hkept.plan]
    exact h.limited

/-- Every act leaves a run alive. -/
theorem Alive.perform {r : Run} (h : Alive r) (a : Act) : Alive (r.perform a) := by
  have hplaced := h.placed.perform a
  cases a with
  | turn => exact h.takeTurn
  | round =>
    show Alive (if r.dispatcherActs then r.round else r)
    cases hacts : r.dispatcherActs with
    | true => exact h.round (running_of_dispatcherActs hacts)
    | false => exact h
  | read =>
    change Placed r.readNext at hplaced
    show Alive r.readNext
    obtain hsame | ⟨reader, e, rest, -, -, -, -, hread⟩ := readNext_cases r
    · rw [hsame]
      exact h
    · rw [hread] at hplaced ⊢
      exact h.of_same hplaced rfl rfl rfl rfl rfl
  | hangUp =>
    change Placed r.hangUp at hplaced
    show Alive r.hangUp
    obtain hsame | ⟨reader, -, -, -, hhang⟩ := hangUp_cases r
    · rw [hsame]
      exact h
    · rw [hhang, cancel_eq] at hplaced ⊢
      exact h.of_same hplaced rfl rfl rfl rfl rfl
  | pass time => exact h.of_same hplaced rfl rfl rfl rfl rfl
  | wake => exact h.wake hplaced
  | expire =>
    cases hlimit : r.limitReached? with
    | some limit =>
      rw [perform_expire hlimit] at hplaced ⊢
      exact h.expire limit hplaced (busy_of_limitReached? hlimit).2.2.2.1
    | none =>
      rw [perform_expire_of_none hlimit]
      exact h
  | cancel =>
    change Placed r.cancel at hplaced
    show Alive r.cancel
    rw [cancel_eq] at hplaced ⊢
    exact h.of_same hplaced rfl rfl rfl rfl rfl
  | share environment =>
    change Placed (r.share environment) at hplaced
    show Alive (r.share environment)
    unfold Run.share at hplaced ⊢
    split at hplaced
    · exact h.of_same hplaced rfl rfl rfl rfl rfl
    · exact h

/-- A run stays alive in all of its history. -/
theorem Alive.performAll {r : Run} (h : Alive r) (acts : List Act) : Alive (r.performAll acts) :=
  performAll_induction acts h fun _ a hq => hq.perform a

/-! ## Beginnings -/

/-- A run with its inputs that is begun is alive. -/
theorem Alive.begin {plan : Plan} (formed : plan.pipeline.WellFormed) (now : Nat)
    (environment : Environment) (reader : Option Reader) (cancelled : Bool) (inputs : Members) :
    Alive ((prepare plan now environment reader cancelled).begin inputs) := by
  have hsound : Sound (loaded plan now environment reader cancelled inputs) [] :=
    .loaded formed now environment reader cancelled inputs
  have hchanges := dispatchUpTo_changes plan.pipeline.steps.length
    (loaded plan now environment reader cancelled inputs) rfl
  have hwakeful : Wakeful (loaded plan now environment reader cancelled inputs) := .of_idle rfl
  have hkept := hchanges.induction
    (motive := fun q _ => Placed q ∧
      (q.deadline.isSome = true → q.plan.executor.limit?.isSome = true))
    [] ⟨hsound.placed, ?_⟩ ?_
  · exact .concludeIfIdle hkept.1 (hwakeful.dispatchUpTo _) (dispatchUpTo_keeps _ _).1 hkept.2
  · intro timed
    rw [show (loaded plan now environment reader cancelled inputs).deadline =
      plan.executor.limit?.map fun limit => now + limit.micros from rfl, Option.isSome_map] at timed
    exact timed
  · intro q q' gone more ⟨hplaced, hlimited⟩ change
    refine ⟨hplaced.change change, ?_⟩
    rw [change.deadline, change.keeps.1]
    exact hlimited

/-- A run is alive from its entry on. -/
theorem Alive.enter {plan : Plan} (formed : plan.pipeline.WellFormed) (now : Nat)
    (environment : Environment) (reader : Option Reader) (cancelled : Bool) :
    Alive (enter plan now environment reader cancelled) := by
  have hfresh : Placed (prepare plan now environment reader cancelled) := by
    refine
      { waiting := List.nil_sublist _, flying := ?_, reported := ?_, own := ?_, waits_once := .nil,
        flies_once := .nil, reported_once := .nil, waits_only := ?_, flies_only := ?_ }
    all_goals simp [prepare, waitingIds, flightIds]
  have hwakeful : Wakeful (prepare plan now environment reader cancelled) := .of_idle rfl
  unfold Run.enter
  dsimp only
  cases plan.pipeline.effectiveInputs plan.context with
  | error fault =>
    exact
      { placed := { hfresh with }, wakeful := { hwakeful with }, busy := by simp [close]
        closing := by simp [close], limited := by simp [close, prepare] }
  | ok checked =>
    cases checked with
    | error failure =>
      obtain ⟨_, _, _, _, _, due, hannounce, hfinish⟩ :=
        announce_eq (prepare plan now environment reader cancelled)
          ((prepare plan now environment reader cancelled).unsuccessful .failed failure)
      dsimp only
      rw [hannounce]
      refine
        { placed := { hfresh with }, wakeful := .of_idle rfl, busy := by simp
          closing := ?_, limited := by simp [prepare] }
      intro result hphase
      cases hphase
      exact hfinish rfl
    | ok inputs =>
      dsimp only
      cases plan.executor.limit?.bind TimeLimit.sumFault? with
      | some fault =>
        exact
          { placed := { hfresh with }, wakeful := { hwakeful with }, busy := by simp [close]
            closing := by simp [close], limited := by simp [close, prepare] }
      | none => exact .begin formed now environment reader cancelled inputs

/-! ## What is left to do -/

/-- A run with nothing left to do is over. -/
theorem Alive.isOver_of_nextTime? {r : Run} (h : Alive r) (last : r.nextTime? = none) :
    r.isOver = true := by
  -- there are no turns, no readings of the clock to wait for and no end of the run on its way
  unfold nextTime? at last
  rw [List.min?_eq_none_iff] at last
  unfold times at last
  rw [List.append_eq_nil_iff, List.append_eq_nil_iff, List.append_eq_nil_iff] at last
  obtain ⟨⟨⟨hwork, hdue⟩, hdeadline⟩, hclosing⟩ := last
  have hwork : r.hasWork = false := by
    by_contra hnot
    rw [if_pos (by simpa using hnot)] at hwork
    cases hwork
  unfold hasWork at hwork
  rw [Bool.or_eq_false_iff] at hwork
  have hready : r.ready = [] := by simpa using hwork.1
  -- a run that is not over has something in flight, or its end on the way: neither is forgotten
  cases hphase : r.phase with
  | «over» ending time =>
    unfold isOver
    rw [hphase]
  | closing result due =>
    unfold closingTime? at hclosing
    rw [hphase] at hclosing
    have hdue : due = none := Option.toList_eq_nil_iff.1 hclosing
    have hfinish := h.closing result (by rw [hphase, hdue])
    rw [hready] at hfinish
    cases hfinish
  | running =>
    have hended : ∀ f ∈ r.flights, f.stage.isEnded = true := by
      intro f hf
      rcases h.wakeful.awake f hf with hended | hsome | hturn
      · exact hended
      · rw [List.filterMap_eq_nil_iff.1 hdue f hf] at hsome
        cases hsome
      · rw [hready] at hturn
        cases hturn
    have hwants := hwork.2
    unfold wantsDispatcher at hwants
    rw [hphase] at hwants
    dsimp only at hwants
    split at hwants
    · rw [List.all_eq_true.2 hended] at hwants
      cases hwants
    · rw [Bool.or_eq_false_iff] at hwants
      obtain ⟨f, hf⟩ := List.exists_mem_of_ne_nil r.flights (h.busy hphase)
      have hnot := List.any_eq_false.1 hwants.1 f hf
      exact absurd (hended f hf) hnot

end Run

end Conduit
