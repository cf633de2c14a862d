import Conduit.Proofs.Run.Dispatch
import Conduit.Proofs.Run.Progress

/-!
# Listeners that take no time

A step has one turn after the other until it has to wait, and nothing goes on in the middle of a
turn. So where the listener takes no time, the end of a step is told and the step is over before
anything else happens. That is so until a request to cancel is heeded or a time limit stops the run,
which interrupt several steps at once.

* `Run.Leads`, `Run.advance_leads` — a step whose end is being told is held in its turn;
* `Run.Composed`, `Run.Composed.performAll` — the invariant;
* `Run.Begins.noneClosing` — no end of a step is being told when the dispatcher acts;
* `Run.Begins.lost_eq_nil` — a listener that takes no time and gives up no step loses no report.
-/

namespace Conduit.Run

/-- A step whose end is being told is held in the middle of its turn. -/
def Leads (r : Run) : Prop :=
  ∀ f ∈ r.flights, f.stage.isClosing = true → r.held = true ∧ r.ready.head? = some (.flight f.id)

/-- No end of a step is being told but that of the step `id`. -/
def ClosesOnly (r : Run) (id : String) : Prop :=
  ∀ f ∈ r.flights, f.id ≠ id → f.stage.isClosing = false

/-- No end of a step is being told. -/
def NoneClosing (r : Run) : Prop := ∀ f ∈ r.flights, f.stage.isClosing = false

theorem NoneClosing.leads {r r' : Run} (h : NoneClosing r) (flights : r'.flights = r.flights) :
    Leads r' := by
  intro f hf hclosing
  rw [flights] at hf
  rw [h f hf] at hclosing
  cases hclosing

/-- Who is first in line is the only one whose end may be being told. -/
theorem Leads.closesOnly {r : Run} (h : Leads r) {id : String} {rest : List Turn}
    (ready : r.ready = .flight id :: rest) : ClosesOnly r id := by
  intro f hf hne
  by_contra hclosing
  have hfirst := (h f hf (by simpa using hclosing)).2
  rw [ready, List.head?_cons, Option.some_inj, Turn.flight.injEq] at hfirst
  exact hne hfirst.symm

/-- When no step is first in line in the middle of its turn, no end of a step is being told. -/
theorem Leads.noneClosing {r : Run} (h : Leads r)
    (free : r.held = false ∨ ∀ id, r.ready.head? ≠ some (.flight id)) : NoneClosing r := by
  intro f hf
  by_contra hclosing
  obtain ⟨hheld, hfirst⟩ := h f hf (by simpa using hclosing)
  rcases free with hfree | hother
  · rw [hfree] at hheld
    cases hheld
  · exact hother f.id hfirst

theorem Leads.noneClosing_of_free {r : Run} (h : Leads r) (free : r.ready = [] ∨ r.held = false) :
    NoneClosing r := by
  refine h.noneClosing (free.symm.imp_right fun hquiet id hfirst => ?_)
  rw [hquiet] at hfirst
  cases hfirst

/-- When the dispatcher acts, no end of a step is being told. -/
theorem Leads.noneClosing_of_acts {r : Run} (h : Leads r) (acts : r.dispatcherActs = true) :
    NoneClosing r := by
  unfold dispatcherActs at acts
  rw [Bool.and_eq_true, Bool.or_eq_true, List.isEmpty_iff, Bool.not_eq_true'] at acts
  exact h.noneClosing_of_free acts.2

theorem NoneClosing.closingAmong {r : Run} (h : NoneClosing r) (ids : List String) :
    r.closingAmong ids = [] := by
  refine List.filter_eq_nil_iff.2 fun id _ hany => ?_
  obtain ⟨f, hf, hclosing⟩ := (Option.any_eq_true _ _).1 hany
  rw [h f (flight?_mem hf)] at hclosing
  cases hclosing

/-! ## Stages -/

theorem flights_emit (r : Run) (e : RunEvent) : (r.emit e).flights = r.flights := by
  obtain ⟨_, _, _, _, _, hemit, -⟩ := emit_eq r e
  rw [hemit]

/-- A step that comes to its end is held if it takes no time over that. -/
theorem enterStage_leads {r : Run} {f : Flight} {stage : Stage} {wait : Wait}
    (only : ClosesOnly r f.id) (instant : stage.isClosing = true → wait = .none) :
    Leads (r.enterStage f stage wait) := by
  intro e he hclosing
  obtain ⟨ready, held, due, henter, -⟩ := enterStage_eq r f stage wait
  rw [henter] at he
  obtain ⟨g, hg, heq⟩ := List.mem_map.1 he
  by_cases hid : g.id = f.id
  · rw [if_pos hid] at heq
    subst heq
    rw [instant hclosing]
    exact ⟨rfl, rfl⟩
  · rw [if_neg hid] at heq
    subst heq
    rw [only g hg hid] at hclosing
    cases hclosing

theorem endFlight_leads {r : Run} {f : Flight} (only : ClosesOnly r f.id)
    (report : Option Report) : Leads (r.endFlight f report) := by
  intro e he hclosing
  obtain ⟨g, hg, heq⟩ := List.mem_map.1 he
  by_cases hid : g.id = f.id
  · have hended : { f with stage := .ended report, due := none } = e := (if_pos hid).symm.trans heq
    rw [← hended] at hclosing
    cases hclosing
  · have hsame : g = e := (if_neg hid).symm.trans heq
    rw [← hsame, only g hg hid] at hclosing
    cases hclosing

section Stages

variable {r : Run} {f : Flight} (only : ClosesOnly r f.id)
  (instant : ∀ e, r.plan.delivery.wait e = .none)

include only instant

theorem announceStage_leads (e : RunEvent) (stage : Bool → Stage) :
    Leads (r.announceStage f e stage) := by
  refine enterStage_leads ?_ fun _ => instant e
  unfold ClosesOnly
  rw [flights_emit]
  exact only

theorem completeFlight_leads (output : Output) : Leads (r.completeFlight f output) := by
  unfold completeFlight
  dsimp only
  cases r.outputs.record f.id output with
  | error fault => exact announceStage_leads only instant _ _
  | ok outputs => exact announceStage_leads (r := { r with outputs := outputs }) only instant _ _

theorem prepareFlight_leads : Leads (r.prepareFlight f) := by
  unfold prepareFlight
  cases f.item.mapper.build (r.outputs.read r.environment) r.inputs with
  | error fault => exact announceStage_leads only instant _ _
  | ok input =>
    dsimp only
    cases r.plan.executor.registry.connectorOf f.item.step with
    | error failure => exact announceStage_leads only instant _ _
    | ok connector =>
      dsimp only
      cases r.plan.executor.stepLimit? with
      | none => exact enterStage_leads only Bool.noConfusion
      | some limit =>
        dsimp only
        cases limit.callFault? with
        | some fault => exact announceStage_leads only instant _ _
        | none => exact enterStage_leads only Bool.noConfusion

theorem callFlight_leads (input : Value) (connector : Connector) :
    Leads (r.callFlight f input connector) := by
  have hcall : Leads (r.beginCall f input connector) := by
    unfold beginCall
    dsimp only
    split
    · exact enterStage_leads only Bool.noConfusion
    · split
      · exact enterStage_leads only Bool.noConfusion
      · exact enterStage_leads only Bool.noConfusion
  unfold callFlight
  split
  · exact hcall
  · split
    · exact hcall
    · exact announceStage_leads only instant _ _

theorem takeAnswer_leads (call : Call) : Leads (r.takeAnswer f call) := by
  have hafter : ∀ environment, ClosesOnly (r.afterCall environment) f.id := fun _ => only
  unfold takeAnswer
  dsimp only
  cases (call.finish r.environment).2 with
  | error trouble =>
    cases trouble <;> exact announceStage_leads (hafter _) instant _ _
  | ok output =>
    cases output with
    | uncopyable fault => exact announceStage_leads (hafter _) instant _ _
    | value v => exact completeFlight_leads (hafter _) instant _
    | shared => exact completeFlight_leads (hafter _) instant _

theorem answerFlight_leads (call : Call) (overdue : Bool) :
    Leads (r.answerFlight f call overdue) := by
  unfold answerFlight
  split
  · exact announceStage_leads only instant _ _
  · exact takeAnswer_leads only instant call

end Stages

/-- A step that goes on is held if its end is told then. -/
theorem advance_leads {r : Run} {id : String} (placed : Placed r) (only : ClosesOnly r id)
    (instant : ∀ e, r.plan.delivery.wait e = .none) : Leads (r.advance id) := by
  unfold advance
  cases hf : r.flight? id with
  | none =>
    refine NoneClosing.leads (r := r) (fun f hflies => only f hflies fun hid => ?_) rfl
    rw [← hid, placed.flight?_eq hflies] at hf
    cases hf
  | some f =>
    have hid := flight?_id hf
    subst hid
    dsimp only
    cases hstage : f.stage with
    | queued => exact announceStage_leads (f := { f with startedAt := r.now }) only instant _ _
    | opening givenUp =>
      cases givenUp with
      | true => exact announceStage_leads only instant _ _
      | false => exact prepareFlight_leads only instant
    | entering input connector => exact callFlight_leads only instant input connector
    | calling call overdue => exact answerFlight_leads only instant call overdue
    | closing report givenUp => exact endFlight_leads only _
    | ended report =>
      refine NoneClosing.leads (r := r) (fun e he => ?_) rfl
      by_cases hid : e.id = f.id
      · have hsame : e = f := List.inj_on_of_nodup_map placed.flies_once he (flight?_mem hf) hid
        rw [hsame, hstage]
        rfl
      · exact only e he hid

/-! ## Histories -/

/-- Until a request to cancel is heeded or a time limit stops the run, a step whose end is being
told is held in its turn. -/
def Composed (r : Run) : Prop := r.heeded = true ∨ r.expired.isSome = true ∨ Leads r

/-- A request to cancel stays heeded, and a run that a time limit stopped stays so. -/
theorem perform_interrupted {r : Run} (placed : Placed r) (a : Act)
    (h : r.heeded = true ∨ r.expired.isSome = true) :
    (r.perform a).heeded = true ∨ (r.perform a).expired.isSome = true := by
  refine perform_induction
    (motive := fun q _ => q.heeded = true ∨ q.expired.isSome = true) [] a placed.flies_once h ?_
    fun _ _ _ => .inr rfl
  intro q q' gone more hq change
  exact hq.imp change.onward.heeded fun hexpired => by rw [change.keeps.2.2]; exact hexpired

theorem Leads.takeTurn {r : Run} (h : Leads r) (placed : Placed r)
    (instant : ∀ e, r.plan.delivery.wait e = .none) : Leads r.takeTurn := by
  unfold Run.takeTurn
  split
  · exact h
  · next t rest hready =>
    have hnone : (∀ id, t ≠ .flight id) → NoneClosing r := fun hother => by
      refine h.noneClosing (.inr fun id hfirst => ?_)
      rw [hready, List.head?_cons, Option.some_inj] at hfirst
      exact hother id hfirst
    cases t with
    | flight id =>
      exact advance_leads (r := { r with ready := rest }) { placed with } (h.closesOnly hready)
        instant
    | reader =>
      refine (hnone fun _ => Turn.noConfusion).leads ?_
      show (read _).flights = _
      unfold read
      obtain ⟨_, _, _, hread, -⟩ := readUpTo_eq
        ((r.reader.map fun reader => reader.unread.length).getD 0) { r with ready := rest }
      rw [hread]
    | finish =>
      refine (hnone fun _ => Turn.noConfusion).leads ?_
      show (finishClosing _).flights = _
      unfold finishClosing
      split <;> rfl

theorem NoneClosing.dispatchUpTo (fuel : Nat) {r : Run} (h : NoneClosing r) :
    NoneClosing (dispatchUpTo fuel r) := by
  induction fuel generalizing r with
  | zero => exact h
  | succ fuel ih =>
    rcases dispatchUpTo_cases fuel r with ⟨hsame, -⟩ | ⟨s, -, -, hrest, -⟩
    · rw [hsame]
      exact h
    · rw [hrest]
      refine ih fun f hf => ?_
      rcases List.mem_append.1 hf with hf | hf
      · exact h f hf
      · rw [List.mem_singleton.1 hf]
        rfl

theorem flights_concludeIfIdle (r : Run) : r.concludeIfIdle.flights = r.flights := by
  unfold concludeIfIdle conclude
  split
  · split
    · obtain ⟨_, _, _, _, _, _, hannounce, -⟩ := announce_eq r _
      rw [hannounce]
    · rfl
  · rfl

/-- A round of the dispatcher comes when no end of a step is being told, and tells none unless it
heeds a request to cancel. -/
theorem Leads.round {r : Run} (h : Leads r) (unstopped : r.expired = none)
    (acts : r.dispatcherActs = true) : Composed r.round := by
  have hrunning := running_of_dispatcherActs acts
  have hheed : r.heed.collect.phase = .running :=
    (collect_keeps r.heed).1.trans ((heed_keeps r).1.trans hrunning)
  have hround : r.round = r.heed.collect.dispatch.concludeIfIdle := by
    unfold Run.round
    rw [unstopped]
    rfl
  rw [hround]
  by_cases hasked : (r.cancelled && !r.heeded) = true
  · left
    have hheeded : r.heed.collect.heeded = true := by
      rw [collect_eq]
      unfold heed
      rw [if_pos hasked]
      exact (interruptAll_keeps r.interruptible { r with heeded := true }).heeded
    rw [(concludeIfIdle_alike _).heeded]
    exact (dispatchUpTo_changes _ _ hheed).onward.heeded hheeded
  · right; right
    have hsame : r.heed = r := if_neg hasked
    rw [hsame]
    refine NoneClosing.leads (r := r.collect.dispatch) ?_ (flights_concludeIfIdle _)
    refine NoneClosing.dispatchUpTo _ fun f hf => h.noneClosing_of_acts acts f ?_
    rw [collect_eq] at hf
    exact List.mem_of_mem_filter hf

/-- What is due is put in line behind what is first. -/
theorem Leads.wake {r : Run} (h : Leads r) : Leads r.wakeFlights.wakeEnd := by
  have hline : ∀ (line more : List Turn) (t : Turn), line.head? = some t →
      (line ++ more).head? = some t := by
    intro line more t hfirst
    rw [List.head?_append, hfirst]
    rfl
  have hflights : Leads r.wakeFlights := by
    intro f hf hclosing
    obtain ⟨g, hg, heq⟩ := List.mem_map.1 hf
    have hsame : g.id = f.id ∧ g.stage = f.stage := by
      rw [← heq]
      split <;> exact ⟨rfl, rfl⟩
    obtain ⟨hheld, hfirst⟩ := h g hg (hsame.2 ▸ hclosing)
    exact ⟨hheld, hsame.1 ▸ hline _ _ _ hfirst⟩
  unfold wakeEnd
  split
  · split
    · intro f hf hclosing
      obtain ⟨hheld, hfirst⟩ := hflights f hf hclosing
      exact ⟨hheld, hline _ _ _ hfirst⟩
    · exact hflights
  · exact hflights

/-- Every act keeps a run composed whose listener takes no time. -/
theorem Composed.perform {r : Run} (h : Composed r) (placed : Placed r)
    (instant : ∀ e, r.plan.delivery.wait e = .none) (a : Act) : Composed (r.perform a) := by
  by_cases hinterrupted : r.heeded = true ∨ r.expired.isSome = true
  · exact (perform_interrupted placed a hinterrupted).imp_right .inl
  rw [not_or] at hinterrupted
  have hleads : Leads r := (h.resolve_left hinterrupted.1).resolve_left hinterrupted.2
  cases a with
  | turn => exact .inr (.inr (hleads.takeTurn placed instant))
  | round =>
    show Composed (if r.dispatcherActs then r.round else r)
    split
    · next hacts => exact hleads.round (by simpa using hinterrupted.2) hacts
    · exact h
  | read =>
    show Composed r.readNext
    obtain hsame | ⟨reader, e, rest, -, -, -, -, hread⟩ := readNext_cases r
    · rw [hsame]
      exact h
    · rw [hread]
      exact h
  | hangUp =>
    show Composed r.hangUp
    obtain hsame | ⟨reader, -, -, -, hhang⟩ := hangUp_cases r
    · rw [hsame]
      exact h
    · rw [hhang, cancel_eq]
      exact h
  | pass time => exact h
  | wake => exact .inr (.inr hleads.wake)
  | expire =>
    cases hlimit : r.limitReached? with
    | none =>
      rw [perform_expire_of_none hlimit]
      exact h
    | some limit =>
      have hkept : Keeps (r.stoppedBy limit) (r.expire limit) :=
        interruptAll_keeps (r.flights.map Flight.id) (r.stoppedBy limit)
      rw [perform_expire hlimit]
      exact .inr (.inl (by rw [hkept.expired]; rfl))
  | cancel =>
    show Composed r.cancel
    rw [cancel_eq]
    exact h
  | share environment =>
    show Composed (r.share environment)
    unfold share
    split <;> exact h

/-- A run whose listener takes no time stays composed in all of its history. -/
theorem Composed.performAll {r : Run} (h : Composed r) (placed : Placed r)
    (instant : ∀ e, r.plan.delivery.wait e = .none) (acts : List Act) :
    Composed (r.performAll acts) := by
  have hall := performAll_induction
    (motive := fun q => Composed q ∧ Placed q ∧ ∀ e, q.plan.delivery.wait e = .none) acts
    ⟨h, placed, instant⟩ ?_
  · exact hall.1
  · intro q a ⟨hcomposed, hplaced, hinstant⟩
    exact ⟨hcomposed.perform hplaced hinstant a, hplaced.perform a,
      by rw [hplaced.perform_plan a]; exact hinstant⟩

/-- A run is composed at its entry: nothing is told of a step then. -/
theorem enter_composed (plan : Plan) (now : Nat) (environment : Environment)
    (reader : Option Reader) (cancelled : Bool) :
    Composed (enter plan now environment reader cancelled) := by
  have hidle : ∀ r : Run, r.flights = [] → NoneClosing r := fun r hnil f hf => by
    rw [hnil] at hf
    cases hf
  right; right
  unfold enter
  dsimp only
  cases plan.pipeline.effectiveInputs plan.context with
  | error fault => exact (hidle (prepare plan now environment reader cancelled) rfl).leads rfl
  | ok checked =>
    cases checked with
    | error failure =>
      obtain ⟨_, _, _, _, _, _, hannounce, -⟩ :=
        announce_eq (prepare plan now environment reader cancelled)
          ((prepare plan now environment reader cancelled).unsuccessful .failed failure)
      dsimp only
      rw [hannounce]
      exact (hidle (prepare plan now environment reader cancelled) rfl).leads rfl
    | ok inputs =>
      dsimp only
      cases plan.executor.limit?.bind TimeLimit.sumFault? with
      | some fault => exact (hidle (prepare plan now environment reader cancelled) rfl).leads rfl
      | none =>
        refine NoneClosing.leads (r := dispatchUpTo plan.pipeline.steps.length
          (loaded plan now environment reader cancelled inputs)) ?_ (flights_concludeIfIdle _)
        exact (hidle (loaded plan now environment reader cancelled inputs) rfl).dispatchUpTo _

theorem Begins.composed {plan : Plan} {r : Run} (begins : Begins plan r) : Composed r := by
  obtain ⟨now, environment, reader, cancelled, rfl⟩ := begins.entered
  exact enter_composed plan now environment reader cancelled

/-- Where the listener takes no time, no end of a step is being told when the dispatcher acts, until
a request to cancel is heeded or a time limit stops the run. -/
theorem Begins.noneClosing {plan : Plan} {r : Run} (begins : Begins plan r) (acts : List Act)
    (instant : ∀ e, plan.delivery.wait e = .none)
    (dispatches : (r.performAll acts).dispatcherActs = true) :
    (r.performAll acts).heeded = true ∨ (r.performAll acts).expired.isSome = true ∨
      NoneClosing (r.performAll acts) := by
  have hcomposed := begins.composed.performAll begins.alive.placed
    (by rw [begins.plan_eq]; exact instant) acts
  exact hcomposed.imp_right (Or.imp_right fun hleads => hleads.noneClosing_of_acts dispatches)

/-! ## Reports -/

/-- Where nobody gives up a step over an event, no act loses a report, if the listener takes no
time. -/
theorem Composed.losses_eq_nil {r : Run} (h : Composed r) (alive : Alive r)
    (grounds : ∀ f ∈ r.flights, r.plan.Grounds f.item f.stage)
    (instant : ∀ e, r.plan.delivery.wait e = .none)
    (keeps : ∀ e, r.plan.delivery.givesUp e = false) (a : Act) : r.losses a = [] := by
  cases a with
  | turn =>
    show r.forsaken = []
    unfold forsaken
    split
    · next id rest hready =>
      split
      · next hany =>
        obtain ⟨f, hf, hforsaken⟩ := (Option.any_eq_true _ _).1 hany
        have hgrounds := grounds f (flight?_mem hf)
        unfold Stage.isForsaken at hforsaken
        split at hforsaken
        · next report givenUp hstage =>
          rw [hstage] at hgrounds
          obtain ⟨e, -, hgives⟩ := hgrounds hforsaken
          rw [keeps e] at hgives
          cases hgives
        · cases hforsaken
      · rfl
    · rfl
  | round =>
    show (if r.heeds then _ else _) = _
    split
    · next hheeds =>
      unfold heeds at hheeds
      simp only [Bool.and_eq_true, Bool.not_eq_true', Option.isNone_iff_eq_none] at hheeds
      obtain ⟨⟨⟨hacts, hunstopped⟩, -⟩, hunheeded⟩ := hheeds
      rcases h with hheeded | hexpired | hleads
      · rw [hunheeded] at hheeded
        cases hheeded
      · rw [hunstopped] at hexpired
        cases hexpired
      · exact (hleads.noneClosing_of_acts hacts).closingAmong _
    · rfl
  | expire =>
    show (if r.limitReached?.isSome then _ else _) = _
    split
    · next hsome =>
      obtain ⟨limit, hlimit⟩ := Option.isSome_iff_exists.1 hsome
      have hunstopped := (busy_of_limitReached? hlimit).2.2.1
      have hfree : r.ready = [] ∨ r.held = false ∧ r.heeded = false := by
        have hmay := mayExpire_of_limitReached? hlimit
        unfold mayExpire at hmay
        rw [Bool.and_eq_true] at hmay
        simpa using hmay.2
      -- a step whose end is being told has its turn next, for the listener takes no time
      have hquiet : r.ready = [] → NoneClosing r := by
        intro hready f hf
        by_contra hclosing
        rw [Bool.not_eq_false] at hclosing
        rcases alive.wakeful.awake f hf with hended | hdue | hturn
        · rw [Stage.isEnded_of_isClosing hclosing] at hended
          cases hended
        · obtain ⟨e, micros, hwait⟩ := alive.wakeful.patient f hf hclosing hdue
          rw [instant e] at hwait
          cases hwait
        · rw [hready] at hturn
          cases hturn
      rcases hfree with hready | ⟨hfree, hunheeded⟩
      · exact (hquiet hready).closingAmong _
      · rcases h with hheeded | hexpired | hleads
        · rw [hunheeded] at hheeded
          cases hheeded
        · rw [hunstopped] at hexpired
          cases hexpired
        · exact (hleads.noneClosing_of_free (.inr hfree)).closingAmong _
    · rfl
  | _ => rfl

/-- A listener that takes no time and gives up no step loses no report. -/
theorem Begins.lost_eq_nil {plan : Plan} {r : Run} (begins : Begins plan r) (acts : List Act)
    (instant : ∀ e, plan.delivery.wait e = .none) (keeps : ∀ e, plan.delivery.givesUp e = false) :
    r.lost acts = [] := by
  cases begins.entry with
  | refused failure rejected rests reported => exact (rests.performAll acts).2.1
  | raised fault faulty rests ended => exact (rests.performAll acts).2.1
  | begun inputs accepted timed sound about fresh =>
    have hall := lost_induction
      (motive := fun q gone => Sound q gone ∧ Alive q ∧ Composed q ∧ q.plan = plan ∧ gone = [])
      acts ⟨sound, begins.alive, begins.composed, about.1, rfl⟩ ?_
    · exact hall.2.2.2.2
    · rintro q gone a ⟨hsound, halive, hcomposed, hplan, rfl⟩
      have hinstant : ∀ e, q.plan.delivery.wait e = .none := by rw [hplan]; exact instant
      have hkept := hcomposed.losses_eq_nil halive hsound.judged.grounds hinstant
        (by rw [hplan]; exact keeps) a
      exact ⟨hsound.perform a, halive.perform a, hcomposed.perform halive.placed hinstant a,
        (halive.placed.perform_plan a).trans hplan, hkept⟩

end Conduit.Run
