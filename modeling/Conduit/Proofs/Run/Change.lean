import Conduit.Proofs.Run.Move
import Mathlib.Data.List.Nodup

/-!
# The changes that acts are made of

Every act is a sequence of small changes. What each of them keeps is kept by every history, so an
invariant of runs is proved once for each kind of change.

* `Run.Alike` — runs that differ in nothing that is on record of their steps;
* `Run.Change`, `Run.Changes` — a change, and changes one after the other;
* `Run.collect_eq` — what taking the steps that are over out of flight changes;
* `Run.mayDispatch_iff`, `Run.dispatchUpTo_stuck` — the dispatcher goes on as long as it may;
* `Run.perform_induction` — what is to be shown of an invariant of runs.
-/

namespace Conduit

/-- A step in flight but for the reading of the clock that it waits for. -/
def Flight.bare (f : Flight) : Flight := { f with due := none }

/-- A phase but for the reading of the clock that it waits for. -/
def Phase.bare : Phase → Phase
  | closing result _ => closing result none
  | phase => phase

/-- The report of a step that is over. -/
def Stage.overReport? : Stage → Option Report
  | ended x => x
  | _ => none

/-- The id of the step that a report is about. -/
def Report.id (x : Report) : String := x.item.step.id

/-- What a report says against going on. -/
def Report.fault? (x : Report) : Option Failure := if x.status = .error then x.failure else none

namespace Run

/-- The ids of the steps that wait. -/
def waitingIds (r : Run) : List String := r.waiting.map fun s => s.step.id

/-- The ids of the steps in flight. -/
def flightIds (r : Run) : List String := r.flights.map Flight.id

/-- `r'` is `r` but for the clock, the turns, the environment, how far the run has come and what its
listener sees. -/
structure Alike (r r' : Run) : Prop where
  plan : r'.plan = r.plan
  now : r.now ≤ r'.now
  inputs : r'.inputs = r.inputs
  waiting : r'.waiting = r.waiting
  flights : r'.flights.map Flight.bare = r.flights.map Flight.bare
  succeeded : r'.succeeded = r.succeeded
  outputs : r'.outputs = r.outputs
  reports : r'.reports = r.reports
  failure : r'.failure = r.failure
  expired : r'.expired = r.expired
  cancelled : r.cancelled = true → r'.cancelled = true
  heeded : r'.heeded = r.heeded
  deadline : r'.deadline = r.deadline
  events : r'.events = r.events ∨ ∃ result, r'.events = r.events ++ [.done result]

theorem Alike.refl (r : Run) : Alike r r :=
  ⟨rfl, Nat.le_refl _, rfl, rfl, rfl, rfl, rfl, rfl, rfl, rfl, id, rfl, rfl, .inl rfl⟩

/-- `r'` is alike, and no end of the run comes about: nothing is told, the phase is the same but for
a reading of the clock, and when the run is not running others do not change what it reads. -/
structure Stir (r r' : Run) : Prop extends Alike r r' where
  environment : r.phase = .running ∨ r'.environment = r.environment
  phase : r'.phase.bare = r.phase.bare
  quiet : r'.events = r.events
  shows : Shows r r' []

theorem Stir.refl (r : Run) : Stir r r := ⟨.refl r, .inr rfl, rfl, rfl, .of_same rfl rfl rfl .rfl⟩

/-- One of the changes that acts are made of, with the step whose report is lost in it. -/
inductive Change (r : Run) : Run → List String → Prop
  /-- Nothing that is on record changes. -/
  | stirs {r' : Run} (stir : Stir r r') : Change r r' []
  /-- A step in flight goes on. -/
  | moves {r' : Run} {f : Flight} (flies : r.flight? f.id = some f) (move : Move r r' f) :
      Change r r' []
  /-- A step in flight is interrupted, one that may be unless the time limit stopped the run, or it
  is given up. -/
  | cuts {r' : Run} {f : Flight}
      (called : r.heeded = true ∨ r.expired.isSome = true ∨ GivesUp r f)
      (flies : r.flight? f.id = some f) (cut : Cut r r' f)
      (allowed : r.expired = none →
        r.plan.executor.mayInterrupt f.item.step = true ∨ GivesUp r f) :
      Change r r' (if f.stage.isClosing then [f.id] else [])
  /-- A request to cancel is heeded. -/
  | heeds (running : r.phase = .running) (asked : r.cancelled = true) :
      Change r { r with heeded := true } []
  /-- The steps that are over are taken out of flight. -/
  | collects (running : r.phase = .running) : Change r r.collect []
  /-- A step is put in flight. -/
  | launches {s : PipelineStep} (running : r.phase = .running) (may : r.mayDispatch = true)
      (first : r.waiting.find? r.isReady = some s) : Change r (r.launch s) []
  /-- A run with nothing in flight ends, when no step that waits may go. -/
  | concludes (running : r.phase = .running) (idle : r.flights = [])
      (stuck : r.expired.isSome = true ∨
        (r.mayDispatch = true → r.waiting.find? r.isReady = none)) :
      Change r r.conclude []
  /-- The end of a run was told. -/
  | closes {result : RunResult} {due : Option Nat} (phase : r.phase = .closing result due) :
      Change r (r.close (r.plan.delivery.endingOf result)) []

/-- Changes one after the other, with the steps whose reports are lost in them. -/
inductive Changes : Run → Run → List String → Prop
  | refl (r : Run) : Changes r r []
  | tail {r q s : Run} {lost more : List String} (front : Changes r q lost)
      (last : Change q s more) : Changes r s (lost ++ more)

theorem Changes.trans {r q s : Run} {lost more : List String} (front : Changes r q lost)
    (back : Changes q s more) : Changes r s (lost ++ more) := by
  induction back with
  | refl => rwa [List.append_nil]
  | tail _ last ih =>
    rw [← List.append_assoc]
    exact .tail ih last

theorem Change.changes {r r' : Run} {lost : List String} (h : Change r r' lost) :
    Changes r r' lost := .tail (.refl r) h

theorem Stir.changes {r r' : Run} (h : Stir r r') : Changes r r' [] := (Change.stirs h).changes

/-- What every change keeps is kept by changes one after the other. -/
theorem Changes.induction {motive : Run → List String → Prop} {r r' : Run} {lost : List String}
    (gone : List String) (h : Changes r r' lost) (start : motive r gone)
    (step : ∀ q q' gone more, motive q gone → Change q q' more → motive q' (gone ++ more)) :
    motive r' (gone ++ lost) := by
  induction h with
  | refl => rwa [List.append_nil]
  | tail _ last ih =>
    rw [← List.append_assoc]
    exact step _ _ _ _ ih last

/-! ## Changes that are not on record -/

theorem flight?_id {r : Run} {id : String} {f : Flight} (h : r.flight? id = some f) :
    f.id = id := by
  simpa using List.find?_some h

theorem flight?_mem {r : Run} {id : String} {f : Flight} (h : r.flight? id = some f) :
    f ∈ r.flights := List.mem_of_find?_eq_some h

/-- Reading events changes only what the reader has read, and may ask for the run to be
cancelled. -/
theorem readUpTo_eq (fuel : Nat) (r : Run) :
    ∃ sightings reader cancelled,
      readUpTo fuel r =
        { r with sightings := sightings, reader := reader, cancelled := cancelled } ∧
      (r.cancelled = true → cancelled = true) := by
  induction fuel generalizing r with
  | zero => exact ⟨_, _, _, rfl, id⟩
  | succ fuel ih =>
    unfold readUpTo
    cases r.reader with
    | none => exact ⟨_, _, _, rfl, id⟩
    | some reader =>
      dsimp only
      split
      · exact ⟨_, _, _, rfl, id⟩
      · exact ⟨_, _, _, rfl, id⟩
      · next e rest _ _ =>
        -- a reader that has read what it wanted closes, and that asks for the run to be cancelled
        obtain ⟨sightings, reader', cancelled, h, hc⟩ := ih
          { r.sight e none with
            reader := some
              { reader with
                unread := rest, left := reader.left.map (· - 1),
                closed := reader.left.map (· - 1) == some 0 }
            cancelled :=
              (r.sight e none).cancelled ||
                (reader.left.map (· - 1) == some 0 && !(r.sight e none).isOver) }
        rw [h]
        refine ⟨_, _, _, rfl, ?_⟩
        intro hr
        apply hc
        show (r.cancelled || _) = true
        rw [hr, Bool.true_or]

theorem read_stir (r : Run) : Stir r r.read := by
  obtain ⟨sightings, reader, cancelled, h, hc⟩ :=
    readUpTo_eq ((r.reader.map fun reader => reader.unread.length).getD 0) r
  have hshows := read_shows r
  unfold read at hshows ⊢
  rw [h] at hshows ⊢
  exact { Stir.refl r with cancelled := hc, shows := hshows }

theorem wake_stir (r : Run) : Stir r r.wakeFlights.wakeEnd := by
  have hflights : Stir r r.wakeFlights := by
    refine
      { Stir.refl r with
        flights := ?_, shows := .of_same rfl rfl rfl (by simp [wakeFlights]) }
    show (r.flights.map _).map Flight.bare = r.flights.map Flight.bare
    rw [List.map_map]
    apply List.map_congr_left
    intro f _
    show Flight.bare (if _ then _ else _) = f.bare
    split <;> rfl
  unfold wakeEnd
  split
  · next result due hphase =>
    split
    · have hbare : (Phase.closing result none).bare = r.phase.bare := by
        rw [show r.phase = .closing result (some due) from hphase]
        rfl
      exact { hflights with
        phase := hbare, shows := .of_same rfl rfl rfl (by simp [wakeFlights]) }
    · exact hflights
  · exact hflights

theorem cancel_stir (r : Run) : Stir r r.cancel := by
  unfold cancel
  split
  · exact .refl r
  · exact { Stir.refl r with cancelled := fun _ => rfl, shows := .of_same rfl rfl rfl .rfl }

theorem readNext_stir (r : Run) : Stir r r.readNext := by
  have hshows := readNext_shows r
  obtain hsame | ⟨reader, e, rest, -, -, -, -, hread⟩ := readNext_cases r
  · rw [hsame]
    exact .refl r
  · rw [hread] at hshows ⊢
    exact { Stir.refl r with shows := hshows }

theorem hangUp_stir (r : Run) : Stir r r.hangUp := by
  have hshows := hangUp_shows r
  obtain hsame | ⟨reader, -, -, -, hhang⟩ := hangUp_cases r
  · rw [hsame]
    exact .refl r
  · rw [hhang] at hshows ⊢
    have hcancel := cancel_stir r
    exact { hcancel with shows := hshows }

theorem share_stir (r : Run) (environment : Environment) : Stir r (r.share environment) := by
  unfold share
  split
  · next hphase =>
    exact { Stir.refl r with environment := .inl hphase, shows := .of_same rfl rfl rfl .rfl }
  · exact .refl r

/-! ## The end of a run -/

theorem close_alike (r : Run) (ending : Ending) : Alike r (r.close ending) := { Alike.refl r with }

/-- Reporting the end of a run tells it; the run is over at a reading of the clock or when it has
its turn. -/
theorem announce_eq (r : Run) (result : RunResult) :
    ∃ ready sightings current state reader due,
      r.announce result = { r with
        events := r.events ++ [.done result], ready := ready, sightings := sightings,
        current := current, state := state, reader := reader, phase := .closing result due } ∧
      (due = none → .finish ∈ ready) := by
  obtain ⟨ready, sightings, current, state, reader, hemit, -⟩ := emit_eq r (.done result)
  unfold announce
  dsimp only
  rw [hemit]
  split
  · exact ⟨_, _, _, _, _, _, rfl, fun _ => List.mem_cons_self⟩
  · unfold queue
    dsimp only
    split
    · next hin => exact ⟨_, _, _, _, _, _, rfl, fun _ => hin⟩
    · exact ⟨_, _, _, _, _, _, rfl, fun _ => List.mem_append_right _ List.mem_cons_self⟩
  · exact ⟨_, _, _, _, _, _, rfl, by simp⟩

theorem announce_alike (r : Run) (result : RunResult) : Alike r (r.announce result) := by
  obtain ⟨_, _, _, _, _, _, hannounce, -⟩ := announce_eq r result
  rw [hannounce]
  exact { Alike.refl r with events := .inr ⟨result, rfl⟩ }

/-- That a run ends is not on record, but for the event that tells it. -/
theorem conclude_alike (r : Run) : Alike r r.conclude := by
  unfold conclude
  split
  · exact announce_alike r _
  · exact close_alike r _

theorem finishClosing_changes (r : Run) : Changes r r.finishClosing [] := by
  unfold finishClosing
  split
  · next result due hphase => exact (Change.closes hphase).changes
  · exact .refl r

/-! ## Interruptions -/

/-- A shift of one step leaves the other steps in flight as they are. -/
theorem Shift.flight?_of_ne {r r' : Run} {g : Flight} {told : List RunEvent} {outputs : Outputs}
    (h : Shift r r' g told outputs) {id : String} (hne : id ≠ g.id) :
    r'.flight? id = r.flight? id := by
  unfold flight?
  rw [h.flights, List.find?_map]
  have hsame : ((fun f : Flight => f.id == id) ∘ fun f => if f.id = g.id then g else f) =
      fun f : Flight => f.id == id := by
    funext f
    show ((if f.id = g.id then g else f).id == id) = (f.id == id)
    split
    · next heq => rw [heq]
    · rfl
  rw [hsame]
  cases hfind : r.flights.find? fun f => f.id == id with
  | none => rfl
  | some f =>
    have hid : f.id = id := by simpa using List.find?_some hfind
    show some (if f.id = g.id then g else f) = some f
    rw [if_neg (by rw [hid]; exact hne)]

/-- Interrupting a step leaves the other steps in flight as they are. -/
theorem Cut.flight?_of_ne {r r' : Run} {f : Flight} (h : Cut r r' f) {id : String}
    (hne : id ≠ f.id) : r'.flight? id = r.flight? id := by
  cases h with
  | past _ same => rw [same]; rfl
  | drops _ shift => exact shift.flight?_of_ne hne
  | loses _ _ _ shift => exact shift.flight?_of_ne hne
  | stops _ _ shift => exact shift.flight?_of_ne hne

/-- `r'` is `r` but for how far the steps in flight have come and what was told of them. -/
structure Keeps (r r' : Run) : Prop where
  plan : r'.plan = r.plan
  waiting : r'.waiting = r.waiting
  flightIds : r'.flightIds = r.flightIds
  succeeded : r'.succeeded = r.succeeded
  reports : r'.reports = r.reports
  expired : r'.expired = r.expired
  heeded : r'.heeded = r.heeded
  deadline : r'.deadline = r.deadline
  phase : r'.phase = r.phase

theorem Keeps.refl (r : Run) : Keeps r r := ⟨rfl, rfl, rfl, rfl, rfl, rfl, rfl, rfl, rfl⟩

theorem Keeps.trans {r q s : Run} (h : Keeps r q) (h' : Keeps q s) : Keeps r s :=
  ⟨h'.plan.trans h.plan, h'.waiting.trans h.waiting, h'.flightIds.trans h.flightIds,
    h'.succeeded.trans h.succeeded, h'.reports.trans h.reports, h'.expired.trans h.expired,
    h'.heeded.trans h.heeded, h'.deadline.trans h.deadline, h'.phase.trans h.phase⟩

theorem Shift.flightIds {r r' : Run} {g : Flight} {told : List RunEvent} {outputs : Outputs}
    (h : Shift r r' g told outputs) : r'.flightIds = r.flightIds := by
  unfold Run.flightIds
  rw [h.flights, List.map_map]
  apply List.map_congr_left
  intro f _
  show Flight.id (if f.id = g.id then g else f) = f.id
  by_cases hid : f.id = g.id
  · rw [if_pos hid, hid]
  · rw [if_neg hid]

theorem Shift.keeps {r r' : Run} {g : Flight} {told : List RunEvent} {outputs : Outputs}
    (h : Shift r r' g told outputs) : Keeps r r' :=
  ⟨h.plan, h.waiting, h.flightIds, h.succeeded, h.reports, h.expired, h.heeded, h.deadline, h.phase⟩

theorem Cut.keeps {r r' : Run} {f : Flight} (h : Cut r r' f) : Keeps r r' := by
  cases h with
  | past _ same => rw [same]; exact { Keeps.refl r with }
  | drops _ shift => exact shift.keeps
  | loses _ _ _ shift => exact shift.keeps
  | stops _ _ shift => exact shift.keeps

theorem Move.keeps {r r' : Run} {f : Flight} (h : Move r r' f) : Keeps r r' := by
  cases h <;> rename_i shift <;> exact shift.keeps

theorem GoesOn.keeps {r r' : Run} {f : Flight} (h : GoesOn r r' f) : Keeps r r' :=
  h.elim (fun move => move.keeps) fun gives => gives.2.keeps

theorem interrupt_keeps (r : Run) (id : String) : Keeps r (r.interrupt id) := by
  rcases interrupt_cases r id with ⟨-, hsame⟩ | ⟨f, -, hcut⟩
  · rw [hsame]
    exact .refl r
  · exact hcut.keeps

theorem interruptAll_keeps (ids : List String) (r : Run) : Keeps r (r.interruptAll ids) := by
  induction ids generalizing r with
  | nil => exact .refl r
  | cons id ids ih => exact (interrupt_keeps r id).trans (ih (r.interrupt id))

/-- Interrupting distinct steps loses the reports of those whose end is being reported. -/
theorem interruptAll_changes (ids : List String) (hids : ids.Nodup) :
    ∀ r : Run, r.heeded = true ∨ r.expired.isSome = true →
      (r.expired = none → ∀ id ∈ ids, ∀ f, r.flight? id = some f →
        r.plan.executor.mayInterrupt f.item.step = true) →
      Changes r (r.interruptAll ids) (r.closingAmong ids) := by
  induction ids with
  | nil => exact fun r _ _ => Changes.refl r
  | cons id ids ih =>
    intro r called allowed
    obtain ⟨hid, hids⟩ := List.nodup_cons.1 hids
    -- interrupting one step leaves the others as they are, so the same is lost later as now
    have hothers : ∀ other ∈ ids, (r.interrupt id).flight? other = r.flight? other := by
      intro other hother
      have hne : other ≠ id := fun h => hid (h ▸ hother)
      rcases interrupt_cases r id with ⟨-, hsame⟩ | ⟨f, hf, hcut⟩
      · rw [hsame]
      · exact hcut.flight?_of_ne (by rw [flight?_id hf]; exact hne)
    have hrest : (r.interrupt id).closingAmong ids = r.closingAmong ids :=
      List.filter_congr fun other hother => by rw [hothers other hother]
    have hkept := interrupt_keeps r id
    have hback := ih hids (r.interrupt id) (by rw [hkept.heeded, hkept.expired]; exact called) (by
      intro hexpired other hother f hf
      rw [hkept.expired] at hexpired
      rw [hothers other hother] at hf
      rw [hkept.plan]
      exact allowed hexpired other (List.mem_cons_of_mem _ hother) f hf)
    rw [hrest] at hback
    change Changes r ((r.interrupt id).interruptAll ids) _
    have hsplit : r.closingAmong (id :: ids) =
        (if (r.flight? id).any fun f => f.stage.isClosing then [id] else []) ++
          r.closingAmong ids := by
      unfold closingAmong
      rw [List.filter_cons]
      split <;> rfl
    rw [hsplit]
    rcases interrupt_cases r id with ⟨hnone, hsame⟩ | ⟨f, hf, hcut⟩
    · rw [hsame] at hback ⊢
      rw [hnone]
      exact hback
    · have hid := flight?_id hf
      subst hid
      rw [hf]
      refine (Change.cuts (called.imp_right .inl) hf hcut fun hexpired => .inl ?_).changes.trans
        hback
      exact allowed hexpired f.id List.mem_cons_self f hf

/-! ## The dispatcher -/

/-- Another step may be put in flight while nothing stopped the run and there is room for one. -/
theorem mayDispatch_iff {r : Run} :
    r.mayDispatch = true ↔
      r.failure = none ∧ r.cancelled = false ∧
        r.flights.length < r.plan.executor.concurrency := by
  unfold mayDispatch
  rw [Bool.and_eq_true, Bool.and_eq_true, Option.isNone_iff_eq_none, Bool.not_eq_true',
    decide_eq_true_iff, and_assoc]

/-- Putting steps in flight keeps how far the run has come and what stopped it. -/
theorem dispatchUpTo_keeps (fuel : Nat) (r : Run) :
    (dispatchUpTo fuel r).phase = r.phase ∧ (dispatchUpTo fuel r).expired = r.expired := by
  induction fuel generalizing r with
  | zero => exact ⟨rfl, rfl⟩
  | succ fuel ih =>
    unfold dispatchUpTo
    split
    · split
      · exact ⟨rfl, rfl⟩
      · next s _ => exact ih (r.launch s)
    · exact ⟨rfl, rfl⟩

theorem length_waiting_launch {r : Run} {s : PipelineStep} (hs : s ∈ r.waiting) :
    (r.launch s).waiting.length < r.waiting.length :=
  List.length_filter_lt_length_iff_exists.2 ⟨s, hs, by simp⟩

/-- The dispatcher goes on until it may put no step in flight or none that waits may go. -/
theorem dispatchUpTo_stuck (fuel : Nat) (r : Run) (enough : r.waiting.length ≤ fuel)
    (may : (dispatchUpTo fuel r).mayDispatch = true) :
    (dispatchUpTo fuel r).waiting.find? (dispatchUpTo fuel r).isReady = none := by
  -- every step put in flight waits no longer, so as much fuel as steps that wait is enough
  induction fuel generalizing r with
  | zero =>
    have hnil : r.waiting = [] := List.length_eq_zero_iff.1 (Nat.le_zero.1 enough)
    show r.waiting.find? r.isReady = none
    rw [hnil]
    rfl
  | succ fuel ih =>
    by_cases hmay : r.mayDispatch = true
    · cases hfirst : r.waiting.find? r.isReady with
      | none =>
        have hstep : dispatchUpTo (fuel + 1) r = r := by
          rw [dispatchUpTo, if_pos hmay, hfirst]
        rw [hstep]
        exact hfirst
      | some s =>
        have hstep : dispatchUpTo (fuel + 1) r = dispatchUpTo fuel (r.launch s) := by
          rw [dispatchUpTo, if_pos hmay, hfirst]
        rw [hstep] at may ⊢
        refine ih (r.launch s) ?_ may
        have hlt := length_waiting_launch (List.mem_of_find?_eq_some hfirst)
        omega
    · have hstep : dispatchUpTo (fuel + 1) r = r := by
        rw [dispatchUpTo, if_neg hmay]
      rw [hstep] at may
      exact absurd may hmay

theorem dispatchUpTo_changes (fuel : Nat) (r : Run) (running : r.phase = .running) :
    Changes r (dispatchUpTo fuel r) [] := by
  induction fuel generalizing r with
  | zero => exact .refl r
  | succ fuel ih =>
    unfold dispatchUpTo
    split
    · next hmay =>
      split
      · exact .refl r
      · next s hs => exact (Change.launches running hmay hs).changes.trans (ih (r.launch s) running)
    · exact .refl r

theorem heed_keeps (r : Run) : r.heed.phase = r.phase ∧ r.heed.expired = r.expired := by
  unfold heed
  split
  · have hkept := interruptAll_keeps r.interruptible { r with heeded := true }
    exact ⟨hkept.phase, hkept.expired⟩
  · exact ⟨rfl, rfl⟩

theorem heed_changes (r : Run) (running : r.phase = .running) (hids : r.flightIds.Nodup) :
    Changes r r.heed (if r.cancelled && !r.heeded then r.closingAmong r.interruptible else []) := by
  unfold heed
  cases hc : r.cancelled && !r.heeded with
  | false => exact .refl r
  | true =>
    rw [if_pos rfl, if_pos rfl]
    have hasked : r.cancelled = true := by
      rw [Bool.and_eq_true] at hc
      exact hc.1
    have hnodup : r.interruptible.Nodup := hids.sublist (List.filter_sublist.map Flight.id)
    refine (Change.heeds running hasked).changes.trans
      (interruptAll_changes r.interruptible hnodup { r with heeded := true } (.inl rfl) ?_)
    intro _ id hid f hf
    obtain ⟨g, hg, hgid⟩ := List.mem_map.1 hid
    obtain ⟨hflies, hallowed⟩ := List.mem_filter.1 hg
    have hsame : f = g := List.inj_on_of_nodup_map hids (flight?_mem hf) hflies
      ((flight?_id hf).trans hgid.symm)
    exact hsame ▸ hallowed

/-- The reports of the steps that are over but still in flight. -/
def overReports (r : Run) : List Report := r.flights.filterMap fun f => f.stage.overReport?

/-- What taking notice of several steps changes. -/
theorem foldl_note_eq (endings : List (Option Report)) (r : Run) :
    endings.foldl note r =
      { r with
        reports := r.reports ++ endings.filterMap id
        succeeded :=
          r.succeeded ++ ((endings.filterMap id).filter fun x => x.status == .success).map Report.id
        failure := r.failure <|> (endings.filterMap id).findSome? Report.fault? } := by
  induction endings generalizing r with
  | nil => simp
  | cons ending rest ih =>
    rw [List.foldl_cons, ih]
    cases ending with
    | none => simp [note]
    | some x =>
      cases hstatus : x.status with
      | success => simp [note, hstatus, Report.fault?, Report.id]
      | error =>
        cases hfailure : r.failure with
        | some failure => simp [note, hstatus, hfailure]
        | none =>
          -- an error without a failure does not stop the run
          cases hx : x.failure with
          | some failure => simp [note, hstatus, hfailure, hx, Report.fault?]
          | none => simp [note, hstatus, hfailure, hx, Report.fault?]
      | pending => simp [note, hstatus, Report.fault?]
      | running => simp [note, hstatus, Report.fault?]
      | cancelled => simp [note, hstatus, Report.fault?]

theorem endings_filterMap (flights : List Flight) :
    (endings flights).filterMap id = flights.filterMap fun f => f.stage.overReport? := by
  induction flights with
  | nil => rfl
  | cons f rest ih =>
    rw [List.filterMap_cons, ← ih, endings]
    cases f.stage with
    | ended x => cases x <;> rfl
    | _ => rfl

/-- What taking the steps that are over out of flight changes. -/
theorem collect_eq (r : Run) :
    r.collect =
      { r with
        flights := r.flights.filter fun f => !f.stage.isEnded
        reports := r.reports ++ r.overReports
        succeeded :=
          r.succeeded ++ (r.overReports.filter fun x => x.status == .success).map Report.id
        failure := r.failure <|> r.overReports.findSome? Report.fault? } := by
  unfold collect overReports
  rw [foldl_note_eq, endings_filterMap]

theorem collect_keeps (r : Run) :
    r.collect.phase = r.phase ∧ r.collect.expired = r.expired := by
  rw [collect_eq]
  exact ⟨rfl, rfl⟩

theorem concludeIfIdle_eq {r : Run} (running : r.phase = .running) :
    r.concludeIfIdle = if r.flights.isEmpty then r.conclude else r := by
  unfold concludeIfIdle isIdle
  rw [running]

theorem concludeIfIdle_changes (r : Run) (running : r.phase = .running)
    (stuck : r.expired.isSome = true ∨ (r.mayDispatch = true → r.waiting.find? r.isReady = none)) :
    Changes r r.concludeIfIdle [] := by
  rw [concludeIfIdle_eq running]
  cases hidle : r.flights.isEmpty with
  | true => exact (Change.concludes running (List.isEmpty_iff.1 hidle) stuck).changes
  | false => exact .refl r

/-- A round of the dispatcher, up to the end of the run. -/
theorem dispatch_changes (r : Run) (running : r.phase = .running) (hids : r.flightIds.Nodup) :
    r.heed.collect.dispatch.phase = .running ∧
      Changes r r.heed.collect.dispatch
        (if r.cancelled && !r.heeded then r.closingAmong r.interruptible else []) := by
  have hheed : r.heed.phase = .running := (heed_keeps r).1.trans running
  have hcollect : r.heed.collect.phase = .running := (collect_keeps r.heed).1.trans hheed
  refine ⟨(dispatchUpTo_keeps _ r.heed.collect).1.trans hcollect, ?_⟩
  have h := (heed_changes r running hids).trans
    ((Change.collects hheed).changes.trans
      (dispatchUpTo_changes r.heed.collect.waiting.length r.heed.collect hcollect))
  rw [List.append_nil, List.append_nil] at h
  exact h

theorem round_changes (r : Run) (running : r.phase = .running) (hids : r.flightIds.Nodup) :
    Changes r r.round
      (if r.expired.isNone && r.cancelled && !r.heeded then r.closingAmong r.interruptible
       else []) := by
  unfold round
  cases hexpired : r.expired with
  | some failure =>
    obtain ⟨hphase, hexp⟩ := collect_keeps r
    exact (Change.collects running).changes.trans
      (concludeIfIdle_changes r.collect (hphase.trans running) (.inl (by rw [hexp, hexpired]; rfl)))
  | none =>
    obtain ⟨hphase, hchanges⟩ := dispatch_changes r running hids
    have h := hchanges.trans (concludeIfIdle_changes r.heed.collect.dispatch hphase
      (.inr (dispatchUpTo_stuck _ r.heed.collect (Nat.le_refl _))))
    rw [List.append_nil] at h
    exact h

/-- A change keeps when the time limit of the run is reached. -/
theorem Change.deadline {r r' : Run} {lost : List String} (h : Change r r' lost) :
    r'.deadline = r.deadline := by
  cases h with
  | stirs stir => exact stir.deadline
  | moves flies move => cases move <;> rename_i shift <;> exact shift.deadline
  | cuts called flies cut => exact cut.keeps.deadline
  | heeds running asked => rfl
  | collects running => rw [collect_eq]
  | launches running may first => rfl
  | concludes running idle stuck => exact (conclude_alike r).deadline
  | closes phase => rfl

/-- A change keeps what the run is about and whether its time limit stopped it. -/
theorem Change.keeps {r r' : Run} {lost : List String} (h : Change r r' lost) :
    r'.plan = r.plan ∧ r'.inputs = r.inputs ∧ r'.expired = r.expired := by
  cases h with
  | stirs stir => exact ⟨stir.plan, stir.inputs, stir.expired⟩
  | moves flies move =>
    cases move <;> rename_i shift <;> exact ⟨shift.plan, shift.inputs, shift.expired⟩
  | cuts called flies cut =>
    cases cut with
    | past stage same => rw [same]; exact ⟨rfl, rfl, rfl⟩
    | drops stage shift => exact ⟨shift.plan, shift.inputs, shift.expired⟩
    | loses report givenUp stage shift => exact ⟨shift.plan, shift.inputs, shift.expired⟩
    | stops due stage shift => exact ⟨shift.plan, shift.inputs, shift.expired⟩
  | heeds running asked => exact ⟨rfl, rfl, rfl⟩
  | collects running => rw [collect_eq]; exact ⟨rfl, rfl, rfl⟩
  | launches running may first => exact ⟨rfl, rfl, rfl⟩
  | concludes running idle stuck =>
    have halike := conclude_alike r
    exact ⟨halike.plan, halike.inputs, halike.expired⟩
  | closes phase => exact ⟨rfl, rfl, rfl⟩

/-! ## Acts as changes -/

/-- No listener gives up a step that makes one of the moves. -/
theorem Move.isForsaken {r r' : Run} {f : Flight} (h : Move r r' f) :
    f.stage.isForsaken = false := by
  cases h with
  | opens due stage shift => rw [stage]; rfl
  | prepares due input connector stage built found timed shift => rw [stage]; rfl
  | calls due input connector overdue stage shift => rw [stage]; rfl
  | succeeds due call overdue output seen outputs stage answer copyable recorded shift =>
    rw [stage]; rfl
  | ends report stage shift => rw [stage]; rfl
  | fails due failure why shift =>
    cases why with
    | unbuilt fault stage built => rw [stage]; rfl
    | unconnected _ stage found => rw [stage]; rfl
    | untimed limit fault stage limited faulty => rw [stage]; rfl
    | late limit stage limited =>
      rcases stage with ⟨input, connector, stage⟩ | ⟨call, stage⟩ <;> rw [stage] <;> rfl
    | refused call overdue trouble stage answer kept => rw [stage]; rfl
    | uncopyable call overdue fault stage answer => rw [stage]; rfl
    | repeated call overdue fault stage taken => rw [stage]; rfl

/-- A step that is given up while its end is being reported is so by the listener. -/
theorem GivesUp.isForsaken {r : Run} {f : Flight} (h : GivesUp r f) :
    f.stage.isForsaken = f.stage.isClosing := by
  cases h with
  | start stage => rw [stage]; rfl
  | answer call overdue stage answer => rw [stage]; rfl
  | last report stage => rw [stage]; rfl

/-- A step that goes on loses its report if the listener gives it up over its end. -/
theorem advance_changes (r : Run) (id : String) :
    Changes r (r.advance id)
      (if (r.flight? id).any fun f => f.stage.isForsaken then [id] else []) := by
  rcases advance_cases r id with ⟨hsame, hended⟩ | ⟨f, hf, hmove | ⟨hgives, hcut⟩⟩
  · have hkept : ((r.flight? id).any fun f => f.stage.isForsaken) = false := by
      cases hf : r.flight? id with
      | none => rfl
      | some f =>
        have hover := hended f hf
        rw [Option.any_some]
        cases hstage : f.stage with
        | ended report => rfl
        | _ => rw [hstage] at hover; cases hover
    rw [hsame, hkept]
    exact .refl r
  · have hid := flight?_id hf
    subst hid
    rw [hf, Option.any_some, hmove.isForsaken]
    exact (Change.moves hf hmove).changes
  · have hid := flight?_id hf
    subst hid
    rw [hf, Option.any_some, hgives.isForsaken]
    exact (Change.cuts (.inr (.inr hgives)) hf hcut fun _ => .inr hgives).changes

theorem takeTurn_changes (r : Run) : Changes r r.takeTurn r.forsaken := by
  unfold takeTurn forsaken
  cases hready : r.ready with
  | nil => exact .refl r
  | cons t rest =>
    dsimp only
    have hpop : t ≠ .reader → Stir r { r with ready := rest } := fun hne =>
      { Stir.refl r with
        shows := .of_same rfl rfl rfl (by
          rw [hready, List.mem_cons]
          exact (or_iff_right (Ne.symm hne)).symm) }
    cases t with
    | flight id =>
      exact (hpop Turn.noConfusion).changes.trans (advance_changes { r with ready := rest } id)
    | finish =>
      exact (hpop Turn.noConfusion).changes.trans (finishClosing_changes { r with ready := rest })
    | reader =>
      -- a reader that loses its turn reads all that there is
      have hread := read_stir { r with ready := rest }
      have htakes : Stir r ({ r with ready := rest } : Run).read :=
        { hread with
          shows :=
            { hread.shows with
              served := fun hevents reader h =>
                hread.shows.served hevents reader (h.congr rfl rfl rfl)
              heard := fun hevents wanted reader h =>
                hread.shows.heard hevents wanted reader (h.congr rfl rfl rfl)
              attends := fun _ hawaits => by rw [awaits_read] at hawaits; cases hawaits
              unhurried := fun h => absurd (by rw [hready]; exact List.mem_cons_self) h.line } }
      exact htakes.changes

/-- The dispatcher acts only while the run is running. -/
theorem running_of_dispatcherActs {r : Run} (h : r.dispatcherActs = true) : r.phase = .running := by
  unfold dispatcherActs at h
  rw [Bool.and_eq_true] at h
  have hwants := h.1
  unfold wantsDispatcher at hwants
  split at hwants
  · assumption
  · cases hwants

/-- A run that a time limit stops, before anything is interrupted. -/
def stoppedBy (r : Run) (limit : TimeLimit) : Run :=
  { r with failure := some (timeoutFailure limit), expired := some (timeoutFailure limit) }

/-- A time limit that stops a run interrupts all that is in flight. -/
theorem expire_changes {r : Run} (hids : r.flightIds.Nodup) (limit : TimeLimit) :
    Changes (r.stoppedBy limit) (r.expire limit) (r.closingAmong (r.flights.map Flight.id)) :=
  interruptAll_changes (r.flights.map Flight.id) hids (r.stoppedBy limit) (.inr rfl) nofun

theorem mayExpire_of_limitReached? {r : Run} {limit : TimeLimit}
    (h : r.limitReached? = some limit) : r.mayExpire = true := by
  unfold limitReached? at h
  split at h
  · split at h
    · next hmay =>
      rw [Bool.and_eq_true] at hmay
      exact hmay.1
    · cases h
  · cases h

/-- A limit is reached only while steps are in flight, none of which is over. -/
theorem busy_of_limitReached? {r : Run} {limit : TimeLimit} (h : r.limitReached? = some limit) :
    r.flights ≠ [] ∧ (∀ f ∈ r.flights, f.stage.isEnded = false) ∧ r.expired = none ∧
      r.phase = .running ∧ r.plan.executor.limit? = some limit := by
  have hopen : ∀ f ∈ r.flights, f.stage.isEnded = false := by
    intro f hf
    have hmay := mayExpire_of_limitReached? h
    unfold mayExpire at hmay
    rw [Bool.and_eq_true, List.all_eq_true] at hmay
    simpa using hmay.1 f hf
  unfold limitReached? at h
  split at h
  · next deadline limit' hdeadline hlimit =>
    split at h
    · cases h
      unfold pendingDeadline? at hdeadline
      split at hdeadline
      · next hphase =>
        split at hdeadline
        · cases hdeadline
        · next hidle =>
          rw [Bool.or_eq_true, not_or] at hidle
          have hexpired : r.expired = none := by simpa using hidle.1
          have hflights : r.flights ≠ [] := by simpa using hidle.2
          exact ⟨hflights, hopen, hexpired, hphase, hlimit⟩
      · cases hdeadline
    · cases h
  · cases h

/-- What is kept by every change, and when a time limit stops a run, is kept by every act. -/
theorem perform_induction {motive : Run → List String → Prop} {r : Run} (gone : List String)
    (a : Act) (hids : r.flightIds.Nodup) (start : motive r gone)
    (step : ∀ q q' gone more, motive q gone → Change q q' more → motive q' (gone ++ more))
    (stop : ∀ limit, a = .expire → r.limitReached? = some limit →
      motive (r.stoppedBy limit) gone) :
    motive (r.perform a) (gone ++ r.losses a) := by
  cases a with
  | turn => exact (takeTurn_changes r).induction gone start step
  | round =>
    show motive (if r.dispatcherActs then r.round else r)
      (gone ++ if r.dispatcherActs && r.expired.isNone && r.cancelled && !r.heeded then _ else [])
    cases hacts : r.dispatcherActs with
    | true =>
      have hround := round_changes r (running_of_dispatcherActs hacts) hids
      exact hround.induction gone start step
    | false => exact (Changes.refl r).induction gone start step
  | read => exact (readNext_stir r).changes.induction gone start step
  | hangUp => exact (hangUp_stir r).changes.induction gone start step
  | pass time =>
    have hpass : Stir r { r with now := max r.now time } :=
      { Stir.refl r with now := Nat.le_max_left _ _, shows := .of_same rfl rfl rfl .rfl }
    exact hpass.changes.induction gone start step
  | wake => exact (wake_stir r).changes.induction gone start step
  | expire =>
    have hlosses : r.losses .expire =
        if r.limitReached?.isSome then r.closingAmong (r.flights.map Flight.id) else [] := rfl
    cases hlimit : r.limitReached? with
    | none =>
      rw [perform_expire_of_none hlimit, hlosses, hlimit]
      exact (Changes.refl r).induction gone start step
    | some limit =>
      -- being stopped is no change of its own: from there on only steps are interrupted
      rw [perform_expire hlimit, hlosses, hlimit]
      exact (expire_changes hids limit).induction gone (stop limit rfl hlimit) step
  | cancel => exact (cancel_stir r).changes.induction gone start step
  | share environment => exact (share_stir r environment).changes.induction gone start step

end Run

end Conduit
