import Conduit.Proofs.Run.Liveness
import Conduit.Proofs.Run.Onward

/-!
# Runs come to their end

What is left to do in a run is measured by a number that no act raises. A turn of a step in flight
lowers it, and so do the end of the run and its time limit. The clock does as many ticks as this
number at most, so a run that is let go on until all is done is over. Along the way nothing happens
that is not an act.

* `Run.potential`, `Run.potential_perform_le` — what is left to do;
* `Run.span`, `Run.Alive.span_round_lt` — how many rounds the dispatcher has left;
* `Run.Alive.settle_spec` — what is to be done at a reading of the clock is done;
* `Run.Alive.tick_spec` — a tick gets a run closer to its end;
* `Run.Alive.finish_spec` — a run that goes on until all is done is over.
-/

namespace Conduit

/-- How far a phase is from the end. -/
def Phase.rank : Phase → Nat
  | running => 2
  | closing _ _ => 1
  | .over _ _ => 0

theorem Phase.rank_bare (p : Phase) : p.bare.rank = p.rank := by
  cases p <;> rfl

theorem Phase.rank_le (p : Phase) : p.rank ≤ 2 := by
  cases p <;> simp [rank]

theorem Stage.left_le (stage : Stage) : stage.left ≤ 5 := by
  cases stage <;> simp [left]

namespace Run

/-! ## What is left to do -/

/-- How many stages are left to steps in flight. -/
def stagesLeft : List Flight → Nat
  | [] => 0
  | f :: rest => f.stage.left + stagesLeft rest

/-- How many stages are left to what is in flight. -/
def load (r : Run) : Nat := stagesLeft r.flights

/-- What is left to do for the steps: a step that waits has a launch, a place in flight and four
stages to go. -/
def toil (r : Run) : Nat :=
  r.load + r.flights.length + 6 * r.waiting.length + if r.expired.isSome then 0 else 1

/-- What is left to do until the run is over. -/
def potential (r : Run) : Nat := r.toil + r.phase.rank

theorem length_flightIds (r : Run) : r.flightIds.length = r.flights.length := List.length_map _

theorem load_le (r : Run) : r.load ≤ 5 * r.flights.length := by
  unfold load
  induction r.flights with
  | nil => exact Nat.le_refl _
  | cons f rest ih =>
    have hf := f.stage.left_le
    rw [stagesLeft, List.length_cons]
    omega

theorem potential_lt_ticksLeft (r : Run) : r.potential < r.ticksLeft := by
  have hload := r.load_le
  have hrank := r.phase.rank_le
  unfold potential toil ticksLeft
  split <;> omega

/-- The stages that are left to steps in flight, one of which changes. -/
theorem stagesLeft_update {flights : List Flight} {f g : Flight} (hf : f ∈ flights)
    (hid : g.id = f.id) (once : (flights.map Flight.id).Nodup) :
    stagesLeft (flights.map fun h => if h.id = g.id then g else h) + f.stage.left =
      stagesLeft flights + g.stage.left := by
  induction flights with
  | nil => cases hf
  | cons e rest ih =>
    rw [List.map_cons, List.nodup_cons] at once
    rw [List.map_cons, stagesLeft, stagesLeft]
    rcases List.mem_cons.1 hf with rfl | hf
    · -- no other step has the id of the first
      have hrest : (rest.map fun h => if h.id = g.id then g else h) = rest := by
        rw [List.map_congr_left (g := id), List.map_id]
        intro h hh
        refine if_neg fun heq => once.1 ?_
        rw [← hid, ← heq]
        exact List.mem_map_of_mem hh
      rw [hrest, if_pos hid.symm]
      omega
    · have hne : e.id ≠ g.id := by
        rw [hid]
        intro heq
        exact once.1 (heq ▸ List.mem_map_of_mem hf)
      rw [if_neg hne]
      have hupdate := ih hf once.2
      omega

theorem stagesLeft_append (flights more : List Flight) :
    stagesLeft (flights ++ more) = stagesLeft flights + stagesLeft more := by
  induction flights with
  | nil => exact (Nat.zero_add _).symm
  | cons f rest ih =>
    rw [List.cons_append, stagesLeft, stagesLeft, ih, Nat.add_assoc]

theorem stagesLeft_bare (flights : List Flight) :
    stagesLeft (flights.map Flight.bare) = stagesLeft flights := by
  induction flights with
  | nil => rfl
  | cons f rest ih =>
    rw [List.map_cons, stagesLeft, stagesLeft, ih]
    rfl

/-- Steps that are over have no stages left. -/
theorem stagesLeft_filter (flights : List Flight) :
    stagesLeft (flights.filter fun f => !f.stage.isEnded) = stagesLeft flights := by
  induction flights with
  | nil => rfl
  | cons f rest ih =>
    rw [List.filter_cons]
    cases hended : f.stage.isEnded with
    | true =>
      have hleft : f.stage.left = 0 := by
        cases hstage : f.stage <;> rw [hstage] at hended <;> first | rfl | cases hended
      rw [if_neg (by simp), ih, stagesLeft, hleft, Nat.zero_add]
    | false => rw [Bool.not_false, if_pos rfl, stagesLeft, stagesLeft, ih]

/-- The stages that are left, as they are counted for the bound on turns. -/
theorem foldl_left_eq (flights : List Flight) (start : Nat) :
    (flights.map fun f => f.stage.left).foldl (· + ·) start = start + stagesLeft flights := by
  induction flights generalizing start with
  | nil => rfl
  | cons f rest ih => rw [List.map_cons, List.foldl_cons, ih, stagesLeft, Nat.add_assoc]

theorem Shift.load_eq {r r' : Run} {f g : Flight} {told : List RunEvent} {outputs : Outputs}
    (shift : Shift r r' g told outputs) (placed : Placed r) (flies : r.flight? f.id = some f)
    (hid : g.id = f.id) : r'.load + f.stage.left = r.load + g.stage.left := by
  unfold load
  rw [shift.flights]
  exact stagesLeft_update (flight?_mem flies) hid placed.flies_once

theorem Shift.length_flights {r r' : Run} {g : Flight} {told : List RunEvent} {outputs : Outputs}
    (shift : Shift r r' g told outputs) : r'.flights.length = r.flights.length := by
  rw [shift.flights, List.length_map]

/-- A step that comes to a later stage has less to do. -/
theorem Shift.potential_lt {r r' : Run} {f g : Flight} {told : List RunEvent} {outputs : Outputs}
    (shift : Shift r r' g told outputs) (later : f.Later g) (placed : Placed r)
    (flies : r.flight? f.id = some f) : r'.potential < r.potential := by
  have hload := shift.load_eq placed flies later.id
  have hleft := later.left
  unfold potential toil
  rw [shift.length_flights, shift.waiting, shift.expired, shift.phase]
  omega

theorem Alike.toil_eq {r r' : Run} (alike : Alike r r') : r'.toil = r.toil := by
  unfold toil load
  rw [← stagesLeft_bare, alike.flights, stagesLeft_bare, ← length_flightIds, alike.flightIds,
    length_flightIds, alike.waiting, alike.expired]

theorem Stir.potential_eq {r r' : Run} (stir : Stir r r') : r'.potential = r.potential := by
  unfold potential
  rw [stir.toAlike.toil_eq, ← Phase.rank_bare, stir.phase, Phase.rank_bare]

/-- A run that ends is no longer running. -/
theorem rank_conclude_lt (r : Run) : r.conclude.phase.rank < 2 := by
  unfold conclude
  split
  · next result _ =>
    obtain ⟨_, _, _, _, _, due, hannounce, -⟩ := announce_eq r result
    rw [hannounce]
    exact Nat.lt_succ_self 1
  · exact Nat.zero_lt_two

theorem potential_conclude_lt {r : Run} (running : r.phase = .running) :
    r.conclude.potential < r.potential := by
  have hrank := rank_conclude_lt r
  unfold potential
  rw [(conclude_alike r).toil_eq, running]
  show _ < r.toil + 2
  omega

theorem potential_close_lt {r : Run} {result : RunResult} {due : Option Nat}
    (closing : r.phase = .closing result due) :
    (r.close (.finished result)).potential < r.potential := by
  unfold potential
  rw [(close_alike r _).toil_eq, closing]
  exact Nat.lt_succ_self _

theorem GoesOn.potential_lt {r r' : Run} {f : Flight} (goes : GoesOn r r' f) (placed : Placed r)
    (flies : r.flight? f.id = some f) : r'.potential < r.potential := by
  obtain ⟨g, told, outputs, shift, later, -⟩ := goes.later
  exact shift.potential_lt later placed flies

theorem Cut.potential_le {r r' : Run} {f : Flight} (cut : Cut r r' f) (placed : Placed r)
    (flies : r.flight? f.id = some f) : r'.potential ≤ r.potential := by
  rcases cut.later with ⟨-, hsame⟩ | ⟨g, told, outputs, shift, later, -⟩
  · rw [hsame]
    exact Nat.le_refl _
  · exact Nat.le_of_lt (shift.potential_lt later placed flies)

theorem load_collect (r : Run) : r.collect.load = r.load := by
  rw [collect_eq]
  exact stagesLeft_filter r.flights

theorem length_flights_collect_le (r : Run) : r.collect.flights.length ≤ r.flights.length := by
  rw [collect_eq]
  exact List.length_filter_le _ _

theorem potential_collect_le (r : Run) : r.collect.potential ≤ r.potential := by
  have hlength := r.length_flights_collect_le
  have hload := r.load_collect
  obtain ⟨hphase, hexpired⟩ := collect_keeps r
  have hwaiting : r.collect.waiting = r.waiting := by rw [collect_eq]
  unfold potential toil
  rw [hload, hphase, hexpired, hwaiting]
  omega

theorem potential_launch_le {r : Run} {s : PipelineStep} (hs : s ∈ r.waiting) :
    (r.launch s).potential ≤ r.potential := by
  have hwaiting := length_waiting_launch hs
  -- five stages and a place in flight, for the six that the step counted for while it waited
  have hload : (r.launch s).load = r.load + 5 := stagesLeft_append _ _
  have hlength : (r.launch s).flights.length = r.flights.length + 1 := by
    unfold launch
    simp
  unfold potential toil
  rw [hload, hlength]
  show _ + (if r.expired.isSome then 0 else 1) + r.phase.rank ≤ _
  omega

/-- No change makes more to do. -/
theorem Change.potential_le {r r' : Run} {lost : List String} (placed : Placed r)
    (change : Change r r' lost) : r'.potential ≤ r.potential := by
  cases change with
  | stirs stir => exact Nat.le_of_eq stir.potential_eq
  | moves flies move => exact Nat.le_of_lt (GoesOn.potential_lt (.inl move) placed flies)
  | cuts called flies cut => exact cut.potential_le placed flies
  | heeds running asked => exact Nat.le_refl _
  | collects running => exact r.potential_collect_le
  | launches running may first => exact potential_launch_le (List.mem_of_find?_eq_some first)
  | concludes running idle stuck => exact Nat.le_of_lt (potential_conclude_lt running)
  | closes phase => exact Nat.le_of_lt (potential_close_lt phase)

/-- Changes that leave as much to do. -/
theorem Changes.potential_le {r r' : Run} {lost : List String} (changes : Changes r r' lost)
    (placed : Placed r) : Placed r' ∧ r'.potential ≤ r.potential := by
  refine changes.induction (motive := fun q _ => Placed q ∧ q.potential ≤ r.potential) []
    ⟨placed, Nat.le_refl _⟩ ?_
  intro q q' gone more ⟨hplaced, hle⟩ change
  exact ⟨hplaced.change change, Nat.le_trans (change.potential_le hplaced) hle⟩

/-- A time limit that stops a run leaves less to do. -/
theorem potential_stoppedBy_lt {r : Run} (fresh : r.expired = none) (limit : TimeLimit) :
    (r.stoppedBy limit).potential < r.potential := by
  have hload : (r.stoppedBy limit).load = r.load := rfl
  unfold potential toil
  rw [hload, fresh]
  show r.load + r.flights.length + 6 * r.waiting.length + 0 + r.phase.rank <
    r.load + r.flights.length + 6 * r.waiting.length + 1 + r.phase.rank
  omega

theorem potential_expire_lt {r : Run} (placed : Placed r) (fresh : r.expired = none)
    (limit : TimeLimit) : (r.expire limit).potential < r.potential := by
  have hle := ((expire_changes placed.flies_once limit).potential_le { placed with }).2
  have hlt := potential_stoppedBy_lt fresh limit
  omega

/-- No act makes more to do. -/
theorem potential_perform_le {r : Run} (placed : Placed r) (a : Act) :
    (r.perform a).potential ≤ r.potential := by
  have hboth : Placed (r.perform a) ∧ (r.perform a).potential ≤ r.potential := by
    refine perform_induction (motive := fun q _ => Placed q ∧ q.potential ≤ r.potential) [] a
      placed.flies_once ⟨placed, Nat.le_refl _⟩ ?_ ?_
    · intro q q' gone more ⟨hplaced, hle⟩ change
      exact ⟨hplaced.change change, Nat.le_trans (change.potential_le hplaced) hle⟩
    · intro limit _ hreached
      have hfresh := (busy_of_limitReached? hreached).2.2.1
      exact ⟨{ placed with }, Nat.le_of_lt (potential_stoppedBy_lt hfresh limit)⟩
  exact hboth.2

theorem potential_performAll_le {r : Run} (placed : Placed r) (acts : List Act) :
    (r.performAll acts).potential ≤ r.potential := by
  induction acts generalizing r with
  | nil => exact Nat.le_refl _
  | cons a acts ih => exact Nat.le_trans (ih (placed.perform a)) (potential_perform_le placed a)

/-! ## Rounds of the dispatcher -/

/-- How many rounds the dispatcher has left: each takes a step out of flight or heeds a request to
cancel. -/
def span (r : Run) : Nat :=
  r.flights.length + r.waiting.length + if r.heeded then 0 else 1

theorem Keeps.span_eq {r r' : Run} (kept : Keeps r r') : r'.span = r.span := by
  unfold span
  rw [← length_flightIds, kept.flightIds, length_flightIds, kept.waiting, kept.heeded]

theorem Alike.span_eq {r r' : Run} (alike : Alike r r') : r'.span = r.span := by
  unfold span
  rw [← length_flightIds, alike.flightIds, length_flightIds, alike.waiting, alike.heeded]

theorem span_heeded_le (r : Run) : ({ r with heeded := true } : Run).span ≤ r.span :=
  Nat.add_le_add_left (Nat.zero_le _) _

theorem span_collect_le (r : Run) : r.collect.span ≤ r.span := by
  have hlength := r.length_flights_collect_le
  have hrest : r.collect.waiting = r.waiting ∧ r.collect.heeded = r.heeded := by
    rw [collect_eq]
    exact ⟨rfl, rfl⟩
  unfold span
  rw [hrest.1, hrest.2]
  omega

/-- Taking a step that is over out of flight leaves fewer rounds. -/
theorem span_collect_lt {r : Run} {f : Flight} (hf : f ∈ r.flights)
    (ended : f.stage.isEnded = true) : r.collect.span < r.span := by
  have hlength : r.collect.flights.length < r.flights.length := by
    rw [collect_eq]
    exact List.length_filter_lt_length_iff_exists.2 ⟨f, hf, by simp [ended]⟩
  have hrest : r.collect.waiting = r.waiting ∧ r.collect.heeded = r.heeded := by
    rw [collect_eq]
    exact ⟨rfl, rfl⟩
  unfold span
  rw [hrest.1, hrest.2]
  omega

theorem span_launch_le {r : Run} {s : PipelineStep} (hs : s ∈ r.waiting) :
    (r.launch s).span ≤ r.span := by
  have hwaiting := length_waiting_launch hs
  have hlength : (r.launch s).flights.length = r.flights.length + 1 := by
    unfold launch
    simp
  unfold span
  rw [hlength]
  show _ + (if r.heeded then 0 else 1) ≤ _
  omega

/-- No change makes more rounds. -/
theorem Change.span_le {r r' : Run} {lost : List String} (change : Change r r' lost) :
    r'.span ≤ r.span := by
  cases change with
  | stirs stir => exact Nat.le_of_eq stir.toAlike.span_eq
  | moves flies move =>
    obtain ⟨g, told, outputs, shift, -⟩ := move.later
    exact Nat.le_of_eq shift.keeps.span_eq
  | cuts called flies cut => exact Nat.le_of_eq cut.keeps.span_eq
  | heeds running asked => exact r.span_heeded_le
  | collects running => exact r.span_collect_le
  | launches running may first => exact span_launch_le (List.mem_of_find?_eq_some first)
  | concludes running idle stuck => exact Nat.le_of_eq (conclude_alike r).span_eq
  | closes phase => exact Nat.le_of_eq (close_alike r _).span_eq

theorem Changes.span_le {r r' : Run} {lost : List String} (changes : Changes r r' lost) :
    r'.span ≤ r.span := by
  refine changes.induction (motive := fun q _ => q.span ≤ r.span) [] (Nat.le_refl _) ?_
  intro q q' gone more hle change
  exact Nat.le_trans change.span_le hle

/-- Heeding a request to cancel leaves fewer rounds. -/
theorem span_heed_lt {r : Run} (asked : (r.cancelled && !r.heeded) = true) :
    r.heed.span < r.span := by
  have hkept := interruptAll_keeps r.interruptible { r with heeded := true }
  have hheed : r.heed = ({ r with heeded := true } : Run).interruptAll r.interruptible := by
    unfold heed
    rw [if_pos asked]
    rfl
  have hheeded : r.heeded = false := by
    rw [Bool.and_eq_true] at asked
    simpa using asked.2
  rw [hheed, hkept.span_eq]
  unfold span
  rw [hheeded]
  exact Nat.lt_succ_self _

/-- When the dispatcher has something to do, it has fewer rounds left afterwards. -/
theorem Alive.span_round_lt {r : Run} (h : Alive r) (wants : r.wantsDispatcher = true)
    (running : r.phase = .running) : r.round.span < r.span := by
  unfold wantsDispatcher at wants
  rw [running] at wants
  dsimp only at wants
  unfold Run.round
  cases hexpired : r.expired with
  | some failure =>
    rw [hexpired] at wants
    change (r.flights.all fun f => f.stage.isEnded) = true at wants
    -- all that is in flight is over, and there is something in flight
    obtain ⟨f, hf⟩ := List.exists_mem_of_ne_nil r.flights (h.busy running)
    have hcollect := span_collect_lt hf (List.all_eq_true.1 wants f hf)
    obtain ⟨hphase, hexp⟩ := collect_keeps r
    have hconclude := concludeIfIdle_changes r.collect (hphase.trans running)
      (.inl (by rw [hexp, hexpired]; rfl))
    exact Nat.lt_of_le_of_lt hconclude.span_le hcollect
  | none =>
    rw [hexpired] at wants
    change ((r.flights.any fun f => f.stage.isEnded) || (r.cancelled && !r.heeded)) = true at wants
    rw [Bool.or_eq_true] at wants
    have hheed : r.heed.phase = .running := (heed_keeps r).1.trans running
    have hcollect : r.heed.collect.phase = .running := (collect_keeps r.heed).1.trans hheed
    have hdispatch := dispatchUpTo_keeps r.heed.collect.waiting.length r.heed.collect
    have hconclude := concludeIfIdle_changes r.heed.collect.dispatch
      (hdispatch.1.trans hcollect) (.inr (dispatchUpTo_stuck _ r.heed.collect (Nat.le_refl _)))
    have hback := (dispatchUpTo_changes _ r.heed.collect hcollect).trans hconclude
    refine Nat.lt_of_le_of_lt hback.span_le ?_
    -- a request to cancel is heeded once, and otherwise a step that is over is taken out of flight
    by_cases hasked : (r.cancelled && !r.heeded) = true
    · exact Nat.lt_of_le_of_lt r.heed.span_collect_le (span_heed_lt hasked)
    · obtain ⟨f, hf, hended⟩ := List.any_eq_true.1 (wants.resolve_right hasked)
      have hsame : r.heed = r := by
        unfold Run.heed
        exact if_neg hasked
      rw [hsame]
      exact span_collect_lt hf hended

/-! ## Turns -/

/-- How many turns are left: each stage that a step enters brings at most two. -/
def turns (r : Run) : Nat := 3 * r.load + r.ready.length

theorem turns_le_turnsLeft (r : Run) : r.turns ≤ r.turnsLeft := by
  unfold turns turnsLeft load
  rw [foldl_left_eq]
  omega

/-- After a turn fewer turns are left. There is less to do, or steps in flight and phase are as they
were. -/
theorem takeTurn_spec {r : Run} (placed : Placed r) (busy : r.ready ≠ []) :
    r.takeTurn.turns < r.turns ∧
      (r.takeTurn.potential < r.potential ∨
        r.takeTurn.flights = r.flights ∧ r.takeTurn.phase = r.phase) := by
  obtain ⟨t, rest, hready⟩ := List.exists_cons_of_ne_nil busy
  have hpop : ({ r with ready := rest } : Run).turns < r.turns := by
    show 3 * r.load + rest.length < 3 * r.load + r.ready.length
    rw [hready, List.length_cons]
    omega
  have htake : r.takeTurn = ({ r with ready := rest } : Run).take t := by
    unfold takeTurn
    rw [hready]
  rw [htake]
  cases t with
  | flight id =>
    have hstep : ({ r with ready := rest } : Run).take (.flight id) =
        ({ r with ready := rest } : Run).advance id := rfl
    rw [hstep]
    rcases advance_cases { r with ready := rest } id with ⟨hsame, -⟩ | ⟨f, hf, hgoes⟩
    · rw [hsame]
      exact ⟨hpop, .inr ⟨rfl, rfl⟩⟩
    · have hid := flight?_id hf
      subst hid
      have hplaced : Placed ({ r with ready := rest } : Run) := { placed with }
      refine ⟨?_, .inl (hgoes.potential_lt hplaced hf)⟩
      -- a stage counts for three turns, and entering one gives at most two
      obtain ⟨g, told, outputs, shift, later, -⟩ := hgoes.later
      have hload := shift.load_eq hplaced hf later.id
      have hleft := later.left
      have hturns := shift.turns_le
      change _ ≤ rest.length + 2 at hturns
      change _ + f.stage.left = r.load + g.stage.left at hload
      unfold turns
      rw [hready, List.length_cons]
      omega
  | reader =>
    obtain ⟨sightings, reader, cancelled, hread, -⟩ :=
      readUpTo_eq ((r.reader.map fun reader => reader.unread.length).getD 0)
        { r with ready := rest }
    have hstep : ({ r with ready := rest } : Run).take .reader =
        readUpTo ((r.reader.map fun reader => reader.unread.length).getD 0)
          { r with ready := rest } := rfl
    rw [hstep, hread]
    exact ⟨hpop, .inr ⟨rfl, rfl⟩⟩
  | finish =>
    have hstep : ({ r with ready := rest } : Run).take .finish =
        ({ r with ready := rest } : Run).finishClosing := rfl
    rw [hstep]
    unfold finishClosing
    split
    · next result due hphase => exact ⟨hpop, .inl (potential_close_lt hphase)⟩
    · exact ⟨hpop, .inr ⟨rfl, rfl⟩⟩

theorem drainUpTo_succ (fuel : Nat) (r : Run) (busy : r.ready ≠ []) :
    drainUpTo (fuel + 1) r = drainUpTo fuel r.takeTurn := by
  obtain ⟨t, rest, hready⟩ := List.exists_cons_of_ne_nil busy
  unfold takeTurn
  rw [drainUpTo, hready]

theorem drainUpTo_of_quiet (fuel : Nat) {r : Run} (quiet : r.ready = []) :
    drainUpTo fuel r = r := by
  cases fuel with
  | zero => rfl
  | succ fuel => rw [drainUpTo, quiet]

/-- A history in the order of the clock: the dispatcher acts only when nothing is in line. -/
def ByClock (r : Run) : List Act → Prop
  | [] => True
  | a :: acts => (a = .round → r.ready = []) ∧ (r.perform a).ByClock acts

theorem ByClock.append {r : Run} {acts more : List Act} (h : r.ByClock acts)
    (h' : (r.performAll acts).ByClock more) : r.ByClock (acts ++ more) := by
  induction acts generalizing r with
  | nil => exact h'
  | cons a acts ih => exact ⟨h.1, ih h.2 h'⟩

/-- What every act in the order of the clock keeps is kept by a history in that order. -/
theorem ByClock.induction {motive : Run → Prop} {r : Run} {acts : List Act} (h : r.ByClock acts)
    (start : motive r)
    (step : ∀ q a, (a = .round → q.ready = []) → motive q → motive (q.perform a)) :
    motive (r.performAll acts) := by
  induction acts generalizing r with
  | nil => exact start
  | cons a acts ih => exact ih h.2 (step r a h.1 start)

/-- Giving all that is ready its turn is a history of turns. -/
theorem drainUpTo_acts (fuel : Nat) (r : Run) :
    ∃ acts, drainUpTo fuel r = r.performAll acts ∧ r.ByClock acts := by
  induction fuel generalizing r with
  | zero => exact ⟨[], rfl, trivial⟩
  | succ fuel ih =>
    by_cases hquiet : r.ready = []
    · exact ⟨[], drainUpTo_of_quiet _ hquiet, trivial⟩
    · obtain ⟨acts, hacts, hclock⟩ := ih r.takeTurn
      exact ⟨.turn :: acts, (drainUpTo_succ fuel r hquiet).trans hacts, nofun, hclock⟩

theorem drainUpTo_changes (fuel : Nat) (r : Run) : ∃ lost, Changes r (drainUpTo fuel r) lost := by
  induction fuel generalizing r with
  | zero => exact ⟨[], .refl r⟩
  | succ fuel ih =>
    by_cases hquiet : r.ready = []
    · rw [drainUpTo_of_quiet _ hquiet]
      exact ⟨[], .refl r⟩
    · rw [drainUpTo_succ fuel r hquiet]
      obtain ⟨lost, hchanges⟩ := ih r.takeTurn
      exact ⟨_, (takeTurn_changes r).trans hchanges⟩

/-- Nothing is in line when all that is ready has had its turn. Then there is less to do, or steps
in flight and phase are as they were. -/
theorem drainUpTo_spec (fuel : Nat) {r : Run} (placed : Placed r) (enough : r.turns ≤ fuel) :
    (drainUpTo fuel r).ready = [] ∧
      ((drainUpTo fuel r).potential < r.potential ∨
        (drainUpTo fuel r).flights = r.flights ∧ (drainUpTo fuel r).phase = r.phase) := by
  induction fuel generalizing r with
  | zero =>
    have hquiet : r.ready = [] := by
      unfold turns at enough
      exact List.length_eq_zero_iff.1 (by omega)
    exact ⟨hquiet, .inr ⟨rfl, rfl⟩⟩
  | succ fuel ih =>
    by_cases hquiet : r.ready = []
    · rw [drainUpTo_of_quiet _ hquiet]
      exact ⟨hquiet, .inr ⟨rfl, rfl⟩⟩
    · rw [drainUpTo_succ fuel r hquiet]
      obtain ⟨hturns, hturn⟩ := takeTurn_spec placed hquiet
      have hplaced : Placed r.takeTurn := placed.perform .turn
      obtain ⟨hready, hrest⟩ := ih hplaced (by omega)
      obtain ⟨lost, hchanges⟩ := drainUpTo_changes fuel r.takeTurn
      have hle := (hchanges.potential_le hplaced).2
      refine ⟨hready, ?_⟩
      rcases hturn with hlt | ⟨hflights, hphase⟩
      · exact .inl (Nat.lt_of_le_of_lt hle hlt)
      -- what the first turn did not take on, one of the others may
      · have hturnle : r.takeTurn.potential ≤ r.potential := potential_perform_le placed .turn
        rcases hrest with hlt | ⟨hflights', hphase'⟩
        · exact .inl (Nat.lt_of_lt_of_le hlt hturnle)
        · exact .inr ⟨hflights'.trans hflights, hphase'.trans hphase⟩

theorem Alive.drain {r : Run} (h : Alive r) : Alive r.drain := by
  obtain ⟨acts, hacts, -⟩ := drainUpTo_acts r.turnsLeft r
  unfold Run.drain
  rw [hacts]
  exact h.performAll acts

theorem drain_changes (r : Run) : ∃ lost, Changes r r.drain lost :=
  drainUpTo_changes r.turnsLeft r

theorem Alive.ready_drain {r : Run} (h : Alive r) : r.drain.ready = [] :=
  (drainUpTo_spec r.turnsLeft h.placed r.turns_le_turnsLeft).1

/-- A step in flight that has its turn is taken on. -/
theorem Alive.potential_drain_lt {r : Run} (h : Alive r) {f : Flight} (hf : f ∈ r.flights)
    (unended : f.stage.isEnded = false) (undue : f.due = none) :
    r.drain.potential < r.potential := by
  obtain ⟨-, hlt | ⟨hflights, -⟩⟩ := drainUpTo_spec r.turnsLeft h.placed r.turns_le_turnsLeft
  · exact hlt
  · -- the step would be forgotten
    have hstill : f ∈ r.drain.flights := by
      unfold Run.drain
      rw [hflights]
      exact hf
    rcases h.drain.wakeful.awake f hstill with hended | hdue | hturn
    · rw [unended] at hended
      cases hended
    · rw [undue] at hdue
      cases hdue
    · rw [h.ready_drain] at hturn
      cases hturn

/-- The end of a run that has its turn comes. -/
theorem Alive.potential_drain_lt_of_closing {r : Run} (h : Alive r) {result : RunResult}
    (closing : r.phase = .closing result none) : r.drain.potential < r.potential := by
  obtain ⟨-, hlt | ⟨-, hphase⟩⟩ := drainUpTo_spec r.turnsLeft h.placed r.turns_le_turnsLeft
  · exact hlt
  · have hfinish := h.drain.closing result (hphase.trans closing)
    rw [h.ready_drain] at hfinish
    cases hfinish

/-! ## Settling -/

/-- The dispatcher wants to act only while the run is running. -/
theorem running_of_wantsDispatcher {r : Run} (h : r.wantsDispatcher = true) :
    r.phase = .running := by
  unfold wantsDispatcher at h
  split at h
  · assumption
  · cases h

/-- When nothing is in line, only the dispatcher has something to do. -/
theorem hasWork_of_quiet {r : Run} (quiet : r.ready = []) : r.hasWork = r.wantsDispatcher := by
  unfold hasWork
  rw [quiet]
  rfl

theorem perform_round {r : Run} (quiet : r.ready = []) (wants : r.wantsDispatcher = true) :
    r.perform .round = r.round := by
  have hacts : r.dispatcherActs = true := by
    unfold dispatcherActs
    rw [quiet, wants]
    rfl
  exact if_pos hacts

/-- When all that is ready has had its turn, settling the rest consists of changes. -/
theorem Placed.settleUpTo_changes (fuel : Nat) {r : Run} (h : Placed r) :
    ∃ lost, Changes r.drain (settleUpTo fuel r) lost := by
  induction fuel generalizing r with
  | zero => exact ⟨_, .refl _⟩
  | succ fuel ih =>
    obtain ⟨_, hdrain⟩ := r.drain_changes
    have hdrained := hdrain.placed h
    unfold settleUpTo
    dsimp only
    split
    · next hwants =>
      have hround :=
        round_changes _ (running_of_wantsDispatcher hwants) hdrained.flies_once
      obtain ⟨lost, hchanges⟩ := ih (hround.placed hdrained)
      obtain ⟨_, hturns⟩ := r.drain.round.drain_changes
      exact ⟨_, hround.trans (hturns.trans hchanges)⟩
    · exact ⟨_, .refl _⟩

/-- Letting what is ready and the dispatcher take turns is a history, after which nothing is left to
do at this reading of the clock. -/
theorem Alive.settleUpTo_spec (fuel : Nat) {r : Run} (h : Alive r) (enough : r.span ≤ fuel) :
    ∃ acts lost, settleUpTo fuel r = r.drain.performAll acts ∧ r.drain.ByClock acts ∧
      Changes r.drain (settleUpTo fuel r) lost ∧ (settleUpTo fuel r).hasWork = false := by
  induction fuel generalizing r with
  | zero =>
    refine ⟨[], [], rfl, trivial, .refl _, ?_⟩
    show r.drain.hasWork = false
    rw [hasWork_of_quiet h.ready_drain]
    cases hwants : r.drain.wantsDispatcher with
    | false => rfl
    | true =>
      -- something would be in flight
      obtain ⟨_, hdrain⟩ := r.drain_changes
      have hspan := hdrain.span_le
      refine absurd (List.length_eq_zero_iff.1 ?_)
        (h.drain.busy (running_of_wantsDispatcher hwants))
      unfold span at enough hspan
      omega
  | succ fuel ih =>
    unfold settleUpTo
    dsimp only
    cases hwants : r.drain.wantsDispatcher with
    | false =>
      refine ⟨[], [], rfl, trivial, .refl _, ?_⟩
      exact (hasWork_of_quiet h.ready_drain).trans hwants
    | true =>
      have hrunning := running_of_wantsDispatcher hwants
      have hround := h.drain.round hrunning
      obtain ⟨_, hdrain⟩ := r.drain_changes
      have hspan := hdrain.span_le
      have hlt := h.drain.span_round_lt hwants hrunning
      obtain ⟨acts, lost, hacts, hclock, hchanges, hwork⟩ := ih hround (by omega)
      -- a round, the turns that it brings, and what is settled after them
      obtain ⟨turns, hturns, hdrains⟩ := drainUpTo_acts r.drain.round.turnsLeft r.drain.round
      obtain ⟨_, hrest⟩ := r.drain.round.drain_changes
      have hperform := perform_round h.ready_drain hwants
      refine ⟨.round :: (turns ++ acts), _, ?_, ⟨fun _ => h.ready_drain, ?_⟩,
        (round_changes r.drain hrunning h.drain.placed.flies_once).trans (hrest.trans hchanges),
        hwork⟩
      · rw [performAll_cons, hperform, performAll_append, ← hturns]
        exact hacts
      · rw [hperform]
        exact hdrains.append (hturns ▸ hclock)

/-- All that is to be done at a reading of the clock is done, in a history. -/
theorem Alive.settle_spec {r : Run} (h : Alive r) :
    ∃ acts lost, r.settle = r.drain.performAll acts ∧ r.drain.ByClock acts ∧
      Changes r.drain r.settle lost ∧ r.settle.hasWork = false := by
  refine h.settleUpTo_spec _ ?_
  unfold span
  split <;> omega

theorem Alive.settle_acts {r : Run} (h : Alive r) :
    ∃ acts, r.settle = r.performAll acts ∧ r.ByClock acts := by
  obtain ⟨acts, lost, hacts, hclock, -⟩ := h.settle_spec
  obtain ⟨turns, hturns, hdrains⟩ := drainUpTo_acts r.turnsLeft r
  refine ⟨turns ++ acts, ?_, hdrains.append (hturns ▸ hclock)⟩
  rw [performAll_append, ← hturns]
  exact hacts

theorem Alive.settle {r : Run} (h : Alive r) : Alive r.settle := by
  obtain ⟨acts, hacts, -⟩ := h.settle_acts
  rw [hacts]
  exact h.performAll acts

theorem Alive.hasWork_settle {r : Run} (h : Alive r) : r.settle.hasWork = false := by
  obtain ⟨acts, lost, -, -, -, hwork⟩ := h.settle_spec
  exact hwork

theorem Alive.settle_changes {r : Run} (h : Alive r) : ∃ lost, Changes r r.settle lost := by
  obtain ⟨acts, lost, -, -, hchanges, -⟩ := h.settle_spec
  obtain ⟨_, hdrain⟩ := r.drain_changes
  exact ⟨_, hdrain.trans hchanges⟩

theorem Alive.potential_settle_le {r : Run} (h : Alive r) :
    r.settle.potential ≤ r.drain.potential := by
  obtain ⟨acts, lost, hacts, -⟩ := h.settle_spec
  rw [hacts]
  exact potential_performAll_le h.drain.placed acts

/-! ## Ticks of the clock -/

/-- A run that is running stays so, or there is less to do. -/
theorem Change.running_or_lt {r r' : Run} {lost : List String} (change : Change r r' lost)
    (running : r.phase = .running) : r'.phase = .running ∨ r'.potential < r.potential := by
  cases change with
  | stirs stir =>
    refine .inl (Phase.eq_running_of_bare ?_)
    rw [stir.phase, running]
    rfl
  | moves flies move =>
    obtain ⟨g, told, outputs, shift, -⟩ := move.later
    exact .inl (shift.phase.trans running)
  | cuts called flies cut => exact .inl (cut.keeps.phase.trans running)
  | heeds _ asked => exact .inl running
  | collects _ => exact .inl ((collect_keeps r).1.trans running)
  | launches _ may first => exact .inl running
  | concludes _ idle stuck => exact .inr (potential_conclude_lt running)
  | closes phase => exact .inr (potential_close_lt phase)

/-- What changes keep of a time limit that was not reached, unless they leave less to do. -/
theorem Changes.pending {r r' : Run} {lost : List String} (changes : Changes r r' lost)
    (placed : Placed r) (running : r.phase = .running) :
    r'.deadline = r.deadline ∧ r'.expired = r.expired ∧
      (r'.phase = .running ∨ r'.potential < r.potential) := by
  have hall := changes.induction
    (motive := fun q _ => (Placed q ∧ q.potential ≤ r.potential) ∧ q.deadline = r.deadline ∧
      q.expired = r.expired ∧ (q.phase = .running ∨ q.potential < r.potential))
    [] ⟨⟨placed, Nat.le_refl _⟩, rfl, rfl, .inl running⟩ ?_
  · exact hall.2
  · intro q q' gone more ⟨⟨hplaced, hle⟩, hdeadline, hexpired, hphase⟩ change
    have hle' := change.potential_le hplaced
    refine ⟨⟨hplaced.change change, Nat.le_trans hle' hle⟩, change.deadline.trans hdeadline,
      change.keeps.2.2.trans hexpired, ?_⟩
    rcases hphase with hrunning | hlt
    · rcases change.running_or_lt hrunning with hrunning' | hlt
      · exact .inl hrunning'
      · exact .inr (Nat.lt_of_lt_of_le hlt hle)
    · exact .inr (Nat.lt_of_le_of_lt hle' hlt)

/-- When the time limit of a run is reached, if that matters any more. -/
theorem pendingDeadline?_eq_some {r : Run} {deadline : Nat} :
    r.pendingDeadline? = some deadline ↔
      r.phase = .running ∧ r.expired = none ∧ r.flights ≠ [] ∧ r.deadline = some deadline := by
  unfold pendingDeadline?
  cases hphase : r.phase with
  | running =>
    dsimp only
    cases hexpired : r.expired <;> cases hflights : r.flights <;> simp
  | closing result due => simp
  | «over» ending time => simp

/-- A time limit that is reached when nothing else is left to do stops the run. -/
theorem limitReached?_eq {r : Run} {deadline : Nat} {limit : TimeLimit}
    (pending : r.pendingDeadline? = some deadline) (limited : r.plan.executor.limit? = some limit)
    (idle : r.hasWork = false) (due : deadline ≤ r.now) : r.limitReached? = some limit := by
  obtain ⟨hrunning, hexpired, -, -⟩ := pendingDeadline?_eq_some.1 pending
  unfold hasWork at idle
  rw [Bool.or_eq_false_iff, Bool.not_eq_false'] at idle
  -- had a step in flight been over, the dispatcher would have something to do
  have hopen : (r.flights.all fun f => !f.stage.isEnded) = true := by
    have hwants := idle.2
    unfold wantsDispatcher at hwants
    rw [hrunning, hexpired] at hwants
    simp only [Option.isSome_none, Bool.false_eq_true, if_false, Bool.or_eq_false_iff] at hwants
    rw [List.all_eq_true]
    intro f hf
    simpa using List.any_eq_false.1 hwants.1 f hf
  unfold limitReached? mayExpire
  rw [pending, limited, hopen, idle.1]
  exact if_pos (by simpa using due)

/-- Minding the time limit when nothing else is left to do is a history, after which nothing is left
to do. If the limit is reached, it leaves less to do. -/
theorem Alive.expireIfDue_spec {r : Run} (h : Alive r) (idle : r.hasWork = false) :
    (∃ acts, r.expireIfDue = r.performAll acts ∧ r.ByClock acts) ∧
      r.expireIfDue.hasWork = false ∧
      ∀ deadline, r.pendingDeadline? = some deadline → deadline ≤ r.now →
        r.expireIfDue.potential < r.potential := by
  unfold expireIfDue
  split
  · next deadline limit hpending hlimit =>
    by_cases hdue : deadline ≤ r.now
    · rw [if_pos hdue]
      have hreached := limitReached?_eq hpending hlimit idle hdue
      have hexpire := perform_expire hreached
      have halive : Alive (r.expire limit) := hexpire ▸ h.perform .expire
      obtain ⟨acts, hacts, hclock⟩ := halive.settle_acts
      refine ⟨⟨.expire :: acts, ?_, nofun, hexpire ▸ hclock⟩, halive.hasWork_settle, ?_⟩
      · rw [performAll_cons, hexpire]
        exact hacts
      · intro _ _ _
        have hlt := potential_expire_lt h.placed (busy_of_limitReached? hreached).2.2.1 limit
        have hle : (r.expire limit).settle.potential ≤ (r.expire limit).potential := by
          rw [hacts]
          exact potential_performAll_le halive.placed acts
        omega
    · rw [if_neg hdue]
      refine ⟨⟨[], rfl, trivial⟩, idle, ?_⟩
      intro deadline' hpending' hdue'
      rw [hpending] at hpending'
      cases hpending'
      exact absurd hdue' hdue
  · next hnone =>
    refine ⟨⟨[], rfl, trivial⟩, idle, ?_⟩
    intro deadline hpending _
    -- there is no time limit without a time limit of the executor
    have hdeadline := (pendingDeadline?_eq_some.1 hpending).2.2.2
    obtain ⟨limit, hlimit⟩ := Option.isSome_iff_exists.1 (h.limited (by rw [hdeadline]; rfl))
    exact absurd hlimit (hnone deadline limit hpending)

/-- The run when the clock has come to a reading and what is due is in line. -/
def woken (r : Run) (time : Nat) : Run :=
  ({ r with now := max r.now time } : Run).wakeFlights.wakeEnd

theorem tick_eq (r : Run) (time : Nat) : r.tick time = (r.woken time).settle.expireIfDue := rfl

theorem woken_eq (r : Run) (time : Nat) : r.woken time = r.performAll [.pass time, .wake] := rfl

theorem woken_changes (r : Run) (time : Nat) : Changes r (r.woken time) [] := by
  have hpass : Stir r { r with now := max r.now time } :=
    { Stir.refl r with now := Nat.le_max_left _ _, shows := .of_same rfl rfl rfl .rfl }
  exact hpass.changes.trans (wake_stir _).changes

theorem Alive.woken {r : Run} (h : Alive r) (time : Nat) : Alive (r.woken time) :=
  h.performAll [.pass time, .wake]

/-- A step in flight that is due has its turn when the clock comes to its reading. -/
theorem mem_flights_woken {r : Run} {f : Flight} {time : Nat} (hf : f ∈ r.flights)
    (due : f.due = some time) : { f with due := none } ∈ (r.woken time).flights := by
  have hflights : (r.woken time).flights =
      ({ r with now := max r.now time } : Run).wakeFlights.flights := by
    unfold woken wakeEnd
    split
    · split <;> rfl
    · rfl
  rw [hflights]
  refine List.mem_map.2 ⟨f, hf, if_pos ?_⟩
  rw [due]
  exact decide_eq_true (Nat.le_max_right _ _)

/-- The end of a run that is due has its turn when the clock comes to its reading. -/
theorem phase_woken {r : Run} {result : RunResult} {time : Nat}
    (closing : r.phase = .closing result (some time)) :
    (r.woken time).phase = .closing result none := by
  have hend : ∀ q : Run, q.phase = .closing result (some time) → time ≤ q.now →
      q.wakeEnd.phase = .closing result none := by
    intro q hphase hdue
    unfold wakeEnd
    rw [hphase]
    dsimp only
    rw [if_pos hdue]
  exact hend _ closing (Nat.le_max_right r.now time)

/-- A tick of the clock is a history, after which nothing is left to do at the reading it comes
to. -/
theorem Alive.tick_spec {r : Run} (h : Alive r) (time : Nat) :
    (∃ acts, r.tick time = r.performAll acts ∧ r.ByClock acts) ∧
      (r.tick time).hasWork = false := by
  have hwoken := h.woken time
  obtain ⟨acts, hacts, hsettles⟩ := hwoken.settle_acts
  obtain ⟨⟨more, hmore, hclock⟩, hwork, -⟩ :=
    hwoken.settle.expireIfDue_spec hwoken.hasWork_settle
  refine ⟨⟨[.pass time, .wake] ++ (acts ++ more), ?_, ?_⟩, hwork⟩
  · rw [performAll_append, performAll_append, ← woken_eq, ← hacts]
    exact hmore
  · exact .append ⟨nofun, nofun, trivial⟩ (hsettles.append (hacts ▸ hclock))

/-- A tick to the next reading at which something happens leaves less to do. -/
theorem Alive.potential_tick_lt {r : Run} (h : Alive r) {time : Nat} (idle : r.hasWork = false)
    (next : r.nextTime? = some time) : (r.tick time).potential < r.potential := by
  have hwoken := h.woken time
  have hwake : (r.woken time).potential ≤ r.potential :=
    ((r.woken_changes time).potential_le h.placed).2
  obtain ⟨_, hturns⟩ := (r.woken time).drain_changes
  have hdrain : (r.woken time).drain.potential ≤ (r.woken time).potential :=
    (hturns.potential_le hwoken.placed).2
  have hsettle := hwoken.potential_settle_le
  obtain ⟨⟨acts, hacts, -⟩, -, hlimit⟩ := hwoken.settle.expireIfDue_spec hwoken.hasWork_settle
  have hexpire : (r.tick time).potential ≤ (r.woken time).settle.potential := by
    rw [tick_eq, hacts]
    exact potential_performAll_le hwoken.settle.placed acts
  -- the reading is that of a step, of the time limit or of the end of the run
  have hmem := List.min?_mem next
  unfold times at hmem
  rw [idle, if_neg Bool.false_ne_true, List.nil_append, List.mem_append, List.mem_append,
    Option.mem_toList, Option.mem_toList] at hmem
  rcases hmem with (hflight | hdeadline) | hclosing
  · obtain ⟨f, hf, hdue⟩ := List.mem_filterMap.1 hflight
    have hlt := hwoken.potential_drain_lt (mem_flights_woken hf hdue)
      (h.wakeful.unended f hf (by rw [hdue]; rfl)) rfl
    omega
  · obtain ⟨hrunning, hfresh, -, hdeadline⟩ := pendingDeadline?_eq_some.1 hdeadline
    obtain ⟨lost, hchanges⟩ := hwoken.settle_changes
    obtain ⟨hkept, hexpired, hphase⟩ :=
      ((r.woken_changes time).trans hchanges).pending h.placed hrunning
    rcases hphase with hphase | hlt
    -- the run is still running at that reading, so its time limit stops it
    · have hnow : time ≤ (r.woken time).settle.now := by
        refine Nat.le_trans (Nat.le_trans (Nat.le_max_right r.now time) ?_) hchanges.onward.now
        exact (wake_stir { r with now := max r.now time }).now
      have hpending : (r.woken time).settle.pendingDeadline? = some time :=
        pendingDeadline?_eq_some.2
          ⟨hphase, hexpired.trans hfresh, hwoken.settle.busy hphase, hkept.trans hdeadline⟩
      have hlt : (r.tick time).potential < _ := hlimit time hpending hnow
      omega
    · omega
  · have hphase : ∃ result, r.phase = .closing result (some time) := by
      unfold closingTime? at hclosing
      split at hclosing
      · next result due hphase => exact ⟨result, hclosing ▸ hphase⟩
      · cases hclosing
    obtain ⟨result, hphase⟩ := hphase
    have hlt := hwoken.potential_drain_lt_of_closing (phase_woken hphase)
    omega

/-! ## The end -/

theorem isOver_of_potential {r : Run} (done : r.potential = 0) : r.isOver = true := by
  have hrank : r.phase.rank = 0 := by
    unfold potential at done
    omega
  unfold isOver
  cases hphase : r.phase with
  | «over» ending time => rfl
  | running => rw [hphase] at hrank; cases hrank
  | closing result due => rw [hphase] at hrank; cases hrank

theorem Alive.tick {r : Run} (h : Alive r) (time : Nat) : Alive (r.tick time) := by
  obtain ⟨⟨acts, hacts, -⟩, -⟩ := h.tick_spec time
  rw [hacts]
  exact h.performAll acts

/-- Letting the clock go on is a history. -/
theorem Alive.advanceUpTo_acts (limit : Option Nat) (fuel : Nat) {r : Run} (h : Alive r) :
    ∃ acts, advanceUpTo limit fuel r = r.performAll acts ∧ r.ByClock acts := by
  induction fuel generalizing r with
  | zero => exact ⟨[], rfl, trivial⟩
  | succ fuel ih =>
    unfold advanceUpTo
    split
    · exact ⟨[], rfl, trivial⟩
    · next time _ =>
      split
      · obtain ⟨⟨acts, hacts, hticks⟩, -⟩ := h.tick_spec time
        obtain ⟨more, hmore, hclock⟩ := ih (h.tick time)
        refine ⟨acts ++ more, ?_, hticks.append (hacts ▸ hclock)⟩
        rw [performAll_append, ← hacts]
        exact hmore
      · exact ⟨[], rfl, trivial⟩

/-- The clock goes on until the run is over. Every tick but the first, which may find work that is
left to do at once, leaves less to do. -/
theorem Alive.isOver_advanceUpTo (fuel : Nat) {r : Run} (h : Alive r)
    (enough : (r.potential + if r.hasWork then 1 else 0) ≤ fuel) :
    (advanceUpTo none fuel r).isOver = true := by
  induction fuel generalizing r with
  | zero =>
    show r.isOver = true
    exact isOver_of_potential (by omega)
  | succ fuel ih =>
    unfold advanceUpTo
    cases hnext : r.nextTime? with
    | none => exact h.isOver_of_nextTime? hnext
    | some time =>
      show (advanceUpTo none fuel (r.tick time)).isOver = true
      -- nothing is left to do after a tick, so the allowance for that is spent on the first
      obtain ⟨⟨acts, hacts, -⟩, hquiet⟩ := h.tick_spec time
      have hle : (r.tick time).potential ≤ r.potential := by
        rw [hacts]
        exact potential_performAll_le h.placed acts
      refine ih (h.tick time) ?_
      rw [hquiet, if_neg Bool.false_ne_true]
      cases hwork : r.hasWork with
      | true =>
        rw [hwork, if_pos rfl] at enough
        omega
      | false =>
        have hlt := h.potential_tick_lt hwork hnext
        omega

/-- A run that goes on until all is done is over, and nothing happens on the way that is not an act
in the order of the clock. -/
theorem Alive.finish_spec {r : Run} (h : Alive r) :
    (∃ acts, r.finish = r.performAll acts ∧ r.ByClock acts) ∧ r.finish.isOver = true := by
  refine ⟨h.advanceUpTo_acts none r.ticksLeft, h.isOver_advanceUpTo r.ticksLeft ?_⟩
  have hlt := r.potential_lt_ticksLeft
  split <;> omega

theorem Alive.finish_ends {r : Run} (h : Alive r) :
    (∃ acts, r.finish = r.performAll acts) ∧ r.finish.isOver = true := by
  obtain ⟨⟨acts, hacts, -⟩, hover⟩ := h.finish_spec
  exact ⟨⟨acts, hacts⟩, hover⟩

/-- A run that goes on up to a reading of the clock goes through a history. -/
theorem Alive.advanceTo_acts {r : Run} (h : Alive r) (time : Nat) :
    ∃ acts, r.advanceTo time = r.performAll acts ∧ r.ByClock acts := by
  obtain ⟨acts, hacts, hclock⟩ := h.advanceUpTo_acts (some time) r.ticksLeft
  unfold advanceTo
  dsimp only
  split
  · exact ⟨acts, hacts, hclock⟩
  · refine ⟨acts ++ [.pass time], ?_, hclock.append ⟨nofun, trivial⟩⟩
    rw [performAll_append, ← hacts]
    rfl

/-- A run that is started goes through a history from its entry. -/
theorem start_acts {plan : Plan} (formed : plan.pipeline.WellFormed) (now : Nat)
    (environment : Environment) (reader : Option Reader) (cancelled : Bool) :
    ∃ acts, start plan now environment reader cancelled =
        (enter plan now environment reader cancelled).performAll acts ∧
      (enter plan now environment reader cancelled).ByClock acts :=
  (Alive.enter formed now environment reader cancelled).settle_acts

/-- A run from its entry on is alive. -/
theorem Begins.alive {plan : Plan} {r : Run} (begins : Begins plan r) : Alive r := by
  obtain ⟨d, schema, hcompiled⟩ := begins.compiled
  obtain ⟨now, environment, reader, cancelled, rfl⟩ := begins.entered
  exact .enter (.of_compile hcompiled) now environment reader cancelled

theorem Begins.performAll_plan {plan : Plan} {r : Run} (begins : Begins plan r) (acts : List Act) :
    (r.performAll acts).plan = plan :=
  (begins.alive.placed.performAll_plan acts).trans begins.plan_eq

/-- A run that goes on until all is done has a history at the end of which it is over. -/
theorem Begins.finish_eq {plan : Plan} {r : Run} (begins : Begins plan r) (acts : List Act) :
    ∃ more, (r.performAll acts).finish = r.performAll more ∧ (r.performAll more).isOver = true := by
  obtain ⟨⟨more, hmore, -⟩, hover⟩ := (begins.alive.performAll acts).finish_spec
  refine ⟨acts ++ more, ?_, ?_⟩
  · rw [performAll_append]
    exact hmore
  · rw [performAll_append, ← hmore]
    exact hover

theorem Begins.finish_plan {plan : Plan} {r : Run} (begins : Begins plan r) (acts : List Act) :
    (r.performAll acts).finish.plan = plan := by
  obtain ⟨more, hmore, -⟩ := begins.finish_eq acts
  rw [hmore]
  exact begins.performAll_plan more

end Run

end Conduit
