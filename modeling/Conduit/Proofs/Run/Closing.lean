import Conduit.Engine.Record
import Conduit.Proofs.Run.Cancellation
import Conduit.Proofs.Run.Stream

/-!
# Closing a stream

Whoever closes the stream of a run asks for the run to be cancelled, unless it is over. The run is
then seen to its end, and no step of it is left in flight. A prompt reader reads what a run tells
before the run goes on, so that a run is over only when its reader has read all but the end of it;
such a reader asks for the run to be cancelled when it closes the stream over any other event than
the end. To a reader that takes its time a run may be over whatever it has read.

* `Run.perform_isClosed` — a stream is closed only by its reader;
* `Run.Prompt`, `Run.Prompt.perform` — the invariant of prompt readers: who closes over an event
  cancels, but at the end;
* `Run.Leaves` — what closing a stream leaves of a run;
* `Run.ReadsAll`, `Run.ClosesAfter`, `Run.ClosesAnyTime`, `Run.ReadsAtWill` — what is read of a run,
  and how it ends;
* `Run.stream_matches_listener` — that all streams are so.
-/

namespace Conduit.Run

/-! ## Who closes a stream -/

/-- The events that wait to be read. -/
def unread (r : Run) : List RunEvent := (r.reader.map Reader.unread).getD []

theorem isClosed_congr {r r' : Run} (h : r'.reader = r.reader) : r'.isClosed = r.isClosed := by
  unfold isClosed
  rw [h]

theorem unread_congr {r r' : Run} (h : r'.reader = r.reader) : r'.unread = r.unread := by
  unfold unread
  rw [h]

/-- When nothing is in line, a prompt reader has closed the stream or has read all. -/
theorem Heeded.quiet {wanted : Option Nat} {r : Run} (h : Heeded wanted r) (quiet : r.ready = []) :
    r.isClosed = true ∨ r.unread = [] := by
  obtain ⟨reader, hheard⟩ := h.heard
  cases hclosed : reader.closed with
  | true => exact .inl (hheard.isClosed_eq.trans hclosed)
  | false =>
    right
    unfold unread
    rw [hheard.reads]
    exact (h.seen_of_quiet hheard quiet hclosed).1

theorem queue_reader (r : Run) (t : Turn) : (r.queue t).reader = r.reader := (queue_view r t).2.1

theorem enterStage_reader (r : Run) (f : Flight) (stage : Stage) (wait : Wait) :
    (r.enterStage f stage wait).reader = r.reader := by
  cases wait with
  | none => rfl
  | turn => exact queue_reader _ _
  | time micros => rfl

/-- Who tells an event does not close the stream; the event waits to be read, if it is open. -/
theorem emit_unread (r : Run) (e : RunEvent) :
    (r.emit e).isClosed = r.isClosed ∧
      (r.isClosed = true ∨ (r.emit e).unread = r.unread ++ [e] ∨ r.reader = none) := by
  obtain ⟨-, htrack, -⟩ := track_view { r with events := r.events ++ [e] } e
  cases hreader : r.reader with
  | none =>
    refine ⟨?_, .inr (.inr rfl)⟩
    have hnone : (r.emit e).reader = none := (emit_shows r e).read.2 hreader
    unfold isClosed
    rw [hnone, hreader]
  | some reader =>
    obtain ⟨-, -, -, hdeliver⟩ := deliver_reader (htrack.trans hreader) e
    have hemit : (r.emit e).reader = some (reader.given e) := hdeliver
    unfold isClosed unread
    rw [hemit, hreader]
    refine ⟨(reader.given_keeps e).2.2, ?_⟩
    unfold Reader.given
    cases hclosed : reader.closed with
    | true => exact .inl hclosed
    | false => exact .inr (.inl rfl)

theorem stopFlight_isClosed (r : Run) (f : Flight) (status : StepStatus) (failure : Failure) :
    (r.stopFlight f status failure).isClosed = r.isClosed :=
  (isClosed_congr (enterStage_reader _ _ _ _)).trans (emit_unread r _).1

theorem interrupt_isClosed (r : Run) (id : String) : (r.interrupt id).isClosed = r.isClosed := by
  unfold interrupt
  cases r.flight? id with
  | none => rfl
  | some f =>
    dsimp only
    cases f.stage with
    | queued => rfl
    | closing report givenUp => rfl
    | ended report => rfl
    | opening givenUp => exact stopFlight_isClosed _ _ _ _
    | entering input connector => exact stopFlight_isClosed _ _ _ _
    | calling call overdue => exact stopFlight_isClosed _ _ _ _

theorem interruptAll_isClosed (ids : List String) :
    ∀ r : Run, (r.interruptAll ids).isClosed = r.isClosed := by
  induction ids with
  | nil => exact fun _ => rfl
  | cons id ids ih => exact fun r => (ih (r.interrupt id)).trans (interrupt_isClosed r id)

theorem heed_isClosed (r : Run) : r.heed.isClosed = r.isClosed := by
  unfold heed
  split
  · exact interruptAll_isClosed _ _
  · rfl

theorem reader_collect (r : Run) : r.collect.reader = r.reader := by
  rw [collect_eq]

theorem reader_dispatchUpTo (fuel : Nat) (r : Run) : (dispatchUpTo fuel r).reader = r.reader := by
  induction fuel generalizing r with
  | zero => rfl
  | succ fuel ih =>
    unfold dispatchUpTo
    split
    · split
      · rfl
      · exact ih _
    · rfl

theorem announce_reader (r : Run) (result : RunResult) :
    (r.announce result).reader = (r.emit (.done result)).reader := by
  unfold announce
  dsimp only
  split
  · rfl
  · exact queue_reader _ _
  · rfl

theorem concludeIfIdle_isClosed (r : Run) : r.concludeIfIdle.isClosed = r.isClosed := by
  unfold concludeIfIdle conclude
  split
  · split
    · exact (isClosed_congr (announce_reader r _)).trans (emit_unread r _).1
    · rfl
  · rfl

theorem round_isClosed (r : Run) : r.round.isClosed = r.isClosed := by
  unfold round
  split
  · exact (concludeIfIdle_isClosed _).trans (isClosed_congr (reader_collect r))
  · have hdispatch : r.heed.collect.dispatch.isClosed = r.heed.collect.isClosed :=
      isClosed_congr (reader_dispatchUpTo _ _)
    rw [concludeIfIdle_isClosed, hdispatch, isClosed_congr (reader_collect r.heed), heed_isClosed]

theorem wake_reader (r : Run) : r.wakeFlights.wakeEnd.reader = r.reader := by
  unfold wakeEnd
  split
  · split <;> rfl
  · rfl

/-- Nothing closes a stream but a turn, or a reader that hangs up. -/
theorem perform_isClosed (r : Run) {a : Act} (other : a ≠ .turn) (stays : a ≠ .hangUp) :
    (r.perform a).isClosed = r.isClosed := by
  cases a with
  | turn => exact absurd rfl other
  | hangUp => exact absurd rfl stays
  | read =>
    show r.readNext.isClosed = r.isClosed
    obtain hsame | ⟨reader, e, rest, hreader, -, -, -, hread⟩ := readNext_cases r
    · rw [hsame]
    · rw [hread]
      unfold isClosed
      rw [hreader]
      rfl
  | round =>
    show (if r.dispatcherActs then r.round else r).isClosed = r.isClosed
    split
    · exact round_isClosed r
    · rfl
  | pass time => rfl
  | wake => exact isClosed_congr (wake_reader r)
  | expire =>
    cases hlimit : r.limitReached? with
    | none => rw [perform_expire_of_none hlimit]
    | some limit =>
      rw [perform_expire hlimit]
      exact interruptAll_isClosed _ _
  | cancel =>
    show r.cancel.isClosed = r.isClosed
    unfold cancel
    split <;> rfl
  | share environment =>
    show (r.share environment).isClosed = r.isClosed
    unfold share
    split <;> rfl

/-! ## What a reader has left to read -/

/-- What waits to be read was told by steps, other than some, whose end is being reported. -/
def Caught (ids : List String) (r : Run) : Prop :=
  (r.isClosed = true ∨ r.unread = []) ∨
    ∃ f ∈ r.flights, f.stage.isClosing = true ∧ f.id ∉ ids

/-- A step that stops is told to, and its end is being reported. -/
theorem Caught.stopFlight {ids : List String} {r : Run} {f : Flight} (hf : f ∈ r.flights)
    (other : f.id ∉ ids) (status : StepStatus) (failure : Failure) :
    Caught ids (r.stopFlight f status failure) := by
  obtain ⟨due, hshift⟩ := stopFlight_shift r f status failure
  refine .inr ⟨{ f with
    stage := .closing (f.stop r.now status failure)
      (r.plan.delivery.givesUp (r.stopping f status failure))
    due := due }, ?_, rfl, other⟩
  rw [hshift.flights]
  exact List.mem_map.2 ⟨f, hf, if_pos rfl⟩

theorem Caught.interrupt {id : String} {ids : List String} {r : Run} (other : id ∉ ids)
    (h : Caught (id :: ids) r) : Caught ids (r.interrupt id) := by
  have hkept : Caught ids r :=
    h.imp_right fun ⟨f, hf, hclosing, hid⟩ =>
      ⟨f, hf, hclosing, fun hmem => hid (List.mem_cons_of_mem _ hmem)⟩
  have hended : ∀ f : Flight, f.id = id → Caught ids ((r.dropTurn id).endFlight f none) := by
    intro f hfid
    refine h.imp (fun hquiet => hquiet) fun ⟨g, hg, hclosing, hid⟩ => ?_
    have hne : g.id ≠ f.id := fun heq => hid (heq.trans hfid ▸ List.mem_cons_self)
    exact ⟨g, List.mem_map.2 ⟨g, hg, if_neg hne⟩, hclosing,
      fun hmem => hid (List.mem_cons_of_mem _ hmem)⟩
  unfold Run.interrupt
  cases hf : r.flight? id with
  | none => exact hkept
  | some f =>
    have hid := flight?_id hf
    have hmem : f ∈ (r.dropTurn id).flights := flight?_mem hf
    have hstop : ∀ status failure, Caught ids ((r.dropTurn id).stopFlight f status failure) :=
      fun _ _ => .stopFlight hmem (hid ▸ other) _ _
    dsimp only
    cases f.stage with
    | queued => exact hended f hid
    | closing report givenUp => exact hended f hid
    | ended report => exact hkept
    | opening givenUp => exact hstop _ _
    | entering input connector => exact hstop _ _
    | calling call overdue => exact hstop _ _

theorem Caught.interruptAll {ids : List String} (once : ids.Nodup) {r : Run} (h : Caught ids r) :
    Caught [] (r.interruptAll ids) := by
  induction ids generalizing r with
  | nil => exact h
  | cons id ids ih =>
    rw [List.nodup_cons] at once
    exact ih once.2 (h.interrupt once.1)

theorem Caught.heed {r : Run} (once : r.flightIds.Nodup)
    (quiet : r.isClosed = true ∨ r.unread = []) : Caught [] r.heed := by
  unfold Run.heed
  split
  · exact Caught.interruptAll (List.Nodup.sublist (List.filter_sublist.map _) once) (.inl quiet)
  · exact .inl quiet

theorem Caught.collect {r : Run} (h : Caught [] r) : Caught [] r.collect := by
  rw [collect_eq]
  refine h.imp id fun ⟨f, hf, hclosing, hid⟩ => ⟨f, List.mem_filter.2 ⟨hf, ?_⟩, hclosing, hid⟩
  rw [Stage.isEnded_of_isClosing hclosing]
  rfl

theorem Caught.dispatchUpTo (fuel : Nat) {r : Run} (h : Caught [] r) :
    Caught [] (dispatchUpTo fuel r) := by
  induction fuel generalizing r with
  | zero => exact h
  | succ fuel ih =>
    unfold Run.dispatchUpTo
    split
    · split
      · exact h
      · next s _ =>
        exact ih (h.imp id fun ⟨f, hf, hclosing, hid⟩ =>
          ⟨f, List.mem_append_left _ hf, hclosing, hid⟩)
    · exact h

/-- The reader of a run that is not running has nothing left to read but the end of it. -/
def AtEnd (r : Run) : Prop :=
  r.phase ≠ .running → r.isClosed = true ∨ ∀ e ∈ r.unread, e.isDone = true

/-- What is told at the end of a run is that it ends. -/
theorem announce_atEnd {r : Run} (quiet : r.isClosed = true ∨ r.unread = []) (result : RunResult) :
    AtEnd (r.announce result) := by
  intro _
  rw [isClosed_congr (announce_reader r result), unread_congr (announce_reader r result)]
  obtain ⟨hsame, htold⟩ := emit_unread r (.done result)
  rw [hsame]
  rcases htold with hclosed | htold | hnone
  · exact .inl hclosed
  · refine quiet.imp_right fun hnil e he => ?_
    rw [htold, hnil, List.nil_append, List.mem_singleton] at he
    rw [he]
    rfl
  · right
    have hnone : (r.emit (.done result)).reader = none := (emit_shows r _).read.2 hnone
    unfold unread
    rw [hnone]
    exact List.forall_mem_nil _

theorem close_atEnd {r : Run} (quiet : r.isClosed = true ∨ r.unread = []) (ending : Ending) :
    AtEnd (r.close ending) := by
  refine fun _ => quiet.imp_right fun hnil e he => ?_
  have hmem : e ∈ r.unread := he
  rw [hnil] at hmem
  cases hmem

/-- A run ends when all is read that was told, but for its end. -/
theorem Caught.concludeIfIdle {r : Run} (h : Caught [] r) (running : r.phase = .running) :
    AtEnd r.concludeIfIdle := by
  rw [concludeIfIdle_eq running]
  split
  · next hidle =>
    have hquiet : r.isClosed = true ∨ r.unread = [] := by
      refine h.resolve_right fun ⟨f, hf, _⟩ => ?_
      rw [List.isEmpty_iff.1 hidle] at hf
      cases hf
    unfold conclude
    split
    · exact announce_atEnd hquiet _
    · exact close_atEnd hquiet _
  · exact fun hended => absurd running hended

/-! ## Whoever closes a stream cancels the run -/

/-- A reader that closes the stream of a run in progress asks for it to be cancelled. -/
theorem takeTurn_asks {r : Run} (going : r.isOver = false) (opened : r.isClosed = false)
    (closed : r.takeTurn.isClosed = true) : r.takeTurn.cancelled = true := by
  have hasks : ∀ {q q' : Run} {told : List RunEvent}, Reads q q' told → q.isOver = false →
      q.isClosed = false → q'.isClosed = true → q'.cancelled = true := by
    intro q q' told reads hgoing hopen hclosed
    rcases reads.asks hclosed with hclosed | hcancelled | hover
    · rw [hopen] at hclosed
      cases hclosed
    · exact hcancelled
    · rw [hgoing] at hover
      cases hover
  unfold takeTurn at closed ⊢
  split at closed
  · rw [opened] at closed
    cases closed
  · next t rest _ =>
    have hgoing : ({ r with ready := rest } : Run).isOver = false := going
    have hopen : ({ r with ready := rest } : Run).isClosed = false := opened
    generalize ({ r with ready := rest } : Run) = q at *
    cases t with
    | reader => exact hasks (read_stir q).shows.toReads hgoing hopen closed
    | flight id =>
      have hclosed : (q.advance id).isClosed = true := closed
      show (q.advance id).cancelled = true
      rcases advance_cases q id with ⟨hsame, -⟩ | ⟨f, -, hgoes⟩
      · rw [hsame, hopen] at hclosed
        cases hclosed
      · obtain ⟨g, told, outputs, hshift, -⟩ := hgoes.later
        exact hasks hshift.shows.toReads hgoing hopen hclosed
    | finish =>
      have hclosed : q.finishClosing.isClosed = true := closed
      have hsame : q.finishClosing.isClosed = q.isClosed := by
        unfold finishClosing
        split <;> rfl
      rw [hsame, hopen] at hclosed
      cases hclosed

/-- A reader that is prompt has nothing left to read of a run that is not running but its end, and
has asked for the run to be cancelled if it has closed the stream over anything else. -/
structure Prompt (r : Run) : Prop where
  atEnd : AtEnd r
  asked : r.isClosed = true →
    r.cancelled = true ∨ ∃ s, r.sightings.getLast? = some s ∧ s.event.isDone = true

/-- What goes on without the stream being closed leaves a reader prompt. -/
theorem Prompt.later {r r' : Run} (h : Prompt r) (later : Later r r')
    (same : r'.isClosed = r.isClosed) (atEnd : AtEnd r') : Prompt r' where
  atEnd := atEnd
  asked hclosed := by
    rw [same] at hclosed
    rw [(later.deaf hclosed).2]
    exact (h.asked hclosed).imp_left later.cancelled

/-- The reader of a run that is as far as before has no more to read. -/
theorem AtEnd.congr {r r' : Run} (h : AtEnd r) (phase : r.phase = .running → r'.phase = .running)
    (reader : r'.reader = r.reader) : AtEnd r' := by
  intro hended
  rw [isClosed_congr reader, unread_congr reader]
  exact h fun hrunning => hended (phase hrunning)

theorem Prompt.read {r : Run} (h : Prompt r) : Prompt r.read := by
  refine readUpTo_induction (motive := Prompt) _ h ?_
  intro q reader e rest hreader hopen hunread hq
  have hlast : (q.readFirst reader e rest).isClosed = (reader.left.map (· - 1) == some 0) := rfl
  have hold : q.isClosed = false := by
    unfold isClosed
    rw [hreader, Option.any_some, hopen]
  have hmem : q.unread = e :: rest := by
    unfold unread
    rw [hreader, ← hunread]
    rfl
  have hall : q.phase ≠ .running → ∀ x ∈ e :: rest, x.isDone = true := by
    intro hended
    rw [← hmem]
    exact (hq.atEnd hended).resolve_left (by rw [hold]; exact Bool.false_ne_true)
  refine ⟨fun hended => .inr fun x hx => hall hended x (List.mem_cons_of_mem _ hx),
    fun hclosed => ?_⟩
  cases hover : q.isOver with
  | false =>
    left
    show (q.cancelled || (reader.left.map (· - 1) == some 0 && !q.isOver)) = true
    rw [← hlast, hclosed, hover]
    exact Bool.or_true _
  | true =>
    -- the run is over, so that what was read last is its end
    right
    have hended : q.phase ≠ .running := fun hrunning => by
      rw [isOver, hrunning] at hover
      cases hover
    exact ⟨_, List.getLast?_concat, hall hended e List.mem_cons_self⟩

theorem Prompt.takeTurn {r : Run} (tracked : Tracked r) (h : Prompt r) : Prompt r.takeTurn := by
  unfold Run.takeTurn
  split
  · exact h
  · next t rest _ =>
    have hq : Prompt { r with ready := rest } := ⟨h.atEnd, h.asked⟩
    have htracked : ∀ id f, ({ r with ready := rest } : Run).flight? id = some f →
        ({ r with ready := rest } : Run).phase = .running := fun id f hf =>
      tracked.elim fun _ hfaithful => hfaithful.running hf
    generalize ({ r with ready := rest } : Run) = q at *
    cases t with
    | reader => exact hq.read
    | flight id =>
      show Prompt (q.advance id)
      rcases advance_cases q id with ⟨hsame, -⟩ | ⟨f, hf, hgoes⟩
      · rw [hsame]
        exact hq
      · have hrunning := htracked id f hf
        obtain ⟨g, told, outputs, hshift, -⟩ := hgoes.later
        have hreads := hshift.shows.toReads
        refine ⟨fun hended => absurd (hshift.phase.trans hrunning) hended, fun hclosed => ?_⟩
        rcases hreads.asks hclosed with hold | hcancelled | hover
        · rw [(hreads.deaf hold).2]
          exact (hq.asked hold).imp_left hshift.cancelled
        · exact .inl hcancelled
        · rw [isOver, hrunning] at hover
          cases hover
    | finish =>
      show Prompt q.finishClosing
      unfold finishClosing
      split
      · next result due hphase =>
        exact ⟨fun _ => hq.atEnd (by rw [hphase]; exact Phase.noConfusion), hq.asked⟩
      · exact hq

theorem round_atEnd {r : Run} (placed : Placed r) (running : r.phase = .running)
    (quiet : r.isClosed = true ∨ r.unread = []) : AtEnd r.round := by
  unfold round
  split
  · have hcaught : Caught [] r := .inl quiet
    exact hcaught.collect.concludeIfIdle ((collect_keeps r).1.trans running)
  · have hdispatched := (dispatch_changes r running placed.flies_once).1
    exact ((Caught.heed placed.flies_once quiet).collect.dispatchUpTo _).concludeIfIdle hdispatched

/-- A prompt reader does nothing out of its turn. -/
theorem Heeded.perform_of_slow {wanted : Option Nat} {r : Run} (h : Heeded wanted r) :
    r.readNext = r ∧ r.hangUp = r := by
  obtain ⟨reader, hheard⟩ := h.heard
  have hnever : ∀ other, r.reader = some other → other.prompt = false → False := by
    intro other hother hslow
    rw [hheard.reads] at hother
    rw [← Option.some.inj hother, hheard.prompt] at hslow
    cases hslow
  refine ⟨(readNext_cases r).resolve_right ?_, (hangUp_cases r).resolve_right ?_⟩
  · rintro ⟨other, _, _, hother, hslow, -⟩
    exact hnever other hother hslow
  · rintro ⟨other, hother, hslow, -⟩
    exact hnever other hother hslow

/-- Every act in the order of the clock leaves a reader prompt that gets in line when it has
something to read. -/
theorem Prompt.perform {wanted : Option Nat} {r : Run} (tracked : Tracked r)
    (heeded : Heeded wanted r) (h : Prompt r) (a : Act) (last : a = .round → r.ready = []) :
    Prompt (r.perform a) := by
  have hlater : Later r (r.perform a) := performAll_later tracked.placed [a]
  by_cases hturn : a = .turn
  · subst hturn
    exact h.takeTurn tracked
  by_cases hhang : a = .hangUp
  · subst hhang
    show Prompt r.hangUp
    rw [heeded.perform_of_slow.2]
    exact h
  refine h.later hlater (perform_isClosed r hturn hhang) ?_
  cases a with
  | turn => exact absurd rfl hturn
  | hangUp => exact absurd rfl hhang
  | read =>
    show AtEnd r.readNext
    rw [heeded.perform_of_slow.1]
    exact h.atEnd
  | round =>
    show AtEnd (if r.dispatcherActs then r.round else r)
    split
    · next hacts =>
      exact round_atEnd tracked.placed (running_of_dispatcherActs hacts) (heeded.quiet (last rfl))
    · exact h.atEnd
  | pass time => exact h.atEnd
  | wake =>
    refine h.atEnd.congr (fun hrunning => ?_) (wake_reader r)
    have hbare := (wake_stir r).phase
    rw [hrunning] at hbare
    exact Phase.eq_running_of_bare hbare
  | expire =>
    cases hlimit : r.limitReached? with
    | none =>
      rw [perform_expire_of_none hlimit]
      exact h.atEnd
    | some limit =>
      have hrunning := (busy_of_limitReached? hlimit).2.2.2.1
      have hkept : (r.expire limit).phase = r.phase :=
        (interruptAll_keeps (r.flights.map Flight.id) (r.stoppedBy limit)).phase
      rw [perform_expire hlimit]
      exact fun hended => absurd (hkept.trans hrunning) hended
  | cancel =>
    show AtEnd r.cancel
    unfold cancel
    split
    · exact h.atEnd
    · exact h.atEnd
  | share environment =>
    show AtEnd (r.share environment)
    unfold share
    split
    · exact h.atEnd
    · exact h.atEnd

/-! ## What is read -/

/-- What is read of a run to its end are the events of the run that is called back, and it ends as
that run does. -/
structure ReadsAll (called read : Run) : Prop where
  /-- What the listener of the one is called with are its events. -/
  delivered : called.sightings.map Sighting.event = called.events
  seen : read.sightings.map Sighting.event = called.events
  same : read.events = called.events
  unread : read.reader.map Reader.unread = some []
  phase : read.phase = called.phase
  ended : read.isOver = true

/-- Someone who closes the stream after some events has read those that a listener is called with
first, which are the first of the run that is read. The run is asked to be cancelled, unless the
last of these events is its end, and when it is over no step is in flight. -/
structure ClosesAfter (k : Nat) (called read : Run) : Prop where
  seen : read.sightings.map Sighting.event = called.events.take k
  own : read.sightings.map Sighting.event = read.events.take k
  closed : read.isClosed = true ↔ k ≤ read.events.length
  asked : ∀ e, read.events[k - 1]? = some e → e.isDone = false → read.cancelled = true
  ended : read.isOver = true
  idle : read.flights = []

/-- A reader that closes the stream of a run in progress asks for the run to be cancelled then, and
whoever has closed it has done so, or has read the end of the run, if the dispatcher waits until
nothing is in line. -/
structure AsksToCancel (entry : Run) : Prop where
  closing : ∀ acts a, (entry.performAll acts).isOver = false →
    (entry.performAll acts).isClosed = false → ((entry.performAll acts).perform a).isClosed = true →
      ((entry.performAll acts).perform a).cancelled = true
  asked : ∀ acts, entry.ByClock acts → (entry.performAll acts).isClosed = true →
    (entry.performAll acts).cancelled = true ∨
      ∃ s, (entry.performAll acts).sightings.getLast? = some s ∧ s.event.isDone = true

/-- While a stream is open all events of the run were read or wait to be read, in order, and a run
that is over tells no more. Whoever closes the stream then, which leaves the run as `left`, has read
the first events of the run. That asks for the run to be cancelled, but if it is over: whatever
happens afterwards, no more is read, and when the run is over, which it will be, no step of it is in
flight. -/
structure ClosesAnyTime (r left : Run) : Prop where
  given : r.given = r.events
  last : r.isOver = true → ∀ acts, (r.performAll acts).events = r.events
  asked : r.isOver = false → ∀ acts, (left.performAll acts).cancelled = true
  late : r.isOver = true → left.cancelled = r.cancelled
  seen : ∀ acts, (left.performAll acts).sightings = r.sightings
  first : ∀ acts, r.sightings.map Sighting.event =
    (left.performAll acts).events.take r.sightings.length
  idle : ∀ acts, (left.performAll acts).isOver = true → (left.performAll acts).flights = []
  ended : (∃ acts, left.finish = left.performAll acts) ∧ left.finish.isOver = true

/-- A reader that takes its time, of the run `read`, beside the run `called` that is called back,
after the same acts. As long as it has not closed the stream both runs have told the same and have
come as far. It reads what it was told event by event, and may close the stream whenever it likes.
-/
structure ReadsAtWill (called read : Run) : Prop where
  /-- What the listener of the one is called with are its events. -/
  delivered : called.sightings.map Sighting.event = called.events
  same : read.isClosed = false → read.events = called.events
  phase : read.isClosed = false → read.phase = called.phase
  reads : read.isClosed = false → ∀ n,
    (read.performAll (List.replicate n .read)).sightings.map Sighting.event =
      called.events.take (read.sightings.length + n)
  closes : read.isClosed = false → ClosesAnyTime read read.hangUp

/-! ## Runs at their entry -/

/-- Nobody has closed the stream of a run at its entry. -/
theorem enter_isClosed (plan : Plan) (now : Nat) (environment : Environment) (wanted : Option Nat)
    (cancelled : Bool) :
    (enter plan now environment (some { left := wanted }) cancelled).isClosed = false := by
  unfold enter
  dsimp only
  split
  · rfl
  · exact (isClosed_congr (announce_reader _ _)).trans (emit_unread _ _).1
  · split
    · rfl
    · exact (concludeIfIdle_isClosed _).trans (isClosed_congr (reader_dispatchUpTo _ _))

theorem Prompt.enter (plan : Plan) (now : Nat) (environment : Environment) (wanted : Option Nat)
    (cancelled : Bool) :
    Prompt (enter plan now environment (some { left := wanted }) cancelled) where
  atEnd := by
    unfold Run.enter
    dsimp only
    split
    · exact close_atEnd (.inr rfl) _
    · exact announce_atEnd (.inr rfl) _
    · next inputs _ =>
      split
      · exact close_atEnd (.inr rfl) _
      · have hcaught :
            Caught [] (loaded plan now environment (some { left := wanted }) cancelled inputs) :=
          .inl (.inr rfl)
        exact (hcaught.dispatchUpTo _).concludeIfIdle (dispatchUpTo_keeps _ _).1
  asked hclosed := by
    rw [enter_isClosed] at hclosed
    cases hclosed

/-- What is known of a run that a prompt reader reads, in all of its history. -/
structure Streamed (wanted : Option Nat) (r : Run) : Prop where
  alive : Alive r
  tracked : Tracked r
  heeded : Heeded wanted r

theorem Streamed.enter {plan : Plan} (formed : plan.pipeline.WellFormed) (now : Nat)
    (environment : Environment) (wanted : Option Nat) (cancelled : Bool) :
    Streamed wanted (enter plan now environment (some { left := wanted }) cancelled) where
  alive := .enter formed now environment _ cancelled
  tracked := .enter formed now environment _ cancelled
  heeded := .enter wanted plan now environment cancelled

theorem Streamed.performAll {wanted : Option Nat} {r : Run} (h : Streamed wanted r)
    (acts : List Act) : Streamed wanted (r.performAll acts) :=
  performAll_induction acts h fun _ a hq =>
    { alive := hq.alive.perform a
      tracked := hq.tracked.perform a
      heeded := hq.heeded.perform hq.tracked.placed a }

theorem Streamed.prompt {wanted : Option Nat} {r : Run} (h : Streamed wanted r) (prompt : Prompt r)
    {acts : List Act} (clock : r.ByClock acts) : Prompt (r.performAll acts) :=
  (clock.induction (motive := fun q => Streamed wanted q ∧ Prompt q) ⟨h, prompt⟩
    fun _ a last hq =>
      ⟨hq.1.performAll [a], hq.2.perform hq.1.tracked hq.1.heeded a last⟩).2

theorem Streamed.asksToCancel {wanted : Option Nat} {r : Run} (h : Streamed wanted r)
    (prompt : Prompt r) : AsksToCancel r where
  closing acts a going opened closed := by
    by_cases hturn : a = .turn
    · subst hturn
      exact takeTurn_asks going opened closed
    by_cases hhang : a = .hangUp
    · subst hhang
      have hsame : (r.performAll acts).perform .hangUp = r.performAll acts :=
        (h.performAll acts).heeded.perform_of_slow.2
      rw [hsame, opened] at closed
      cases closed
    · rw [perform_isClosed _ hturn hhang, opened] at closed
      cases closed
  asked _ clock := (h.prompt prompt clock).asked

/-- A run as it is left when its stream is closed: it is asked to be cancelled, but if it is over.
-/
structure Leaves (r left : Run) : Prop where
  alive : Alive left
  tracked : Tracked left
  closed : left.isClosed = true
  sightings : left.sightings = r.sightings
  events : left.events = r.events
  cancelled : left.cancelled = (r.cancelled || !r.isOver)

theorem Leaves.closesAnyTime {r left : Run} {reader : Reader} (h : Leaves r left)
    (tracked : Tracked r) (served : Served r reader) (opened : reader.closed = false) :
    ClosesAnyTime r left := by
  have hlater := performAll_later h.alive.placed
  obtain ⟨⟨more, hmore, -⟩, hover⟩ := h.alive.finish_spec
  refine
    { given := served.all opened, last := fun ended => tracked.events_of_isOver ended
      asked := fun going acts => (hlater acts).cancelled ?_, late := fun ended => ?_
      seen := fun acts => ((hlater acts).deaf h.closed).2.trans h.sightings
      first := fun acts => ?_
      idle := fun acts ended => (h.tracked.performAll acts).idle_of_isOver ended
      ended := ⟨⟨more, hmore⟩, hover⟩ }
  · rw [h.cancelled, going]
    exact Bool.or_true _
  · rw [h.cancelled, ended]
    exact Bool.or_false _
  · rw [← List.length_map Sighting.event]
    refine List.prefix_iff_eq_take.1 (served.seen_front.trans ?_)
    rw [← h.events]
    exact (hlater acts).events

/-- A reader that takes its time may close the stream whenever it likes. -/
theorem Paced.closesAnyTime {r : Run} (h : Paced r) (opened : r.isClosed = false) :
    ClosesAnyTime r r.hangUp := by
  obtain ⟨reader, hserved, hslow⟩ := h.served
  have hopen : reader.closed = false := hserved.isClosed_eq ▸ opened
  have hhang : r.hangUp =
      { r with
        cancelled := r.cancelled || !r.isOver, reader := some { reader with closed := true } } := by
    unfold hangUp
    rw [hserved.reads, cancel_eq]
    dsimp only
    rw [hslow, hopen]
    rfl
  have hleaves : Leaves r r.hangUp :=
    { alive := h.alive.perform .hangUp, tracked := h.tracked.perform .hangUp
      closed := by rw [hhang]; rfl
      sightings := by rw [hhang]
      events := by rw [hhang]
      cancelled := by rw [hhang] }
  exact hleaves.closesAnyTime h.tracked hserved hopen

/-- Runs that are the same without their listeners and readers tell the same and end alike. -/
theorem told_of_unheard {r q : Run} (h : r.unheard = q.unheard) :
    r.events = q.events ∧ r.phase = q.phase := by
  constructor
  · show r.unheard.events = q.unheard.events
    rw [h]
  · show r.unheard.phase = q.unheard.phase
    rw [h]

section

variable {plan : Plan} (formed : plan.pipeline.WellFormed) (now : Nat) (environment : Environment)
  (cancelled : Bool)

include formed

/-- A run that is called back is told of every event, and is at its end what it would be if nobody
listened. -/
theorem called_spec :
    (start plan now environment none cancelled).finish.unheard =
        (start plan now environment (some { closed := true }) cancelled).finish ∧
      (start plan now environment none cancelled).finish.sightings.map Sighting.event =
        (start plan now environment none cancelled).finish.events := by
  have halive := Alive.enter formed now environment none cancelled
  have hnone := reader_enter plan now environment cancelled
  obtain ⟨acts, hacts, -⟩ := halive.settle_acts
  obtain ⟨⟨more, hmore, -⟩, -⟩ := halive.settle.finish_spec
  have hcalled : (start plan now environment none cancelled).finish.reader = none := by
    unfold start
    rw [hmore, hacts, ← performAll_append]
    exact reader_performAll halive.placed hnone _
  have htracked : Tracked (start plan now environment none cancelled).finish := by
    unfold start
    rw [hmore, hacts, ← performAll_append]
    exact (Tracked.enter formed now environment none cancelled).performAll _
  refine ⟨?_, (htracked.mirrored.told hcalled).1⟩
  have hminded : Minded (enter plan now environment none cancelled) := by
    intro reader hreader
    rw [hnone] at hreader
    cases hreader
  have hfollows := finish_follows halive hminded
  rw [enter_unheard] at hfollows
  rcases hfollows with hsame | ⟨hclosed, -⟩
  · exact hsame
  · unfold start at hcalled
    unfold isClosed at hclosed
    rw [hcalled] at hclosed
    cases hclosed

/-- A run that is read comes to its end, beside the run that nobody listens to, and nothing is in
line any more. -/
theorem read_spec (wanted : Option Nat) :
    Follows (start plan now environment (some { left := wanted }) cancelled).finish
        (start plan now environment (some { closed := true }) cancelled).finish ∧
      Streamed wanted (start plan now environment (some { left := wanted }) cancelled).finish ∧
      Prompt (start plan now environment (some { left := wanted }) cancelled).finish ∧
      (start plan now environment (some { left := wanted }) cancelled).finish.ready = [] ∧
      (start plan now environment (some { left := wanted }) cancelled).finish.isOver = true := by
  have hentry := Streamed.enter formed now environment wanted cancelled
  have halive := hentry.alive
  obtain ⟨acts, hacts, hsettles⟩ := halive.settle_acts
  obtain ⟨⟨more, hmore, hclock⟩, hover⟩ := halive.settle.finish_spec
  have hfollows := finish_follows halive (.of_heeded hentry.heeded)
  rw [enter_unheard] at hfollows
  refine ⟨hfollows, ?_, ?_, ?_, hover⟩
  · unfold start
    rw [hmore, hacts, ← performAll_append]
    exact hentry.performAll _
  · unfold start
    rw [hmore, hacts, ← performAll_append]
    exact hentry.prompt (.enter plan now environment wanted cancelled)
      (hsettles.append (hacts ▸ hclock))
  · exact ready_of_idle (halive.settle.hasWork_advanceUpTo none _ halive.hasWork_settle)

theorem readsAll :
    ReadsAll (start plan now environment none cancelled).finish
      (start plan now environment (some {}) cancelled).finish := by
  obtain ⟨hcalled, hdelivered⟩ := called_spec formed now environment cancelled
  obtain ⟨hfollows, hread, -, hquiet, hover⟩ := read_spec formed now environment cancelled none
  obtain ⟨reader, hheard⟩ := hread.heeded.heard
  obtain ⟨hunread, hseen⟩ := hread.heeded.seen_of_quiet hheard hquiet hheard.not_closed
  generalize (start plan now environment none cancelled).finish = called at *
  have hsame := hfollows.resolve_right fun ⟨hclosed, _⟩ => by
    rw [hheard.isClosed_eq, hheard.not_closed] at hclosed
    cases hclosed
  rw [← hcalled] at hsame
  obtain ⟨hevents, hphase⟩ := told_of_unheard hsame
  refine ⟨hdelivered, hseen.trans hevents, hevents, ?_, hphase, hover⟩
  rw [hheard.reads, Option.map_some, hunread]

theorem closesAfter {k : Nat} (some_read : 1 ≤ k) :
    ClosesAfter k (start plan now environment none cancelled).finish
      (start plan now environment (some { left := some k }) cancelled).finish := by
  obtain ⟨hcalled, -⟩ := called_spec formed now environment cancelled
  obtain ⟨hfollows, hread, hprompt, hquiet, hover⟩ :=
    read_spec formed now environment cancelled (some k)
  obtain ⟨reader, hheard⟩ := hread.heeded.heard
  generalize (start plan now environment none cancelled).finish = called at *
  generalize (start plan now environment (some { left := some k }) cancelled).finish = r at *
  have hown := hheard.seen_front
  have hidle := hread.tracked.idle_of_isOver hover
  have hlength : (r.sightings.map Sighting.event).length = r.sightings.length := List.length_map _
  cases hclosed : reader.closed with
  | true =>
    have hk := hheard.length_of_closed some_read hclosed
    have hprefix : r.sightings.map Sighting.event <+: called.events := by
      rcases hfollows with hsame | ⟨-, hseen⟩
      · rw [← hcalled] at hsame
        rw [← (told_of_unheard hsame).1]
        exact hown
      · rw [← hcalled] at hseen
        exact hseen
    have htake : ∀ es : List RunEvent, r.sightings.map Sighting.event <+: es →
        r.sightings.map Sighting.event = es.take k := by
      intro es hfront
      rw [← hk, ← hlength]
      exact List.prefix_iff_eq_take.1 hfront
    refine ⟨htake _ hprefix, htake _ hown, ?_, fun e he hdone => ?_, hover, hidle⟩
    · rw [hheard.isClosed_eq, hclosed, ← hk, ← hlength]
      exact iff_of_true rfl hown.length_le
    · -- the event over which the stream was closed is the last one that was read
      refine (hprompt.asked (hheard.isClosed_eq.trans hclosed)).resolve_right ?_
      rintro ⟨s, hlast, hend⟩
      have hlast' : (r.sightings.map Sighting.event)[k - 1]? = some s.event := by
        rw [List.getElem?_map, ← hk, ← List.getLast?_eq_getElem?, hlast]
        rfl
      rw [htake _ hown, List.getElem?_take_of_lt (Nat.sub_lt some_read Nat.one_pos), he] at hlast'
      rw [Option.some.inj hlast', hend] at hdone
      cases hdone
  | false =>
    obtain ⟨-, hseen⟩ := hread.heeded.seen_of_quiet hheard hquiet hclosed
    have hk := hheard.length_of_open some_read hclosed
    have hfew : r.events.length < k := by
      rw [← hseen, hlength]
      exact hk
    have hsame := hfollows.resolve_right fun ⟨hclosed', _⟩ => by
      rw [hheard.isClosed_eq, hclosed] at hclosed'
      cases hclosed'
    rw [← hcalled] at hsame
    have hevents := (told_of_unheard hsame).1
    refine ⟨?_, ?_, ?_, fun e he _ => ?_, hover, hidle⟩
    · rw [← hevents, List.take_of_length_le (Nat.le_of_lt hfew), hseen]
    · rw [List.take_of_length_le (Nat.le_of_lt hfew), hseen]
    · rw [hheard.isClosed_eq, hclosed]
      exact iff_of_false Bool.false_ne_true (Nat.not_le_of_lt hfew)
    · rw [List.getElem?_eq_none (by omega)] at he
      cases he

/-- The caller of a run that is read may give up waiting for it at any time. -/
theorem leave_closesAnyTime {record : RunRecord} {acts : List Act}
    (run : record.run = (enter plan now environment (some {}) cancelled).performAll acts) :
    ClosesAnyTime record.run record.leave.run := by
  have hstreamed := (Streamed.enter formed now environment none cancelled).performAll acts
  rw [← run] at hstreamed
  obtain ⟨reader, hheard⟩ := hstreamed.heeded.heard
  have hleft : record.leave.run =
      { record.run.cancel with reader := some { reader with closed := true } } := by
    unfold RunRecord.leave
    rw [hheard.reads]
  rw [hleft, cancel_eq]
  have halive := hstreamed.alive.perform .cancel
  obtain ⟨lost, hcancelled⟩ := hstreamed.tracked.perform .cancel
  rw [show record.run.perform .cancel = record.run.cancel from rfl, cancel_eq] at halive hcancelled
  generalize record.run = r at *
  have hplaced : Placed { r with
      cancelled := r.cancelled || !r.isOver, reader := some { reader with closed := true } } :=
    { hcancelled.placed with }
  have hleaves : Leaves r { r with
      cancelled := r.cancelled || !r.isOver, reader := some { reader with closed := true } } :=
    { alive := halive.of_same hplaced rfl rfl rfl rfl rfl
      tracked := ⟨lost, { hcancelled with
        placed := hplaced, booked := { hcancelled.booked with }, called := nofun }⟩
      closed := rfl, sightings := rfl, events := rfl, cancelled := rfl }
  exact hleaves.closesAnyTime hstreamed.tracked hheard.toServed hheard.not_closed

/-- Whoever takes their time over the events reads those that the listener of the same run is called
with, and may close the stream at any time. -/
theorem readsAtWill (acts : List Act) :
    ReadsAtWill ((enter plan now environment none cancelled).performAll acts)
      ((enter plan now environment (some { prompt := false }) cancelled).performAll acts) := by
  have halive := Alive.enter formed now environment none cancelled
  have hentry := Paced.enter formed now environment cancelled
  have hcalled : ((enter plan now environment none cancelled).performAll acts).reader = none :=
    reader_performAll halive.placed (reader_enter plan now environment cancelled) acts
  have htracked := (Tracked.enter formed now environment none cancelled).performAll acts
  have hbeside := performAll_unheard acts hentry.alive.placed halive.placed hentry.unhurried
    (.enter plan now environment cancelled rfl) (reader_enter plan now environment cancelled)
    (by rw [enter_unheard, enter_unheard])
  have hpaced := hentry.performAll acts
  have htold : ((enter plan now environment (some { prompt := false }) cancelled).performAll
      acts).isClosed = false → _ := fun hopen =>
    told_of_unheard (hbeside.resolve_left (by rw [hopen]; exact Bool.false_ne_true))
  exact
    { delivered := (htracked.mirrored.told hcalled).1
      same := fun hopen => (htold hopen).1
      phase := fun hopen => (htold hopen).2
      reads := fun hopen n => (htold hopen).1 ▸ hpaced.reads hopen n
      closes := hpaced.closesAnyTime }

end

/-- Reading a run as a stream to its end gives the events with which the listener of the same run is
called, in order and all of them, and the run ends in the same way. Someone who closes the stream
after `k` events has read the first `k` of them, or all if there are less, and the run is seen to
its end; so it is with someone who closes the stream at any other time. That the stream is closed
asks for the run to be cancelled, unless it is over by then.

The first two are about a reader that reads what there is before the run goes on: it closes the
stream of a run that is over only when it has read the end of it. The last is about a reader that
takes its time over every event. The run may be over when such a reader closes the stream, whatever
it has read by then. -/
theorem stream_matches_listener {plan : Plan}
    (compiled : ∃ (d : Definition) (schema : Option Members), d.compile schema = .ok plan.pipeline)
    (now : Nat) (environment : Environment) (cancelled : Bool) :
    ReadsAll (start plan now environment none cancelled).finish
        (start plan now environment (some {}) cancelled).finish ∧
      (∀ k, 1 ≤ k →
        ClosesAfter k (start plan now environment none cancelled).finish
            (start plan now environment (some { left := some k }) cancelled).finish ∧
          AsksToCancel (enter plan now environment (some { left := some k }) cancelled)) ∧
      (∀ (acts : List Act) (record : RunRecord),
        record.run = (enter plan now environment (some {}) cancelled).performAll acts →
          ClosesAnyTime record.run record.leave.run) ∧
      ∀ acts : List Act,
        ReadsAtWill ((enter plan now environment none cancelled).performAll acts)
          ((enter plan now environment (some { prompt := false }) cancelled).performAll acts) := by
  obtain ⟨d, schema, hcompiled⟩ := compiled
  have hformed : plan.pipeline.WellFormed := .of_compile hcompiled
  exact ⟨readsAll hformed now environment cancelled, fun k hk =>
    ⟨closesAfter hformed now environment cancelled hk,
      (Streamed.enter hformed now environment (some k) cancelled).asksToCancel
        (.enter plan now environment (some k) cancelled)⟩,
    fun acts record hrun => leave_closesAnyTime hformed now environment cancelled hrun,
    readsAtWill hformed now environment cancelled⟩

/-- A reader hangs up over the first event, while two steps are in flight: one of them lets itself
be interrupted, the other is seen to its end, and no other begins. -/
theorem stream_matches_listener_remoteAndTwo :
    (start remoteAndTwoPlan 0 {} (some { left := some 1 }) false).finish.sightings.map
        Sighting.event =
      (start remoteAndTwoPlan 0 {} none false).finish.events.take 1 ∧
    (start remoteAndTwoPlan 0 {} (some { left := some 1 }) false).finish.cancelled = true ∧
    (start remoteAndTwoPlan 0 {} (some { left := some 1 }) false).finish.stepResults.map
        (fun x => (x.step, x.status)) = [("a", .cancelled), ("b", .success)] ∧
    (start remoteAndTwoPlan 0 {} (some {}) false).finish.events =
      (start remoteAndTwoPlan 0 {} none false).finish.events := by
  obtain ⟨hall, hafter, -⟩ :=
    stream_matches_listener remoteAndTwoRun_begins.compiled 0 {} false
  refine ⟨(hafter 1 (Nat.le_refl 1)).1.seen, ?_, ?_, hall.same⟩
  · decide +kernel
  · decide +kernel

/-- The plan of one action that takes no time. -/
def instantPlan : Plan := { oneActionPlan with delivery := {} }

/-- The run of one action that takes no time, when its reader reads nothing before it is over, and
then one event, and closes the stream. -/
def lateRun : Run :=
  (enter instantPlan 0 {} (some { prompt := false }) false).performAll
    [.turn, .turn, .turn, .turn, .turn, .round, .turn, .read, .hangUp]

/-- When its reader closes the stream over the end of a run, the run is over, and nothing is
cancelled. So it is when a reader that takes its time closes the stream over an earlier event, but
after the end of the run. -/
theorem close_at_end_not_cancelled :
    (start instantPlan 0 {} (some { left := some 3 }) false).finish.isClosed = true ∧
      (start instantPlan 0 {} (some { left := some 3 }) false).finish.sightings.map
          (fun s => s.event.name) = ["step_start", "step_complete", "done"] ∧
      (start instantPlan 0 {} (some { left := some 3 }) false).finish.state = .completed ∧
      (start instantPlan 0 {} (some { left := some 3 }) false).finish.cancelled = false ∧
      lateRun.isClosed = true ∧ lateRun.sightings.map (fun s => s.event.name) = ["step_start"] ∧
      lateRun.state = .completed ∧ lateRun.cancelled = false := by
  decide +kernel

end Conduit.Run
