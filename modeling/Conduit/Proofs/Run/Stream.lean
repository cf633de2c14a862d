import Conduit.Proofs.Run.Mirror
import Conduit.Proofs.Run.Unheard

/-!
# Runs that are read as a stream

A run that is read to the end goes through the same states as one that is called back, and what is
read are the events in their order, all of them. A reader that closes the stream has read the first
events of the run, and the run is seen to its end. That the stream is closed asks for the run to be
cancelled, unless the run is over by then.

* `Run.Heeded`, `Run.Change.reads` — what a reader reads of a run that goes on;
* `Run.Follows` — a run that is read beside the run that nobody listens to;
* `Run.finish_follows` — they stay so as long as the stream is not closed;
* `Run.performAll_unheard` — so does a run whose reader takes its time, act by act;
* `Run.Paced` — what is known of such a run;
* `Run.Tracked.events_of_isOver` — a run that is over tells no more.
-/

namespace Conduit.Run

/-! ## What is read of a run that goes on -/

theorem Change.reads {r r' : Run} {lost : List String} (change : Change r r' lost) :
    ∃ told, Reads r r' told ∧ r'.events = r.events ++ told := by
  have hsame : ∀ q : Run, q.reader = r.reader → q.sightings = r.sightings →
      (.reader ∈ q.ready ↔ .reader ∈ r.ready) → q.events = r.events →
        ∃ told, Reads r q told ∧ q.events = r.events ++ told :=
    fun q hreader hsightings hline hevents =>
      ⟨[], .of_same hreader hsightings hline, hevents.trans (List.append_nil _).symm⟩
  cases change with
  | stirs stir =>
    exact ⟨[], stir.shows.toReads, stir.quiet.trans (List.append_nil _).symm⟩
  | moves flies move =>
    cases move <;> rename_i shift <;> exact ⟨_, shift.shows.toReads, shift.events⟩
  | cuts called flies cut =>
    cases cut with
    | past stage same =>
      rw [same]
      exact hsame _ rfl rfl (mem_dropTurn Turn.noConfusion) rfl
    | drops stage shift => exact ⟨_, shift.shows.toReads, shift.events⟩
    | loses report givenUp stage shift => exact ⟨_, shift.shows.toReads, shift.events⟩
    | stops due stage shift => exact ⟨_, shift.shows.toReads, shift.events⟩
  | heeds running asked => exact hsame _ rfl rfl .rfl rfl
  | collects running =>
    rw [collect_eq]
    exact hsame _ rfl rfl .rfl rfl
  | launches running may first => exact hsame _ rfl rfl (by simp [launch]) rfl
  | concludes running idle stuck =>
    unfold Run.conclude
    split
    · next result _ =>
      obtain ⟨_, _, _, _, _, _, hannounce, -⟩ := announce_eq r result
      exact ⟨_, (announce_shows r result).toReads, by rw [hannounce]⟩
    · exact hsame _ rfl rfl .rfl rfl
  | closes phase => exact hsame _ rfl rfl .rfl rfl

/-- What a run has told and been asked for stays so, and a reader that has closed the stream sees no
more. -/
structure Later (r r' : Run) : Prop where
  events : r.events <+: r'.events
  cancelled : r.cancelled = true → r'.cancelled = true
  deaf : r.isClosed = true → r'.isClosed = true ∧ r'.sightings = r.sightings

theorem Later.refl (r : Run) : Later r r := ⟨List.prefix_rfl, id, fun hclosed => ⟨hclosed, rfl⟩⟩

theorem Later.trans {r q s : Run} (h : Later r q) (h' : Later q s) : Later r s where
  events := h.events.trans h'.events
  cancelled hc := h'.cancelled (h.cancelled hc)
  deaf hclosed := by
    obtain ⟨hq, hseen⟩ := h.deaf hclosed
    obtain ⟨hs, hseen'⟩ := h'.deaf hq
    exact ⟨hs, hseen'.trans hseen⟩

theorem Change.later {r r' : Run} {lost : List String} (change : Change r r' lost) :
    Later r r' := by
  obtain ⟨told, hreads, hevents⟩ := change.reads
  exact ⟨⟨told, hevents.symm⟩, change.onward.cancelled, hreads.deaf⟩

theorem Changes.later {r r' : Run} {lost : List String} (changes : Changes r r' lost) :
    Later r r' :=
  changes.induction (motive := fun q _ => Later r q) [] (.refl r)
    fun _ _ _ _ hlater change => hlater.trans change.later

theorem performAll_later {r : Run} (placed : Placed r) (acts : List Act) :
    Later r (r.performAll acts) := by
  have hall := performAll_induction (motive := fun q => Placed q ∧ Later r q) acts
    ⟨placed, .refl r⟩ ?_
  · exact hall.2
  · intro q a ⟨hplaced, hlater⟩
    refine ⟨hplaced.perform a, ?_⟩
    exact perform_induction (motive := fun p _ => Later r p) [] a hplaced.flies_once hlater
      (fun _ _ _ _ hp change => hp.trans change.later) fun _ _ _ => { hlater with }

/-- A run whose reader wants to read `wanted` events, or all, and gets in line for them. -/
structure Heeded (wanted : Option Nat) (r : Run) : Prop where
  heard : ∃ reader, Heard wanted r reader
  attentive : Attentive r

theorem Reads.heeded {wanted : Option Nat} {r r' : Run} {told : List RunEvent}
    (reads : Reads r r' told) (events : r'.events = r.events ++ told) (h : Heeded wanted r) :
    Heeded wanted r' := by
  obtain ⟨reader, hheard⟩ := h.heard
  exact ⟨reads.heard events wanted reader hheard, reads.attends h.attentive⟩

theorem Change.heeded {wanted : Option Nat} {r r' : Run} {lost : List String}
    (change : Change r r' lost) (h : Heeded wanted r) : Heeded wanted r' := by
  obtain ⟨told, hreads, hevents⟩ := change.reads
  exact hreads.heeded hevents h

theorem Heeded.stoppedBy {wanted : Option Nat} {r : Run} (h : Heeded wanted r)
    (limit : TimeLimit) : Heeded wanted (r.stoppedBy limit) := by
  obtain ⟨reader, hheard⟩ := h.heard
  exact ⟨⟨reader, hheard.congr rfl rfl rfl⟩, h.attentive⟩

theorem Heeded.perform {wanted : Option Nat} {r : Run} (h : Heeded wanted r) (placed : Placed r)
    (a : Act) : Heeded wanted (r.perform a) :=
  perform_induction (motive := fun q _ => Heeded wanted q) [] a placed.flies_once h
    (fun _ _ _ _ hq change => change.heeded hq) fun limit _ _ => h.stoppedBy limit

/-- What was read are the first events of the run. -/
theorem Served.seen_front {r : Run} {reader : Reader} (h : Served r reader) :
    r.sightings.map Sighting.event <+: r.events :=
  List.IsPrefix.trans (List.prefix_append _ _) h.front

/-- Who reads to the end does not close the stream. -/
theorem Heard.not_closed {r : Run} {reader : Reader} (h : Heard none r reader) :
    reader.closed = false := by
  by_contra hclosed
  have hleft := (h.closes.1 (by simpa using hclosed)).2
  rw [h.left] at hleft
  cases hleft

theorem Served.isClosed_eq {r : Run} {reader : Reader} (h : Served r reader) :
    r.isClosed = reader.closed := by
  unfold isClosed
  rw [h.reads]
  rfl

/-- Whoever closes the stream after some events has read as many. -/
theorem Heard.length_of_closed {k : Nat} {r : Run} {reader : Reader}
    (h : Heard (some k) r reader) (some_read : 1 ≤ k) (closed : reader.closed = true) :
    r.sightings.length = k := by
  have hleft := (h.closes.1 closed).2
  have hfew := h.few k rfl
  rw [h.left, Option.map_some, Option.some_inj] at hleft
  omega

/-- Whoever is to close the stream after some events, and has not, has read less. -/
theorem Heard.length_of_open {k : Nat} {r : Run} {reader : Reader}
    (h : Heard (some k) r reader) (some_read : 1 ≤ k) (opened : reader.closed = false) :
    r.sightings.length < k := by
  have hopen : ¬(0 < r.sightings.length ∧ reader.left = some 0) := by
    rw [← h.closes, opened]
    exact Bool.false_ne_true
  rw [h.left, Option.map_some, Option.some_inj] at hopen
  omega

/-- When nothing is in line, whoever has not closed the stream has read all. -/
theorem Heeded.seen_of_quiet {wanted : Option Nat} {r : Run} {reader : Reader}
    (h : Heeded wanted r) (heard : Heard wanted r reader) (quiet : r.ready = [])
    (opened : reader.closed = false) :
    reader.unread = [] ∧ r.sightings.map Sighting.event = r.events := by
  have hnone : reader.unread = [] := by
    by_contra hsome
    have hawaits : r.awaits = true := by
      unfold awaits
      rw [heard.reads, Option.any_some, heard.prompt, opened]
      simpa using hsome
    have hin := h.attentive hawaits
    rw [quiet] at hin
    cases hin
  refine ⟨hnone, ?_⟩
  have hgiven := heard.all opened
  unfold given at hgiven
  rw [heard.reads, Option.map_some, hnone] at hgiven
  rwa [Option.getD_some, List.append_nil] at hgiven

/-! ## Beside a run that nobody listens to -/

/-- A run beside the same run without a listener or a reader: it is that run, or its reader has
closed the stream after reading the first events of that run. -/
def Follows (r d : Run) : Prop :=
  r.unheard = d ∨ r.isClosed = true ∧ r.sightings.map Sighting.event <+: d.events

/-- Once the stream is closed, the two runs may go on as they like. -/
theorem Follows.of_closed {r r' d d' : Run} (closed : r.isClosed = true)
    (seen : r.sightings.map Sighting.event <+: d.events) (later : Later r r')
    (later' : Later d d') : Follows r' d' := by
  obtain ⟨hclosed, hseen⟩ := later.deaf closed
  refine .inr ⟨hclosed, ?_⟩
  rw [hseen]
  exact seen.trans later'.events

/-- What is known of the reader of a run, if it has one. -/
def Minded (r : Run) : Prop := ∀ reader, r.reader = some reader → Served r reader

theorem Minded.congr {r q : Run} (h : Minded r) (reader : q.reader = r.reader)
    (sightings : q.sightings = r.sightings) (events : q.events = r.events) : Minded q :=
  fun rd hrd => (h rd (reader ▸ hrd)).congr reader sightings events

theorem Minded.of_heeded {wanted : Option Nat} {r : Run} (h : Heeded wanted r) : Minded r := by
  intro reader hreader
  obtain ⟨reader', hheard⟩ := h.heard
  rw [hheard.reads] at hreader
  exact Option.some.inj hreader ▸ hheard.toServed

theorem Reads.minded {r r' : Run} {told : List RunEvent} (reads : Reads r r' told)
    (events : r'.events = r.events ++ told) (h : Minded r) : Minded r' := by
  intro reader' hreader'
  cases hreader : r.reader with
  | none =>
    rw [reads.read.2 hreader] at hreader'
    cases hreader'
  | some reader =>
    obtain ⟨other, hother, -⟩ := reads.served events reader (h reader hreader)
    rw [hother.reads] at hreader'
    exact Option.some.inj hreader' ▸ hother

theorem Change.minded {r r' : Run} {lost : List String} (change : Change r r' lost)
    (h : Minded r) : Minded r' := by
  obtain ⟨told, hreads, hevents⟩ := change.reads
  exact hreads.minded hevents h

theorem Changes.minded {r r' : Run} {lost : List String} (changes : Changes r r' lost)
    (h : Minded r) : Minded r' :=
  changes.induction (motive := fun q _ => Minded q) [] h fun _ _ _ _ hq change => change.minded hq

theorem Minded.stoppedBy {r : Run} (h : Minded r) (limit : TimeLimit) :
    Minded (r.stoppedBy limit) := h.congr rfl rfl rfl

theorem Minded.performAll {r : Run} (h : Minded r) (placed : Placed r) (acts : List Act) :
    Minded (r.performAll acts) :=
  (performAll_induction (motive := fun q => Placed q ∧ Minded q) acts ⟨placed, h⟩
    fun _ a hq => ⟨hq.1.perform a,
      perform_induction (motive := fun q _ => Minded q) [] a hq.1.flies_once hq.2
        (fun _ _ _ _ hp change => change.minded hp) fun limit _ _ => hq.2.stoppedBy limit⟩).2

/-- What was read of a run whose reader has closed the stream are its first events. -/
theorem Minded.seen_front {r : Run} (h : Minded r) (closed : r.isClosed = true) :
    r.sightings.map Sighting.event <+: r.events := by
  unfold isClosed at closed
  rw [Option.any_eq_true] at closed
  obtain ⟨reader, hreader, -⟩ := closed
  exact (h reader hreader).seen_front

/-- Reading leaves the run as it is, but for the reader, or closes the stream. -/
theorem read_unheard (r : Run) : r.read.unheard = r.unheard ∨ r.read.isClosed = true := by
  refine readUpTo_induction (motive := fun q => q.unheard = r.unheard ∨ q.isClosed = true) _
    (.inl rfl) ?_
  intro q reader e rest hreader hopen _ hq
  rcases hq with hq | hclosed
  · cases hlast : reader.left.map (· - 1) == some 0 with
    | true => exact .inr hlast
    | false =>
      have hkept : (q.cancelled || (reader.left.map (· - 1) == some 0 && !q.isOver)) =
          q.cancelled := by
        rw [hlast]
        exact Bool.or_false _
      have hread : (q.readFirst reader e rest).unheard =
          { q.unheard with
            cancelled := q.cancelled || (reader.left.map (· - 1) == some 0 && !q.isOver) } := rfl
      rw [hread, hkept]
      exact .inl hq
  · unfold isClosed at hclosed
    rw [hreader, Option.any_some, hopen] at hclosed
    cases hclosed

/-- Whoever is first in line does the same without listener and reader. -/
theorem takeTurn_unheard {r : Run} {t : Turn} {rest : List Turn} (ready : r.ready = t :: rest)
    (other : t ≠ .reader) : r.takeTurn.unheard = r.unheard.takeTurn := by
  have hready : r.unheard.ready = t :: others rest := by
    rw [← others_cons other, ← ready]
    rfl
  unfold takeTurn
  rw [ready, hready]
  cases t with
  | flight id => exact advance_unheard _ id
  | finish => exact finishClosing_unheard _
  | reader => exact absurd rfl other

theorem drainUpTo_follows (fuel : Nat) {r : Run} (minded : Minded r) :
    ∀ {more : Nat}, (drainUpTo fuel r).ready = [] → (drainUpTo more r.unheard).ready = [] →
      Follows (drainUpTo fuel r) (drainUpTo more r.unheard) := by
  have hquiet : ∀ q : Run, q.ready = [] → ∀ fuel more,
      Follows (drainUpTo fuel q) (drainUpTo more q.unheard) := by
    intro q hready fuel more
    have hready' : q.unheard.ready = [] := congrArg others hready
    rw [drainUpTo_of_quiet _ hready, drainUpTo_of_quiet _ hready']
    exact .inl rfl
  -- turn by turn; the turns of the reader are none of the other run
  induction fuel generalizing r with
  | zero => exact fun {more} hready _ => hquiet r hready 0 more
  | succ fuel ih =>
    intro more hdone hdone'
    cases hready : r.ready with
    | nil => exact hquiet r hready _ _
    | cons t rest =>
      have hbusy : r.ready ≠ [] := by rw [hready]; exact List.cons_ne_nil _ _
      have hminded := (takeTurn_changes r).minded minded
      rw [drainUpTo_succ fuel r hbusy] at hdone ⊢
      by_cases hreader : t = .reader
      · subst hreader
        have htakes : r.takeTurn = ({ r with ready := rest } : Run).read := by
          unfold takeTurn
          rw [hready]
          rfl
        have hsame : ({ r with ready := rest } : Run).unheard = r.unheard := by
          refine unheard_ready r ?_
          rw [← others_cons_reader, ← hready]
        have hread := read_unheard { r with ready := rest }
        rw [← htakes, hsame] at hread
        rcases hread with hread | hclosed
        · rw [← hread] at hdone' ⊢
          exact ih hminded hdone hdone'
        · have hevents : r.takeTurn.events = r.unheard.events := by
            rw [htakes]
            exact (read_stir { r with ready := rest }).quiet
          obtain ⟨_, hdrains⟩ := drainUpTo_changes fuel r.takeTurn
          obtain ⟨_, hdrains'⟩ := drainUpTo_changes more r.unheard
          exact .of_closed hclosed (hevents ▸ hminded.seen_front hclosed) hdrains.later
            hdrains'.later
      · have hturn := takeTurn_unheard hready hreader
        have hbusy' : r.unheard.ready ≠ [] := by
          show others r.ready ≠ []
          rw [hready, others_cons hreader]
          exact List.cons_ne_nil _ _
        cases more with
        | zero => exact absurd hdone' hbusy'
        | succ more =>
          rw [drainUpTo_succ more _ hbusy', ← hturn] at hdone' ⊢
          exact ih hminded hdone hdone'

/-- A run that goes on by itself does so without listener and reader. -/
theorem Alive.unheard {r : Run} (h : Alive r) : Alive r.unheard where
  placed := { h.placed with }
  wakeful :=
    { awake := fun f hf =>
        (h.wakeful.awake f hf).of_ready fun hturn => (mem_others Turn.noConfusion).2 hturn
      unended := h.wakeful.unended
      patient := h.wakeful.patient }
  busy := h.busy
  closing result hclosing := (mem_others Turn.noConfusion).2 (h.closing result hclosing)
  limited := h.limited

theorem drain_follows {r : Run} (alive : Alive r) (minded : Minded r) :
    Follows r.drain r.unheard.drain :=
  drainUpTo_follows _ minded alive.ready_drain alive.unheard.ready_drain

theorem settleUpTo_follows (fuel : Nat) {r : Run} (alive : Alive r) (minded : Minded r) :
    Follows (settleUpTo fuel r) (settleUpTo fuel r.unheard) := by
  induction fuel generalizing r with
  | zero => exact drain_follows alive minded
  | succ fuel ih =>
    rcases drain_follows alive minded with hsame | ⟨hclosed, hseen⟩
    · unfold settleUpTo
      dsimp only
      rw [← hsame, show r.drain.unheard.wantsDispatcher = r.drain.wantsDispatcher from rfl]
      split
      · next hwants =>
        have hrunning := running_of_wantsDispatcher hwants
        have hround := round_changes _ hrunning alive.drain.placed.flies_once
        obtain ⟨_, hdrains⟩ := drain_changes r
        rw [← round_unheard]
        exact ih (alive.drain.round hrunning) (hround.minded (hdrains.minded minded))
      · exact .inl rfl
    · obtain ⟨_, hchanges⟩ := alive.placed.settleUpTo_changes (fuel + 1)
      obtain ⟨_, hchanges'⟩ := alive.unheard.placed.settleUpTo_changes (fuel + 1)
      exact .of_closed hclosed hseen hchanges.later hchanges'.later

theorem settle_follows {r : Run} (alive : Alive r) (minded : Minded r) :
    Follows r.settle r.unheard.settle := settleUpTo_follows _ alive minded

theorem woken_unheard (r : Run) (time : Nat) : (r.woken time).unheard = r.unheard.woken time := by
  unfold woken
  rw [wakeEnd_unheard, wakeFlights_unheard]
  rfl

/-- A time limit is reached with or without a listener. -/
theorem expireIfDue_follows {r : Run} (alive : Alive r) (minded : Minded r)
    (idle : r.hasWork = false) : Follows r.expireIfDue r.unheard.expireIfDue := by
  unfold expireIfDue
  rw [show r.unheard.pendingDeadline? = r.pendingDeadline? from rfl,
    show r.unheard.plan = r.plan from rfl, show r.unheard.now = r.now from rfl]
  split
  · next deadline limit hpending hlimit =>
    split
    · next hdue =>
      have hexpire := perform_expire (limitReached?_eq hpending hlimit idle hdue)
      have halive : Alive (r.expire limit) := hexpire ▸ alive.perform .expire
      rw [← expire_unheard]
      exact settle_follows halive ((expire_changes alive.placed.flies_once limit).minded
        (minded.stoppedBy limit))
    · exact .inl rfl
  · exact .inl rfl

theorem tick_follows {r : Run} (alive : Alive r) (minded : Minded r) (time : Nat) :
    Follows (r.tick time) (r.unheard.tick time) := by
  have hwoken := alive.woken time
  have hminded := (r.woken_changes time).minded minded
  rw [tick_eq, tick_eq, ← woken_unheard]
  obtain ⟨_, hsettles⟩ := hwoken.settle_changes
  rcases settle_follows hwoken hminded with hsame | ⟨hclosed, hseen⟩
  · rw [← hsame]
    exact expireIfDue_follows hwoken.settle (hsettles.minded hminded) hwoken.hasWork_settle
  · obtain ⟨⟨acts, hacts, -⟩, -⟩ := hwoken.settle.expireIfDue_spec hwoken.hasWork_settle
    obtain ⟨⟨acts', hacts', -⟩, -⟩ :=
      hwoken.unheard.settle.expireIfDue_spec hwoken.unheard.hasWork_settle
    rw [hacts, hacts']
    exact .of_closed hclosed hseen (performAll_later hwoken.settle.placed acts)
      (performAll_later hwoken.unheard.settle.placed acts')

theorem ready_of_idle {r : Run} (idle : r.hasWork = false) : r.ready = [] := by
  unfold hasWork at idle
  rw [Bool.or_eq_false_iff] at idle
  simpa using idle.1

/-- When nothing is left to do at this reading, the next one does not depend on the reader. -/
theorem nextTime?_unheard {r : Run} (idle : r.hasWork = false) :
    r.unheard.nextTime? = r.nextTime? := by
  have hquiet := ready_of_idle idle
  have hwork : r.unheard.hasWork = r.hasWork := by
    unfold hasWork
    rw [show r.unheard.ready = others r.ready from rfl, hquiet]
    rfl
  unfold nextTime? times
  rw [hwork]
  rfl

theorem advanceUpTo_follows (limit : Option Nat) (fuel : Nat) {r : Run} (alive : Alive r)
    (minded : Minded r) (idle : r.hasWork = false) :
    Follows (advanceUpTo limit fuel r) (advanceUpTo limit fuel r.unheard) := by
  induction fuel generalizing r with
  | zero => exact .inl rfl
  | succ fuel ih =>
    unfold advanceUpTo
    rw [nextTime?_unheard idle]
    split
    · exact .inl rfl
    · next time _ =>
      split
      · have hticked := alive.tick time
        obtain ⟨⟨ticks, hticks, -⟩, hidle⟩ := alive.tick_spec time
        rcases tick_follows alive minded time with hsame | ⟨hclosed, hseen⟩
        · rw [← hsame]
          exact ih hticked (hticks ▸ minded.performAll alive.placed ticks) hidle
        · obtain ⟨acts, hacts, -⟩ := hticked.advanceUpTo_acts limit fuel
          obtain ⟨acts', hacts', -⟩ := (alive.unheard.tick time).advanceUpTo_acts limit fuel
          rw [hacts, hacts']
          exact .of_closed hclosed hseen (performAll_later hticked.placed acts)
            (performAll_later (alive.unheard.tick time).placed acts')
      · exact .inl rfl

/-! ## From the entry to the end -/

/-- Before a run is begun its reader has nothing to read. -/
theorem Heeded.prepare (wanted : Option Nat) (plan : Plan) (now : Nat) (environment : Environment)
    (cancelled : Bool) :
    Heeded wanted (prepare plan now environment (some { left := wanted }) cancelled) where
  heard :=
    ⟨{ left := wanted }, ⟨rfl, List.prefix_rfl, fun _ => rfl⟩, rfl, by cases wanted <;> rfl,
      by simp [Run.prepare], fun _ _ => Nat.zero_le _⟩
  attentive hawaits := by cases hawaits

/-- What is kept when a run goes on is kept when it comes to its entry. -/
theorem enter_induction {motive : Run → Prop} {plan : Plan} {now : Nat} {environment : Environment}
    {reader : Option Reader} {cancelled : Bool}
    (start : motive (prepare plan now environment reader cancelled))
    (step : ∀ q q' told, Reads q q' told → q'.events = q.events ++ told → motive q → motive q') :
    motive (enter plan now environment reader cancelled) := by
  have hfresh : ∀ q : Run, q.reader = reader → q.sightings = [] → q.ready = [] → q.events = [] →
      motive q := fun q hreader hsightings hready hevents =>
    step (Run.prepare plan now environment reader cancelled) q []
      (.of_same hreader hsightings (by rw [hready]; exact .rfl)) hevents start
  unfold enter
  dsimp only
  split
  · exact hfresh _ rfl rfl rfl rfl
  · next failure _ =>
    obtain ⟨_, _, _, _, _, _, hannounce, -⟩ :=
      announce_eq (Run.prepare plan now environment reader cancelled)
        ((Run.prepare plan now environment reader cancelled).unsuccessful .failed failure)
    exact step _ _ _ (announce_shows _ _).toReads (by rw [hannounce]) start
  · next inputs _ =>
    split
    · exact hfresh _ rfl rfl rfl rfl
    · refine (begin_changes plan now environment reader cancelled inputs).induction
        (motive := fun q _ => motive q) [] (hfresh _ rfl rfl rfl rfl) ?_
      intro q q' _ _ hq change
      obtain ⟨told, hreads, hevents⟩ := change.reads
      exact step q q' told hreads hevents hq

theorem Heeded.enter (wanted : Option Nat) (plan : Plan) (now : Nat) (environment : Environment)
    (cancelled : Bool) :
    Heeded wanted (enter plan now environment (some { left := wanted }) cancelled) :=
  enter_induction (.prepare wanted plan now environment cancelled)
    fun _ _ _ reads events h => reads.heeded events h

/-- A run that is called back is not read. -/
theorem reader_enter (plan : Plan) (now : Nat) (environment : Environment) (cancelled : Bool) :
    (enter plan now environment none cancelled).reader = none :=
  enter_induction (motive := fun q => q.reader = none) rfl
    fun _ _ _ reads _ h => reads.read.2 h

theorem reader_performAll {r : Run} (placed : Placed r) (called : r.reader = none)
    (acts : List Act) : (r.performAll acts).reader = none := by
  refine (performAll_induction (motive := fun q => Placed q ∧ q.reader = none) acts
    ⟨placed, called⟩ fun q a hq => ⟨hq.1.perform a, ?_⟩).2
  refine perform_induction (motive := fun q _ => q.reader = none) [] a hq.1.flies_once hq.2 ?_
    fun _ _ _ => hq.2
  intro p p' _ _ hp change
  obtain ⟨told, hreads, -⟩ := change.reads
  exact hreads.read.2 hp

theorem Alive.hasWork_advanceUpTo (limit : Option Nat) (fuel : Nat) {r : Run} (alive : Alive r)
    (idle : r.hasWork = false) : (advanceUpTo limit fuel r).hasWork = false := by
  induction fuel generalizing r with
  | zero => exact idle
  | succ fuel ih =>
    unfold advanceUpTo
    split
    · exact idle
    · next time _ =>
      split
      · exact ih (alive.tick time) (alive.tick_spec time).2
      · exact idle

/-- A run from its start to its end, beside the same run without a listener or a reader. -/
theorem finish_follows {r : Run} (alive : Alive r) (minded : Minded r) :
    Follows r.settle.finish r.unheard.settle.finish := by
  obtain ⟨_, hsettles⟩ := alive.settle_changes
  rcases settle_follows alive minded with hsame | ⟨hclosed, hseen⟩
  · rw [← hsame]
    exact advanceUpTo_follows none _ alive.settle (hsettles.minded minded) alive.hasWork_settle
  · obtain ⟨⟨acts, hacts, -⟩, -⟩ := alive.settle.finish_spec
    obtain ⟨⟨acts', hacts', -⟩, -⟩ := alive.unheard.settle.finish_spec
    rw [hacts, hacts']
    exact .of_closed hclosed hseen (performAll_later alive.settle.placed acts)
      (performAll_later alive.unheard.settle.placed acts')

/-! ## Readers that take their time -/

theorem Unhurried.others_ready {r : Run} (h : Unhurried r) : others r.ready = r.ready :=
  List.filter_eq_self.2 fun _ ht => by simpa using ne_of_mem_of_not_mem ht h.line

theorem Unhurried.perform {r : Run} (h : Unhurried r) (placed : Placed r) (a : Act) :
    Unhurried (r.perform a) := by
  refine perform_induction (motive := fun q _ => Unhurried q) [] a placed.flies_once h ?_
    fun _ _ _ => ⟨h.slow, h.line⟩
  intro q q' _ _ hq change
  obtain ⟨told, hreads, -⟩ := change.reads
  exact hreads.unhurried hq

theorem Unhurried.enter (plan : Plan) (now : Nat) (environment : Environment) (cancelled : Bool)
    {reader : Option Reader} (slow : reader.any Reader.prompt = false) :
    Unhurried (enter plan now environment reader cancelled) :=
  enter_induction (motive := Unhurried) ⟨slow, List.not_mem_nil⟩
    fun _ _ _ reads _ h => reads.unhurried h

/-- Two runs of which nobody reads in their turn, alike but for their listeners and readers, stay so
when the same happens to them, unless the stream of the one is closed. -/
theorem perform_unheard {r q : Run} (a : Act) (slow : Unhurried r) (slow' : Unhurried q)
    (called : q.reader = none) (same : r.unheard = q.unheard) :
    (r.perform a).isClosed = true ∨ (r.perform a).unheard = (q.perform a).unheard := by
  have hready : r.ready = q.ready := by
    rw [← slow.others_ready, ← slow'.others_ready]
    exact congrArg Run.ready same
  have hwork : r.wantsDispatcher = q.wantsDispatcher := by
    show r.unheard.wantsDispatcher = q.unheard.wantsDispatcher
    rw [same]
  cases a with
  | turn =>
    right
    show r.takeTurn.unheard = q.takeTurn.unheard
    cases hline : r.ready with
    | nil =>
      have hnone : ∀ p : Run, p.ready = [] → p.takeTurn = p := by
        intro p hp
        unfold takeTurn
        rw [hp]
      rw [hnone r hline, hnone q (hready ▸ hline), same]
    | cons t rest =>
      have hother : t ≠ .reader := by
        rintro rfl
        exact slow.line (hline ▸ List.mem_cons_self)
      rw [takeTurn_unheard hline hother, takeTurn_unheard (hready ▸ hline) hother, same]
  | round =>
    right
    have hheld : r.unheard.held = q.unheard.held := by rw [same]
    have hacts : r.dispatcherActs = q.dispatcherActs := by
      unfold dispatcherActs
      rw [hwork, hready, show r.held = q.held from hheld]
    show (if r.dispatcherActs then r.round else r).unheard =
      (if q.dispatcherActs then q.round else q).unheard
    rw [hacts]
    split
    · rw [round_unheard, round_unheard, same]
    · exact same
  | read =>
    right
    have hcalled : q.perform .read = q := by
      show q.readNext = q
      unfold readNext
      rw [called]
    rw [hcalled, ← same]
    show r.readNext.unheard = r.unheard
    obtain hread | ⟨reader, e, rest, -, -, -, -, hread⟩ := readNext_cases r
    · rw [hread]
    · rw [hread]
      rfl
  | hangUp =>
    have hcalled : q.perform .hangUp = q := by
      show q.hangUp = q
      unfold hangUp
      rw [called]
    obtain hhang | ⟨reader, -, -, -, hhang⟩ := hangUp_cases r
    · right
      rw [hcalled, ← same]
      exact congrArg unheard hhang
    · left
      show r.hangUp.isClosed = true
      rw [hhang]
      rfl
  | pass time =>
    exact .inr (congrArg (fun p : Run => { p with now := max p.now time }) same)
  | wake =>
    right
    show r.wakeFlights.wakeEnd.unheard = q.wakeFlights.wakeEnd.unheard
    rw [wakeEnd_unheard, wakeFlights_unheard, same, ← wakeFlights_unheard, ← wakeEnd_unheard]
  | expire =>
    right
    have hlimit : r.limitReached? = q.limitReached? := by
      have hbefore : r.unheard.pendingDeadline? = q.unheard.pendingDeadline? ∧
          r.unheard.plan = q.unheard.plan ∧ r.unheard.now = q.unheard.now ∧
          r.unheard.flights = q.unheard.flights ∧ r.unheard.held = q.unheard.held ∧
          r.unheard.heeded = q.unheard.heeded := by
        rw [same]
        exact ⟨rfl, rfl, rfl, rfl, rfl, rfl⟩
      obtain ⟨hdeadline, hplan, hnow, hflights, hheld, hheeded⟩ := hbefore
      unfold limitReached? mayExpire
      rw [hready, show r.pendingDeadline? = q.pendingDeadline? from hdeadline,
        show r.plan = q.plan from hplan, show r.now = q.now from hnow,
        show r.flights = q.flights from hflights, show r.held = q.held from hheld,
        show r.heeded = q.heeded from hheeded]
    cases hreached : q.limitReached? with
    | none => rwa [perform_expire_of_none hreached, perform_expire_of_none (hlimit ▸ hreached)]
    | some limit =>
      rw [perform_expire hreached, perform_expire (hlimit.trans hreached), expire_unheard,
        expire_unheard, same]
  | cancel =>
    right
    show r.cancel.unheard = q.cancel.unheard
    rw [cancel_eq, cancel_eq]
    exact congrArg (fun p : Run => { p with cancelled := p.cancelled || !p.isOver }) same
  | share environment =>
    right
    have hshare : ∀ p : Run, (p.share environment).unheard = p.unheard.share environment := by
      intro p
      unfold share
      rw [show p.unheard.phase = p.phase from rfl]
      split <;> rfl
    show (r.share environment).unheard = (q.share environment).unheard
    rw [hshare, hshare, same]

theorem performAll_unheard (acts : List Act) {r q : Run} (placed : Placed r) (placed' : Placed q)
    (slow : Unhurried r) (slow' : Unhurried q) (called : q.reader = none)
    (same : r.unheard = q.unheard) :
    (r.performAll acts).isClosed = true ∨
      (r.performAll acts).unheard = (q.performAll acts).unheard := by
  induction acts generalizing r q with
  | nil => exact .inr same
  | cons a acts ih =>
    have hplaced := placed.perform a
    rcases perform_unheard a slow slow' called same with hclosed | hsame
    · exact .inl ((performAll_later hplaced acts).deaf hclosed).1
    · exact ih hplaced (placed'.perform a) (slow.perform placed a) (slow'.perform placed' a)
        (reader_performAll placed' called [a]) hsame

/-- What is known in all of its history of a run whose reader takes its time. -/
structure Paced (r : Run) : Prop where
  alive : Alive r
  tracked : Tracked r
  unhurried : Unhurried r
  served : ∃ reader, Served r reader ∧ reader.prompt = false

theorem Paced.enter {plan : Plan} (formed : plan.pipeline.WellFormed) (now : Nat)
    (environment : Environment) (cancelled : Bool) :
    Paced (enter plan now environment (some { prompt := false }) cancelled) where
  alive := .enter formed now environment _ cancelled
  tracked := .enter formed now environment _ cancelled
  unhurried := .enter plan now environment cancelled rfl
  served :=
    enter_induction (motive := fun q => ∃ reader, Served q reader ∧ reader.prompt = false)
      ⟨_, ⟨rfl, List.prefix_rfl, fun _ => rfl⟩, rfl⟩
      fun _ _ _ reads events ⟨reader, h, hslow⟩ => by
        obtain ⟨reader', h', hsame⟩ := reads.served events reader h
        exact ⟨reader', h', hsame.trans hslow⟩

theorem Paced.perform {r : Run} (h : Paced r) (a : Act) : Paced (r.perform a) where
  alive := h.alive.perform a
  tracked := h.tracked.perform a
  unhurried := h.unhurried.perform h.alive.placed a
  served := by
    obtain ⟨reader, hserved, hslow⟩ := h.served
    refine perform_induction
      (motive := fun q _ => ∃ reader, Served q reader ∧ reader.prompt = false) [] a
      h.alive.placed.flies_once h.served ?_ fun _ _ _ => ⟨reader, hserved.congr rfl rfl rfl, hslow⟩
    intro q q' _ _ ⟨reader, hserved, hslow⟩ change
    obtain ⟨told, hreads, hevents⟩ := change.reads
    obtain ⟨reader', hserved', hsame⟩ := hreads.served hevents reader hserved
    exact ⟨reader', hserved', hsame.trans hslow⟩

theorem Paced.performAll {r : Run} (h : Paced r) (acts : List Act) : Paced (r.performAll acts) :=
  performAll_induction acts h fun _ a hq => hq.perform a

/-- Reading one event after the other gives the next events of the run, as many as there are. -/
theorem Paced.reads {r : Run} (h : Paced r) (opened : r.isClosed = false) (n : Nat) :
    (r.performAll (List.replicate n .read)).sightings.map Sighting.event =
      r.events.take (r.sightings.length + n) := by
  induction n generalizing r with
  | zero =>
    obtain ⟨reader, hserved, -⟩ := h.served
    rw [← List.length_map Sighting.event]
    exact List.prefix_iff_eq_take.1 hserved.seen_front
  | succ n ih =>
    obtain ⟨reader, hserved, hslow⟩ := h.served
    have hopen : reader.closed = false := hserved.isClosed_eq ▸ opened
    have hnext := h.perform .read
    rw [List.replicate_succ, performAll_cons]
    cases hunread : reader.unread with
    | nil =>
      -- all was read, and reading leaves the run as it is
      have hsame : r.perform .read = r := by
        show r.readNext = r
        unfold readNext
        rw [hserved.reads]
        dsimp only
        rw [hslow, hopen, hunread]
        rfl
      have hall : r.sightings.map Sighting.event = r.events := by
        have hgiven := hserved.all hopen
        unfold given at hgiven
        rwa [hserved.reads, Option.map_some, Option.getD_some, hunread, List.append_nil] at hgiven
      have hlength : r.events.length = r.sightings.length := by
        rw [← hall, List.length_map]
      rw [hsame, ih h opened, List.take_of_length_le (by omega), List.take_of_length_le (by omega)]
    | cons e rest =>
      have hread : r.perform .read =
          { r.sight e none with reader := some { reader with unread := rest } } := by
        show r.readNext = _
        unfold readNext
        rw [hserved.reads]
        dsimp only
        rw [hslow, hopen, hunread]
        rfl
      rw [hread] at hnext ⊢
      rw [ih hnext hopen]
      show r.events.take ((r.sightings ++ [_]).length + n) = _
      rw [List.length_append, List.length_singleton, Nat.add_right_comm, Nat.add_assoc]

/-! ## Runs that are over -/

/-- What is over stays so. -/
theorem Change.isOver {r r' : Run} {lost : List String} (change : Change r r' lost)
    (ended : r.isOver = true) : r'.isOver = true := by
  have hstopped : r.phase ≠ .running := fun hrunning => by
    rw [Run.isOver, hrunning] at ended
    cases ended
  cases change with
  | stirs stir => exact (isOver_bare stir.phase).trans ended
  | moves flies move =>
    cases move <;> rename_i shift <;> exact (isOver_congr shift.phase).trans ended
  | cuts called flies cut => exact (isOver_congr cut.keeps.phase).trans ended
  | heeds running asked => exact ended
  | collects running => exact absurd running hstopped
  | launches running may first => exact ended
  | concludes running idle stuck => exact absurd running hstopped
  | closes phase => rfl

theorem Tracked.idle_of_isOver {r : Run} (h : Tracked r) (ended : r.isOver = true) :
    r.flights = [] := by
  obtain ⟨lost, h⟩ := h
  refine h.idle fun hrunning => ?_
  rw [isOver, hrunning] at ended
  cases ended

/-- A run that is over tells no more. -/
theorem Tracked.events_of_isOver {r : Run} (h : Tracked r) (ended : r.isOver = true)
    (acts : List Act) : (r.performAll acts).events = r.events := by
  have hall := performAll_induction
    (motive := fun q => (Tracked q ∧ q.isOver = true) ∧ q.events = r.events) acts
    ⟨⟨h, ended⟩, rfl⟩ ?_
  · exact hall.2
  · intro q a ⟨⟨htracked, hover⟩, hevents⟩
    refine perform_induction
      (motive := fun p _ => (Tracked p ∧ p.isOver = true) ∧ p.events = r.events) [] a
      htracked.placed.flies_once ⟨⟨htracked, hover⟩, hevents⟩ ?_ ?_
    · intro p p' _ _ ⟨⟨htracked, hover⟩, hevents⟩ change
      refine ⟨⟨change.changes.tracked htracked, change.isOver hover⟩, Eq.trans ?_ hevents⟩
      have hidle := htracked.idle_of_isOver hover
      have hstopped : p.phase ≠ .running := fun hrunning => by
        rw [isOver, hrunning] at hover
        cases hover
      have hnone : ∀ f : Flight, p.flight? f.id ≠ some f := fun f hf => by
        have hmem := flight?_mem hf
        rw [hidle] at hmem
        cases hmem
      cases change with
      | stirs stir => exact stir.quiet
      | moves flies move => exact absurd flies (hnone _)
      | cuts called flies cut => exact absurd flies (hnone _)
      | heeds running asked => exact absurd running hstopped
      | collects running => exact absurd running hstopped
      | launches running may first => exact absurd running hstopped
      | concludes running idle stuck => exact absurd running hstopped
      | closes phase =>
        rw [isOver, phase] at hover
        cases hover
    · intro limit _ hreached
      exact absurd (htracked.idle_of_isOver hover) (busy_of_limitReached? hreached).1

end Conduit.Run
