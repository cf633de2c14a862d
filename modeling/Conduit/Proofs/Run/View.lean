import Conduit.Proofs.Run.Act

/-!
# What those who follow a run see

The record of a run shows its state and the steps in progress. It follows the events: whoever is
told of an event sees a record that takes the event into account already. A listener that is called
sees every event at once; a reader finds them in the order in which they were made, and those that
it has read and those that it has not are the first ones of the run.

* `RunEvent.after`, `Run.views` — what the record shows after events, and while they are told;
* `Run.Served`, `Run.Heard` — what a reader was given, and what a prompt one has read;
* `Run.Shows` — what is seen of a run that goes on, with `Run.emit_shows`, `Run.read_shows`,
  `Run.readNext_shows` and `Run.hangUp_shows`.
-/

namespace Conduit

/-- What the record of a run shows: its state, and the steps in progress. -/
abbrev View := RunState × List String

/-- What the record shows after an event. -/
def RunEvent.after (v : View) : RunEvent → View
  | started s => (.running, v.2 ++ [s.step.id])
  | completed s _ _ => (v.1, v.2.erase s.step.id)
  | stopped s _ _ _ => (v.1, v.2.erase s.step.id)
  | done _ => v

/-- An event with what the record showed when it was seen. -/
def Sighting.view (s : Sighting) : RunEvent × View := (s.event, s.state, s.current)

/-- A reader when an event was told: one that has not closed the stream is given the event. -/
def Reader.given (reader : Reader) (e : RunEvent) : Reader :=
  if reader.closed then reader else { reader with unread := reader.unread ++ [e] }

theorem Reader.given_keeps (reader : Reader) (e : RunEvent) :
    (reader.given e).prompt = reader.prompt ∧ (reader.given e).left = reader.left ∧
      (reader.given e).closed = reader.closed := by
  unfold Reader.given
  split <;> exact ⟨rfl, rfl, rfl⟩

namespace Run

/-- What the record shows. -/
def view (r : Run) : View := (r.state, r.current)

/-- Events with what the record shows when they are told. -/
def views (v : View) : List RunEvent → List (RunEvent × View)
  | [] => []
  | e :: es => (e, e.after v) :: views (e.after v) es

theorem views_append (v : View) (es fs : List RunEvent) :
    views v (es ++ fs) = views v es ++ views (es.foldl RunEvent.after v) fs := by
  induction es generalizing v with
  | nil => rfl
  | cons e es ih => exact congrArg _ (ih _)

/-! ## Readers -/

/-- The events that a listener or a reader was given, read or not. -/
def given (r : Run) : List RunEvent :=
  r.sightings.map Sighting.event ++ (r.reader.map Reader.unread).getD []

/-- Whether the reader has closed the stream. -/
def isClosed (r : Run) : Bool := r.reader.any Reader.closed

/-- Whether there is something that a prompt reader wants to read. -/
def awaits (r : Run) : Bool :=
  r.reader.any fun reader => reader.prompt && !reader.closed && !reader.unread.isEmpty

/-- A prompt reader is in line if there is something that it wants to read. -/
def Attentive (r : Run) : Prop := r.awaits = true → .reader ∈ r.ready

/-- Nobody reads when it is their turn: a run is not read, or its reader is not prompt and not in
line. -/
structure Unhurried (r : Run) : Prop where
  slow : r.reader.any Reader.prompt = false
  line : .reader ∉ r.ready

/-- What is known of the reader of a run: it was given the first events of the run, and all of them
unless it has closed the stream. -/
structure Served (r : Run) (reader : Reader) : Prop where
  reads : r.reader = some reader
  front : r.given <+: r.events
  all : reader.closed = false → r.given = r.events

/-- What is known besides of a prompt reader who reads `wanted` events, or all: it closes the stream
when it has read enough. -/
structure Heard (wanted : Option Nat) (r : Run) (reader : Reader) : Prop
    extends Served r reader where
  prompt : reader.prompt = true
  left : reader.left = wanted.map (· - r.sightings.length)
  closes : reader.closed = true ↔ 0 < r.sightings.length ∧ reader.left = some 0
  few : ∀ k, wanted = some k → r.sightings.length ≤ max k 1

/-- Two runs that look the same to those who follow them. -/
structure Resembles (q r : Run) : Prop where
  view : r.view = q.view
  reader : r.reader = q.reader
  sightings : r.sightings = q.sightings
  events : r.events = q.events

theorem Resembles.refl (r : Run) : Resembles r r := ⟨rfl, rfl, rfl, rfl⟩

theorem Served.congr {r q : Run} {reader : Reader} (h : Served r reader)
    (same : q.reader = r.reader) (sightings : q.sightings = r.sightings)
    (events : q.events = r.events) : Served q reader := by
  have hgiven : q.given = r.given := by
    unfold given
    rw [sightings, same]
  exact ⟨same.trans h.reads, by rw [hgiven, events]; exact h.front,
    by rw [hgiven, events]; exact h.all⟩

theorem Heard.congr {wanted : Option Nat} {r q : Run} {reader : Reader} (h : Heard wanted r reader)
    (same : q.reader = r.reader) (sightings : q.sightings = r.sightings)
    (events : q.events = r.events) : Heard wanted q reader :=
  ⟨h.toServed.congr same sightings events, h.prompt, by rw [sightings]; exact h.left,
    by rw [sightings]; exact h.closes, by rw [sightings]; exact h.few⟩

/-! ## What is seen of a run that goes on -/

/-- What the reader of a run reads that goes on, when `told` is made meanwhile. -/
structure Reads (r r' : Run) (told : List RunEvent) : Prop where
  /-- A run that is read is read all along. -/
  read : r'.reader = none ↔ r.reader = none
  /-- A reader is given what is made, and may read. -/
  served : r'.events = r.events ++ told → ∀ reader, Served r reader →
    ∃ reader', Served r' reader' ∧ reader'.prompt = reader.prompt
  /-- A prompt reader reads no more than it wants. -/
  heard : r'.events = r.events ++ told → ∀ wanted reader, Heard wanted r reader →
    ∃ reader', Heard wanted r' reader'
  /-- When the stream is closed the run is asked to be cancelled, if it is not over. -/
  asks : r'.isClosed = true → r.isClosed = true ∨ r'.cancelled = true ∨ r.isOver = true
  /-- A reader that has closed the stream sees no more. -/
  deaf : r.isClosed = true → r'.isClosed = true ∧ r'.sightings = r.sightings
  /-- A prompt reader that comes to have something to read gets in line, and stays there. -/
  attends : Attentive r → Attentive r'
  /-- Any other does not get in line. -/
  unhurried : Unhurried r → Unhurried r'

/-- What is seen of a run that goes on, when `told` is made meanwhile. -/
structure Shows (r r' : Run) (told : List RunEvent) : Prop extends Reads r r' told where
  /-- The record takes the events into account. -/
  view : r'.view = told.foldl RunEvent.after r.view
  /-- A listener sees each of them as it is told. -/
  called : r.reader = none →
    r'.sightings.map Sighting.view = r.sightings.map Sighting.view ++ views r.view told

/-- Nothing is read of a run whose listener and reader stay as they are. -/
theorem Reads.of_same {r r' : Run} (reader : r'.reader = r.reader)
    (sightings : r'.sightings = r.sightings) (line : .reader ∈ r'.ready ↔ .reader ∈ r.ready) :
    Reads r r' [] where
  read := by rw [reader]
  served hevents rd h := ⟨rd, h.congr reader sightings (hevents.trans (List.append_nil _)), rfl⟩
  heard hevents _ rd h := ⟨rd, h.congr reader sightings (hevents.trans (List.append_nil _))⟩
  asks hclosed := .inl (by unfold isClosed at hclosed ⊢; rwa [reader] at hclosed)
  deaf hclosed := ⟨by unfold isClosed at hclosed ⊢; rwa [reader], sightings⟩
  attends h hawaits := line.2 (h (by unfold awaits at hawaits ⊢; rwa [reader] at hawaits))
  unhurried h := ⟨reader ▸ h.slow, fun hin => h.line (line.1 hin)⟩

/-- Nothing is seen of a run whose record, listener and reader stay as they are. -/
theorem Shows.of_same {r r' : Run} (view : r'.view = r.view) (reader : r'.reader = r.reader)
    (sightings : r'.sightings = r.sightings) (line : .reader ∈ r'.ready ↔ .reader ∈ r.ready) :
    Shows r r' [] where
  toReads := .of_same reader sightings line
  view := view
  called _ := by rw [sightings]; exact (List.append_nil _).symm

/-- What is seen of a run is seen of one that looks the same. -/
theorem Shows.congr {q q' r r' : Run} {told : List RunEvent} (h : Shows q q' told)
    (before : Resembles q r) (phase : r.phase = q.phase) (after : Resembles q' r')
    (cancelled : q'.cancelled = true → r'.cancelled = true)
    (waited : .reader ∈ q.ready ↔ .reader ∈ r.ready)
    (waits : .reader ∈ r'.ready ↔ .reader ∈ q'.ready) : Shows r r' told where
  view := by rw [after.view, before.view, h.view]
  read := by rw [after.reader, before.reader, h.read]
  called hnone := by
    rw [after.sightings, before.view, before.sightings]
    exact h.called (before.reader ▸ hnone)
  served hevents reader hr := by
    rw [after.events, before.events] at hevents
    obtain ⟨reader', hr', hprompt⟩ := h.served hevents reader
      (hr.congr before.reader.symm before.sightings.symm before.events.symm)
    exact ⟨reader', hr'.congr after.reader after.sightings after.events, hprompt⟩
  heard hevents wanted reader hr := by
    rw [after.events, before.events] at hevents
    obtain ⟨reader', hr'⟩ := h.heard hevents wanted reader
      (hr.congr before.reader.symm before.sightings.symm before.events.symm)
    exact ⟨reader', hr'.congr after.reader after.sightings after.events⟩
  asks hclosed := by
    unfold isClosed isOver at *
    rw [after.reader] at hclosed
    rw [before.reader, phase]
    exact (h.asks hclosed).imp_right (Or.imp_left cancelled)
  deaf hclosed := by
    unfold isClosed at *
    rw [before.reader] at hclosed
    rw [after.reader, after.sightings, before.sightings]
    exact h.deaf hclosed
  attends hr hawaits := by
    refine waits.2 (h.attends (fun hq => waited.2 (hr ?_)) ?_)
    · unfold awaits at hq ⊢
      rwa [before.reader]
    · unfold awaits at hawaits ⊢
      rwa [after.reader] at hawaits
  unhurried hr := by
    have hq : Unhurried q := ⟨before.reader ▸ hr.slow, fun hin => hr.line (waited.1 hin)⟩
    have hq' := h.unhurried hq
    exact ⟨after.reader ▸ hq'.slow, fun hin => hq'.line (waits.1 hin)⟩

/-- An event that is noted in the record is taken into account, and nobody has seen it yet. -/
theorem track_view (r : Run) (e : RunEvent) :
    (r.track e).view = e.after r.view ∧ (r.track e).reader = r.reader ∧
      (r.track e).sightings = r.sightings ∧ (r.track e).events = r.events ∧
      (r.track e).ready = r.ready := by
  cases e <;> exact ⟨rfl, rfl, rfl, rfl, rfl⟩

theorem mem_ready_queue (r : Run) (t : Turn) : t ∈ (r.queue t).ready := by
  unfold queue
  split
  · assumption
  · exact List.mem_append_right _ List.mem_cons_self

theorem mem_ready_queue_of_ne {r : Run} {t u : Turn} (other : u ≠ t) :
    u ∈ (r.queue t).ready ↔ u ∈ r.ready := by
  unfold queue
  split
  · exact .rfl
  · simp [other]

theorem queue_view (r : Run) (t : Turn) :
    (r.queue t).view = r.view ∧ (r.queue t).reader = r.reader ∧
      (r.queue t).sightings = r.sightings ∧ (r.queue t).events = r.events := by
  unfold queue
  split <;> exact ⟨rfl, rfl, rfl, rfl⟩

/-- Handing over an event to a reader that has closed the stream, or giving it to one that has
not. -/
theorem deliver_reader {r : Run} {reader : Reader} (reads : r.reader = some reader) (e : RunEvent) :
    (r.deliver e).view = r.view ∧ (r.deliver e).sightings = r.sightings ∧
      (r.deliver e).events = r.events ∧
      (r.deliver e).reader = some (reader.given e) := by
  unfold deliver Reader.given
  rw [reads]
  dsimp only
  by_cases hclosed : reader.closed = true
  · rw [if_pos hclosed, if_pos hclosed]
    exact ⟨rfl, rfl, rfl, reads⟩
  · rw [if_neg hclosed, if_neg hclosed]
    split
    · obtain ⟨hview, hreader, hsightings, hevents⟩ := queue_view
        { r with reader := some { reader with unread := reader.unread ++ [e] } } .reader
      exact ⟨hview, hsightings, hevents, hreader⟩
    · exact ⟨rfl, rfl, rfl, rfl⟩

/-- A reader that has not closed the stream is given what is told, and any other nothing. -/
theorem Served.of_told {r r' : Run} {reader : Reader} {e : RunEvent} (h : Served r reader)
    (sightings : r'.sightings = r.sightings) (events : r'.events = r.events ++ [e])
    (given : r'.reader = some (reader.given e)) : Served r' (reader.given e) := by
  unfold Reader.given at given ⊢
  cases hclosed : reader.closed with
  | true =>
    rw [hclosed, if_pos rfl] at given
    rw [if_pos rfl]
    have hgiven : r'.given = r.given := by
      unfold Run.given
      rw [sightings, given, h.reads]
    refine ⟨given, ?_, ?_⟩
    · rw [hgiven, events]
      exact h.front.trans (List.prefix_append _ _)
    · rw [hclosed]
      simp
  | false =>
    rw [hclosed, if_neg Bool.false_ne_true] at given
    rw [if_neg Bool.false_ne_true]
    have hgiven : r'.given = r'.events := by
      rw [events, ← h.all hclosed]
      simp [Run.given, sightings, given, h.reads]
    refine ⟨given, ?_, fun _ => hgiven⟩
    exact ⟨[], by rw [List.append_nil, hgiven]⟩

/-- A prompt reader wants what it wanted when it is given an event. -/
theorem Heard.of_told {wanted : Option Nat} {r r' : Run} {reader : Reader} {e : RunEvent}
    (h : Heard wanted r reader) (sightings : r'.sightings = r.sightings)
    (events : r'.events = r.events ++ [e]) (given : r'.reader = some (reader.given e)) :
    Heard wanted r' (reader.given e) := by
  obtain ⟨hprompt, hleft, hclosed⟩ := reader.given_keeps e
  refine ⟨h.toServed.of_told sightings events given, hprompt.trans h.prompt, ?_, ?_, ?_⟩
  · rw [hleft, sightings]
    exact h.left
  · rw [hclosed, hleft, sightings]
    exact h.closes
  · rw [sightings]
    exact h.few

/-- An event that is noted in the record of a run that nobody reads is shown to its listener. -/
theorem sight_shows {r q : Run} {e : RunEvent} (unread : r.reader = none)
    (view : q.view = e.after r.view) (reader : q.reader = r.reader)
    (sightings : q.sightings = r.sightings) (line : q.ready = r.ready) :
    Shows r (q.deliver e) [e] := by
  have hunread := reader.trans unread
  have hdeliver : q.deliver e = q.sight e (q.plan.delivery.trouble? e) := by
    unfold deliver
    rw [hunread]
  rw [hdeliver]
  refine ⟨⟨iff_of_true hunread unread, fun _ reader h => ?_, fun _ wanted reader h => ?_,
    fun hclosed => ?_, fun hclosed => ?_, fun _ hawaits => ?_, fun h => ?_⟩, view, fun _ => ?_⟩
  · rw [h.reads] at unread
    cases unread
  · rw [h.reads] at unread
    cases unread
  · have hnone : q.isClosed = true := hclosed
    unfold isClosed at hnone
    rw [hunread] at hnone
    cases hnone
  · unfold isClosed at hclosed
    rw [unread] at hclosed
    cases hclosed
  · have hnone : q.awaits = true := hawaits
    unfold awaits at hnone
    rw [hunread] at hnone
    cases hnone
  · refine ⟨?_, ?_⟩
    · show q.reader.any Reader.prompt = false
      rw [hunread]
      rfl
    · show .reader ∉ q.ready
      rw [line]
      exact h.line
  · show (q.sightings ++ [_]).map Sighting.view = _
    rw [List.map_append, sightings]
    exact congrArg (fun v => r.sightings.map Sighting.view ++ [(e, v)]) view

/-- An event that is noted in the record of a run that is read is given to its reader. -/
theorem deliver_shows {r q : Run} {e : RunEvent} {reader : Reader} (reads : r.reader = some reader)
    (view : q.view = e.after r.view) (same : q.reader = r.reader)
    (sightings : q.sightings = r.sightings) (events : q.events = r.events ++ [e])
    (line : q.ready = r.ready) : Shows r (q.deliver e) [e] := by
  have hreads := same.trans reads
  obtain ⟨hview, hsightings, hevents, hreader⟩ := deliver_reader hreads e
  obtain ⟨hprompt, -, hclosing⟩ := reader.given_keeps e
  refine ⟨⟨?_, fun _ other h => ?_, fun _ wanted other h => ?_, fun hclosed => ?_,
    fun hclosed => ?_, fun _ hawaits => ?_, fun h => ?_⟩, hview.trans view, fun hnone => ?_⟩
  · rw [hreader, reads]
    simp
  · have heq : other = reader := Option.some.inj (h.reads.symm.trans reads)
    subst heq
    exact ⟨_, h.of_told (hsightings.trans sightings) (hevents.trans events) hreader, hprompt⟩
  · have heq : other = reader := Option.some.inj (h.reads.symm.trans reads)
    subst heq
    exact ⟨_, h.of_told (hsightings.trans sightings) (hevents.trans events) hreader⟩
  · left
    unfold isClosed at hclosed ⊢
    rw [hreader, Option.any_some, hclosing] at hclosed
    rwa [reads]
  · unfold isClosed at hclosed ⊢
    rw [reads, Option.any_some] at hclosed
    rw [hreader, Option.any_some, hclosing]
    exact ⟨hclosed, hsightings.trans sightings⟩
  · unfold awaits at hawaits
    rw [hreader, Option.any_some, hprompt, hclosing, Bool.and_eq_true, Bool.and_eq_true] at hawaits
    obtain ⟨⟨hquick, hopen⟩, -⟩ := hawaits
    unfold deliver
    rw [hreads]
    dsimp only
    rw [if_neg (by simpa using hopen), if_pos hquick]
    exact mem_ready_queue _ _
  · have hslow := h.slow
    rw [reads, Option.any_some] at hslow
    refine ⟨?_, ?_⟩
    · rw [hreader, Option.any_some, hprompt]
      exact hslow
    · unfold deliver
      rw [hreads]
      dsimp only
      rw [hslow]
      split
      · rw [line]
        exact h.line
      · show .reader ∉ q.ready
        rw [line]
        exact h.line
  · rw [reads] at hnone
    cases hnone

/-- An event that is made is given to the listener or the reader with the record that takes it into
account. -/
theorem emit_shows (r : Run) (e : RunEvent) : Shows r (r.emit e) [e] := by
  obtain ⟨hview, hreader, hsightings, hevents, hline⟩ :=
    track_view { r with events := r.events ++ [e] } e
  cases hr : r.reader with
  | none => exact sight_shows hr hview hreader hsightings hline
  | some reader => exact deliver_shows hr hview hreader hsightings hevents hline

/-! ## Reading -/

/-- The run when its reader has read the next event. -/
def readFirst (r : Run) (reader : Reader) (e : RunEvent) (rest : List RunEvent) : Run :=
  { r.sight e none with
    reader := some
      { reader with
        unread := rest, left := reader.left.map (· - 1),
        closed := reader.left.map (· - 1) == some 0 }
    cancelled := r.cancelled || (reader.left.map (· - 1) == some 0 && !r.isOver) }

/-- What is kept when an event is read is kept by reading. -/
theorem readUpTo_induction {motive : Run → Prop} (fuel : Nat) {r : Run} (start : motive r)
    (step : ∀ q reader e rest, q.reader = some reader → reader.closed = false →
      reader.unread = e :: rest → motive q → motive (q.readFirst reader e rest)) :
    motive (readUpTo fuel r) := by
  induction fuel generalizing r with
  | zero => exact start
  | succ fuel ih =>
    unfold readUpTo
    cases hreader : r.reader with
    | none => exact start
    | some reader =>
      dsimp only
      split
      · exact start
      · exact start
      · next e rest hclosed hunread =>
        exact ih (step r reader e rest hreader hclosed hunread start)

/-- What was given stays given when it is read. -/
theorem Served.of_read {r r' : Run} {reader reader' : Reader} {s : Sighting}
    {rest : List RunEvent} (h : Served r reader) (opened : reader.closed = false)
    (unread : reader.unread = s.event :: rest) (sightings : r'.sightings = r.sightings ++ [s])
    (events : r'.events = r.events) (reads : r'.reader = some reader')
    (left : reader'.unread = rest) : Served r' reader' := by
  have hgiven : r'.given = r.given := by
    unfold given
    rw [h.reads, reads, sightings, Option.map_some, Option.map_some, Option.getD_some,
      Option.getD_some, unread, left, List.map_append, List.append_assoc]
    rfl
  exact ⟨reads, by rw [hgiven, events]; exact h.front,
    fun _ => by rw [hgiven, events]; exact h.all opened⟩

theorem Served.readFirst {r : Run} {reader : Reader} {e : RunEvent} {rest : List RunEvent}
    (h : Served r reader) (opened : reader.closed = false) (unread : reader.unread = e :: rest) :
    ∃ reader', Served (r.readFirst reader e rest) reader' ∧ reader'.prompt = reader.prompt :=
  ⟨_, h.of_read (s := ⟨e, r.now, r.state, r.current, none⟩) opened unread rfl rfl rfl rfl, rfl⟩

theorem Heard.readFirst {wanted : Option Nat} {r : Run} {reader : Reader} {e : RunEvent}
    {rest : List RunEvent} (h : Heard wanted r reader) (opened : reader.closed = false)
    (unread : reader.unread = e :: rest) :
    ∃ reader', Heard wanted (r.readFirst reader e rest) reader' := by
  have hlength : (r.readFirst reader e rest).sightings.length = r.sightings.length + 1 :=
    List.length_append
  refine ⟨_, h.toServed.of_read (s := ⟨e, r.now, r.state, r.current, none⟩) opened unread rfl rfl
    rfl rfl, h.prompt, ?_, ?_, fun k hk => ?_⟩
  · rw [hlength]
    show reader.left.map (· - 1) = _
    rw [h.left, Option.map_map]
    rfl
  · rw [hlength]
    simp
  · -- a reader that has read something and has not closed wants more
    rw [hlength]
    have hopen : ¬(0 < r.sightings.length ∧ reader.left = some 0) := by
      rw [← h.closes, opened]
      exact Bool.false_ne_true
    have hfew := h.few k hk
    rw [h.left, hk, Option.map_some, Option.some_inj] at hopen
    omega

/-- Reading shows the reader what it was given, and may close the stream. -/
theorem read_shows (r : Run) : Shows r r.read [] := by
  have hread : Shows r r.read [] ∧ r.read.events = r.events ∧ r.read.phase = r.phase := by
    refine readUpTo_induction (motive := fun q => Shows r q [] ∧ q.events = r.events ∧
      q.phase = r.phase) _ ⟨.of_same rfl rfl rfl .rfl, rfl, rfl⟩ ?_
    rintro q reader e rest hreader hopen hunread ⟨hshows, hevents, hphase⟩
    have hread : r.reader ≠ none := by
      rw [Ne, ← hshows.read, hreader]
      simp
    refine ⟨⟨⟨iff_of_false (by simp [readFirst]) hread, fun _ other h => ?_,
      fun _ wanted other h => ?_, fun hclosed => ?_, fun hclosed => ?_, fun h hawaits => ?_,
      fun h => ?_⟩, hshows.view, fun hnone => absurd hnone hread⟩, hevents, hphase⟩
    · obtain ⟨reader', h', hprompt⟩ := hshows.served (by rw [hevents, List.append_nil]) other h
      have heq : reader' = reader := Option.some.inj (h'.reads.symm.trans hreader)
      subst heq
      obtain ⟨last, hlast, hsame⟩ := h'.readFirst hopen hunread
      exact ⟨last, hlast, hsame.trans hprompt⟩
    · obtain ⟨reader', h'⟩ := hshows.heard (by rw [hevents, List.append_nil]) wanted other h
      have heq : reader' = reader := Option.some.inj (h'.reads.symm.trans hreader)
      subst heq
      exact h'.readFirst hopen hunread
    · right
      cases hover : r.isOver with
      | true => exact .inr rfl
      | false =>
        left
        have hlast : (reader.left.map (· - 1) == some 0) = true := hclosed
        have hover : q.isOver = false := by
          unfold isOver at hover ⊢
          rw [hphase]
          exact hover
        show (q.cancelled || (reader.left.map (· - 1) == some 0 && !q.isOver)) = true
        rw [hlast, hover]
        exact Bool.or_true _
    · have hclosed := (hshows.deaf hclosed).1
      unfold isClosed at hclosed
      rw [hreader, Option.any_some, hopen] at hclosed
      cases hclosed
    · refine hshows.attends h ?_
      have hprompt : reader.prompt = true := by
        unfold awaits readFirst at hawaits
        rw [Option.any_some, Bool.and_eq_true, Bool.and_eq_true] at hawaits
        exact hawaits.1.1
      unfold awaits
      rw [hreader, Option.any_some, hprompt, hopen, hunread]
      rfl
    · have hslow := hshows.unhurried h
      exact ⟨by have := hslow.slow; rw [hreader] at this; exact this, hslow.line⟩
  exact hread.1

/-- A reader that is given its turn reads all that it wants to. -/
theorem awaits_read (r : Run) : r.read.awaits = false := by
  have hread : ∀ (fuel : Nat) (q : Run),
      (∀ reader, q.reader = some reader → reader.unread.length ≤ fuel) →
        (readUpTo fuel q).awaits = false := by
    intro fuel
    induction fuel with
    | zero =>
      intro q hfew
      unfold awaits readUpTo
      cases hreader : q.reader with
      | none => rfl
      | some reader =>
        have hnil := List.eq_nil_of_length_eq_zero (Nat.le_zero.1 (hfew reader hreader))
        rw [Option.any_some, hnil]
        exact Bool.and_false _
    | succ fuel ih =>
      intro q hfew
      unfold readUpTo
      cases hreader : q.reader with
      | none =>
        unfold awaits
        rw [hreader]
        rfl
      | some reader =>
        dsimp only
        split
        · next hclosed =>
          unfold awaits
          rw [hreader, Option.any_some, hclosed, Bool.not_true, Bool.and_false, Bool.false_and]
        · next _ hnil =>
          unfold awaits
          rw [hreader, Option.any_some, hnil]
          exact Bool.and_false _
        · next e rest _ hunread =>
          refine ih _ fun other hother => ?_
          cases hother
          have hlength := hfew reader hreader
          rw [hunread] at hlength
          exact Nat.le_of_succ_le_succ hlength
  refine hread _ r fun reader hreader => ?_
  rw [hreader]
  exact Nat.le_refl _

/-! ## Readers that are not prompt -/

/-- A reader that is not prompt reads the next event, if there is one and it has not closed the
stream. -/
theorem readNext_cases (r : Run) :
    r.readNext = r ∨ ∃ reader e rest, r.reader = some reader ∧ reader.prompt = false ∧
      reader.closed = false ∧ reader.unread = e :: rest ∧
      r.readNext = { r.sight e none with reader := some { reader with unread := rest } } := by
  unfold readNext
  cases hreader : r.reader with
  | none => exact .inl rfl
  | some reader =>
    dsimp only
    split
    · next e rest hopen hunread =>
      rw [Bool.or_eq_false_iff] at hopen
      exact .inr ⟨reader, e, rest, rfl, hopen.1, hopen.2, hunread, rfl⟩
    · exact .inl rfl

/-- A reader that is not prompt closes the stream, if it has not. -/
theorem hangUp_cases (r : Run) :
    r.hangUp = r ∨ ∃ reader, r.reader = some reader ∧ reader.prompt = false ∧
      reader.closed = false ∧
      r.hangUp = { r.cancel with reader := some { reader with closed := true } } := by
  unfold hangUp
  cases hreader : r.reader with
  | none => exact .inl rfl
  | some reader =>
    dsimp only
    split
    · exact .inl rfl
    · next hopen =>
      rw [Bool.not_eq_true, Bool.or_eq_false_iff] at hopen
      exact .inr ⟨reader, rfl, hopen.1, hopen.2, rfl⟩

theorem cancel_eq (r : Run) : r.cancel = { r with cancelled := r.cancelled || !r.isOver } := by
  unfold cancel
  cases r.isOver with
  | true => rw [if_pos rfl, Bool.not_true, Bool.or_false]
  | false => rw [if_neg Bool.false_ne_true, Bool.not_false, Bool.or_true]

/-- The reader reads something that it was given. -/
theorem readNext_shows (r : Run) : Shows r r.readNext [] := by
  obtain hsame | ⟨reader, e, rest, hreader, hslow, hopen, hunread, hread⟩ := readNext_cases r
  · rw [hsame]
    exact .of_same rfl rfl rfl .rfl
  · rw [hread]
    have hclosed : r.isClosed = false := by
      unfold isClosed
      rw [hreader, Option.any_some, hopen]
    refine ⟨⟨by simp [hreader], fun _ other h => ?_, fun _ wanted other h => ?_, fun hclose => ?_,
      fun hclose => ?_, fun _ hawaits => ?_, fun h => ⟨hslow, h.line⟩⟩, rfl, fun hnone => ?_⟩
    · have heq : other = reader := Option.some.inj (h.reads.symm.trans hreader)
      subst heq
      exact ⟨_, h.of_read (s := ⟨e, r.now, r.state, r.current, none⟩) hopen hunread rfl rfl rfl rfl,
        rfl⟩
    · have heq : other = reader := Option.some.inj (h.reads.symm.trans hreader)
      subst heq
      have hprompt := h.prompt
      rw [hslow] at hprompt
      cases hprompt
    · have hclose : reader.closed = true := hclose
      rw [hopen] at hclose
      cases hclose
    · rw [hclosed] at hclose
      cases hclose
    · unfold awaits at hawaits
      rw [Option.any_some, hslow] at hawaits
      cases hawaits
    · rw [hreader] at hnone
      cases hnone

/-- The reader reads nothing more, and the run is asked to be cancelled if it is not over. -/
theorem hangUp_shows (r : Run) : Shows r r.hangUp [] := by
  obtain hsame | ⟨reader, hreader, hslow, hopen, hhang⟩ := hangUp_cases r
  · rw [hsame]
    exact .of_same rfl rfl rfl .rfl
  · rw [hhang, cancel_eq]
    refine ⟨⟨by simp [hreader], fun _ other h => ?_, fun _ wanted other h => ?_, fun _ => ?_,
      fun hclose => ?_, fun _ hawaits => ?_, fun h => ⟨hslow, h.line⟩⟩, rfl, fun hnone => ?_⟩
    · have heq : other = reader := Option.some.inj (h.reads.symm.trans hreader)
      subst heq
      have hfront := h.front
      unfold given at hfront
      rw [hreader] at hfront
      exact ⟨_, ⟨rfl, hfront, Bool.noConfusion⟩, rfl⟩
    · have heq : other = reader := Option.some.inj (h.reads.symm.trans hreader)
      subst heq
      have hprompt := h.prompt
      rw [hslow] at hprompt
      cases hprompt
    · right
      show (r.cancelled || !r.isOver) = true ∨ r.isOver = true
      cases r.isOver with
      | true => exact .inr rfl
      | false => exact .inl (Bool.or_true _)
    · unfold isClosed at hclose
      rw [hreader, Option.any_some, hopen] at hclose
      cases hclose
    · unfold awaits at hawaits
      rw [Option.any_some, hslow] at hawaits
      cases hawaits
    · rw [hreader] at hnone
      cases hnone

end Run

end Conduit
