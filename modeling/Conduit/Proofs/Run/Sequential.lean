import Conduit.Proofs.Run.Cancellation
import Conduit.Proofs.Run.Discipline
import Conduit.Proofs.Run.Precedence
import Conduit.Proofs.Run.State

/-!
# Runs with one step in flight at a time

Where the executor allows one step in flight, each step begins after the end of the one before it
was told, and if nobody gives up steps they begin in the order of the pipeline and none is left out.
The dispatcher passes over no step then: when nothing is in flight the first step that waits is
ready. A step that is put in flight and never begins is the last one, for it was interrupted, and
what interrupts steps stops the dispatcher. A step that is given up stops nothing, and what depends
on it is passed over.

* `Run.BeginsNone` — a run that goes on without any step that begins;
* `Run.Onset`, `Run.Sound.onset` — what a change does about steps that have not begun;
* `Run.InLine` — the invariant, with `Run.InLine.change`;
* `Run.OneByOne` — what the events tell of such a run;
* `Run.Disciplined`, `Run.disciplined_performAll` — the discipline of the dispatcher.
-/

namespace Conduit.Run

open RunEvent

/-! ## Steps that begin -/

/-- The ids of the steps that begin among some events, in order. -/
def startedIds (events : List RunEvent) : List String :=
  events.filterMap fun e =>
    match e with
    | .started s => some s.step.id
    | _ => none

theorem startedIds_append (events more : List RunEvent) :
    startedIds (events ++ more) = startedIds events ++ startedIds more := List.filterMap_append

theorem startedIds_eq_nil {events : List RunEvent} (h : ∀ s, .started s ∉ events) :
    startedIds events = [] := by
  refine List.filterMap_eq_nil_iff.2 fun e he => ?_
  cases e with
  | started s => exact absurd he (h s)
  | _ => rfl

/-- `r'` tells what `r` does and then no start of a step. -/
def BeginsNone (r r' : Run) : Prop :=
  ∃ told, r'.events = r.events ++ told ∧ ∀ s, .started s ∉ told

theorem BeginsNone.of_events {r r' : Run} (h : r'.events = r.events) : BeginsNone r r' :=
  ⟨[], by rw [h, List.append_nil], by simp⟩

theorem BeginsNone.trans {r q s : Run} (h : BeginsNone r q) (h' : BeginsNone q s) :
    BeginsNone r s := by
  obtain ⟨told, hevents, hnone⟩ := h
  obtain ⟨more, hmore, hnone'⟩ := h'
  refine ⟨told ++ more, by rw [hmore, hevents, List.append_assoc], fun t ht => ?_⟩
  exact (List.mem_append.1 ht).elim (hnone t) (hnone' t)

theorem BeginsNone.startedIds {r r' : Run} (h : BeginsNone r r') :
    startedIds r'.events = startedIds r.events := by
  obtain ⟨told, hevents, hnone⟩ := h
  rw [hevents, startedIds_append, startedIds_eq_nil hnone, List.append_nil]

theorem BeginsNone.atStarts {P : List RunEvent → PipelineStep → Prop} {r r' : Run}
    (h : BeginsNone r r') (starts : AtStarts P r.events) : AtStarts P r'.events := by
  obtain ⟨told, hevents, hnone⟩ := h
  rw [hevents]
  exact starts.append told hnone

theorem Alike.beginsNone {r r' : Run} (alike : Alike r r') : BeginsNone r r' := by
  rcases alike.events with hsame | ⟨result, hmore⟩
  · exact .of_events hsame
  · exact ⟨_, hmore, by simp⟩

theorem Shift.beginsNone {r r' : Run} {g : Flight} {told : List RunEvent} {outputs : Outputs}
    (shift : Shift r r' g told outputs) (no_start : ∀ s, .started s ∉ told) : BeginsNone r r' :=
  ⟨told, shift.events, no_start⟩

theorem Cut.beginsNone {r r' : Run} {f : Flight} (cut : Cut r r' f) : BeginsNone r r' := by
  cases cut with
  | past stage same => exact .of_events (by rw [same]; rfl)
  | drops stage shift => exact shift.beginsNone (by simp)
  | loses report givenUp stage shift => exact shift.beginsNone (by simp)
  | stops due stage shift => exact shift.beginsNone (by simp)

theorem interruptAll_beginsNone (ids : List String) (r : Run) :
    BeginsNone r (r.interruptAll ids) := by
  induction ids generalizing r with
  | nil => exact .of_events rfl
  | cons id ids ih =>
    refine BeginsNone.trans ?_ (ih (r.interrupt id))
    rcases interrupt_cases r id with ⟨-, hsame⟩ | ⟨f, -, hcut⟩
    · exact .of_events (by rw [hsame])
    · exact hcut.beginsNone

/-! ## Steps that have not begun -/

/-- A step is in flight that has not begun. -/
def Awaits (r : Run) (id : String) : Prop := ∃ f ∈ r.flights, f.stage = .queued ∧ f.id = id

/-- The dispatcher puts no more steps in flight. -/
def Barred (r : Run) : Prop := r.failure.isSome = true ∨ r.cancelled = true

/-- No step begins and none is put in flight; one that has not begun is dropped only if the
dispatcher is barred. -/
structure Idles (r r' : Run) : Prop where
  plan : r'.plan = r.plan
  waiting : r'.waitingIds = r.waitingIds
  begins : BeginsNone r r'
  awaits : ∀ id, r'.Awaits id → r.Awaits id
  keeps : ∀ id, r.Awaits id → r'.Awaits id ∨ Barred r'
  barred : Barred r → Barred r'

theorem Alike.idles {r r' : Run} (alike : Alike r r') : Idles r r' where
  plan := alike.plan
  waiting := alike.waitingIds
  begins := alike.beginsNone
  awaits := by
    rintro id ⟨f', hf, hstage, rfl⟩
    obtain ⟨f, hf, hitem, -, hsame⟩ := alike.mem_flights hf
    exact ⟨f, hf, hsame.symm.trans hstage, congrArg (fun s => s.step.id) hitem.symm⟩
  keeps := by
    rintro id ⟨f, hf, hstage, rfl⟩
    have hbare : f.bare ∈ r'.flights.map Flight.bare := alike.flights ▸ List.mem_map_of_mem hf
    obtain ⟨f', hf', hsame⟩ := List.mem_map.1 hbare
    have hid : f'.bare.id = f.bare.id := by rw [hsame]
    have hqueued : f'.bare.stage = f.bare.stage := by rw [hsame]
    exact .inl ⟨f', hf', hqueued.trans hstage, hid⟩
  barred := by
    unfold Barred
    rw [alike.failure]
    exact Or.imp_right alike.cancelled

/-- A step in flight changes, and it has begun before unless the dispatcher is barred. -/
theorem Shift.idles {r r' : Run} {f g : Flight} {told : List RunEvent} {outputs : Outputs}
    (shift : Shift r r' g told outputs) (flies : r.flight? f.id = some f) (same : g.id = f.id)
    (begun : g.stage ≠ .queued) (no_start : ∀ s, .started s ∉ told)
    (before : f.stage ≠ .queued ∨ Barred r) (placed : Placed r) : Idles r r' := by
  have hbarred : Barred r → Barred r' := by
    unfold Barred
    rw [shift.failure]
    exact Or.imp_right shift.cancelled
  refine ⟨shift.plan, shift.waitingIds, shift.beginsNone no_start, ?_, ?_, hbarred⟩
  · rintro id ⟨e, he, hstage, rfl⟩
    rcases shift.mem_flights he with rfl | ⟨he, -⟩
    · exact absurd hstage begun
    · exact ⟨e, he, hstage, rfl⟩
  · rintro id ⟨e, he, hstage, rfl⟩
    by_cases hid : e.id = g.id
    · have hsame : some e = some f := by
        rw [← placed.flight?_eq he, hid, same, flies]
      obtain rfl := Option.some.inj hsame
      exact .inr (hbarred (before.resolve_left (not_not_intro hstage)))
    · refine .inl ⟨e, ?_, hstage, rfl⟩
      rw [shift.flights]
      exact List.mem_map.2 ⟨e, he, if_neg hid⟩

theorem Cut.idles {r r' : Run} {f : Flight} (cut : Cut r r' f) (flies : r.flight? f.id = some f)
    (before : f.stage ≠ .queued ∨ Barred r) (placed : Placed r) : Idles r r' := by
  cases cut with
  | past stage same =>
    rw [same]
    exact ⟨rfl, rfl, .of_events rfl, fun _ => id, fun _ => .inl, id⟩
  | drops stage shift => exact shift.idles flies rfl (by simp) (by simp) before placed
  | loses report givenUp stage shift =>
    exact shift.idles flies rfl (by simp) (by simp) before placed
  | stops due stage shift => exact shift.idles flies rfl (by simp) (by simp) before placed

/-- What a change does about steps that have not begun. -/
inductive Onset (r r' : Run) : Prop
  /-- Nothing, unless the dispatcher is barred. -/
  | idles (idles : Idles r r')
  /-- One of them begins. -/
  | opens {f g : Flight} (shift : Shift r r' g [.started f.item] r.outputs) (flies : f ∈ r.flights)
      (stage : f.stage = .queued) (same : g.id = f.id) (begun : g.stage ≠ .queued)
  /-- Another one is put in flight. -/
  | launches {s : PipelineStep} (may : r.mayDispatch = true)
      (first : r.waiting.find? r.isReady = some s) (same : r' = r.launch s)

theorem Move.onset {r r' : Run} {f : Flight} (move : Move r r' f)
    (flies : r.flight? f.id = some f) (placed : Placed r) : Onset r r' := by
  cases move with
  | opens due stage shift => exact .opens shift (flight?_mem flies) stage rfl (by simp)
  | prepares due input connector stage built found timed shift =>
    exact .idles (shift.idles flies rfl (by simp) (by simp) (.inl (by simp [stage])) placed)
  | calls due input connector overdue stage shift =>
    exact .idles (shift.idles flies rfl (by simp) (by simp) (.inl (by simp [stage])) placed)
  | fails due failure why shift =>
    have hbegun : f.stage ≠ .queued := by
      intro hqueued
      have hunderway := why.isUnderway
      rw [hqueued] at hunderway
      cases hunderway
    exact .idles (shift.idles flies rfl (by simp) (by simp) (.inl hbegun) placed)
  | succeeds due call overdue output seen outputs stage answer copyable recorded shift =>
    exact .idles (shift.idles flies rfl (by simp) (by simp) (.inl (by simp [stage])) placed)
  | ends report stage shift =>
    exact .idles (shift.idles flies rfl (by simp) (by simp) (.inl (by simp [stage])) placed)

/-- What interrupts a step that has not begun halts the dispatcher. -/
theorem Judged.barred {r : Run} (h : Judged r) {f : Flight}
    (called : r.heeded = true ∨ r.expired.isSome = true ∨ GivesUp r f) :
    f.stage ≠ .queued ∨ Barred r := by
  rcases called with hheeded | hexpired | hgives
  · exact .inr (.inr (h.heeded hheeded))
  · right; left
    rw [h.failure]
    cases hcase : r.expired with
    | none =>
      rw [hcase] at hexpired
      cases hexpired
    | some failure => rfl
  · exact .inl hgives.stage_ne_queued

theorem Sound.onset {r r' : Run} {lost more : List String} (h : Sound r lost)
    (change : Change r r' more) : Onset r r' := by
  cases change with
  | stirs stir => exact .idles stir.toAlike.idles
  | moves flies move => exact move.onset flies h.placed
  | cuts called flies cut => exact .idles (cut.idles flies (h.judged.barred called) h.placed)
  | heeds running asked =>
    exact .idles ⟨rfl, rfl, .of_events rfl, fun _ => id, fun _ => .inl, id⟩
  | collects running =>
    rw [collect_eq]
    refine .idles ⟨rfl, rfl, .of_events rfl, ?_, ?_, ?_⟩
    · rintro id ⟨f, hf, hrest⟩
      exact ⟨f, List.mem_of_mem_filter hf, hrest⟩
    · rintro id ⟨f, hf, hstage, hid⟩
      exact .inl ⟨f, List.mem_filter.2 ⟨hf, by rw [hstage]; rfl⟩, hstage, hid⟩
    · refine Or.imp_left fun hfailure => ?_
      obtain ⟨failure, hfailure⟩ := Option.isSome_iff_exists.1 hfailure
      rw [hfailure]
      rfl
  | launches running may first => exact .launches may first rfl
  | concludes running idle stuck => exact .idles (conclude_alike r).idles
  | closes phase => exact .idles (close_alike r _).idles

/-! ## One step in flight at a time -/

/-- Before a step begins, the end of every step that has begun was told. -/
def OneByOne : List RunEvent → Prop :=
  AtStarts fun front _ => ∀ s, .started s ∈ front →
    ∃ status, front.filterMap (noticeOf s.step.id) = [.start, .stop status]

/-- Which steps are left to begin, where one step may be in flight. -/
inductive Line (r : Run) : Prop
  /-- Those that wait. -/
  | waits (none : ∀ id, ¬r.Awaits id)
      (line : startedIds r.events ++ r.waitingIds <+: r.plan.pipeline.stepIds)
  /-- One that is in flight, and then those that wait. -/
  | next {id : String} (awaits : r.Awaits id)
      (line : startedIds r.events ++ id :: r.waitingIds <+: r.plan.pipeline.stepIds)
  /-- None. -/
  | ends (barred : Barred r) (none : ∀ id, ¬r.Awaits id)
      (line : startedIds r.events <+: r.plan.pipeline.stepIds)

theorem Line.started {r : Run} (h : Line r) :
    startedIds r.events <+: r.plan.pipeline.stepIds := by
  cases h with
  | waits none line => exact (List.prefix_append _ _).trans line
  | next awaits line => exact (List.prefix_append _ _).trans line
  | ends barred none line => exact line

/-- A run with one step in flight at a time. -/
structure InLine (plan : Plan) (r : Run) : Prop where
  single : plan.executor.concurrency = 1
  within : Within plan r
  line : plan.Steadfast → Line r
  turns : OneByOne r.events

theorem InLine.flight_unique {plan : Plan} {r : Run} (h : InLine plan r) {f g : Flight}
    (hf : f ∈ r.flights) (hg : g ∈ r.flights) : f = g := by
  have hle := h.within.bound
  rw [h.single] at hle
  obtain ⟨i, hi, rfl⟩ := List.getElem_of_mem hf
  obtain ⟨j, hj, rfl⟩ := List.getElem_of_mem hg
  congr 1
  omega

theorem InLine.awaits_unique {plan : Plan} {r : Run} (h : InLine plan r) {id other : String}
    (hid : r.Awaits id) (hother : r.Awaits other) : id = other := by
  obtain ⟨f, hf, -, rfl⟩ := hid
  obtain ⟨g, hg, -, rfl⟩ := hother
  rw [h.flight_unique hf hg]

theorem InLine.idles {plan : Plan} {r r' : Run} (h : InLine plan r) (line : Line r)
    (idles : Idles r r') : Line r' := by
  have hnone : (∀ id, ¬r.Awaits id) → ∀ id, ¬r'.Awaits id := fun hnone id hid =>
    hnone id (idles.awaits id hid)
  cases line with
  | waits none line =>
    refine .waits (hnone none) ?_
    rw [idles.begins.startedIds, idles.waiting, idles.plan]
    exact line
  | @next id awaits line =>
    by_cases hstill : r'.Awaits id
    · refine .next hstill ?_
      rw [idles.begins.startedIds, idles.waiting, idles.plan]
      exact line
    · refine .ends ((idles.keeps id awaits).resolve_left hstill) (fun other hother => ?_) ?_
      · exact hstill (h.awaits_unique (idles.awaits other hother) awaits ▸ hother)
      · rw [idles.begins.startedIds, idles.plan]
        exact (List.prefix_append _ _).trans line
  | ends barred none line =>
    refine .ends (idles.barred barred) (hnone none) ?_
    rw [idles.begins.startedIds, idles.plan]
    exact line

/-- The step that begins is the one that is in line. -/
theorem InLine.opens {plan : Plan} {r r' : Run} {f g : Flight} (h : InLine plan r)
    (line : Line r) (shift : Shift r r' g [.started f.item] r.outputs) (flies : f ∈ r.flights)
    (stage : f.stage = .queued) (same : g.id = f.id) (begun : g.stage ≠ .queued) : Line r' := by
  have hawaits : r.Awaits f.id := ⟨f, flies, stage, rfl⟩
  cases line with
  | waits none line => exact absurd hawaits (none f.id)
  | ends barred none line => exact absurd hawaits (none f.id)
  | next awaits line =>
    obtain rfl := h.awaits_unique awaits hawaits
    refine .waits ?_ ?_
    · rintro id ⟨e, he, hstage, rfl⟩
      rcases shift.mem_flights he with rfl | ⟨he, hne⟩
      · exact begun hstage
      · rw [h.flight_unique he flies] at hne
        exact hne same.symm
    · rw [shift.events, startedIds_append, shift.waitingIds, shift.plan, List.append_assoc]
      exact line

/-- The step that is put in flight is the first that waits: nothing is in flight, so it is ready. -/
theorem InLine.launch {plan : Plan} {r : Run} {s : PipelineStep} {lost : List String}
    (h : InLine plan r) (steadfast : plan.Steadfast) (line : Line r) (sound : Sound r lost)
    (may : r.mayDispatch = true) (first : r.waiting.find? r.isReady = some s) :
    Line (r.launch s) := by
  obtain ⟨hfine, huncancelled, hidle⟩ := mayDispatch_iff.1 may
  rw [h.within.about, h.single, Nat.lt_one_iff, List.length_eq_zero_iff] at hidle
  cases line with
  | next awaits line =>
    obtain ⟨f, hf, -⟩ := awaits
    rw [hidle] at hf
    cases hf
  | ends barred none line =>
    rcases barred with hfailed | hcancelled
    · rw [hfine] at hfailed
      cases hfailed
    · rw [huncancelled] at hcancelled
      cases hcancelled
  | waits none line =>
    have hnext : (r.launch s).Awaits s.step.id :=
      ⟨_, List.mem_append_right _ List.mem_cons_self, rfl, rfl⟩
    refine .next hnext ?_
    cases hwaiting : r.waiting with
    | nil =>
      rw [hwaiting] at first
      cases first
    | cons t rest =>
      have hready := sound.unstuck (h.within.about ▸ steadfast) hidle hfine huncancelled t rest
        hwaiting
      rw [hwaiting, List.find?_cons_of_pos hready] at first
      obtain rfl := Option.some.inj first
      rw [waitingIds_eq_cons sound.placed.waits_once hwaiting] at line
      exact line

/-- A step that has begun and is not in flight was told to have ended. -/
theorem Booked.ended_of_hasBegun {r : Run} {lost : List String} (h : Booked r lost) {id : String}
    (begun : r.HasBegun id) (lands : id ∉ r.flightIds) :
    ∃ status, r.told id = [.start, .stop status] := by
  rw [hasBegun_iff] at begun
  have hunheard : r.told id ≠ [] := List.ne_nil_of_mem begun
  by_cases hlost : id ∈ lost
  · obtain ⟨status, output, htold, -⟩ := h.begun id hlost
    exact ⟨status, htold⟩
  · by_cases hreported : id ∈ r.reportIds
    · obtain ⟨x, hx, rfl⟩ := List.mem_map.1 hreported
      exact ⟨x.status, (h.reports x hx).1⟩
    · by_cases hwaits : id ∈ r.waitingIds
      · exact absurd (h.waiting id hwaits).1 hunheard
      · exact absurd (h.others id hwaits lands hreported hlost).1 hunheard

/-- A change keeps a run in line. -/
theorem InLine.change {plan : Plan} {r r' : Run} {lost more : List String} (h : InLine plan r)
    (sound : Sound r lost) (change : Change r r' more) : InLine plan r' := by
  have hwithin := h.within.change change
  cases sound.onset change with
  | idles idles =>
    exact ⟨h.single, hwithin, fun steadfast => h.idles (h.line steadfast) idles,
      idles.begins.atStarts h.turns⟩
  | @opens f g shift flies stage same begun =>
    refine ⟨h.single, hwithin,
      fun steadfast => h.opens (h.line steadfast) shift flies stage same begun, ?_⟩
    rw [shift.events]
    refine AtStarts.concat h.turns fun t _ s hs => ?_
    -- nothing was told of the step that begins, and any other that has begun is not in flight
    refine sound.booked.ended_of_hasBegun ⟨s, hs, rfl⟩ fun hflies => ?_
    obtain ⟨e, he, hid⟩ := List.mem_map.1 hflies
    have hbegun : r.HasBegun f.id := ⟨s, hs, hid ▸ congrArg Flight.id (h.flight_unique he flies)⟩
    rw [hasBegun_iff, ((sound.booked.flights f flies).of_queued stage).1] at hbegun
    cases hbegun
  | launches may first same =>
    rw [same] at hwithin ⊢
    exact ⟨h.single, hwithin,
      fun steadfast => h.launch steadfast (h.line steadfast) sound may first, h.turns⟩

/-- A time limit that stops a run keeps it in line. -/
theorem InLine.stoppedBy {plan : Plan} {r : Run} (h : InLine plan r) (limit : TimeLimit) :
    InLine plan (r.stoppedBy limit) where
  single := h.single
  within := { h.within with }
  line steadfast := by
    cases h.line steadfast with
    | waits none line => exact .waits none line
    | next awaits line => exact .next awaits line
    | ends barred none line => exact .ends (.inl rfl) none line
  turns := h.turns

/-- A run before anything is put in flight, or one that ends before it is begun, is in line. -/
theorem InLine.of_idle {plan : Plan} {r : Run} (about : r.plan = plan)
    (single : plan.executor.concurrency = 1) (idle : r.flights = [])
    (no_start : ∀ s, .started s ∉ r.events) (line : r.waitingIds <+: r.plan.pipeline.stepIds) :
    InLine plan r where
  single := single
  within := ⟨about, by rw [idle]; exact Nat.zero_le _⟩
  line _ := by
    refine .waits ?_ ?_
    · rintro id ⟨f, hf, -⟩
      rw [idle] at hf
      cases hf
    · rw [startedIds_eq_nil no_start]
      exact line
  turns := AtStarts.append AtStarts.nil r.events no_start

/-- In all of its history a run with one step in flight at a time is in line. -/
theorem Begins.inLine {plan : Plan} {r : Run} (begins : Begins plan r)
    (single : plan.executor.concurrency = 1) (acts : List Act) :
    InLine plan (r.performAll acts) := by
  refine begins.invariant (motive := fun q _ => InLine plan q) ?_ ?_ ?_ ?_ acts
  · intro now environment reader cancelled inputs
    exact .of_idle rfl single rfl (fun _ => List.not_mem_nil) List.prefix_rfl
  · intro q told hrests ends
    refine .of_idle hrests.plan single hrests.flights (fun s hs => ?_) ?_
    · rw [hrests.events] at hs
      cases ends _ hs
    · unfold waitingIds
      rw [hrests.waiting]
      exact List.nil_prefix
  · exact fun q q' gone more hsound h change => h.change hsound change
  · exact fun q gone limit _ _ h => h.stoppedBy limit

/-! ## Runs that are given up -/

/-- A step begins in a change only if one is in flight that has not begun. -/
theorem Change.beginsNone {r r' : Run} {lost : List String} (change : Change r r' lost)
    (placed : Placed r) (begun : ∀ f ∈ r.flights, f.stage ≠ .queued) : BeginsNone r r' := by
  cases change with
  | stirs stir => exact stir.toAlike.beginsNone
  | moves flies move =>
    cases move.onset flies placed with
    | idles idles => exact idles.begins
    | opens shift flies stage => exact absurd stage (begun _ flies)
    | launches may first same => exact .of_events (by rw [same]; rfl)
  | cuts called flies cut => exact cut.beginsNone
  | heeds running asked => exact .of_events rfl
  | collects running => exact .of_events (by rw [collect_eq])
  | launches running may first => exact .of_events rfl
  | concludes running idle stuck => exact (conclude_alike r).beginsNone
  | closes phase => exact .of_events rfl

/-- No step begins in a run that is sealed. -/
theorem Sealed.beginsNone {r : Run} (h : Sealed r) (acts : List Act) :
    BeginsNone r (r.performAll acts) := by
  have hall := performAll_induction (motive := fun q => Sealed q ∧ BeginsNone r q) acts
    ⟨h, .of_events rfl⟩ fun q a ⟨hsealed, hnone⟩ => ?_
  · exact hall.2
  · refine perform_induction (motive := fun p _ => Sealed p ∧ BeginsNone r p) [] a
      hsealed.placed.flies_once ⟨hsealed, hnone⟩ ?_ ?_
    · exact fun p p' _ _ ⟨hp, hnone⟩ change =>
        ⟨hp.change change, hnone.trans (change.beginsNone hp.placed hp.begun)⟩
    · intro limit _ hreached
      exact absurd (busy_of_limitReached? hreached).2.2.2.1 hsealed.ended

/-- No step begins when a run is given up. -/
theorem abandon_beginsNone {r : Run} (placed : Placed r) (order : InOrder r.events) :
    BeginsNone r r.abandon := by
  unfold Run.abandon
  split
  · exact .of_events rfl
  · have hinterrupted : BeginsNone r
        ((r.interruptAll (r.flights.map Flight.id)).close .abandoned) :=
      (interruptAll_beginsNone _ r).trans (.of_events rfl)
    obtain ⟨_, hdrain⟩ := drain_changes ((r.interruptAll (r.flights.map Flight.id)).close .abandoned)
    have hdrained := hdrain.induction
      (motive := fun q _ => Sealed q ∧ BeginsNone r q) []
      ⟨.interruptAll placed order, hinterrupted⟩
      fun p p' _ _ ⟨hp, hnone⟩ change =>
        ⟨hp.change change, hnone.trans (change.beginsNone hp.placed hp.begun)⟩
    exact hdrained.2
  · exact .of_events rfl

/-- Nothing is in flight in a run that has ended. -/
theorem Begins.idle_of_ended {plan : Plan} {r : Run} (begins : Begins plan r) (acts : List Act)
    (ended : (r.performAll acts).phase ≠ .running) : (r.performAll acts).flights = [] := by
  cases begins.entry with
  | begun inputs accepted timed sound about fresh =>
    cases (sound.performAll acts).standing with
    | runs phase quiet => exact absurd phase ended
    | ends result phase rest concluded complete told accords => exact rest
    | raises trouble time phase rest concluded complete quiet => exact rest
  | refused failure rejected rests reported => exact (rests.performAll acts).1.flights
  | raised fault faulty rests ended => exact (rests.performAll acts).1.flights

/-- When a run is given up no step begins and none is put in flight. -/
theorem Begins.abandon {plan : Plan} {r : Run} (begins : Begins plan r) (acts more : List Act) :
    BeginsNone (r.performAll acts) ((r.performAll acts).abandon.performAll more) ∧
      (r.performAll acts).abandon.launched more = [] := by
  have hplaced := (begins.alive.performAll acts).placed
  have horder := (begins.sequenced acts).order
  have hsealed := Sealed.abandon hplaced horder (begins.idle_of_ended acts)
  exact ⟨(abandon_beginsNone hplaced horder).trans (hsealed.beginsNone more),
    launched_eq_nil (fun front => (hsealed.performAll front).ended) more⟩

/-! ## The discipline -/

/-- Steps begin one after the other, in the order of the pipeline and with none left out if nobody
gives up steps. -/
structure Sequential (plan : Plan) (events : List RunEvent) : Prop where
  line : plan.Steadfast → startedIds events <+: plan.pipeline.stepIds
  turns : OneByOne events

/-- How the dispatcher works in a history of a run of a plan from its entry `r` on, in which the
steps `put` are put in flight. -/
structure Disciplined (plan : Plan) (r : Run) (put : List (Run × PipelineStep))
    (acts : List Act) : Prop where
  /-- Never are more steps in flight than the executor allows. -/
  within : (r.performAll acts).flights.length ≤ plan.executor.concurrency
  /-- No others are put in flight than these. -/
  all : idsOf put = r.flightIds ++ r.launched acts
  /-- What was not put in flight still waits, if the run can begin. -/
  rest : ∀ inputs, plan.CanBegin inputs →
    plan.pipeline.stepIds.Perm (idsOf put ++ (r.performAll acts).waitingIds)
  /-- Each of them is the first of those that were not and that depend only on what succeeded. -/
  chosen : InTurn plan [] put
  /-- If one step may be in flight they begin one by one, in order. -/
  sequential : plan.executor.concurrency = 1 → Sequential plan (r.performAll acts).events
  /-- If the run is given up no more steps are put in flight. -/
  abandoned : ∀ more,
    ((r.performAll acts).abandon.performAll more).flights.length ≤ plan.executor.concurrency ∧
      (r.performAll acts).abandon.launched more = [] ∧
      (plan.executor.concurrency = 1 →
        Sequential plan ((r.performAll acts).abandon.performAll more).events)

theorem InLine.sequential {plan : Plan} {r : Run} (h : InLine plan r) :
    Sequential plan r.events := by
  refine ⟨fun steadfast => ?_, h.turns⟩
  have hline := (h.line steadfast).started
  rw [h.within.about] at hline
  exact hline

theorem Sequential.of_beginsNone {plan : Plan} {r r' : Run} (h : Sequential plan r.events)
    (none_begins : BeginsNone r r') : Sequential plan r'.events := by
  refine ⟨fun steadfast => ?_, none_begins.atStarts h.turns⟩
  rw [none_begins.startedIds]
  exact h.line steadfast

/-- In all of its history a run is disciplined: no more steps are in flight than the executor
allows, and each step is put in flight in its turn. Where one step may be in flight, each step
begins after the end of the one before it was told, and if nobody gives up steps they begin in the
order of the pipeline and none is left out. -/
theorem disciplined_performAll {plan : Plan}
    (compiled : ∃ (d : Definition) (schema : Option Members), d.compile schema = .ok plan.pipeline)
    (now : Nat) (environment : Environment) (reader : Option Reader) (cancelled : Bool)
    (acts : List Act) :
    Disciplined plan (enter plan now environment reader cancelled)
      (allDispatched plan now environment reader cancelled acts) acts := by
  have hbegins : Begins plan (enter plan now environment reader cancelled) :=
    ⟨compiled, now, environment, reader, cancelled, rfl⟩
  obtain ⟨d, schema, hcompiled⟩ := compiled
  have hformed : plan.pipeline.WellFormed := .of_compile hcompiled
  obtain ⟨hchosen, hall⟩ := inTurn_allDispatched hformed now environment reader cancelled acts
  have hwithin := hbegins.within acts
  have hplaced := (hbegins.alive.performAll acts).placed
  have hsequential := fun single => (hbegins.inLine single acts).sequential
  refine
    { within := hwithin.bound, all := hall, rest := fun inputs can => ?_, chosen := hchosen,
      sequential := hsequential, abandoned := fun more => ?_ }
  · rw [hall]
    exact enter_perm hformed can now environment reader cancelled acts
  · obtain ⟨hnone, hlaunched⟩ := hbegins.abandon acts more
    refine ⟨?_, hlaunched, fun single => (hsequential single).of_beginsNone hnone⟩
    exact (hwithin.abandon.performAll hplaced.abandon more).bound

/-- A step begins, is called, answers after its time and ends, and the dispatcher acts. -/
def stepByStep (time : Nat) : List Act :=
  [.turn, .turn, .turn, .pass time, .wake, .turn, .turn, .round]

theorem disciplined_performAll_stepByStep :
    oneByOnePlan.executor.concurrency = 1 ∧
      startedIds (oneByOne.performAll (stepByStep 10 ++ stepByStep 20 ++ [.turn])).events =
        ["a", "b", "c"] ∧
      Disciplined oneByOnePlan oneByOne
        (allDispatched oneByOnePlan 0 {} none false (stepByStep 10 ++ stepByStep 20 ++ [.turn]))
        (stepByStep 10 ++ stepByStep 20 ++ [.turn]) := by
  refine ⟨rfl, by decide +kernel, ?_⟩
  exact disciplined_performAll oneByOne_begins.compiled 0 {} none false
    (stepByStep 10 ++ stepByStep 20 ++ [.turn])

/-- A workflow of a function of the caller, a step that reads what it gives, and another step. -/
def functionAndTwo : Definition where
  id := "w"
  name := "W"
  steps :=
    [{ id := "a", kind := .customCode, action := some "f" }, { id := "b", kind := .controlFlow },
     { id := "c", kind := .controlFlow }]
  mappings := [{ source := .step "a", sourcePath := "x", target := .step "b", targetPath := "x" }]

/-- The pipeline of that workflow, with one step in flight at a time and a function that gives
itself up. -/
def functionAndTwoPlan : Plan where
  executor :=
    { registry := .ofConnectors {} [quittingConnector, slowConnector .controlFlow false]
      concurrency_pos := Nat.one_pos }
  pipeline := ((functionAndTwo.compile none).toOption).getD default
  context := {}
  id := "r"
  origin := default

/-- The run at its entry. -/
def functionAndTwoRun : Run := enter functionAndTwoPlan 0 {} none false

/-- The step `a` is given up, and `c` begins while `b` still waits for it. -/
theorem functionAndTwo_not_sequential :
    functionAndTwoPlan.executor.concurrency = 1 ∧
      functionAndTwoPlan.pipeline.stepIds = ["a", "b", "c"] ∧
      startedIds functionAndTwoRun.finish.events = ["a", "c"] ∧
      ¬startedIds functionAndTwoRun.finish.events <+: functionAndTwoPlan.pipeline.stepIds := by
  have hids : functionAndTwoPlan.pipeline.stepIds = ["a", "b", "c"] := by decide +kernel
  have hstarted : startedIds functionAndTwoRun.finish.events = ["a", "c"] := by decide +kernel
  refine ⟨rfl, hids, hstarted, ?_⟩
  rw [hids, hstarted]
  decide

/-- With two steps in flight the first that is ready is put in flight as soon as there is room. -/
example : idsOf (allDispatched sideBySidePlan 0 {} none false []) = ["a", "b"] ∧
    idsOf (allDispatched sideBySidePlan 0 {} none false thirdAtLast) = ["a", "b", "c"] := by
  decide +kernel

end Conduit.Run
