import Conduit.Engine.Basic
import Conduit.Proofs.Engine.Record
import Conduit.Proofs.Number.Numeral
import Mathlib.Logic.Relation

/-!
# Histories of engines

What can happen to an engine, one act at a time and in any order. Runs are asked for, go on, are
cancelled, given up and forgotten. Every act but a cleanup is a sequence of small changes: runs go
on and another one may be made, and when one ends too many finished runs are forgotten.

* `Engine.Act`, `Engine.undergoAll` — acts and histories;
* `Engine.Orderly`, `Engine.Orderly.undergoAll` — what always holds of the records;
* `Engine.Change`, `Engine.undergo_changes` — the changes that acts are made of;
* `Engine.Orderly.start` — a run that is made is on record;
* `Engine.Retains.change` — which finished runs are dropped.
-/

namespace Conduit

namespace Engine

open RunRecord (isKept Follows forgetFirst)

/-! ## Acts -/

/-- What can happen to an engine next. -/
inductive Act where
  /-- Someone asks for a run of a stored workflow. -/
  | request (request : Invocation) (reader : Option Reader) (cancelled : Bool)
  /-- A run goes on at a reading of the clock. -/
  | go (id : String) (time : Nat)
  /-- The clock goes on to a reading, and all runs go on until then. -/
  | pass (time : Nat)
  /-- All runs go on until one is over. -/
  | await (id : String)
  /-- Someone asks for a run to be cancelled. -/
  | cancel (id : String)
  /-- The caller of a run gives up waiting for it. -/
  | abandon (id : String)
  /-- All finished runs are forgotten. -/
  | cleanup
  /-- The stored workflows change. -/
  | edit (store : Store)

/-- What an act does. -/
def undergo (e : Engine) : Act → Engine
  | .request request reader cancelled => (e.start request reader cancelled).1
  | .go id time =>
    match e.record? id with
    | some r => e.tick r time
    | none => e
  | .pass time => e.advanceTo time
  | .await id => e.await id
  | .cancel id => (e.cancelRun id).1
  | .abandon id => (e.abandon id).1
  | .cleanup => e.cleanup.1
  | .edit store => { e with store := store }

/-- What acts do one after the other. -/
def undergoAll (e : Engine) (acts : List Act) : Engine := acts.foldl undergo e

/-! ## What always holds -/

/-- The ids of the first `n` runs of an engine. -/
def firstIds (n : Nat) : List String := (List.range n).map fun k => "run-" ++ toString (k + 1)

theorem firstIds_nodup (n : Nat) : (firstIds n).Nodup := by
  refine List.Nodup.map ?_ List.nodup_range
  intro k l heq
  exact Nat.succ.inj (numbered_inj.1 heq)

theorem firstIds_succ (e : Engine) :
    firstIds (e.records.length + 1) = firstIds e.records.length ++ [e.nextId] := by
  rw [firstIds, List.range_succ, List.map_append]
  rfl

/-- The records of an engine are filed: runs have ids of their own, their states show whether they
are over, and those in progress are known, have a token each, in order, and no time of their end. -/
structure Filed (e : Engine) : Prop where
  numbered : e.records.map RunRecord.id = firstIds e.records.length
  tended : ∀ r ∈ e.records, r.run.Tended
  known : ∀ r ∈ e.records, r.isActive = true → r.forgotten = false
  dated : ∀ r ∈ e.records, r.Dated
  tokens : e.tokens = (e.records.filter RunRecord.isActive).map RunRecord.id

/-- The records of an engine are in order: they are filed, and no more finished runs are kept than
the engine is to keep. -/
structure Orderly (e : Engine) : Prop extends Filed e where
  bounded : ∀ m, e.maxRuns = some m → e.records.countP isKept ≤ m.toNat

namespace Filed

variable {e : Engine}

theorem once (h : Filed e) : (e.records.map RunRecord.id).Nodup := by
  rw [h.numbered]
  exact firstIds_nodup _

theorem nextId_notMem (h : Filed e) : e.nextId ∉ e.records.map RunRecord.id := by
  have hnodup := firstIds_nodup (e.records.length + 1)
  rw [firstIds_succ] at hnodup
  rw [h.numbered]
  exact fun hmem => (List.nodup_append.1 hnodup).2.2 _ hmem _ List.mem_cons_self rfl

/-- A run has a token as long as it is in progress. -/
theorem mem_tokens_iff (h : Filed e) {r : RunRecord} (hr : r ∈ e.records) :
    r.id ∈ e.tokens ↔ r.isActive = true := by
  rw [h.tokens, List.mem_map]
  constructor
  · rintro ⟨q, hq, hid⟩
    obtain ⟨hq, hactive⟩ := List.mem_filter.1 hq
    rwa [← List.inj_on_of_nodup_map h.once hq hr hid]
  · exact fun hactive => ⟨r, List.mem_filter.2 ⟨hr, hactive⟩, rfl⟩

theorem hasToken_eq (h : Filed e) {r : RunRecord} (hr : r ∈ e.records) :
    e.hasToken r = r.isActive := by
  rw [hasToken, Bool.eq_iff_iff, decide_eq_true_iff, h.mem_tokens_iff hr]

theorem finishedRuns_eq (h : Filed e) : e.finishedRuns = e.records.filter isKept := by
  rw [finishedRuns, runs, List.filter_filter]
  exact List.filter_congr fun r hr => by rw [h.hasToken_eq hr]; rfl

theorem activeRuns_eq (h : Filed e) : e.activeRuns = e.records.filter RunRecord.isActive := by
  rw [activeRuns, runs, List.filter_filter]
  refine List.filter_congr fun r hr => ?_
  rw [h.hasToken_eq hr]
  cases hactive : r.isActive with
  | true => rw [h.known r hr hactive]; rfl
  | false => rfl

theorem length_finishedRuns (h : Filed e) :
    e.finishedRuns.length = e.records.countP isKept := by
  rw [h.finishedRuns_eq, List.countP_eq_length_filter]

/-- A record is found by the id of its run. -/
theorem record?_eq (h : Filed e) {r : RunRecord} (hr : r ∈ e.records) :
    e.record? r.id = some r := by
  cases hfind : e.record? r.id with
  | none => exact absurd (List.find?_eq_none.1 hfind r hr) (by simp)
  | some q =>
    have hid : q.id = r.id := by simpa using List.find?_some hfind
    rw [List.inj_on_of_nodup_map h.once (List.mem_of_find?_eq_some hfind) hr hid]

/-- Forgetting runs by their ids is forgetting the first finished ones. -/
theorem records_forget (h : Filed e) (n : Nat) :
    (e.forget ((e.finishedRuns.map RunRecord.id).take n)).records = forgetFirst n e.records := by
  rw [h.finishedRuns_eq]
  exact RunRecord.map_forget_eq e.records h.once n

end Filed

/-- How many finished runs are forgotten when too many are known. -/
def excess (e : Engine) : Nat :=
  match e.maxRuns with
  | none => 0
  | some m => (e.records.countP isKept - m).toNat

/-- An engine that has forgotten the first finished runs. -/
structure Forgets (n : Nat) (e e' : Engine) : Prop where
  records : e'.records = forgetFirst n e.records
  tokens : e'.tokens = e.tokens
  maxRuns : e'.maxRuns = e.maxRuns

/-- Too many finished runs are forgotten, the earliest first. -/
theorem Filed.evict {e : Engine} (h : Filed e) : Forgets e.excess e e.evict := by
  unfold Engine.evict excess
  cases hmax : e.maxRuns with
  | none => exact ⟨(RunRecord.forgetFirst_zero _).symm, rfl, rfl⟩
  | some m =>
    refine ⟨?_, rfl, rfl⟩
    dsimp only
    rw [List.length_map, h.length_finishedRuns]
    exact h.records_forget _

/-- A cleanup forgets the finished runs and no other. -/
theorem Filed.cleanup {e : Engine} (h : Filed e) :
    Forgets (e.records.countP isKept) e e.cleanup.1 := by
  refine ⟨?_, rfl, rfl⟩
  rw [← h.records_forget, ← h.length_finishedRuns,
    List.take_of_length_le (Nat.le_of_eq (List.length_map _))]
  rfl

/-- Forgetting the first finished runs leaves the records filed. -/
theorem Filed.forgets {e e' : Engine} {n : Nat} (h : Filed e) (forgets : Forgets n e e') :
    Filed e' where
  numbered := by
    have hids : e'.records.map RunRecord.id = e.records.map RunRecord.id := by
      rw [forgets.records, RunRecord.map_id_forgetFirst]
    have hlength : e'.records.length = e.records.length := by
      simpa using congrArg List.length hids
    rw [hids, hlength, h.numbered]
  tended := by
    rw [forgets.records]
    intro r' hr'
    rcases RunRecord.mem_forgetFirst hr' with hr | ⟨r, hr, -, rfl⟩
    · exact h.tended r' hr
    · exact h.tended r hr
  known := by
    rw [forgets.records]
    intro r' hr' hactive
    rcases RunRecord.mem_forgetFirst hr' with hr | ⟨r, hr, hkept, rfl⟩
    · exact h.known r' hr hactive
    · -- only a run that is over is forgotten
      have hover : r.isActive = true := hactive
      rw [isKept, hover] at hkept
      cases hkept
  dated := by
    rw [forgets.records]
    intro r' hr'
    rcases RunRecord.mem_forgetFirst hr' with hr | ⟨r, hr, -, rfl⟩
    · exact h.dated r' hr
    · exact h.dated r hr
  tokens := by
    rw [forgets.tokens, forgets.records, RunRecord.filter_active_forgetFirst]
    exact h.tokens

theorem Orderly.forgets {e e' : Engine} {n : Nat} (h : Filed e) (forgets : Forgets n e e')
    (bounded : ∀ m, e.maxRuns = some m → e.records.countP isKept - n ≤ m.toNat) : Orderly e' where
  toFiled := h.forgets forgets
  bounded m hm := by
    rw [forgets.records, RunRecord.countP_forgetFirst]
    exact bounded m (forgets.maxRuns ▸ hm)

/-! ## Changes -/

/-- The runs of an engine go on, and another may be made. -/
structure Moves (e e' : Engine) : Prop where
  maxRuns : e'.maxRuns = e.maxRuns
  records : ∃ on more, e'.records = e.records.map on ++ more ∧
    (∀ r ∈ e.records, Follows r (on r)) ∧
    (more = [] ∨ ∃ r : RunRecord, more = [r] ∧ r.run.Tended ∧ r.forgotten = false ∧ r.Dated ∧
      r.id = e.nextId)
  tokens : e'.tokens = (e'.records.filter RunRecord.isActive).map RunRecord.id

/-- One of the changes that acts are made of, but for a cleanup: either no run ends, or too many
finished ones are forgotten. -/
inductive Change (e : Engine) : Engine → Prop
  | stays {e' : Engine} (moves : Moves e e')
      (same : e'.records.countP isKept = e.records.countP isKept) : Change e e'
  | ends {e' : Engine} (moves : Moves e e') : Change e e'.evict

/-- Changes one after the other. -/
abbrev Changes : Engine → Engine → Prop := Relation.ReflTransGen Change

/-- When runs go on, the records stay filed, but more finished runs may be known. -/
theorem Moves.filed {e e' : Engine} (moves : Moves e e') (h : Filed e) : Filed e' := by
  obtain ⟨on, more, hrecords, hfollows, hmore⟩ := moves.records
  have hids : (e.records.map on).map RunRecord.id = e.records.map RunRecord.id := by
    rw [List.map_map]
    exact List.map_congr_left fun r hr => (hfollows r hr).id
  have hold : ∀ r' ∈ e.records.map on,
      r'.run.Tended ∧ (r'.isActive = true → r'.forgotten = false) ∧ r'.Dated := by
    intro r' hr'
    obtain ⟨r, hr, rfl⟩ := List.mem_map.1 hr'
    refine ⟨(hfollows r hr).tended (h.tended r hr), fun hactive => ?_,
      (hfollows r hr).dated (h.dated r hr)⟩
    rw [(hfollows r hr).forgotten]
    refine h.known r hr ?_
    -- a run that is over does not go on
    by_contra hover
    rw [((hfollows r hr).lasts (h.tended r hr) (by simpa using hover)).2.2] at hactive
    cases hactive
  have hevery : ∀ r' ∈ e'.records,
      r'.run.Tended ∧ (r'.isActive = true → r'.forgotten = false) ∧ r'.Dated := by
    rw [hrecords]
    intro r' hr'
    rcases List.mem_append.1 hr' with hr' | hr'
    · exact hold r' hr'
    · rcases hmore with rfl | ⟨r, rfl, htended, hknown, hdated, -⟩
      · cases hr'
      · rw [List.mem_singleton.1 hr']
        exact ⟨htended, fun _ => hknown, hdated⟩
  refine ⟨?_, fun r hr => (hevery r hr).1, fun r hr => (hevery r hr).2.1,
    fun r hr => (hevery r hr).2.2, moves.tokens⟩
  rw [hrecords]
  rcases hmore with rfl | ⟨r, rfl, -, -, -, hid⟩
  · rw [List.append_nil, hids, h.numbered, List.length_map]
  · rw [List.map_append, hids, h.numbered, List.length_append, List.length_map,
      List.length_singleton, firstIds_succ, List.map_singleton, hid]

theorem Orderly.change {e e' : Engine} (h : Orderly e) (change : Change e e') : Orderly e' := by
  cases change with
  | stays moves same =>
    refine ⟨moves.filed h.toFiled, fun m hm => ?_⟩
    rw [same]
    exact h.bounded m (moves.maxRuns ▸ hm)
  | @ends q moves =>
    have hfiled := moves.filed h.toFiled
    refine .forgets hfiled hfiled.evict fun m hm => ?_
    rw [excess, hm]
    dsimp only
    omega

theorem Orderly.cleanup {e : Engine} (h : Orderly e) : Orderly e.cleanup.1 := by
  refine .forgets h.toFiled h.toFiled.cleanup fun m _ => ?_
  omega

/-- Later on the engine has a record of every run, and how a run ended stays. -/
structure Onward (e e' : Engine) : Prop where
  maxRuns : e'.maxRuns = e.maxRuns
  records : ∀ r ∈ e.records, ∃ r' ∈ e'.records, RunRecord.Onward r r'

theorem Onward.refl (e : Engine) : Onward e e :=
  ⟨rfl, fun r hr => ⟨r, hr, rfl, rfl, rfl, fun h => h, fun _ => ⟨rfl, rfl, rfl⟩⟩⟩

theorem Onward.trans {e q s : Engine} (h : Onward e q) (h' : Onward q s) : Onward e s := by
  refine ⟨h'.maxRuns.trans h.maxRuns, fun r hr => ?_⟩
  obtain ⟨r', hr', hon⟩ := h.records r hr
  obtain ⟨r'', hr'', hon'⟩ := h'.records r' hr'
  exact ⟨r'', hr'', hon.trans hon'⟩

theorem Forgets.onward {e e' : Engine} {n : Nat} (forgets : Forgets n e e') : Onward e e' := by
  refine ⟨forgets.maxRuns, fun r hr => ?_⟩
  obtain ⟨forgotten, hkept, hmem⟩ := RunRecord.exists_mem_forgetFirst hr n
  refine ⟨{ r with forgotten := forgotten }, forgets.records ▸ hmem, ?_⟩
  exact ⟨rfl, rfl, rfl, hkept, fun _ => ⟨rfl, rfl, rfl⟩⟩

theorem Moves.onward {e e' : Engine} (moves : Moves e e') (h : Orderly e) : Onward e e' := by
  obtain ⟨on, more, hrecords, hfollows, -⟩ := moves.records
  refine ⟨moves.maxRuns, fun r hr => ?_⟩
  refine ⟨on r, ?_, (hfollows r hr).onward (h.tended r hr)⟩
  rw [hrecords]
  exact List.mem_append_left _ (List.mem_map_of_mem hr)

theorem Change.onward {e e' : Engine} (change : Change e e') (h : Orderly e) : Onward e e' := by
  cases change with
  | stays moves same => exact moves.onward h
  | ends moves => exact (moves.onward h).trans (moves.filed h.toFiled).evict.onward

/-- The engine drops finished runs only while as many as it is to keep are known that were made
later. The runs `gone` are not asked about. -/
def Retains (e : Engine) (gone : List String) : Prop :=
  RunRecord.Retains e.maxRuns gone e.records

theorem Retains.change {e e' : Engine} {gone : List String} (h : Retains e gone)
    (orderly : Orderly e) (change : Change e e') : Retains e' gone := by
  -- whatever happens, runs go on first
  have hmoves : ∀ {q : Engine}, Moves e q → Retains q gone := by
    intro q moves
    obtain ⟨on, more, hrecords, hfollows, hmore⟩ := moves.records
    unfold Retains
    rw [moves.maxRuns, hrecords]
    refine RunRecord.Retains.moves h hfollows orderly.tended fun r hr => ?_
    rcases hmore with rfl | ⟨new, rfl, -, hknown, -, -⟩
    · cases hr
    · rw [List.mem_singleton.1 hr]
      exact hknown
  cases change with
  | stays moves same => exact hmoves moves
  | @ends q moves =>
    have hforgets := (moves.filed orderly.toFiled).evict
    have hretains := hmoves moves
    unfold Retains at hretains ⊢
    rw [hforgets.records, hforgets.maxRuns]
    unfold excess
    cases hm : q.maxRuns with
    | none =>
      rw [RunRecord.forgetFirst_zero, ← hm]
      exact hretains
    | some m =>
      rw [hm] at hretains
      refine hretains.forgetFirst ?_
      dsimp only
      omega

/-- What changes keep while the records are in order is kept by changes one after the other. -/
theorem Changes.induction {motive : Engine → Prop} {e e' : Engine} (changes : Changes e e')
    (orderly : Orderly e) (start : motive e)
    (step : ∀ q q', Orderly q → motive q → Change q q' → motive q') :
    Orderly e' ∧ motive e' := by
  induction changes with
  | refl => exact ⟨orderly, start⟩
  | tail _ last ih => exact ⟨ih.1.change last, step _ _ ih.1 ih.2 last⟩

/-! ## Acts as changes -/

/-- Runs go on, and none ends. -/
theorem Change.of_map {e e' : Engine} (filed : Filed e) (on : RunRecord → RunRecord)
    (maxRuns : e'.maxRuns = e.maxRuns) (records : e'.records = e.records.map on)
    (tokens : e'.tokens = e.tokens) (follows : ∀ r ∈ e.records, Follows r (on r))
    (same : ∀ r ∈ e.records, (on r).isActive = r.isActive) : Change e e' := by
  refine .stays ⟨maxRuns, ⟨on, [], by rw [records, List.append_nil], follows, .inl rfl⟩, ?_⟩ ?_
  · have hactive : e.records.filter (RunRecord.isActive ∘ on) =
        e.records.filter RunRecord.isActive := List.filter_congr same
    rw [tokens, filed.tokens, records, List.filter_map, List.map_map, hactive]
    exact (List.map_congr_left fun r hr => (follows r (List.mem_of_mem_filter hr)).id).symm
  · rw [records, List.countP_map]
    refine List.countP_congr fun r hr => ?_
    unfold RunRecord.isKept
    rw [Function.comp_apply, same r hr, (follows r hr).forgotten]

/-- Nothing happens to the runs. -/
theorem Change.of_same {e e' : Engine} (filed : Filed e) (maxRuns : e'.maxRuns = e.maxRuns)
    (records : e'.records = e.records) (tokens : e'.tokens = e.tokens) : Change e e' :=
  .of_map filed (fun r => r) maxRuns (by rw [records, List.map_id']) tokens (fun r _ => .refl r)
    fun _ _ => rfl

/-- Without the token of a run that ended those that are left are for the runs in progress. -/
theorem tokens_of_end {e : Engine} (filed : Filed e) {r : RunRecord} (hr : r ∈ e.records)
    (on : RunRecord → RunRecord) (ids : ∀ s ∈ e.records, (on s).id = s.id)
    (ended : (on r).isActive = false) (others : ∀ s ∈ e.records, s.id ≠ r.id → on s = s) :
    e.tokens.filter (· != r.id) = ((e.records.map on).filter RunRecord.isActive).map RunRecord.id := by
  have hactive : e.records.filter (RunRecord.isActive ∘ on) =
      e.records.filter fun s => s.id != r.id && s.isActive := by
    refine List.filter_congr fun s hs => ?_
    rw [Function.comp_apply]
    by_cases hid : s.id = r.id
    · rw [List.inj_on_of_nodup_map filed.once hs hr hid, ended]
      simp
    · rw [others s hs hid]
      simp [hid]
  rw [filed.tokens, List.filter_map, List.filter_filter, List.filter_map, List.map_map, hactive]
  exact (List.map_congr_left fun s hs => ids s (List.mem_of_mem_filter hs)).symm

/-- A run goes on, and if that ends it too many finished runs are forgotten. -/
theorem takeBack_change {e : Engine} (h : Orderly e) (q : Engine) (maxRuns : q.maxRuns = e.maxRuns)
    (records : q.records = e.records) (tokens : q.tokens = e.tokens) {r : RunRecord}
    (hr : r ∈ e.records) {run : Run} (goes : Run.Goes r.run run)
    (tended : r.run.Tended → run.Tended) : Change e (q.takeBack r run) := by
  have hsame : ∀ s ∈ e.records, s.id = r.id → s = r := fun s hs hid =>
    List.inj_on_of_nodup_map h.once hs hr hid
  have hrun : ({ r with run := run } : RunRecord).id = r.id := congrArg Plan.id goes.plan
  unfold takeBack
  dsimp only
  split
  · next hends =>
    rw [Bool.and_eq_true] at hends
    -- the record of the run that ended
    let on := fun s : RunRecord =>
      if s.id = r.id then { s with run := run, completedAt? := some q.now } else s
    have hfollows : ∀ s ∈ e.records, Follows s (on s) := by
      intro s hs
      by_cases hid : s.id = r.id
      · obtain rfl := hsame s hs hid
        simp only [on, if_pos]
        refine ⟨rfl, rfl, rfl, goes, tended, fun _ => ?_, fun hover => ?_⟩
        · simp [RunRecord.Dated, RunRecord.isActive, hends.2]
        · rw [hends.1] at hover
          cases hover
      · simp only [on, if_neg hid]
        exact .refl s
    have honce : (q.records.map fun s => if s.id = r.id then { s with run := run } else s).map
        (fun s => if s.id = r.id then { s with completedAt? := some q.now } else s) =
        e.records.map on := by
      rw [records, List.map_map]
      refine List.map_congr_left fun s hs => ?_
      by_cases hid : s.id = r.id
      · obtain rfl := hsame s hs hid
        simp only [Function.comp_apply, on, if_pos]
        exact if_pos hrun
      · simp only [Function.comp_apply, on, if_neg hid]
    refine .ends ⟨maxRuns, ⟨on, [], ?_, hfollows, .inl rfl⟩, ?_⟩
    · rw [List.append_nil]
      exact honce
    · change q.tokens.filter (· != r.id) = _
      rw [tokens]
      refine (tokens_of_end h.toFiled hr on (fun s hs => (hfollows s hs).id) ?_
        fun s _ hid => if_neg hid).trans ?_
      · simp [on, RunRecord.isActive, hends.2]
      · exact congrArg (fun l => (List.filter RunRecord.isActive l).map RunRecord.id) honce.symm
  · next hends =>
    have hactive : ∀ s ∈ e.records,
        (if s.id = r.id then { s with run := run } else s).isActive = s.isActive := by
      intro s hs
      by_cases hid : s.id = r.id
      · obtain rfl := hsame s hs hid
        rw [if_pos rfl]
        cases hactive : s.isActive with
        | true =>
          rw [hactive, Bool.true_and] at hends
          simpa [RunRecord.isActive] using hends
        | false =>
          have hover : s.run.isOver = true := by simpa [RunRecord.isActive] using hactive
          obtain ⟨hphase, -⟩ := goes.lasts (h.tended s hs).marked hover
          have hstays : ({ s with run := run } : RunRecord).isActive = s.isActive :=
            RunRecord.isActive_congr hphase
          exact hstays.trans hactive
      · rw [if_neg hid]
    refine .of_map h.toFiled _ maxRuns (by rw [update, records]) tokens (fun s hs => ?_) hactive
    have hkeeps := hactive s hs
    by_cases hid : s.id = r.id
    · obtain rfl := hsame s hs hid
      rw [if_pos rfl] at hkeeps ⊢
      refine ⟨rfl, rfl, rfl, goes, tended, fun hdated => ?_, fun _ => rfl⟩
      rw [RunRecord.Dated, hkeeps]
      exact hdated
    · rw [if_neg hid]
      exact .refl s

/-- The engine when its clock shows a reading. -/
def clockedTo (e : Engine) (time : Nat) : Engine := { e with now := max e.now time }

/-- A run as the engine lends it its clock and its environment. -/
def lent (e : Engine) (r : Run) (time : Nat) : Run := { e.lend r with now := max e.now time }

theorem tick_eq (e : Engine) (r : RunRecord) (time : Nat) :
    e.tick r time = (e.clockedTo time).takeBack r
      (if r.isLeaving then { r with run := e.lent r.run time : RunRecord }.leave.run
        else (e.lent r.run time).tick (max e.now time)) := by
  unfold tick
  dsimp only
  split <;> rfl

theorem lent_goes (e : Engine) (r : Run) (time : Nat) : Run.Goes r (e.lent r time) :=
  Run.Still.goes ⟨rfl, rfl, rfl, fun h => h⟩

theorem lent_tended (e : Engine) {r : Run} (h : r.Tended) (time : Nat) :
    (e.lent r time).Tended := by
  refine h.goes (e.lent_goes r time) { h.placed with } fun _ htracked => ?_
  obtain ⟨lost, hfaithful⟩ := htracked
  exact ⟨lost, { hfaithful with
    placed := { hfaithful.placed with }, booked := { hfaithful.booked with } }⟩

theorem tick_change {e : Engine} (h : Orderly e) {r : RunRecord} (hr : r ∈ e.records)
    (time : Nat) : Change e (e.tick r time) := by
  have hlent := e.lent_tended (h.tended r hr) time
  have hgoes := e.lent_goes r.run time
  rw [tick_eq]
  split
  · obtain ⟨hleaves, htended⟩ :=
      RunRecord.leave_goes (r := { r with run := e.lent r.run time }) hlent
    exact takeBack_change h (e.clockedTo time) rfl rfl rfl hr (hgoes.trans hleaves) fun _ => htended
  · have hticks := hgoes.trans (Run.tick_goes (e.lent r.run time) (max e.now time))
    exact takeBack_change h (e.clockedTo time) rfl rfl rfl hr hticks fun _ => hlent.tick _

/-- The run in which something happens first is on record. -/
theorem mem_of_next? {e : Engine} {r : RunRecord} {time : Nat} (h : e.next? = some (r, time)) :
    r ∈ e.records := by
  unfold next? at h
  refine List.foldlRecOn (motive := fun best => ∀ q t, best = some (q, t) → q ∈ e.records)
    e.records _ (by simp) (fun best hbest s hs q t hq => ?_) r time h
  split at hq
  · exact hbest q t hq
  · cases hq
    exact hs
  · split at hq
    · cases hq
      exact hs
    · exact hbest q t hq

theorem advanceWhile_changes (limit : Option Nat) (stop : Engine → Bool) (fuel : Nat)
    {e : Engine} (h : Orderly e) : Changes e (advanceWhile limit stop fuel e) := by
  induction fuel generalizing e with
  | zero => exact .refl
  | succ fuel ih =>
    unfold advanceWhile
    split
    · exact .refl
    · split
      · exact .refl
      · next r time hnext =>
        split
        · have hchange := tick_change h (mem_of_next? hnext) time
          exact .head hchange (ih (h.change hchange))
        · exact .refl

theorem Changes.orderly {e e' : Engine} (changes : Changes e e') (h : Orderly e) : Orderly e' :=
  (changes.induction (motive := fun _ => True) h trivial fun _ _ _ _ _ => trivial).1

theorem advanceTo_changes {e : Engine} (h : Orderly e) (time : Nat) :
    Changes e (e.advanceTo time) :=
  have hchanges := advanceWhile_changes (some time) (fun _ => false) e.ticksLeft h
  .tail hchanges (.of_same (hchanges.orderly h).toFiled rfl rfl rfl)

theorem flush_changes {e : Engine} (h : Orderly e) : Changes e e.flush :=
  have hchanges := advanceTo_changes h (e.now + 1)
  .tail hchanges (.of_same (hchanges.orderly h).toFiled rfl rfl rfl)

/-- A run that is put on record is one change more. -/
theorem enroll_change {e : Engine} (h : Orderly e) {p : Pipeline} (formed : p.WellFormed)
    (request : Invocation) (reader : Option Reader) (cancelled : Bool) :
    Change e (e.enroll p request reader cancelled) ∧
      ∃ r ∈ (e.enroll p request reader cancelled).records, r.id = e.nextId ∧
        r.workflow = request.workflow := by
  let plan : Plan :=
    { executor := e.executor, pipeline := p, context := request.context, id := e.nextId,
      origin := e.origin }
  let run := Run.start plan e.now e.environment reader cancelled
  let record : RunRecord := { workflow := request.workflow, createdAt := e.now, run := run }
  have htended : run.Tended := .start formed _ _ _ _
  have hid : record.id = e.nextId := congrArg Plan.id (Run.start_marked plan _ _ _ _).2
  have hnew : ∀ s ∈ e.records, s.id ≠ e.nextId := fun s hs heq =>
    h.nextId_notMem (heq ▸ List.mem_map_of_mem hs)
  have hmoves : ∀ {q : Engine} {r : RunRecord}, q.maxRuns = e.maxRuns →
      q.records = e.records ++ [r] → r.run = run → r.forgotten = false → r.Dated →
      q.tokens = (q.records.filter RunRecord.isActive).map RunRecord.id → Moves e q := by
    intro q r hmax hrecords hr hknown hdated htokens
    refine ⟨hmax, ⟨fun r => r, [r], by rw [hrecords, List.map_id'], fun r _ => .refl r,
      .inr ⟨r, rfl, hr ▸ htended, hknown, hdated, ?_⟩⟩, htokens⟩
    exact (congrArg (fun run => run.plan.id) hr).trans hid
  cases hover : run.isOver with
  | true =>
    -- it is over at once: its record is dated, and its token is gone again
    let ended : RunRecord := { record with completedAt? := some e.now }
    let q : Engine :=
      { e with environment := run.environment, records := e.records ++ [ended] }
    have henroll : e.enroll p request reader cancelled = q.evict := by
      have hrecords : (e.records ++ [record]).map (fun r =>
          if r.id = e.nextId then { r with completedAt? := some e.now } else r) =
          e.records ++ [ended] := by
        rw [List.map_append, List.map_singleton, if_pos hid]
        refine congrArg (· ++ [ended]) ((List.map_congr_left fun s hs => ?_).trans (List.map_id' _))
        exact if_neg (hnew s hs)
      have htokens : (e.tokens ++ [e.nextId]).filter (· != e.nextId) = e.tokens := by
        rw [List.filter_append, List.filter_eq_self.2 fun id hid => ?_]
        · simp
        · rw [h.tokens] at hid
          obtain ⟨s, hs, rfl⟩ := List.mem_map.1 hid
          simpa using hnew s (List.mem_of_mem_filter hs)
      change (if run.isOver then _ else _) = _
      rw [if_pos hover, conclude, update]
      exact congrArg evict (congrArg₂ (fun records tokens =>
        ({ e with environment := run.environment, records := records, tokens := tokens } : Engine))
        hrecords htokens)
    have hinactive : ended.isActive = false := by
      change (!run.isOver) = false
      rw [hover]
      rfl
    have hq : Moves e q := by
      refine hmoves (r := ended) rfl rfl rfl rfl ?_ ?_
      · simp [RunRecord.Dated, hinactive, ended]
      · change e.tokens = ((e.records ++ [ended]).filter RunRecord.isActive).map RunRecord.id
        rw [List.filter_append, List.filter_cons_of_neg (by simp [hinactive]), List.filter_nil,
          List.append_nil]
        exact h.tokens
    rw [henroll]
    refine ⟨.ends hq, ?_⟩
    -- it may be forgotten
    obtain ⟨forgotten, -, hkept⟩ := RunRecord.exists_mem_forgetFirst
      (r := ended) (List.mem_append_right e.records List.mem_cons_self) q.excess
    exact ⟨{ ended with forgotten := forgotten }, (hq.filed h.toFiled).evict.records ▸ hkept, hid,
      rfl⟩
  | false =>
    let q : Engine :=
      { e with
        environment := run.environment
        records := e.records ++ [record]
        tokens := e.tokens ++ [e.nextId] }
    have henroll : e.enroll p request reader cancelled = q := by
      change (if run.isOver then _ else q) = q
      rw [hover]
      rfl
    have hactive : record.isActive = true := by
      change (!run.isOver) = true
      rw [hover]
      rfl
    have hq : Moves e q := by
      refine hmoves (r := record) rfl rfl rfl rfl ?_ ?_
      · simp [RunRecord.Dated, hactive, record]
      · change e.tokens ++ [e.nextId] =
          ((e.records ++ [record]).filter RunRecord.isActive).map RunRecord.id
        rw [List.filter_append, List.filter_cons_of_pos hactive, List.filter_nil, List.map_append,
          List.map_singleton, hid, h.tokens]
    rw [henroll]
    refine ⟨.stays hq ?_, record, List.mem_append_right _ List.mem_cons_self, hid, rfl⟩
    change (e.records ++ [record]).countP isKept = _
    rw [List.countP_append, List.countP_cons_of_neg (by simp [isKept, hactive]), List.countP_nil,
      Nat.add_zero]

/-- A request whose workflow cannot be compiled leaves the engine as it is, and any other makes a
run. -/
theorem start_cases (e : Engine) (request : Invocation) (reader : Option Reader)
    (cancelled : Bool) :
    (∃ trouble, e.compileWorkflow request.workflow = .error trouble ∧
        e.start request reader cancelled = (e, .error trouble)) ∨
      ∃ p, e.compileWorkflow request.workflow = .ok p ∧ p.WellFormed ∧
        e.start request reader cancelled =
          (e.flush.enroll p request reader cancelled, .ok e.flush.nextId) := by
  unfold start
  cases hcompiled : e.compileWorkflow request.workflow with
  | error trouble => exact .inl ⟨trouble, rfl, rfl⟩
  | ok p =>
    refine .inr ⟨p, rfl, ?_, rfl⟩
    unfold compileWorkflow at hcompiled
    rw [except_bind_eq_ok] at hcompiled
    obtain ⟨d, -, hcompiled⟩ := hcompiled
    exact .of_compile hcompiled

theorem start_changes {e : Engine} (h : Orderly e) (request : Invocation)
    (reader : Option Reader) (cancelled : Bool) :
    Changes e (e.start request reader cancelled).1 := by
  rcases e.start_cases request reader cancelled with ⟨trouble, -, hfails⟩ | ⟨p, -, hformed, hstarts⟩
  · rw [hfails]
  · rw [hstarts]
    have hflush := flush_changes h
    exact .tail hflush (enroll_change (hflush.orderly h) hformed request reader cancelled).1

/-- A run that is made is on record. -/
theorem Orderly.start {e e' : Engine} (h : Orderly e) {request : Invocation}
    {reader : Option Reader} {cancelled : Bool} {id : String}
    (started : e.start request reader cancelled = (e', .ok id)) :
    Orderly e' ∧ ∃ r ∈ e'.records, r.id = id ∧ r.workflow = request.workflow := by
  have hchanges := start_changes h request reader cancelled
  rw [started] at hchanges
  refine ⟨hchanges.orderly h, ?_⟩
  rcases e.start_cases request reader cancelled with ⟨trouble, -, hfails⟩ | ⟨p, -, hformed, hstarts⟩
  · rw [hfails] at started
    cases started
  · rw [hstarts] at started
    cases started
    exact (enroll_change ((flush_changes h).orderly h) hformed request reader cancelled).2

/-- Every act but a cleanup consists of changes. -/
theorem undergo_changes {e : Engine} (h : Orderly e) {a : Act} (keeps : a ≠ .cleanup) :
    Changes e (e.undergo a) := by
  cases a with
  | request request reader cancelled => exact start_changes h request reader cancelled
  | go id time =>
    rw [undergo]
    split
    · next r hr => exact .single (tick_change h (List.mem_of_find?_eq_some hr) time)
    · exact .refl
  | pass time => exact advanceTo_changes h time
  | await id => exact advanceWhile_changes _ _ _ h
  | cancel id =>
    rw [undergo, cancelRun]
    split
    · have hsame : ∀ r : RunRecord, ({ r with run := r.run.cancel } : RunRecord).isActive =
          r.isActive := fun r =>
        congrArg (!·) (Run.isOver_bare (Run.cancel_still r.run).phase)
      refine .single (.of_map h.toFiled _ rfl rfl rfl (fun r _ => ?_) fun r _ => ?_)
      · split
        · refine ⟨rfl, rfl, rfl, (Run.cancel_still r.run).goes, fun tended => tended.cancel,
            fun hdated => ?_, fun _ => rfl⟩
          rw [RunRecord.Dated, hsame]
          exact hdated
        · exact .refl r
      · split
        · exact hsame r
        · rfl
    · exact .refl
  | abandon id =>
    rw [undergo, abandon]
    split
    · exact .refl
    · refine .single (.of_map h.toFiled _ rfl rfl rfl (fun r _ => ?_) fun r _ => ?_)
      · split
        · exact ⟨rfl, rfl, rfl, .refl _, fun tended => tended, fun hdated => hdated, fun _ => rfl⟩
        · exact .refl r
      · split <;> rfl
  | cleanup => exact absurd rfl keeps
  | edit store => exact .single (.of_same h.toFiled rfl rfl rfl)

/-! ## Histories -/

/-- An engine that has made no run yet. -/
structure IsNew (e : Engine) : Prop where
  records : e.records = []
  tokens : e.tokens = []

/-- An engine that has made no run is in order. -/
theorem IsNew.orderly {e : Engine} (new : IsNew e) : Orderly e where
  numbered := by rw [new.records]; rfl
  tended := by simp [new.records]
  known := by simp [new.records]
  dated := by simp [new.records]
  tokens := by rw [new.records, new.tokens]; rfl
  bounded := by simp [new.records]

theorem Orderly.undergo {e : Engine} (h : Orderly e) (a : Act) :
    Orderly (e.undergo a) ∧ Onward e (e.undergo a) := by
  by_cases hcleanup : a = .cleanup
  · subst hcleanup
    exact ⟨h.cleanup, h.toFiled.cleanup.onward⟩
  · exact (undergo_changes h hcleanup).induction h (.refl e) fun q q' hq hon change =>
      hon.trans (change.onward hq)

/-- The records are in order in all of a history, and every record stays. -/
theorem Orderly.undergoAll {e : Engine} (h : Orderly e) (acts : List Act) :
    Orderly (e.undergoAll acts) ∧ Onward e (e.undergoAll acts) := by
  induction acts generalizing e with
  | nil => exact ⟨h, .refl e⟩
  | cons a acts ih =>
    obtain ⟨hnext, hon⟩ := h.undergo a
    obtain ⟨hlast, hrest⟩ := ih hnext
    exact ⟨hlast, hon.trans hrest⟩

/-- What changes keep while the records are in order is kept by a history without a cleanup. -/
theorem Orderly.undergoAll_induction {motive : Engine → Prop} {e : Engine} (h : Orderly e)
    (acts : List Act) (keeps : .cleanup ∉ acts) (start : motive e)
    (step : ∀ q q', Orderly q → motive q → Change q q' → motive q') :
    motive (e.undergoAll acts) := by
  induction acts generalizing e with
  | nil => exact start
  | cons a acts ih =>
    rw [List.mem_cons, not_or] at keeps
    obtain ⟨hnext, hmotive⟩ :=
      (undergo_changes h (Ne.symm keeps.1)).induction h start step
    exact ih hnext keeps.2 hmotive

end Engine

end Conduit
