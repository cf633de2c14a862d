import Conduit.Proofs.Store.Files
import Mathlib.Data.List.Induction

/-!
# The two stores agree

A store in memory and a store in files answer every history of requests alike. Only a document has
no infinities and NaN: what a store in files loads has null in their place.

* `Store.Request`, `Store.Answer` — what a store is asked for, and what it answers;
* `Store.Foretold` — the answer that the requests before it call for;
* `Store.answers_agree` — the answers of both stores.
-/

namespace Conduit.Store

/-- What a store is asked for. -/
inductive Request where
  /-- To store a workflow at a moment. -/
  | save (d : Definition) (now : Moment)
  /-- For the workflow of an id. -/
  | load (id : String)
  /-- To remove a workflow. -/
  | delete (id : String)
  /-- For short descriptions of the workflows. -/
  | list
  /-- To keep the listing of a workflow. -/
  | saveListing (id code : String)

/-- What a store answers. -/
inductive Answer where
  /-- The workflow as it was stored. -/
  | stored (d : Definition)
  /-- The workflow of an id. -/
  | loaded (d : Definition)
  /-- A workflow was removed. -/
  | deleted
  /-- Short descriptions of the workflows. -/
  | summaries (l : List Value)
  /-- Where a listing is kept. -/
  | kept (path : String)
  /-- A request failed. -/
  | failed (trouble : Trouble)

/-- There is no workflow of an id. -/
def Answer.notFound (id : String) : Answer := failed (.failure (Failure.workflowNotFound id))

/-- An answer without the place of a listing. -/
def Answer.withoutPlace : Answer → Answer
  | kept _ => kept ""
  | a => a

/-- An answer after a workflow that was loaded went through a document. -/
def Answer.reread : Answer → Answer
  | loaded d => loaded d.finite
  | a => a

/-- The answer that gives a result, or tells what went wrong. -/
def Answer.telling {α : Type} (answer : α → Answer) : Except Trouble α → Answer
  | .ok a => answer a
  | .error trouble => failed trouble

/-- The answer to a request, and the store after it. -/
def perform (s : Store) : Request → Store × Answer
  | .save d now => ((s.save d now).1, .telling .stored (s.save d now).2)
  | .load id => (s, .telling .loaded (s.load id))
  | .delete id => ((s.delete id).1, .telling (fun _ => .deleted) (s.delete id).2)
  | .list => (s, .telling (fun l => .summaries (l.map Definition.summary)) s.list)
  | .saveListing id code => ((s.saveListing id code).1, .telling .kept (s.saveListing id code).2)

/-- The answers to requests, one after the other. -/
def answers (s : Store) : List Request → List Answer
  | [] => []
  | r :: rest => (s.perform r).2 :: (s.perform r).1.answers rest

/-- What a store in files takes: ids that may be names of directories, workflows that a document can
hold, and readings of a clock. A version can still be read after it was raised by `count`. -/
def Request.Admissible (count : Nat) : Request → Prop
  | save d now => d.Storable ∧ now.IsReading ∧ Numeral.isShort (d.version.natAbs + count)
  | load id => FileTree.isSafeId id
  | delete id => FileTree.isSafeId id
  | list => True
  | saveListing id _ => FileTree.isSafeId id

/-! ## What the answers should be -/

/-- The workflow of an id after a request. -/
def Request.leaves (id : String) (before : Option Definition) : Request → Option Definition
  | save d now => if d.id = id then some (d.stamped before now) else before
  | delete other => if other = id then none else before
  | _ => before

/-- The workflow of an id after a history of requests. -/
def current (history : List Request) (id : String) : Option Definition :=
  history.foldl (Request.leaves id) none

@[simp] theorem current_append (history : List Request) (r : Request) (id : String) :
    current (history ++ [r]) id = r.leaves id (current history id) := by
  rw [current, List.foldl_append]
  rfl

/-- The answer that the requests before it call for. A workflow is loaded as it was saved last, with
its version counted from the first time; workflows are listed by their ids. -/
def Foretold (history : List Request) : Request → Answer → Prop
  | .save d now, a => a = .stored (d.stamped (current history d.id) now)
  | .load id, a =>
    a = match current history id with
      | some d => .loaded d
      | none => .notFound id
  | .delete id, a =>
    a = if (current history id).isSome then .deleted
      else .notFound id
  | .list, a =>
    ∃ l : List Definition, a = .summaries (l.map Definition.summary) ∧
      (l.map (·.id)).Pairwise (· < ·) ∧ ∀ d, d ∈ l ↔ current history d.id = some d
  | .saveListing _ _, a => ∃ path, a = .kept path

/-! ## Histories -/

/-- Both stores hold what a history leaves, and the versions can be raised by `count`. -/
structure Alike (history : List Request) (count : Nat) (t : FileTree) (m : MemoryStore) : Prop where
  /-- The files hold what is in memory. -/
  mirrors : t.Mirrors m
  /-- That is what the history leaves. -/
  lookup : ∀ id, m.definitions.lookup id = current history id
  /-- The versions can be raised. -/
  version : ∀ id d, m.definitions.lookup id = some d → Numeral.isShort (d.version.natAbs + count)

namespace Alike

variable {history : List Request} {count : Nat} {t : FileTree} {m : MemoryStore}

theorem empty (root : String) (count : Nat) : Alike [] count { root := root } {} where
  mirrors := { FileTree.Keeps.empty root with stored := by simp, listing := by simp }
  lookup _ := rfl
  version := by simp

/-- A request that leaves the workflows alone leaves both stores alike. -/
theorem keep (h : Alike history (count + 1) t m) {r : Request} {t' : FileTree} {m' : MemoryStore}
    (mirrors : t'.Mirrors m') (leaves : ∀ id before, r.leaves id before = before)
    (definitions : m'.definitions = m.definitions) : Alike (history ++ [r]) count t' m' where
  mirrors := mirrors
  lookup id := by rw [definitions, h.lookup, current_append, leaves]
  version id d hd :=
    Numeral.isShort_mono (h.version id d (definitions ▸ hd)) (by omega)

/-- A step of both stores: they answer alike, as foretold, and stay alike. -/
def Steps (history : List Request) (count : Nat) (t : FileTree) (m : MemoryStore) (r : Request) :
    Prop :=
  ∃ t' m' a b, (files t).perform r = (files t', a) ∧ (memory m).perform r = (memory m', b) ∧
    Alike (history ++ [r]) count t' m' ∧ Foretold history r b ∧
    a.withoutPlace = b.reread.withoutPlace

theorem load (h : Alike history (count + 1) t m) {id : String} (safe : FileTree.isSafeId id) :
    Steps history count t m (.load id) := by
  have hkeep : Alike (history ++ [.load id]) count t m :=
    h.keep h.mirrors (fun _ _ => rfl) rfl
  have hfiles := h.mirrors.load safe
  cases hd : m.definitions.lookup id with
  | none =>
    have hmemory : m.load id = .error (.failure (Failure.workflowNotFound id)) := by
      rw [MemoryStore.load, hd]
    refine ⟨t, m, .notFound id, .notFound id, ?_, ?_, hkeep, ?_, rfl⟩
    · rw [perform, Store.load, hfiles, hmemory]
      rfl
    · rw [perform, Store.load, hmemory]
      rfl
    · rw [Foretold, ← h.lookup, hd]
  | some d =>
    have hmemory : m.load id = .ok d := by rw [MemoryStore.load, hd]
    refine ⟨t, m, .loaded d.finite, .loaded d, ?_, ?_, hkeep, ?_, rfl⟩
    · rw [perform, Store.load, hfiles, hmemory]
      rfl
    · rw [perform, Store.load, hmemory]
      rfl
    · rw [Foretold, ← h.lookup, hd]

theorem list (h : Alike history (count + 1) t m) : Steps history count t m .list := by
  have hsummaries : (m.sorted.map Definition.finite).map Definition.summary =
      m.sorted.map Definition.summary := by
    rw [List.map_map]
    exact List.map_congr_left fun d _ => d.summary_finite
  refine ⟨t, m, .summaries (m.sorted.map Definition.summary), _, ?_, rfl,
    h.keep h.mirrors (fun _ _ => rfl) rfl, ⟨m.sorted, rfl, h.mirrors.ascending_ids, ?_⟩, rfl⟩
  · rw [perform, Store.list, h.mirrors.list_eq]
    exact congrArg (fun l => (files t, Answer.summaries l)) hsummaries
  · intro d
    rw [h.mirrors.mem_sorted, h.lookup]

theorem saveListing (h : Alike history (count + 1) t m) {id : String}
    (safe : FileTree.isSafeId id) (code : String) :
    Steps history count t m (.saveListing id code) := by
  obtain ⟨t', path, hfiles, hmirrors⟩ := h.mirrors.saveListing safe code
  refine ⟨t', (m.saveListing id code).1, .kept path, _, ?_, rfl,
    h.keep hmirrors (fun _ _ => rfl) rfl, ⟨_, rfl⟩, rfl⟩
  rw [perform, Store.saveListing, hfiles]
  rfl

theorem delete (h : Alike history (count + 1) t m) {id : String} (safe : FileTree.isSafeId id) :
    Steps history count t m (.delete id) := by
  obtain ⟨t', hmirrors, hfiles⟩ := h.mirrors.delete safe
  have hleft : ∀ other, (m.delete id).1.definitions.lookup other =
      if other = id then none else m.definitions.lookup other := by
    intro other
    rw [MemoryStore.delete]
    split
    · exact lookup_filter_bne id other m.definitions
    · next hnone =>
      split
      · next heq =>
        subst heq
        exact Option.not_isSome_iff_eq_none.1 hnone
      · rfl
  refine ⟨t', (m.delete id).1, .telling (fun _ => .deleted) (m.delete id).2, _, ?_, rfl,
    ⟨hmirrors, fun other => ?_, fun other d hother => ?_⟩, ?_, ?_⟩
  · rw [perform, Store.delete, hfiles]
  · rw [hleft, current_append, Request.leaves, h.lookup]
    simp only [eq_comm]
  · rw [hleft] at hother
    split at hother
    · cases hother
    · exact Numeral.isShort_mono (h.version other d hother) (by omega)
  · rw [Foretold, ← h.lookup, Store.delete, MemoryStore.delete]
    split <;> rfl
  · rw [Store.delete, MemoryStore.delete]
    split <;> rfl

theorem save (h : Alike history (count + 1) t m) {d : Definition} {now : Moment}
    (storable : d.Storable) (reading : now.IsReading)
    (version : Numeral.isShort (d.version.natAbs + count)) :
    Steps history count t m (.save d now) := by
  have hversion : Numeral.isShort ((m.save d now).2.version.natAbs + count) := by
    rw [MemoryStore.save]
    cases hd : m.definitions.lookup d.id with
    | none => exact version
    | some p =>
      refine Numeral.isShort_mono (h.version d.id p hd) ?_
      change (p.version + 1).natAbs + count ≤ _
      omega
  have hstored : (m.save d now).2.Stored :=
    { storable :=
        { id := storable.id
          steps := storable.steps
          mappings := storable.mappings
          inputSchema := storable.inputSchema }
      version := Numeral.isShort_mono hversion (by omega)
      lastModified := ⟨now, rfl, reading⟩ }
  obtain ⟨t', hfiles, hmirrors⟩ := h.mirrors.save hstored
  refine ⟨t', (m.save d now).1, .stored (m.save d now).2, _, ?_, rfl, ⟨hmirrors, ?_, ?_⟩, ?_, rfl⟩
  · rw [perform, Store.save, hfiles]
    rfl
  · intro id
    rw [MemoryStore.save, lookup_putEntry, current_append, Request.leaves, h.lookup]
    by_cases heq : id = d.id
    · rw [if_pos heq, if_pos heq.symm, heq]
    · rw [if_neg heq, if_neg (Ne.symm heq), h.lookup]
  · intro id p hp
    rw [MemoryStore.save, lookup_putEntry] at hp
    split at hp
    · cases hp
      exact hversion
    · exact Numeral.isShort_mono (h.version id p hp) (by omega)
  · change Answer.stored (d.stamped (m.definitions.lookup d.id) now) = _
    rw [h.lookup]

theorem step (h : Alike history (count + 1) t m) {r : Request} (admissible : r.Admissible count) :
    Steps history count t m r := by
  cases r with
  | save d now => exact h.save admissible.1 admissible.2.1 admissible.2.2
  | load id => exact h.load admissible
  | delete id => exact h.delete admissible
  | list => exact h.list
  | saveListing id code => exact h.saveListing admissible code

/-- Both stores answer every history alike, and as foretold. -/
theorem run (requests : List Request) {history : List Request} {t : FileTree} {m : MemoryStore}
    (h : Alike history requests.length t m)
    (admissible : ∀ r ∈ requests, r.Admissible requests.length) :
    ((files t).answers requests).map Answer.withoutPlace =
        ((memory m).answers requests).map (fun a => a.reread.withoutPlace) ∧
      ∀ (n : Nat) (r : Request), requests[n]? = some r →
        ∃ a, ((memory m).answers requests)[n]? = some a ∧
          Foretold (history ++ requests.take n) r a := by
  induction requests generalizing history t m with
  | nil => exact ⟨rfl, fun n r hr => by simp at hr⟩
  | cons r rest ih =>
    have hless : ∀ {r : Request}, r.Admissible (rest.length + 1) → r.Admissible rest.length := by
      intro r hr
      cases r with
      | save d now => exact ⟨hr.1, hr.2.1, Numeral.isShort_mono hr.2.2 (by omega)⟩
      | _ => exact hr
    obtain ⟨t', m', a, b, hfiles, hmemory, hnext, hforetold, heq⟩ :=
      h.step (hless (admissible r (List.mem_cons_self ..)))
    obtain ⟨hanswers, hrest⟩ :=
      ih hnext fun q hq => hless (admissible q (List.mem_cons_of_mem _ hq))
    simp only [answers, hfiles, hmemory, List.map_cons]
    refine ⟨by rw [heq, hanswers], fun n q hq => ?_⟩
    cases n with
    | zero =>
      cases hq
      exact ⟨b, rfl, by simpa using hforetold⟩
    | succ n => simpa using hrest n q hq

end Alike

/-! ## Workflows without infinities and NaN -/

/-- What is left of workflows without infinities and NaN has none. -/
theorem finite_current {history : List Request} {id : String} {d : Definition}
    (saved : ∀ d now, Request.save d now ∈ history → d.finite = d)
    (h : current history id = some d) : d.finite = d := by
  induction history using List.reverseRecOn generalizing d with
  | nil => cases h
  | append_singleton before r ih =>
    have hbefore : ∀ d now, Request.save d now ∈ before → d.finite = d := fun d now hd =>
      saved d now (List.mem_append_left _ hd)
    rw [current_append] at h
    cases r with
    | save p now =>
      rw [Request.leaves] at h
      split at h
      · cases h
        have hp := saved p now (List.mem_append_right _ (List.mem_singleton_self _))
        exact congrArg (fun q => q.stamped (current before id) now) hp
      · exact ih hbefore h
    | delete other =>
      rw [Request.leaves] at h
      split at h
      · cases h
      · exact ih hbefore h
    | load _ => exact ih hbefore h
    | list => exact ih hbefore h
    | saveListing _ _ => exact ih hbefore h

/-- An answer as it is foretold is the same after it went through a document, if what was saved
is. -/
theorem Foretold.reread_eq {history : List Request} {r : Request} {a : Answer}
    (h : Foretold history r a) (saved : ∀ d now, Request.save d now ∈ history → d.finite = d) :
    a.reread = a := by
  cases r with
  | save d now =>
    obtain rfl : a = _ := h
    rfl
  | load id =>
    obtain rfl : a = _ := h
    cases hd : current history id with
    | none => rfl
    | some d => exact congrArg Answer.loaded (finite_current saved hd)
  | delete id =>
    obtain rfl : a = _ := h
    split <;> rfl
  | list =>
    obtain ⟨l, rfl, -⟩ := h
    rfl
  | saveListing id code =>
    obtain ⟨path, rfl⟩ := h
    rfl

theorem length_answers (s : Store) (requests : List Request) :
    (s.answers requests).length = requests.length := by
  induction requests generalizing s with
  | nil => rfl
  | cons r rest ih => simp [answers, ih]

/-! ## A workflow with an infinity -/

/-- A workflow that puts out infinity. -/
def unbounded : Definition :=
  { id := "w"
    name := "W"
    steps := [{ id := "a", kind := .controlFlow }]
    mappings :=
      [{ source := .fixed, target := .output, targetPath := "x", transform := some "string"
         value := .float (Double.infinity false) }] }

/-- It is saved, loaded, saved again, listed, and removed with its listing. -/
def unboundedHistory : List Request :=
  [.save unbounded ⟨0, none⟩, .load "w", .save unbounded ⟨1, none⟩, .list, .saveListing "w" "pass",
    .delete "w", .load "w"]

theorem unboundedHistory_admissible :
    ∀ r ∈ unboundedHistory, r.Admissible unboundedHistory.length := by
  have hreading (n : Int) (h : 0 ≤ n ∧ n ≤ 1) : Moment.IsReading ⟨n, none⟩ := by
    have hfirst : Date.toDays ⟨1, 1, 1⟩ * Moment.perDay ≤ 0 := by decide
    have hlast : 1 < Date.toDays ⟨10000, 1, 1⟩ * Moment.perDay := by decide
    exact ⟨rfl, le_trans hfirst h.1, lt_of_le_of_lt h.2 hlast⟩
  have hstorable : unbounded.Storable :=
    { id := by decide
      steps := by
        intro s hs
        obtain rfl := List.mem_singleton.1 hs
        exact ⟨by decide, by decide, by decide⟩
      mappings := by
        intro m hm
        obtain rfl := List.mem_singleton.1 hm
        exact ⟨rfl, rfl, by decide⟩
      inputSchema := by decide }
  have hshort : Numeral.isShort (unbounded.version.natAbs + unboundedHistory.length) := by decide
  have hsafe : FileTree.isSafeId "w" := by decide
  simp only [unboundedHistory, List.forall_mem_cons]
  exact ⟨⟨hstorable, hreading 0 (by omega), hshort⟩, hsafe,
    ⟨hstorable, hreading 1 (by omega), hshort⟩, trivial, hsafe, hsafe, hsafe, by simp⟩

/-! ## Agreement -/

/-- A store in files and a store in memory, both empty at first, answer every history of requests
alike, each as the requests before it call for: what is loaded is what was saved last, its version
raised by one for each time that it was saved before, and the workflows are listed by their ids.
Only the place of a listing differs, and what a store in files loads has null in the place of
infinities and NaN; without these the answers are equal. -/
theorem answers_agree (root : String) (requests : List Request)
    (admissible : ∀ r ∈ requests, r.Admissible requests.length) :
    ((files { root := root }).answers requests).map Answer.withoutPlace =
        ((memory {}).answers requests).map (fun a => a.reread.withoutPlace) ∧
      (∀ (n : Nat) (r : Request), requests[n]? = some r →
        ∃ a, ((memory {}).answers requests)[n]? = some a ∧ Foretold (requests.take n) r a) ∧
      ((∀ d now, Request.save d now ∈ requests → d.finite = d) →
        ((files { root := root }).answers requests).map Answer.withoutPlace =
          ((memory {}).answers requests).map Answer.withoutPlace) := by
  obtain ⟨hanswers, hforetold⟩ :=
    Alike.run requests (Alike.empty root requests.length) admissible
  simp only [List.nil_append] at hforetold
  refine ⟨hanswers, hforetold, fun hfinite => ?_⟩
  rw [hanswers]
  refine List.map_congr_left fun a ha => ?_
  obtain ⟨n, hn, rfl⟩ := List.getElem_of_mem ha
  have hlength : n < requests.length := length_answers _ requests ▸ hn
  obtain ⟨b, hb, hforetold⟩ := hforetold n _ (List.getElem?_eq_getElem hlength)
  rw [List.getElem?_eq_getElem hn, Option.some.injEq] at hb
  rw [hb, hforetold.reread_eq fun d now hd => hfinite d now (List.mem_of_mem_take hd)]

/-- What a store in files answers about a workflow with an infinity: it loads null in its place. -/
theorem answers_agree_unbounded :
    (∀ r ∈ unboundedHistory, r.Admissible unboundedHistory.length) ∧
      ((files { root := "workflows" }).answers unboundedHistory).map Answer.withoutPlace =
        [.stored (unbounded.stamped none ⟨0, none⟩),
          .loaded (unbounded.stamped none ⟨0, none⟩).finite,
          .stored { unbounded with version := 2, lastModified := some ⟨1, none⟩ },
          .summaries [Definition.summary
            { unbounded with version := 2, lastModified := some ⟨1, none⟩ }],
          .kept "", .deleted, .notFound "w"] := by
  refine ⟨unboundedHistory_admissible, ?_⟩
  rw [(answers_agree "workflows" unboundedHistory unboundedHistory_admissible).1]
  rfl

/-- The stores differ in what they load of a workflow with an infinity: a store in memory has it as
it was saved. -/
theorem unbounded_not_alike :
    ((memory {}).answers unboundedHistory)[1]? =
        some (.loaded (unbounded.stamped none ⟨0, none⟩)) ∧
      ((files { root := "workflows" }).answers unboundedHistory).map Answer.withoutPlace ≠
        ((memory {}).answers unboundedHistory).map Answer.withoutPlace := by
  refine ⟨rfl, ?_⟩
  rw [(Alike.run unboundedHistory (Alike.empty "workflows" _) unboundedHistory_admissible).1]
  intro heq
  have hloaded := congrArg (fun l => l[1]?) heq
  have hvalue : some (some Value.null) = some (some (Value.float (Double.infinity false))) := by
    have hread := congrArg (Option.map fun a : Answer =>
      match a with
      | .loaded d => d.mappings.head?.map Mapping.value
      | _ => none) hloaded
    exact hread
  cases hvalue

end Conduit.Store
