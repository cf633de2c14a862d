import Conduit.Proofs.Number.Numeral
import Conduit.Proofs.Table.Upsert

/-!
# Ids of rows

Every row of a table has an id. One that comes without gets the next of the table's own ids. These
are counted, so a table never gives out one of them twice; but it does not look at the ids that
callers supply, and whatever it is about to give out may have been supplied before.

* `TableStore.Request`, `TableStore.performAll` — what can be asked of a store, and histories;
* `TableStore.supplied` — the ids that callers have supplied to a table;
* `Table.Identified`, `TableStore.Identified.perform` — where the ids of rows come from;
* `TableStore.assigned_ids` — the ids that a store gives out;
* `TableStore.exists_taken` — each of them may be taken.
-/

namespace Conduit

/-- A member of an updated object was there before or has been written. -/
theorem Members.get?_update_cases {m more : Members} {name : String} {v : Value}
    (h : (m.update more).get? name = some v) : m.get? name = some v ∨ (name, v) ∈ more := by
  rw [update] at h
  induction more generalizing m with
  | nil => exact .inl h
  | cons member rest ih =>
    obtain ⟨key, w⟩ := member
    rcases ih h with hset | hrest
    · by_cases hkey : name = key
      · subst hkey
        rw [get?_set_self] at hset
        cases hset
        exact .inr List.mem_cons_self
      · rw [get?_set_of_ne _ _ hkey] at hset
        exact .inl hset
    · exact .inr (List.mem_cons_of_mem _ hrest)

/-! ## Ids of the rows of a table -/

namespace Table

/-- The own id of a table that it gives out after `k` others. -/
def rowId (k : Nat) : String := "row_" ++ toString (k + 1)

theorem rowId_inj {k l : Nat} : rowId k = rowId l ↔ k = l := by
  rw [rowId, rowId, numbered_inj, Nat.add_right_cancel_iff]

/-- The id that a row comes with, if any. -/
def idsOf (row : Members) : List Value :=
  row.filterMap fun member => if member.1 = "id" then some member.2 else none

theorem mem_idsOf {row : Members} {v : Value} : v ∈ idsOf row ↔ ("id", v) ∈ row := by
  rw [idsOf, List.mem_filterMap]
  constructor
  · rintro ⟨⟨name, w⟩, hmember, h⟩
    split at h <;> cases h
    next hname => exact hname ▸ hmember
  · exact fun hmember => ⟨_, hmember, if_pos rfl⟩

/-- Each row has an id, and that was supplied or is one of those that the table has given out. -/
def Identified (ids : List Value) (t : Table) : Prop :=
  ∀ row ∈ t.rows, ∃ v, row.get? "id" = some v ∧ (v ∈ ids ∨ ∃ k < t.counter, v = .str (rowId k))

variable {ids : List Value} {t : Table}

theorem Identified.append (h : Identified ids t) (row : Members) :
    Identified (ids ++ idsOf row) (t.append row).1 := by
  have hkept : ∀ {counter}, t.counter ≤ counter → ∀ other ∈ t.rows, ∃ v, other.get? "id" = some v ∧
      (v ∈ ids ++ idsOf row ∨ ∃ k < counter, v = .str (rowId k)) := by
    intro counter hle other hother
    obtain ⟨v, hv, hsupplied | ⟨k, hk, rfl⟩⟩ := h other hother
    · exact ⟨v, hv, .inl (List.mem_append_left _ hsupplied)⟩
    · exact ⟨_, hv, .inr ⟨k, hk.trans_le hle, rfl⟩⟩
  unfold Table.append
  split
  · next has =>
    refine List.forall_mem_append.2 ⟨hkept le_rfl, List.forall_mem_singleton.2 ?_⟩
    obtain ⟨v, hv⟩ := Option.isSome_iff_exists.1 has
    exact ⟨v, hv, .inl (List.mem_append_right _ (mem_idsOf.2 (Members.mem_of_get? hv)))⟩
  · refine List.forall_mem_append.2 ⟨hkept (Nat.le_succ _), List.forall_mem_singleton.2 ?_⟩
    exact ⟨_, Members.get?_set_self _ _ _, .inr ⟨t.counter, Nat.lt_succ_self _, rfl⟩⟩

theorem Identified.appendAll (h : Identified ids t) (rows : List Members) :
    Identified (ids ++ rows.flatMap idsOf) (rows.foldl (fun t row => (t.append row).1) t) := by
  induction rows generalizing ids t with
  | nil => simpa using h
  | cons row rest ih =>
    rw [List.flatMap_cons, ← List.append_assoc, List.foldl_cons]
    exact ih (h.append row)

theorem Identified.write (h : Identified ids t) {before after : List Members} {other : Members}
    (rows : t.rows = before ++ other :: after) (row : Members) :
    Identified (ids ++ idsOf row) { t with rows := before ++ other.update row :: after } := by
  rw [Identified, rows] at h
  have hkept : ∀ {m : Members}, (∃ v, m.get? "id" = some v ∧
      (v ∈ ids ∨ ∃ k < t.counter, v = .str (rowId k))) → ∃ v, m.get? "id" = some v ∧
      (v ∈ ids ++ idsOf row ∨ ∃ k < t.counter, v = .str (rowId k)) := by
    rintro m ⟨v, hv, hfrom⟩
    exact ⟨v, hv, hfrom.imp_left (List.mem_append_left _)⟩
  obtain ⟨hbefore, hrest⟩ := List.forall_mem_append.1 h
  obtain ⟨hother, hafter⟩ := List.forall_mem_cons.1 hrest
  refine List.forall_mem_append.2 ⟨fun m hm => hkept (hbefore m hm), List.forall_mem_cons.2
    ⟨?_, fun m hm => hkept (hafter m hm)⟩⟩
  obtain ⟨w, hw, hfrom⟩ := hother
  obtain ⟨v, hv⟩ := Option.isSome_iff_exists.1
    ((Members.has_update other row "id").2 (.inl (by rw [Members.has, hw]; rfl)))
  refine ⟨v, hv, ?_⟩
  rcases Members.get?_update_cases hv with hold | hnew
  · rw [hw, Option.some.injEq] at hold
    exact hold ▸ hfrom.imp_left (List.mem_append_left _)
  · exact .inl (List.mem_append_right _ (mem_idsOf.2 hnew))

/-- The id that a table gives out next is the id of a row only if it was supplied. -/
theorem Identified.supplied_of_nextId (h : Identified ids t) {row : Members} (there : row ∈ t.rows)
    (taken : (Members.getD row "id").equals (.str t.nextId) = true) : .str t.nextId ∈ ids := by
  obtain ⟨v, hv, hfrom⟩ := h row there
  rw [Members.getD, hv, Option.getD_some, Value.equals_str_iff] at taken
  subst taken
  rcases hfrom with hsupplied | ⟨k, hk, heq⟩
  · exact hsupplied
  · rw [Value.str.injEq] at heq
    exact absurd (rowId_inj.1 heq) hk.ne'

end Table

/-! ## Histories -/

namespace TableStore

/-- What can be asked of a store of tables. -/
inductive Request where
  /-- A table of some rows. -/
  | create (id : String) (rows : List Members)
  /-- Another row of a table. -/
  | insert (id : String) (row : Members)
  /-- A row in the place of the one of the same key, or another row. -/
  | upsert (id : String) (row : Members) (key : String)

/-- What becomes of a store by a request. One that fails changes nothing. -/
def perform (s : TableStore) : Request → TableStore
  | .create id rows => s.create id rows
  | .insert id row =>
    match s.insert id row with
    | .ok (s', _) => s'
    | .error _ => s
  | .upsert id row key =>
    match s.upsert id row key with
    | .ok (s', _, _) => s'
    | .error _ => s

/-- The store that requests lead to, one after the other. -/
def performAll (requests : List Request) : TableStore := requests.foldl perform {}

/-- What a request adds to the ids that callers have supplied to a table since it was created. -/
def supply (id : String) (ids : List Value) : Request → List Value
  | .create other rows => if other = id then rows.flatMap Table.idsOf else ids
  | .insert other row => if other = id then ids ++ Table.idsOf row else ids
  | .upsert other row _ => if other = id then ids ++ Table.idsOf row else ids

/-- The ids that callers have supplied to a table since it was created. -/
def supplied (id : String) (requests : List Request) : List Value := requests.foldl (supply id) []

/-- All rows of all tables have ids, supplied to their table or given out by it. -/
def Identified (ids : String → List Value) (s : TableStore) : Prop :=
  ∀ id t, s.get? id = some t → t.Identified (ids id)

theorem insert_of_there {s : TableStore} {id : String} {t : Table} (there : s.get? id = some t)
    (row : Members) : s.insert id row = .ok (s.put id (t.append row).1, (t.append row).2) := by
  rw [insert, find, there]
  rfl

/-- Requests fail on a table that is not there. -/
theorem perform_of_absent {s : TableStore} {id : String} (absent : s.get? id = none) (row : Members)
    (key : String) : s.perform (.insert id row) = s ∧ s.perform (.upsert id row key) = s := by
  have hfind : s.find id = .error (.failure (notFound id)) := by rw [find, absent]
  constructor
  · rw [perform, insert, hfind]; rfl
  · rw [perform, upsert, hfind]; rfl

/-- Writing one table leaves the rows of the others with their ids. -/
theorem Identified.put {ids ids' : String → List Value} {s : TableStore} (h : Identified ids s)
    {id : String} {t : Table} (written : t.Identified (ids' id))
    (others : ∀ other, other ≠ id → ids' other = ids other) : Identified ids' (s.put id t) := by
  intro other u there
  rw [get?_put] at there
  split at there
  · next heq =>
    cases there
    exact heq ▸ written
  · next hne => exact others other hne ▸ h other u there

theorem Identified.of_absent {ids ids' : String → List Value} {s : TableStore}
    (h : Identified ids s) {id : String} (absent : s.get? id = none)
    (others : ∀ other, other ≠ id → ids' other = ids other) : Identified ids' s := by
  intro other u there
  by_cases heq : other = id
  · rw [heq, absent] at there
    cases there
  · exact others other heq ▸ h other u there

/-- A request leaves all rows with ids, supplied with it or before, or given out. -/
theorem Identified.perform {ids : String → List Value} {s : TableStore} (h : Identified ids s)
    (request : Request) :
    Identified (fun id => supply id (ids id) request) (s.perform request) := by
  cases request with
  | create id rows =>
    refine h.put ?_ fun other hne => if_neg (Ne.symm hne)
    have hempty : Table.Identified [] {} := fun row hrow => absurd hrow List.not_mem_nil
    simpa [supply, Table.ofRows] using hempty.appendAll rows
  | insert id row =>
    have hothers : ∀ other, other ≠ id → supply other (ids other) (.insert id row) = ids other :=
      fun other hne => if_neg (Ne.symm hne)
    cases hs : s.get? id with
    | none =>
      rw [(perform_of_absent hs row "").1]
      exact h.of_absent hs hothers
    | some t =>
      rw [TableStore.perform, insert_of_there hs]
      exact h.put (by simpa [supply] using (h id t hs).append row) hothers
  | upsert id row key =>
    have hothers : ∀ other, other ≠ id →
        supply other (ids other) (.upsert id row key) = ids other :=
      fun other hne => if_neg (Ne.symm hne)
    cases hs : s.get? id with
    | none =>
      rw [(perform_of_absent hs row key).2]
      exact h.of_absent hs hothers
    | some t =>
      rw [TableStore.perform]
      rcases upsert_cases hs row key with
        ⟨before, other, after, hrows, -, -, hupsert⟩ | ⟨-, hupsert⟩
      · rw [hupsert]
        exact h.put (by simpa [supply] using (h id t hs).write hrows row) hothers
      · rw [hupsert]
        exact h.put (by simpa [supply] using (h id t hs).append row) hothers

/-- After every history all rows have ids. -/
theorem identified_performAll (requests : List Request) :
    Identified (fun id => supplied id requests) (performAll requests) := by
  induction requests using List.reverseRecOn with
  | nil => exact fun _ _ there => nomatch there
  | append_singleton requests request ih =>
    have hstep := ih.perform request
    simpa only [performAll, supplied, List.foldl_append, List.foldl_cons, List.foldl_nil]
      using hstep

/-! ## Ids that a store gives out -/

/-- The rows of a new table are put into it one after the other. -/
theorem perform_create (s : TableStore) (id : String) (rows : List Members) :
    s.perform (.create id rows) =
      (rows.map (.insert id)).foldl perform (s.perform (.create id [])) := by
  have hinserts : ∀ (rows : List Members) (t : Table),
      (rows.map (.insert id)).foldl perform (s.put id t) =
        s.put id (rows.foldl (fun t row => (t.append row).1) t) := by
    intro rows
    induction rows with
    | nil => exact fun _ => rfl
    | cons row rest ih =>
      intro t
      have hrow : (s.put id t).perform (.insert id row) = s.put id (t.append row).1 := by
        rw [perform, insert_of_there (by rw [get?_put, if_pos rfl])]
        exact put_put _ _ _ _
      rw [List.map_cons, List.foldl_cons, hrow, ih, List.foldl_cons]
  exact (hinserts rows {}).symm

/-- A request for another row succeeds by adding it, with a store and the row as it is there. -/
def Adds (s : TableStore) (id : String) (row : Members) (s' : TableStore) (stored : Members) :
    Prop :=
  s.insert id row = .ok (s', stored) ∨ ∃ key, s.upsert id row key = .ok (s', stored, true)

/-- A row that is added is put behind the others as the table stores it. -/
theorem adds_eq {s s' : TableStore} {id : String} {t : Table} (there : s.get? id = some t)
    {row stored : Members} (adds : Adds s id row s' stored) :
    s' = s.put id (t.append row).1 ∧ stored = (t.append row).2 := by
  rcases adds with hinsert | ⟨key, hupsert⟩
  · rw [insert_of_there there] at hinsert
    cases hinsert
    exact ⟨rfl, rfl⟩
  · rcases upsert_cases there row key with ⟨_, _, _, -, -, -, heq⟩ | ⟨-, heq⟩ <;>
      rw [heq] at hupsert <;> cases hupsert
    exact ⟨rfl, rfl⟩

/-- After every history all rows have ids. The rows of a new table are put into it one after the
other, and a row without an id that is added is given one, which no other row has unless a caller
has supplied it. -/
theorem assigned_ids {requests : List Request} {id : String} {t : Table}
    (there : (performAll requests).get? id = some t) :
    (∀ row ∈ t.rows, row.has "id" = true) ∧
    (∀ rows, performAll (requests ++ [.create id rows]) =
      performAll (requests ++ .create id [] :: rows.map (.insert id))) ∧
    ∀ row s' stored, row.has "id" = false → Adds (performAll requests) id row s' stored →
      ∃ assigned, stored.get? "id" = some assigned ∧
        (∃ t', s'.get? id = some t' ∧ t'.rows = t.rows ++ [stored]) ∧
        ∀ other ∈ t.rows, (Members.getD other "id").equals assigned = true →
          assigned ∈ supplied id requests := by
  have identified : t.Identified (supplied id requests) := identified_performAll requests id t there
  refine ⟨fun row hrow => ?_, fun rows => ?_, fun row s' stored lacks adds => ?_⟩
  · obtain ⟨v, hv, -⟩ := identified row hrow
    rw [Members.has, hv]
    rfl
  · rw [performAll, performAll, List.foldl_append, List.foldl_append, List.foldl_cons,
      List.foldl_cons, List.foldl_nil, perform_create]
  · obtain ⟨rfl, rfl⟩ := adds_eq there adds
    have hassigned : (t.append row).2.get? "id" = some (.str t.nextId) := by
      rw [Table.append, if_neg (Bool.eq_false_iff.1 lacks)]
      exact Members.get?_set_self _ _ _
    exact ⟨_, hassigned, ⟨_, by rw [get?_put, if_pos rfl], Table.rows_append t row⟩,
      fun other hother => identified.supplied_of_nextId hother⟩

/-- Requests with and without ids: a table of a row with an id of the table's own form and a row
without, a row for Ada, and an id for her. -/
def mixed : List Request :=
  [.create "T" [[("id", .str "row_3")], []], .insert "T" [("name", .str "Ada")],
    .upsert "T" [("name", .str "Ada"), ("id", .str "a")] "name"]

theorem assigned_ids_mixed :
    (performAll mixed).get? "T" = some
      { rows := [[("id", .str "row_3")], [("id", .str "row_1")],
          [("name", .str "Ada"), ("id", .str "a")]]
        counter := 2 } ∧
    ∃ s' t' stored assigned,
      (performAll mixed).insert "T" [("name", .str "Bob")] = .ok (s', stored) ∧
      stored.get? "id" = some assigned ∧ s'.get? "T" = some t' ∧ t'.rows.length = 4 ∧
      assigned ∈ supplied "T" mixed := by
  have there : (performAll mixed).get? "T" = some
      { rows := [[("id", .str "row_3")], [("id", .str "row_1")],
          [("name", .str "Ada"), ("id", .str "a")]]
        counter := 2 } := by decide +kernel
  have inserts := insert_of_there there [("name", .str "Bob")]
  obtain ⟨-, -, hadds⟩ := assigned_ids there
  obtain ⟨assigned, hassigned, ⟨t', ht', hrows⟩, htaken⟩ := hadds _ _ _ (by decide) (.inl inserts)
  refine ⟨there, _, t', _, assigned, inserts, hassigned, ht', by rw [hrows]; rfl, ?_⟩
  have hid : assigned = .str "row_3" := (Option.some.inj hassigned).symm
  subst hid
  exact htaken _ List.mem_cons_self (by decide)

/-- A row without an id is given that of another row, because a caller has supplied it. -/
theorem row_id_given_twice :
    ∃ s', (performAll [.create "T" [], .insert "T" [("id", .str "row_1")]]).insert "T" [] =
        .ok (s', [("id", .str "row_1")]) ∧
      s'.get? "T" =
        some { rows := [[("id", .str "row_1")], [("id", .str "row_1")]], counter := 1 } :=
  ⟨_, rfl, by decide +kernel⟩

/-- Rows without ids count up, and the rows before them stay. -/
theorem insert_replicate {id : String} (n : Nat) {s : TableStore} {t : Table}
    (there : s.get? id = some t) :
    ∃ t', ((List.replicate n (.insert id [])).foldl perform s).get? id = some t' ∧
      t'.counter = t.counter + n ∧ ∀ row ∈ t.rows, row ∈ t'.rows := by
  induction n generalizing s t with
  | zero => exact ⟨t, there, rfl, fun _ h => h⟩
  | succ n ih =>
    have hstep : (s.perform (.insert id [])).get? id = some (t.append []).1 := by
      rw [perform, insert_of_there there]
      exact (get?_put _ _ _ _).trans (if_pos rfl)
    obtain ⟨t', ht', hcounter, hrows⟩ := ih hstep
    refine ⟨t', ht', ?_, fun row hrow => hrows row ?_⟩
    · have hfirst : (t.append []).1.counter = t.counter + 1 := rfl
      omega
    · rw [Table.rows_append]
      exact List.mem_append_left _ hrow

/-- Whatever id a table is about to give out, it may have been supplied before. -/
theorem exists_taken (id : String) (n : Nat) :
    ∃ requests t, supplied id requests = [.str (Table.rowId n)] ∧
      (performAll requests).get? id = some t ∧ t.nextId = Table.rowId n ∧
      ∃ row ∈ t.rows, row.get? "id" = some (.str (Table.rowId n)) := by
  have hsupplied : ∀ ids, (List.replicate n (.insert id [])).foldl (supply id) ids = ids := by
    intro ids
    induction n with
    | zero => rfl
    | succ n ih => simpa [List.replicate_succ, supply, Table.idsOf] using ih
  have there : (perform {} (.create id [[("id", .str (Table.rowId n))]])).get? id =
      some { rows := [[("id", .str (Table.rowId n))]], counter := 0 } :=
    (get?_put _ _ _ _).trans (if_pos rfl)
  obtain ⟨t, ht, hcounter, hrows⟩ := insert_replicate n there
  refine ⟨.create id [[("id", .str (Table.rowId n))]] :: List.replicate n (.insert id []), t, ?_,
    ht, ?_, _, hrows _ List.mem_cons_self, rfl⟩
  · rw [supplied, List.foldl_cons, hsupplied]
    simp [supply, Table.idsOf]
  · rw [Table.nextId, Table.rowId, hcounter, Nat.zero_add]

end TableStore

end Conduit
