import Conduit.Proofs.Value.Equality
import Conduit.Proofs.Workflow.Links
import Conduit.Table.Store

/-!
# Upserts

A row is written into the first row of the same key, or else it is added. Keys are compared as if a
missing column held null, so a row whose key is null may be written into one without such a column.
With any other key, only a row that has the column with an equal value is written into.

* `TableStore.get?_put`, `TableStore.put_put` — writing a table;
* `Table.Upserted`, `Table.Upserted.hasValue_iff` — what may become of a table;
* `TableStore.upsert_cases` — what becomes of it, by the rows there are;
* `TableStore.upsert_by_value_iff` — when the key of the row decides by its value;
* `TableStore.upsert_again`, `TableStore.upsert_upsert` — writing a row again changes nothing.
-/

namespace Conduit

/-! ## Writing members -/

namespace Members

theorem mem_keys_of_has {m : Members} {name : String} (h : m.has name = true) : name ∈ keys m := by
  obtain ⟨v, hv⟩ := Option.isSome_iff_exists.1 h
  exact List.mem_map_of_mem (mem_of_get? hv)

/-- Members that are written into others stand there, beside those of other names. -/
theorem get?_update {m more : Members} (distinct : (keys more).Nodup) (name : String) :
    (m.update more).get? name = (more.get? name).or (m.get? name) := by
  rw [update]
  induction more generalizing m with
  | nil => rfl
  | cons member rest ih =>
    obtain ⟨key, v⟩ := member
    rw [keys, List.map_cons, List.nodup_cons] at distinct
    rw [List.foldl_cons, ih distinct.2, get?]
    split
    · next hkey =>
      subst hkey
      have hrest : get? rest key = none :=
        Option.not_isSome_iff_eq_none.1 fun h => distinct.1 (mem_keys_of_has h)
      rw [hrest, get?_set_self]
      rfl
    · next hkey => rw [get?_set_of_ne _ _ (Ne.symm hkey)]

/-- Writing members that are there already changes nothing. -/
theorem update_eq_self {m more : Members} (distinct : (keys more).Nodup)
    (there : ∀ name, more.has name = true → m.get? name = more.get? name) : m.update more = m := by
  rw [update]
  induction more with
  | nil => rfl
  | cons member rest ih =>
    obtain ⟨key, v⟩ := member
    rw [keys, List.map_cons, List.nodup_cons] at distinct
    have hfirst : m.get? key = some v := by
      rw [there key] <;> simp [has, get?]
    rw [List.foldl_cons, set_eq_self hfirst]
    refine ih distinct.2 fun name hname => ?_
    have hne : ¬ key = name := by
      rintro rfl
      exact distinct.1 (mem_keys_of_has hname)
    have hcons := there name
    rw [has, get?, if_neg hne] at hcons
    exact hcons hname

end Members

/-! ## Writing tables -/

namespace TableStore

theorem any_tables (s : TableStore) (id : String) :
    (s.tables.any fun entry => entry.1 == id) = (s.get? id).isSome := by
  rw [get?]
  induction s.tables with
  | nil => rfl
  | cons entry rest ih =>
    obtain ⟨key, t⟩ := entry
    rw [List.any_cons, ih, lookup_cons_eq_ite]
    by_cases h : id = key
    · simp [h]
    · simp [h, Ne.symm h]

/-- A table is written in place when it is there, else at the end. -/
theorem put_eq (s : TableStore) (id : String) (t : Table) :
    s.put id t = if (s.get? id).isSome then { tables := amend (fun _ => t) id s.tables }
      else { tables := s.tables ++ [(id, t)] } := by
  rw [put, any_tables]
  congr 2
  exact List.map_congr_left fun entry _ => by split <;> simp [*]

/-- A table that is written is found, and every other one as before. -/
theorem get?_put (s : TableStore) (id other : String) (t : Table) :
    (s.put id t).get? other = if other = id then some t else s.get? other := by
  rw [put_eq]
  split
  · next present =>
    obtain ⟨old, hold⟩ := Option.isSome_iff_exists.1 present
    rw [get?, lookup_amend]
    split
    · next h => rw [h, ← get?, hold]; rfl
    · rfl
  · next absent =>
    rw [Option.not_isSome_iff_eq_none] at absent
    rw [get?, List.lookup_append, lookup_cons_eq_ite, ← get?]
    split
    · next h => rw [h, absent]; rfl
    · exact Option.or_none

/-- Of two tables written under one id the second stays. -/
theorem put_put (s : TableStore) (id : String) (t t' : Table) :
    (s.put id t).put id t' = s.put id t' := by
  have hthere : ((s.put id t).get? id).isSome = true := by rw [get?_put, if_pos rfl]; rfl
  rw [put_eq (s.put id t), if_pos hthere, put_eq s id t, put_eq s id t']
  split
  · congr 1
    rw [amend, amend, amend, List.map_map]
    refine List.map_congr_left fun entry _ => ?_
    rw [Function.comp_apply]
    by_cases h : entry.1 = id <;> simp [h]
  · next absent =>
    have hkeys : ∀ entry ∈ s.tables, entry.1 ≠ id := fun entry hentry h =>
      absent (isSome_lookup_of_mem_keys (h ▸ List.mem_map_of_mem hentry))
    have hself : s.tables.map (fun entry => if entry.1 = id then (entry.1, t') else entry) =
        s.tables := by
      rw [List.map_congr_left fun entry hentry => if_neg (hkeys entry hentry), List.map_id']
    rw [amend, List.map_append, hself]
    simp

end TableStore

/-! ## The first row of the same key -/

namespace Table

/-- There is no row of a sort, or a first one. -/
theorem exists_first (fits : Members → Bool) (rows : List Members) :
    (∀ other ∈ rows, fits other = false) ∨
      ∃ before other after, rows = before ++ other :: after ∧
        (∀ earlier ∈ before, fits earlier = false) ∧ fits other = true := by
  cases h : rows.find? fits with
  | none => exact .inl fun other hother => Bool.eq_false_iff.2 (List.find?_eq_none.1 h other hother)
  | some other =>
    obtain ⟨hfits, before, after, rfl, hbefore⟩ := List.find?_eq_some_iff_append.1 h
    exact .inr
      ⟨before, other, after, rfl, fun earlier he => by simpa using hbefore earlier he, hfits⟩

theorem updateFirst_of_unfit {key : String} {row : Members} {rows : List Members}
    (unfit : ∀ other ∈ rows, sameKey key row other = false) : updateFirst key row rows = none := by
  induction rows with
  | nil => rfl
  | cons other rest ih =>
    obtain ⟨hother, hrest⟩ := List.forall_mem_cons.1 unfit
    rw [updateFirst, hother, ih hrest]
    rfl

theorem updateFirst_append {key : String} {row other : Members} {before : List Members}
    (after : List Members) (unfit : ∀ earlier ∈ before, sameKey key row earlier = false)
    (fits : sameKey key row other = true) :
    updateFirst key row (before ++ other :: after) =
      some (before ++ other.update row :: after, other.update row) := by
  induction before with
  | nil => rw [List.nil_append, updateFirst, if_pos fits]; rfl
  | cons earlier rest ih =>
    obtain ⟨hearlier, hrest⟩ := List.forall_mem_cons.1 unfit
    rw [List.cons_append, updateFirst, hearlier, ih hrest]
    rfl

/-- Rows have the same key if they have equal values in its column, a missing one counting as
null. -/
theorem sameKey_iff {key : String} {row other : Members} {v : Value}
    (present : row.get? key = some v) :
    sameKey key row other = true ↔ (Members.getD other key).equals v = true := by
  rw [sameKey, Members.getD, Members.getD, present]
  rfl

/-- A row that is added gets an id if it has none, and keeps all that it has. -/
theorem get?_append (t : Table) (row : Members) {name : String}
    (given : name = "id" → row.has name = true) : (t.append row).2.get? name = row.get? name := by
  unfold append
  split
  · rfl
  · next lacks =>
    refine Members.get?_set_of_ne _ _ ?_
    rintro rfl
    exact lacks (given rfl)

theorem rows_append (t : Table) (row : Members) :
    (t.append row).1.rows = t.rows ++ [(t.append row).2] := by
  unfold append
  split <;> rfl

/-! ## Rows that fit -/

/-- A row has a value in a column that is equal to `v`. -/
def HasValue (key : String) (v : Value) (row : Members) : Prop :=
  ∃ w, row.get? key = some w ∧ w.equals v = true

/-- The first row that has no value in a column, where null is none, lacks the column. -/
def LacksFirst (key : String) (rows : List Members) : Prop :=
  ∃ other, rows.find? (fun other => !isPresent key other) = some other ∧ other.has key = false

/-- What may become of a table when a row is written into the first row that fits. -/
inductive Upserted (fits : Members → Prop) (row : Members) (t t' : Table) (written : Members) :
    Bool → Prop where
  /-- The first row that fits gets the columns of the new one. -/
  | updated {before after : List Members} {other : Members}
      (rows : t.rows = before ++ other :: after)
      (passed : ∀ earlier ∈ before, ¬fits earlier) (fitting : fits other)
      (columns : ∀ name, written.get? name = (row.get? name).or (other.get? name))
      (rows' : t'.rows = before ++ written :: after) : Upserted fits row t t' written false
  /-- None fits, and the row is added at the end. -/
  | added (unfit : ∀ other ∈ t.rows, ¬fits other)
      (columns : ∀ name, (name = "id" → row.has name = true) → written.get? name = row.get? name)
      (rows' : t'.rows = t.rows ++ [written]) : Upserted fits row t t' written true

/-- A row that has an equal value has it also if missing ones count as null. -/
theorem equals_of_hasValue {key : String} {v : Value} {row : Members} (h : HasValue key v row) :
    (Members.getD row key).equals v = true := by
  obtain ⟨w, hw, hequals⟩ := h
  rw [Members.getD, hw]
  exact hequals

/-- A row that counts as having an equal value has one, unless the value is null and the row lacks
the column. -/
theorem hasValue_of_equals {key : String} {v : Value} {row : Members}
    (h : (Members.getD row key).equals v = true) :
    HasValue key v row ∨ v = .null ∧ row.has key = false := by
  cases hrow : row.get? key with
  | none =>
    rw [Members.getD, hrow] at h
    exact .inr ⟨Value.null_equals_iff.1 h, by rw [Members.has, hrow]; rfl⟩
  | some w =>
    rw [Members.getD, hrow] at h
    exact .inl ⟨w, hrow, h⟩

theorem equals_null_iff {key : String} {row : Members} :
    (Members.getD row key).equals .null = true ↔ isPresent key row = false := by
  rw [Value.equals_null_iff, isPresent, Bool.not_eq_false']
  cases Members.getD row key <;> simp [Value.isNull]

/-- The first row that counts as having null in a column is the first one without a value there. -/
theorem find?_absent {key : String} {before after : List Members} {other : Members}
    (passed : ∀ earlier ∈ before, ¬(Members.getD earlier key).equals .null = true)
    (fitting : (Members.getD other key).equals .null = true) :
    (before ++ other :: after).find? (fun other => !isPresent key other) = some other := by
  simp only [equals_null_iff] at passed fitting
  exact List.find?_eq_some_iff_append.2
    ⟨by simpa using fitting, before, after, rfl, fun earlier he => by simpa using passed earlier he⟩

/-- Writing into one row changes how many lack a column only if that row lacked it. -/
theorem countP_lacks {key : String} (before after : List Members) (other : Members)
    {written : Members} (has : written.has key = true) :
    (before ++ other :: after).countP (fun row => !row.has key) =
      (before ++ written :: after).countP (fun row => !row.has key) +
        if other.has key = true then 0 else 1 := by
  simp only [List.countP_append, List.countP_cons, has]
  cases other.has key <;> simp [Nat.add_assoc]

/-- Writing into the first row that counts as having an equal value is writing into the first that
has one, unless the value is null and a row that lacks the column comes first. -/
theorem Upserted.hasValue_iff {key : String} {v : Value} {row written : Members} {t t' : Table}
    {inserted : Bool} (present : row.get? key = some v)
    (h : Upserted (fun other => (Members.getD other key).equals v = true) row t t' written
      inserted) :
    Upserted (HasValue key v) row t t' written inserted ↔ ¬(v = .null ∧ LacksFirst key t.rows) := by
  constructor
  · rintro hvalue ⟨rfl, first, hfirst, hlacks⟩
    cases h with
    | added unfit columns rows' =>
      have habsent := List.find?_some hfirst
      exact unfit first (List.mem_of_find?_eq_some hfirst)
        (equals_null_iff.2 (by simpa using habsent))
    | @updated before after other rows passed fitting columns rows' =>
      rw [rows, find?_absent passed fitting, Option.some.injEq] at hfirst
      subst hfirst
      have hwritten : written.has key = true := by rw [Members.has, columns, present]; rfl
      cases hvalue with
      | @updated before₂ after₂ other₂ rows₂ passed₂ fitting₂ columns₂ rows₂' =>
        -- one row without the column has become one with it, and none has
        obtain ⟨w, hw, -⟩ := fitting₂
        have hother₂ : other₂.has key = true := by rw [Members.has, hw]; rfl
        have hfirst := countP_lacks before after other hwritten
        have hsecond := countP_lacks before₂ after₂ other₂ hwritten
        rw [← rows, ← rows', hlacks] at hfirst
        rw [← rows₂, ← rows₂', hother₂] at hsecond
        simp at hfirst hsecond
        omega
  · intro unlike
    cases h with
    | added unfit columns rows' =>
      exact .added (fun other hother hv => unfit other hother (equals_of_hasValue hv)) columns rows'
    | updated rows passed fitting columns rows' =>
      rcases hasValue_of_equals fitting with hv | ⟨rfl, hlacks⟩
      · exact .updated rows (fun earlier he hv => passed earlier he (equals_of_hasValue hv)) hv
          columns rows'
      · exact absurd ⟨rfl, _, rows ▸ find?_absent passed fitting, hlacks⟩ unlike

end Table

/-! ## Upserts -/

namespace TableStore

variable {s : TableStore} {id : String} {t : Table}

/-- What an upsert does to a table that is there. -/
theorem upsert_cases (there : s.get? id = some t) (row : Members) (key : String) :
    (∃ before other after, t.rows = before ++ other :: after ∧
      (∀ earlier ∈ before, Table.sameKey key row earlier = false) ∧
      Table.sameKey key row other = true ∧
      s.upsert id row key =
        .ok (s.put id { t with rows := before ++ other.update row :: after }, other.update row,
          false)) ∨
    (∀ other ∈ t.rows, Table.sameKey key row other = false) ∧
      s.upsert id row key = .ok (s.put id (t.append row).1, (t.append row).2, true) := by
  have hfind : s.find id = .ok t := by rw [find, there]
  rcases Table.exists_first (Table.sameKey key row) t.rows with
    unfit | ⟨before, other, after, hrows, hbefore, hother⟩
  · refine .inr ⟨unfit, ?_⟩
    rw [upsert, hfind]
    dsimp only [bind, Except.bind]
    rw [Table.updateFirst_of_unfit unfit]
    rfl
  · refine .inl ⟨before, other, after, hrows, hbefore, hother, ?_⟩
    rw [upsert, hfind]
    dsimp only [bind, Except.bind]
    rw [hrows, Table.updateFirst_append after hbefore hother]
    rfl

/-- A row is written into the first row of the same key, where a missing one counts as null. That is
the first row which has an equal key, unless the key is null and a row that lacks it comes first. -/
theorem upsert_by_value_iff (there : s.get? id = some t) {row : Members}
    (distinct : row.keys.Nodup) {key : String} {v : Value} (present : row.get? key = some v) :
    ∃ s' t' written inserted, s.upsert id row key = .ok (s', written, inserted) ∧
      s'.get? id = some t' ∧ (∀ other, other ≠ id → s'.get? other = s.get? other) ∧
      Table.Upserted (fun other => (Members.getD other key).equals v = true) row t t' written
        inserted ∧
      (Table.Upserted (Table.HasValue key v) row t t' written inserted ↔
        ¬(v = .null ∧ Table.LacksFirst key t.rows)) := by
  have hputs : ∀ t', (s.put id t').get? id = some t' ∧
      ∀ other, other ≠ id → (s.put id t').get? other = s.get? other := fun t' =>
    ⟨by rw [get?_put, if_pos rfl], fun other h => by rw [get?_put, if_neg h]⟩
  obtain ⟨t', written, inserted, hupsert, upserted⟩ : ∃ t' written inserted,
      s.upsert id row key = .ok (s.put id t', written, inserted) ∧
        Table.Upserted (fun other => (Members.getD other key).equals v = true) row t t' written
          inserted := by
    rcases upsert_cases there row key with
      ⟨before, other, after, hrows, hbefore, hother, hupsert⟩ | ⟨hunfit, hupsert⟩
    · refine ⟨_, _, _, hupsert, .updated hrows ?_ ?_ (Members.get?_update distinct) rfl⟩
      · intro earlier hearlier
        rw [← Table.sameKey_iff present, hbefore earlier hearlier]
        exact Bool.false_ne_true
      · exact (Table.sameKey_iff present).1 hother
    · refine ⟨_, _, _, hupsert,
        .added ?_ (fun _ => Table.get?_append t row) (Table.rows_append t row)⟩
      intro other hother
      rw [← Table.sameKey_iff present, hunfit other hother]
      exact Bool.false_ne_true
  exact ⟨_, t', written, inserted, hupsert, (hputs t').1, (hputs t').2, upserted,
    upserted.hasValue_iff present⟩

/-- People of whom one has no number, one has null for it, and two have equal numbers of different
sorts. -/
def people : List Members :=
  [[("name", .str "Ada")], [("name", .str "Grace"), ("no", .null)],
    [("name", .str "Linus"), ("no", .int 1)], [("name", .str "Barbara"), ("no", .bool true)]]

/-- The age of the person whose number is one. -/
def aged : Members := [("no", .float (.ofDecimal false 1 0)), ("age", .int 50)]

theorem upsert_by_value_iff_aged :
    (ofTables [("T", people)]).get? "T" = some (.ofRows people) ∧ aged.keys.Nodup ∧
      ∃ v s' t' written inserted, aged.get? "no" = some v ∧ v ≠ .null ∧
        (ofTables [("T", people)]).upsert "T" aged "no" = .ok (s', written, inserted) ∧
        s'.get? "T" = some t' ∧
        Table.Upserted (Table.HasValue "no" v) aged (.ofRows people) t' written inserted := by
  have there : (ofTables [("T", people)]).get? "T" = some (.ofRows people) := by decide +kernel
  have distinct : aged.keys.Nodup := by decide
  have present : aged.get? "no" = some (.float (.ofDecimal false 1 0)) := rfl
  obtain ⟨s', t', written, inserted, hupsert, hthere, -, -, hiff⟩ :=
    upsert_by_value_iff there distinct present
  exact ⟨there, distinct, _, s', t', written, inserted, present, by decide, hupsert, hthere,
    hiff.2 fun h => absurd h.1 (by decide)⟩

/-- A row whose key is null is written into a row that has no such column. -/
theorem upsert_null_overwrites :
    (∀ other ∈ (Table.ofRows [[("id", .str "c1"), ("name", .str "Ada")]]).rows,
      ¬Table.HasValue "email" .null other) ∧
    (ofTables [("T", [[("id", .str "c1"), ("name", .str "Ada")]])]).upsert "T"
        [("email", .null), ("name", .str "Bob")] "email" =
      .ok (ofTables [("T", [[("id", .str "c1"), ("name", .str "Bob"), ("email", .null)]])],
        [("id", .str "c1"), ("name", .str "Bob"), ("email", .null)], false) := by
  refine ⟨fun other hother => ?_, rfl⟩
  rintro ⟨w, hw, -⟩
  rw [List.mem_singleton.1 hother] at hw
  cases hw

/-- A row that has all columns of the new one, behind rows of other keys, is found and stays as it
is. -/
theorem upsert_again (s : TableStore) (id : String) {row : Members} (distinct : row.keys.Nodup)
    {key : String} {v : Value} (present : row.get? key = some v) (reflexive : v.equals v = true)
    {t : Table} {before after : List Members} {written : Members}
    (rows : t.rows = before ++ written :: after)
    (passed : ∀ earlier ∈ before, Table.sameKey key row earlier = false)
    (columns : ∀ name, row.has name = true → written.get? name = row.get? name) :
    (s.put id t).upsert id row key = .ok (s.put id t, written, false) := by
  have hfind : (s.put id t).find id = .ok t := by rw [find, get?_put, if_pos rfl]
  have hkey : Members.getD written key = v := by
    rw [Members.getD, columns key (by rw [Members.has, present]; rfl), present]
    rfl
  have hfits : Table.sameKey key row written = true := by
    rw [Table.sameKey_iff present, hkey]
    exact reflexive
  have hkept : written.update row = written := Members.update_eq_self distinct columns
  rw [upsert, hfind]
  dsimp only [bind, Except.bind]
  rw [rows, Table.updateFirst_append after passed hfits, hkept, ← rows]
  dsimp only
  rw [put_put]
  rfl

/-- Writing a row once more finds the row that it was written into before, and changes nothing. -/
theorem upsert_upsert (there : s.get? id = some t) {row : Members} (distinct : row.keys.Nodup)
    {key : String} {v : Value} (present : row.get? key = some v) (reflexive : v.equals v = true) :
    ∃ s' t' written inserted, s.upsert id row key = .ok (s', written, inserted) ∧
      s'.upsert id row key = .ok (s', written, false) ∧ s'.get? id = some t' ∧
      t'.rows.length ≤ t.rows.length + 1 := by
  rcases upsert_cases there row key with
    ⟨before, other, after, hrows, hbefore, hother, hupsert⟩ | ⟨hunfit, hupsert⟩
  · refine ⟨_, _, _, _, hupsert,
      upsert_again s id distinct present reflexive rfl hbefore fun name hname => ?_,
      by rw [get?_put, if_pos rfl], by rw [hrows]; simp⟩
    obtain ⟨w, hw⟩ := Option.isSome_iff_exists.1 hname
    rw [Members.get?_update distinct, hw]
    rfl
  · refine ⟨_, _, _, _, hupsert, upsert_again s id distinct present reflexive
        (Table.rows_append t row) hunfit fun name hname => ?_,
      by rw [get?_put, if_pos rfl], by rw [Table.rows_append]; simp⟩
    exact Table.get?_append t row fun _ => hname

theorem upsert_upsert_aged :
    (ofTables [("T", people)]).get? "T" = some (.ofRows people) ∧ aged.keys.Nodup ∧
      ∃ v s' t' written inserted, aged.get? "no" = some v ∧ v.equals v = true ∧
        (ofTables [("T", people)]).upsert "T" aged "no" = .ok (s', written, inserted) ∧
        s'.upsert "T" aged "no" = .ok (s', written, false) ∧ s'.get? "T" = some t' ∧
        t'.rows.length ≤ (Table.ofRows people).rows.length + 1 := by
  have there : (ofTables [("T", people)]).get? "T" = some (.ofRows people) := by decide +kernel
  have distinct : aged.keys.Nodup := by decide
  have present : aged.get? "no" = some (.float (.ofDecimal false 1 0)) := rfl
  have reflexive : (Value.float (.ofDecimal false 1 0)).equals (.float (.ofDecimal false 1 0)) =
      true := by decide +kernel
  obtain ⟨s', t', written, inserted, h⟩ := upsert_upsert there distinct present reflexive
  exact ⟨there, distinct, _, s', t', written, inserted, present, reflexive, h⟩

/-- The first person with that number gets the age, both times. -/
example :
    let once := (ofTables [("T", people)]).upsert "T" aged "no"
    (once.toOption.bind fun first => (first.1.upsert "T" aged "no").toOption).map (·.2) =
      some ([("name", .str "Linus"), ("no", .float (.ofDecimal false 1 0)), ("id", .str "row_3"),
        ("age", .int 50)], false) := by
  decide +kernel

end TableStore

end Conduit
