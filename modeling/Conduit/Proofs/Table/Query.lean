import Conduit.Connector.Tables
import Conduit.Proofs.Table.Order
import Conduit.Proofs.Value.Equality
import Mathlib.Data.List.Count

/-!
# What queries answer

A query answers with rows of its table: those that meet all filters, no other and none twice.
Without a sort key they stand as in the table. With one, those that have a value in its column come
first, in the order of their values and as in the table where the values are equal, and then the
others as in the table. A limit leaves the first ones.

* `Value.TotallyOrdered` — values that can be sorted;
* `Value.rank` — the place of a value among others, by which it can be told how they are sorted;
* `Table.Arranged`, `Table.exists_arrange` — rows in the order of a sort key;
* `TableStore.query_arranges` — what a query answers.
-/

namespace Conduit

/-! ## Values that can be sorted -/

namespace Value

/-- Values are totally ordered: any two can be compared, and either they are equal or one of them is
less; what is less than a lesser one is less. -/
structure TotallyOrdered (values : List Value) : Prop where
  compared : ∀ a ∈ values, ∀ b ∈ values, ∃ answer, less a b = .ok answer
  trichotomy : ∀ a ∈ values, ∀ b ∈ values,
    (isLess a b = true ∧ a.equals b = false ∧ isLess b a = false) ∨
      (isLess a b = false ∧ a.equals b = true ∧ isLess b a = false) ∨
      (isLess a b = false ∧ a.equals b = false ∧ isLess b a = true)
  trans : ∀ a ∈ values, ∀ b ∈ values, ∀ c ∈ values,
    isLess a b = true → isLess b c = true → isLess a c = true

instance (values : List Value) : Decidable (TotallyOrdered values) :=
  decidable_of_iff
    ((∀ a ∈ values, ∀ b ∈ values, ∃ answer, less a b = .ok answer) ∧
      (∀ a ∈ values, ∀ b ∈ values,
        (isLess a b = true ∧ a.equals b = false ∧ isLess b a = false) ∨
          (isLess a b = false ∧ a.equals b = true ∧ isLess b a = false) ∨
          (isLess a b = false ∧ a.equals b = false ∧ isLess b a = true)) ∧
      ∀ a ∈ values, ∀ b ∈ values, ∀ c ∈ values,
        isLess a b = true → isLess b c = true → isLess a c = true)
    ⟨fun h => ⟨h.1, h.2.1, h.2.2⟩, fun h => ⟨h.1, h.2, h.3⟩⟩

/-- How many values are less than a value. -/
def rank (values : List Value) (v : Value) : Nat := values.countP fun w => isLess w v

namespace TotallyOrdered

variable {values : List Value} (h : TotallyOrdered values) {a b : Value}

include h

/-- Values are equal exactly if neither is less. -/
theorem equals_iff (ha : a ∈ values) (hb : b ∈ values) :
    a.equals b = true ↔ isLess a b = false ∧ isLess b a = false := by
  rcases h.trichotomy a ha b hb with ⟨hab, heq, hba⟩ | ⟨hab, heq, hba⟩ | ⟨hab, heq, hba⟩ <;>
    simp [hab, heq, hba]

theorem asymm (ha : a ∈ values) (hb : b ∈ values) (hless : isLess a b = true) :
    isLess b a = false := by
  rcases h.trichotomy a ha b hb with ⟨-, -, hba⟩ | ⟨-, -, hba⟩ | ⟨hab, -, -⟩
  · exact hba
  · exact hba
  · rw [hab] at hless
    cases hless

/-- What is less than one of two equal values is less than the other. -/
theorem less_of_equals (ha : a ∈ values) (hb : b ∈ values) (equal : a.equals b = true) {w : Value}
    (hw : w ∈ values) (hless : isLess w a = true) : isLess w b = true := by
  have hba : b.equals a = true := (h.equals_iff hb ha).2 ((h.equals_iff ha hb).1 equal).symm
  rcases h.trichotomy w hw b hb with ⟨hwb, -, -⟩ | ⟨-, hwb, -⟩ | ⟨-, -, hbw⟩
  · exact hwb
  · have hwa := ((h.equals_iff hw ha).1 (equals_trans hwb hba)).1
    rw [hless] at hwa
    cases hwa
  · have hnot := ((h.equals_iff hb ha).1 hba).1
    rw [h.trans b hb w hw a ha hbw hless] at hnot
    cases hnot

/-- A lesser value has a lesser rank. -/
theorem rank_lt (ha : a ∈ values) (hb : b ∈ values) (hless : isLess a b = true) :
    rank values a < rank values b := by
  have hsome : values.countP (fun w => isLess w a) =
      (values.filter fun w => isLess w b).countP fun w => isLess w a := by
    rw [List.countP_filter]
    refine List.countP_congr fun w hw => ?_
    simpa using fun hwa => h.trans w hw a ha b hb hwa hless
  have hself : isLess a a = false := by
    cases hself : isLess a a with
    | false => rfl
    | true => exact hself.symm.trans (h.asymm ha ha hself)
  rw [rank, rank, hsome, List.countP_eq_length_filter (l := values)]
  exact List.countP_lt_length_iff.2 ⟨a, List.mem_filter.2 ⟨ha, hless⟩, hself⟩

/-- Equal values have equal ranks. -/
theorem rank_eq (ha : a ∈ values) (hb : b ∈ values) (equal : a.equals b = true) :
    rank values a = rank values b := by
  have hba : b.equals a = true := (h.equals_iff hb ha).2 ((h.equals_iff ha hb).1 equal).symm
  exact List.countP_congr fun w hw =>
    ⟨h.less_of_equals ha hb equal hw, h.less_of_equals hb ha hba hw⟩

theorem isLess_iff (ha : a ∈ values) (hb : b ∈ values) :
    isLess a b = true ↔ rank values a < rank values b := by
  refine ⟨h.rank_lt ha hb, fun hlt => ?_⟩
  rcases h.trichotomy a ha b hb with ⟨hab, -, -⟩ | ⟨-, hab, -⟩ | ⟨-, -, hba⟩
  · exact hab
  · exact absurd (h.rank_eq ha hb hab) hlt.ne
  · exact absurd (h.rank_lt hb ha hba) hlt.asymm

theorem equals_iff_rank (ha : a ∈ values) (hb : b ∈ values) :
    a.equals b = true ↔ rank values a = rank values b := by
  rw [h.equals_iff ha hb, Bool.eq_false_iff, Bool.eq_false_iff, Ne, Ne, h.isLess_iff ha hb,
    h.isLess_iff hb ha]
  omega

/-- Comparing values compares their ranks. -/
theorem less_eq (ha : a ∈ values) (hb : b ∈ values) :
    less a b = .ok (decide (rank values a < rank values b)) := by
  obtain ⟨answer, hanswer⟩ := h.compared a ha b hb
  have hless : isLess a b = answer := by rw [isLess, hanswer]
  rw [hanswer, Except.ok.injEq, Bool.eq_iff_iff, decide_eq_true_eq, ← h.isLess_iff ha hb, hless]

end TotallyOrdered

end Value

/-! ## Rows in the order of a sort key -/

namespace Table

/-- The value of a row in the column of a sort key. -/
def SortKey.valueOf (key : SortKey) (row : Members) : Value := Members.getD row key.column

/-- The rows that have a value in the column of a sort key. -/
def SortKey.present (key : SortKey) (rows : List Members) : List Members :=
  rows.filter (isPresent key.column)

/-- The rows that have no value there. -/
def SortKey.absent (key : SortKey) (rows : List Members) : List Members :=
  rows.filter fun row => !isPresent key.column row

/-- A row comes before another one, or has an equal value, in the direction of a sort key. -/
def SortKey.Precedes (key : SortKey) (row other : Members) : Prop :=
  (key.valueOf row).equals (key.valueOf other) = true ∨
    if key.descending then Value.isLess (key.valueOf other) (key.valueOf row) = true
    else Value.isLess (key.valueOf row) (key.valueOf other) = true

/-- Rows that have a value in the column of a sort key stand in its order, those of equal values as
they were. -/
structure Arranged (key : SortKey) (rows sorted : List Members) : Prop where
  perm : sorted.Perm rows
  ordered : sorted.Pairwise key.Precedes
  ties : ∀ row ∈ rows, sorted.filter (fun other => (key.valueOf other).equals (key.valueOf row)) =
    rows.filter fun other => (key.valueOf other).equals (key.valueOf row)

/-- Rows that are sorted by places which follow their values stand in the order of their values. -/
theorem Sorts.arranged {key : SortKey} {rows sorted : List Members} {κ : Type} [LinearOrder κ]
    {place : Members → κ} (sorts : Sorts place rows sorted)
    (tie : ∀ a ∈ rows, ∀ b ∈ rows,
      (key.valueOf a).equals (key.valueOf b) = true ↔ place a = place b)
    (before : ∀ a ∈ rows, ∀ b ∈ rows, place a < place b → key.Precedes a b) :
    Arranged key rows sorted where
  perm := sorts.perm
  ordered := by
    refine sorts.ascends.imp_of_mem fun {a b} ha hb hle => ?_
    have ha := sorts.mem_iff.1 ha
    have hb := sorts.mem_iff.1 hb
    rcases hle.eq_or_lt with heq | hlt
    · exact .inl ((tie a ha b hb).2 heq)
    · exact before a ha b hb hlt
  ties := by
    intro row hrow
    have htied : ∀ l : List Members, (∀ a ∈ l, a ∈ rows) →
        l.filter (fun other => (key.valueOf other).equals (key.valueOf row)) = tied place row l :=
      fun l hl => List.filter_congr fun a ha => by
        rw [Bool.eq_iff_iff, tie a (hl a ha) row hrow, decide_eq_true_eq]
    rw [htied sorted fun a ha => sorts.mem_iff.1 ha, htied rows fun a ha => ha, sorts.ties]

/-- Rows whose values are totally ordered can be put in the order of a sort key. -/
theorem exists_arrange {key : SortKey} {rows : List Members}
    (sortable : Value.TotallyOrdered ((key.present rows).map key.valueOf)) :
    ∃ sorted, arrange key rows = .ok (sorted ++ key.absent rows) ∧
      Arranged key (key.present rows) sorted := by
  generalize hplace : (fun row => Value.rank ((key.present rows).map key.valueOf) (key.valueOf row))
    = place
  have hvalue : ∀ {a}, a ∈ key.present rows → key.valueOf a ∈ (key.present rows).map key.valueOf :=
    List.mem_map_of_mem
  have hless : ∀ a ∈ key.present rows, ∀ b ∈ key.present rows,
      Value.less (key.valueOf a) (key.valueOf b) = .ok (decide (place a < place b)) := by
    intro a ha b hb
    rw [← hplace]
    exact sortable.less_eq (hvalue ha) (hvalue hb)
  have htie : ∀ a ∈ key.present rows, ∀ b ∈ key.present rows,
      (key.valueOf a).equals (key.valueOf b) = true ↔ place a = place b := by
    intro a ha b hb
    rw [← hplace]
    exact sortable.equals_iff_rank (hvalue ha) (hvalue hb)
  have hbefore : ∀ a ∈ key.present rows, ∀ b ∈ key.present rows, place a < place b →
      Value.isLess (key.valueOf a) (key.valueOf b) = true := by
    intro a ha b hb hlt
    rw [Value.isLess, hless a ha b hb]
    exact decide_eq_true hlt
  unfold arrange
  dsimp only
  split
  · next hdescending =>
    obtain ⟨sorted, hsorted, sorts⟩ := exists_sortByDescending hless
    refine ⟨sorted, except_bind_eq_ok.2 ⟨sorted, hsorted, rfl⟩, sorts.arranged ?_ ?_⟩
    · exact fun a ha b hb => (htie a ha b hb).trans OrderDual.toDual_inj.symm
    · intro a ha b hb hlt
      exact .inr (by rw [if_pos hdescending]; exact hbefore b hb a ha hlt)
  · next hascending =>
    obtain ⟨sorted, hsorted, sorts⟩ := exists_sortBy hless
    refine ⟨sorted, except_bind_eq_ok.2 ⟨sorted, hsorted, rfl⟩, sorts.arranged htie ?_⟩
    intro a ha b hb hlt
    exact .inr (by rw [if_neg hascending]; exact hbefore a ha b hb hlt)

/-- Rows are put in order as a sort key asks, if there is one: those with a value first, then the
others. -/
def IsOrdered (sort : Option SortKey) (rows arranged : List Members) : Prop :=
  match sort with
  | none => arranged = rows
  | some key => ∃ sorted, arranged = sorted ++ key.absent rows ∧
      Arranged key (key.present rows) sorted

/-- Putting rows in order loses and doubles none. -/
theorem IsOrdered.perm {sort : Option SortKey} {rows arranged : List Members}
    (h : IsOrdered sort rows arranged) : arranged.Perm rows := by
  cases sort with
  | none => exact .of_eq h
  | some key =>
    obtain ⟨sorted, rfl, arranged⟩ := h
    exact (arranged.perm.append_right _).trans (List.filter_append_perm _ rows)

/-- How many of so many rows a limit leaves. -/
def reach (limit : Option Int) (count : Nat) : Nat :=
  match limit with
  | none => count
  | some n => min n.toNat count

theorem reach_le (limit : Option Int) (count : Nat) : reach limit count ≤ count := by
  cases limit with
  | none => exact le_rfl
  | some n => exact min_le_right _ _

theorem firstRows_of_nonneg {limit : Option Int} (nonneg : ∀ n ∈ limit, 0 ≤ n)
    (rows : List Members) : firstRows limit rows = rows.take (reach limit rows.length) := by
  cases limit with
  | none => exact List.take_length.symm
  | some n =>
    rw [firstRows, if_pos (nonneg n rfl), reach, List.take_eq_take_min]

end Table

/-! ## Queries -/

namespace TableStore

open Table (SortKey Filter)

/-- A query whose sort values are totally ordered answers with the first of the rows that meet all
filters, in the order asked for, as many as its limit leaves; and reading a table changes none. -/
theorem query_arranges {s : TableStore} {id : String} {t : Table} (there : s.get? id = some t)
    (filters : List Filter) {sort : Option SortKey} {limit : Option Int}
    (sortable : ∀ key ∈ sort,
      Value.TotallyOrdered ((key.present (t.select filters)).map key.valueOf))
    (nonneg : ∀ n ∈ limit, 0 ≤ n) :
    (∃ arranged answer, s.query id filters sort limit = .ok answer ∧
      answer <+: arranged ∧ answer.length = Table.reach limit (t.select filters).length ∧
      arranged.Perm (t.select filters) ∧ Table.IsOrdered sort (t.select filters) arranged) ∧
    ∀ step input context environment,
      (TableQuery.connector.call step input context environment).1 = environment := by
  refine ⟨?_, fun _ _ _ _ => rfl⟩
  obtain ⟨arranged, hquery, ordered⟩ : ∃ arranged,
      s.query id filters sort limit = .ok (Table.firstRows limit arranged) ∧
        Table.IsOrdered sort (t.select filters) arranged := by
    have hfind : s.find id = .ok t := by rw [find, there]
    rw [query, hfind]
    cases sort with
    | none => exact ⟨_, rfl, rfl⟩
    | some key =>
      obtain ⟨sorted, harrange, arranged⟩ := Table.exists_arrange (sortable key rfl)
      refine ⟨_, ?_, sorted, rfl, arranged⟩
      dsimp only [bind, Except.bind]
      rw [harrange]
      rfl
  have hperm := ordered.perm
  rw [Table.firstRows_of_nonneg nonneg, hperm.length_eq] at hquery
  refine ⟨arranged, _, hquery, List.take_prefix _ _, ?_, hperm, ordered⟩
  rw [List.length_take, hperm.length_eq]
  exact Nat.min_eq_left (Table.reach_le limit _)

/-- Rows of two groups: scores of several sorts, two of them equal, and rows without one. -/
def scores : List Members :=
  [[("group", .str "a"), ("score", .int 2)], [("group", .str "a"), ("score", .bool true)],
    [("group", .str "a")], [("group", .str "b"), ("score", .str "x")],
    [("group", .str "a"), ("score", .float (.ofDecimal false 1 0))],
    [("group", .str "a"), ("score", .null)], [("group", .str "a"), ("score", .int 3)]]

/-- The rows of the first group. -/
def firstGroup : Filter := { column := "group", value := .str "a" }

/-- Great scores come first. -/
def byScore : SortKey := { column := "score", descending := true }

theorem query_arranges_scores :
    (ofTables [("T", scores)]).get? "T" = some (.ofRows scores) ∧
      Value.TotallyOrdered
        ((byScore.present ((Table.ofRows scores).select [firstGroup])).map byScore.valueOf) ∧
      (∃ arranged answer, (ofTables [("T", scores)]).query "T" [firstGroup] byScore (some 5) =
          .ok answer ∧ answer <+: arranged ∧ answer.length = 5 ∧
        arranged.Perm ((Table.ofRows scores).select [firstGroup]) ∧
        Table.IsOrdered byScore ((Table.ofRows scores).select [firstGroup]) arranged) := by
  have there : (ofTables [("T", scores)]).get? "T" = some (.ofRows scores) := by decide +kernel
  have sortable : Value.TotallyOrdered
      ((byScore.present ((Table.ofRows scores).select [firstGroup])).map byScore.valueOf) := by
    decide +kernel
  have hcount : Table.reach (some 5) ((Table.ofRows scores).select [firstGroup]).length = 5 := by
    decide +kernel
  refine ⟨there, sortable, ?_⟩
  rw [← hcount]
  exact (query_arranges there [firstGroup] (by rintro key ⟨⟩; exact sortable)
    (by rintro n ⟨⟩; decide)).1

/-- Equal scores stand as in the table, also downwards, and a row without one comes behind. -/
example :
    (((ofTables [("T", scores)]).query "T" [firstGroup] byScore (some 5)).map fun rows =>
        rows.map fun row => Members.getD row "id").toOption =
      some [.str "row_7", .str "row_1", .str "row_2", .str "row_5", .str "row_3"] := by
  decide +kernel

end TableStore

end Conduit
