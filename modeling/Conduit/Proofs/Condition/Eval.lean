import Conduit.Condition.Eval
import Mathlib.Data.List.Nodup

/-!
# Evaluating data that are written out

A literal stands for its datum, and lists and tables of expressions for the lists and tables of
their data, where no names are needed. Two tables are equal if each entry of one is found in the
other.

* `Expr.Evaluates` — what an expression without names stands for;
* `Datum.writeAll_nil`, `Datum.nodup_of_length_eq` — a table that no entry overwrote has them all;
* `Datum.allEntries_iff`, `Datum.equalItems_iff` — how tables and lists are compared.
-/

namespace Conduit.Condition

/-! ## Tables under texts -/

namespace Datum

@[simp] theorem agrees_str (s t : List Char) : agrees (str s) (str t) = (s == t) := by
  rw [agrees, isSameNaN, equals, Bool.false_or]
  all_goals simp

/-- An entry under a text. -/
def entry (e : List Char × Datum) : Datum × Datum := (str e.1, e.2)

theorem length_setEntry_le (before : List (Datum × Datum)) (key d : Datum) :
    (setEntry before key d).length ≤ before.length + 1 := by
  induction before with
  | nil => exact Nat.le_refl 1
  | cons e before ih =>
    obtain ⟨k, old⟩ := e
    rw [setEntry]
    split
    · exact Nat.le_succ _
    · exact Nat.succ_le_succ ih

/-- An entry under a new key comes last. -/
theorem setEntry_of_not_mem {before : List (List Char × Datum)} {key : List Char} (d : Datum)
    (fresh : key ∉ before.map (·.1)) :
    setEntry (before.map entry) (str key) d = (before ++ [(key, d)]).map entry := by
  induction before with
  | nil => rfl
  | cons e before ih =>
    rw [List.map_cons, List.mem_cons, not_or] at fresh
    rw [List.map_cons, entry, setEntry, agrees_str, if_neg (by simpa using Ne.symm fresh.1),
      ih fresh.2]
    rfl

/-- An entry under a key that is there takes the place of the one before. -/
theorem length_setEntry_of_mem {before : List (List Char × Datum)} {key : List Char} (d : Datum)
    (there : key ∈ before.map (·.1)) :
    (setEntry (before.map entry) (str key) d).length = before.length := by
  induction before with
  | nil => cases there
  | cons e before ih =>
    rw [List.map_cons, entry, setEntry, agrees_str]
    split
    · rw [List.length_cons, List.length_map, List.length_cons]
    · next hne =>
      rw [List.map_cons, List.mem_cons] at there
      have hrest := there.resolve_left fun h => hne (by simp [h])
      rw [List.length_cons, ih hrest, List.length_cons]

/-- Entries written one after the other. -/
def writeAll (before : List (Datum × Datum)) (entries : List (List Char × Datum)) :
    List (Datum × Datum) :=
  entries.foldl (fun acc e => setEntry acc (str e.1) e.2) before

theorem length_writeAll_le (before : List (Datum × Datum)) (entries : List (List Char × Datum)) :
    (writeAll before entries).length ≤ before.length + entries.length := by
  induction entries generalizing before with
  | nil => exact Nat.le_refl _
  | cons e entries ih =>
    have hstep := length_setEntry_le before (str e.1) e.2
    have hrest := ih (setEntry before (str e.1) e.2)
    rw [List.length_cons]
    exact Nat.le_trans hrest (by omega)

/-- Entries under different keys are all there. -/
theorem writeAll_of_nodup {before entries : List (List Char × Datum)}
    (distinct : ((before ++ entries).map (·.1)).Nodup) :
    writeAll (before.map entry) entries = (before ++ entries).map entry := by
  induction entries generalizing before with
  | nil => rw [List.append_nil]; rfl
  | cons e entries ih =>
    have hfresh : e.1 ∉ before.map (·.1) := fun hmem => by
      rw [List.map_append, List.nodup_append] at distinct
      exact distinct.2.2 _ hmem _ (List.mem_cons_self ..) rfl
    rw [List.append_cons] at distinct ⊢
    rw [← ih distinct, ← setEntry_of_not_mem e.2 hfresh]
    rfl

/-- When no entry was overwritten, all keys are different. -/
theorem nodup_of_length_writeAll {before entries : List (List Char × Datum)}
    (distinct : (before.map (·.1)).Nodup)
    (h : before.length + entries.length ≤ (writeAll (before.map entry) entries).length) :
    ((before ++ entries).map (·.1)).Nodup := by
  induction entries generalizing before with
  | nil => rwa [List.append_nil]
  | cons e entries ih =>
    change _ ≤ (writeAll (setEntry (before.map entry) (str e.1) e.2) entries).length at h
    rw [List.length_cons] at h
    by_cases hthere : e.1 ∈ before.map (·.1)
    · have hrest := length_writeAll_le (setEntry (before.map entry) (str e.1) e.2) entries
      rw [length_setEntry_of_mem e.2 hthere] at hrest
      omega
    · rw [setEntry_of_not_mem e.2 hthere, ← Nat.add_assoc, Nat.add_right_comm] at h
      rw [List.append_cons]
      refine ih ?_ (by rwa [List.length_append, List.length_singleton])
      rw [List.map_append, List.map_singleton]
      exact distinct.append (List.nodup_singleton _) (by simpa using hthere)

/-- Entries under different keys make a table. -/
theorem writeAll_nil {entries : List (List Char × Datum)} (distinct : (entries.map (·.1)).Nodup) :
    writeAll [] entries = entries.map entry :=
  @writeAll_of_nodup [] entries distinct

/-- A table that has all entries has them under different keys. -/
theorem nodup_of_length_eq {entries : List (List Char × Datum)}
    (h : (writeAll [] entries).length = entries.length) : (entries.map (·.1)).Nodup :=
  @nodup_of_length_writeAll [] entries List.nodup_nil (Nat.le_of_eq ((Nat.zero_add _).trans h.symm))

/-! ## Equality -/

theorem allEntries_iff {as bs : List (Datum × Datum)} : allEntries as bs = true ↔
    ∀ a ∈ as, ∃ b, bs.find? (fun b => agrees a.1 b.1) = some b ∧ agrees a.2 b.2 = true := by
  induction as with
  | nil => simp [allEntries]
  | cons a as ih =>
    obtain ⟨key, d⟩ := a
    rw [allEntries, Bool.and_eq_true, ih, List.forall_mem_cons]
    refine and_congr_left' ?_
    simp only [agrees]
    cases bs.find? fun b => isSameNaN key b.1 || equals key b.1 <;> simp

theorem equalItems_iff {as bs : List Datum} :
    equalItems as bs = true ↔ List.Forall₂ (fun a b => agrees a b = true) as bs := by
  induction as generalizing bs with
  | nil => cases bs <;> simp [equalItems]
  | cons a as ih =>
    cases bs with
    | nil => simp [equalItems]
    | cons b bs => rw [equalItems, Bool.and_eq_true, ih, List.forall₂_cons, agrees]

end Datum

/-! ## Expressions without names -/

namespace Expr

/-- What an expression stands for where nothing but the functions has a name, or that it fails. -/
def Evaluates (e : Expr) (d? : Option Datum) : Prop :=
  ∀ made, (e.eval ⟨[], false⟩).run made = d?.map fun d => (d, made)

theorem Evaluates.eval? {e : Expr} {d? : Option Datum} (h : Evaluates e d?) :
    e.eval? ⟨[], false⟩ = d? := by
  rw [Expr.eval?, h 0]
  cases d? <;> rfl

theorem evaluates_literal (d : Datum) : Evaluates (.literal d) (some d) := fun _ => rfl

theorem evaluates_name {s : String} (unknown : builtins.lookup s = none) :
    Evaluates (.name s) none := fun made => by
  have hnone : Scope.lookup? ⟨[], false⟩ s = none := unknown
  change StateT.run (liftM (Scope.lookup? ⟨[], false⟩ s) : Evaluation Datum) made = none
  rw [hnone]
  rfl

/-- An operator is applied to what its operand stands for. -/
theorem Evaluates.run_unary {e : Expr} {d? : Option Datum} (h : Evaluates e d?) (op : UnaryOp)
    (made : Nat) :
    ((unary op e).eval ⟨[], false⟩).run made = d?.bind fun d =>
      (do Evaluation.make (← Datum.unary? op d) : Evaluation Datum).run made := by
  rw [eval, StateT.run_bind, h made]
  cases d? <;> rfl

/-- An operator on an operand that fails fails. -/
theorem evaluates_unary_none {e : Expr} (op : UnaryOp) (h : Evaluates e none) :
    Evaluates (.unary op e) none := h.run_unary op

theorem evaluates_minus_int {e : Expr} {n : Int} (h : Evaluates e (some (.int n))) :
    Evaluates (.unary .minus e) (some (.int (-n))) := h.run_unary .minus

theorem evaluates_minus_float {e : Expr} {x : Double} (h : Evaluates e (some (.float x)))
    (number : x.neg.isNaN = false) : Evaluates (.unary .minus e) (some (.float x.neg)) :=
  fun made => by
    rw [h.run_unary .minus made]
    change (if x.neg.isNaN then _ else _ : Evaluation Datum).run made = _
    rw [number]
    rfl

section Collections

variable {α : Type} {expr : α → Expr} {datum : α → Option Datum} {l : List α}

theorem evalAll_map (h : ∀ a ∈ l, Evaluates (expr a) (datum a)) (made : Nat) :
    (evalAll ⟨[], false⟩ (l.map expr)).run made = (l.mapM datum).map fun ds => (ds, made) := by
  induction l with
  | nil => rfl
  | cons a l ih =>
    rw [List.forall_mem_cons] at h
    rw [List.map_cons, evalAll, StateT.run_bind, h.1 made, List.mapM_cons]
    cases datum a with
    | none => rfl
    | some d =>
      simp only [Option.map_some, Option.bind_eq_bind, Option.bind_some, StateT.run_bind, ih h.2]
      cases l.mapM datum <;> rfl

/-- A list of expressions stands for the list of their data. -/
theorem evaluates_list (h : ∀ a ∈ l, Evaluates (expr a) (datum a)) :
    Evaluates (.list (l.map expr)) ((l.mapM datum).map .list) := fun made => by
  rw [eval, StateT.run_bind, evalAll_map h made]
  cases l.mapM datum <;> rfl

variable (key : α → List Char)

/-- The data of some entries under their keys. -/
def entriesOf (key : α → List Char) (datum : α → Option Datum) (l : List α) :
    Option (List (List Char × Datum)) :=
  l.mapM fun a => (datum a).map fun d => (key a, d)

theorem evalEntries_map (h : ∀ a ∈ l, Evaluates (expr a) (datum a))
    (before : List (Datum × Datum)) (made : Nat) :
    (evalEntries ⟨[], false⟩ before
      (l.map fun a => (.literal (.str (key a)), expr a))).run made =
    (entriesOf key datum l).map fun entries => (Datum.writeAll before entries, made) := by
  induction l generalizing before with
  | nil => rfl
  | cons a l ih =>
    rw [List.forall_mem_cons] at h
    have hkey := evaluates_literal (.str (key a)) made
    rw [List.map_cons, evalEntries, StateT.run_bind, hkey, entriesOf, List.mapM_cons]
    simp only [Option.map_some, Option.bind_eq_bind, Option.bind_some, StateT.run_bind, h.1 made]
    cases datum a with
    | none => rfl
    | some d =>
      simp only [Option.map_some, Option.bind_some, Datum.isKey, if_true, ih h.2]
      rw [entriesOf]
      cases l.mapM fun a => (datum a).map fun d => (key a, d) <;> rfl

/-- A table of expressions under texts stands for the table of their data. -/
theorem evaluates_dict (h : ∀ a ∈ l, Evaluates (expr a) (datum a)) :
    Evaluates (.dict (l.map fun a => (.literal (.str (key a)), expr a)))
      ((entriesOf key datum l).map fun entries => .dict (Datum.writeAll [] entries)) :=
  fun made => by
    rw [eval, StateT.run_bind, evalEntries_map key h [] made]
    cases entriesOf key datum l <;> rfl

end Collections

end Expr

end Conduit.Condition
