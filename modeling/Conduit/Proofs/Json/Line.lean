import Conduit.Json.Writer
import Conduit.Proofs.Text.Lines
import Conduit.Proofs.Value.Document
import Mathlib.Data.List.Forall2

/-!
# Values in one line

A value is written in one line of plain ASCII, whatever its texts hold: everything beyond it and
every control character stands as an escape.

* `Json.sortNamed_perm`, `Json.forall₂_sortNamed` — members are only put in order, by their names;
* `Json.lineItems?_eq`, `Json.lineMembers?_eq` — the lines of the parts of a value;
* `Json.plain_lineWith` — the line of a value is plain, so it has no line breaks.
-/

namespace Conduit

open Text

/-- A character of plain ASCII that shows as itself, or the space. -/
def IsPlain (c : Char) : Prop := 0x20 ≤ c.toNat ∧ c.toNat < 0x7F

instance : DecidablePred IsPlain := fun _ => inferInstanceAs (Decidable (_ ∧ _))

theorem IsPlain.endsLine {c : Char} (h : IsPlain c) : endsLine c = false := by
  have hplain : Spans.has [(0x20, 0x7E)] c.toNat = true := by
    simp only [Spans.has, Bool.or_false, Bool.and_eq_true, decide_eq_true_eq]
    exact ⟨h.1, Nat.le_of_lt_succ h.2⟩
  exact Spans.not_has_of_apart (by decide) hplain

theorem Text.Consists.unbroken {s : String} (h : Consists IsPlain s) : Unbroken s :=
  h.mono fun _ => IsPlain.endsLine

/-! ## Numbers -/

/-- A character of a numeral: a digit, a sign, the point or the mark of the exponent. -/
def IsNumeral (c : Char) : Prop := c.isDigit = true ∨ c = '-' ∨ c = '+' ∨ c = '.' ∨ c = 'e'

instance : DecidablePred IsNumeral := fun _ => inferInstanceAs (Decidable (_ ∨ _))

theorem IsNumeral.plain {c : Char} (h : IsNumeral c) : IsPlain c := by
  rcases h with h | rfl | rfl | rfl | rfl
  · simp only [Char.isDigit, Bool.and_eq_true, decide_eq_true_eq, UInt32.le_iff_toNat_le] at h
    exact ⟨Nat.le_trans (by decide) h.1, Nat.lt_of_le_of_lt h.2 (by decide)⟩
  all_goals decide

theorem numeral_toString (n : Nat) : Consists IsNumeral (toString n) := by
  rw [Nat.toString_eq_ofList_toDigits, consists_ofList]
  exact fun c hc => .inl (Nat.isDigit_of_mem_toDigits (by decide) (by decide) hc)

theorem numeral_toString_int (n : Int) : Consists IsNumeral (toString n) := by
  cases n with
  | ofNat n => exact numeral_toString n
  | negSucc n => exact consists_append.2 ⟨by decide, numeral_toString (n + 1)⟩

theorem plain_toString (n : Nat) : Consists IsPlain (toString n) :=
  (numeral_toString n).mono fun _ => IsNumeral.plain

/-- Some zeros. -/
theorem numeral_zeros (n : Nat) : Consists IsNumeral ("".pushn '0' n) :=
  consists_pushn consists_empty (by decide) n

namespace NumberStyle

variable (style : NumberStyle)

theorem numeral_exponentText (e : Int) : Consists IsNumeral (style.exponentText e) := by
  have hsign : Consists IsNumeral
      (if e < 0 then "-" else if style.exponentPlus then "+" else "") := by
    split_ifs <;> decide
  exact consists_append.2 ⟨consists_append.2
    ⟨consists_append.2 ⟨by decide, hsign⟩, numeral_zeros _⟩, numeral_toString _⟩

theorem numeral_decimalText (d : Decimal) : Consists IsNumeral (style.decimalText d) := by
  have hdigits : Consists IsNumeral (toString d.digits) := numeral_toString d.digits
  have htake (n : Nat) : Consists IsNumeral (String.ofList ((toString d.digits).toList.take n)) :=
    consists_ofList.2 fun c hc => hdigits c (List.mem_of_mem_take hc)
  have hdrop (n : Nat) : Consists IsNumeral (String.ofList ((toString d.digits).toList.drop n)) :=
    consists_ofList.2 fun c hc => hdigits c (List.mem_of_mem_drop hc)
  have hpoint : Consists IsNumeral "." := by decide
  unfold decimalText
  dsimp only
  split_ifs <;> simp only [consists_append]
  · exact ⟨⟨by decide, numeral_zeros _⟩, hdigits⟩
  · exact ⟨⟨htake _, hpoint⟩, hdrop _⟩
  · exact ⟨⟨hdigits, numeral_zeros _⟩, by decide⟩
  · exact ⟨⟨htake 1, consists_empty⟩, style.numeral_exponentText _⟩
  · exact ⟨⟨htake 1, hpoint, hdrop 1⟩, style.numeral_exponentText _⟩

/-- The text of a double is a numeral unless it is a name. -/
theorem numeral_text {x : Double} (number : x.isNaN = false) (bounded : x.isInfinite = false) :
    Consists IsNumeral (style.text x) := by
  rw [text, number, bounded, if_neg Bool.false_ne_true, if_neg Bool.false_ne_true]
  split_ifs
  all_goals refine consists_append.2 ⟨by decide, ?_⟩
  · decide
  · exact style.numeral_decimalText _
  · decide
  · exact style.numeral_decimalText _

/-- The text of a double is plain if the names of infinity and NaN are. -/
theorem plain_text (hnan : Consists IsPlain style.nan) (hinfinity : Consists IsPlain style.infinity)
    (hnegative : Consists IsPlain style.negativeInfinity) (x : Double) :
    Consists IsPlain (style.text x) := by
  cases number : x.isNaN with
  | true =>
    rw [text, if_pos number]
    exact hnan
  | false =>
    cases bounded : x.isInfinite with
    | true =>
      rw [text, number, if_neg Bool.false_ne_true, if_pos bounded]
      split_ifs
      · exact hnegative
      · exact hinfinity
    | false => exact (style.numeral_text number bounded).mono fun _ => IsNumeral.plain

end NumberStyle

namespace Json

/-! ## Texts -/

theorem plain_hexDigit (n : Nat) : IsPlain (hexDigit (n % 16)) := by
  have h : ∀ d < 16, IsPlain (hexDigit d) := by decide
  exact h _ (Nat.mod_lt _ (by decide))

theorem plain_of_mem_unitEscape {n : Nat} {d : Char} (h : d ∈ unitEscape n) : IsPlain d := by
  simp only [unitEscape, hexDigits, List.nil_append, List.cons_append, List.mem_cons,
    List.not_mem_nil, or_false] at h
  rcases h with rfl | rfl | rfl | rfl | rfl | rfl
  · decide
  · decide
  all_goals exact plain_hexDigit _

theorem plain_of_mem_quotedChar {c d : Char} (h : d ∈ quotedChar true c) : IsPlain d := by
  rw [quotedChar] at h
  split at h
  · next e he =>
    have hshort : IsPlain e := by
      unfold shortEscape? at he
      split at he <;> cases he <;> decide
    simp only [List.mem_cons, List.not_mem_nil, or_false] at h
    rcases h with rfl | rfl
    · decide
    · exact hshort
  · split at h
    · rw [codeEscape] at h
      split at h
      · exact plain_of_mem_unitEscape h
      · exact (List.mem_append.1 h).elim plain_of_mem_unitEscape plain_of_mem_unitEscape
    · next hplain =>
      simp only [Bool.true_and, Bool.or_eq_true, decide_eq_true_eq, not_or, Nat.not_lt,
        Nat.not_le] at hplain
      exact List.mem_singleton.1 h ▸ hplain

/-- A text between quotes is plain. -/
theorem plain_quoted (s : String) : Consists IsPlain (quoted true s) := by
  refine consists_ofList.2 fun d hd => ?_
  simp only [List.mem_cons, List.mem_append, List.mem_flatMap, List.not_mem_nil, or_false] at hd
  rcases hd with rfl | ⟨c, -, hc⟩ | rfl
  · decide
  · exact plain_of_mem_quotedChar hc
  · decide

/-! ## Members in order -/

section Sorting

variable {α β : Type}

theorem insertNamed_perm (a : String × α) (l : List (String × α)) :
    (insertNamed a l).Perm (a :: l) := by
  induction l with
  | nil => exact .refl _
  | cons b rest ih =>
    rw [insertNamed]
    split
    · exact (ih.cons b).trans (.swap a b rest)
    · exact .refl _

/-- Sorting by name puts things in another order. -/
theorem sortNamed_perm (l : List (String × α)) : (sortNamed l).Perm l := by
  induction l with
  | nil => exact .refl _
  | cons a rest ih => exact (insertNamed_perm _ _).trans (ih.cons a)

/-- Things that correspond under the same name stand at the same place. -/
theorem forall₂_insertNamed {R : String × α → String × β → Prop}
    (names : ∀ {a b}, R a b → a.1 = b.1) {a : String × α} {b : String × β} (first : R a b)
    {l : List (String × α)} {l' : List (String × β)} (more : List.Forall₂ R l l') :
    List.Forall₂ R (insertNamed a l) (insertNamed b l') := by
  induction more with
  | nil => exact .cons first .nil
  | cons next rest ih =>
    rw [insertNamed, insertNamed, names first, names next]
    split
    · exact .cons next ih
    · exact .cons first (.cons next rest)

/-- Sorting by name looks at the names only. -/
theorem forall₂_sortNamed {R : String × α → String × β → Prop}
    (names : ∀ {a b}, R a b → a.1 = b.1) {l : List (String × α)} {l' : List (String × β)}
    (h : List.Forall₂ R l l') : List.Forall₂ R (sortNamed l) (sortNamed l') := by
  induction h with
  | nil => exact .nil
  | cons first _ ih => exact forall₂_insertNamed names first ih

theorem sortNamed_map (f : α → β) (l : List (String × α)) :
    sortNamed (l.map fun b => (b.1, f b.2)) = (sortNamed l).map fun b => (b.1, f b.2) := by
  have hsorted : List.Forall₂ (fun a b => (a.1, f a.2) = b) (sortNamed l)
      (sortNamed (l.map fun b => (b.1, f b.2))) := by
    refine forall₂_sortNamed (by rintro a _ rfl; rfl) ?_
    rw [List.forall₂_map_right_iff, List.forall₂_same]
    exact fun _ _ => rfl
  rwa [← List.forall₂_map_left_iff, List.forall₂_eq_eq_eq, eq_comm] at hsorted

end Sorting

/-! ## Everything or nothing -/

section MapM

variable {α β : Type} {f : α → Option β} {l : List α} {l' : List β}

/-- Everything is worked out if each item is. -/
theorem mapM_eq_some_iff : l.mapM f = some l' ↔ List.Forall₂ (fun a b => f a = some b) l l' := by
  induction l generalizing l' with
  | nil => simp [eq_comm]
  | cons a l ih =>
    simp only [List.mapM_cons, Option.bind_eq_bind, Option.bind_eq_some_iff, Option.pure_def,
      Option.some.injEq, List.forall₂_cons_left_iff, ih]
    constructor
    · rintro ⟨b, hb, rest, hrest, rfl⟩
      exact ⟨b, rest, hb, hrest, rfl⟩
    · rintro ⟨b, rest, hb, hrest, rfl⟩
      exact ⟨b, hb, rest, hrest, rfl⟩

theorem exists_mem_of_mapM (h : l.mapM f = some l') {b : β} (hb : b ∈ l') :
    ∃ a ∈ l, f a = some b := by
  rw [mapM_eq_some_iff] at h
  induction h with
  | nil => cases hb
  | cons first _ ih =>
    obtain rfl | hb := List.mem_cons.1 hb
    · exact ⟨_, List.mem_cons_self, first⟩
    · obtain ⟨a, ha, h⟩ := ih hb
      exact ⟨a, List.mem_cons_of_mem _ ha, h⟩

theorem isSome_mapM_iff : (l.mapM f).isSome ↔ ∀ a ∈ l, (f a).isSome := by
  induction l with
  | nil => simp
  | cons a l ih =>
    rw [List.mapM_cons, List.forall_mem_cons, ← ih]
    cases f a <;> cases l.mapM f <;> simp

end MapM

/-! ## Lines -/

variable {words : Words}

theorem lineItems?_eq (items : List Value) :
    lineItems? words items = items.mapM (lineWith? words) := by
  induction items with
  | nil => rfl
  | cons v rest ih => rw [lineItems?, ih, List.mapM_cons]

/-- The line of a member under its name. -/
def lineMember? (words : Words) (m : String × Value) : Option (String × String) :=
  (lineWith? words m.2).map fun text => (m.1, text)

theorem lineMembers?_eq (members : Members) :
    lineMembers? words members = members.mapM (lineMember? words) := by
  induction members with
  | nil => rfl
  | cons m rest ih =>
    rw [lineMembers?, ih, List.mapM_cons, lineMember?]
    cases lineWith? words m.2 <;> rfl

theorem itemsLineFlaw?_eq_none_iff {items : List Value} :
    itemsLineFlaw? items = none ↔ ∀ v ∈ items, lineFlaw? v = none := by
  induction items with
  | nil => simp [itemsLineFlaw?]
  | cons v rest ih =>
    rw [itemsLineFlaw?, List.forall_mem_cons, ← ih]
    cases lineFlaw? v <;> simp

theorem membersLineFlaws_eq_nil_iff {members : Members} :
    membersLineFlaws members = [] ↔ ∀ m ∈ members, lineFlaw? m.2 = none := by
  induction members with
  | nil => simp [membersLineFlaws]
  | cons m rest ih =>
    rw [membersLineFlaws, List.forall_mem_cons, ← ih]
    cases lineFlaw? m.2 <;> simp

/-- A value has a line unless it has a flaw. -/
theorem isSome_lineWith?_iff {v : Value} : (lineWith? words v).isSome ↔ lineFlaw? v = none := by
  induction v using Value.induction with
  | int n =>
    rw [lineWith?, lineFlaw?]
    cases Numeral.isLong n <;> simp
  | list items ih =>
    rw [lineWith?, lineFlaw?, Option.isSome_map, lineItems?_eq, isSome_mapM_iff,
      itemsLineFlaw?_eq_none_iff]
    exact forall₂_congr ih
  | object members ih =>
    have hsorted : (sortNamed (membersLineFlaws members)).head?.map (·.2) = none ↔
        membersLineFlaws members = [] := by
      rw [Option.map_eq_none_iff, List.head?_eq_none_iff]
      exact ⟨fun h => ((h ▸ sortNamed_perm _ : List.Perm [] _)).nil_eq.symm, fun h => by rw [h]; rfl⟩
    rw [lineWith?, lineFlaw?, Option.isSome_map, lineMembers?_eq, isSome_mapM_iff, hsorted,
      membersLineFlaws_eq_nil_iff]
    exact forall₂_congr fun m hm => by rw [lineMember?, Option.isSome_map, ih m hm]
  | handle => simp [lineWith?, lineFlaw?]
  | _ => simp [lineWith?, lineFlaw?]

/-- Only an integer that does not have too many digits has a line. -/
theorem lineWith?_int_eq_some {n : Int} {text : String}
    (h : lineWith? words (.int n) = some text) :
    Numeral.isLong n = false ∧ text = toString n := by
  rw [lineWith?, Option.ite_none_left_eq_some] at h
  exact ⟨Bool.not_eq_true _ ▸ h.1, (Option.some.inj h.2).symm⟩

/-- The words for null and the truth values are plain. -/
structure Words.IsPlain (words : Words) : Prop where
  null : Consists Conduit.IsPlain words.null
  true : Consists Conduit.IsPlain words.true
  false : Consists Conduit.IsPlain words.false

/-- The line of a value is plain. -/
theorem plain_lineWith (hwords : words.IsPlain) (v : Value) : ∀ {text : String},
    lineWith? words v = some text → Consists Conduit.IsPlain text := by
  induction v using Value.induction with
  | null =>
    rintro _ ⟨⟩
    exact hwords.null
  | bool b =>
    rintro _ ⟨⟩
    cases b
    · exact hwords.false
    · exact hwords.true
  | int n =>
    intro text h
    obtain ⟨-, ⟨⟩⟩ := lineWith?_int_eq_some h
    exact (numeral_toString_int n).mono fun _ => IsNumeral.plain
  | float x =>
    rintro _ ⟨⟩
    exact NumberStyle.json.plain_text (by decide) (by decide) (by decide) x
  | str s =>
    rintro _ ⟨⟩
    exact plain_quoted s
  | list items ih =>
    intro text h
    rw [lineWith?, Option.map_eq_some_iff] at h
    obtain ⟨texts, htexts, rfl⟩ := h
    have hitems : Consists Conduit.IsPlain (", ".intercalate texts) := by
      refine (consists_intercalate (by decide)).2 fun t ht => ?_
      obtain ⟨v, hv, hline⟩ := exists_mem_of_mapM (lineItems?_eq items ▸ htexts) ht
      exact ih v hv hline
    exact consists_append.2 ⟨consists_append.2 ⟨by decide, hitems⟩, by decide⟩
  | object members ih =>
    intro text h
    rw [lineWith?, Option.map_eq_some_iff] at h
    obtain ⟨texts, htexts, rfl⟩ := h
    have hmembers : Consists Conduit.IsPlain (", ".intercalate
        ((sortNamed texts).map fun m => quoted true m.1 ++ ": " ++ m.2)) := by
      refine (consists_intercalate (by decide)).2 fun t ht => ?_
      obtain ⟨m, hm, rfl⟩ := List.mem_map.1 ht
      have hm := (sortNamed_perm texts).mem_iff.1 hm
      obtain ⟨w, hw, hline⟩ := exists_mem_of_mapM (lineMembers?_eq members ▸ htexts) hm
      obtain ⟨value, hvalue, rfl⟩ := Option.map_eq_some_iff.1 hline
      exact consists_append.2 ⟨consists_append.2 ⟨plain_quoted _, by decide⟩, ih w hw hvalue⟩
    exact consists_append.2 ⟨consists_append.2 ⟨by decide, hmembers⟩, by decide⟩
  | handle => rintro _ ⟨⟩

end Json

end Conduit
