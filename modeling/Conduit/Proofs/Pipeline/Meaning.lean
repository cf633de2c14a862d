import Conduit.Proofs.Number.Exact
import Conduit.Proofs.Pipeline.Literal

/-!
# What the values of listings mean

A value in a listing is an expression, and that should stand for the value again. It does if a
document can hold the value, its doubles are finite and its texts keep to the first plane of
characters: a character beyond it is written as two escapes, which are not put together again, and
an infinity as a name that nothing has.

* `Value.isBasic` — the values without such characters and without infinities and NaN;
* `Value.arranged` — what is read instead of a value, the same but for the order of its members;
* `Listing.exists_meaning_iff` — the values that are read again.
-/

namespace Conduit

open Condition (Token Datum Expr)
open Condition.Datum (agrees)

/-! ## Values that are read again -/

namespace Value

/-- Whether a text keeps to the first plane of characters. -/
def isBasicText (s : String) : Bool := s.toList.all fun c => decide (c.toNat < 0x10000)

mutual

/-- Whether all doubles of a value are finite and its texts and names keep to the first plane. -/
def isBasic : Value → Bool
  | float x => x.isFinite
  | str s => isBasicText s
  | list items => areBasicItems items
  | object members => areBasicMembers members
  | _ => true

/-- Whether the items of a list are all basic. -/
def areBasicItems : List Value → Bool
  | [] => true
  | v :: rest => isBasic v && areBasicItems rest

/-- Whether members are all basic, their names too. -/
def areBasicMembers : List (String × Value) → Bool
  | [] => true
  | (key, v) :: rest => isBasicText key && isBasic v && areBasicMembers rest

end

mutual

/-- The value with the members of every object in the order of their names. -/
def arranged : Value → Value
  | list items => list (arrangedItems items)
  | object members => object (Json.sortNamed (arrangedMembers members))
  | v => v

/-- The items of a list with all members in order. -/
def arrangedItems : List Value → List Value
  | [] => []
  | v :: rest => arranged v :: arrangedItems rest

/-- Members whose values have all members in order. -/
def arrangedMembers : List (String × Value) → List (String × Value)
  | [] => []
  | (key, v) :: rest => (key, arranged v) :: arrangedMembers rest

end

theorem areBasicItems_iff {items : List Value} :
    areBasicItems items ↔ ∀ v ∈ items, v.isBasic := by
  induction items with
  | nil => simp [areBasicItems]
  | cons v rest ih => simp [areBasicItems, ih]

theorem areBasicMembers_iff {members : Members} :
    areBasicMembers members ↔ ∀ m ∈ members, isBasicText m.1 ∧ m.2.isBasic := by
  induction members with
  | nil => simp [areBasicMembers]
  | cons m rest ih => simp [areBasicMembers, ih]

/-- A list that is read again has room for its items, and each of them is. -/
theorem legible_list_iff {items : List Value} {room : Nat} :
    (list items).fits room = true ∧ (list items).isBasic = true ↔
      0 < room ∧ ∀ v ∈ items, v.fits (room - 1) = true ∧ v.isBasic = true := by
  rw [fits, isBasic, Bool.and_eq_true, decide_eq_true_eq, fitItems_iff, areBasicItems_iff, and_assoc,
    ← forall₂_and]

/-- An object that is read again has room for its members under distinct names. -/
theorem legible_object_iff {members : Members} {room : Nat} :
    (object members).fits room = true ∧ (object members).isBasic = true ↔
      0 < room ∧ (Members.keys members).Nodup ∧ ∀ m ∈ members, isBasicText m.1 = true ∧
        m.2.fits (room - 1) = true ∧ m.2.isBasic = true := by
  rw [fits, isBasic, Bool.and_eq_true, Bool.and_eq_true, decide_eq_true_eq, decide_eq_true_eq,
    fitMembers_iff, areBasicMembers_iff, and_assoc, and_assoc, ← forall₂_and]
  simp only [and_left_comm]

theorem arrangedItems_eq (items : List Value) : arrangedItems items = items.map arranged := by
  induction items with
  | nil => rfl
  | cons v rest ih => rw [arrangedItems, ih, List.map_cons]

theorem arrangedMembers_eq (members : Members) :
    arrangedMembers members = members.map fun m => (m.1, m.2.arranged) := by
  induction members with
  | nil => rfl
  | cons m rest ih => rw [arrangedMembers, ih, List.map_cons]

/-- The members are put in order and each of them is arranged. -/
theorem sortNamed_arrangedMembers (members : Members) :
    Json.sortNamed (arrangedMembers members) =
      (Json.sortNamed members).map fun m => (m.1, m.2.arranged) := by
  rw [arrangedMembers_eq, Json.sortNamed_map]

end Value

/-! ## Data of values -/

theorem Double.isNaN_of_isFinite {x : Double} (finite : x.isFinite = true) : x.isNaN = false := by
  rw [isFinite_eq, Bool.and_eq_true, Bool.not_eq_true'] at finite
  exact finite.1

namespace Condition.Datum

theorem ofItems_eq (items : List Value) : ofItems items = items.map ofValue := by
  induction items with
  | nil => rfl
  | cons v rest ih => rw [ofItems, ih, List.map_cons]

theorem ofMembers_eq (members : Members) :
    ofMembers members = members.map fun m => entry (m.1.toList, ofValue m.2) := by
  induction members with
  | nil => rfl
  | cons m rest ih =>
    rw [ofMembers, ih, List.map_cons]
    rfl

theorem map_toList_keys (members : Members) :
    members.map (fun m => m.1.toList) = (Members.keys members).map String.toList := by
  rw [Members.keys, List.map_map]
  rfl

theorem toList_injective : Function.Injective String.toList := fun _ _ h => String.toList_inj.1 h

/-- The entry under the name of a member is that of the member. -/
theorem find?_ofMembers {members : Members} (distinct : (Members.keys members).Nodup)
    {m : String × Value} (hm : m ∈ members) :
    (ofMembers members).find? (fun e => agrees (str m.1.toList) e.1) =
      some (entry (m.1.toList, ofValue m.2)) := by
  induction members with
  | nil => cases hm
  | cons other rest ih =>
    rw [Members.keys, List.map_cons, List.nodup_cons] at distinct
    rw [ofMembers_eq, List.map_cons, List.find?_cons, entry, agrees_str, ← ofMembers_eq]
    obtain rfl | hm := List.mem_cons.1 hm
    · rw [beq_self_eq_true]
      rfl
    · have hne : m.1 ≠ other.1 := fun h => distinct.1 (h ▸ List.mem_map_of_mem hm)
      have hne : (m.1.toList == other.1.toList) = false :=
        beq_eq_false_iff_ne.2 (toList_injective.ne hne)
      rw [hne]
      exact ih distinct.2 hm

/-- A key that is found is the name of a member. -/
theorem exists_name_of_find? {members : Members} {key : List Char} {e : Datum × Datum}
    (h : (ofMembers members).find? (fun e => agrees (str key) e.1) = some e) :
    ∃ m ∈ members, m.1.toList = key := by
  have hmem := List.mem_of_find?_eq_some h
  rw [ofMembers_eq, List.mem_map] at hmem
  obtain ⟨m, hm, rfl⟩ := hmem
  have hagree := List.find?_some h
  rw [entry, agrees_str, beq_iff_eq] at hagree
  exact ⟨m, hm, hagree.symm⟩

/-- The datum of an object equals a table exactly if this has an entry under each name, and each of
them agrees with the member of its name. -/
theorem equals_writeAll_iff {entries : List (List Char × Datum)} {members : Members}
    (length : entries.length = members.length) :
    (dict (writeAll [] entries)).equals (ofValue (.object members)) = true ↔
      (Members.keys members).Nodup ∧ (entries.map (·.1)).Perm (members.map (·.1.toList)) ∧
        ∀ e ∈ entries, ∀ m ∈ members, e.1 = m.1.toList → agrees e.2 (ofValue m.2) = true := by
  have hlength : (ofMembers members).length = entries.length := by
    rw [ofMembers_eq, List.length_map, length]
  rw [ofValue, equals, Bool.and_eq_true, beq_iff_eq, hlength, allEntries_iff]
  constructor
  · rintro ⟨hall, hfound⟩
    have hnodup := nodup_of_length_eq hall
    rw [writeAll_nil hnodup, List.forall_mem_map] at hfound
    have hperm : (entries.map (·.1)).Perm (members.map (·.1.toList)) := by
      refine (hnodup.subperm (List.forall_mem_map.2 fun e he => ?_)).perm_of_length_le ?_
      · obtain ⟨b, hb, -⟩ := hfound e he
        exact List.mem_map.2 (exists_name_of_find? hb)
      · rw [List.length_map, List.length_map, length]
    have hdistinct : (Members.keys members).Nodup :=
      .of_map String.toList (map_toList_keys members ▸ hperm.nodup hnodup)
    refine ⟨hdistinct, hperm, fun e he m hm h => ?_⟩
    obtain ⟨b, hb, hagree⟩ := hfound e he
    have hfind := find?_ofMembers hdistinct hm
    rw [← h] at hfind
    obtain rfl := Option.some.inj (hb.symm.trans hfind)
    exact hagree
  · rintro ⟨hdistinct, hperm, hagree⟩
    have hnodup : (entries.map (·.1)).Nodup :=
      hperm.nodup_iff.2 (map_toList_keys members ▸ hdistinct.map toList_injective)
    rw [writeAll_nil hnodup, List.forall_mem_map]
    refine ⟨List.length_map _, fun e he => ?_⟩
    obtain ⟨m, hm, h⟩ := List.mem_map.1 (hperm.mem_iff.1 (List.mem_map_of_mem he))
    have hfind := find?_ofMembers hdistinct hm
    rw [h] at hfind
    exact ⟨_, hfind, hagree e he m hm h.symm⟩

/-! ## Numbers -/

theorem ofValue_float {x : Double} (number : x.isNaN = false) : ofValue (.float x) = float x := by
  rw [ofValue, number, if_neg Bool.false_ne_true]

/-- A number that is not NaN equals itself. -/
theorem equals_float {x : Double} (number : x.isNaN = false) :
    (float x).equals (float x) = true := by
  have hself : (Number.float x).equals (.float x) = true := by
    simp [Number.equals, Number.compare?, Double.compare?, number]
  simpa [equals, number?] using hself

theorem agrees_of_equals {a b : Datum} (h : a.equals b = true) : agrees a b = true := by
  rw [agrees, h, Bool.or_true]

/-- Only NaN agrees with a datum that it does not equal. -/
theorem agrees_ofValue {v : Value} (number : ∀ x, v = .float x → x.isNaN = false) (d : Datum) :
    agrees d (ofValue v) = d.equals (ofValue v) := by
  have hsame : isSameNaN d (ofValue v) = false := by
    cases v with
    | float x =>
      rw [ofValue_float (number x rfl)]
      cases d <;> rfl
    | _ => cases d <;> rfl
  rw [agrees, hsame, Bool.false_or]

end Condition.Datum

/-! ## Stages of the literal of a value -/

namespace Listing

/-- What stands beside an item in two relations. -/
theorem exists_of_forall₂ {α β : Type} {R S : α → β → Prop} {l : List α} {l' : List β}
    (first : List.Forall₂ R l l') (second : List.Forall₂ S l l') :
    ∀ a ∈ l, ∃ b ∈ l', R a b ∧ S a b := by
  induction first with
  | nil => exact fun _ h => nomatch h
  | cons hR _ ih =>
    obtain _ | ⟨hS, more⟩ := second
    refine List.forall_mem_cons.2 ⟨⟨_, List.mem_cons_self, hR, hS⟩, fun a ha => ?_⟩
    obtain ⟨b, hb, h⟩ := ih more a ha
    exact ⟨b, List.mem_cons_of_mem _ hb, h⟩

theorem fits_signed (negative : Bool) (l : Literal) : (l.signed negative).fits = l.fits := by
  cases negative <;> rfl

theorem fits_literalOfDouble (x : Double) (room : Nat) : (literalOfDouble x).fits room = true := by
  unfold literalOfDouble
  split
  · rfl
  · split <;> rw [fits_signed] <;> rfl

/-- The literals of the members in their order. -/
theorem sortNamed_literalMembers (members : Members) :
    Json.sortNamed (literalMembers members) =
      (Json.sortNamed members).map fun m => (m.1, literalOf m.2) := by
  rw [literalMembers_eq, Json.sortNamed_map]

/-- What a document can hold can be cut into tokens. -/
theorem fits_literalOf {v : Value} {room : Nat} (h : v.fits room = true) :
    (literalOf v).fits room = true := by
  induction v using Value.induction generalizing room with
  | null => rfl
  | bool b => cases b <;> rfl
  | int n =>
    rw [literalOf, fits_signed]
    exact h
  | float x => exact fits_literalOfDouble x room
  | str s => rfl
  | list items ih =>
    rw [Value.fits, Bool.and_eq_true, Value.fitItems_iff] at h
    refine Bool.and_eq_true_iff.2 ⟨h.1, List.all_eq_true.2 fun l hl => ?_⟩
    rw [literalsOf_eq] at hl
    obtain ⟨v, hv, rfl⟩ := List.mem_map.1 hl
    exact ih v hv (h.2 v hv)
  | object members ih =>
    rw [Value.fits, Bool.and_eq_true, Bool.and_eq_true, Value.fitMembers_iff] at h
    refine Bool.and_eq_true_iff.2 ⟨h.1.1, List.all_eq_true.2 fun l hl => ?_⟩
    obtain ⟨m, hm, rfl⟩ := mem_sortNamed_literalMembers.1 hl
    exact ih m hm (h.2 m hm)
  | handle => cases h

theorem datum_signed_double (negative : Bool) (p : Json.Spelling) :
    ((Literal.double p).signed negative).datum =
      some (.float (Double.signed negative (Token.double p))) := by
  cases negative with
  | false =>
    rw [Double.signed, if_neg Bool.false_ne_true]
    rfl
  | true =>
    rw [Double.signed, if_pos rfl]
    change Datum.unary? .minus (.float (Token.double p)) = _
    rw [Datum.unary?]

theorem datum_signed_name (negative : Bool) (s : String) :
    ((Literal.name s).signed negative).datum = none := by
  cases negative <;> rfl

/-- The literal of a double stands for the double if that is finite, and for nothing otherwise. -/
theorem datum_literalOfDouble (x : Double) :
    (literalOfDouble x).datum = if x.isFinite then some (.float x) else none := by
  unfold literalOfDouble
  rw [Double.isFinite_eq]
  cases hnan : x.isNaN with
  | true =>
    rw [if_pos rfl, Bool.not_true, Bool.false_and, if_neg Bool.false_ne_true]
    rfl
  | false =>
    rw [if_neg Bool.false_ne_true, Bool.not_false, Bool.true_and]
    cases hinfinite : x.isInfinite with
    | true => rw [if_pos rfl, datum_signed_name, Bool.not_true, if_neg Bool.false_ne_true]
    | false =>
      rw [if_neg Bool.false_ne_true, datum_signed_double,
        signed_spellingOf (isFinite_of_number hnan hinfinite), Bool.not_false, if_pos rfl]

theorem datum_literalOfInt (n : Int) : (literalOf (.int n)).datum = some (.int n) := by
  rw [literalOf]
  by_cases hneg : n < 0
  · rw [decide_eq_true hneg]
    exact congrArg (some ∘ Datum.int) (by omega : -(n.natAbs : Int) = n)
  · rw [decide_eq_false hneg]
    exact congrArg (some ∘ Datum.int) (by omega : (n.natAbs : Int) = n)

/-! ## Texts that are read again -/

theorem rereadText_of_basic {s : String} (basic : Value.isBasicText s = true) :
    Literal.rereadText s = s.toList := by
  rw [Value.isBasicText, List.all_eq_true] at basic
  have hchars : s.toList.flatMap Token.reread = s.toList.flatMap fun c => [c] :=
    List.flatMap_congr fun c hc => if_pos (of_decide_eq_true (basic c hc))
  rw [Literal.rereadText, hchars, List.flatMap_singleton']

theorem length_reread (c : Char) :
    (Token.reread c).length = if c.toNat < 0x10000 then 1 else 2 := by
  rw [Token.reread]
  split <;> rfl

/-- A text is never read as a shorter one, and as a longer one unless it is basic. -/
theorem length_rereadText (s : String) : s.toList.length ≤ (Literal.rereadText s).length ∧
    ((Literal.rereadText s).length ≤ s.toList.length → Value.isBasicText s = true) := by
  rw [Literal.rereadText, Value.isBasicText]
  induction s.toList with
  | nil => exact ⟨Nat.le_refl 0, fun _ => rfl⟩
  | cons c l ih =>
    rw [List.flatMap_cons, List.length_append, length_reread, List.length_cons, List.all_cons]
    split
    · next hsmall =>
      refine ⟨by omega, fun h => ?_⟩
      rw [decide_eq_true hsmall, ih.2 (by omega), Bool.true_and]
    · exact ⟨by omega, fun h => by omega⟩

/-- Names that are read as names of the same members are basic. -/
theorem basic_of_perm {members : Members}
    (h : (members.map fun m => Literal.rereadText m.1).Perm (members.map fun m => m.1.toList)) :
    ∀ m ∈ members, Value.isBasicText m.1 = true := by
  intro m hm
  refine (length_rereadText m.1).2 (Nat.le_of_not_lt fun hless => ?_)
  have hsum := (h.map List.length).sum_eq
  rw [List.map_map, List.map_map] at hsum
  have hlt : (members.map fun m => m.1.toList.length).sum <
      (members.map fun m => (Literal.rereadText m.1).length).sum :=
    List.sum_lt_sum _ _ (fun m _ => (length_rereadText m.1).1) ⟨m, hm, hless⟩
  exact hlt.ne' hsum

/-! ## What is read -/

theorem datum_list_iff {items : List Value} {d : Datum} :
    (literalOf (.list items)).datum = some d ↔
      ∃ ds, List.Forall₂ (fun v d => (literalOf v).datum = some d) items ds ∧ .list ds = d := by
  change ((literalsOf items).mapM Literal.datum).map Datum.list = some d ↔ _
  rw [Option.map_eq_some_iff, literalsOf_eq]
  refine exists_congr fun ds => and_congr_left' ?_
  rw [Json.mapM_eq_some_iff, List.forall₂_map_left_iff]

/-- A member and the entry that it is read as. -/
def IsReadAs (m : String × Value) (e : List Char × Datum) : Prop :=
  Literal.rereadText m.1 = e.1 ∧ (literalOf m.2).datum = some e.2

theorem datum_object_iff {members : Members} {d : Datum} :
    (literalOf (.object members)).datum = some d ↔
      ∃ entries, List.Forall₂ IsReadAs (Json.sortNamed members) entries ∧
        .dict (Datum.writeAll [] entries) = d := by
  have hstep (m : String × Value) (e : List Char × Datum) :
      (literalOf m.2).datum.map (fun d => (Literal.rereadText m.1, d)) = some e ↔ IsReadAs m e := by
    rw [Option.map_eq_some_iff, IsReadAs]
    constructor
    · rintro ⟨d, hd, rfl⟩
      exact ⟨rfl, hd⟩
    · rintro ⟨hkey, hd⟩
      exact ⟨e.2, hd, Prod.ext hkey rfl⟩
  change (Expr.entriesOf (fun m => Literal.rereadText m.1) (fun m => m.2.datum)
    (Json.sortNamed (literalMembers members))).map _ = some d ↔ _
  rw [Option.map_eq_some_iff, sortNamed_literalMembers]
  refine exists_congr fun entries => and_congr_left' ?_
  rw [Expr.entriesOf, Json.mapM_eq_some_iff, List.forall₂_map_left_iff]
  exact ⟨List.Forall₂.imp fun m e => (hstep m e).1, List.Forall₂.imp fun m e => (hstep m e).2⟩

/-- The entries of the members of an object in the order of their names. -/
def arrangedEntries (members : Members) : List (List Char × Datum) :=
  (Json.sortNamed members).map fun m => (m.1.toList, Datum.ofValue m.2.arranged)

theorem perm_arrangedEntries (members : Members) :
    ((arrangedEntries members).map (·.1)).Perm (members.map (·.1.toList)) := by
  rw [arrangedEntries, List.map_map]
  exact (Json.sortNamed_perm members).map _

/-- With distinct names no entry overwrites another. -/
theorem ofValue_arranged_object {members : Members} (distinct : (Members.keys members).Nodup) :
    Datum.ofValue (Value.object members).arranged =
      .dict (Datum.writeAll [] (arrangedEntries members)) := by
  have hnodup : ((arrangedEntries members).map (·.1)).Nodup := by
    rw [(perm_arrangedEntries members).nodup_iff, Datum.map_toList_keys]
    exact distinct.map Datum.toList_injective
  rw [Datum.writeAll_nil hnodup, Value.arranged, Datum.ofValue, Value.sortNamed_arrangedMembers,
    Datum.ofMembers_eq, arrangedEntries, List.map_map, List.map_map]
  rfl

/-- What is read as it was written comes out with its members in order. -/
theorem datum_literalOf {v : Value} {room : Nat} (h : v.fits room = true ∧ v.isBasic = true) :
    (literalOf v).datum = some (Datum.ofValue v.arranged) := by
  induction v using Value.induction generalizing room with
  | null => rfl
  | bool b => cases b <;> rfl
  | int n => exact datum_literalOfInt n
  | float x =>
    have finite : x.isFinite = true := h.2
    have hdatum : Datum.ofValue (Value.float x).arranged = .float x :=
      Datum.ofValue_float (Double.isNaN_of_isFinite finite)
    rw [literalOf, datum_literalOfDouble, if_pos finite, hdatum]
  | str s => exact congrArg (some ∘ Datum.str) (rereadText_of_basic h.2)
  | list items ih =>
    have hitems := (Value.legible_list_iff.1 h).2
    refine datum_list_iff.2 ⟨items.map fun v => Datum.ofValue v.arranged, ?_, ?_⟩
    · rw [List.forall₂_map_right_iff, List.forall₂_same]
      exact fun v hv => ih v hv (hitems v hv)
    · rw [Value.arranged, Datum.ofValue, Value.arrangedItems_eq, Datum.ofItems_eq, List.map_map]
      rfl
  | object members ih =>
    obtain ⟨-, distinct, hmembers⟩ := Value.legible_object_iff.1 h
    rw [ofValue_arranged_object distinct]
    refine datum_object_iff.2 ⟨arrangedEntries members, ?_, rfl⟩
    rw [arrangedEntries, List.forall₂_map_right_iff, List.forall₂_same]
    intro m hm
    have hm := (Json.sortNamed_perm members).mem_iff.1 hm
    exact ⟨rereadText_of_basic (hmembers m hm).1, ih m hm (hmembers m hm).2⟩
  | handle => cases h.1

/-- Putting members in order leaves a value without infinities and NaN equal to itself. -/
theorem equals_arranged {v : Value} {room : Nat} (h : v.fits room = true ∧ v.isBasic = true) :
    (Datum.ofValue v.arranged).equals (Datum.ofValue v) = true := by
  induction v using Value.induction generalizing room with
  | null => simp [Value.arranged, Datum.ofValue, Datum.equals]
  | bool b =>
    simp [Value.arranged, Datum.ofValue, Datum.equals, Datum.number?, Number.equals,
      Number.compare?]
  | int n =>
    simp [Value.arranged, Datum.ofValue, Datum.equals, Datum.number?, Number.equals,
      Number.compare?]
  | float x =>
    have hnumber : x.isNaN = false := Double.isNaN_of_isFinite h.2
    change (Datum.ofValue (.float x)).equals (Datum.ofValue (.float x)) = true
    rw [Datum.ofValue_float hnumber]
    exact Datum.equals_float hnumber
  | str s => simp [Value.arranged, Datum.ofValue, Datum.equals]
  | list items ih =>
    have hitems := (Value.legible_list_iff.1 h).2
    rw [Value.arranged, Datum.ofValue, Datum.ofValue, Value.arrangedItems_eq, Datum.ofItems_eq,
      Datum.ofItems_eq, Datum.equals, Datum.equalItems_iff, List.map_map,
      List.forall₂_map_left_iff, List.forall₂_map_right_iff, List.forall₂_same]
    exact fun v hv => Datum.agrees_of_equals (ih v hv (hitems v hv))
  | object members ih =>
    obtain ⟨-, distinct, hmembers⟩ := Value.legible_object_iff.1 h
    rw [ofValue_arranged_object distinct, Datum.equals_writeAll_iff]
    · refine ⟨distinct, perm_arrangedEntries members, fun e he m hm hkey => ?_⟩
      obtain ⟨w, hw, rfl⟩ := List.mem_map.1 he
      have hw := (Json.sortNamed_perm members).mem_iff.1 hw
      obtain rfl : w = m := List.inj_on_of_nodup_map distinct hw hm (Datum.toList_injective hkey)
      exact Datum.agrees_of_equals (ih w hw (hmembers w hw).2)
    · rw [arrangedEntries, List.length_map, (Json.sortNamed_perm members).length_eq]
  | handle => cases h.1

/-- Whatever is read as something equal can be held by a document and is basic. -/
theorem fits_of_agrees {v : Value} {room : Nat} {d : Datum} (fits : (literalOf v).fits room = true)
    (read : (literalOf v).datum = some d) (equal : agrees d (Datum.ofValue v) = true) :
    v.fits room = true ∧ v.isBasic = true := by
  induction v using Value.induction generalizing room d with
  | null => exact ⟨rfl, rfl⟩
  | bool b => exact ⟨rfl, rfl⟩
  | int n =>
    rw [literalOf, fits_signed] at fits
    exact ⟨fits, rfl⟩
  | float x =>
    rw [literalOf, datum_literalOfDouble] at read
    by_cases finite : x.isFinite = true
    · exact ⟨rfl, finite⟩
    · rw [if_neg finite] at read
      cases read
  | str s =>
    cases read
    rw [Datum.ofValue, Datum.agrees_str, beq_iff_eq] at equal
    exact ⟨rfl, (length_rereadText s).2 (equal ▸ Nat.le_refl _)⟩
  | list items ih =>
    obtain ⟨ds, hds, rfl⟩ := datum_list_iff.1 read
    rw [Datum.agrees_ofValue (by rintro _ ⟨⟩), Datum.ofValue, Datum.equals,
      Datum.equalItems_iff, Datum.ofItems_eq, List.forall₂_map_right_iff] at equal
    have fits : (decide (0 < room) && (literalsOf items).all fun l => l.fits (room - 1)) = true :=
      fits
    rw [Bool.and_eq_true, literalsOf_eq, List.all_map, List.all_eq_true] at fits
    refine Value.legible_list_iff.2 ⟨of_decide_eq_true fits.1, fun v hv => ?_⟩
    obtain ⟨d, -, hread, hagree⟩ := exists_of_forall₂ hds equal.flip v hv
    exact ih v hv (fits.2 v hv) hread hagree
  | object members ih =>
    obtain ⟨entries, hentries, rfl⟩ := datum_object_iff.1 read
    have hperm := Json.sortNamed_perm members
    rw [Datum.agrees_ofValue (by rintro _ ⟨⟩), Datum.equals_writeAll_iff
      (hentries.length_eq.symm.trans hperm.length_eq)] at equal
    obtain ⟨distinct, hkeys, hagree⟩ := equal
    have fits : (decide (0 < room) &&
        (Json.sortNamed (literalMembers members)).all fun m => m.2.fits (room - 1)) = true := fits
    rw [Bool.and_eq_true, sortNamed_literalMembers, List.all_map, List.all_eq_true] at fits
    have hreread : (Json.sortNamed members).map (fun m => Literal.rereadText m.1) =
        entries.map (·.1) := by
      rw [← List.forall₂_eq_eq_eq, List.forall₂_map_left_iff, List.forall₂_map_right_iff]
      exact hentries.imp fun _ _ h => h.1
    have hnames := basic_of_perm ((hperm.map _).symm.trans (hreread ▸ hkeys))
    refine Value.legible_object_iff.2
      ⟨of_decide_eq_true fits.1, distinct, fun m hm => ⟨hnames m hm, ?_⟩⟩
    have hsorted := hperm.mem_iff.2 hm
    obtain ⟨e, he, ⟨hkey, hread⟩, -⟩ := exists_of_forall₂ hentries hentries m hsorted
    rw [rereadText_of_basic (hnames m hm)] at hkey
    exact ih m hm (fits.2 m hsorted) hread (hagree e he m hm hkey.symm)
  | handle => cases fits

/-! ## The values that are read again -/

/-- What a document can hold has a line. -/
theorem isSome_lineWith {v : Value} {room : Nat} (h : v.fits room = true) :
    (Json.lineWith? words v).isSome := by
  induction v using Value.induction generalizing room with
  | list items ih =>
    rw [Value.fits, Bool.and_eq_true, Value.fitItems_iff] at h
    rw [Json.lineWith?, Option.isSome_map, Json.lineItems?_eq]
    exact Json.isSome_mapM_iff.2 fun v hv => ih v hv (h.2 v hv)
  | object members ih =>
    rw [Value.fits, Bool.and_eq_true, Value.fitMembers_iff] at h
    rw [Json.lineWith?, Option.isSome_map, Json.lineMembers?_eq]
    refine Json.isSome_mapM_iff.2 fun m hm => ?_
    rw [Json.lineMember?, Option.isSome_map]
    exact ih m hm (h.2 m hm)
  | int n =>
    rw [Json.lineWith?, if_neg (by simpa using Numeral.isLong_eq_false h)]
    rfl
  | handle => cases h
  | _ => rfl

/-- What a value is read as that a document can hold and that is basic. -/
theorem meaning?_of_fits {v : Value} (h : v.fits Token.depthLimit = true ∧ v.isBasic = true) :
    meaning? (literal v) = some (Datum.ofValue v.arranged) := by
  rw [meaning?_literal (isSome_lineWith h.1), if_pos (fits_literalOf h.1), datum_literalOf h]

/-- Only what a document can hold and what is basic is read as something equal. -/
theorem fits_of_meaning? {v : Value} {d : Datum} (read : meaning? (literal v) = some d)
    (equal : d.equals (Datum.ofValue v) = true) :
    v.fits Token.depthLimit = true ∧ v.isBasic = true := by
  cases hline : Json.lineWith? words v with
  | none =>
    rw [meaning?_unwritten hline] at read
    cases read
  | some text =>
    rw [meaning?_literal (Option.isSome_of_eq_some hline)] at read
    obtain ⟨fits, read⟩ := Option.ite_none_right_eq_some.1 read
    exact fits_of_agrees fits read (Datum.agrees_of_equals equal)

/-- In a listing a value stands for an equal value exactly if a document can hold it, its doubles
are finite and its texts and names keep to the first plane of characters; and then it stands for the
value itself with its members in order, integers, doubles and truth values kept apart. -/
theorem literal_means_exactly (v : Value) :
    ((∃ d, meaning? (literal v) = some d ∧ d.equals (Datum.ofValue v) = true) ↔
      v.fits Token.depthLimit = true ∧ v.isBasic = true) ∧
    ((v.fits Token.depthLimit = true ∧ v.isBasic = true) ↔
      meaning? (literal v) = some (Datum.ofValue v.arranged) ∧
        (Datum.ofValue v.arranged).equals (Datum.ofValue v) = true) :=
  ⟨⟨fun ⟨_, read, equal⟩ => fits_of_meaning? read equal,
      fun h => ⟨_, meaning?_of_fits h, equals_arranged h⟩⟩,
    ⟨fun h => ⟨meaning?_of_fits h, equals_arranged h⟩,
      fun ⟨read, equal⟩ => fits_of_meaning? read equal⟩⟩

/-- A character beyond the first plane becomes two escapes, and an infinity a name: neither stands
for the value again. -/
theorem emoji_and_infinity_lost :
    (literal (.str "😀") = "\"\\ud83d\\ude00\"" ∧
      ¬ ∃ d, meaning? (literal (.str "😀")) = some d ∧
        d.equals (Datum.ofValue (.str "😀")) = true) ∧
    (literal (.float (.infinity false)) = "Infinity" ∧
      ¬ ∃ d, meaning? (literal (.float (.infinity false))) = some d ∧
        d.equals (Datum.ofValue (.float (.infinity false))) = true) :=
  ⟨⟨by decide, fun ⟨_, read, equal⟩ =>
      absurd (fits_of_meaning? read equal).2 (by decide)⟩,
    ⟨by decide, fun ⟨_, read, equal⟩ =>
      absurd (fits_of_meaning? read equal).2 (by decide)⟩⟩

end Listing

end Conduit
