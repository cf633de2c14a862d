import Conduit.Pipeline.Listing
import Conduit.Proofs.Json.Line
import Conduit.Proofs.Value.Document

/-!
# Exchanging words

A value comes into a listing as a document in which three words have been exchanged. They are looked
for in the characters of the document, but not inside of its texts, and what is found is exactly
what stands for null and the truth values. So the value is written as if the writer had used the
words of the listing from the start.

* `Listing.Becomes` — what characters become, whatever stands behind them;
* `Listing.literal_eq` — a value in a listing is its line with the words of the listing.
-/

namespace Conduit.Listing

open Text (isWord startsWith)

/-! ## One place after the other -/

/-- No word goes on in these characters. -/
def EndsWord (rest : List Char) : Prop := ∀ c ∈ rest.head?, isWord c = false

theorem endsWord_cons {c : Char} (h : isWord c = false) (s : List Char) : EndsWord (c :: s) := by
  rintro _ ⟨⟩
  exact h

/-- The characters that stand around and between the parts of a document. -/
def signs : List Char := ['"', '-', ',', ':', ' ', '[', ']', '\x7b', '\x7d']

theorem not_isWord_of_mem_signs {c : Char} (h : c ∈ signs) : isWord c = false := by
  have hall : (signs.all fun c => !isWord c) = true := by decide +kernel
  simpa using List.all_eq_true.1 hall c h

theorem endsWord_sign {c : Char} (h : c ∈ signs) (s : List Char) : EndsWord (c :: s) :=
  endsWord_cons (not_isWord_of_mem_signs h) s

/-- Behind such characters no word stands. -/
theorem foldl_isWord_of_signs {s : List Char} (h : s.all signs.contains = true) :
    s.foldl (fun _ c => isWord c) false = false := by
  induction s with
  | nil => rfl
  | cons c s ih =>
    rw [List.all_cons, Bool.and_eq_true, List.contains_iff_mem] at h
    rw [List.foldl_cons, not_isWord_of_mem_signs h.1]
    exact ih h.2

/-- Characters of a place that has been taken are left out. -/
theorem exchanged_taken (s rest : List Char) (inWord : Bool) :
    exchanged s.length inWord (s ++ rest) =
      exchanged 0 (s.foldl (fun _ c => isWord c) inWord) rest := by
  induction s generalizing inWord with
  | nil => rfl
  | cons c s ih => exact ih (isWord c)

/-- What is exchanged takes a place, and the rest follows. -/
theorem exchanged_place {c : Char} {s rest place : List Char} {inWord : Bool}
    (h : exchange? inWord (c :: (s ++ rest)) = some (place, s.length + 1)) :
    exchanged 0 inWord (c :: (s ++ rest)) =
      place ++ exchanged 0 (s.foldl (fun _ c => isWord c) (isWord c)) rest := by
  rw [exchanged, h, ← exchanged_taken]
  rfl

/-- What is not exchanged stays. -/
theorem exchanged_cons {c : Char} {s : List Char} {inWord : Bool}
    (h : exchange? inWord (c :: s) = none) :
    exchanged 0 inWord (c :: s) = c :: exchanged 0 (isWord c) s := by
  rw [exchanged, h]

/-- Whether a character is neither a quote nor the first one of a word. -/
def isOther (c : Char) : Bool := c != '"' && c != 't' && c != 'f' && c != 'n'

theorem exchange?_eq_none_of_wordAt? {c : Char} {s : List Char} {inWord : Bool} (quote : c ≠ '"')
    (h : wordAt? inWord (c :: s) = none) : exchange? inWord (c :: s) = none := by
  rw [exchange?.eq_2, h]
  · rfl
  · rintro _ ⟨⟩
    exact quote rfl

/-- Only quotes and what begins like a word are exchanged. -/
theorem exchange?_eq_none {c : Char} (other : isOther c = true) (inWord : Bool) (s : List Char) :
    exchange? inWord (c :: s) = none := by
  simp only [isOther, Bool.and_eq_true, bne_iff_ne] at other
  obtain ⟨⟨⟨hquote, ht⟩, hf⟩, hn⟩ := other
  have hnone : ∀ e ∈ exchanges, startsWith (c :: s) e.1.toList = false := by
    simp [exchanges, Json.Words.json, startsWith, ht, hf, hn]
  refine exchange?_eq_none_of_wordAt? hquote ?_
  rw [wordAt?, List.find?_eq_none.2 (fun e he => by simp [hnone e he]), ite_self]

/-- Where no word goes on, it makes no difference whether one stands before. -/
theorem exchanged_of_endsWord {rest : List Char} (h : EndsWord rest) (inWord : Bool) :
    exchanged 0 inWord rest = exchanged 0 false rest := by
  cases rest with
  | nil => rfl
  | cons c s =>
    by_cases hquote : c = '"'
    · subst hquote
      rfl
    · have hother : isOther c = true := by
        have hc := h c rfl
        simp only [isOther, Bool.and_eq_true, bne_iff_ne, hquote, ne_eq, not_false_eq_true, true_and]
        refine ⟨⟨?_, ?_⟩, ?_⟩ <;> rintro rfl <;> cases hc
      rw [exchanged_cons (exchange?_eq_none hother inWord s),
        exchanged_cons (exchange?_eq_none hother false s)]

/-- What is no quote and begins no word stays. -/
theorem exchanged_others {s : List Char} (h : s.all isOther = true) (inWord : Bool)
    (rest : List Char) : exchanged 0 inWord (s ++ rest) =
      s ++ exchanged 0 (s.foldl (fun _ c => isWord c) inWord) rest := by
  induction s generalizing inWord with
  | nil => rfl
  | cons c s ih =>
    rw [List.all_cons, Bool.and_eq_true] at h
    rw [List.cons_append, exchanged_cons (exchange?_eq_none h.1 inWord _), ih h.2]
    rfl

/-- Inside of a word its characters stay. -/
theorem exchanged_word {s : List Char} (h : s.all isWord = true) (rest : List Char) :
    exchanged 0 true (s ++ rest) = s ++ exchanged 0 true rest := by
  induction s with
  | nil => rfl
  | cons c s ih =>
    rw [List.all_cons, Bool.and_eq_true] at h
    have hquote : c ≠ '"' := by
      rintro rfl
      rw [not_isWord_of_mem_signs (c := '"') (by decide)] at h
      cases h.1
    rw [List.cons_append, exchanged_cons (exchange?_eq_none_of_wordAt? hquote rfl), h.1, ih h.2]
    rfl

/-! ## What characters become -/

/-- What characters become where no word stands before them and none goes on behind them. -/
def Becomes (s t : List Char) : Prop :=
  ∀ rest, EndsWord rest → exchanged 0 false (s ++ rest) = t ++ exchanged 0 false rest

namespace Becomes

theorem others {s : List Char} (h : s.all isOther = true) : Becomes s s :=
  fun _ ends => by rw [exchanged_others h, exchanged_of_endsWord ends]

theorem place {c : Char} {s t : List Char}
    (h : ∀ rest, EndsWord rest → exchange? false (c :: (s ++ rest)) = some (t, s.length + 1)) :
    Becomes (c :: s) t := fun rest ends => by
  rw [List.cons_append, exchanged_place (h rest ends), exchanged_of_endsWord ends]

theorem append {s t s' t' : List Char} (first : Becomes s t) (more : Becomes s' t')
    (ends : ∀ rest, EndsWord (s' ++ rest)) : Becomes (s ++ s') (t ++ t') :=
  fun rest h => by
    rw [List.append_assoc, first _ (ends rest), more rest h, List.append_assoc]

/-- Signs may stand before anything. -/
theorem signs {s t before : List Char} (h : Becomes s t) (other : before.all isOther = true)
    (known : before.all Listing.signs.contains = true) : Becomes (before ++ s) (before ++ t) :=
  fun rest ends => by
    rw [List.append_assoc, exchanged_others other, foldl_isWord_of_signs known, h rest ends,
      List.append_assoc]

/-- What is between brackets. -/
theorem bracketed {s t : List Char} {left right : Char} (h : Becomes s t)
    (brackets : left = '[' ∧ right = ']' ∨ left = '\x7b' ∧ right = '\x7d') :
    Becomes (left :: (s ++ [right])) (left :: (t ++ [right])) := by
  have hleft : [left].all isOther = true := by
    rcases brackets with ⟨rfl, -⟩ | ⟨rfl, -⟩ <;> decide
  have hright : [right].all isOther = true := by
    rcases brackets with ⟨-, rfl⟩ | ⟨-, rfl⟩ <;> decide
  have hsigns : left ∈ Listing.signs ∧ right ∈ Listing.signs := by
    rcases brackets with ⟨rfl, rfl⟩ | ⟨rfl, rfl⟩ <;> decide
  exact (h.append (others hright) fun _ => endsWord_sign hsigns.2 _).signs hleft
    (by simpa using hsigns.1)

/-- Parts with commas between them. -/
theorem intercalate {l l' : List (List Char)} (h : List.Forall₂ Becomes l l') :
    Becomes ([',', ' '].intercalate l) ([',', ' '].intercalate l') := by
  induction h with
  | nil => exact others (by simp)
  | cons first more ih =>
    cases more with
    | nil => simpa using first
    | cons next rest =>
      rw [List.intercalate_cons_cons, List.intercalate_cons_cons, List.append_assoc, List.append_assoc]
      exact first.append (ih.signs (by decide) (by decide))
        fun _ => endsWord_sign (by decide) _

/-- A word is exchanged. -/
theorem word {c : Char} {s : List Char} {e : String × String} (quote : c ≠ '"')
    (chars : e.1.toList = c :: s)
    (found : ∀ rest, EndsWord rest → wordAt? false (c :: (s ++ rest)) = some e) :
    Becomes e.1.toList e.2.toList := by
  rw [chars]
  refine place fun rest ends => ?_
  rw [exchange?.eq_2, found rest ends]
  · rw [Option.map_some, ← String.length_toList, chars, List.length_cons]
  · rintro _ ⟨⟩
    exact quote rfl

theorem exchanges {e : String × String} (h : e ∈ Listing.exchanges) :
    Becomes e.1.toList e.2.toList := by
  have hends {rest : List Char} (ends : EndsWord rest) : rest.head?.any isWord = false := by
    cases hrest : rest.head? with
    | none => rfl
    | some c => exact ends c hrest
  have hlength : "true".length = 4 ∧ "false".length = 5 ∧ "null".length = 4 := ⟨rfl, rfl, rfl⟩
  simp only [Listing.exchanges, List.mem_cons, List.not_mem_nil, or_false] at h
  rcases h with rfl | rfl | rfl
  · refine word (c := 't') (s := ['r', 'u', 'e']) (by decide) rfl fun rest ends => ?_
    simp [wordAt?, Listing.exchanges, Json.Words.json, startsWith, hlength,
      ← List.head?_eq_getElem?, hends ends]
  · refine word (c := 'f') (s := ['a', 'l', 's', 'e']) (by decide) rfl fun rest ends => ?_
    simp [wordAt?, Listing.exchanges, Json.Words.json, startsWith, hlength,
      ← List.head?_eq_getElem?, hends ends]
  · refine word (c := 'n') (s := ['u', 'l', 'l']) (by decide) rfl fun rest ends => ?_
    simp [wordAt?, Listing.exchanges, Json.Words.json, startsWith, hlength,
      ← List.head?_eq_getElem?, hends ends]

/-- A name stays that begins with none of the words. -/
theorem name {c : Char} {s : List Char} (other : isOther c = true)
    (word : (c :: s).all isWord = true) : Becomes (c :: s) (c :: s) := fun rest ends => by
  rw [List.all_cons, Bool.and_eq_true] at word
  rw [List.cons_append, exchanged_cons (exchange?_eq_none other false _), word.1,
    exchanged_word word.2, exchanged_of_endsWord ends]
  rfl

end Becomes

/-! ## Texts -/

/-- Characters behind an opening quote that do not close it. -/
def StaysOpen (s : List Char) : Prop :=
  ∀ rest, closingLength? (s ++ rest) = (closingLength? rest).map (· + s.length)

namespace StaysOpen

theorem append {s t : List Char} (hs : StaysOpen s) (ht : StaysOpen t) : StaysOpen (s ++ t) := by
  intro rest
  rw [List.append_assoc, hs, ht, Option.map_map, List.length_append]
  refine Option.map_congr fun n _ => ?_
  simp only [Function.comp_apply]
  omega

theorem flatMap {α : Type} {f : α → List Char} {l : List α} (h : ∀ a ∈ l, StaysOpen (f a)) :
    StaysOpen (l.flatMap f) := by
  induction l with
  | nil => exact fun rest => by simp
  | cons a l ih =>
    rw [List.forall_mem_cons] at h
    exact h.1.append (ih h.2)

/-- Neither a quote nor a backslash. -/
theorem single {c : Char} (quote : c ≠ '"') (backslash : c ≠ '\\') : StaysOpen [c] := by
  intro rest
  rw [List.singleton_append, closingLength?.eq_def]
  split <;> simp_all

theorem escape {c : Char} (h : c ≠ '\n') : StaysOpen ['\\', c] := fun rest => by
  rw [List.cons_append, List.singleton_append, closingLength?, if_neg h]
  rfl

theorem unitEscape (n : Nat) : StaysOpen (Json.unitEscape n) := by
  have hdigit (d : Nat) : StaysOpen [Text.hexDigit (d % 16)] := by
    have h : ∀ d < 16, Text.hexDigit d ≠ '"' ∧ Text.hexDigit d ≠ '\\' := by decide
    have hd := h _ (Nat.mod_lt d (by decide))
    exact single hd.1 hd.2
  have hletter : StaysOpen ['\\', 'u'] := escape (by decide)
  have hdigits : StaysOpen (Text.hexDigits 4 n) :=
    (((hdigit _).append (hdigit _)).append (hdigit _)).append (hdigit _)
  exact hletter.append hdigits

/-- What stands between quotes for a character does not close them. -/
theorem quotedChar (c : Char) : StaysOpen (Json.quotedChar true c) := by
  unfold Json.quotedChar
  cases hshort : Json.shortEscape? c with
  | some e =>
    have hbreak : e ≠ '\n' := by
      unfold Json.shortEscape? at hshort
      split at hshort <;> cases hshort <;> decide
    exact escape hbreak
  | none =>
    have hquote : c ≠ '"' := by rintro rfl; cases hshort
    have hslash : c ≠ '\\' := by rintro rfl; cases hshort
    dsimp only
    split
    · unfold Json.codeEscape
      split
      · exact unitEscape _
      · exact (unitEscape _).append (unitEscape _)
    · exact single hquote hslash

end StaysOpen

/-- A text between quotes stays, whatever words it holds. -/
theorem Becomes.quoted (s : String) :
    Becomes (Json.quoted true s).toList (Json.quoted true s).toList := by
  rw [Json.quoted, String.toList_ofList]
  refine place fun rest _ => ?_
  have hopen : StaysOpen (s.toList.flatMap (Json.quotedChar true)) :=
    StaysOpen.flatMap fun c _ => .quotedChar c
  have hlength : closingLength? (s.toList.flatMap (Json.quotedChar true) ++ '"' :: rest) =
      some (1 + (s.toList.flatMap (Json.quotedChar true)).length) := hopen _
  rw [List.append_assoc, List.singleton_append, exchange?, hlength, Option.map_some, Nat.add_comm 1,
    List.take_length_add_append, List.length_append]
  rfl

/-! ## Numbers -/

theorem Becomes.numeral {s : String} (h : Text.Consists IsNumeral s) :
    Becomes s.toList s.toList := by
  refine others (List.all_eq_true.2 fun c hc => ?_)
  rcases h c hc with h | rfl | rfl | rfl | rfl
  · simp only [isOther, Bool.and_eq_true, bne_iff_ne]
    refine ⟨⟨⟨?_, ?_⟩, ?_⟩, ?_⟩ <;> rintro rfl <;> cases h
  all_goals decide

theorem Becomes.double (x : Double) :
    Becomes (NumberStyle.json.text x).toList (NumberStyle.json.text x).toList := by
  have hinfinity : Becomes "Infinity".toList "Infinity".toList :=
    name (c := 'I') (s := "nfinity".toList) (by decide) (by decide)
  cases number : x.isNaN with
  | true =>
    rw [NumberStyle.text, if_pos number]
    exact others (s := "NaN".toList) (by decide)
  | false =>
    cases bounded : x.isInfinite with
    | false => exact numeral (NumberStyle.json.numeral_text number bounded)
    | true =>
      rw [NumberStyle.text, number, if_neg Bool.false_ne_true, if_pos bounded]
      split
      · have hminus : Becomes (['-'] ++ "Infinity".toList) (['-'] ++ "Infinity".toList) :=
          hinfinity.signs (by decide) (by decide)
        exact hminus
      · exact hinfinity

/-! ## Values -/

/-- The line of a document becomes that of the listing, and if one is missing so is the other. -/
def LinesAgree (v : Value) : Prop :=
  Option.Rel (fun s t : String => Becomes s.toList t.toList) (Json.line? v)
    (Json.lineWith? words v)

/-- What corresponds item by item corresponds as a whole. -/
theorem rel_mapM {α β γ : Type} {R : β → γ → Prop} {f : α → Option β} {g : α → Option γ}
    {l : List α} (h : ∀ a ∈ l, Option.Rel R (f a) (g a)) :
    Option.Rel (List.Forall₂ R) (l.mapM f) (l.mapM g) := by
  induction l with
  | nil => exact .some .nil
  | cons a l ih =>
    rw [List.forall_mem_cons] at h
    obtain ⟨hfirst, hmore⟩ := h
    have hmore := ih hmore
    rw [List.mapM_cons, List.mapM_cons]
    revert hfirst hmore
    generalize f a = b, g a = c, l.mapM f = more, l.mapM g = more'
    rintro (first | _) (more | _)
    exacts [.some (.cons first more), .none, .none, .none]

/-- Lines that agree do so under a name. -/
theorem LinesAgree.member {v : Value} (key : String) (h : LinesAgree v) :
    Option.Rel (fun s t : String × String => s.1 = t.1 ∧ Becomes s.2.toList t.2.toList)
      (Json.lineMember? Json.Words.json (key, v)) (Json.lineMember? words (key, v)) := by
  rw [LinesAgree, Json.line?] at h
  rw [Json.lineMember?, Json.lineMember?]
  revert h
  generalize Json.lineWith? Json.Words.json v = s, Json.lineWith? words v = t
  rintro (h | _)
  exacts [.some ⟨rfl, h⟩, .none]

/-- A member in a document. -/
theorem Becomes.member (key : String) {s t : String} (h : Becomes s.toList t.toList) :
    Becomes (Json.quoted true key ++ ": " ++ s).toList (Json.quoted true key ++ ": " ++ t).toList := by
  have hcolon : ": ".toList = [':', ' '] := rfl
  simp only [String.toList_append, hcolon, List.append_assoc]
  exact (quoted key).append (h.signs (by decide) (by decide))
    fun _ => endsWord_sign (by decide) _

theorem linesAgree (v : Value) : LinesAgree v := by
  have hcomma : ", ".toList = [',', ' '] := rfl
  induction v using Value.induction with
  | null => exact .some (Becomes.exchanges (e := ("null", "None")) (by decide))
  | bool b =>
    cases b with
    | false => exact .some (Becomes.exchanges (e := ("false", "False")) (by decide))
    | true => exact .some (Becomes.exchanges (e := ("true", "True")) (by decide))
  | int n =>
    rw [LinesAgree, Json.line?, Json.lineWith?, Json.lineWith?]
    split
    · exact .none
    · exact .some (.numeral (numeral_toString_int n))
  | float x => exact .some (.double x)
  | str s => exact .some (.quoted s)
  | list items ih =>
    have hitems : Option.Rel (List.Forall₂ fun s t : String => Becomes s.toList t.toList)
        (items.mapM (Json.lineWith? Json.Words.json)) (items.mapM (Json.lineWith? words)) :=
      rel_mapM ih
    rw [LinesAgree, Json.line?, Json.lineWith?, Json.lineWith?, Json.lineItems?_eq,
      Json.lineItems?_eq]
    revert hitems
    generalize items.mapM (Json.lineWith? Json.Words.json) = texts,
      items.mapM (Json.lineWith? words) = texts'
    rintro (hitems | _)
    · refine .some ?_
      rw [String.toList_append, String.toList_append, String.toList_intercalate,
        String.toList_append, String.toList_append, String.toList_intercalate, hcomma]
      refine (Becomes.intercalate ?_).bracketed (.inl ⟨rfl, rfl⟩)
      rwa [List.forall₂_map_left_iff, List.forall₂_map_right_iff]
    · exact .none
  | object members ih =>
    have hmembers := rel_mapM fun m hm => LinesAgree.member m.1 (ih m hm)
    rw [LinesAgree, Json.line?, Json.lineWith?, Json.lineWith?, Json.lineMembers?_eq,
      Json.lineMembers?_eq]
    revert hmembers
    generalize members.mapM (Json.lineMember? Json.Words.json) = texts,
      members.mapM (Json.lineMember? words) = texts'
    rintro (hmembers | _)
    · have hsorted := Json.forall₂_sortNamed And.left hmembers
      refine .some ?_
      rw [String.toList_append, String.toList_append, String.toList_intercalate,
        String.toList_append, String.toList_append, String.toList_intercalate, hcomma]
      refine (Becomes.intercalate ?_).bracketed (.inr ⟨rfl, rfl⟩)
      rw [List.map_map, List.map_map, List.forall₂_map_left_iff, List.forall₂_map_right_iff]
      refine hsorted.imp fun s t h => ?_
      rw [Function.comp_apply, Function.comp_apply, h.1]
      exact .member t.1 h.2
    · exact .none
  | handle => exact .none

/-- A value in a listing is its line with the words of the listing. -/
theorem literal_eq (v : Value) : literal v = (Json.lineWith? words v).getD "" := by
  have h := linesAgree v
  rw [LinesAgree] at h
  rw [literal]
  revert h
  generalize Json.line? v = s, Json.lineWith? words v = t
  rintro (h | _)
  · have hwhole := h [] fun _ hc => nomatch hc
    rw [List.append_nil] at hwhole
    rw [Option.getD_some, Option.getD_some, hwhole, exchanged, List.append_nil, String.ofList_toList]
  · rfl

end Conduit.Listing
