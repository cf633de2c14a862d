import Conduit.Proofs.Json.Document

/-!
# Reading any page again

A page that can be read at all is read as its value, with null for infinities and NaN and with one
member a name. Nothing is asked of the value: where an integer is too long, or lists and objects are
nested too deep, nothing is read.

* `Value.reread` — a value after it went through a document;
* `Json.Yields` — what a reader reads if it reads anything;
* `Json.yields_page`, `Json.yields_items`, `Json.yields_members` — what is read of the lines of any
  value;
* `Json.eq_reread_of_readChars` — what is read of a document.
-/

namespace Conduit

namespace Value

mutual

/-- A value after it went through a document: null stands for infinities and NaN, and of the members
of one name the last is left. -/
def reread : Value → Value
  | float x => if x.isFinite then float x else null
  | list items => list (rereadItems items)
  | object members => object (Members.ofPairs (rereadMembers members))
  | v => v

/-- The items of a list after they went through a document. -/
def rereadItems : List Value → List Value
  | [] => []
  | v :: rest => reread v :: rereadItems rest

/-- The members of an object as they are read of a document. -/
def rereadMembers : List (String × Value) → List (String × Value)
  | [] => []
  | (key, v) :: rest => (key, reread v) :: rereadMembers rest

end

theorem rereadItems_eq (items : List Value) : rereadItems items = items.map reread := by
  induction items with
  | nil => rfl
  | cons v rest ih => rw [rereadItems, ih, List.map_cons]

@[simp] theorem reread_ofText? (t : Option String) : (ofText? t).reread = ofText? t := by
  cases t <;> rfl

end Value

namespace Json

/-- Where a reader reads anything at the start of a text, it reads this and leaves this rest. -/
def Yields {α : Type} (reader : (s : List Char) → Except Obstacle (Step s α)) (s : List Char)
    (a : α) (rest : List Char) : Prop :=
  ∀ step, reader s = .ok step → step.result = a ∧ step.rest = rest

theorem Reads.yields {α : Type} {reader : (s : List Char) → Except Obstacle (Step s α)}
    {s : List Char} {a : α} {rest : List Char} (h : Reads reader s a rest) :
    Yields reader s a rest := by
  obtain ⟨shorter, hread⟩ := h.exists_eq_ok
  intro step hstep
  cases hread.symm.trans hstep
  exact ⟨rfl, rfl⟩

/-! ## Integers -/

/-- The digits of a number are read as the number or, when they are too many, not at all. -/
theorem yields_unsigned (negative : Bool) (n : Nat) {rest : List Char} (hrest : Ends rest) :
    Yields (unsigned negative) (Nat.toDigits 10 n ++ rest) (.int (Numeral.signed negative n))
      rest := by
  by_cases short : Numeral.isShort n
  · exact (unsigned_int negative short hrest).yields
  · have hchars : (Spelling.ofNat n).chars = Nat.toDigits 10 n := by
      simp [Spelling.chars, Spelling.ofNat, Spelling.point, Spelling.mark]
    rw [← hchars]
    intro step hstep
    have hnumber := numberOf_of_unsigned (Spelling.sound_ofNat n) hrest hstep
    have hlong : Numeral.digitLimit < (Numeral.digitValues (Spelling.ofNat n).whole).length := by
      simpa [Numeral.isShort, Numeral.digitValues, Spelling.ofNat] using short
    rw [numberOf, if_neg (by simp [Spelling.ofNat]), if_pos hlong] at hnumber
    cases hnumber

theorem yields_signed (room : Nat) (negative : Bool) {s rest : List Char} {v : Value}
    (digit : ∀ c ∈ s.head?, c.isDigit = true) (nonempty : s ≠ [])
    (h : Yields (unsigned negative) s v rest) :
    Yields (value room) ((if negative then ['-'] else []) ++ s) v rest := by
  obtain ⟨d, more, rfl⟩ := List.exists_cons_of_ne_nil nonempty
  have hd := digit d rfl
  cases negative with
  | true =>
    change Yields (value room) ('-' :: d :: more) v rest
    intro step hstep
    rw [value_eq_scalar room (by simp) (by simp)] at hstep
    unfold scalar at hstep
    rw [word?_of_isDigit hd (.inr rfl)] at hstep
    cases hn : unsigned true (d :: more) with
    | error obstacle =>
      simp only [hn] at hstep
      cases hstep
    | ok n =>
      simp only [hn] at hstep
      cases hstep
      exact h n hn
  | false =>
    have hbrackets : d ≠ '[' ∧ d ≠ '\x7b' := by
      constructor <;>
      · rintro rfl
        cases hd
    have hvalue : value room (d :: more) = unsigned false (d :: more) := by
      rw [value_eq_scalar room (by simpa using hbrackets.1) (by simpa using hbrackets.2),
        scalar_digit hd rfl]
    exact fun step hstep => h step (hvalue.symm.trans hstep)

theorem yields_int (room : Nat) (n : ℤ) {rest : List Char} (hrest : Ends rest) :
    Yields (value room) ((toString n).toList ++ rest) (.int n) rest := by
  have hsigned : Numeral.signed (decide (n < 0)) n.natAbs = n := by
    simp only [Numeral.signed, decide_eq_true_eq]
    split <;> omega
  rw [toList_int, List.append_assoc]
  refine yields_signed room _ ?_ (List.append_ne_nil_of_left_ne_nil Nat.toDigits_ne_nil _) ?_
  · rw [List.head?_append_of_ne_nil _ Nat.toDigits_ne_nil]
    exact fun c hc => isDigit_toDigits _ c (List.mem_of_mem_head? hc)
  · have hread := yields_unsigned (decide (n < 0)) n.natAbs hrest
    rwa [hsigned] at hread

/-! ## Lists and objects -/

section Parts

variable {room : Nat} {s inner between rest after last : List Char} {v : Value} {key : String}

theorem yields_items_last (h : Yields (value room) s v rest)
    (hrest : skipSpaces rest = ']' :: after) : Yields (items room) s [v] after := by
  intro step hstep
  rw [items] at hstep
  split at hstep
  · cases hstep
  next first hfirst =>
  obtain ⟨rfl, rfl⟩ := h first hfirst
  split at hstep
  · next heq =>
    cases hrest.symm.trans heq
    cases hstep
    exact ⟨rfl, rfl⟩
  · next heq => cases hrest.symm.trans heq
  · next hnot _ => exact absurd hrest (hnot _)

theorem yields_items_more {l : List Value} (h : Yields (value room) s v rest)
    (hrest : skipSpaces rest = ',' :: after)
    (hmore : Yields (items room) (skipSpaces after) l last) :
    Yields (items room) s (v :: l) last := by
  intro step hstep
  rw [items] at hstep
  split at hstep
  · cases hstep
  next first hfirst =>
  obtain ⟨rfl, rfl⟩ := h first hfirst
  split at hstep
  · next heq => cases hrest.symm.trans heq
  · next heq =>
    cases hrest.symm.trans heq
    split at hstep
    · cases hstep
    next more heqMore =>
    obtain ⟨rfl, rfl⟩ := hmore more heqMore
    cases hstep
    exact ⟨rfl, rfl⟩
  · next hnot => exact absurd hrest (hnot _)

theorem yields_members_last (hkey : Reads memberName s key between)
    (h : Yields (value room) between v rest) (hrest : skipSpaces rest = '\x7d' :: after) :
    Yields (members room) s [(key, v)] after := by
  obtain ⟨shorter, hname⟩ := hkey.exists_eq_ok
  intro step hstep
  rw [members, hname] at hstep
  dsimp only at hstep
  split at hstep
  · cases hstep
  next first hfirst =>
  obtain ⟨rfl, rfl⟩ := h first hfirst
  split at hstep
  · next heq =>
    cases hrest.symm.trans heq
    cases hstep
    exact ⟨rfl, rfl⟩
  · next heq => cases hrest.symm.trans heq
  · next hnot _ => exact absurd hrest (hnot _)

theorem yields_members_more {l : List (String × Value)} (hkey : Reads memberName s key between)
    (h : Yields (value room) between v rest) (hrest : skipSpaces rest = ',' :: after)
    (hmore : Yields (members room) (skipSpaces after) l last) :
    Yields (members room) s ((key, v) :: l) last := by
  obtain ⟨shorter, hname⟩ := hkey.exists_eq_ok
  intro step hstep
  rw [members, hname] at hstep
  dsimp only at hstep
  split at hstep
  · cases hstep
  next first hfirst =>
  obtain ⟨rfl, rfl⟩ := h first hfirst
  split at hstep
  · next heq => cases hrest.symm.trans heq
  · next heq =>
    cases hrest.symm.trans heq
    split at hstep
    · cases hstep
    next more heqMore =>
    obtain ⟨rfl, rfl⟩ := hmore more heqMore
    cases hstep
    exact ⟨rfl, rfl⟩
  · next hnot => exact absurd hrest (hnot _)

/-- A text begins with something that is no space and closes nothing. -/
def Opens (s : List Char) : Prop :=
  ∃ c more, s = c :: more ∧ isSpace c = false ∧ c ≠ ']' ∧ c ≠ '\x7d'

theorem Opens.append (h : Opens s) (rest : List Char) : Opens (s ++ rest) := by
  obtain ⟨c, more, rfl, hc⟩ := h
  exact ⟨c, more ++ rest, rfl, hc⟩

theorem Opens.unspaced (h : Opens s) : Unspaced s := by
  obtain ⟨c, more, rfl, hspace, -⟩ := h
  rintro d hd
  cases hd
  exact hspace

theorem yields_list {l : List Value} (hinner : skipSpaces s = inner)
    (opens : Opens inner) (h : Yields (items (room - 1)) inner l rest) :
    Yields (value room) ('[' :: s) (.list l) rest := by
  subst hinner
  obtain ⟨c, more, hc, -, hclosing, -⟩ := opens
  intro step hstep
  rw [value] at hstep
  split at hstep
  · cases hstep
  split at hstep
  · next heq => exact absurd (List.cons.inj (hc.symm.trans heq)).1 hclosing
  split at hstep
  · cases hstep
  next parts hparts =>
  obtain ⟨rfl, rfl⟩ := h parts hparts
  cases hstep
  exact ⟨rfl, rfl⟩

theorem yields_object {l : List (String × Value)} (hinner : skipSpaces s = inner)
    (opens : Opens inner) (h : Yields (members (room - 1)) inner l rest) :
    Yields (value room) ('\x7b' :: s) (.object (Members.ofPairs l)) rest := by
  subst hinner
  obtain ⟨c, more, hc, -, -, hclosing⟩ := opens
  intro step hstep
  rw [value] at hstep
  split at hstep
  · cases hstep
  split at hstep
  · next heq => exact absurd (List.cons.inj (hc.symm.trans heq)).1 hclosing
  split at hstep
  · cases hstep
  next parts hparts =>
  obtain ⟨rfl, rfl⟩ := h parts hparts
  cases hstep
  exact ⟨rfl, rfl⟩

end Parts

/-! ## Pages -/

theorem opens_digits {s : List Char} (h : ∀ c ∈ s, c.isDigit = true) (nonempty : s ≠ []) :
    Opens s := by
  obtain ⟨d, more, rfl⟩ := List.exists_cons_of_ne_nil nonempty
  have hd := h d (List.mem_cons_self ..)
  refine ⟨d, more, rfl, Bool.eq_false_iff.2 fun hspace => ?_, ?_, ?_⟩
  · have hspace : d = ' ' ∨ d = '\t' ∨ d = '\n' ∨ d = '\r' := by
      simpa [isSpace, or_assoc] using hspace
    rcases hspace with rfl | rfl | rfl | rfl <;> cases hd
  · rintro rfl
    cases hd
  · rintro rfl
    cases hd

theorem opens_signed (negative : Bool) {s : List Char} (h : Opens s) :
    Opens ((if negative then ['-'] else []) ++ s) := by
  cases negative with
  | true => exact ⟨'-', s, rfl, rfl, by decide, by decide⟩
  | false => exact h

theorem opens_float (x : Double) : Opens (NumberStyle.stored.text x).toList := by
  cases finite : x.isFinite with
  | false =>
    rw [text_of_not_finite finite]
    exact ⟨'n', _, rfl, rfl, by decide, by decide⟩
  | true =>
    rw [toList_float finite]
    refine opens_signed _ ?_
    by_cases hzero : x.mantissa = 0
    · rw [if_pos hzero]
      exact ⟨'0', _, rfl, rfl, by decide, by decide⟩
    · rw [if_neg hzero, toList_decimalText]
      have sound := (sound_spelling (digits_shortest hzero)).1
      exact (opens_digits sound.whole sound.nonempty).append _

theorem opens_bracketed {opening : Char} (closing : Char) (depth : Nat) (texts : List String)
    (h : isSpace opening = false ∧ opening ≠ ']' ∧ opening ≠ '\x7d') :
    Opens (bracketed (String.ofList [opening]) (String.ofList [closing]) depth texts).toList := by
  unfold bracketed
  split
  · rw [String.toList_append, String.toList_ofList]
    exact ⟨opening, _, rfl, h⟩
  · simp only [String.toList_append, String.toList_ofList, List.append_assoc]
    exact ⟨opening, _, rfl, h⟩

/-- A page begins with something that is no space and closes nothing. -/
theorem opens_page {v : Value} {depth : Nat} {text : String} (h : page? depth v = some text) :
    Opens text.toList := by
  cases v with
  | null =>
    cases h
    exact ⟨'n', _, rfl, rfl, by decide, by decide⟩
  | bool b =>
    cases h
    cases b with
    | true => exact ⟨'t', _, rfl, rfl, by decide, by decide⟩
    | false => exact ⟨'f', _, rfl, rfl, by decide, by decide⟩
  | int n =>
    cases h
    rw [toList_int]
    exact opens_signed _ (opens_digits (isDigit_toDigits _) Nat.toDigits_ne_nil)
  | float x =>
    cases h
    exact opens_float x
  | str t =>
    cases h
    rw [toList_quoted]
    exact ⟨'"', _, rfl, rfl, by decide, by decide⟩
  | list l =>
    rw [page?, Option.map_eq_some_iff] at h
    obtain ⟨texts, -, rfl⟩ := h
    exact opens_bracketed ']' depth texts (by decide)
  | object l =>
    rw [page?, Option.map_eq_some_iff] at h
    obtain ⟨texts, -, rfl⟩ := h
    exact opens_bracketed '\x7d' depth texts (by decide)
  | opaqueHandle => cases h

/-- Parts one a line begin as the first of them does. -/
theorem opens_separated (depth : Nat) {first : String} (more : List String)
    (h : Opens first.toList) : Opens (("," ++ newLine depth).intercalate (first :: more)).toList := by
  cases more with
  | nil => rwa [String.intercalate_singleton]
  | cons second others =>
    rw [toList_separated]
    exact h.append _

theorem opens_member (key text : String) : Opens (quoted false key ++ ": " ++ text).toList := by
  rw [String.toList_append, String.toList_append, toList_quoted]
  exact ⟨'"', _, rfl, rfl, by decide, by decide⟩

theorem yields_of_no_room {opening : Char} {s rest : List Char} {v : Value}
    (h : opening = '[' ∨ opening = '\x7b') : Yields (value 0) (opening :: s) v rest := by
  intro step hstep
  rcases h with rfl | rfl <;>
  · rw [value, if_pos rfl] at hstep
    cases hstep

mutual

/-- Whatever is read of the page of a value is the value, but for what a document leaves out. -/
theorem yields_page : ∀ (v : Value) {depth : Nat} {text : String}, page? depth v = some text →
    ∀ (room : Nat) {rest : List Char}, Ends rest →
      Yields (value room) (text.toList ++ rest) v.reread rest
  | .null, _, _, h, room, rest, _ => by
    cases h
    exact (value_null room rest).yields
  | .bool b, _, _, h, room, rest, _ => by
    cases h
    exact (value_bool room b rest).yields
  | .int n, _, _, h, room, rest, hrest => by
    cases h
    exact yields_int room n hrest
  | .float x, _, _, h, room, rest, hrest => by
    cases h
    rw [Value.reread]
    split
    · next finite => exact (value_float room finite hrest).yields
    · next hnot =>
      rw [text_of_not_finite (Bool.eq_false_iff.2 hnot)]
      exact (value_null room rest).yields
  | .str t, _, _, h, room, rest, _ => by
    cases h
    exact (value_text room t rest).yields
  | .opaqueHandle, _, _, h, _, _, _ => by cases h
  | .list l, depth, text, h, room, rest, hrest => by
    rw [page?, Option.map_eq_some_iff] at h
    obtain ⟨texts, htexts, rfl⟩ := h
    rw [show "[" = String.ofList ['['] from rfl, show "]" = String.ofList [']'] from rfl]
    cases l with
    | nil =>
      cases htexts
      rw [toList_emptyBrackets]
      cases room with
      | zero => exact yields_of_no_room (.inl rfl)
      | succ room => exact (value_nil room rest).yields
    | cons v l =>
      have hread := yields_items (v :: l) htexts (List.cons_ne_nil _ _) (room - 1) depth rest
      obtain ⟨first, more, hfirst, -, rfl⟩ := pageItems?_cons htexts
      have opens := (opens_separated (depth + 1) more (opens_page hfirst)).append
        ((newLine depth).toList ++ ']' :: rest)
      rw [toList_bracketed _ _ _ (List.cons_ne_nil _ _)]
      exact yields_list (skipSpaces_newLine _ opens.unspaced) opens hread
  | .object l, depth, text, h, room, rest, hrest => by
    rw [page?, Option.map_eq_some_iff] at h
    obtain ⟨texts, htexts, rfl⟩ := h
    rw [show "\x7b" = String.ofList ['\x7b'] from rfl,
      show "\x7d" = String.ofList ['\x7d'] from rfl]
    cases l with
    | nil =>
      cases htexts
      rw [toList_emptyBrackets]
      cases room with
      | zero => exact yields_of_no_room (.inr rfl)
      | succ room => exact (value_noMembers room rest).yields
    | cons member l =>
      have hread := yields_members (member :: l) htexts (List.cons_ne_nil _ _) (room - 1) depth rest
      obtain ⟨first, more, hfirst, -, rfl⟩ := pageMembers?_cons htexts
      have opens := (opens_separated (depth + 1) more (opens_member member.1 first)).append
        ((newLine depth).toList ++ '\x7d' :: rest)
      rw [toList_bracketed _ _ _ (List.cons_ne_nil _ _)]
      exact yields_object (skipSpaces_newLine _ opens.unspaced) opens hread

/-- Whatever is read of the lines of a list are its items. -/
theorem yields_items : ∀ (l : List Value) {depth : Nat} {texts : List String},
    pageItems? depth l = some texts → l ≠ [] → ∀ (room outer : Nat) (rest : List Char),
      Yields (items room)
        ((("," ++ newLine depth).intercalate texts).toList ++
          ((newLine outer).toList ++ ']' :: rest))
        (Value.rereadItems l) rest
  | [], _, _, _, h, _, _, _ => absurd rfl h
  | v :: l, depth, texts, h, _, room, outer, rest => by
    obtain ⟨first, more, hfirst, hmore, rfl⟩ := pageItems?_cons h
    cases l with
    | nil =>
      cases hmore
      rw [String.intercalate_singleton]
      exact yields_items_last (yields_page v hfirst room (ends_newLine outer _))
        (skipSpaces_closing outer rfl rest)
    | cons w l =>
      have hread := yields_items (w :: l) hmore (List.cons_ne_nil _ _) room outer rest
      obtain ⟨second, others, hsecond, -, rfl⟩ := pageItems?_cons hmore
      have opens := (opens_separated depth others (opens_page hsecond)).append
        ((newLine outer).toList ++ ']' :: rest)
      rw [toList_separated, List.append_assoc, List.append_assoc]
      refine yields_items_more (yields_page v hfirst room (ends_comma depth _))
        (skipSpaces_comma depth _) ?_
      rwa [skipSpaces_newLine _ opens.unspaced]

/-- Whatever is read of the lines of an object are its members. -/
theorem yields_members : ∀ (l : List (String × Value)) {depth : Nat} {texts : List String},
    pageMembers? depth l = some texts → l ≠ [] → ∀ (room outer : Nat) (rest : List Char),
      Yields (members room)
        ((("," ++ newLine depth).intercalate texts).toList ++
          ((newLine outer).toList ++ '\x7d' :: rest))
        (Value.rereadMembers l) rest
  | [], _, _, _, h, _, _, _ => absurd rfl h
  | (key, v) :: l, depth, texts, h, _, room, outer, rest => by
    obtain ⟨first, more, hfirst, hmore, rfl⟩ := pageMembers?_cons h
    have hname (s : List Char) : Reads memberName ((quoted false key ++ ": " ++ first).toList ++ s)
        key (first.toList ++ s) := by
      rw [String.toList_append, String.toList_append, List.append_assoc, List.append_assoc]
      exact memberName_quoted key ((opens_page hfirst).append s).unspaced
    cases l with
    | nil =>
      cases hmore
      rw [String.intercalate_singleton]
      exact yields_members_last (hname _) (yields_page v hfirst room (ends_newLine outer _))
        (skipSpaces_closing outer rfl rest)
    | cons w l =>
      have hread := yields_members (w :: l) hmore (List.cons_ne_nil _ _) room outer rest
      obtain ⟨second, others, hsecond, -, rfl⟩ := pageMembers?_cons hmore
      have opens := opens_separated depth others (opens_member w.1 second)
      rw [toList_separated, List.append_assoc, List.append_assoc]
      refine yields_members_more (hname _) (yields_page v hfirst room (ends_comma depth _))
        (skipSpaces_comma depth _) ?_
      rwa [skipSpaces_newLine _ (opens.append _).unspaced]

end

/-! ## Documents -/

/-- The document of an object is read as the object, but for what a document leaves out, if it is
read at all. -/
theorem eq_reread_of_readChars {l : Members} {text : String} (h : page? 0 (.object l) = some text)
    {v : Value} (hread : readChars (Text.withLineFeeds text.toList) = .ok v) :
    v = (Value.object l).reread := by
  have hvalue : Yields (value depthLimit) (text.toList ++ []) (Value.object l).reread [] :=
    yields_page _ h depthLimit (by simp [Ends])
  rw [List.append_nil, ← skipSpaces_eq (opens_page h).unspaced] at hvalue
  rw [withLineFeeds_eq (unreturned_page _ h), readChars_eq_readUnmarked h, readUnmarked] at hread
  split at hread
  · cases hread
  · next step hstep =>
    split at hread
    · cases hread
      exact (hvalue step hstep).1
    · cases hread

end Json

end Conduit
