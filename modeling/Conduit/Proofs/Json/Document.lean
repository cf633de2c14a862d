import Conduit.Proofs.Json.Page
import Conduit.Proofs.Value.Inside
import Conduit.Text.Lines

/-!
# Documents

The document of an object has no carriage returns, so reading its lines leaves it as it is, and it
is read as the object, but for infinities and NaN.

* `Json.Unreturned` — a text without carriage returns;
* `Json.unreturned_page` — a page is one;
* `Json.exists_page` — a value that has a place in a document has a page;
* `Json.readChars_page` — what is read of a document.
-/

namespace Conduit.Json

/-- A text without carriage returns, which is the same after its lines were read. -/
def Unreturned (s : List Char) : Prop := '\r' ∉ s

theorem withLineFeeds_eq {s : List Char} (h : Unreturned s) : Text.withLineFeeds s = s := by
  unfold Unreturned at h
  fun_induction Text.withLineFeeds s <;> simp_all

theorem Unreturned.append {s t : List Char} (hs : Unreturned s) (ht : Unreturned t) :
    Unreturned (s ++ t) := fun h => (List.mem_append.1 h).elim hs ht

theorem unreturned_digits {s : List Char} (h : ∀ c ∈ s, c.isDigit = true) : Unreturned s :=
  fun hmem => absurd (h _ hmem) (by decide)

/-! ## Parts of a page -/

theorem hexDigit_ne : ∀ d < 16, Text.hexDigit d ≠ '\r' := by decide

theorem unreturned_unitEscape (n : Nat) : Unreturned (unitEscape n) := by
  have hdigit (k : Nat) : '\r' ≠ Text.hexDigit (k % 16) :=
    (hexDigit_ne _ (Nat.mod_lt _ (by norm_num))).symm
  unfold Unreturned unitEscape
  simp [Text.hexDigits, hdigit]

theorem unreturned_quotedChar (c : Char) : Unreturned (quotedChar false c) := by
  unfold quotedChar
  cases hshort : shortEscape? c with
  | some e =>
    unfold shortEscape? at hshort
    split at hshort <;> cases hshort <;> simp [Unreturned]
  | none =>
    have hc : '\r' ≠ c := by
      rintro rfl
      cases hshort
    dsimp only
    split
    · unfold codeEscape
      split
      · exact unreturned_unitEscape _
      · exact (unreturned_unitEscape _).append (unreturned_unitEscape _)
    · simpa [Unreturned] using hc

theorem unreturned_quoted (t : String) : Unreturned (quoted false t).toList := by
  rw [toList_quoted, unopened]
  intro hmem
  simp only [List.mem_cons, List.mem_append, List.mem_flatMap] at hmem
  rcases hmem with h | ⟨c, -, hc⟩ | h | h
  · cases h
  · exact unreturned_quotedChar c hc
  · cases h
  · cases h

theorem unreturned_chars {p : Spelling} (sound : p.Sound) : Unreturned p.chars := by
  have hpoint : Unreturned p.point := by
    unfold Spelling.point
    split
    · simp [Unreturned]
    · simpa [Unreturned] using unreturned_digits sound.fraction
  have hmark : Unreturned p.mark := by
    unfold Spelling.mark
    split
    · simp [Unreturned]
    · next n _ =>
      have hsign : Unreturned (if n < 0 then ['-'] else []) := by split <;> simp [Unreturned]
      simpa [Unreturned] using hsign.append (unreturned_digits (isDigit_toDigits n.natAbs))
  exact (unreturned_digits sound.whole).append (hpoint.append hmark)

theorem unreturned_newLine (depth : Nat) : Unreturned (newLine depth).toList := by
  rw [toList_newLine]
  simp [Unreturned]

theorem unreturned_float (x : Double) : Unreturned (NumberStyle.stored.text x).toList := by
  cases finite : x.isFinite with
  | false =>
    rw [text_of_not_finite finite]
    simp [Unreturned]
  | true =>
    rw [toList_float finite]
    refine .append (by split <;> simp [Unreturned]) ?_
    by_cases hzero : x.mantissa = 0
    · rw [if_pos hzero]
      simp [Unreturned]
    · rw [if_neg hzero, toList_decimalText]
      exact unreturned_chars (sound_spelling (digits_shortest hzero)).1

theorem unreturned_int (n : ℤ) : Unreturned (toString n).toList := by
  rw [toList_int]
  refine .append ?_ (unreturned_digits (isDigit_toDigits _))
  split <;> simp [Unreturned]

theorem unreturned_separated (depth : Nat) {texts : List String}
    (h : ∀ t ∈ texts, Unreturned t.toList) :
    Unreturned (("," ++ newLine depth).intercalate texts).toList := by
  have hcomma : Unreturned ("," ++ newLine depth).toList := by
    rw [String.toList_append]
    exact .append (by simp [Unreturned]) (unreturned_newLine depth)
  induction texts with
  | nil => simp [Unreturned]
  | cons first more ih =>
    have hfirst := h first (List.mem_cons_self ..)
    have hmore := ih fun t ht => h t (List.mem_cons_of_mem _ ht)
    cases more with
    | nil => rwa [String.intercalate_singleton]
    | cons second others =>
      rw [toList_separated]
      exact hfirst.append (hcomma.append hmore)

theorem unreturned_bracketed (opening closing : Char) (hopening : opening ≠ '\r')
    (hclosing : closing ≠ '\r') (depth : Nat) {texts : List String}
    (h : ∀ t ∈ texts, Unreturned t.toList) :
    Unreturned
      (bracketed (String.ofList [opening]) (String.ofList [closing]) depth texts).toList := by
  have hbrackets : Unreturned [opening] ∧ Unreturned [closing] := by
    simp [Unreturned, hopening.symm, hclosing.symm]
  unfold bracketed
  split
  · rw [String.toList_append, String.toList_ofList, String.toList_ofList]
    exact hbrackets.1.append hbrackets.2
  · simp only [String.toList_append, String.toList_ofList]
    exact (((hbrackets.1.append (unreturned_newLine _)).append (unreturned_separated _ h)).append
      (unreturned_newLine _)).append hbrackets.2

mutual

/-- A page has no carriage returns. -/
theorem unreturned_page : ∀ (v : Value) {depth : Nat} {text : String}, page? depth v = some text →
    Unreturned text.toList
  | .null, _, _, h => by
    cases h
    simp [Unreturned]
  | .bool b, _, _, h => by
    cases h
    cases b <;> simp [Unreturned]
  | .int n, _, _, h => by
    cases h
    exact unreturned_int n
  | .float x, _, _, h => by
    cases h
    exact unreturned_float x
  | .str t, _, _, h => by
    cases h
    exact unreturned_quoted t
  | .opaqueHandle, _, _, h => by cases h
  | .list l, depth, text, h => by
    rw [page?, Option.map_eq_some_iff] at h
    obtain ⟨texts, htexts, rfl⟩ := h
    exact unreturned_bracketed '[' ']' (by decide) (by decide) depth (unreturned_items l htexts)
  | .object l, depth, text, h => by
    rw [page?, Option.map_eq_some_iff] at h
    obtain ⟨texts, htexts, rfl⟩ := h
    exact unreturned_bracketed '\x7b' '\x7d' (by decide) (by decide) depth
      (unreturned_members l htexts)

theorem unreturned_items : ∀ (l : List Value) {depth : Nat} {texts : List String},
    pageItems? depth l = some texts → ∀ t ∈ texts, Unreturned t.toList
  | [], _, _, h => by
    cases h
    simp
  | v :: l, depth, texts, h => by
    obtain ⟨first, more, hfirst, hmore, rfl⟩ := pageItems?_cons h
    intro t ht
    rcases List.mem_cons.1 ht with rfl | ht
    · exact unreturned_page v hfirst
    · exact unreturned_items l hmore t ht

theorem unreturned_members : ∀ (l : List (String × Value)) {depth : Nat} {texts : List String},
    pageMembers? depth l = some texts → ∀ t ∈ texts, Unreturned t.toList
  | [], _, _, h => by
    cases h
    simp
  | (key, v) :: l, depth, texts, h => by
    obtain ⟨first, more, hfirst, hmore, rfl⟩ := pageMembers?_cons h
    intro t ht
    rcases List.mem_cons.1 ht with rfl | ht
    · rw [String.toList_append, String.toList_append]
      exact ((unreturned_quoted key).append (by simp [Unreturned])).append
        (unreturned_page v hfirst)
    · exact unreturned_members l hmore t ht

end

/-! ## Documents -/

theorem exists_pageItems {items : List Value} {depth : Nat}
    (h : ∀ v ∈ items, ∃ text, page? depth v = some text) :
    ∃ texts, pageItems? depth items = some texts := by
  induction items with
  | nil => exact ⟨[], rfl⟩
  | cons v rest ih =>
    rw [List.forall_mem_cons] at h
    obtain ⟨⟨first, hfirst⟩, hrest⟩ := h
    obtain ⟨more, hmore⟩ := ih hrest
    exact ⟨first :: more, by rw [pageItems?, hfirst, hmore]; rfl⟩

theorem exists_pageMembers {members : Members} {depth : Nat}
    (h : ∀ m ∈ members, ∃ text, page? depth m.2 = some text) :
    ∃ texts, pageMembers? depth members = some texts := by
  induction members with
  | nil => exact ⟨[], rfl⟩
  | cons m rest ih =>
    rw [List.forall_mem_cons] at h
    obtain ⟨⟨first, hfirst⟩, hrest⟩ := h
    obtain ⟨more, hmore⟩ := ih hrest
    exact ⟨_, by rw [pageMembers?, hfirst, hmore]; rfl⟩

/-- A value that has a place in a document has a page. -/
theorem exists_page {v : Value} {room : Nat} (h : v.documentFlaw? room = none) (depth : Nat) :
    ∃ text, page? depth v = some text := by
  induction v using Value.induction_children generalizing room depth with
  | step v ih =>
    cases room with
    | zero => cases v <;> cases h
    | succ room =>
      obtain ⟨hhandle, hchildren⟩ := Value.documentFlaw?_succ_eq_none_iff.1 h
      have hparts : ∀ c ∈ v.children, ∃ text, page? (depth + 1) c = some text :=
        fun c hc => ih c hc (hchildren c hc) (depth + 1)
      cases v with
      | list items =>
        obtain ⟨texts, htexts⟩ : ∃ texts, pageItems? (depth + 1) items = some texts :=
          exists_pageItems hparts
        exact ⟨_, by rw [page?, htexts]; rfl⟩
      | object members =>
        obtain ⟨texts, htexts⟩ : ∃ texts, pageMembers? (depth + 1) members = some texts :=
          exists_pageMembers fun m hm => hparts m.2 (List.mem_map_of_mem hm)
        exact ⟨_, by rw [page?, htexts]; rfl⟩
      | opaqueHandle => exact absurd rfl hhandle
      | _ => exact ⟨_, rfl⟩

/-- The document of an object has no byte order mark. -/
theorem readChars_eq_readUnmarked {l : Members} {text : String}
    (h : page? 0 (.object l) = some text) : readChars text.toList = readUnmarked text.toList := by
  have hmark : text.toList.head? ≠ some '\ufeff' := by
    rw [page?, Option.map_eq_some_iff] at h
    obtain ⟨texts, -, rfl⟩ := h
    unfold bracketed
    split <;> simp
  unfold readChars
  split
  · next heq => exact absurd (by rw [heq]; rfl) hmark
  · rfl

/-- The document of an object that it can hold stands for the object, but for infinities and NaN. -/
theorem readChars_page {l : Members} {text : String} (h : page? 0 (.object l) = some text)
    (hfits : (Value.object l).fits depthLimit) :
    readChars (Text.withLineFeeds text.toList) = .ok (.object (Value.finiteMembers l)) := by
  have hread : Reads (value depthLimit) (text.toList ++ []) (.object (Value.finiteMembers l)) [] :=
    value_page _ h hfits (by simp [Ends])
  rw [List.append_nil] at hread
  rw [← skipSpaces_eq hread.head.1] at hread
  obtain ⟨shorter, hvalue⟩ := hread.exists_eq_ok
  rw [withLineFeeds_eq (unreturned_page _ h), readChars_eq_readUnmarked h, readUnmarked, hvalue]
  rfl

end Conduit.Json
