import Conduit.Proofs.Json.Double

/-!
# Pages

A value that a document can hold is read from the page that was written of it, but for infinities
and NaN, for which null was written.

* `Json.items_last`, `Json.items_more`, `Json.members_last`, `Json.members_more` — one part of a
  list or an object;
* `Json.value_page`, `Json.items_page`, `Json.members_page` — what is read of the lines of a value.
-/

namespace Conduit.Json

/-! ## Values without other values -/

theorem value_word (room : Nat) {c : Char} {more rest : List Char} {v : Value}
    (h : Reads scalar (c :: (more ++ rest)) v rest) (letter : c.isLower = true) :
    Reads (value room) (c :: (more ++ rest)) v rest := by
  refine value_of_scalar room h ?_ ?_ <;>
  · intro heq
    cases heq
    cases letter

theorem value_null (room : Nat) (rest : List Char) :
    Reads (value room) ("null".toList ++ rest) .null rest :=
  value_word room rfl rfl

theorem value_bool (room : Nat) (b : Bool) (rest : List Char) :
    Reads (value room) ((if b then "true" else "false").toList ++ rest) (.bool b) rest := by
  cases b
  · exact value_word room rfl rfl
  · exact value_word room rfl rfl

theorem value_text (room : Nat) (t : String) (rest : List Char) :
    Reads (value room) ((quoted false t).toList ++ rest) (.str t) rest := by
  obtain ⟨shorter, hread⟩ := (text_quoted t rest).exists_eq_ok
  rw [toList_quoted, List.cons_append]
  refine value_of_scalar room ?_ (by simp) (by simp)
  have hword : word? ('"' :: (unopened t ++ rest)) = none := rfl
  unfold Reads scalar
  rw [hword]
  simp only [hread]
  rfl

/-! ## Lists and objects -/

/-- A value does not begin with a space or a closing bracket. -/
theorem Reads.head {room : Nat} {s rest : List Char} {v : Value} (h : Reads (value room) s v rest) :
    Unspaced s ∧ s.head? ≠ some ']' := by
  have hnone : ∀ {c : Char} {more : List Char}, s = c :: more →
      (isSpace c = true ∨ c = ']') → False := by
    rintro c more rfl hc
    have hc : c = ' ' ∨ c = '\t' ∨ c = '\n' ∨ c = '\r' ∨ c = ']' := by
      simpa [isSpace, or_assoc] using hc
    unfold Reads at h
    rcases hc with rfl | rfl | rfl | rfl | rfl <;>
      simp [value, scalar, word?, unsigned, wholePart, digits, digitValue?, Except.map] at h
  constructor
  · intro c hc
    cases s with
    | nil => cases hc
    | cons d more =>
      cases hc
      exact Bool.eq_false_iff.2 fun hspace => hnone rfl (.inl hspace)
  · intro hhead
    cases s with
    | nil => cases hhead
    | cons d more =>
      cases hhead
      exact hnone rfl (.inr rfl)

theorem items_last {room : Nat} {s rest after : List Char} {v : Value}
    (h : Reads (value room) s v rest) (hrest : skipSpaces rest = ']' :: after) :
    Reads (items room) s [v] after := by
  obtain ⟨shorter, hread⟩ := h.exists_eq_ok
  unfold Reads
  rw [items, hread]
  dsimp only
  split
  · next heq =>
    rw [hrest] at heq
    cases heq
    rfl
  · next heq =>
    rw [hrest] at heq
    cases heq
  · next hnot _ => exact absurd hrest (hnot _)

theorem items_more {room : Nat} {s rest after last : List Char} {v : Value} {l : List Value}
    (h : Reads (value room) s v rest) (hrest : skipSpaces rest = ',' :: after)
    (hmore : Reads (items room) (skipSpaces after) l last) :
    Reads (items room) s (v :: l) last := by
  obtain ⟨shorter, hread⟩ := h.exists_eq_ok
  obtain ⟨shorter', hread'⟩ := hmore.exists_eq_ok
  unfold Reads
  rw [items, hread]
  dsimp only
  split
  · next heq =>
    rw [hrest] at heq
    cases heq
  · next heq =>
    rw [hrest] at heq
    cases heq
    rw [hread']
    rfl
  · next hnot => exact absurd hrest (hnot _)

theorem members_last {room : Nat} {s between rest after : List Char} {key : String} {v : Value}
    (hkey : Reads memberName s key between) (h : Reads (value room) between v rest)
    (hrest : skipSpaces rest = '\x7d' :: after) : Reads (members room) s [(key, v)] after := by
  obtain ⟨shorter, hread⟩ := hkey.exists_eq_ok
  obtain ⟨shorter', hread'⟩ := h.exists_eq_ok
  unfold Reads
  rw [members, hread]
  dsimp only
  rw [hread']
  dsimp only
  split
  · next heq =>
    rw [hrest] at heq
    cases heq
    rfl
  · next heq =>
    rw [hrest] at heq
    cases heq
  · next hnot _ => exact absurd hrest (hnot _)

theorem members_more {room : Nat} {s between rest after last : List Char} {key : String} {v : Value}
    {l : List (String × Value)} (hkey : Reads memberName s key between)
    (h : Reads (value room) between v rest) (hrest : skipSpaces rest = ',' :: after)
    (hmore : Reads (members room) (skipSpaces after) l last) :
    Reads (members room) s ((key, v) :: l) last := by
  obtain ⟨shorter, hread⟩ := hkey.exists_eq_ok
  obtain ⟨shorter', hread'⟩ := h.exists_eq_ok
  obtain ⟨shorter'', hread''⟩ := hmore.exists_eq_ok
  unfold Reads
  rw [members, hread]
  dsimp only
  rw [hread']
  dsimp only
  split
  · next heq =>
    rw [hrest] at heq
    cases heq
  · next heq =>
    rw [hrest] at heq
    cases heq
    rw [hread'']
    rfl
  · next hnot => exact absurd hrest (hnot _)

theorem Reads.head_items {room : Nat} {s rest : List Char} {l : List Value}
    (h : Reads (items room) s l rest) : Unspaced s ∧ s.head? ≠ some ']' := by
  unfold Reads at h
  rw [items] at h
  cases hv : value room s with
  | error obstacle =>
    rw [hv] at h
    cases h
  | ok step =>
    have hread : Reads (value room) s step.result step.rest := by
      unfold Reads
      rw [hv]
      rfl
    exact hread.head

theorem Reads.head_members {room : Nat} {s rest : List Char} {l : List (String × Value)}
    (h : Reads (members room) s l rest) : s.head? = some '"' := by
  unfold Reads at h
  rw [members] at h
  unfold memberName at h
  split at h
  · cases h
  · next hname =>
    split at hname
    · rfl
    · cases hname

theorem Reads.unspaced_members {room : Nat} {s rest : List Char} {l : List (String × Value)}
    (h : Reads (members room) s l rest) : Unspaced s := by
  intro c hc
  rw [h.head_members] at hc
  cases hc
  rfl

theorem value_list {room : Nat} {s rest : List Char} {l : List Value}
    (h : Reads (items room) (skipSpaces s) l rest) :
    Reads (value (room + 1)) ('[' :: s) (.list l) rest := by
  obtain ⟨shorter, hread⟩ := h.exists_eq_ok
  unfold Reads
  rw [value, if_neg (Nat.succ_ne_zero room)]
  split
  · next heq => exact absurd (by rw [heq]; rfl) h.head_items.2
  · rw [Nat.add_sub_cancel, hread]
    rfl

theorem value_nil (room : Nat) (rest : List Char) :
    Reads (value (room + 1)) ('[' :: ']' :: rest) (.list []) rest := by
  unfold Reads
  rw [value, if_neg (Nat.succ_ne_zero room)]
  rfl

theorem value_object {room : Nat} {s rest : List Char} {l : List (String × Value)}
    (h : Reads (members room) (skipSpaces s) l rest) :
    Reads (value (room + 1)) ('\x7b' :: s) (.object (Members.ofPairs l)) rest := by
  obtain ⟨shorter, hread⟩ := h.exists_eq_ok
  unfold Reads
  rw [value, if_neg (Nat.succ_ne_zero room)]
  split
  · next heq =>
    have hhead := h.head_members
    rw [heq] at hhead
    cases hhead
  · rw [Nat.add_sub_cancel, hread]
    rfl

theorem value_noMembers (room : Nat) (rest : List Char) :
    Reads (value (room + 1)) ('\x7b' :: '\x7d' :: rest) (.object []) rest := by
  unfold Reads
  rw [value, if_neg (Nat.succ_ne_zero room)]
  rfl

/-! ## Lines -/

/-- A line break with the indentation of a depth. -/
theorem toList_newLine (depth : Nat) :
    (newLine depth).toList = '\n' :: List.replicate (2 * depth) ' ' := by
  rw [newLine, String.toList_append, toList_pushn]
  rfl

theorem isSpace_newLine (depth : Nat) : ∀ c ∈ (newLine depth).toList, isSpace c = true := by
  intro c hc
  rw [toList_newLine, List.mem_cons] at hc
  rcases hc with rfl | hc
  · rfl
  · rw [List.eq_of_mem_replicate hc]
    rfl

theorem ends_newLine (depth : Nat) (rest : List Char) : Ends ((newLine depth).toList ++ rest) := by
  rw [toList_newLine]
  rintro c hc
  cases hc
  exact .inr rfl

theorem skipSpaces_newLine (depth : Nat) {s : List Char} (h : Unspaced s) :
    skipSpaces ((newLine depth).toList ++ s) = s := skipSpaces_append (isSpace_newLine depth) h

theorem toList_separated (separator first second : String) (more : List String) :
    (separator.intercalate (first :: second :: more)).toList =
      first.toList ++ (separator.toList ++ (separator.intercalate (second :: more)).toList) := by
  rw [String.intercalate_cons_cons, String.toList_append, String.toList_append, List.append_assoc]

theorem toList_comma (depth : Nat) (rest : List Char) :
    ("," ++ newLine depth).toList ++ rest = ',' :: ((newLine depth).toList ++ rest) := by
  rw [String.toList_append]
  rfl

theorem toList_bracketed (opening closing : Char) (depth : Nat) {parts : List String}
    (nonempty : parts ≠ []) (rest : List Char) :
    (bracketed (String.ofList [opening]) (String.ofList [closing]) depth parts).toList ++ rest =
      opening :: ((newLine (depth + 1)).toList ++
        ((("," ++ newLine (depth + 1)).intercalate parts).toList ++
          ((newLine depth).toList ++ closing :: rest))) := by
  rw [bracketed, if_neg (by simpa using nonempty)]
  simp only [String.toList_append, String.toList_ofList, List.append_assoc, List.cons_append,
    List.nil_append]

theorem toList_emptyBrackets (opening closing : Char) (depth : Nat) :
    (bracketed (String.ofList [opening]) (String.ofList [closing]) depth []).toList =
      [opening, closing] := by
  rw [bracketed, if_pos List.isEmpty_nil, String.toList_append, String.toList_ofList,
    String.toList_ofList]
  rfl

/-- What stands behind the last part goes on to the closing bracket, and what stands behind another
one goes on to the next part. -/
theorem skipSpaces_closing (depth : Nat) {closing : Char} (h : isSpace closing = false)
    (rest : List Char) :
    skipSpaces ((newLine depth).toList ++ closing :: rest) = closing :: rest :=
  skipSpaces_newLine depth (by rintro c hc; cases hc; exact h)

theorem skipSpaces_comma (depth : Nat) (rest : List Char) :
    skipSpaces (("," ++ newLine depth).toList ++ rest) =
      ',' :: ((newLine depth).toList ++ rest) := by
  rw [toList_comma]
  exact skipSpaces_eq (by rintro c hc; cases hc; rfl)

theorem ends_comma (depth : Nat) (rest : List Char) :
    Ends (("," ++ newLine depth).toList ++ rest) := by
  rw [toList_comma]
  rintro c hc
  cases hc
  exact .inl rfl

/-! ## Members -/

theorem set_eq_append {m : Members} {key : String} (h : key ∉ Members.keys m) (v : Value) :
    Members.set m key v = m ++ [(key, v)] := by
  induction m with
  | nil => rfl
  | cons member rest ih =>
    obtain ⟨k, w⟩ := member
    rw [Members.keys, List.map_cons, List.mem_cons, not_or] at h
    rw [Members.set, if_neg (Ne.symm h.1), ih h.2]
    rfl

/-- Pairs with distinct names are members as they are. -/
theorem ofPairs_eq {pairs : Members} (h : (Members.keys pairs).Nodup) :
    Members.ofPairs pairs = pairs := by
  have hupdate : ∀ (pairs m : Members), (Members.keys (m ++ pairs)).Nodup →
      Members.update m pairs = m ++ pairs := by
    intro pairs
    induction pairs with
    | nil => intro m _; exact (List.append_nil m).symm
    | cons member rest ih =>
      intro m hm
      have hnot : member.1 ∉ Members.keys m := by
        rw [Members.keys, List.map_append] at hm
        intro hmem
        exact (List.nodup_append.1 hm).2.2 _ hmem _ (List.mem_cons_self ..) rfl
      rw [Members.update, List.foldl_cons, set_eq_append hnot]
      have hrest := ih (m ++ [(member.1, member.2)]) (by simpa using hm)
      rw [Members.update] at hrest
      rw [hrest, List.append_assoc]
      rfl
  exact hupdate pairs [] h

/-! ## Pages -/

theorem text_of_not_finite {x : Double} (h : x.isFinite = false) :
    NumberStyle.stored.text x = "null" := by
  have hless : ¬ x.magnitudeBits < Double.infinityBits := by
    simpa [Double.isFinite] using h
  rw [NumberStyle.text]
  split
  · rfl
  · next hnan =>
    have hnan : ¬ Double.infinityBits < x.magnitudeBits := by simpa [Double.isNaN] using hnan
    have hinfinite : x.isInfinite = true := by
      rw [Double.isInfinite, beq_iff_eq]
      omega
    rw [if_pos hinfinite]
    split <;> rfl

theorem pageItems?_cons {depth : Nat} {v : Value} {l : List Value} {texts : List String}
    (h : pageItems? depth (v :: l) = some texts) :
    ∃ first more, page? depth v = some first ∧ pageItems? depth l = some more ∧
      texts = first :: more := by
  simp only [pageItems?, Option.bind_eq_bind, Option.bind_eq_some_iff, Option.pure_def,
    Option.some.injEq] at h
  obtain ⟨first, hfirst, more, hmore, rfl⟩ := h
  exact ⟨first, more, hfirst, hmore, rfl⟩

theorem pageMembers?_cons {depth : Nat} {key : String} {v : Value} {l : Members}
    {texts : List String} (h : pageMembers? depth ((key, v) :: l) = some texts) :
    ∃ first more, page? depth v = some first ∧ pageMembers? depth l = some more ∧
      texts = (quoted false key ++ ": " ++ first) :: more := by
  simp only [pageMembers?, Option.bind_eq_bind, Option.bind_eq_some_iff, Option.pure_def,
    Option.some.injEq] at h
  obtain ⟨first, hfirst, more, hmore, rfl⟩ := h
  exact ⟨first, more, hfirst, hmore, rfl⟩

mutual

/-- A value that a document can hold is read from the page that was written of it. -/
theorem value_page : ∀ (v : Value) {depth room : Nat} {text : String}, page? depth v = some text →
    v.fits room → ∀ {rest : List Char}, Ends rest →
      Reads (value room) (text.toList ++ rest) v.finite rest
  | .null, _, room, _, h, _, rest, _ => by
    cases h
    exact value_null room rest
  | .bool b, _, room, _, h, _, rest, _ => by
    cases h
    exact value_bool room b rest
  | .int n, _, room, _, h, hfits, rest, hrest => by
    cases h
    exact value_int room hfits hrest
  | .float x, _, room, _, h, _, rest, hrest => by
    cases h
    rw [Value.finite]
    split
    · next finite => exact value_float room finite hrest
    · next hnot =>
      rw [text_of_not_finite (Bool.eq_false_iff.2 hnot)]
      exact value_null room rest
  | .str t, _, room, _, h, _, rest, _ => by
    cases h
    exact value_text room t rest
  | .opaqueHandle, _, _, _, h, _, _, _ => by cases h
  | .list l, depth, room, text, h, hfits, rest, hrest => by
    rw [page?, Option.map_eq_some_iff] at h
    obtain ⟨texts, htexts, rfl⟩ := h
    simp only [Value.fits, Bool.and_eq_true, decide_eq_true_eq] at hfits
    obtain ⟨room, rfl⟩ : ∃ r, room = r + 1 := ⟨room - 1, by omega⟩
    cases l with
    | nil =>
      cases htexts
      rw [show "[" = String.ofList ['['] from rfl, show "]" = String.ofList [']'] from rfl,
        toList_emptyBrackets]
      exact value_nil room rest
    | cons v l =>
      have hread := items_page (v :: l) htexts (List.cons_ne_nil _ _) hfits.2 depth rest
      have hnonempty : texts ≠ [] := by
        obtain ⟨first, more, -, -, rfl⟩ := pageItems?_cons htexts
        exact List.cons_ne_nil _ _
      rw [show "[" = String.ofList ['['] from rfl, show "]" = String.ofList [']'] from rfl,
        toList_bracketed _ _ _ hnonempty]
      refine value_list ?_
      rw [skipSpaces_newLine _ hread.head_items.1]
      exact hread
  | .object l, depth, room, text, h, hfits, rest, hrest => by
    rw [page?, Option.map_eq_some_iff] at h
    obtain ⟨texts, htexts, rfl⟩ := h
    simp only [Value.fits, Bool.and_eq_true, decide_eq_true_eq] at hfits
    obtain ⟨room, rfl⟩ : ∃ r, room = r + 1 := ⟨room - 1, by omega⟩
    have hpairs : Members.ofPairs (Value.finiteMembers l) = Value.finiteMembers l :=
      ofPairs_eq (by rw [Value.keys_finiteMembers]; exact hfits.1.2)
    cases l with
    | nil =>
      cases htexts
      rw [show "\x7b" = String.ofList ['\x7b'] from rfl,
        show "\x7d" = String.ofList ['\x7d'] from rfl, toList_emptyBrackets]
      exact value_noMembers room rest
    | cons member l =>
      have hread := members_page (member :: l) htexts (List.cons_ne_nil _ _) hfits.2 depth rest
      have hnonempty : texts ≠ [] := by
        obtain ⟨first, more, -, -, rfl⟩ := pageMembers?_cons htexts
        exact List.cons_ne_nil _ _
      rw [show "\x7b" = String.ofList ['\x7b'] from rfl,
        show "\x7d" = String.ofList ['\x7d'] from rfl, toList_bracketed _ _ _ hnonempty]
      rw [Value.finite, ← hpairs]
      refine value_object ?_
      rw [skipSpaces_newLine _ hread.unspaced_members]
      exact hread

/-- The items of a list are read from their lines. -/
theorem items_page : ∀ (l : List Value) {depth room : Nat} {texts : List String},
    pageItems? depth l = some texts → l ≠ [] → Value.fitItems l room → ∀ (outer : Nat)
      (rest : List Char),
      Reads (items room)
        ((("," ++ newLine depth).intercalate texts).toList ++
          ((newLine outer).toList ++ ']' :: rest))
        (Value.finiteItems l) rest
  | [], _, _, _, _, h, _, _, _ => absurd rfl h
  | v :: l, depth, room, texts, h, _, hfits, outer, rest => by
    obtain ⟨first, more, hfirst, hmore, rfl⟩ := pageItems?_cons h
    rw [Value.fitItems, Bool.and_eq_true] at hfits
    cases l with
    | nil =>
      cases hmore
      rw [String.intercalate_singleton]
      exact items_last (value_page v hfirst hfits.1 (ends_newLine outer _))
        (skipSpaces_closing outer rfl rest)
    | cons w l =>
      have hread := items_page (w :: l) hmore (List.cons_ne_nil _ _) hfits.2 outer rest
      obtain ⟨second, others, -, -, rfl⟩ := pageItems?_cons hmore
      rw [toList_separated, List.append_assoc, List.append_assoc]
      refine items_more (value_page v hfirst hfits.1 (ends_comma depth _))
        (skipSpaces_comma depth _) ?_
      rw [skipSpaces_newLine _ hread.head_items.1]
      exact hread

/-- The members of an object are read from their lines. -/
theorem members_page : ∀ (l : List (String × Value)) {depth room : Nat} {texts : List String},
    pageMembers? depth l = some texts → l ≠ [] → Value.fitMembers l room → ∀ (outer : Nat)
      (rest : List Char),
      Reads (members room)
        ((("," ++ newLine depth).intercalate texts).toList ++
          ((newLine outer).toList ++ '\x7d' :: rest))
        (Value.finiteMembers l) rest
  | [], _, _, _, _, h, _, _, _ => absurd rfl h
  | (key, v) :: l, depth, room, texts, h, _, hfits, outer, rest => by
    obtain ⟨first, more, hfirst, hmore, rfl⟩ := pageMembers?_cons h
    rw [Value.fitMembers, Bool.and_eq_true] at hfits
    cases l with
    | nil =>
      cases hmore
      have hvalue := value_page v hfirst hfits.1 (ends_newLine outer ('\x7d' :: rest))
      rw [String.intercalate_singleton, String.toList_append, String.toList_append,
        List.append_assoc, List.append_assoc]
      exact members_last (memberName_quoted key hvalue.head.1) hvalue
        (skipSpaces_closing outer rfl rest)
    | cons w l =>
      have hread := members_page (w :: l) hmore (List.cons_ne_nil _ _) hfits.2 outer rest
      obtain ⟨second, others, -, -, rfl⟩ := pageMembers?_cons hmore
      have hvalue (s : List Char) := value_page v hfirst hfits.1 (ends_comma depth s)
      rw [toList_separated, String.toList_append, String.toList_append, List.append_assoc,
        List.append_assoc, List.append_assoc, List.append_assoc]
      refine members_more (memberName_quoted key (hvalue _).head.1) (hvalue _)
        (skipSpaces_comma depth _) ?_
      rw [skipSpaces_newLine _ hread.unspaced_members]
      exact hread

end

end Conduit.Json
