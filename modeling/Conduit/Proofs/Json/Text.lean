import Conduit.Json.Reader
import Conduit.Json.Writer

/-!
# Texts in documents

A text that was written between quotes is read again, whatever characters it holds.

* `Json.closeText_quotedChar` — what was written for a character reads as the character;
* `Json.text_quoted` — what was written for a text reads as the text;
* `Json.memberName_quoted` — the same for the name of a member.
-/

namespace Conduit.Json

/-- A reader reads something at the start of a text, and leaves a rest. -/
def Reads {α : Type} (reader : (s : List Char) → Except Obstacle (Step s α)) (s : List Char) (a : α)
    (rest : List Char) : Prop :=
  (reader s).map (fun step => (step.result, step.rest)) = .ok (a, rest)

theorem Reads.exists_eq_ok {α : Type} {reader : (s : List Char) → Except Obstacle (Step s α)}
    {s : List Char} {a : α} {rest : List Char} (h : Reads reader s a rest) :
    ∃ shorter, reader s = .ok ⟨a, rest, shorter⟩ := by
  unfold Reads at h
  cases hs : reader s with
  | error obstacle => rw [hs] at h; cases h
  | ok step =>
    rw [hs] at h
    cases h
    exact ⟨step.shorter, rfl⟩

/-! ## Characters -/

theorem hexValue?_hexDigit : ∀ d < 16, hexValue? (Text.hexDigit d) = some d := by decide

/-- The last four hexadecimal digits of a code unit give the code unit. -/
theorem codeUnit?_hexDigits {n : Nat} (h : n < 0x10000) : ∃ a b c d,
    Text.hexDigits 4 n = [a, b, c, d] ∧ codeUnit? a b c d = some n := by
  refine ⟨_, _, _, _, rfl, ?_⟩
  have hdigit (k : Nat) : hexValue? (Text.hexDigit (k % 16)) = some (k % 16) :=
    hexValue?_hexDigit _ (Nat.mod_lt _ (by omega))
  simp only [codeUnit?, hdigit, Option.bind_eq_bind, Option.bind_some, Option.pure_def]
  exact congrArg some (by omega)

/-- A code unit that is no part of a pair stands for its character, whatever follows. -/
theorem closeText_codeUnit (opening : Nat) (before : List Char) {n : Nat} (h : n < 0xD800)
    (next : Char) (rest : List Char) :
    closeText opening before (unitEscape n ++ next :: rest) =
      closeText opening (Char.ofNat n :: before) (next :: rest) := by
  obtain ⟨a, b, c, d, hdigits, hunit⟩ := codeUnit?_hexDigits (show n < 0x10000 by omega)
  have hhigh : isHighUnit n = false := by simp [isHighUnit]; omega
  have hlow : isLowUnit n = false := by simp [isLowUnit]; omega
  have hsecond : secondUnit? n (next :: rest) = .ok none := by
    unfold secondUnit?
    split
    · rw [if_neg (by simp [hhigh])]
    · rfl
  rw [unitEscape, hdigits]
  simp only [List.cons_append, List.nil_append]
  rw [closeText, hunit]
  simp only [hsecond, unitChar, hhigh, hlow]
  rfl

/-- What stands between quotes for a character reads as the character. -/
theorem closeText_quotedChar (opening : Nat) (before : List Char) (c next : Char)
    (rest : List Char) :
    closeText opening before (quotedChar false c ++ next :: rest) =
      closeText opening (c :: before) (next :: rest) := by
  unfold quotedChar
  cases hshort : shortEscape? c with
  | some e =>
    unfold shortEscape? at hshort
    split at hshort <;> cases hshort <;> simp [closeText, escapeChar?]
  | none =>
    by_cases hcontrol : c.toNat < 0x20
    · simp only [hcontrol, decide_true, Bool.true_or, if_true]
      rw [codeEscape, if_pos (by omega), closeText_codeUnit _ _ (by omega), Char.ofNat_toNat]
    · simp only [hcontrol, decide_false, Bool.false_and, Bool.or_self, Bool.false_eq_true, if_false]
      have hquote : c ≠ '"' := by rintro rfl; cases hshort
      have hslash : c ≠ '\\' := by rintro rfl; cases hshort
      rw [List.cons_append, List.nil_append]
      rw [closeText, if_neg hcontrol] <;> simp_all

/-! ## Texts -/

/-- What stands between quotes for a text is read up to the closing quote. -/
theorem closeText_quoted (opening : Nat) (before s rest : List Char) :
    closeText opening before (s.flatMap (quotedChar false) ++ '"' :: rest) =
      .ok (before.reverse ++ s, rest) := by
  induction s generalizing before with
  | nil => simp [closeText]
  | cons c more ih =>
    obtain ⟨next, tail, hnext⟩ : ∃ next tail,
        more.flatMap (quotedChar false) ++ '"' :: rest = next :: tail :=
      List.exists_cons_of_ne_nil (by simp)
    rw [List.flatMap_cons, List.append_assoc, hnext, closeText_quotedChar, ← hnext, ih]
    simp

/-- A text between quotes, after its opening quote. -/
def unopened (s : String) : List Char := s.toList.flatMap (quotedChar false) ++ ['"']

theorem toList_quoted (s : String) : (quoted false s).toList = '"' :: unopened s := by
  simp [quoted, unopened]

/-- A text between quotes reads as the text. -/
theorem text_quoted (s : String) (rest : List Char) :
    Reads text (unopened s ++ rest) s rest := by
  have hclose : closeText ((unopened s ++ rest).length + 1) [] (unopened s ++ rest) =
      .ok (s.toList, rest) := by
    rw [unopened, List.append_assoc]
    exact closeText_quoted _ _ _ _
  unfold Reads text
  split
  · next herror => rw [hclose] at herror; cases herror
  · next hok =>
    rw [hclose] at hok
    cases hok
    rw [String.ofList_toList]
    rfl

/-! ## Spaces -/

/-- A text that does not begin with a space. -/
def Unspaced (s : List Char) : Prop := ∀ c ∈ s.head?, isSpace c = false

theorem skipSpaces_eq {s : List Char} (h : Unspaced s) : skipSpaces s = s := by
  cases s with
  | nil => rfl
  | cons c rest => simp [skipSpaces, h c rfl]

theorem skipSpaces_append {blank s : List Char} (hblank : ∀ c ∈ blank, isSpace c = true)
    (h : Unspaced s) : skipSpaces (blank ++ s) = s := by
  induction blank with
  | nil => exact skipSpaces_eq h
  | cons c more ih =>
    have hc := hblank c (List.mem_cons_self ..)
    rw [List.cons_append, skipSpaces, List.dropWhile_cons_of_pos hc]
    exact ih fun d hd => hblank d (List.mem_cons_of_mem _ hd)

/-- A name of a member is read with the colon and the space after it. -/
theorem memberName_quoted (key : String) {rest : List Char} (h : Unspaced rest) :
    Reads memberName ((quoted false key).toList ++ ':' :: ' ' :: rest) key rest := by
  obtain ⟨shorter, htext⟩ := (text_quoted key (':' :: ' ' :: rest)).exists_eq_ok
  have hafter : skipSpaces (' ' :: rest) = rest :=
    skipSpaces_append (show ∀ c ∈ [' '], isSpace c = true by simp [isSpace]) h
  have hcolon : skipSpaces (':' :: ' ' :: rest) = ':' :: ' ' :: rest := rfl
  rw [toList_quoted, List.cons_append]
  unfold Reads memberName
  simp only [htext]
  split
  · next after heq =>
    rw [hcolon] at heq
    cases heq
    simp only [Except.map, hafter]
  · next hnot => exact absurd hcolon (hnot _)

end Conduit.Json
