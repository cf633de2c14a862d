import Conduit.Text.Blank
import Conduit.Text.Case
import Conduit.Text.Lines
import Conduit.Text.Quoted
import Conduit.Text.Word
import Mathlib.Tactic.SplitIfs

/-!
# Texts without line breaks

A text without line breaks stays in its line when it is written into one. Words, quoted texts and
what identifiers are made of have no line breaks, whatever the texts they come from: everything that
ends a line is blank, does not show as itself and is in no word.

* `Text.Consists`, `Text.Unbroken` — a text of one kind of characters, and one without line breaks;
* `Text.unbroken_oneLine`, `Text.unbroken_quoted`, `Text.unbroken_lower` — the texts made of others;
* `Text.splitLines_eq_iff` — lines are found again exactly if they have no line breaks.
-/

namespace Conduit.Text

/-! ## Texts of one kind of characters -/

/-- All characters of a text are of one kind. -/
def Consists (p : Char → Prop) (s : String) : Prop := ∀ c ∈ s.toList, p c

section Consists

variable {p : Char → Prop}

instance [DecidablePred p] (s : String) : Decidable (Consists p s) :=
  List.decidableBAll p s.toList

theorem consists_append {s t : String} : Consists p (s ++ t) ↔ Consists p s ∧ Consists p t := by
  simp only [Consists, String.toList_append, List.forall_mem_append]

theorem consists_ofList {s : List Char} : Consists p (String.ofList s) ↔ ∀ c ∈ s, p c := by
  rw [Consists, String.toList_ofList]

theorem consists_empty : Consists p "" := by
  rw [Consists, String.toList_empty]
  exact fun c hc => absurd hc List.not_mem_nil

theorem consists_intercalate {separator : String} (h : Consists p separator)
    {parts : List String} :
    Consists p (separator.intercalate parts) ↔ ∀ t ∈ parts, Consists p t := by
  induction parts with
  | nil => exact iff_of_true consists_empty (by simp)
  | cons t rest ih =>
    cases rest with
    | nil => simp
    | cons t' rest =>
      rw [String.intercalate_cons_cons, consists_append, consists_append, ih]
      simp [h]

theorem consists_pushn {s : String} {c : Char} (hs : Consists p s) (hc : p c) (n : Nat) :
    Consists p (s.pushn c n) := by
  unfold String.pushn
  induction n with
  | zero => exact hs
  | succ n ih =>
    rw [Nat.repeat, Consists, String.toList_push, List.forall_mem_append]
    exact ⟨ih, by simpa using hc⟩

theorem Consists.mono {q : Char → Prop} (h : ∀ c, p c → q c) {s : String} (hs : Consists p s) :
    Consists q s := fun c hc => h c (hs c hc)

end Consists

/-- No character of a text ends a line. -/
abbrev Unbroken (s : String) : Prop := Consists (fun c => endsLine c = false) s

/-! ## Characters -/

/-- What lies in a class lies in a class that covers its spans. -/
theorem Spans.has_of_covers {classes others : Spans} {n : Nat}
    (covers : ∀ span ∈ classes, ∃ other ∈ others, other.1 ≤ span.1 ∧ span.2 ≤ other.2)
    (h : classes.has n = true) : others.has n = true := by
  obtain ⟨span, hspan, hlow, hhigh⟩ := (has_iff classes n).1 h
  obtain ⟨other, hother, hbegin, hend⟩ := covers span hspan
  exact (has_iff others n).2 ⟨other, hother, by omega, by omega⟩

/-- What ends a line separates words. -/
theorem endsLine_of_not_isBlank {c : Char} (h : isBlank c = false) : endsLine c = false := by
  refine Bool.eq_false_iff.2 fun hends => ?_
  have hblank : isBlank c = true := Spans.has_of_covers (by decide) hends
  rw [h] at hblank
  cases hblank

/-- What ends a line does not show as itself. -/
theorem endsLine_of_isPrintable {c : Char} (h : isPrintable c = true) : endsLine c = false := by
  refine Bool.eq_false_iff.2 fun hends => ?_
  rw [isPrintable] at h
  split at h
  · next hascii =>
    obtain ⟨span, hspan, hlow, hhigh⟩ := (Spans.has_iff _ _).1 hends
    have hcontrol : ∀ span ∈ lineBreakSpans, span.2 < 0x20 ∨ 0x7F ≤ span.1 := by decide
    have := hcontrol span hspan
    have := of_decide_eq_true h
    omega
  · next hbeyond =>
    -- the spans of what does not show begin above the control characters of plain ASCII
    have hhidden : Spans.has ((0, 0x7E) :: unprintableSpans) c.toNat = true :=
      Spans.has_of_covers (by decide +kernel) hends
    simp only [Spans.has, Bool.or_eq_true, Bool.and_eq_true, decide_eq_true_eq] at hhidden
    rcases hhidden with hlow | hhidden
    · omega
    · simp [hhidden] at h

theorem endsLine_of_isWord {c : Char} (h : isWord c = true) : endsLine c = false :=
  Spans.not_has_of_apart (by decide +kernel) h

theorem endsLine_hexDigit (n : Nat) : endsLine (hexDigit (n % 16)) = false := by
  have h : ∀ d < 16, endsLine (hexDigit d) = false := by decide
  exact h _ (Nat.mod_lt _ (by decide))

theorem endsLine_of_mem_hexDigits {width n : Nat} {c : Char} (h : c ∈ hexDigits width n) :
    endsLine c = false := by
  induction width generalizing n with
  | zero => cases h
  | succ width ih =>
    rw [hexDigits, List.mem_append, List.mem_singleton] at h
    rcases h with h | rfl
    · exact ih h
    · exact endsLine_hexDigit n

/-! ## Words and quoted texts -/

theorem words.not_isBlank {s word w : List Char} (hword : ∀ c ∈ word, isBlank c = false)
    (h : w ∈ words.go word s) : ∀ c ∈ w, isBlank c = false := by
  have hreverse : ∀ c ∈ word.reverse, isBlank c = false := fun c hc =>
    hword c (List.mem_reverse.1 hc)
  induction s generalizing word with
  | nil =>
    rw [words.go] at h
    split at h
    · cases h
    · obtain rfl := List.mem_singleton.1 h
      exact hreverse
  | cons c rest ih =>
    rw [words.go] at h
    split at h
    · split at h
      · exact ih (by simp) h (by simp)
      · rcases List.mem_cons.1 h with rfl | h
        · exact hreverse
        · exact ih (by simp) h (by simp)
    · next hc =>
      have hmore : ∀ d ∈ c :: word, isBlank d = false :=
        List.forall_mem_cons.2 ⟨Bool.eq_false_iff.2 hc, hword⟩
      exact ih hmore h fun d hd => hmore d (List.mem_reverse.1 hd)

/-- A text that was brought into one line has no line breaks. -/
theorem unbroken_oneLine (s : String) : Unbroken (oneLine s) := by
  refine (consists_intercalate (by decide)).2 fun t ht => ?_
  obtain ⟨w, hw, rfl⟩ := List.mem_map.1 ht
  refine consists_ofList.2 fun c hc => endsLine_of_not_isBlank ?_
  exact words.not_isBlank (by simp) hw c hc

theorem endsLine_of_mem_codeEscape {c d : Char} (h : d ∈ codeEscape c) : endsLine d = false := by
  obtain ⟨letter, width, hletter, hescape⟩ : ∃ letter width, endsLine letter = false ∧
      codeEscape c = '\\' :: letter :: hexDigits width c.toNat := by
    rw [codeEscape]
    split_ifs
    · exact ⟨'x', 2, by decide, rfl⟩
    · exact ⟨'u', 4, by decide, rfl⟩
    · exact ⟨'U', 8, by decide, rfl⟩
  rw [hescape, List.mem_cons, List.mem_cons] at h
  rcases h with rfl | rfl | h
  · decide
  · exact hletter
  · exact endsLine_of_mem_hexDigits h

theorem endsLine_of_mem_quotedChar {quote c d : Char} (hquote : endsLine quote = false)
    (h : d ∈ quotedChar quote c) : endsLine d = false := by
  have hescape {e : Char} (he : endsLine e = false) (h : d ∈ ['\\', e]) : endsLine d = false := by
    simp only [List.mem_cons, List.not_mem_nil, or_false] at h
    rcases h with rfl | rfl
    · decide
    · exact he
  rw [quotedChar] at h
  split at h
  · next hc =>
    rcases hc with rfl | rfl
    · exact hescape hquote h
    · exact hescape (by decide) h
  · split_ifs at h with hfeed hreturn htab hshow
    · exact hescape (by decide) h
    · exact hescape (by decide) h
    · exact hescape (by decide) h
    · exact List.mem_singleton.1 h ▸ endsLine_of_isPrintable hshow
    · exact endsLine_of_mem_codeEscape h

/-- A text in quotes has no line breaks. -/
theorem unbroken_quoted (s : String) : Unbroken (quoted s) := by
  have hquote : endsLine (quoteFor s.toList) = false := by
    rw [quoteFor]
    split <;> decide
  refine consists_ofList.2 fun d hd => ?_
  rw [quotedChars] at hd
  simp only [List.mem_cons, List.mem_append, List.mem_flatMap, List.not_mem_nil, or_false] at hd
  rcases hd with rfl | ⟨c, -, hc⟩ | rfl
  · exact hquote
  · exact endsLine_of_mem_quotedChar hquote hc
  · exact hquote

/-! ## Lower case -/

theorem endsLine_ofNat {n : Nat} (h : lineBreakSpans.has n = false) :
    endsLine (Char.ofNat n) = false := by
  by_cases hvalid : n.isValidChar
  · rw [show Char.ofNat n = Char.ofNatAux n hvalid from dif_pos hvalid]
    exact h
  · rw [show Char.ofNat n = '\x00' from dif_neg hvalid]
    decide

/-- No character has a line break for its lower case, except that a line break has itself. -/
theorem endsLine_of_mem_lowerChar {c d : Char} (hc : endsLine c = false) (h : d ∈ lowerChar c) :
    endsLine d = false := by
  rw [lowerChar] at h
  split at h
  · next hascii =>
    have hall : ∀ n < 0x80, endsLine (Char.ofNat n) = false →
        endsLine (Char.ofNat n).toLower = false := by decide
    have := hall c.toNat hascii
    rw [Char.ofNat_toNat] at this
    exact List.mem_singleton.1 h ▸ this hc
  · rw [mapCase] at h
    split at h
    · next image himage =>
      have himages : ∀ entry ∈ lowerSequences, ∀ n ∈ entry.2, endsLine (Char.ofNat n) = false := by
        decide
      obtain ⟨n, hn, rfl⟩ := List.mem_map.1 h
      obtain ⟨front, back, hentry, -⟩ := List.lookup_eq_some_iff.1 himage
      exact himages (c.toNat, image) (hentry ▸ by simp) n hn
    · split at h
      · next run hrun =>
        obtain rfl := List.mem_singleton.1 h
        have hapart : ∀ run ∈ lowerRuns, ∀ span ∈ lineBreakSpans,
            (run.last : Int) + run.shift < span.1 ∨ (span.2 : Int) < run.first + run.shift := by
          decide +kernel
        refine endsLine_ofNat (Bool.eq_false_iff.2 fun hhas => ?_)
        obtain ⟨span, hspan, hlow, hhigh⟩ := (Spans.has_iff _ _).1 hhas
        have hpositive : ∀ span ∈ lineBreakSpans, 0 < span.1 := by decide
        have := hpositive span hspan
        have := hapart run (List.mem_of_find?_eq_some hrun) span hspan
        have hin := List.find?_some hrun
        simp only [CaseRun.has, Bool.and_eq_true, decide_eq_true_eq] at hin
        omega
      · exact List.mem_singleton.1 h ▸ hc

theorem lower.unbroken {before s : List Char} (h : ∀ c ∈ s, endsLine c = false) :
    ∀ d ∈ lower.go before s, endsLine d = false := by
  induction s generalizing before with
  | nil => simp [lower.go]
  | cons c rest ih =>
    rw [List.forall_mem_cons] at h
    rw [lower.go, List.forall_mem_append]
    refine ⟨fun d hd => ?_, ih h.2⟩
    split at hd
    · obtain rfl := List.mem_singleton.1 hd
      split <;> decide
    · exact endsLine_of_mem_lowerChar h.1 hd

/-- The lower case of a text without line breaks has none. -/
theorem unbroken_lower {s : List Char} (h : ∀ c ∈ s, endsLine c = false) :
    ∀ d ∈ lower s, endsLine d = false := lower.unbroken h

/-! ## Taking texts apart -/

theorem splitLines.unbroken {line s l : List Char} (hline : ∀ c ∈ line, endsLine c = false)
    (h : l ∈ splitLines.go line s) : ∀ c ∈ l, endsLine c = false := by
  fun_induction splitLines.go line s with
  | case1 line hempty => cases h
  | case2 line hempty =>
    obtain rfl := List.mem_singleton.1 h
    exact fun c hc => hline c (List.mem_reverse.1 hc)
  | case3 line rest ih =>
    rcases List.mem_cons.1 h with rfl | h
    · exact fun c hc => hline c (List.mem_reverse.1 hc)
    · exact ih (by simp) h
  | case4 line c rest hnot hends ih =>
    rcases List.mem_cons.1 h with rfl | h
    · exact fun c hc => hline c (List.mem_reverse.1 hc)
    · exact ih (by simp) h
  | case5 line c rest hnot hends ih =>
    exact ih (List.forall_mem_cons.2 ⟨Bool.eq_false_iff.2 hends, hline⟩) h

/-- The lines of a text have no line breaks. -/
theorem unbroken_of_mem_splitLines {s l : String} (h : l ∈ splitLines s) : Unbroken l := by
  obtain ⟨line, hline, rfl⟩ := List.mem_map.1 h
  exact consists_ofList.2 (splitLines.unbroken (by simp) hline)

/-- A line without line breaks is read up to the line feed after it. -/
theorem splitLines.go_append {line s rest : List Char} (h : ∀ c ∈ s, endsLine c = false) :
    splitLines.go line (s ++ '\n' :: rest) = (line.reverse ++ s) :: splitLines.go [] rest := by
  induction s generalizing line with
  | nil => simp [splitLines.go, show endsLine '\n' = true by decide]
  | cons c s ih =>
    rw [List.forall_mem_cons] at h
    have hreturn : c ≠ '\r' := fun hc => by
      have : endsLine c = true := hc ▸ by decide
      simp [h.1] at this
    rw [List.cons_append, splitLines.go.eq_3 _ _ _ (fun _ hc _ => hreturn hc), if_neg (by simp [h.1]),
      ih h.2]
    simp

/-- What stands between two line feeds is a line, whatever stands before and after. -/
theorem splitLines.mem_go {l : List Char} (h : ∀ c ∈ l, endsLine c = false)
    (line s rest : List Char) : l ∈ splitLines.go line (s ++ '\n' :: (l ++ '\n' :: rest)) := by
  have hfeed : endsLine '\n' = true := by decide
  have hline : l ∈ splitLines.go [] (l ++ '\n' :: rest) := by
    rw [splitLines.go_append h]
    exact List.mem_cons_self
  fun_induction splitLines.go line s with
  | case1 line hempty => simpa [splitLines.go, hfeed] using .inr hline
  | case2 line hempty => simpa [splitLines.go, hfeed] using .inr hline
  | case3 line more ih => exact List.mem_cons_of_mem _ ih
  | case4 line c more hnot hends ih =>
    cases more with
    | nil =>
      by_cases hc : c = '\r'
      · subst hc
        exact List.mem_cons_of_mem _ hline
      · rw [List.cons_append, splitLines.go.eq_3 _ _ _ (fun _ heq _ => hc heq), if_pos hends]
        exact List.mem_cons_of_mem _ ih
    | cons d more =>
      rw [List.cons_append, splitLines.go.eq_3 _ _ _ (fun t hc hd => hnot more hc (by simp_all)),
        if_pos hends]
      exact List.mem_cons_of_mem _ ih
  | case5 line c more hnot hends ih =>
    have hreturn : c ≠ '\r' := by
      rintro rfl
      exact hends (by decide)
    rw [List.cons_append, splitLines.go.eq_3 _ _ _ (fun _ hc _ => hreturn hc), if_neg hends]
    exact ih

theorem splitLines.go_intercalate {lines : List String} (nonempty : lines ≠ [])
    (h : ∀ l ∈ lines, Unbroken l) :
    splitLines.go [] (("\n".intercalate lines).toList ++ ['\n']) = lines.map String.toList := by
  induction lines with
  | nil => exact absurd rfl nonempty
  | cons l rest ih =>
    rw [List.forall_mem_cons] at h
    cases rest with
    | nil =>
      rw [String.intercalate_singleton, splitLines.go_append h.1]
      rfl
    | cons l' rest =>
      have hfeed : "\n".toList = ['\n'] := rfl
      rw [String.intercalate_cons_cons, String.toList_append, String.toList_append, hfeed,
        List.append_assoc, List.append_assoc, List.singleton_append, splitLines.go_append h.1,
        ih (by simp) h.2]
      rfl

/-- Lines that were put together are found again exactly if they have no line breaks. -/
theorem splitLines_eq_iff {lines : List String} (nonempty : lines ≠ []) :
    splitLines ("\n".intercalate lines ++ "\n") = lines ↔ ∀ l ∈ lines, Unbroken l := by
  constructor
  · intro h l hl
    rw [← h] at hl
    exact unbroken_of_mem_splitLines hl
  · intro h
    have hfeed : "\n".toList = ['\n'] := rfl
    rw [splitLines, String.toList_append, hfeed, splitLines.go_intercalate nonempty h, List.map_map]
    simp [Function.comp_def]

end Conduit.Text
