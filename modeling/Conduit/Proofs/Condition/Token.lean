import Conduit.Condition.Token
import Conduit.Proofs.Json.Document
import Conduit.Proofs.Json.Line
import Conduit.Proofs.Number.Numeral

/-!
# Cutting tokens off

The token at the start of a text, when something stands behind it that does not belong to it: a
sign, a word, a number as JSON spells it, or a text between double quotes.
-/

namespace Conduit.Condition.Token

open Conduit.Json (Spelling)

/-- What may stand behind a word, a number or a text. -/
def Closes (rest : List Char) : Prop :=
  ∀ c ∈ rest.head?, c = ',' ∨ c = ':' ∨ c = ']' ∨ c = '\x7d'

/-- What may stand behind a token has none of the properties that no closing character has. -/
theorem Closes.not {rest : List Char} (h : Closes rest) {p : Char → Prop} [DecidablePred p]
    (none : ¬ p ',' ∧ ¬ p ':' ∧ ¬ p ']' ∧ ¬ p '\x7d') : ∀ c ∈ rest.head?, ¬ p c := by
  intro c hc
  rcases h c hc with rfl | rfl | rfl | rfl
  exacts [none.1, none.2.1, none.2.2.1, none.2.2.2]

/-! ## Signs and words -/

theorem first_sign {c : Char} (h : c ∈ ['-', ',', ':', '[', ']', '\x7b', '\x7d']) (rest : List Char) :
    first (c :: rest) = some (.sign (String.ofList [c]), rest) := by
  simp only [List.mem_cons, List.not_mem_nil, or_false] at h
  rcases h with rfl | rfl | rfl | rfl | rfl | rfl | rfl <;>
    simp [first, isPlainDigit, continuesWord, beginsText, sign?, signs, Text.startsWith] <;> rfl

theorem wordOrText_append {run rest : List Char} (hrun : ∀ c ∈ run, continuesWord c = true)
    (closes : Closes rest) :
    wordOrText (run ++ rest) = (wordOrName? run).map fun token => (token, rest) := by
  have hends : ∀ c ∈ rest.head?, ¬ continuesWord c = true := closes.not (by decide)
  have hquote : ∀ c ∈ rest.head?, ¬ (c = '\'' ∨ c = '"') := closes.not (by decide)
  have hstops : rest.takeWhile continuesWord = [] ∧ rest.dropWhile continuesWord = rest ∧
      beginsText rest = false := by
    cases rest with
    | nil => exact ⟨rfl, rfl, rfl⟩
    | cons c more =>
      refine ⟨List.takeWhile_cons_of_neg (hends c rfl), List.dropWhile_cons_of_neg (hends c rfl), ?_⟩
      simpa [beginsText] using hquote c rfl
  obtain ⟨htake, hdrop, hbegins⟩ := hstops
  rw [wordOrText, List.takeWhile_append_of_pos hrun, List.dropWhile_append_of_pos hrun, htake, hdrop,
    List.append_nil]
  simp [hbegins]

/-- A word or a name, which begins with no digit. -/
theorem first_word {c : Char} {run rest : List Char} (begins : isPlainDigit c = false)
    (hrun : ∀ d ∈ c :: run, continuesWord d = true) (closes : Closes rest) :
    first (c :: (run ++ rest)) = (wordOrName? (c :: run)).map fun token => (token, rest) := by
  have hc : continuesWord c = true := hrun c List.mem_cons_self
  have hpoint : c ≠ '.' := fun h => absurd (h ▸ hc) (by decide)
  unfold first
  dsimp only
  rw [if_neg (by simp [begins]), if_neg (by simp [hpoint]), if_pos hc]
  exact wordOrText_append hrun closes

/-! ## Numbers -/

theorem digitIn?_of_isDigit {c : Char} (h : c.isDigit = true) :
    digitIn? 10 c = some (c.toNat - '0'.toNat) := by
  have hc : '0' ≤ c ∧ c ≤ '9' := by simpa [Char.isDigit, Char.le_def] using h
  have hnine : c.toNat ≤ '9'.toNat := hc.2
  have hzero : '0'.toNat = 48 := rfl
  have hnine' : '9'.toNat = 57 := rfl
  rw [digitIn?, if_pos hc]
  exact Option.filter_some_pos (by simp only [decide_eq_true_eq]; omega)

theorem digits_append {s rest : List Char} (hs : ∀ c ∈ s, c.isDigit = true)
    (stops : ∀ c ∈ rest.head?, digitIn? 10 c = none ∧ c ≠ '_') :
    Numeral.digits (digitIn? 10) (s ++ rest) = (Numeral.digitValues s, rest) := by
  have hplain : '_' ∉ s := fun h => absurd (hs '_' h) (by decide)
  rw [Numeral.digits_append (fun c hc => by rw [digitIn?_of_isDigit (hs c hc)]; rfl) hplain stops]
  refine congrArg (·, rest) ?_
  rw [Numeral.digitValues, ← List.filterMap_eq_map]
  exact List.filterMap_congr fun c hc => digitIn?_of_isDigit (hs c hc)

/-- The double that a spelling stands for, up to its sign. -/
def double (p : Spelling) : Double :=
  Numeral.decimal false (Numeral.digitValues p.whole) (Numeral.digitValues p.fraction)
    (p.power.getD 0)

/-- How an exponent is written: a mark, a sign and at least two digits. -/
theorem toList_exponentText (e : ℤ) : (NumberStyle.json.exponentText e).toList =
    'e' :: (if e < 0 then '-' else '+') ::
      (List.replicate (2 - (Nat.toDigits 10 e.natAbs).length) '0' ++ Nat.toDigits 10 e.natAbs) := by
  unfold NumberStyle.exponentText
  simp only [NumberStyle.json, NumberStyle.plain, Nat.toString_eq_ofList_toDigits,
    String.length_ofList, String.toList_append, String.toList_ofList, Json.toList_pushn]
  split <;> rfl

theorem Closes.stops {rest : List Char} (closes : Closes rest) :
    ∀ c ∈ rest.head?, digitIn? 10 c = none ∧ c ≠ '_' := fun c hc =>
  not_not.1 (closes.not (p := fun c => ¬ (digitIn? 10 c = none ∧ c ≠ '_')) (by decide) c hc)

theorem exponent_append (p : Spelling) {rest : List Char} (closes : Closes rest) :
    exponent (p.markIn .json ++ rest) = some (p.power, rest) := by
  unfold Spelling.markIn
  cases p.power with
  | none =>
    cases rest with
    | nil => rfl
    | cons c more =>
      have hmark : ¬ (c = 'e' ∨ c = 'E') :=
        closes.not (p := fun c => c = 'e' ∨ c = 'E') (by decide) c rfl
      rw [List.nil_append, exponent, if_neg hmark]
  | some e =>
    have hdigits := digits_append
      (s := List.replicate (2 - (Nat.toDigits 10 e.natAbs).length) '0' ++ Nat.toDigits 10 e.natAbs)
      (fun c hc => (List.mem_append.1 hc).elim (fun h => List.eq_of_mem_replicate h ▸ rfl)
        (Json.isDigit_toDigits _ c)) closes.stops
    have hvalue : Numeral.valueOf (Numeral.digitValues
        (List.replicate (2 - (Nat.toDigits 10 e.natAbs).length) '0' ++ Nat.toDigits 10 e.natAbs)) =
          e.natAbs := by
      rw [Numeral.digitValues_append, Numeral.digitValues_replicate_zero, Numeral.valueOf_append,
        Numeral.valueOf_replicate_zero, Numeral.valueOf_toDigits, Nat.zero_mul, Nat.zero_add]
    have hsign (s : List Char) : Numeral.sign ((if e < 0 then '-' else '+') :: s) =
        (decide (e < 0), s) := by
      by_cases he : e < 0 <;> simp [he, Numeral.sign]
    have hne : (Numeral.digitValues
        (List.replicate (2 - (Nat.toDigits 10 e.natAbs).length) '0' ++
          Nat.toDigits 10 e.natAbs)).isEmpty = false := by
      simp [Numeral.digitValues]
    have hsigned : Numeral.signed (decide (e < 0)) e.natAbs = e := by
      simp only [Numeral.signed, decide_eq_true_eq]
      split <;> omega
    dsimp only
    rw [toList_exponentText, List.cons_append, List.cons_append, exponent, if_pos (.inl rfl), hsign]
    dsimp only
    rw [hdigits, hne, if_neg Bool.false_ne_true, hvalue, hsigned]

/-- What stands behind the digits of a spelling. -/
theorem head_mark (p : Spelling) {rest : List Char} (closes : Closes rest) :
    ∀ c ∈ (p.markIn .json ++ rest).head?, c = 'e' ∨ c = ',' ∨ c = ':' ∨ c = ']' ∨ c = '\x7d' := by
  unfold Spelling.markIn
  cases p.power with
  | none => exact fun c hc => .inr (closes c hc)
  | some e =>
    dsimp only
    rw [toList_exponentText]
    rintro c hc
    cases hc
    exact .inl rfl

theorem head_point (p : Spelling) {rest : List Char} (closes : Closes rest) :
    ∀ c ∈ (p.point ++ (p.markIn .json ++ rest)).head?,
      c = '.' ∨ c = 'e' ∨ c = ',' ∨ c = ':' ∨ c = ']' ∨ c = '\x7d' := by
  unfold Spelling.point
  split
  · exact fun c hc => .inr (head_mark p closes c hc)
  · rintro c hc
    cases hc
    exact .inl rfl

/-- What is read of a spelling: a double if it has a point or an exponent, else an integer. -/
theorem decimalNumber_append {p : Spelling} (sound : p.Sound) {rest : List Char}
    (closes : Closes rest) :
    decimalNumber (p.whole ++ (p.point ++ (p.markIn .json ++ rest))) =
      if p.fraction ≠ [] ∨ p.power.isSome then some (.float (double p), rest)
      else if Numeral.digitLimit < p.whole.length then none
      else some (.int (Numeral.valueOf (Numeral.digitValues p.whole)), rest) := by
  have hbehind : ∀ c ∈ (p.point ++ (p.markIn .json ++ rest)).head?,
      digitIn? 10 c = none ∧ c ≠ '_' := fun c hc => by
    rcases head_point p closes c hc with rfl | rfl | rfl | rfl | rfl | rfl <;> decide
  have hdigits := digits_append sound.whole hbehind
  have hstops : ∀ c ∈ (p.markIn .json ++ rest).head?,
      (digitIn? 10 c = none ∧ c ≠ '_') ∧ c ≠ '.' := fun c hc => by
    rcases head_mark p closes c hc with rfl | rfl | rfl | rfl | rfl <;> decide
  have hexponent := exponent_append p closes
  have hends : imaginaryRest? rest = none ∧ endsNumber rest = true := by
    cases rest with
    | nil => exact ⟨rfl, rfl⟩
    | cons c more =>
      rcases closes c rfl with rfl | rfl | rfl | rfl <;> exact ⟨rfl, rfl⟩
  have hzero : ((Numeral.digitValues p.whole).head? = some 0 &&
      (Numeral.digitValues p.whole).any (· ≠ 0)) = false := by
    by_cases hhead : p.whole.head? = some '0'
    · rw [sound.zero hhead]
      rfl
    · obtain ⟨c, more, hwhole⟩ := List.exists_cons_of_ne_nil sound.nonempty
      have hdigit : '0' ≤ c ∧ c ≤ '9' := by
        simpa [Char.isDigit, Char.le_def] using sound.whole c (hwhole ▸ List.mem_cons_self)
      have hlow : '0'.toNat ≤ c.toNat := hdigit.1
      have hne : c.toNat ≠ '0'.toNat := fun h => hhead (by rw [hwhole, Char.toNat_inj.1 h]; rfl)
      have hvalue : ¬ some (c.toNat - '0'.toNat) = some 0 := fun h => by
        have := Option.some.inj h
        omega
      rw [hwhole, Numeral.digitValues, List.map_cons, List.head?_cons, decide_eq_false hvalue,
        Bool.false_and]
  have hlength := Numeral.length_digitValues p.whole
  by_cases hnone : p.fraction = []
  · have hpoint : p.point = [] := if_pos hnone
    rw [hpoint, List.nil_append] at hdigits ⊢
    unfold decimalNumber
    simp only [hdigits]
    split
    · next heq => exact absurd rfl (hstops '.' (by rw [heq]; rfl)).2
    · have hdouble : Numeral.decimal false (Numeral.digitValues p.whole) [] (p.power.getD 0) =
          double p := by rw [double, hnone]; rfl
      simp only [hexponent, Option.bind_eq_bind, Option.bind_some, hends, hzero, hlength, hdouble]
      simp [hnone]
  · have hpoint : p.point = '.' :: p.fraction := if_neg hnone
    have hfraction := digits_append sound.fraction fun c hc => (hstops c hc).1
    rw [hpoint, List.cons_append] at hdigits ⊢
    unfold decimalNumber
    simp only [hdigits, hfraction, hexponent, Option.bind_eq_bind, Option.bind_some, hends, hzero,
      hlength]
    simp [hnone, double]

/-- A number whose first zero is followed by no mark of a base is decimal. -/
theorem number_eq {s : List Char}
    (unmarked : s.head? = some '0' → ∀ c ∈ s.tail.head?, markedBase? c = none) :
    number s = decimalNumber s := by
  unfold number
  split
  · next mark more => rw [unmarked rfl mark rfl]
  · rfl

/-- The number at the start of a text is the one that is spelled there. -/
theorem first_spelling {p : Spelling} (sound : p.Sound) {rest : List Char} (closes : Closes rest) :
    first (p.whole ++ (p.point ++ (p.markIn .json ++ rest))) =
      if p.fraction ≠ [] ∨ p.power.isSome then some (.float (double p), rest)
      else if Numeral.digitLimit < p.whole.length then none
      else some (.int (Numeral.valueOf (Numeral.digitValues p.whole)), rest) := by
  rw [← decimalNumber_append sound closes]
  have hunmarked : (p.whole ++ (p.point ++ (p.markIn .json ++ rest))).head? = some '0' →
      ∀ c ∈ (p.whole ++ (p.point ++ (p.markIn .json ++ rest))).tail.head?,
        markedBase? c = none := by
    rw [List.head?_append_of_ne_nil _ sound.nonempty]
    intro hhead c hc
    rw [sound.zero hhead] at hc
    rcases head_point p closes c hc with rfl | rfl | rfl | rfl | rfl | rfl <;> decide
  rw [← number_eq hunmarked]
  obtain ⟨c, more, hwhole⟩ := List.exists_cons_of_ne_nil sound.nonempty
  have hc : isPlainDigit c = true := by
    simpa [Char.isDigit, Char.le_def, isPlainDigit] using sound.whole c (hwhole ▸ List.mem_cons_self)
  rw [hwhole, List.cons_append]
  unfold first
  dsimp only
  rw [if_pos hc]

/-! ## Texts -/

theorem digitIn?_hexDigit : ∀ d < 16, digitIn? 16 (Text.hexDigit d) = some d := by decide

theorem hexCode?_hexDigits {n : Nat} (h : n < 0x10000) (rest : List Char) :
    hexCode? 4 0 (Text.hexDigits 4 n ++ rest) = some (n, rest) := by
  have hdigit (m : Nat) : digitIn? 16 (Text.hexDigit (m % 16)) = some (m % 16) :=
    digitIn?_hexDigit _ (Nat.mod_lt _ (by decide))
  simp only [Text.hexDigits, List.nil_append, List.cons_append, hexCode?, hdigit]
  exact congrArg (fun m => some (m, rest)) (by omega)

/-- What a character is read as where it stands as an escape of JSON: beyond the first plane it
takes two escapes, and each of them is read apart. -/
def reread (c : Char) : List Char :=
  if c.toNat < 0x10000 then [c] else ['\uFFFD', '\uFFFD']

theorem codeChar?_toNat {c : Char} (h : c.toNat < 0x10000) : codeChar? c.toNat = some c := by
  have hvalid : c.toNat < 0xD800 ∨ 0xDFFF < c.toNat ∧ c.toNat < 0x110000 := c.valid
  rw [codeChar?, if_neg (by omega), if_neg (by omega), Char.ofNat_toNat]

theorem codeChar?_surrogate {n : Nat} (low : 0xD800 ≤ n) (high : n ≤ 0xDFFF) :
    codeChar? n = some '\uFFFD' := by
  rw [codeChar?, if_neg (by omega), if_pos ⟨low, high⟩]

section Texts

variable (fuel : Nat) (before rest : List Char)

/-- An escape is read in one round. -/
theorem closeText_escape {s meaning left : List Char} (h : escape? s = some (meaning, left)) :
    closeText false false '"' (fuel + 1) before ('\\' :: s) =
      closeText false false '"' fuel (meaning.reverse ++ before) left := by
  rw [closeText.eq_def]
  dsimp only
  rw [if_neg (by decide), if_pos rfl, if_neg Bool.false_ne_true]
  simp only [h]

theorem escape?_unitEscape {n : Nat} {c : Char} (small : n < 0x10000) (code : codeChar? n = some c) :
    escape? ('u' :: (Text.hexDigits 4 n ++ rest)) = some ([c], rest) := by
  simp only [escape?, hexCode?_hexDigits small, code, Option.bind_eq_bind, Option.bind_some,
    Option.pure_def]

/-- What stands between quotes for a character is read, but not always as the character. -/
theorem closeText_quotedChar (c : Char) : ∃ left, fuel ≤ left ∧
    closeText false false '"' ((Json.quotedChar true c).length + fuel) before
      (Json.quotedChar true c ++ rest) =
    closeText false false '"' left ((reread c).reverse ++ before) rest := by
  unfold Json.quotedChar
  cases hshort : Json.shortEscape? c with
  | some e =>
    have hsmall : reread c = [c] ∧ escape? (e :: rest) = some ([c], rest) := by
      unfold Json.shortEscape? at hshort
      split at hshort <;> cases hshort <;> exact ⟨rfl, rfl⟩
    refine ⟨fuel + 1, Nat.le_succ fuel, ?_⟩
    rw [hsmall.1]
    exact Nat.add_comm 2 fuel ▸ closeText_escape (fuel + 1) before hsmall.2
  | none =>
    have hquote : c ≠ '"' := by rintro rfl; cases hshort
    have hslash : c ≠ '\\' := by rintro rfl; cases hshort
    have hbreak : c ≠ '\n' := by rintro rfl; cases hshort
    dsimp only
    split
    · -- an escape, or two
      unfold Json.codeEscape reread
      split
      · next hsmall =>
        refine ⟨5 + fuel, by omega, ?_⟩
        exact (Nat.add_right_comm 5 1 fuel).symm ▸ closeText_escape (5 + fuel) before
          (escape?_unitEscape rest hsmall (codeChar?_toNat hsmall))
      · next hlarge =>
        have hbound : c.toNat < 0x110000 := by
          have hvalid : c.toNat < 0xD800 ∨ 0xDFFF < c.toNat ∧ c.toNat < 0x110000 := c.valid
          omega
        have hfirst := closeText_escape (11 + fuel) before
          (escape?_unitEscape (Json.unitEscape (0xDC00 + (c.toNat - 0x10000) % 0x400) ++ rest)
            (n := 0xD800 + (c.toNat - 0x10000) / 0x400) (by omega)
            (codeChar?_surrogate (by omega) (by omega)))
        have hsecond := closeText_escape (10 + fuel) ('\uFFFD' :: before)
          (escape?_unitEscape rest (n := 0xDC00 + (c.toNat - 0x10000) % 0x400) (by omega)
            (codeChar?_surrogate (by omega) (by omega)))
        have hlength (n k : Nat) : (Json.unitEscape n ++ Json.unitEscape k).length + fuel =
            11 + fuel + 1 := Nat.add_right_comm 11 1 fuel
        refine ⟨10 + fuel, by omega, ?_⟩
        rw [hlength, List.append_assoc]
        refine hfirst.trans ?_
        rw [show 11 + fuel = 10 + fuel + 1 from Nat.add_right_comm 10 1 fuel]
        exact hsecond
    · next hplain =>
      have hless : c.toNat < 0x10000 := by
        simp only [Bool.true_and, Bool.or_eq_true, decide_eq_true_eq, not_or, Nat.not_le] at hplain
        omega
      refine ⟨fuel, Nat.le_refl fuel, ?_⟩
      rw [reread, if_pos hless, List.length_singleton, Nat.add_comm, closeText.eq_def]
      simp [hquote, hslash, hbreak]

/-- A text between quotes is read up to its closing quote. -/
theorem closeText_quoted (s : List Char) :
    closeText false false '"' ((s.flatMap (Json.quotedChar true)).length + (fuel + 1)) before
      (s.flatMap (Json.quotedChar true) ++ '"' :: rest) =
    some (before.reverse ++ s.flatMap reread, rest) := by
  induction s generalizing fuel before with
  | nil =>
    rw [List.flatMap_nil, List.length_nil, Nat.zero_add, List.nil_append, closeText.eq_def]
    simp
  | cons c more ih =>
    obtain ⟨left, hle, hchar⟩ := closeText_quotedChar
      ((more.flatMap (Json.quotedChar true)).length + (fuel + 1)) before
      (more.flatMap (Json.quotedChar true) ++ '"' :: rest) c
    obtain ⟨spare, hspare⟩ := Nat.exists_eq_add_of_le hle
    have hleft : left = (more.flatMap (Json.quotedChar true)).length + (fuel + spare + 1) := by omega
    rw [List.flatMap_cons, List.length_append, Nat.add_assoc, List.append_assoc, hchar, hleft, ih]
    simp

end Texts

/-- What stands between quotes for a character does not begin with a quote. -/
theorem head_quotedChar (c : Char) : ∃ d more, Json.quotedChar true c = d :: more ∧ d ≠ '"' := by
  unfold Json.quotedChar
  cases hshort : Json.shortEscape? c with
  | some e => exact ⟨'\\', [e], rfl, by decide⟩
  | none =>
    dsimp only
    split
    · unfold Json.codeEscape
      split
      · exact ⟨'\\', _, rfl, by decide⟩
      · exact ⟨'\\', _, rfl, by decide⟩
    · exact ⟨c, [], rfl, by rintro rfl; cases hshort⟩

/-- A text that does not begin with three quotes ends with one. -/
theorem quotedText_short {s : List Char} (short : ∀ left, s ≠ '"' :: '"' :: left) :
    quotedText false ('"' :: s) =
      (closeText false false '"' (s.length + 1) [] s).map fun found => (.text found.1, found.2) := by
  unfold quotedText
  dsimp only
  split
  · next a b left =>
    rw [if_neg (by rintro ⟨rfl, rfl⟩; exact short _ rfl)]
    cases closeText false false '"' ((a :: b :: left).length + 1) [] (a :: b :: left) <;> rfl
  · cases closeText false false '"' (s.length + 1) [] s <;> rfl

/-- A text between quotes, which no further quote follows. -/
theorem first_quoted (s : String) {rest : List Char} (closes : Closes rest) :
    first ((Json.quoted true s).toList ++ rest) = some (.text (s.toList.flatMap reread), rest) := by
  have hshort : ∀ left, s.toList.flatMap (Json.quotedChar true) ++ '"' :: rest ≠
      '"' :: '"' :: left := by
    intro left h
    cases hs : s.toList with
    | nil =>
      rw [hs, List.flatMap_nil, List.nil_append, List.cons.injEq] at h
      exact closes.not (p := (· = '"')) (by decide) '"' (by rw [h.2]; rfl) rfl
    | cons c more =>
      obtain ⟨d, tail, hd, hne⟩ := head_quotedChar c
      rw [hs, List.flatMap_cons, hd, List.append_assoc, List.cons_append, List.cons.injEq] at h
      exact hne h.1
  have hlength : (s.toList.flatMap (Json.quotedChar true) ++ '"' :: rest).length + 1 =
      (s.toList.flatMap (Json.quotedChar true)).length + (rest.length + 1 + 1) := by
    rw [List.length_append, List.length_cons]
    omega
  have hfirst (t : List Char) : first ('"' :: t) = quotedText false ('"' :: t) := by
    unfold first
    simp [isPlainDigit, continuesWord, beginsText]
  rw [Json.quoted, String.toList_ofList, List.cons_append, List.append_assoc, List.singleton_append,
    hfirst, quotedText_short hshort, hlength, closeText_quoted]
  rfl

/-! ## Cutting -/

/-- A number of open brackets and some tokens, unless something cannot be cut. -/
def cut (ok : Bool) (opened : Nat) (tokens : List Token) : Option (Nat × List Token) :=
  if ok then some (opened, tokens) else none

/-- What is cut off `s`, which stands before `rest`, inside some open brackets: the tokens of `s`
and the number of brackets that are open behind it, or nothing when `s` cannot be cut. -/
def Scans (opened : Nat) (s rest : List Char) : Option (Nat × List Token) → Prop
  | some (now, tokens) => ∀ before fuel, ∃ left, fuel ≤ left ∧
      scanUpTo opened before (s.length + fuel) (s ++ rest) =
        scanUpTo now (tokens.reverse ++ before) left rest
  | none => ∀ before fuel, scanUpTo opened before (s.length + fuel) (s ++ rest) = none

/-- A character that a token may begin with: no blank and none that is looked at before tokens. -/
def Begins (c : Char) : Prop :=
  ¬ (c = ' ' ∨ c = '\t' ∨ c = '\x0c') ∧ c ≠ '#' ∧ c ≠ '\n' ∧ c ≠ '\\'

instance : DecidablePred Begins := fun _ => inferInstanceAs (Decidable (_ ∧ _))

namespace Scans

variable {opened : Nat} {s t rest : List Char}

theorem nil : Scans opened [] rest (some (opened, [])) := fun _ fuel =>
  ⟨fuel, Nat.le_refl fuel, by rw [List.length_nil, Nat.zero_add]; rfl⟩

theorem blank : Scans opened [' '] rest (some (opened, [])) := fun before fuel =>
  ⟨fuel, Nat.le_refl fuel, by
    rw [List.length_singleton, Nat.add_comm, List.singleton_append, scanUpTo.eq_def]
    dsimp only
    rw [if_pos (.inl rfl)]
    rfl⟩

/-- One token, or none, is cut off in one round. -/
theorem lexeme {c : Char} (begins : Begins c) {token? : Option Token}
    (h : first (c :: (s ++ rest)) = token?.map fun token => (token, rest)) :
    Scans opened (c :: s) rest
      (token?.bind fun token => (depthAfter opened token).map fun now => (now, [token])) := by
  have hround (before : List Token) (fuel : Nat) :
      scanUpTo opened before ((c :: s).length + fuel) (c :: s ++ rest) =
        token?.bind fun token => (depthAfter opened token).bind fun now =>
          scanUpTo now (token :: before) (s.length + fuel) rest := by
    rw [List.length_cons, Nat.add_right_comm, List.cons_append, scanUpTo.eq_def]
    dsimp only
    rw [if_neg begins.1, if_neg begins.2.1, if_neg begins.2.2.1, if_neg begins.2.2.2, h]
    cases token? with
    | none => rfl
    | some token =>
      dsimp only [Option.map_some, Option.bind_some]
      cases depthAfter opened token <;> rfl
  cases token? with
  | none => exact hround
  | some token =>
    simp only [Option.bind_some] at hround ⊢
    cases hdepth : depthAfter opened token with
    | none =>
      intro before fuel
      rw [hround, hdepth]
      rfl
    | some now =>
      intro before fuel
      refine ⟨s.length + fuel, Nat.le_add_left fuel s.length, ?_⟩
      rw [hround, hdepth]
      rfl

/-- Two texts are cut one behind the other. -/
theorem append {between behind : Nat} {first more : List Token} {ok ok' : Bool}
    (hs : Scans opened s (t ++ rest) (cut ok between first))
    (ht : ok = true → Scans between t rest (cut ok' behind more)) :
    Scans opened (s ++ t) rest (cut (ok && ok') behind (first ++ more)) := by
  have hlength (fuel : Nat) : (s ++ t).length + fuel = s.length + (t.length + fuel) := by
    rw [List.length_append, Nat.add_assoc]
  cases ok with
  | false =>
    intro before fuel
    rw [hlength, List.append_assoc]
    exact hs before (t.length + fuel)
  | true =>
    have hstep (before : List Token) (fuel : Nat) : ∃ left, fuel ≤ left ∧
        scanUpTo opened before ((s ++ t).length + fuel) (s ++ t ++ rest) =
          scanUpTo between (first.reverse ++ before) (t.length + left) (t ++ rest) := by
      obtain ⟨left, hle, hfirst⟩ := hs before (t.length + fuel)
      obtain ⟨spare, rfl⟩ := Nat.exists_eq_add_of_le hle
      refine ⟨fuel + spare, Nat.le_add_right fuel spare, ?_⟩
      rw [hlength, List.append_assoc, hfirst, Nat.add_assoc]
    have ht := ht rfl
    cases ok' with
    | false =>
      intro before fuel
      obtain ⟨left, -, hstep⟩ := hstep before fuel
      rw [hstep]
      exact ht _ left
    | true =>
      intro before fuel
      obtain ⟨left, hle, hstep⟩ := hstep before fuel
      obtain ⟨last, hlast, ht⟩ := ht (first.reverse ++ before) left
      refine ⟨last, Nat.le_trans hle hlast, ?_⟩
      rw [hstep, ht, List.reverse_append, List.append_assoc]

/-- A sign is cut off if the number of open brackets allows it. -/
theorem sign {c : Char} (h : c ∈ ['-', ',', ':', '[', ']', '\x7b', '\x7d']) :
    Scans opened [c] rest
      ((depthAfter opened (.sign (String.ofList [c]))).map fun now =>
        (now, [.sign (String.ofList [c])])) := by
  have hbegins : Begins c := by
    simp only [List.mem_cons, List.not_mem_nil, or_false] at h
    rcases h with rfl | rfl | rfl | rfl | rfl | rfl | rfl <;> decide
  have hfirst : first (c :: ([] ++ rest)) =
      (some (Token.sign (String.ofList [c]))).map fun token => (token, rest) := first_sign h rest
  exact lexeme hbegins hfirst

/-- A comma or a colon with the blank behind it. -/
theorem separator {c : Char} (h : c = ',' ∨ c = ':') :
    Scans opened [c, ' '] rest (cut true opened [.sign (String.ofList [c])]) := by
  have hmark : Scans opened [c] ([' '] ++ rest) (cut true opened [.sign (String.ofList [c])]) := by
    rcases h with rfl | rfl
    · exact sign (by simp)
    · exact sign (by simp)
  have hblank : Scans opened [' '] rest (cut true opened []) := blank
  exact hmark.append fun _ => hblank

/-- Parts that can be cut, separated by commas. -/
theorem intercalate {α : Type} {chars : α → List Char} {tokens : α → List Token} {ok : α → Bool}
    {l : List α} (h : ∀ a ∈ l, ∀ rest, Closes rest →
      Scans opened (chars a) rest (cut (ok a) opened (tokens a))) (closes : Closes rest) :
    Scans opened ([',', ' '].intercalate (l.map chars)) rest
      (cut (l.all ok) opened ([Token.sign ","].intercalate (l.map tokens))) := by
  induction l with
  | nil => exact nil
  | cons a l ih =>
    rw [List.forall_mem_cons] at h
    cases l with
    | nil => simpa using h.1 rest closes
    | cons b l =>
      have hcomma : Scans opened [',', ' '] ([',', ' '].intercalate ((b :: l).map chars) ++ rest)
          (cut true opened [.sign ","]) := separator (.inl rfl)
      have hmore := hcomma.append fun _ => ih h.2
      have hfirst := (h.1 _ (by simp [Closes])).append fun _ => hmore
      simpa [List.intercalate_cons_cons] using hfirst

/-- What stands between brackets. -/
theorem bracketed {left right : Char}
    (h : left = '[' ∧ right = ']' ∨ left = '\x7b' ∧ right = '\x7d') {ok : Bool}
    {tokens : List Token}
    (hs : opened < depthLimit → Scans (opened + 1) s ([right] ++ rest) (cut ok (opened + 1) tokens)) :
    Scans opened (left :: (s ++ [right])) rest
      (cut (decide (opened < depthLimit) && ok) opened
        (.sign (String.ofList [left]) :: (tokens ++ [.sign (String.ofList [right])]))) := by
  have hleft : Scans opened [left] ((s ++ [right]) ++ rest)
      (cut (decide (opened < depthLimit)) (opened + 1) [.sign (String.ofList [left])]) := by
    have hdepth : depthAfter opened (.sign (String.ofList [left])) =
        if opened < depthLimit then some (opened + 1) else none := by
      rcases h with ⟨rfl, -⟩ | ⟨rfl, -⟩ <;> rw [depthAfter, if_pos (by decide)]
    have hsign : Scans opened [left] ((s ++ [right]) ++ rest) _ :=
      sign (by rcases h with ⟨rfl, -⟩ | ⟨rfl, -⟩ <;> decide)
    rw [hdepth, apply_ite (Option.map _)] at hsign
    simpa [cut] using hsign
  have hright : Scans (opened + 1) [right] rest
      (cut true opened [.sign (String.ofList [right])]) := by
    have hdepth : depthAfter (opened + 1) (.sign (String.ofList [right])) = some opened := by
      rcases h with ⟨-, rfl⟩ | ⟨-, rfl⟩ <;>
        rw [depthAfter, if_neg (by decide), if_pos (by decide), if_neg (Nat.succ_ne_zero opened)] <;>
        rfl
    have hsign : Scans (opened + 1) [right] rest _ :=
      sign (by rcases h with ⟨-, rfl⟩ | ⟨-, rfl⟩ <;> decide)
    rwa [hdepth] at hsign
  have hinner (room : opened < depthLimit) := (hs room).append fun _ => hright
  have hwhole := hleft.append fun room => hinner (of_decide_eq_true room)
  rwa [Bool.and_true] at hwhole

end Scans

/-! ## Whole conditions -/

theorem firstLine_cons {c : Char} (begins : Begins c) (s : List Char) :
    firstLine false false (c :: s) = some (c :: s) := by
  unfold firstLine
  split
  · next heq => cases heq
  · next heq =>
    cases heq
    exact absurd rfl begins.2.2.2
  · next heq =>
    cases heq
    simp_all [Begins]

/-- The tokens of a condition of plain characters in one line. -/
theorem scan_ofList {c : Char} (begins : Begins c) {s : List Char} {ok : Bool}
    {tokens : List Token} (plain : ∀ d ∈ c :: s, IsPlain d)
    (h : Scans 0 (c :: s) [] (cut ok 0 tokens)) :
    scan (String.ofList (c :: s)) = if ok then some tokens else none := by
  have hreturn : '\r' ∉ c :: s := fun hmem => absurd (plain _ hmem) (by decide)
  have hnull : (c :: s).contains '\x00' = false := by
    rw [List.contains_eq_mem, decide_eq_false_iff_not]
    exact fun hmem => absurd (plain _ hmem) (by decide)
  have hblank : (c :: s).dropWhile (fun c => decide (c = ' ') || decide (c = '\t')) = c :: s := by
    refine List.dropWhile_cons_of_neg ?_
    simp only [Bool.or_eq_true, decide_eq_true_eq]
    exact fun hc => begins.1 (hc.imp_right .inl)
  have hcut : scanUpTo 0 [] ((c :: s).length + 1) (c :: s) = if ok then some tokens else none := by
    cases ok with
    | false => simpa using h [] 1
    | true =>
      obtain ⟨left, hle, hcut⟩ := h [] 1
      obtain ⟨fuel, rfl⟩ := Nat.exists_eq_add_of_le' hle
      rw [List.append_nil, List.append_nil] at hcut
      rw [hcut, scanUpTo, if_pos rfl, List.reverse_reverse, if_pos rfl]
  rw [scan, String.toList_ofList, Json.withLineFeeds_eq hreturn, hblank, hnull,
    if_neg Bool.false_ne_true, firstLine_cons begins]
  exact hcut

end Conduit.Condition.Token
