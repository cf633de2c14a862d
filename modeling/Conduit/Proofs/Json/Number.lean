import Conduit.Proofs.Json.Text
import Conduit.Proofs.Number.Shortest
import Conduit.Proofs.Value.Document

/-!
# Numbers in documents

A number is spelled by digits, with a point and more digits or an exponent or both when it is a
double, and so it is read.

* `Json.Spelling` — a number as it is spelled;
* `Json.unsigned_double`, `Json.unsigned_int` — what is read of a spelling.
-/

namespace Conduit

namespace Numeral

/-! ## Digits -/

theorem valueOf_append (l l' : List Nat) :
    valueOf (l ++ l') = valueOf l * 10 ^ l'.length + valueOf l' := by
  have hfoldl : ∀ (l' : List Nat) (n : Nat),
      l'.foldl (fun n d => 10 * n + d) n = n * 10 ^ l'.length + valueOf l' := by
    intro l'
    induction l' with
    | nil => intro n; simp [valueOf]
    | cons d rest ih =>
      intro n
      have hvalue : valueOf (d :: rest) = d * 10 ^ rest.length + valueOf rest := by
        rw [valueOf, List.foldl_cons, ih, Nat.mul_zero, Nat.zero_add]
      rw [List.foldl_cons, ih, hvalue, List.length_cons, pow_succ]
      ring
  rw [valueOf, List.foldl_append, hfoldl]
  rfl

theorem valueOf_cons (d : Nat) (l : List Nat) :
    valueOf (d :: l) = d * 10 ^ l.length + valueOf l := by
  have h := valueOf_append [d] l
  rw [List.singleton_append] at h
  rw [h]
  simp [valueOf]

theorem valueOf_replicate_zero (n : Nat) : valueOf (List.replicate n 0) = 0 := by
  induction n with
  | zero => rfl
  | succ n ih => rw [List.replicate_succ, valueOf_cons, ih, Nat.zero_mul]

/-- Zeros in front do not matter. -/
theorem valueOf_dropWhile (l : List Nat) : valueOf (l.dropWhile (· == 0)) = valueOf l := by
  induction l with
  | nil => rfl
  | cons d rest ih =>
    by_cases hd : d = 0
    · rw [List.dropWhile_cons_of_pos (by simp [hd]), ih, valueOf_cons, hd]
      omega
    · rw [List.dropWhile_cons_of_neg (by simp [hd])]

/-- A decimal whose digits can be read one by one. -/
theorem decimal_eq (negative : Bool) {whole fraction : List Nat} (power : ℤ)
    (h : valueOf (whole ++ fraction) < 10 ^ precision) :
    decimal negative whole fraction power =
      Double.ofDecimal negative (valueOf (whole ++ fraction)) (power - fraction.length) := by
  have hlength : ((whole ++ fraction).dropWhile (· == 0)).length ≤ precision := by
    rw [← valueOf_dropWhile] at h
    cases hds : (whole ++ fraction).dropWhile (· == 0) with
    | nil => exact Nat.zero_le _
    | cons d rest =>
      have hd : d ≠ 0 := by
        have := List.head_dropWhile_not (p := (· == 0)) (l := whole ++ fraction) (by simp [hds])
        simpa [hds] using this
      rw [hds, valueOf_cons] at h
      have hpower : 10 ^ rest.length < 10 ^ precision :=
        lt_of_le_of_lt (le_trans (Nat.le_mul_of_pos_left _ (by omega)) (Nat.le_add_right _ _)) h
      exact (Nat.pow_lt_pow_iff_right (by norm_num)).1 hpower
  unfold decimal
  rw [if_pos hlength, valueOf_dropWhile]

/-- The values of plain digits. -/
def digitValues (s : List Char) : List Nat := s.map fun c => c.toNat - '0'.toNat

theorem digitValues_append (s t : List Char) :
    digitValues (s ++ t) = digitValues s ++ digitValues t := List.map_append

theorem digitValues_replicate_zero (n : Nat) :
    digitValues (List.replicate n '0') = List.replicate n 0 := List.map_replicate

theorem length_digitValues (s : List Char) : (digitValues s).length = s.length := List.length_map _

theorem valueOf_digitValues (s : List Char) :
    valueOf (digitValues s) = Nat.ofDigitChars 10 s 0 := by
  rw [valueOf, digitValues, List.foldl_map]
  rfl

/-- The digits of a number give the number. -/
theorem valueOf_toDigits (n : Nat) : valueOf (digitValues (Nat.toDigits 10 n)) = n := by
  rw [valueOf_digitValues, Nat.ofDigitChars_toDigits (by norm_num) (by norm_num)]

end Numeral

namespace Json

/-! ## Reading digits -/

/-- A text that does not begin with a digit. -/
def Undigited (s : List Char) : Prop := ∀ c ∈ s.head?, c.isDigit = false

theorem digitValue?_of_isDigit {c : Char} (h : c.isDigit = true) :
    digitValue? c = some (c.toNat - '0'.toNat) := by
  have hc : '0' ≤ c ∧ c ≤ '9' := by
    simpa [Char.isDigit, Char.le_def] using h
  rw [digitValue?, if_pos hc]

theorem digitValue?_of_not_isDigit {c : Char} (h : c.isDigit = false) : digitValue? c = none := by
  have hc : ¬ ('0' ≤ c ∧ c ≤ '9') := by
    simpa [Char.isDigit, Char.le_def] using h
  rw [digitValue?, if_neg hc]

theorem digits_append {s rest : List Char} (hs : ∀ c ∈ s, c.isDigit = true)
    (hrest : Undigited rest) : digits (s ++ rest) = (Numeral.digitValues s, rest) := by
  induction s with
  | nil =>
    cases rest with
    | nil => rfl
    | cons c more => rw [List.nil_append, digits, digitValue?_of_not_isDigit (hrest c rfl)]; rfl
  | cons c more ih =>
    have hmore := ih fun d hd => hs d (List.mem_cons_of_mem _ hd)
    rw [List.cons_append, digits, digitValue?_of_isDigit (hs c (List.mem_cons_self ..))]
    simp only [hmore]
    rfl

/-! ## Spellings -/

/-- A number as it is spelled, without its sign. -/
structure Spelling where
  /-- The digits before the point. -/
  whole : List Char
  /-- The digits after the point; without any there is no point. -/
  fraction : List Char
  /-- The exponent, if there is one. -/
  power : Option ℤ

namespace Spelling

/-- The point with the digits after it. -/
def point (p : Spelling) : List Char := if p.fraction = [] then [] else '.' :: p.fraction

/-- The exponent with its mark. -/
def mark (p : Spelling) : List Char :=
  match p.power with
  | none => []
  | some n => 'e' :: ((if n < 0 then ['-'] else []) ++ Nat.toDigits 10 n.natAbs)

/-- The characters of a spelling. -/
def chars (p : Spelling) : List Char := p.whole ++ (p.point ++ p.mark)

/-- A spelling that can be read: a zero before the point stands alone. -/
structure Sound (p : Spelling) : Prop where
  /-- There is a digit before the point. -/
  nonempty : p.whole ≠ []
  /-- Zero stands alone. -/
  zero : p.whole.head? = some '0' → p.whole = ['0']
  /-- Digits stand before the point. -/
  whole : ∀ c ∈ p.whole, c.isDigit = true
  /-- Digits stand after the point. -/
  fraction : ∀ c ∈ p.fraction, c.isDigit = true

end Spelling

/-- What may stand behind a value. -/
def Ends (s : List Char) : Prop := ∀ c ∈ s.head?, c = ',' ∨ c = '\n'

theorem Ends.undigited {s : List Char} (h : Ends s) : Undigited s := by
  intro c hc
  rcases h c hc with rfl | rfl <;> rfl

theorem wholePart_append {s rest : List Char} (nonempty : s ≠ [])
    (zero : s.head? = some '0' → s = ['0']) (hs : ∀ c ∈ s, c.isDigit = true)
    (hrest : Undigited rest) : wholePart (s ++ rest) = (Numeral.digitValues s, rest) := by
  unfold wholePart
  split
  · next tail heq =>
    cases s with
    | nil => exact absurd rfl nonempty
    | cons c more =>
      rw [List.cons_append, List.cons.injEq] at heq
      obtain ⟨rfl, rfl⟩ := heq
      cases zero rfl
      rfl
  · exact digits_append hs hrest

theorem fraction_append {p : Spelling} (sound : p.Sound) {rest : List Char}
    (hrest : Undigited rest) (hpoint : ∀ c ∈ rest.head?, c ≠ '.') :
    fraction (p.point ++ rest) =
      ⟨!p.fraction.isEmpty, Numeral.digitValues p.fraction, rest⟩ := by
  unfold Spelling.point
  split
  · next hnone =>
    rw [hnone, List.nil_append]
    unfold fraction
    split
    · exact absurd rfl (hpoint _ rfl)
    · rfl
  · next hsome =>
    have hempty : (Numeral.digitValues p.fraction).isEmpty = false := by
      simpa [Numeral.digitValues] using hsome
    rw [List.cons_append, fraction, digits_append sound.fraction hrest, if_neg (by simp [hempty])]
    simp [hsome]

/-- The digits of a number do not begin with a sign. -/
theorem sign_toDigits (n : Nat) (rest : List Char) :
    Numeral.sign (Nat.toDigits 10 n ++ rest) = (false, Nat.toDigits 10 n ++ rest) := by
  have hdigit : ∀ c ∈ Nat.toDigits 10 n, c.isDigit = true := fun c hc =>
    Nat.isDigit_of_mem_toDigits (by norm_num) (by norm_num) hc
  cases hs : Nat.toDigits 10 n with
  | nil => exact absurd hs Nat.toDigits_ne_nil
  | cons c more =>
    have hc := hdigit c (by rw [hs]; exact List.mem_cons_self ..)
    unfold Numeral.sign
    split
    · next heq => cases heq; cases hc
    · next heq => cases heq; cases hc
    · rfl

theorem exponent_append (p : Spelling) {rest : List Char} (hrest : Ends rest) :
    exponent (p.mark ++ rest) = ⟨p.power.isSome, p.power.getD 0, rest⟩ := by
  unfold Spelling.mark
  cases p.power with
  | none =>
    rw [List.nil_append]
    cases rest with
    | nil => rfl
    | cons c more =>
      have hmark : ¬ (c = 'e' ∨ c = 'E') := by
        rcases hrest c rfl with rfl | rfl <;> decide
      rw [exponent, if_neg hmark]
      rfl
  | some n =>
    have hsign :
        Numeral.sign (((if n < 0 then ['-'] else []) ++ Nat.toDigits 10 n.natAbs) ++ rest) =
        (decide (n < 0), Nat.toDigits 10 n.natAbs ++ rest) := by
      by_cases hn : n < 0
      · rw [if_pos hn, decide_eq_true hn]
        rfl
      · rw [if_neg hn, decide_eq_false hn, List.nil_append]
        exact sign_toDigits _ _
    have hdigits := digits_append (s := Nat.toDigits 10 n.natAbs)
      (fun c hc => Nat.isDigit_of_mem_toDigits (by norm_num) (by norm_num) hc) hrest.undigited
    have hempty : (Numeral.digitValues (Nat.toDigits 10 n.natAbs)).isEmpty = false := by
      simp [Numeral.digitValues]
    dsimp only
    rw [List.cons_append, exponent, if_pos (.inl rfl), hsign]
    dsimp only
    rw [hdigits, if_neg (by simp [hempty]), Numeral.valueOf_toDigits, Numeral.signed]
    have hn : (if decide (n < 0) = true then -(n.natAbs : ℤ) else n.natAbs) = n := by
      simp only [decide_eq_true_eq]
      split <;> omega
    rw [hn]
    rfl

/-- What stands behind the digits before the point, or behind those after it. -/
theorem head_mark_append (p : Spelling) {rest : List Char} (hrest : Ends rest) :
    ∀ c ∈ (p.mark ++ rest).head?, c = 'e' ∨ c = ',' ∨ c = '\n' := by
  unfold Spelling.mark
  cases p.power with
  | none => exact fun c hc => .inr (hrest c hc)
  | some n =>
    rintro c hc
    cases hc
    exact .inl rfl

theorem head_point_append (p : Spelling) {rest : List Char} (hrest : Ends rest) :
    ∀ c ∈ (p.point ++ (p.mark ++ rest)).head?, c = '.' ∨ c = 'e' ∨ c = ',' ∨ c = '\n' := by
  unfold Spelling.point
  split
  · exact fun c hc => .inr (head_mark_append p hrest c hc)
  · rintro c hc
    cases hc
    exact .inl rfl

/-- The parts of a sound spelling are found one behind the other. -/
theorem parts_append {p : Spelling} (sound : p.Sound) {rest : List Char} (hrest : Ends rest) :
    wholePart (p.chars ++ rest) = (Numeral.digitValues p.whole, p.point ++ (p.mark ++ rest)) ∧
      fraction (p.point ++ (p.mark ++ rest)) =
        ⟨!p.fraction.isEmpty, Numeral.digitValues p.fraction, p.mark ++ rest⟩ ∧
      exponent (p.mark ++ rest) = ⟨p.power.isSome, p.power.getD 0, rest⟩ := by
  have hmark : Undigited (p.mark ++ rest) := by
    intro c hc
    rcases head_mark_append p hrest c hc with rfl | rfl | rfl <;> rfl
  have hnoPoint : ∀ c ∈ (p.mark ++ rest).head?, c ≠ '.' := by
    intro c hc
    rcases head_mark_append p hrest c hc with rfl | rfl | rfl <;> decide
  have hpoint : Undigited (p.point ++ (p.mark ++ rest)) := by
    intro c hc
    rcases head_point_append p hrest c hc with rfl | rfl | rfl | rfl <;> rfl
  refine ⟨?_, fraction_append sound hmark hnoPoint, exponent_append p hrest⟩
  rw [Spelling.chars, List.append_assoc, List.append_assoc]
  exact wholePart_append sound.nonempty sound.zero sound.whole hpoint

/-- What is read of a sound spelling. -/
theorem unsigned_chars (negative : Bool) {p : Spelling} (sound : p.Sound) {rest : List Char}
    (hrest : Ends rest) {v : Value}
    (h : numberOf negative (Numeral.digitValues p.whole)
      ⟨!p.fraction.isEmpty, Numeral.digitValues p.fraction, p.mark ++ rest⟩
      ⟨p.power.isSome, p.power.getD 0, rest⟩ = .ok v) :
    Reads (unsigned negative) (p.chars ++ rest) v rest := by
  obtain ⟨hwhole, hfraction, hexponent⟩ := parts_append sound hrest
  have hempty : (wholePart (p.chars ++ rest)).1.isEmpty = false := by
    rw [hwhole]
    simpa [Numeral.digitValues] using sound.nonempty
  unfold Reads unsigned
  rw [dif_pos hempty]
  simp only [hwhole, hfraction, hexponent, h]
  rfl

/-- Where a sound spelling is read, its parts stand for a number. -/
theorem numberOf_of_unsigned {negative : Bool} {p : Spelling} (sound : p.Sound) {rest : List Char}
    (hrest : Ends rest) {step : Step (p.chars ++ rest) Value}
    (h : unsigned negative (p.chars ++ rest) = .ok step) :
    numberOf negative (Numeral.digitValues p.whole)
      ⟨!p.fraction.isEmpty, Numeral.digitValues p.fraction, p.mark ++ rest⟩
      ⟨p.power.isSome, p.power.getD 0, rest⟩ = .ok step.result := by
  obtain ⟨hwhole, hfraction, hexponent⟩ := parts_append sound hrest
  unfold unsigned at h
  split at h
  · simp only [hwhole, hfraction, hexponent] at h
    split at h
    · cases h
    · next v hv =>
      cases h
      exact hv
  · cases h

/-- A sound spelling with a point or an exponent is read as a double. -/
theorem unsigned_double (negative : Bool) {p : Spelling} (sound : p.Sound)
    (double : p.fraction ≠ [] ∨ p.power.isSome) {rest : List Char} (hrest : Ends rest) :
    Reads (unsigned negative) (p.chars ++ rest)
      (.float (Numeral.decimal negative (Numeral.digitValues p.whole)
        (Numeral.digitValues p.fraction) (p.power.getD 0))) rest := by
  refine unsigned_chars negative sound hrest ?_
  have hpresent : (!p.fraction.isEmpty || p.power.isSome) = true := by
    rcases double with h | h <;> simp [h]
  rw [numberOf, if_pos hpresent]

/-- The digits of a number, as they are. -/
def Spelling.ofNat (n : Nat) : Spelling := ⟨Nat.toDigits 10 n, [], none⟩

theorem isDigit_toDigits (n : Nat) : ∀ c ∈ Nat.toDigits 10 n, c.isDigit = true := fun _ hc =>
  Nat.isDigit_of_mem_toDigits (by norm_num) (by norm_num) hc

/-- The digits of a number begin with zero only when the number is zero. -/
theorem toDigits_zero {n : Nat} (h : (Nat.toDigits 10 n).head? = some '0') : n = 0 := by
  induction n using Nat.strongRecOn with
  | ind n ih =>
    rcases Nat.lt_or_ge n 10 with hn | hn
    · rw [Nat.toDigits_of_lt_base hn, List.head?_cons, Option.some.injEq] at h
      have hdigits : ∀ d < 10, Nat.digitChar d = '0' → d = 0 := by decide
      exact hdigits n hn h
    · rw [Nat.toDigits_of_base_le (by norm_num) hn,
        List.head?_append_of_ne_nil _ Nat.toDigits_ne_nil] at h
      have := ih (n / 10) (by omega) h
      omega

theorem Spelling.sound_ofNat (n : Nat) : (Spelling.ofNat n).Sound where
  nonempty := Nat.toDigits_ne_nil
  zero h := by
    rw [ofNat, toDigits_zero h]
    rfl
  whole := isDigit_toDigits n
  fraction := by simp [ofNat]

/-- The digits of a number are read as an integer. -/
theorem unsigned_int (negative : Bool) {n : Nat} (short : Numeral.isShort n) {rest : List Char}
    (hrest : Ends rest) :
    Reads (unsigned negative) (Nat.toDigits 10 n ++ rest) (.int (Numeral.signed negative n))
      rest := by
  have hchars : (Spelling.ofNat n).chars = Nat.toDigits 10 n := by
    simp [Spelling.chars, Spelling.ofNat, Spelling.point, Spelling.mark]
  rw [← hchars]
  refine unsigned_chars negative (Spelling.sound_ofNat n) hrest ?_
  rw [Numeral.isShort, decide_eq_true_eq] at short
  have hlength : ¬ Numeral.digitLimit < (Numeral.digitValues (Spelling.ofNat n).whole).length := by
    simpa [Numeral.digitValues, Spelling.ofNat] using short
  rw [numberOf, if_neg (by simp [Spelling.ofNat]), if_neg hlength, Spelling.ofNat,
    Numeral.valueOf_toDigits]

end Json

end Conduit
