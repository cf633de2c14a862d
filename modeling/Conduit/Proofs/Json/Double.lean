import Conduit.Proofs.Json.Number

/-!
# Doubles in documents

A finite double is written in the stored style as a decimal that rounds to it, with a point or an
exponent, and so it is read as the same double.

* `Json.spelling` — how the stored style spells a decimal;
* `Json.value_int`, `Json.value_float` — what is read of numbers that were written.
-/

namespace Conduit.Json

/-- How a style spells a decimal. -/
def spellingIn (style : NumberStyle) (d : Decimal) : Spelling :=
  let digits := Nat.toDigits 10 d.digits
  let e : ℤ := d.power + digits.length - 1
  if style.plainFrom ≤ e ∧ e < style.plainBelow then
    if e < 0 then ⟨['0'], List.replicate (-e - 1).toNat '0' ++ digits, none⟩
    else if d.power < 0 then ⟨digits.take (e.toNat + 1), digits.drop (e.toNat + 1), none⟩
    else ⟨digits ++ List.replicate d.power.toNat '0', ['0'], none⟩
  else ⟨digits.take 1, digits.drop 1, some e⟩

/-- How the stored style spells a decimal. -/
def spelling (d : Decimal) : Spelling := spellingIn .stored d

/-- The exponent of a spelling with its mark, as a style writes it. -/
def Spelling.markIn (style : NumberStyle) (p : Spelling) : List Char :=
  match p.power with
  | none => []
  | some e => (style.exponentText e).toList

theorem toList_pushn (c : Char) (n : Nat) : ("".pushn c n).toList = List.replicate n c := by
  unfold String.pushn
  induction n with
  | zero => rfl
  | succ n ih => rw [Nat.repeat, String.toList_push, ih, List.replicate_succ']

theorem toList_exponentText (e : ℤ) :
    (NumberStyle.stored.exponentText e).toList = Spelling.mark ⟨[], [], some e⟩ := by
  have hpos : 0 < (Nat.toDigits 10 e.natAbs).length := Nat.length_toDigits_pos
  have hwidth : 1 - (Nat.toDigits 10 e.natAbs).length = 0 := by omega
  unfold NumberStyle.exponentText Spelling.mark
  simp only [NumberStyle.stored, Nat.toString_eq_ofList_toDigits, String.length_ofList, hwidth,
    String.toList_append, String.toList_ofList, toList_pushn, List.replicate_zero]
  split <;> rfl

/-- A style spells a decimal so. -/
theorem toList_decimalTextIn (style : NumberStyle) (d : Decimal) :
    (style.decimalText d).toList = (spellingIn style d).whole ++
      ((spellingIn style d).point ++ (spellingIn style d).markIn style) := by
  have hpos : 0 < (Nat.toDigits 10 d.digits).length := Nat.length_toDigits_pos
  unfold NumberStyle.decimalText spellingIn
  simp only [Nat.toString_eq_ofList_toDigits, String.length_ofList, String.toList_ofList]
  generalize Nat.toDigits 10 d.digits = digits at hpos
  split_ifs with hplain hsmall hpoint htail
  · have hne : List.replicate (-(d.power + (digits.length : ℤ) - 1) - 1).toNat '0' ++ digits ≠ [] :=
      List.append_ne_nil_of_right_ne_nil _ (List.ne_nil_of_length_pos hpos)
    simp only [String.toList_append, toList_pushn, String.toList_ofList, Spelling.point, if_neg hne]
    simp [Spelling.markIn]
  · have hne : digits.drop ((d.power + (digits.length : ℤ) - 1).toNat + 1) ≠ [] :=
      List.ne_nil_of_length_pos (by rw [List.length_drop]; omega)
    simp only [String.toList_append, String.toList_ofList, Spelling.point, if_neg hne]
    simp [Spelling.markIn]
  · simp [Spelling.point, Spelling.markIn, toList_pushn]
  · simp only [String.toList_append, String.toList_ofList, Spelling.point, Spelling.markIn,
      if_pos (List.isEmpty_iff.1 htail), List.append_assoc]
    rfl
  · simp only [String.toList_append, String.toList_ofList, Spelling.point, Spelling.markIn,
      if_neg (fun h => htail (List.isEmpty_iff.2 h)), List.append_assoc]
    rfl

/-- The stored style spells a decimal so. -/
theorem toList_decimalText (d : Decimal) :
    (NumberStyle.stored.decimalText d).toList = (spelling d).chars := by
  have hmark (p : Spelling) : p.markIn .stored = p.mark := by
    unfold Spelling.markIn Spelling.mark
    cases p.power with
    | none => rfl
    | some e => exact toList_exponentText e
  rw [toList_decimalTextIn, hmark, Spelling.chars, spelling]

/-- The spelling of a decimal can be read, and it has a point or an exponent. -/
theorem sound_spellingIn (style : NumberStyle) {d : Decimal} (nonzero : d.digits ≠ 0) :
    (spellingIn style d).Sound ∧
      ((spellingIn style d).fraction ≠ [] ∨ (spellingIn style d).power.isSome) := by
  have hpos : 0 < (Nat.toDigits 10 d.digits).length := Nat.length_toDigits_pos
  have hdigits := isDigit_toDigits d.digits
  have hhead : (Nat.toDigits 10 d.digits).head? ≠ some '0' := fun h => nonzero (toDigits_zero h)
  have hzeros : ∀ {n : Nat}, ∀ c ∈ List.replicate n '0', c.isDigit = true := by
    intro n c hc
    rw [List.eq_of_mem_replicate hc]
    rfl
  unfold spellingIn
  dsimp only
  generalize Nat.toDigits 10 d.digits = digits at *
  have hhead_take : ∀ n, (digits.take (n + 1)).head? ≠ some '0' := by
    intro n
    rwa [List.head?_take, if_neg (Nat.succ_ne_zero n)]
  have hne_take : ∀ n, digits.take (n + 1) ≠ [] := fun n =>
    List.ne_nil_of_length_pos (by rw [List.length_take]; omega)
  split_ifs
  · refine ⟨⟨by simp, fun _ => rfl, by simp [Char.isDigit], ?_⟩, .inl ?_⟩
    · intro c hc
      exact (List.mem_append.1 hc).elim (hzeros c) (hdigits c)
    · exact List.append_ne_nil_of_right_ne_nil _ (List.ne_nil_of_length_pos hpos)
  · refine ⟨⟨hne_take _, fun h => absurd h (hhead_take _),
      fun c hc => hdigits c (List.mem_of_mem_take hc),
      fun c hc => hdigits c (List.mem_of_mem_drop hc)⟩, .inl ?_⟩
    exact List.ne_nil_of_length_pos (by rw [List.length_drop]; omega)
  · refine ⟨⟨?_, ?_, ?_, by simp [Char.isDigit]⟩, .inl (List.cons_ne_nil _ _)⟩
    · exact List.append_ne_nil_of_left_ne_nil (List.ne_nil_of_length_pos hpos) _
    · intro h
      rw [List.head?_append_of_ne_nil _ (List.ne_nil_of_length_pos hpos)] at h
      exact absurd h hhead
    · intro c hc
      exact (List.mem_append.1 hc).elim (hdigits c) (hzeros c)
  · exact ⟨⟨hne_take 0, fun h => absurd h (hhead_take 0),
      fun c hc => hdigits c (List.mem_of_mem_take hc),
      fun c hc => hdigits c (List.mem_of_mem_drop hc)⟩, .inr rfl⟩

theorem sound_spelling {d : Decimal} (nonzero : d.digits ≠ 0) :
    (spelling d).Sound ∧ ((spelling d).fraction ≠ [] ∨ (spelling d).power.isSome) :=
  sound_spellingIn .stored nonzero

/-- What a spelling stands for. -/
structure Spelling.Means (p : Spelling) (d : Decimal) : Prop where
  /-- The digits and the exponent give the number. -/
  value : (Numeral.valueOf (Numeral.digitValues p.whole ++ Numeral.digitValues p.fraction) : ℚ) *
    10 ^ (p.power.getD 0 - (Numeral.digitValues p.fraction).length) = d.value
  /-- Few zeros were put behind the digits. -/
  length : Numeral.valueOf (Numeral.digitValues p.whole ++ Numeral.digitValues p.fraction) ≤
    d.digits * 10 ^ 17

/-- Where the digits are only parted, the point goes with the exponent. -/
theorem means_parted (d : Decimal) (n : Nat) (power : Option ℤ)
    (h : power.getD 0 - ((Nat.toDigits 10 d.digits).length - n : Nat) = d.power) :
    Spelling.Means
      ⟨(Nat.toDigits 10 d.digits).take n, (Nat.toDigits 10 d.digits).drop n, power⟩ d where
  value := by
    dsimp only
    rw [← Numeral.digitValues_append, List.take_append_drop, Numeral.valueOf_toDigits,
      Numeral.length_digitValues, List.length_drop, h]
    rfl
  length := by
    dsimp only
    rw [← Numeral.digitValues_append, List.take_append_drop, Numeral.valueOf_toDigits]
    exact Nat.le_mul_of_pos_right _ (by norm_num)

/-- The spelling of a decimal stands for it. -/
theorem means_spellingIn {style : NumberStyle} (below : style.plainBelow ≤ 17) (d : Decimal) :
    (spellingIn style d).Means d := by
  have hpos : 0 < (Nat.toDigits 10 d.digits).length := Nat.length_toDigits_pos
  unfold spellingIn
  dsimp only
  split_ifs with hplain hsmall hpoint
  · have hvalue : Numeral.valueOf (Numeral.digitValues ['0'] ++ Numeral.digitValues
        (List.replicate (-(d.power + (Nat.toDigits 10 d.digits).length - 1) - 1).toNat '0' ++
          Nat.toDigits 10 d.digits)) = d.digits := by
      rw [Numeral.digitValues_append, Numeral.digitValues_replicate_zero, Numeral.valueOf_append,
        Numeral.valueOf_append, Numeral.valueOf_replicate_zero, Numeral.valueOf_toDigits]
      simp [Numeral.valueOf, Numeral.digitValues]
    have hpower : (0 : ℤ) - ((-(d.power + (Nat.toDigits 10 d.digits).length - 1) - 1).toNat +
        (Nat.toDigits 10 d.digits).length : Nat) = d.power := by omega
    constructor
    · rw [hvalue, Numeral.length_digitValues, List.length_append, List.length_replicate]
      exact congrArg (fun n : ℤ => (d.digits : ℚ) * 10 ^ n) hpower
    · rw [hvalue]
      exact Nat.le_mul_of_pos_right _ (by norm_num)
  · exact means_parted d _ none (by simp only [Option.getD_none]; omega)
  · have hvalue : Numeral.valueOf (Numeral.digitValues (Nat.toDigits 10 d.digits ++
        List.replicate d.power.toNat '0') ++ Numeral.digitValues ['0']) =
          d.digits * 10 ^ d.power.toNat * 10 := by
      rw [Numeral.digitValues_append, Numeral.digitValues_replicate_zero, Numeral.valueOf_append,
        Numeral.valueOf_append, Numeral.valueOf_replicate_zero, Numeral.valueOf_toDigits,
        List.length_replicate]
      simp [Numeral.valueOf, Numeral.digitValues]
    constructor
    · have hpower : (10 : ℚ) ^ d.power.toNat = 10 ^ d.power := by
        rw [← zpow_natCast, Int.toNat_of_nonneg (by omega)]
      rw [hvalue]
      push_cast
      rw [hpower]
      simp [Numeral.digitValues, Decimal.value]
    · rw [hvalue, mul_assoc, ← pow_succ]
      exact Nat.mul_le_mul_left _ (Nat.pow_le_pow_right (by norm_num) (by omega))
  · exact means_parted d 1 _ (by simp only [Option.getD_some]; omega)

theorem digits_shortest {x : Double} (nonzero : x.mantissa ≠ 0) : x.shortest.digits ≠ 0 := by
  intro hzero
  have hpos := (Double.lowEnd_pos nonzero).trans_le (x.attracts_shortest nonzero).low_le
  simp [Decimal.value, hzero] at hpos

/-- The text of a finite double other than zero begins with a digit. -/
theorem head_shortest {x : Double} (nonzero : x.mantissa ≠ 0) (rest : List Char) :
    (∀ c ∈ ((NumberStyle.stored.decimalText x.shortest).toList ++ rest).head?, c.isDigit = true) ∧
      (NumberStyle.stored.decimalText x.shortest).toList ++ rest ≠ [] := by
  have sound := (sound_spelling (digits_shortest nonzero)).1
  rw [toList_decimalText, Spelling.chars, List.append_assoc]
  refine ⟨?_, List.append_ne_nil_of_left_ne_nil sound.nonempty _⟩
  rw [List.head?_append_of_ne_nil _ sound.nonempty]
  exact fun c hc => sound.whole c (List.mem_of_mem_head? hc)

/-- The double that a style spells is the nearest one to what the spelling stands for. -/
theorem decimal_spellingIn {style : NumberStyle} (below : style.plainBelow ≤ 17) {x : Double}
    (finite : x.isFinite = true) (nonzero : x.mantissa ≠ 0) :
    Numeral.decimal x.isNegative (Numeral.digitValues (spellingIn style x.shortest).whole)
      (Numeral.digitValues (spellingIn style x.shortest).fraction)
      ((spellingIn style x.shortest).power.getD 0) = x := by
  obtain ⟨hvalue, hlength⟩ := means_spellingIn below x.shortest
  have hprecision : Numeral.valueOf
      (Numeral.digitValues (spellingIn style x.shortest).whole ++
        Numeral.digitValues (spellingIn style x.shortest).fraction) < 10 ^ Numeral.precision :=
    calc Numeral.valueOf (Numeral.digitValues (spellingIn style x.shortest).whole ++
          Numeral.digitValues (spellingIn style x.shortest).fraction)
      _ ≤ x.shortest.digits * 10 ^ 17 := hlength
      _ < 10 ^ Double.digitBound * 10 ^ 17 :=
        Nat.mul_lt_mul_of_pos_right (Double.shortest_lt finite nonzero) (by norm_num)
      _ = 10 ^ (Double.digitBound + 17) := (pow_add 10 _ _).symm
      _ ≤ 10 ^ Numeral.precision := Double.ten_pow_le (by decide)
  rw [Numeral.decimal_eq _ _ hprecision, Double.ofDecimal_eq finite nonzero]
  rw [hvalue]
  exact x.attracts_shortest nonzero

/-- The text of a finite double other than zero is read as the double. -/
theorem unsigned_shortest {x : Double} (finite : x.isFinite = true) (nonzero : x.mantissa ≠ 0)
    {rest : List Char} (hrest : Ends rest) :
    Reads (unsigned x.isNegative) ((NumberStyle.stored.decimalText x.shortest).toList ++ rest)
      (.float x) rest := by
  obtain ⟨sound, double⟩ := sound_spelling (digits_shortest nonzero)
  have hread := unsigned_double x.isNegative sound double hrest
  have hdecimal := decimal_spellingIn (show NumberStyle.stored.plainBelow ≤ 17 by decide) finite
    nonzero
  rw [toList_decimalText]
  rw [spelling, hdecimal] at hread
  exact hread

/-- There is one zero of each sign. -/
theorem signedZero_isNegative {x : Double} (finite : x.isFinite = true) (zero : x.mantissa = 0) :
    Double.signedZero x.isNegative = x := by
  have hmagnitude : x.magnitudeBits = 0 := by
    simpa [Double.isZero] using (Double.isZero_iff finite).2 zero
  conv => rhs; rw [← Double.ofMagnitude_magnitudeBits finite, hmagnitude]
  cases x.isNegative <;> rfl

/-- Zero is read with its sign. -/
theorem unsigned_zero {x : Double} (finite : x.isFinite = true) (zero : x.mantissa = 0)
    {rest : List Char} (hrest : Ends rest) :
    Reads (unsigned x.isNegative) ("0.0".toList ++ rest) (.float x) rest := by
  have sound : Spelling.Sound ⟨['0'], ['0'], none⟩ :=
    ⟨by simp, fun _ => rfl, by simp [Char.isDigit], by simp [Char.isDigit]⟩
  have hread := unsigned_double x.isNegative sound (.inl (List.cons_ne_nil _ _)) hrest
  have hdecimal : Numeral.decimal x.isNegative (Numeral.digitValues ['0'])
      (Numeral.digitValues ['0']) 0 = Double.signedZero x.isNegative := rfl
  rw [Option.getD_none, hdecimal, signedZero_isNegative finite zero] at hread
  exact hread

/-! ## Numbers as values -/

/-- A value that does not begin with a bracket or a brace holds no other values. -/
theorem value_eq_scalar (room : Nat) {s : List Char} (hlist : s.head? ≠ some '[')
    (hobject : s.head? ≠ some '\x7b') : value room s = scalar s := by
  rw [value.eq_def]
  split
  · exact absurd rfl hlist
  · exact absurd rfl hobject
  · rfl

theorem value_of_scalar (room : Nat) {s rest : List Char} {v : Value} (h : Reads scalar s v rest)
    (hlist : s.head? ≠ some '[') (hobject : s.head? ≠ some '\x7b') :
    Reads (value room) s v rest := by
  unfold Reads
  rw [value_eq_scalar room hlist hobject]
  exact h

theorem word?_of_isDigit {d : Char} (hd : d.isDigit = true) {s t : List Char}
    (ht : t = d :: s ∨ t = '-' :: d :: s) : word? t = none := by
  unfold word?
  split
  case h_7 => rfl
  all_goals rcases ht with heq | heq <;> cases heq <;> cases hd

theorem scalar_digit {d : Char} (hd : d.isDigit = true) {s t : List Char} (ht : t = d :: s) :
    scalar t = unsigned false t := by
  unfold scalar
  rw [word?_of_isDigit hd (.inl ht)]
  dsimp only
  split
  · cases ht
    cases hd
  · cases ht
    cases hd
  · rfl

theorem value_digit (room : Nat) {d : Char} (hd : d.isDigit = true) {s rest : List Char} {v : Value}
    (h : Reads (unsigned false) (d :: s) v rest) : Reads (value room) (d :: s) v rest := by
  refine value_of_scalar room ?_ ?_ ?_
  · unfold Reads
    rw [scalar_digit hd rfl]
    exact h
  · rintro heq
    cases heq
    cases hd
  · rintro heq
    cases heq
    cases hd

theorem value_minus (room : Nat) {d : Char} (hd : d.isDigit = true) {s rest : List Char} {v : Value}
    (h : Reads (unsigned true) (d :: s) v rest) : Reads (value room) ('-' :: d :: s) v rest := by
  obtain ⟨shorter, hread⟩ := h.exists_eq_ok
  refine value_of_scalar room ?_ (by simp) (by simp)
  unfold Reads scalar
  rw [word?_of_isDigit hd (.inr rfl)]
  simp only [hread]
  rfl

/-- A number with its sign is read as the number without it is. -/
theorem value_signed (room : Nat) (negative : Bool) {s rest : List Char} {v : Value}
    (digit : ∀ c ∈ s.head?, c.isDigit = true) (nonempty : s ≠ [])
    (h : Reads (unsigned negative) s v rest) :
    Reads (value room) ((if negative then ['-'] else []) ++ s) v rest := by
  obtain ⟨d, more, rfl⟩ := List.exists_cons_of_ne_nil nonempty
  cases negative with
  | true => exact value_minus room (digit d rfl) h
  | false => exact value_digit room (digit d rfl) h

theorem toList_int (n : ℤ) :
    (toString n).toList = (if decide (n < 0) then ['-'] else []) ++ Nat.toDigits 10 n.natAbs := by
  cases n with
  | ofNat m =>
    change (toString m).toList = _
    rw [Nat.toString_eq_ofList_toDigits, String.toList_ofList, decide_eq_false (by simp)]
    rfl
  | negSucc m =>
    change ("-" ++ toString (m + 1)).toList = _
    rw [Nat.toString_eq_ofList_toDigits, String.toList_append, String.toList_ofList,
      String.toList_ofList, decide_eq_true (Int.negSucc_lt_zero m)]
    rfl

/-- An integer that was written is read. -/
theorem value_int (room : Nat) {n : ℤ} (short : Numeral.isShort n.natAbs) {rest : List Char}
    (hrest : Ends rest) : Reads (value room) ((toString n).toList ++ rest) (.int n) rest := by
  have hread := unsigned_int (decide (n < 0)) short hrest
  have hsigned : Numeral.signed (decide (n < 0)) n.natAbs = n := by
    simp only [Numeral.signed, decide_eq_true_eq]
    split <;> omega
  rw [hsigned] at hread
  rw [toList_int, List.append_assoc]
  refine value_signed room _ ?_ ?_ hread
  · rw [List.head?_append_of_ne_nil _ Nat.toDigits_ne_nil]
    exact fun c hc => isDigit_toDigits _ c (List.mem_of_mem_head? hc)
  · exact List.append_ne_nil_of_left_ne_nil Nat.toDigits_ne_nil _

/-- A finite double is written with its sign, and zero apart. -/
theorem toList_floatIn (style : NumberStyle) {x : Double} (finite : x.isFinite = true) :
    (style.text x).toList = (if x.isNegative then ['-'] else []) ++
      (if x.mantissa = 0 then "0.0" else style.decimalText x.shortest).toList := by
  have hless := Double.isFinite_iff.1 finite
  have hnan : x.isNaN = false := by
    rw [Double.isNaN, decide_eq_false_iff_not]
    exact Nat.not_lt.2 hless.le
  have hinfinite : x.isInfinite = false := by
    rw [Double.isInfinite, beq_eq_false_iff_ne]
    exact hless.ne
  have hminus : (if x.isNegative = true then "-" else "").toList =
      if x.isNegative = true then ['-'] else [] := by split <;> rfl
  rw [NumberStyle.text, if_neg (by simp [hnan]), if_neg (by simp [hinfinite]), String.toList_append,
    hminus]
  simp only [Double.isZero_iff finite]

theorem toList_float {x : Double} (finite : x.isFinite = true) :
    (NumberStyle.stored.text x).toList = (if x.isNegative then ['-'] else []) ++
      (if x.mantissa = 0 then "0.0" else NumberStyle.stored.decimalText x.shortest).toList :=
  toList_floatIn .stored finite

/-- A finite double that was written is read. -/
theorem value_float (room : Nat) {x : Double} (finite : x.isFinite = true) {rest : List Char}
    (hrest : Ends rest) :
    Reads (value room) ((NumberStyle.stored.text x).toList ++ rest) (.float x) rest := by
  rw [toList_float finite, List.append_assoc]
  by_cases hzero : x.mantissa = 0
  · rw [if_pos hzero]
    exact value_signed room _ (by simp [Char.isDigit]) (by simp) (unsigned_zero finite hzero hrest)
  · rw [if_neg hzero]
    obtain ⟨digit, nonempty⟩ := head_shortest hzero rest
    exact value_signed room _ digit nonempty (unsigned_shortest finite hzero hrest)

end Conduit.Json
