import Conduit.Decode
import Conduit.Proofs.Json.Double
import Conduit.Proofs.Time.Calendar

/-!
# Moments in documents

The reading of a clock comes out of a document as it went in: its date and its time of day are
spelled by numbers of a fixed width, and read again one by one.

* `Moment.IsReading` — a reading of a clock without an offset;
* `Moment.date?_text`, `Moment.timeOfDay?_text` — what is read of its date and its time of
  day;
* `Decode.moment_documentText` — the reading is decoded from its text.
-/

namespace Conduit

namespace Moment

/-! ## Numbers of a fixed width -/

theorem toList_padded (width n : Nat) : (padded width n).toList =
    List.replicate (width - (Nat.toDigits 10 n).length) '0' ++ Nat.toDigits 10 n := by
  have hdigits : (toString n).toList = Nat.toDigits 10 n := by
    rw [Nat.toString_eq_ofList_toDigits, String.toList_ofList]
  rw [padded, String.toList_append, Json.toList_pushn, ← String.length_toList, hdigits]

theorem isDigit_padded (width n : Nat) : ∀ c ∈ (padded width n).toList, c.isDigit = true := by
  intro c hc
  rw [toList_padded, List.mem_append] at hc
  rcases hc with hc | hc
  · rw [List.eq_of_mem_replicate hc]
    rfl
  · exact Json.isDigit_toDigits n c hc

theorem length_padded {width n : Nat} (hwidth : 0 < width) (h : n < 10 ^ width) :
    (padded width n).toList.length = width := by
  have hle := (Nat.length_toDigits_le_iff (show 1 < 10 by norm_num) hwidth).2 h
  rw [toList_padded, List.length_append, List.length_replicate]
  omega

theorem valueOf_padded (width n : Nat) :
    Numeral.valueOf (Numeral.digitValues (padded width n).toList) = n := by
  rw [toList_padded, Numeral.digitValues_append, Numeral.valueOf_append,
    Numeral.digitValues_replicate_zero, Numeral.valueOf_replicate_zero, Nat.zero_mul, Nat.zero_add,
    Numeral.valueOf_toDigits]

theorem isDigit_iff (c : Char) : '0' ≤ c ∧ c ≤ '9' ↔ c.isDigit = true := by
  simp [Char.isDigit, Char.le_def]

theorem fixedDigits?_append {s : List Char} (hs : ∀ c ∈ s, c.isDigit = true) (n : Nat)
    (rest : List Char) : fixedDigits? s.length n (s ++ rest) =
      some (n * 10 ^ s.length + Numeral.valueOf (Numeral.digitValues s), rest) := by
  induction s generalizing n with
  | nil => simp [fixedDigits?, Numeral.valueOf, Numeral.digitValues]
  | cons c more ih =>
    have hc := (isDigit_iff c).2 (hs c (List.mem_cons_self ..))
    rw [List.length_cons, List.cons_append, fixedDigits?, if_pos hc,
      ih fun d hd => hs d (List.mem_cons_of_mem _ hd)]
    have hvalue : Numeral.valueOf (Numeral.digitValues (c :: more)) =
        (c.toNat - '0'.toNat) * 10 ^ more.length + Numeral.valueOf (Numeral.digitValues more) := by
      rw [← Numeral.length_digitValues more, ← Numeral.valueOf_cons]
      rfl
    rw [hvalue, pow_succ]
    congr 2
    ring

/-- A number of a fixed width is read from its digits. -/
theorem fixedDigits?_padded {width n : Nat} (hwidth : 0 < width) (h : n < 10 ^ width)
    (rest : List Char) :
    fixedDigits? width 0 ((padded width n).toList ++ rest) = some (n, rest) := by
  have hread := fixedDigits?_append (isDigit_padded width n) 0 rest
  rwa [length_padded hwidth h, valueOf_padded, Nat.zero_mul, Nat.zero_add] at hread

theorem leadingDigits_eq {s : List Char} (hs : ∀ c ∈ s, c.isDigit = true) :
    leadingDigits s = (Numeral.digitValues s, []) := by
  induction s with
  | nil => rfl
  | cons c more ih =>
    have hc := (isDigit_iff c).2 (hs c (List.mem_cons_self ..))
    rw [leadingDigits, if_pos hc, ih fun d hd => hs d (List.mem_cons_of_mem _ hd)]
    rfl

/-! ## Dates and times of day -/

/-- A date is read from its digits. -/
theorem date?_text {d : Date} (valid : d.isValid) (first : 1 ≤ d.year) (last : d.year ≤ 9999)
    (rest : List Char) :
    date? ((padded 4 d.year.toNat).toList ++ '-' :: ((padded 2 d.month).toList ++
      '-' :: ((padded 2 d.day).toList ++ rest))) = some (d, rest) := by
  have hyear : ((d.year.toNat : Nat) : Int) = d.year := by omega
  have hmonth : d.month < 10 ^ 2 ∧ d.day < 10 ^ 2 := by
    simp only [Date.isValid, Bool.and_eq_true, decide_eq_true_eq] at valid
    have hlength : Date.monthLength d.year d.month ≤ 31 := by
      unfold Date.monthLength
      split
      · split <;> decide
      · split <;> decide
    omega
  unfold date?
  rw [fixedDigits?_padded (by norm_num) (by omega : d.year.toNat < 10 ^ 4)]
  simp only [Option.bind_eq_bind, Option.bind_some, mark?, if_true,
    fixedDigits?_padded (by norm_num : 0 < 2) hmonth.1,
    fixedDigits?_padded (by norm_num : 0 < 2) hmonth.2, hyear, valid]

/-- The characters of a fraction of a second. -/
def fractionChars (micros : Nat) : List Char :=
  if micros = 0 then [] else '.' :: (padded 6 micros).toList

theorem fraction?_text {micros : Nat} (h : micros < 1000000) :
    fraction? (fractionChars micros) = some (micros, []) := by
  unfold fractionChars
  split
  · next hzero => rw [hzero]; rfl
  · have hlength := length_padded (by norm_num : 0 < 6) (by norm_num; exact h : micros < 10 ^ 6)
    have hempty : (Numeral.digitValues (padded 6 micros).toList).isEmpty = false := by
      rw [Numeral.digitValues, List.isEmpty_map, List.isEmpty_eq_false_iff, ← List.length_pos_iff]
      omega
    have hmicros : fractionMicros (Numeral.digitValues (padded 6 micros).toList) = micros := by
      rw [fractionMicros, List.take_left' (by rw [Numeral.length_digitValues, hlength]),
        valueOf_padded]
    rw [fraction?]
    simp [leadingDigits_eq (isDigit_padded 6 micros), hempty, hmicros]

/-- A time of day is read from its digits. -/
theorem timeOfDay?_text {seconds micros : Nat} (hseconds : seconds < 86400)
    (hmicros : micros < 1000000) :
    timeOfDay? ((padded 2 (seconds / 3600)).toList ++
      ':' :: ((padded 2 (seconds / 60 % 60)).toList ++
        ':' :: ((padded 2 (seconds % 60)).toList ++ fractionChars micros))) =
      some (seconds * 1000000 + micros, []) := by
  have hhour : seconds / 3600 < 10 ^ 2 := by omega
  have hminute : seconds / 60 % 60 < 10 ^ 2 := by omega
  have hsecond : seconds % 60 < 10 ^ 2 := by omega
  have hparts : (seconds / 3600 * 60 + seconds / 60 % 60) * 60 + seconds % 60 = seconds := by omega
  have hclock : seconds / 3600 < 24 ∧ seconds / 60 % 60 < 60 ∧ seconds % 60 < 60 := by omega
  unfold timeOfDay?
  rw [fixedDigits?_padded (by norm_num) hhour]
  simp only [Option.bind_eq_bind, Option.bind_some, mark?, if_true,
    fixedDigits?_padded (by norm_num : 0 < 2) hminute,
    fixedDigits?_padded (by norm_num : 0 < 2) hsecond, fraction?_text hmicros, hclock, and_self,
    hparts]

/-! ## Readings of a clock -/

/-- A reading of a clock without an offset, in a year from 1 to 9999. -/
structure IsReading (m : Moment) : Prop where
  /-- It has no offset. -/
  naive : m.offset = none
  /-- The year 1 has begun. -/
  first : Date.toDays ⟨1, 1, 1⟩ * perDay ≤ m.micros
  /-- The year 10000 has not. -/
  last : m.micros < Date.toDays ⟨10000, 1, 1⟩ * perDay

/-- The parts of a reading. -/
theorem parts (micros : Int) : ∃ (seconds fraction : Nat),
    seconds < 86400 ∧ fraction < 1000000 ∧
      micros = micros.fdiv perDay * perDay + (seconds * 1000000 + fraction : Nat) ∧
      ((micros - micros.fdiv perDay * perDay) / perSecond).toNat = seconds ∧
      (micros - micros.fdiv perSecond * perSecond).toNat = fraction := by
  have hday : micros.fdiv perDay = micros / 86400000000 :=
    Int.fdiv_eq_ediv_of_nonneg _ (by decide)
  have hsecond : micros.fdiv perSecond = micros / 1000000 :=
    Int.fdiv_eq_ediv_of_nonneg _ (by decide)
  rw [hday, hsecond]
  refine ⟨_, _, ?_, ?_, ?_, rfl, rfl⟩ <;>
  · simp only [perDay, perSecond]
    omega

theorem toList_fractionText (micros : Int) : (fractionText micros).toList =
    fractionChars (micros - micros.fdiv perSecond * perSecond).toNat := by
  unfold fractionText fractionChars
  dsimp only
  split
  · rfl
  · rw [String.toList_append]
    rfl

/-- The characters of a reading: its date, a mark and its time of day. -/
theorem toList_reading (micros : Int) {d : Date} {seconds : Nat}
    (hdate : Date.ofDays (micros.fdiv perDay) = d)
    (hclock : ((micros - micros.fdiv perDay * perDay) / perSecond).toNat = seconds)
    (rest : List Char) :
    (readingText micros).toList ++ rest =
      (padded 4 d.year.toNat).toList ++ '-' :: ((padded 2 d.month).toList ++
        '-' :: ((padded 2 d.day).toList ++ 'T' :: ((padded 2 (seconds / 3600)).toList ++
          ':' :: ((padded 2 (seconds / 60 % 60)).toList ++
            ':' :: ((padded 2 (seconds % 60)).toList ++ rest))))) := by
  simp only [readingText, hdate, hclock, String.toList_append, List.append_assoc,
    show "-".toList = ['-'] from rfl, show "T".toList = ['T'] from rfl,
    show ":".toList = [':'] from rfl, List.cons_append, List.nil_append]

/-- A reading is read from its text. -/
theorem IsReading.ofText? {m : Moment} (h : m.IsReading) : ofText? m.documentText = some m := by
  obtain ⟨seconds, fraction, hseconds, hfraction, hmicros, hclock, hbelow⟩ := parts m.micros
  obtain ⟨micros, offset⟩ := m
  obtain ⟨rfl, first, last⟩ := h
  dsimp only at first last hmicros hclock hbelow
  have hyear : 1 ≤ (Date.ofDays (micros.fdiv perDay)).year ∧
      (Date.ofDays (micros.fdiv perDay)).year ≤ 9999 := by
    have hday : micros.fdiv perDay = micros / perDay := Int.fdiv_eq_ediv_of_nonneg _ (by decide)
    rw [hday]
    exact Date.year_ofDays (Int.le_ediv_of_mul_le (by decide) first)
      (Int.ediv_lt_of_lt_mul (by decide) last)
  have hdate := date?_text (Date.isValid_ofDays (micros.fdiv perDay)) hyear.1 hyear.2
  have htext : (documentText ⟨micros, none⟩).toList =
      (readingText micros).toList ++ fractionChars fraction := by
    rw [documentText, text, Option.map_none, Option.getD_none, String.toList_append,
      String.toList_append, toList_fractionText, hbelow]
    exact List.append_nil _
  have hread : ofDateTime? (documentText ⟨micros, none⟩).toList = some ⟨micros, none⟩ := by
    rw [htext, toList_reading micros rfl hclock, ofDateTime?, hdate]
    simp only [Option.bind_eq_bind, Option.bind_some, true_or, if_true,
      timeOfDay?_text hseconds hfraction, offset?, Date.toDays_ofDays]
    rw [← hmicros]
  rw [Moment.ofText?, hread]

end Moment

/-- A reading of a clock is decoded from its text. -/
theorem Decode.moment_documentText {m : Moment} (h : m.IsReading) :
    Decode.moment (.str m.documentText) = .ok m := by
  have hcalendar : m.isInCalendar := decide_eq_true h.first
  rw [moment, h.ofText?, momentOf]
  exact if_pos hcalendar

end Conduit
