import Conduit.Pipeline.Listing
import Conduit.Proofs.Condition.Eval
import Conduit.Proofs.Condition.Grammar
import Conduit.Proofs.Condition.Token
import Conduit.Proofs.Number.Sign
import Conduit.Proofs.Pipeline.Lines

/-!
# Literals of listings

A value in a listing is text, and whoever runs the listing reads it as an expression: it is cut into
tokens, these are read by the grammar, and the expression is evaluated. `Literal` says for every
value what comes out at each of these stages, and `Literal.Sound` that it does.

* `Listing.literalOf` — the literal of a value;
* `Listing.sound_literalOf` — its stages follow from each other;
* `Listing.meaning?_literal` — what a value in a listing is read as.
-/

namespace Conduit

open Condition
open Condition.Token (Closes Begins Scans cut)
open Json (Spelling)

namespace Listing

/-- What a text of a listing means: it is an expression that uses no names. -/
def meaning? (text : String) : Option Datum := (Expr.parse? text).bind (Expr.eval? ⟨[], false⟩)

/-- A value as it stands in a listing, at all stages of being read. -/
structure Literal where
  /-- The characters. -/
  chars : List Char
  /-- Whether they can be cut into tokens where so many more brackets can be opened. -/
  fits : Nat → Bool
  /-- The tokens. -/
  tokens : List Token
  /-- The expression. -/
  expr : Expr
  /-- What the expression stands for, unless it fails. -/
  datum : Option Datum

namespace Literal

/-! ## The kinds of literals -/

/-- A literal of one token. -/
def single (chars : List Char) (fits : Bool) (t : Token) (e : Expr) (d? : Option Datum) : Literal :=
  ⟨chars, fun _ => fits, [t], e, d?⟩

/-- A word of the language. -/
def word (s : String) (d : Datum) : Literal := single s.toList true (.word s) (.literal d) (some d)

/-- A name, which stands for nothing. -/
def name (s : String) : Literal := single s.toList true (.name s) (.name s) none

/-- The digits of an integer. -/
def integer (n : Nat) : Literal :=
  single (Nat.toDigits 10 n) (Numeral.isShort n) (.int n) (.literal (.int n)) (some (.int n))

/-- A double as it is spelled. -/
def double (p : Spelling) : Literal :=
  single (p.whole ++ (p.point ++ p.markIn .json)) true (.float (Token.double p))
    (.literal (.float (Token.double p))) (some (.float (Token.double p)))

/-- What the characters of a text are read as. -/
def rereadText (s : String) : List Char := s.toList.flatMap Token.reread

/-- A text between quotes. -/
def text (s : String) : Literal :=
  single (Json.quoted true s).toList true (.text (rereadText s)) (.literal (.str (rereadText s)))
    (some (.str (rereadText s)))

/-- What cannot be written down. -/
def nothing : Literal := single ['$'] false (.name "$") (.name "$") none

/-- A literal with a minus before it. -/
def minus (l : Literal) : Literal where
  chars := '-' :: l.chars
  fits := l.fits
  tokens := .sign "-" :: l.tokens
  expr := .unary .minus l.expr
  datum := l.datum.bind (Datum.unary? .minus)

/-- A literal with its sign. -/
def signed (negative : Bool) (l : Literal) : Literal := if negative then l.minus else l

/-- Literals in a list. -/
def list (items : List Literal) : Literal where
  chars := '[' :: ([',', ' '].intercalate (items.map chars) ++ [']'])
  fits := fun room => decide (0 < room) && items.all fun l => l.fits (room - 1)
  tokens := .sign "[" :: ([Token.sign ","].intercalate (items.map tokens) ++ [.sign "]"])
  expr := .list (items.map expr)
  datum := (items.mapM datum).map .list

/-- The characters of a member. -/
def memberChars (m : String × Literal) : List Char :=
  (Json.quoted true m.1).toList ++ ([':', ' '] ++ m.2.chars)

/-- Literals in a table. -/
def table (members : List (String × Literal)) : Literal where
  chars := '\x7b' :: ([',', ' '].intercalate (members.map memberChars) ++ ['\x7d'])
  fits := fun room => decide (0 < room) && members.all fun m => m.2.fits (room - 1)
  tokens := .sign "\x7b" ::
    ([Token.sign ","].intercalate
      (members.map fun m => Expr.entryTokens (rereadText m.1) m.2.tokens) ++ [.sign "\x7d"])
  expr := .dict (members.map fun m => (.literal (.str (rereadText m.1)), m.2.expr))
  datum := (Expr.entriesOf (fun m => rereadText m.1) (fun m => m.2.datum) members).map fun entries =>
    .dict (Datum.writeAll [] entries)

/-! ## Soundness -/

/-- Each stage of a literal is what the one before it is read as. -/
structure Sound (l : Literal) : Prop where
  /-- The characters begin a token. -/
  begins : ∃ c s, l.chars = c :: s ∧ Begins c
  /-- The characters are cut into the tokens. -/
  scans : ∀ {opened : Nat} {rest : List Char}, opened ≤ Token.depthLimit → Closes rest →
    Scans opened l.chars rest (cut (l.fits (Token.depthLimit - opened)) opened l.tokens)
  /-- The tokens form the expression. -/
  parses : Expr.Parses l.tokens l.expr
  /-- The expression stands for the datum. -/
  evaluates : l.expr.Evaluates l.datum
  /-- The expression goes little deeper than the brackets. -/
  shallow : ∀ {room : Nat}, l.fits room = true → l.expr.depth ≤ room + 2

/-- A token that is an operand is no bracket, and its expression has no parts. -/
theorem depth_ofToken? {t : Token} {e : Expr} (h : Expr.ofToken? t = some e) (opened : Nat) :
    Token.depthAfter opened t = some opened ∧ e.depth = 1 := by
  unfold Expr.ofToken? at h
  split at h <;> cases h <;> exact ⟨by simp [Token.depthAfter], by simp [Expr.depth]⟩

/-- One token that is an operand makes a literal. -/
theorem sound_single {chars : List Char} {fits : Bool} {t : Token} {e : Expr} {d? : Option Datum}
    (begins : ∃ c s, chars = c :: s ∧ Begins c)
    (first : ∀ {rest}, Closes rest →
      Token.first (chars ++ rest) = if fits then some (t, rest) else none)
    (operand : Expr.ofToken? t = some e) (evaluates : e.Evaluates d?) :
    (single chars fits t e d?).Sound where
  begins := begins
  scans {opened rest} _ closes := by
    obtain ⟨c, s, rfl, hc⟩ := begins
    have hfirst : Token.first (c :: (s ++ rest)) =
        (if fits then some t else none).map fun t => (t, rest) := by
      rw [← List.cons_append, first closes]
      cases fits <;> rfl
    have hscans : Scans opened (c :: s) rest _ := Scans.lexeme hc hfirst
    cases fits with
    | false => exact hscans
    | true =>
      rw [if_pos rfl, Option.bind_some, (depth_ofToken? operand opened).1] at hscans
      exact hscans
  parses := (Expr.isAtom_token operand).parses
  evaluates := evaluates
  shallow {room} _ := by
    have hdepth := (depth_ofToken? operand 0).2
    change e.depth ≤ room + 2
    omega

/-- Whether some characters are a run of characters of words that begins with no digit. -/
def isRun : List Char → Bool
  | [] => false
  | c :: s => decide (Begins c) && !Token.isPlainDigit c && (c :: s).all Token.continuesWord

/-- A run of letters that is a token by itself makes a literal. -/
theorem sound_run {s : String} {t : Token} {e : Expr} {d? : Option Datum}
    (run : isRun s.toList = true) (ht : Token.wordOrName? s.toList = some t)
    (operand : Expr.ofToken? t = some e) (evaluates : e.Evaluates d?) :
    (single s.toList true t e d?).Sound := by
  cases hs : s.toList with
  | nil =>
    rw [hs] at run
    cases run
  | cons c more =>
    rw [hs] at run ht
    simp only [isRun, Bool.and_eq_true, decide_eq_true_eq, Bool.not_eq_true', List.all_eq_true]
      at run
    refine sound_single ⟨c, more, rfl, run.1.1⟩ (fun closes => ?_) operand evaluates
    rw [List.cons_append, Token.first_word run.1.2 run.2 closes, ht]
    rfl

theorem sound_null : (word "None" .null).Sound :=
  sound_run (by decide) (by decide) rfl (Expr.evaluates_literal _)

theorem sound_true : (word "True" (.bool true)).Sound :=
  sound_run (by decide) (by decide) rfl (Expr.evaluates_literal _)

theorem sound_false : (word "False" (.bool false)).Sound :=
  sound_run (by decide) (by decide) rfl (Expr.evaluates_literal _)

theorem sound_nan : (name "NaN").Sound :=
  sound_run (by decide) (by decide) rfl (Expr.evaluates_name (by rfl))

theorem sound_infinity : (name "Infinity").Sound :=
  sound_run (by decide) (by decide) rfl (Expr.evaluates_name (by rfl))

theorem begins_of_isDigit {c : Char} (h : c.isDigit = true) : Begins c := by
  refine ⟨?_, ?_, ?_, ?_⟩
  · rintro (rfl | rfl | rfl) <;> cases h
  all_goals
    rintro rfl
    cases h

theorem begins_whole {p : Spelling} (sound : p.Sound) (t : List Char) :
    ∃ c s, p.whole ++ t = c :: s ∧ Begins c := by
  obtain ⟨c, s, hwhole⟩ := List.exists_cons_of_ne_nil sound.nonempty
  exact ⟨c, s ++ t, by rw [hwhole, List.cons_append],
    begins_of_isDigit (sound.whole c (hwhole ▸ List.mem_cons_self))⟩

/-- The digits of an integer are read as the integer, unless they are too many. -/
theorem sound_integer (n : Nat) : (integer n).Sound := by
  have sound := Spelling.sound_ofNat n
  have hbegins := begins_whole sound []
  rw [List.append_nil] at hbegins
  refine sound_single hbegins (fun {rest} closes => ?_) rfl (Expr.evaluates_literal _)
  have hfirst := Token.first_spelling sound closes
  simp only [Spelling.ofNat, Spelling.point, Spelling.markIn, if_true, List.nil_append,
    Numeral.valueOf_toDigits, ne_eq, not_true_eq_false, Option.isSome_none, Bool.false_eq_true,
    or_self, if_false] at hfirst
  rw [hfirst, Numeral.isShort]
  by_cases hlong : Numeral.digitLimit < (Nat.toDigits 10 n).length
  · rw [if_pos hlong, if_neg (by simpa using hlong)]
  · rw [if_neg hlong, if_pos (by simpa using hlong)]

/-- A double is read as it is spelled. -/
theorem sound_double {p : Spelling} (sound : p.Sound) (double : p.fraction ≠ [] ∨ p.power.isSome) :
    (Literal.double p).Sound := by
  refine sound_single (begins_whole sound _) (fun {rest} closes => ?_) rfl (Expr.evaluates_literal _)
  rw [List.append_assoc, List.append_assoc, Token.first_spelling sound closes, if_pos double]
  rfl

theorem sound_text (s : String) : (text s).Sound :=
  sound_single ⟨'"', _, String.toList_ofList, by decide⟩ (fun closes => Token.first_quoted s closes)
    rfl (Expr.evaluates_literal _)

theorem sound_nothing : nothing.Sound :=
  sound_single ⟨'$', [], rfl, by decide⟩ (fun {rest} _ => by
    simp [Token.first, Token.isPlainDigit, Token.continuesWord, Token.beginsText, Token.sign?,
      Token.signs, Text.startsWith]) rfl (Expr.evaluates_name (by rfl))

/-- A minus before a literal that is an operand. -/
theorem Sound.minus {l : Literal} (h : l.Sound) (operand : Expr.IsAtom l.tokens l.expr)
    (flat : l.expr.depth ≤ 1)
    (evaluates : Expr.Evaluates (.unary .minus l.expr) (l.datum.bind (Datum.unary? .minus))) :
    l.minus.Sound where
  begins := ⟨'-', l.chars, rfl, by decide⟩
  scans {opened rest} room closes := by
    have hminus : Scans opened ['-'] (l.chars ++ rest) (cut true opened [.sign "-"]) :=
      Scans.sign (by decide)
    exact hminus.append fun _ => h.scans room closes
  parses := operand.minus
  evaluates := evaluates
  shallow {room} _ := by
    change l.expr.depth + 1 ≤ room + 2
    omega

/-- A number or a name with its sign. -/
theorem sound_signed (negative : Bool) {chars : List Char} {fits : Bool} {t : Token} {e : Expr}
    {d? : Option Datum} (h : (single chars fits t e d?).Sound) (operand : Expr.ofToken? t = some e)
    (evaluates : negative = true →
      Expr.Evaluates (.unary .minus e) (d?.bind (Datum.unary? .minus))) :
    ((single chars fits t e d?).signed negative).Sound := by
  cases negative with
  | false => exact h
  | true =>
    exact h.minus (Expr.isAtom_token operand) (depth_ofToken? operand 0).2.le (evaluates rfl)

theorem depths_le {es : List Expr} {n : Nat} (h : ∀ e ∈ es, e.depth ≤ n) : Expr.depths es ≤ n := by
  induction es with
  | nil => exact Nat.zero_le n
  | cons e es ih =>
    rw [List.forall_mem_cons] at h
    exact Nat.max_le.2 ⟨h.1, ih h.2⟩

theorem entryDepths_le {es : List (Expr × Expr)} {n : Nat}
    (h : ∀ e ∈ es, e.1.depth ≤ n ∧ e.2.depth ≤ n) : Expr.entryDepths es ≤ n := by
  induction es with
  | nil => exact Nat.zero_le n
  | cons e es ih =>
    rw [List.forall_mem_cons] at h
    exact Nat.max_le.2 ⟨Nat.max_le.2 h.1, ih h.2⟩

/-- One more bracket leaves room for one less. -/
theorem decide_room (opened : Nat) :
    decide (0 < Token.depthLimit - opened) = decide (opened < Token.depthLimit) :=
  decide_eq_decide.2 Nat.sub_pos_iff_lt

/-- Sound literals make a sound list. -/
theorem sound_list {items : List Literal} (h : ∀ l ∈ items, l.Sound) : (list items).Sound where
  begins := ⟨'[', _, rfl, by decide⟩
  scans {opened rest} _ _ := by
    have hitems (room : opened < Token.depthLimit) :
        Scans (opened + 1) ([',', ' '].intercalate (items.map chars)) ([']'] ++ rest)
          (cut (items.all fun l => l.fits (Token.depthLimit - (opened + 1))) (opened + 1)
            ([Token.sign ","].intercalate (items.map tokens))) :=
      Scans.intercalate (fun l hl _ closes => (h l hl).scans room closes) (by simp [Closes])
    have hwhole := Scans.bracketed (.inl ⟨rfl, rfl⟩) hitems
    rw [← decide_room] at hwhole
    exact hwhole
  parses := (Expr.isAtom_list fun l hl => (h l hl).parses).parses
  evaluates := Expr.evaluates_list fun l hl => (h l hl).evaluates
  shallow {room} hfits := by
    have hfits : (decide (0 < room) && items.all fun l => l.fits (room - 1)) = true := hfits
    rw [Bool.and_eq_true, decide_eq_true_eq, List.all_eq_true] at hfits
    have hitems : Expr.depths (items.map expr) ≤ room + 1 := by
      refine depths_le fun e he => ?_
      obtain ⟨l, hl, rfl⟩ := List.mem_map.1 he
      exact ((h l hl).shallow (hfits.2 l hl)).trans (by omega)
    change Expr.depths (items.map expr) + 1 ≤ room + 2
    omega

/-- A member is cut into its key, a colon and what its literal is cut into. -/
theorem scans_memberChars {m : String × Literal} (h : m.2.Sound) {opened : Nat} {rest : List Char}
    (room : opened ≤ Token.depthLimit) (closes : Closes rest) :
    Scans opened (memberChars m) rest (cut (m.2.fits (Token.depthLimit - opened)) opened
      (Expr.entryTokens (rereadText m.1) m.2.tokens)) := by
  have hbehind : Closes (([':', ' '] ++ m.2.chars) ++ rest) := by simp [Closes]
  have hkey := (sound_text m.1).scans room hbehind
  simp only [text, single] at hkey
  have hcolon : Scans opened [':', ' '] (m.2.chars ++ rest) (cut true opened [.sign ":"]) :=
    Scans.separator (.inr rfl)
  have hvalue := hcolon.append fun _ => h.scans room closes
  exact hkey.append fun _ => hvalue

theorem evaluates_table {members : List (String × Literal)} (h : ∀ m ∈ members, m.2.Sound) :
    (table members).expr.Evaluates (table members).datum := by
  have hvalues : ∀ m ∈ members,
      Expr.Evaluates ((fun m : String × Literal => m.2.expr) m) ((fun m => m.2.datum) m) :=
    fun m hm => (h m hm).evaluates
  have hdict := Expr.evaluates_dict (fun m => rereadText m.1) hvalues
  simp only [table]
  exact hdict

/-- Sound literals make a sound table. -/
theorem sound_table {members : List (String × Literal)} (h : ∀ m ∈ members, m.2.Sound) :
    (table members).Sound where
  begins := ⟨'\x7b', _, rfl, by decide⟩
  scans {opened rest} _ _ := by
    have hmembers (room : opened < Token.depthLimit) :
        Scans (opened + 1) ([',', ' '].intercalate (members.map memberChars)) (['\x7d'] ++ rest)
          (cut (members.all fun m => m.2.fits (Token.depthLimit - (opened + 1))) (opened + 1)
            ([Token.sign ","].intercalate
              (members.map fun m => Expr.entryTokens (rereadText m.1) m.2.tokens))) :=
      Scans.intercalate (fun m hm _ closes => scans_memberChars (h m hm) room closes)
        (by simp [Closes])
    have hwhole := Scans.bracketed (.inr ⟨rfl, rfl⟩) hmembers
    rw [← decide_room] at hwhole
    exact hwhole
  parses := (Expr.isAtom_dict (fun m hm => (h m hm).parses) fun m => rereadText m.1).parses
  evaluates := evaluates_table h
  shallow {room} hfits := by
    have hfits : (decide (0 < room) && members.all fun m => m.2.fits (room - 1)) = true := hfits
    rw [Bool.and_eq_true, decide_eq_true_eq, List.all_eq_true] at hfits
    have hentries : Expr.entryDepths
        (members.map fun m => (.literal (.str (rereadText m.1)), m.2.expr)) ≤ room + 1 := by
      refine entryDepths_le fun e he => ?_
      obtain ⟨m, hm, rfl⟩ := List.mem_map.1 he
      exact ⟨by simp [Expr.depth], ((h m hm).shallow (hfits.2 m hm)).trans (by omega)⟩
    change Expr.entryDepths _ + 1 ≤ room + 2
    omega

end Literal

/-! ## The literal of a value -/

/-- How a finite double is spelled. -/
def spellingOf (x : Double) : Spelling :=
  if x.mantissa = 0 then ⟨['0'], ['0'], none⟩ else Json.spellingIn .json x.shortest

/-- The literal of a double. -/
def literalOfDouble (x : Double) : Literal :=
  if x.isNaN then .name "NaN"
  else if x.isInfinite then .signed x.isNegative (.name "Infinity")
  else .signed x.isNegative (.double (spellingOf x))

mutual

/-- The literal of a value. -/
def literalOf : Value → Literal
  | .null => .word "None" .null
  | .bool true => .word "True" (.bool true)
  | .bool false => .word "False" (.bool false)
  | .int n => .signed (decide (n < 0)) (.integer n.natAbs)
  | .float x => literalOfDouble x
  | .str s => .text s
  | .list items => .list (literalsOf items)
  | .object members => .table (Json.sortNamed (literalMembers members))
  | .opaqueHandle => .nothing

/-- The literals of the items of a list. -/
def literalsOf : List Value → List Literal
  | [] => []
  | v :: rest => literalOf v :: literalsOf rest

/-- The literals of the members of an object under their names. -/
def literalMembers : List (String × Value) → List (String × Literal)
  | [] => []
  | (key, v) :: rest => (key, literalOf v) :: literalMembers rest

end

theorem literalsOf_eq (items : List Value) : literalsOf items = items.map literalOf := by
  induction items with
  | nil => rfl
  | cons v rest ih => rw [literalsOf, ih, List.map_cons]

theorem literalMembers_eq (members : Members) :
    literalMembers members = members.map fun m => (m.1, literalOf m.2) := by
  induction members with
  | nil => rfl
  | cons m rest ih => rw [literalMembers, ih, List.map_cons]

theorem mem_sortNamed_literalMembers {members : Members} {m : String × Literal} :
    m ∈ Json.sortNamed (literalMembers members) ↔
      ∃ w ∈ members, m = (w.1, literalOf w.2) := by
  rw [(Json.sortNamed_perm _).mem_iff, literalMembers_eq, List.mem_map]
  exact exists_congr fun w => and_congr_right fun _ => eq_comm

theorem sound_spellingOf (x : Double) :
    (spellingOf x).Sound ∧ ((spellingOf x).fraction ≠ [] ∨ (spellingOf x).power.isSome) := by
  unfold spellingOf
  split
  · exact ⟨⟨by simp, fun _ => rfl, by simp [Char.isDigit], by simp [Char.isDigit]⟩, .inl (by simp)⟩
  · next nonzero => exact Json.sound_spellingIn .json (Json.digits_shortest nonzero)

/-- A finite double is what its spelling stands for, with its sign. -/
theorem signed_spellingOf {x : Double} (finite : x.isFinite = true) :
    Double.signed x.isNegative (Token.double (spellingOf x)) = x := by
  rw [Token.double, Double.signed_decimal]
  unfold spellingOf
  split
  · next zero => exact Json.signedZero_isNegative finite zero
  · next nonzero => exact Json.decimal_spellingIn (by decide) finite nonzero

theorem isFinite_of_number {x : Double} (number : x.isNaN = false) (bounded : x.isInfinite = false) :
    x.isFinite = true := by
  rw [Double.isNaN, decide_eq_false_iff_not] at number
  rw [Double.isInfinite, beq_eq_false_iff_ne] at bounded
  exact decide_eq_true (by omega)

/-- The literal of a double is read as the double if that is finite. -/
theorem sound_literalOfDouble (x : Double) : (literalOfDouble x).Sound := by
  unfold literalOfDouble
  cases hnan : x.isNaN with
  | true => exact Literal.sound_nan
  | false =>
    cases hinfinite : x.isInfinite with
    | true =>
      exact Literal.sound_signed _ Literal.sound_infinity rfl fun _ =>
        Expr.evaluates_unary_none .minus (Expr.evaluates_name (by rfl))
    | false =>
      obtain ⟨sound, double⟩ := sound_spellingOf x
      have hsigned := signed_spellingOf (isFinite_of_number hnan hinfinite)
      refine Literal.sound_signed _ (Literal.sound_double sound double) rfl fun hnegative => ?_
      rw [hnegative] at hsigned
      have hneg : (Token.double (spellingOf x)).neg = x := hsigned
      exact Expr.evaluates_minus_float (Expr.evaluates_literal _) (by rw [hneg, hnan])

/-- The stages of the literal of a value follow from each other. -/
theorem sound_literalOf (v : Value) : (literalOf v).Sound := by
  induction v using Value.induction with
  | null => exact Literal.sound_null
  | bool b => cases b <;> [exact Literal.sound_false; exact Literal.sound_true]
  | int n =>
    exact Literal.sound_signed _ (Literal.sound_integer _) rfl fun _ =>
      Expr.evaluates_minus_int (Expr.evaluates_literal _)
  | float x => exact sound_literalOfDouble x
  | str s => exact Literal.sound_text s
  | list items ih =>
    refine Literal.sound_list fun l hl => ?_
    rw [literalsOf_eq] at hl
    obtain ⟨v, hv, rfl⟩ := List.mem_map.1 hl
    exact ih v hv
  | object members ih =>
    refine Literal.sound_table fun m hm => ?_
    obtain ⟨w, hw, rfl⟩ := mem_sortNamed_literalMembers.1 hm
    exact ih w hw
  | handle => exact Literal.sound_nothing

/-! ## The line of a value -/

theorem chars_signed (negative : Bool) (l : Literal) :
    (l.signed negative).chars = (if negative then ['-'] else []) ++ l.chars := by
  cases negative <;> rfl

theorem toList_double (x : Double) :
    (NumberStyle.json.text x).toList = (literalOfDouble x).chars := by
  unfold literalOfDouble
  cases hnan : x.isNaN with
  | true =>
    rw [NumberStyle.text, if_pos hnan, if_pos rfl]
    rfl
  | false =>
    cases hinfinite : x.isInfinite with
    | true =>
      rw [NumberStyle.text, hnan, hinfinite, if_neg Bool.false_ne_true, if_pos rfl,
        if_neg Bool.false_ne_true, if_pos rfl]
      cases x.isNegative <;> rfl
    | false =>
      rw [Json.toList_floatIn _ (isFinite_of_number hnan hinfinite), if_neg Bool.false_ne_true,
        if_neg Bool.false_ne_true, chars_signed]
      refine congrArg _ ?_
      unfold spellingOf
      split
      · rfl
      · exact Json.toList_decimalTextIn .json _

theorem toList_lineItems {items : List Value}
    (h : ∀ v ∈ items, ∀ {text}, Json.lineWith? words v = some text →
      text.toList = (literalOf v).chars)
    {texts : List String} (htexts : Json.lineItems? words items = some texts) :
    texts.map String.toList = (literalsOf items).map Literal.chars := by
  rw [Json.lineItems?_eq, Json.mapM_eq_some_iff] at htexts
  rw [literalsOf_eq, List.map_map, eq_comm]
  induction htexts with
  | nil => rfl
  | cons first _ ih =>
    rw [List.forall_mem_cons] at h
    rw [List.map_cons, List.map_cons, h.1 first, ih h.2]
    rfl

theorem toList_lineMembers {members : Members}
    (h : ∀ m ∈ members, ∀ {text}, Json.lineWith? words m.2 = some text →
      text.toList = (literalOf m.2).chars)
    {texts : List (String × String)} (htexts : Json.lineMembers? words members = some texts) :
    texts.map (fun m => (m.1, m.2.toList)) =
      (literalMembers members).map fun m => (m.1, m.2.chars) := by
  rw [Json.lineMembers?_eq, Json.mapM_eq_some_iff] at htexts
  rw [literalMembers_eq, List.map_map, eq_comm]
  induction htexts with
  | nil => rfl
  | cons first _ ih =>
    rw [List.forall_mem_cons] at h
    obtain ⟨text, htext, rfl⟩ := Option.map_eq_some_iff.1 first
    rw [List.map_cons, List.map_cons, h.1 htext, ih h.2]
    rfl

/-- The characters of the members in the order of their names. -/
theorem toList_sortNamed {members : Members} {texts : List (String × String)}
    (h : texts.map (fun m => (m.1, m.2.toList)) =
      (literalMembers members).map fun m => (m.1, m.2.chars)) :
    ((Json.sortNamed texts).map fun m => Json.quoted true m.1 ++ ": " ++ m.2).map String.toList =
      (Json.sortNamed (literalMembers members)).map Literal.memberChars := by
  have hsorted : (Json.sortNamed texts).map (fun m => (m.1, m.2.toList)) =
      (Json.sortNamed (literalMembers members)).map fun m => (m.1, m.2.chars) := by
    rw [← Json.sortNamed_map, h, Json.sortNamed_map]
  have hcolon : ": ".toList = [':', ' '] := rfl
  have hmap := congrArg (List.map fun m : String × List Char =>
    (Json.quoted true m.1).toList ++ ([':', ' '] ++ m.2)) hsorted
  rw [List.map_map, List.map_map] at hmap
  rw [List.map_map]
  refine Eq.trans (List.map_congr_left fun m _ => ?_) hmap
  simp only [Function.comp_apply, String.toList_append, hcolon, List.append_assoc]

/-- The line of a value has the characters of its literal. -/
theorem toList_lineWith (v : Value) : ∀ {text : String}, Json.lineWith? words v = some text →
    text.toList = (literalOf v).chars := by
  have hcomma : ", ".toList = [',', ' '] := rfl
  induction v using Value.induction with
  | null =>
    rintro _ ⟨⟩
    rfl
  | bool b =>
    rintro _ ⟨⟩
    cases b <;> rfl
  | int n =>
    intro text h
    obtain ⟨-, rfl⟩ := Json.lineWith?_int_eq_some h
    rw [Json.toList_int, literalOf, chars_signed]
    rfl
  | float x =>
    rintro _ ⟨⟩
    exact toList_double x
  | str s =>
    rintro _ ⟨⟩
    rfl
  | list items ih =>
    intro text h
    rw [Json.lineWith?, Option.map_eq_some_iff] at h
    obtain ⟨texts, htexts, rfl⟩ := h
    rw [String.toList_append, String.toList_append, String.toList_intercalate,
      toList_lineItems ih htexts, hcomma]
    rfl
  | object members ih =>
    intro text h
    rw [Json.lineWith?, Option.map_eq_some_iff] at h
    obtain ⟨texts, htexts, rfl⟩ := h
    rw [String.toList_append, String.toList_append, String.toList_intercalate,
      toList_sortNamed (toList_lineMembers ih htexts), hcomma]
    rfl
  | handle => rintro _ ⟨⟩

/-! ## Meaning -/

/-- The text of a sound literal is read as its datum if it can be cut into tokens. -/
theorem Literal.Sound.meaning? {l : Literal} (h : l.Sound) (plain : ∀ c ∈ l.chars, IsPlain c) :
    Listing.meaning? (String.ofList l.chars) =
      if l.fits Token.depthLimit then l.datum else none := by
  obtain ⟨c, s, hchars, begins⟩ := h.begins
  have hscan : Token.scan (String.ofList l.chars) =
      if l.fits Token.depthLimit then some l.tokens else none := by
    have hscans := h.scans (Nat.zero_le Token.depthLimit) (show Closes [] from fun _ hc => nomatch hc)
    rw [hchars] at plain hscans ⊢
    exact Token.scan_ofList begins plain hscans
  rw [Listing.meaning?, Expr.parse?, hscan]
  by_cases hfits : l.fits Token.depthLimit = true
  · have hdepth : l.expr.depth ≤ Expr.depthLimit := (h.shallow hfits).trans (by decide)
    rw [if_pos hfits, if_pos hfits, Option.bind_eq_bind, Option.bind_some, h.parses.ofTokens?,
      Option.bind_eq_bind, Option.bind_some, if_pos hdepth]
    exact h.evaluates.eval?
  · rw [if_neg hfits, if_neg hfits]
    rfl

/-- What a value in a listing is read as. -/
theorem meaning?_literal {v : Value} (written : (Json.lineWith? words v).isSome) :
    meaning? (literal v) =
      if (literalOf v).fits Token.depthLimit then (literalOf v).datum else none := by
  obtain ⟨text, htext⟩ := Option.isSome_iff_exists.1 written
  have hchars := toList_lineWith v htext
  have hplain := Json.plain_lineWith plain_words v htext
  have hliteral : literal v = String.ofList (literalOf v).chars := by
    rw [literal_eq, htext, Option.getD_some, ← hchars, String.ofList_toList]
  rw [hliteral]
  exact (sound_literalOf v).meaning? fun c hc => hplain c (hchars ▸ hc)

/-- A value that has no line is not in a listing. -/
theorem meaning?_unwritten {v : Value} (unwritten : Json.lineWith? words v = none) :
    meaning? (literal v) = none := by
  rw [literal_eq, unwritten]
  rfl

end Listing

end Conduit
