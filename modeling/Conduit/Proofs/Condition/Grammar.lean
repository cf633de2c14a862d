import Conduit.Condition.Grammar

/-!
# Reading tokens as expressions

An operand that no operator follows is read through all levels of the grammar. So lists and tables
of operands are operands, and whatever is made up of them is read as the expression that it is.

* `Expr.Stops` — what may follow an operand without being an operator;
* `Expr.Parses` — tokens that are read as an expression, given one fuel for a token and more.
-/

namespace Conduit.Condition.Expr

/-- The signs before which an expression ends. -/
def stopSigns : List String := [",", ":", "]", "\x7d"]

/-- Tokens before which an expression ends. -/
def Stops (rest : List Token) : Prop := ∀ t ∈ rest.head?, ∃ s ∈ stopSigns, t = .sign s

theorem Stops.eq_nil_or {rest : List Token} (stops : Stops rest) :
    rest = [] ∨ ∃ s ∈ stopSigns, ∃ more, rest = .sign s :: more := by
  cases rest with
  | nil => exact .inl rfl
  | cons t more =>
    obtain ⟨s, hs, rfl⟩ := stops t rfl
    exact .inr ⟨s, hs, more, rfl⟩

/-- A token that begins an operand, not a negation or the end of a list. -/
def Leads (t : Token) : Prop :=
  t ≠ .word "not" ∧ t ≠ .sign ")" ∧ t ≠ .sign "]" ∧ t ≠ .sign "\x7d"

instance : DecidablePred Leads := fun _ => inferInstanceAs (Decidable (_ ∧ _))

/-! ## Through the levels -/

section Levels

variable {fuel : Nat} {ts rest : List Token} {e : Expr}

theorem trailers_stops (stops : Stops rest) : trailers (fuel + 1) e rest = some (e, rest) := by
  rcases stops.eq_nil_or with rfl | ⟨s, hs, more, rfl⟩
  · rfl
  · have hmarks : s ≠ "." ∧ s ≠ "(" ∧ s ≠ "[" := by
      have h : ∀ s ∈ stopSigns, s ≠ "." ∧ s ≠ "(" ∧ s ≠ "[" := by decide
      exact h s hs
    rw [trailers] <;> simp [hmarks]

theorem comparison?_stops (stops : Stops rest) : comparison? rest = none := by
  rcases stops.eq_nil_or with rfl | ⟨s, hs, more, rfl⟩
  · rfl
  · have h : ∀ s ∈ stopSigns, comparison? (.sign s :: more) = none := by
      simp [stopSigns, comparison?]
    exact h s hs

theorem operands_stops {level : List (String × BinaryOp)}
    (h : ∀ s ∈ stopSigns, level.lookup s = none) (stronger : List (List (String × BinaryOp)))
    (stops : Stops rest) :
    operands (fuel + 1) level stronger e rest = some (e, rest) := by
  rcases stops.eq_nil_or with rfl | ⟨s, hs, more, rfl⟩
  · rfl
  · rw [operands, h s hs]

/-- No operator of any level ends an expression. -/
theorem lookup_stopSigns : ∀ level ∈ levels, ∀ s ∈ stopSigns, level.lookup s = none := by
  decide

/-- An operand is read through all levels of operators. -/
theorem operation_signed (h : signed fuel ts = some (e, rest)) (stops : Stops rest)
    {ls : List (List (String × BinaryOp))} (hls : ∀ level ∈ ls, level ∈ levels) :
    operation (fuel + ls.length + 1) ls ts = some (e, rest) := by
  induction ls with
  | nil => rw [List.length_nil, Nat.add_zero, operation, h]
  | cons level stronger ih =>
    rw [List.forall_mem_cons] at hls
    rw [List.length_cons, ← Nat.add_assoc, operation, ih hls.2]
    exact operands_stops (lookup_stopSigns level hls.1) stronger stops

/-- An operand that no operator follows is an expression. -/
theorem expression_signed (h : signed fuel ts = some (e, rest)) (leads : ∀ t ∈ ts.head?, Leads t)
    (stops : Stops rest) : expression (fuel + 11) ts = some (e, rest) := by
  have hoperation : operation (fuel + 7) levels ts = some (e, rest) :=
    operation_signed h stops fun _ => id
  have hword : ∀ s more, rest ≠ .word s :: more := by
    rintro s more rfl
    obtain ⟨s, -, h⟩ := stops (.word s) rfl
    cases h
  have hinversion : inversion (fuel + 8) ts = some (e, rest) := by
    unfold inversion
    split
    · exact absurd rfl (leads _ rfl).1
    · simp [hoperation, comparisons, comparison?_stops stops]
  have hconjunction : conjunction (fuel + 9) ts = some (e, rest) := by
    unfold conjunction
    rw [hinversion, Option.bind_eq_bind, Option.bind_some]
    dsimp only
    split
    · exact absurd rfl (hword _ _)
    · rfl
  have hdisjunction : disjunction (fuel + 10) ts = some (e, rest) := by
    unfold disjunction
    rw [hconjunction, Option.bind_eq_bind, Option.bind_some]
    dsimp only
    split
    · exact absurd rfl (hword _ _)
    · rfl
  unfold expression
  rw [hdisjunction, Option.bind_eq_bind, Option.bind_some]
  dsimp only
  split
  · exact absurd rfl (hword _ _)
  · rfl

/-- An operand without signs before it. -/
theorem signed_atom (h : atom (fuel + 1) ts = some (e, rest))
    (plain : ∀ t ∈ ts.head?, t ≠ .sign "+" ∧ t ≠ .sign "-" ∧ t ≠ .sign "~") (stops : Stops rest) :
    signed (fuel + 2) ts = some (e, rest) := by
  have hpower : ∀ more, rest ≠ .sign "**" :: more := by
    rintro more rfl
    obtain ⟨s, hs, h⟩ := stops (.sign "**") rfl
    cases h
    exact absurd hs (by decide)
  unfold signed
  split
  · exact absurd rfl (plain _ rfl).1
  · exact absurd rfl (plain _ rfl).2.1
  · exact absurd rfl (plain _ rfl).2.2
  · simp only [h, trailers_stops stops, Option.bind_eq_bind, Option.bind_some]
    rfl

end Levels

/-! ## Operands -/

/-- Tokens that are an operand by themselves, read with some fuel for every token. -/
structure IsAtom (ts : List Token) (e : Expr) : Prop where
  /-- They begin an operand, and with no sign. -/
  leads : ∃ t more, ts = t :: more ∧ Leads t ∧ t ≠ .sign "+" ∧ t ≠ .sign "-" ∧ t ≠ .sign "~"
  /-- They are read as the expression. -/
  atom : ∀ {fuel : Nat} {rest : List Token}, 16 * ts.length ≤ fuel + 15 → Stops rest →
    Expr.atom (fuel + 1) (ts ++ rest) = some (e, rest)

/-- Tokens that are an expression before anything that ends one. -/
structure Parses (ts : List Token) (e : Expr) : Prop where
  /-- They begin an operand. -/
  leads : ∃ t more, ts = t :: more ∧ Leads t
  /-- They are read as the expression. -/
  expression : ∀ {fuel : Nat} {rest : List Token}, 16 * ts.length ≤ fuel → Stops rest →
    Expr.expression fuel (ts ++ rest) = some (e, rest)

theorem IsAtom.signed {ts : List Token} {e : Expr} (h : IsAtom ts e) {fuel : Nat}
    {rest : List Token} (enough : 16 * ts.length ≤ fuel + 15) (stops : Stops rest) :
    Expr.signed (fuel + 2) (ts ++ rest) = some (e, rest) := by
  have hatom := h.atom enough stops
  obtain ⟨t, more, rfl, -, plain⟩ := h.leads
  refine signed_atom hatom ?_ stops
  rintro _ ⟨⟩
  exact plain

/-- An operand by itself is an expression. -/
theorem IsAtom.parses {ts : List Token} {e : Expr} (h : IsAtom ts e) : Parses ts e := by
  obtain ⟨t, more, hts, leads, -⟩ := h.leads
  refine ⟨⟨t, more, hts, leads⟩, fun {fuel rest} enough stops => ?_⟩
  have hlength : 0 < ts.length := by simp [hts]
  obtain ⟨spare, rfl⟩ := Nat.exists_eq_add_of_le' (show 13 ≤ fuel by omega)
  refine expression_signed (h.signed (by omega) stops) ?_ stops
  rw [hts]
  rintro _ ⟨⟩
  exact leads

/-- An operand with a minus before it is an expression. -/
theorem IsAtom.minus {ts : List Token} {e : Expr} (h : IsAtom ts e) :
    Parses (.sign "-" :: ts) (.unary .minus e) := by
  have hlead : Leads (.sign "-") := by decide
  refine ⟨⟨.sign "-", ts, rfl, hlead⟩, fun {fuel rest} enough stops => ?_⟩
  rw [List.length_cons] at enough
  obtain ⟨spare, rfl⟩ := Nat.exists_eq_add_of_le' (show 14 ≤ fuel by omega)
  have hsigned : Expr.signed (spare + 3) (.sign "-" :: ts ++ rest) = some (.unary .minus e, rest) := by
    rw [List.cons_append, Expr.signed, h.signed (by omega) stops]
    rfl
  refine expression_signed hsigned ?_ stops
  rintro _ ⟨⟩
  exact hlead

/-- The expression of a token that is an operand. -/
def ofToken? : Token → Option Expr
  | .int n => some (.literal (.int n))
  | .float x => some (.literal (.float x))
  | .text s => some (.literal (.str s))
  | .name s => some (.name s)
  | .word "None" => some (.literal .null)
  | .word "True" => some (.literal (.bool true))
  | .word "False" => some (.literal (.bool false))
  | _ => none

/-- A token that is an operand, which no other text follows if it is a text. -/
theorem isAtom_token {t : Token} {e : Expr} (h : ofToken? t = some e) : IsAtom [t] e := by
  unfold ofToken? at h
  split at h <;> cases h
  case h_3 s =>
    refine ⟨⟨_, [], rfl, by simp [Leads]⟩, fun _ stops => ?_⟩
    rcases stops.eq_nil_or with rfl | ⟨mark, hmark, more, rfl⟩ <;> rfl
  all_goals
    exact ⟨⟨_, [], rfl, by simp [Leads]⟩, fun _ _ => by rw [List.singleton_append, Expr.atom]⟩

/-! ## Lists -/

section Lists

variable {α : Type} {tokens : α → List Token} {expr : α → Expr} {l : List α}

theorem stops_sign {s : String} (h : s ∈ stopSigns) (more : List Token) :
    Stops (.sign s :: more) := by
  rintro _ ⟨⟩
  exact ⟨s, h, rfl⟩

/-- An expression begins no end of a list. -/
theorem expressions_leads {t : Token} (leads : Leads t) (fuel : Nat) (more : List Token) :
    expressions (fuel + 1) (t :: more) = (do
      let (e, rest) ← expression fuel (t :: more)
      match rest with
      | .sign "," :: rest =>
        let (more, comma, rest) ← expressions fuel rest
        return (e :: more, comma || more.isEmpty, rest)
      | _ => return ([e], false, rest)) :=
  expressions.eq_6 (t :: more) fuel (fun h => nomatch h)
    (fun _ h => leads.2.1 (List.cons.inj h).1) (fun _ h => leads.2.2.1 (List.cons.inj h).1)
    (fun _ h => leads.2.2.2 (List.cons.inj h).1)

theorem Parses.expressions_last {ts rest : List Token} {e : Expr} (h : Parses ts e) {fuel : Nat}
    (enough : 16 * ts.length ≤ fuel) (stops : Stops rest)
    (last : ∀ more, rest ≠ .sign "," :: more) :
    expressions (fuel + 1) (ts ++ rest) = some ([e], false, rest) := by
  have hread := h.expression enough stops
  obtain ⟨t, more, rfl, leads⟩ := h.leads
  rw [List.cons_append, expressions_leads leads, ← List.cons_append, hread]
  dsimp only [Option.bind_eq_bind, Option.bind_some]
  split
  · exact absurd rfl (last _)
  · rfl

/-- Tokens that are an expression form it when nothing follows them. -/
theorem Parses.ofTokens? {ts : List Token} {e : Expr} (h : Parses ts e) :
    Expr.ofTokens? ts = some e := by
  have hread := h.expressions_last (show 16 * ts.length ≤ 32 * ts.length + 63 by omega)
    (show Stops [] from fun _ ht => nomatch ht) fun _ ht => nomatch ht
  rw [List.append_nil] at hread
  have hfuel : fuelFor ts.length = 32 * ts.length + 63 + 1 := by rw [fuelFor]; omega
  rw [Expr.ofTokens?, hfuel, hread]

theorem Parses.expressions_more {ts more rest : List Token} {e f : Expr} {es : List Expr}
    (h : Parses ts e) {fuel : Nat} (enough : 16 * ts.length ≤ fuel)
    (hmore : expressions fuel more = some (f :: es, false, rest)) :
    expressions (fuel + 1) (ts ++ .sign "," :: more) = some (e :: f :: es, false, rest) := by
  have hread := h.expression enough (stops_sign (show "," ∈ stopSigns by decide) more)
  obtain ⟨t, tail, rfl, leads⟩ := h.leads
  rw [List.cons_append, expressions_leads leads, ← List.cons_append, hread]
  simp only [Option.bind_eq_bind, Option.bind_some, hmore]
  rfl

/-- Expressions separated by commas are read up to a closing bracket. -/
theorem expressions_intercalate (h : ∀ a ∈ l, Parses (tokens a) (expr a)) {fuel : Nat}
    {rest : List Token}
    (enough : 16 * ([Token.sign ","].intercalate (l.map tokens)).length < fuel) :
    expressions fuel ([Token.sign ","].intercalate (l.map tokens) ++ .sign "]" :: rest) =
      some (l.map expr, false, .sign "]" :: rest) := by
  induction l generalizing fuel with
  | nil =>
    obtain ⟨spare, rfl⟩ := Nat.exists_eq_add_of_le' enough
    rfl
  | cons a l ih =>
    rw [List.forall_mem_cons] at h
    obtain ⟨spare, rfl⟩ := Nat.exists_eq_add_of_le' (show 1 ≤ fuel by omega)
    cases l with
    | nil =>
      have hone : [Token.sign ","].intercalate ([a].map tokens) = tokens a :=
        List.intercalate_singleton
      rw [hone] at enough ⊢
      exact h.1.expressions_last (by omega) (stops_sign (by decide) rest) (by simp)
    | cons b l =>
      have hsplit : [Token.sign ","].intercalate ((a :: b :: l).map tokens) =
          tokens a ++ .sign "," :: [Token.sign ","].intercalate ((b :: l).map tokens) := by
        simp [List.intercalate_cons_cons]
      rw [hsplit, List.length_append, List.length_cons] at enough
      rw [hsplit, List.append_assoc, List.cons_append]
      exact h.1.expressions_more (by omega) (ih h.2 (by omega))

/-- A list of expressions is an operand. -/
theorem isAtom_list (h : ∀ a ∈ l, Parses (tokens a) (expr a)) :
    IsAtom (.sign "[" :: ([Token.sign ","].intercalate (l.map tokens) ++ [.sign "]"]))
      (.list (l.map expr)) := by
  refine ⟨⟨_, _, rfl, by decide⟩, fun {fuel rest} enough _ => ?_⟩
  rw [List.length_cons, List.length_append] at enough
  have hitems : expressions fuel ([Token.sign ","].intercalate (l.map tokens) ++ .sign "]" :: rest) =
      some (l.map expr, false, .sign "]" :: rest) := expressions_intercalate h (by omega)
  rw [List.cons_append, List.append_assoc, List.singleton_append, Expr.atom, hitems]
  -- a list of one item could be the start of a collection
  rcases l.map expr with _ | ⟨e, _ | ⟨f, es⟩⟩ <;> rfl

end Lists

/-! ## Tables -/

section Tables

variable {α : Type} {tokens : α → List Token} {expr : α → Expr} {l : List α}

/-- The tokens of an entry of a table. -/
def entryTokens (key : List Char) (tokens : List Token) : List Token :=
  .text key :: .sign ":" :: tokens

/-- The key of an entry is read up to the colon. -/
theorem expression_key (key : List Char) {fuel : Nat} (enough : 16 ≤ fuel) (more : List Token) :
    expression fuel (.text key :: .sign ":" :: more) =
      some (.literal (.str key), .sign ":" :: more) :=
  (isAtom_token rfl).parses.expression enough (stops_sign (by decide) more)

theorem intercalate_cons (separator a : List Token) (l : List (List Token)) :
    separator.intercalate (a :: l) = a ++ l.flatMap (separator ++ ·) := by
  induction l generalizing a with
  | nil => simp
  | cons b l ih => rw [List.intercalate_cons_cons, ih, List.flatMap_cons, List.append_assoc,
      List.append_assoc]

/-- What follows the value of an entry ends it. -/
theorem stops_entries (key : α → List Char) (tokens : α → List Token) (l : List α)
    (rest : List Token) :
    Stops ((l.flatMap fun a => .sign "," :: entryTokens (key a) (tokens a)) ++
      .sign "\x7d" :: rest) := by
  cases l with
  | nil => exact stops_sign (by decide) rest
  | cons a l => exact stops_sign (by decide) _

/-- The entries of a table after its first one are read up to its closing bracket. -/
theorem furtherEntries_flatMap (h : ∀ a ∈ l, Parses (tokens a) (expr a)) (key : α → List Char)
    {fuel : Nat} {rest : List Token}
    (enough : 16 * (l.flatMap fun a => .sign "," :: entryTokens (key a) (tokens a)).length < fuel) :
    furtherEntries fuel
      ((l.flatMap fun a => .sign "," :: entryTokens (key a) (tokens a)) ++ .sign "\x7d" :: rest) =
      some (l.map fun a => (.literal (.str (key a)), expr a), .sign "\x7d" :: rest) := by
  induction l generalizing fuel with
  | nil =>
    obtain ⟨spare, rfl⟩ := Nat.exists_eq_add_of_le' enough
    rfl
  | cons a l ih =>
    rw [List.forall_mem_cons] at h
    obtain ⟨spare, rfl⟩ := Nat.exists_eq_add_of_le' (show 1 ≤ fuel by omega)
    simp only [List.flatMap_cons, entryTokens, List.length_append, List.length_cons] at enough
    have hmore := ih h.2 (show _ < spare by simp only [entryTokens]; omega)
    have hvalue := h.1.expression (show 16 * (tokens a).length ≤ spare by omega)
      (stops_entries key tokens l rest)
    simp only [List.flatMap_cons, entryTokens, List.cons_append, List.append_assoc, furtherEntries,
      expression_key (key a) (show 16 ≤ spare by omega), Option.bind_eq_bind, Option.bind_some]
      at hmore hvalue ⊢
    simp only [hvalue, hmore, Option.bind_some]
    rfl

/-- A table of expressions under texts is an operand. -/
theorem isAtom_dict (h : ∀ a ∈ l, Parses (tokens a) (expr a)) (key : α → List Char) :
    IsAtom (.sign "\x7b" ::
        ([Token.sign ","].intercalate (l.map fun a => entryTokens (key a) (tokens a)) ++
          [.sign "\x7d"]))
      (.dict (l.map fun a => (.literal (.str (key a)), expr a))) := by
  refine ⟨⟨_, _, rfl, by decide⟩, fun {fuel rest} enough _ => ?_⟩
  rw [List.length_cons, List.length_append] at enough
  cases l with
  | nil => rfl
  | cons a l =>
    rw [List.forall_mem_cons] at h
    rw [List.map_cons, intercalate_cons, List.flatMap_map] at enough ⊢
    simp only [entryTokens, List.length_append, List.length_cons, List.singleton_append] at enough
    have hmore : furtherEntries fuel
        ((l.flatMap fun a => .sign "," :: entryTokens (key a) (tokens a)) ++ .sign "\x7d" :: rest) =
        some (l.map fun a => (.literal (.str (key a)), expr a), .sign "\x7d" :: rest) :=
      furtherEntries_flatMap h.2 key (by simp only [entryTokens]; omega)
    have hvalue := h.1.expression (show 16 * (tokens a).length ≤ fuel by omega)
      (stops_entries key tokens l rest)
    simp only [entryTokens, List.cons_append, List.append_assoc, List.nil_append, Expr.atom,
      expression_key (key a) (show 16 ≤ fuel by omega), Option.bind_eq_bind, Option.bind_some]
      at hmore hvalue ⊢
    simp only [hvalue, hmore, Option.bind_some]
    rfl

end Tables

end Conduit.Condition.Expr
