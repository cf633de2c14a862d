import Conduit.Pipeline.Listing
import Conduit.Proofs.Pipeline.Exchange
import Conduit.Proofs.Pipeline.Wiring

/-!
# The lines of listings

A listing is put together from lines. The names in it, the quoted texts and the values never have
line breaks, whatever they hold, but the remarks take the id of the workflow, the ids that a step
depends on and the references of a step to its action and its table as they are. So its lines stay
in their lines exactly if these texts have no line breaks; otherwise one of them ends its remark,
and what it goes on with is read as a line of the program.

* `Listing.unbroken_literal`, `Listing.unbroken_inputVariable` — the parts that never break a line;
* `PipelineStep.unbroken_stepLines_iff` — the lines of a step;
* `Pipeline.listing_lines` — the lines of a listing.
-/

namespace Conduit

open Text

/-! ## Moments -/

namespace Moment

theorem unbroken_padded (width n : Nat) : Unbroken (padded width n) :=
  ((consists_append.2 ⟨numeral_zeros _, numeral_toString n⟩).mono fun _ => IsNumeral.plain).unbroken

theorem unbroken_fractionText (micros : Int) : Unbroken (fractionText micros) := by
  unfold fractionText
  dsimp only
  split_ifs
  · exact consists_empty
  · exact consists_append.2 ⟨by decide, unbroken_padded _ _⟩

theorem unbroken_offsetText (offset : Int) : Unbroken (offsetText offset) := by
  have hcolon : Unbroken ":" := by decide
  unfold offsetText
  dsimp only
  split_ifs <;>
    simp only [consists_append, unbroken_padded, unbroken_fractionText, consists_empty, hcolon,
      and_self, and_true] <;> decide

/-- The text of a moment has no line breaks. -/
theorem unbroken_secondText (m : Moment) : Unbroken m.secondText := by
  have hdash : Unbroken "-" := by decide
  have hcolon : Unbroken ":" := by decide
  have hmark : Unbroken "T" := by decide
  refine consists_append.2 ⟨?_, ?_⟩
  · unfold readingText
    simp only [consists_append, unbroken_padded, hdash, hcolon, hmark, and_self]
  · cases m.offset with
    | none => exact consists_empty
    | some offset => exact unbroken_offsetText offset

end Moment

/-! ## Parts of lines -/

namespace Listing

theorem plain_words : words.IsPlain := ⟨by decide, by decide, by decide⟩

/-- A value in a listing has no line breaks. -/
theorem unbroken_literal (v : Value) : Unbroken (literal v) := by
  rw [literal_eq]
  cases h : Json.lineWith? words v with
  | none => exact consists_empty
  | some text => exact (Json.plain_lineWith plain_words v h).unbroken

theorem unbroken_quoted (s : String) : Unbroken (quoted s) := Text.unbroken_quoted s

/-- The name of a variable has no line breaks. -/
theorem unbroken_inputVariable (s : PipelineStep) : Unbroken (inputVariable s) := by
  have hchar (c : Char) : endsLine (identifierChar c) = false := by
    rw [identifierChar]
    split
    · next hword => exact endsLine_of_isWord hword
    · decide
  have htrimmed : ∀ c ∈ trimUnderscores (s.step.id.toList.map identifierChar),
      endsLine c = false := by
    intro c hc
    have hmem := (List.dropWhile_sublist _).mem
      (List.mem_reverse.1 ((List.dropWhile_sublist _).mem (List.mem_reverse.1 hc)))
    obtain ⟨d, -, rfl⟩ := List.mem_map.1 hmem
    exact hchar d
  unfold inputVariable
  dsimp only
  simp only [consists_append]
  refine ⟨⟨⟨⟨by decide, (plain_toString _).unbroken⟩, by decide⟩, ?_⟩, by decide⟩
  split
  · decide
  · exact consists_ofList.2 (unbroken_lower htrimmed)

theorem unbroken_expression (e : Expression) : Unbroken e.text := by
  induction e with
  | value v => exact (show Expression.text (.value v) = literal v from rfl) ▸ unbroken_literal v
  | inInputs path =>
    change Unbroken ("get_value(inputs, " ++ quoted path ++ ")")
    simp +decide only [consists_append, unbroken_quoted, and_self]
  | inOutput step path =>
    change Unbroken ("get_value(outputs[" ++ quoted step ++ "], " ++ quoted path ++ ")")
    simp +decide only [consists_append, unbroken_quoted, and_self]
  | transformed t e ih =>
    change Unbroken ("_transform(" ++ quoted t.name ++ ", " ++ e.text ++ ")")
    simp +decide only [consists_append, unbroken_quoted, ih, and_self]

/-- A statement has no line breaks if the name that it is about has none. -/
theorem unbroken_statement {name : String} (hname : Unbroken name) (s : Statement) :
    Unbroken (s.line name) := by
  cases s <;> simp +decide only [Statement.line, consists_append, hname, unbroken_literal,
    unbroken_quoted, unbroken_expression, and_self]

theorem unbroken_mapperLines (m : Mapper) {name : String} (hname : Unbroken name) :
    ∀ l ∈ mapperLines m name, Unbroken l := by
  intro l hl
  obtain ⟨s, -, rfl⟩ := List.mem_map.1 hl
  exact unbroken_statement hname s

theorem unbroken_resultLines (p : Pipeline) : ∀ l ∈ resultLines p, Unbroken l := by
  rw [resultLines]
  split
  · next m _ =>
    rw [List.forall_mem_append]
    exact ⟨unbroken_mapperLines m (by decide), by decide⟩
  · split
    · next last _ =>
      rw [List.forall_mem_singleton]
      simp +decide only [consists_append, unbroken_quoted, and_self]
    · decide

/-! ## Remarks -/

/-- The texts of a step that its remarks take as they are. -/
def remarked (s : PipelineStep) : List String :=
  s.dependsOn ++ (s.step.toolkit.toList ++ s.step.action.toList ++ s.step.table.toList)

theorem unbroken_remark_iff (s : Option String) :
    Unbroken (remark s) ↔ ∀ t ∈ s.toList, Unbroken t := by
  cases s with
  | none => simp [remark, show Unbroken "None" by decide]
  | some t => simp [remark]

/-- A text that is missing or empty has no line breaks. -/
theorem unbroken_of_not_isGiven {s : Option String} (h : isGiven s = false) :
    ∀ t ∈ s.toList, Unbroken t := by
  cases s with
  | none => simp
  | some t =>
    have hempty : t = "" := by simpa [isGiven] using h
    simp [hempty, consists_empty]

theorem unbroken_description_iff (s : PipelineStep) : Unbroken (description s) ↔
    ∀ t ∈ s.step.toolkit.toList ++ s.step.action.toList ++ s.step.table.toList, Unbroken t := by
  have hkind : Unbroken s.step.kind.name := by cases s.step.kind <;> decide
  have hslash : Unbroken "/" := by decide
  have hname : Unbroken "table=" := by decide
  have haction : (∀ t ∈ if isGiven s.step.toolkit || isGiven s.step.action then
        [remark s.step.toolkit ++ "/" ++ remark s.step.action] else [], Unbroken t) ↔
      ∀ t ∈ s.step.toolkit.toList ++ s.step.action.toList, Unbroken t := by
    rw [List.forall_mem_append]
    split
    · simp only [List.forall_mem_singleton, consists_append, hslash, and_true,
        unbroken_remark_iff]
    · next hneither =>
      rw [Bool.not_eq_true, Bool.or_eq_false_iff] at hneither
      have htoolkit := unbroken_of_not_isGiven hneither.1
      have hid := unbroken_of_not_isGiven hneither.2
      exact iff_of_true (by simp) ⟨htoolkit, hid⟩
  have htable : (∀ t ∈ if isGiven s.step.table then ["table=" ++ remark s.step.table] else [],
      Unbroken t) ↔ ∀ t ∈ s.step.table.toList, Unbroken t := by
    split
    · simp only [List.forall_mem_singleton, consists_append, hname, true_and, unbroken_remark_iff]
    · next hmissing =>
      exact iff_of_true (by simp) (unbroken_of_not_isGiven (Bool.not_eq_true _ ▸ hmissing))
  unfold description
  dsimp only
  rw [Unbroken, consists_intercalate (by decide), List.forall_mem_append, List.forall_mem_append,
    List.forall_mem_singleton, haction, htable]
  constructor
  · intro h
    exact List.forall_mem_append.2 ⟨h.1.2, h.2⟩
  · intro h
    obtain ⟨hgiven, hbound⟩ := List.forall_mem_append.1 h
    exact ⟨⟨hkind, hgiven⟩, hbound⟩

/-- The lines of a step have no line breaks exactly if the texts that its remarks take as they are
have none. -/
theorem unbroken_stepLines_iff (s : PipelineStep) :
    (∀ l ∈ stepLines s, Unbroken l) ↔ ∀ t ∈ remarked s, Unbroken t := by
  have hname := unbroken_inputVariable s
  have htitle : (∀ l ∈ ["", indent ++ "# " ++ toString (s.index + 1) ++ ". "
        ++ Text.oneLine s.step.displayName ++ " [" ++ description s ++ "]"], Unbroken l) ↔
      Unbroken (description s) := by
    simp +decide only [List.forall_mem_cons, consists_append, (plain_toString _).unbroken,
      unbroken_oneLine, and_true, true_and]
  have hdepends : (∀ l ∈ if s.dependsOn.isEmpty then []
        else [indent ++ "# depends on: " ++ ", ".intercalate s.dependsOn], Unbroken l) ↔
      ∀ t ∈ s.dependsOn, Unbroken t := by
    split
    · next hnone => simp [List.isEmpty_iff.1 hnone]
    · rw [List.forall_mem_singleton, Unbroken, consists_append, consists_intercalate (by decide)]
      exact and_iff_right (by decide)
  have hcall : Unbroken (indent ++ "outputs[" ++ quoted s.step.id ++ "] = await execute_step("
      ++ quoted s.step.id ++ ", " ++ inputVariable s ++ ")") := by
    simp +decide only [consists_append, unbroken_quoted, hname, and_self]
  rw [stepLines, List.forall_mem_append, List.forall_mem_append, List.forall_mem_append, htitle,
    hdepends, unbroken_description_iff, List.forall_mem_singleton, remarked]
  constructor
  · intro h
    exact List.forall_mem_append.2 ⟨h.1.1.2, h.1.1.1⟩
  · intro h
    obtain ⟨hwaits, hreferences⟩ := List.forall_mem_append.1 h
    exact ⟨⟨⟨hreferences, hwaits⟩, unbroken_mapperLines s.mapper hname⟩, hcall⟩

/-- The lines before the steps have no line breaks exactly if the id of the workflow has none. -/
theorem unbroken_openingLines_iff (p : Pipeline) (defaults : Members) :
    (∀ l ∈ openingLines p defaults, Unbroken l) ↔ Unbroken p.workflowId := by
  have hrows : ∀ l ∈ p.steps.map (fun s => indent ++ literal (stepRow s) ++ ","), Unbroken l := by
    intro l hl
    obtain ⟨s, -, rfl⟩ := List.mem_map.1 hl
    simp +decide only [consists_append, unbroken_literal, and_self]
  rw [openingLines, List.forall_mem_append, List.forall_mem_append]
  simp +decide only [List.forall_mem_cons, consists_append, unbroken_oneLine, unbroken_literal,
    and_true, true_and]
  exact and_iff_left hrows

end Listing

open Listing

/-- The texts of a pipeline that the remarks of its listing take as they are have no line breaks. -/
def Pipeline.IsTidy (p : Pipeline) : Prop :=
  Unbroken p.workflowId ∧ ∀ s ∈ p.steps, ∀ t ∈ remarked s, Unbroken t

instance (p : Pipeline) : Decidable p.IsTidy := inferInstanceAs (Decidable (_ ∧ _))

namespace Pipeline

theorem listingBody_eq {p : Pipeline} {defaults : Members}
    (schema : checkWritten [.object p.inputSchema] = .ok ()) (h : p.inputDefaults = .ok defaults)
    (written : checkWritten (.object defaults :: stepValues p) = .ok ()) :
    p.listingBody =
      .ok (openingLines p defaults ++ p.steps.flatMap stepLines ++ [""] ++ resultLines p) := by
  simp only [listingBody, schema, h, written, bind, Except.bind, pure, Except.pure]

theorem listing_eq {p : Pipeline} {body : List String} (h : p.listingBody = .ok body)
    (moment : Moment) : p.listing moment = .ok
      ("\n".intercalate (("# Generated by stepflow at " ++ moment.secondText) :: body) ++ "\n") := by
  rw [listing, h]
  rfl

/-- What is in the lines of a listing. -/
theorem listingBody_cases {p : Pipeline} {body : List String} (h : p.listingBody = .ok body) :
    ∃ defaults,
      body = openingLines p defaults ++ p.steps.flatMap stepLines ++ [""] ++ resultLines p := by
  rw [listingBody] at h
  obtain ⟨_, hschema, h⟩ := except_bind_eq_ok.1 h
  obtain ⟨defaults, hdefaults, h⟩ := except_bind_eq_ok.1 h
  obtain ⟨_, hwritten, h⟩ := except_bind_eq_ok.1 h
  exact ⟨defaults, (Except.ok.inj h).symm⟩

/-- The first line of a listing has no line breaks. -/
theorem unbroken_stamp (moment : Moment) :
    Unbroken ("# Generated by stepflow at " ++ moment.secondText) :=
  consists_append.2 ⟨by decide, moment.unbroken_secondText⟩

theorem unbroken_listingBody_iff {p : Pipeline} {body : List String}
    (h : p.listingBody = .ok body) : (∀ l ∈ body, Unbroken l) ↔ p.IsTidy := by
  obtain ⟨defaults, rfl⟩ := listingBody_cases h
  have hsteps : (∀ l ∈ p.steps.flatMap stepLines, Unbroken l) ↔
      ∀ s ∈ p.steps, ∀ t ∈ remarked s, Unbroken t := by
    simp only [List.forall_mem_flatMap, unbroken_stepLines_iff]
  have hresult := unbroken_resultLines p
  rw [List.forall_mem_append, List.forall_mem_append, List.forall_mem_append,
    unbroken_openingLines_iff, hsteps, List.forall_mem_singleton, IsTidy]
  exact ⟨fun h => h.1.1, fun h => ⟨⟨h, consists_empty⟩, hresult⟩⟩

/-- The lines of a listing are found again below its first line exactly if they have no line
breaks. -/
theorem tail_splitLines_iff (moment : Moment) {body : List String} :
    (splitLines ("\n".intercalate
        (("# Generated by stepflow at " ++ moment.secondText) :: body) ++ "\n")).tail = body ↔
      ∀ l ∈ body, Unbroken l := by
  constructor
  · intro hlines l hl
    rw [← hlines] at hl
    exact unbroken_of_mem_splitLines (List.mem_of_mem_tail hl)
  · intro hlines
    rw [(splitLines_eq_iff (List.cons_ne_nil _ _)).2
      (List.forall_mem_cons.2 ⟨unbroken_stamp moment, hlines⟩)]
    rfl

/-- The lines of a listing stay in their lines exactly if the texts that its remarks take as they
are have no line breaks. -/
theorem listing_lines (p : Pipeline) (moment : Moment) {body : List String}
    (h : p.listingBody = .ok body) :
    ((∀ l ∈ body, Unbroken l) ↔ p.IsTidy) ∧
      ∃ text, p.listing moment = .ok text ∧ ((splitLines text).tail = body ↔ p.IsTidy) := by
  have hbody := unbroken_listingBody_iff h
  exact ⟨hbody, _, listing_eq h moment, (tail_splitLines_iff moment).trans hbody⟩

/-- A workflow with line breaks wherever a listing brings texts into one line, quotes them or writes
them as values. -/
def brokenUp : Definition where
  id := "w"
  name := "W\r\nof two\u2028lines"
  steps :=
    [{ id := "a", kind := .controlFlow, name := "A\x0b", code := some "\x1c" },
     { id := "b\n", kind := .remoteTool, toolkit := some "mail", table := some "t",
       config := [("\n", .str "\u2029")] }]
  mappings :=
    [{ source := .step "a", target := .step "b\n", sourcePath := "x\n", targetPath := "y\n" }]

/-- The pipeline of that workflow. -/
def brokenUpPipeline : Pipeline := ((brokenUp.compile none).toOption).getD default

theorem listing_lines_brokenUp : brokenUp.compile none = .ok brokenUpPipeline ∧
    ∃ body text, brokenUpPipeline.listingBody = .ok body ∧
      brokenUpPipeline.listing ⟨0, none⟩ = .ok text ∧ (∀ l ∈ body, Unbroken l) ∧
      (splitLines text).tail = body := by
  have hdefaults : brokenUpPipeline.inputDefaults = .ok [] := by decide +kernel
  have htidy : brokenUpPipeline.IsTidy := by decide +kernel
  have hbody := listingBody_eq (by decide +kernel) hdefaults (by decide +kernel)
  obtain ⟨hlines, text, htext, hsplit⟩ := listing_lines _ ⟨0, none⟩ hbody
  exact ⟨Definition.compile_of_isSome (by decide +kernel), _, text, hbody, htext,
    hlines.2 htidy, hsplit.2 htidy⟩

/-- What the id of a workflow goes on with after a line feed is a line of the listing by itself, but
for the bracket that closes the remark. -/
theorem mem_splitLines_listing {p : Pipeline} {front code : String}
    (hid : p.workflowId = front ++ "\n" ++ code) (hcode : Unbroken code) {moment : Moment}
    {text : String} (h : p.listing moment = .ok text) : code ++ ")" ∈ (splitLines text).tail := by
  have hline : ∀ c ∈ (code ++ ")").toList, endsLine c = false :=
    consists_append.2 ⟨hcode, by decide⟩
  cases hbody : p.listingBody with
  | error fault =>
    rw [listing, hbody] at h
    cases h
  | ok body =>
    obtain rfl := Except.ok.inj ((listing_eq hbody moment).symm.trans h)
    obtain ⟨defaults, rfl⟩ := listingBody_cases hbody
    obtain ⟨l, more, hmore⟩ : ∃ l more, openingLines p defaults =
        ("# Workflow: " ++ oneLine p.workflowName ++ " (" ++ p.workflowId ++ ")") :: l :: more :=
      ⟨_, _, rfl⟩
    have hfeed : "\n".toList = ['\n'] := rfl
    -- the id and the code after it stand between the line feeds after the stamp and the remark
    have htext (body : List String) :
        ("\n".intercalate (("# Generated by stepflow at " ++ moment.secondText) ::
          ("# Workflow: " ++ oneLine p.workflowName ++ " (" ++ p.workflowId ++ ")") :: l :: body)
          ++ "\n").toList =
        ("# Generated by stepflow at " ++ moment.secondText).toList ++ '\n' ::
          (("# Workflow: " ++ oneLine p.workflowName ++ " (" ++ front).toList ++ '\n' ::
            ((code ++ ")").toList ++ '\n' :: (("\n".intercalate (l :: body)) ++ "\n").toList)) := by
      simp only [hid, String.intercalate_cons_cons, String.toList_append, hfeed, List.append_assoc,
        List.cons_append, List.nil_append]
    rw [hmore, splitLines]
    simp only [List.cons_append]
    rw [htext, splitLines.go_append (unbroken_stamp moment), List.map_cons, List.tail_cons]
    have hmem := splitLines.mem_go hline []
      ("# Workflow: " ++ oneLine p.workflowName ++ " (" ++ front).toList
    exact List.mem_map.2 ⟨_, hmem _, String.ofList_toList⟩

/-- A workflow whose id goes on after a line feed. -/
def intruding : Definition where
  id := "w\nimport os #"
  name := "W"
  steps := [{ id := "a", kind := .controlFlow }]

/-- The pipeline of that workflow. -/
def intrudingPipeline : Pipeline := ((intruding.compile none).toOption).getD default

/-- What the id goes on with is a line of the program, and the lines of the listing are not found
again. -/
theorem intruding_line : intruding.compile none = .ok intrudingPipeline ∧
    ∃ body text, intrudingPipeline.listingBody = .ok body ∧
      intrudingPipeline.listing ⟨0, none⟩ = .ok text ∧ ¬(∀ l ∈ body, Unbroken l) ∧
      (splitLines text).tail ≠ body ∧ "import os #)" ∈ (splitLines text).tail := by
  have hdefaults : intrudingPipeline.inputDefaults = .ok [] := by decide +kernel
  have hbody := listingBody_eq (by decide +kernel) hdefaults (by decide +kernel)
  have hbroken : ¬intrudingPipeline.IsTidy := by decide +kernel
  rw [← unbroken_listingBody_iff hbody] at hbroken
  have htext := listing_eq hbody ⟨0, none⟩
  have hmem := mem_splitLines_listing (show _ = "w" ++ "\n" ++ "import os #" by decide +kernel)
    (by decide) htext
  exact ⟨Definition.compile_of_isSome (by decide +kernel), _, _, hbody, htext, hbroken,
    fun h => hbroken ((tail_splitLines_iff _).1 h), hmem⟩

end Pipeline

end Conduit
