import Conduit.Proofs.Run.Ending

/-!
# Where outputs come from

When connectors answer by the step, its input and the context alone, the outputs of a run that its
time limit does not stop have a derivation that says nothing of when anything happened: the output
of a step is the answer to the input that is built from the outputs of the steps that it waits for.
A step fails because of those outputs as well, or because its time is over.

* `Registry.Answers`, `Plan.Steady` — such connectors and runs;
* `Run.Earned`, `Run.Foiled` — why a step has an output, or failed;
* `Run.Derived`, `Run.Sound.derived_performAll` — outputs and failures have a derivation;
* `Run.Derived.output_unique` — outputs do not depend on the order of events.
-/

namespace Conduit

/-- Connectors whose answers depend on the step, its input and the context alone. -/
def Registry.Answers (registry : Registry)
    (answer : Step → Value → Context → Except Trouble Output) : Prop :=
  ∀ step connector, registry.connectorOf step = .ok connector →
    ∀ input context before after,
      ((connector.call step input context before).2.finish after).2 = answer step input context

/-- A plan whose connectors answer by the step, its input and the context alone. -/
structure Plan.Steady (answer : Step → Value → Context → Except Trouble Output) (plan : Plan) :
    Prop where
  answers : plan.executor.registry.Answers answer
  /-- An answer is not the list that functions share, which shows what others do later. -/
  own : ∀ step input context, answer step input context ≠ .ok .shared

/-- `plan'` is about the same as `plan`, but for how many steps may be in flight at once, which
connectors carry out the steps, and when and for whom that is done. -/
structure Plan.Variant (plan plan' : Plan) : Prop where
  pipeline : plan'.pipeline = plan.pipeline
  context : plan'.context = plan.context
  limit : plan'.executor.limit? = plan.executor.limit?
  stepLimit : plan'.executor.stepLimit? = plan.executor.stepLimit?
  /-- The same steps have connectors. -/
  connected : ∀ step, (∃ connector, plan.executor.registry.connectorOf step = .ok connector) ↔
    ∃ connector, plan'.executor.registry.connectorOf step = .ok connector

theorem Plan.Variant.refl (plan : Plan) : plan.Variant plan :=
  ⟨rfl, rfl, rfl, rfl, fun _ => .rfl⟩

theorem Plan.Variant.symm {plan plan' : Plan} (h : plan.Variant plan') : plan'.Variant plan :=
  ⟨h.pipeline.symm, h.context.symm, h.limit.symm, h.stepLimit.symm,
    fun step => (h.connected step).symm⟩

namespace Run

/-- What the outputs of a run show that do not change. -/
def known (r : Run) : String → Option Value := r.outputs.read {}

/-- The steps that a step waits for have outputs. -/
def Supplied (r : Run) (s : PipelineStep) : Prop := ∀ id ∈ s.dependsOn, r.outputs.has id = true

/-- What the outputs of the steps that a step waits for make of its input. -/
def Fed (r : Run) (s : PipelineStep) (built : Except BuildFault Value) : Prop :=
  r.Supplied s ∧ s.mapper.build r.known r.inputs = built

/-- The time limit of steps, if there is one, is a limit. -/
def Timed (r : Run) : Prop :=
  ∀ limit, r.plan.executor.stepLimit? = some limit → limit.callFault? = none

/-- A step failed because its time was over. -/
def Late (r : Run) (x : Report) : Prop :=
  ∃ limit, r.plan.executor.stepLimit? = some limit ∧
    x.failure = some (stepTimeoutFailure x.id limit)

/-- A request to cancel was heeded, or the listener gives up steps. -/
def Meddled (r : Run) : Prop := r.heeded = true ∨ ∃ id, r.plan.Forsakes id

/-- A step has what its call needs: a connector and an input. -/
def Readied (r : Run) (s : PipelineStep) (input : Value) (connector : Connector) : Prop :=
  r.plan.executor.registry.connectorOf s.step = .ok connector ∧ r.Fed s (.ok input) ∧ r.Timed

section Derivation

variable (answer : Step → Value → Context → Except Trouble Output)

/-- A step has an output because that is the answer to its input. -/
def Earned (r : Run) (s : PipelineStep) (output : Output) : Prop :=
  ∃ input connector v, output = .value v ∧ r.Readied s input connector ∧
    answer s.step input r.plan.context = .ok (.value v)

/-- A step fails because it has no input, no connector, a time limit that is none or no answer that
is an output. -/
def Foiled (r : Run) (s : PipelineStep) : Prop :=
  (∃ fault, r.Fed s (.error fault)) ∨
    (∃ failure, r.plan.executor.registry.connectorOf s.step = .error failure) ∨ ¬r.Timed ∨
    ∃ input, r.Fed s (.ok input) ∧ ∀ v, answer s.step input r.plan.context ≠ .ok (.value v)

/-- A report says that a step did not succeed, and it could not, or its time was over or someone
meddled. -/
def Explained (r : Run) (x : Report) : Prop := Foiled answer r x.item ∨ r.Late x ∨ r.Meddled

/-- Outputs and failures have a derivation, and so has what is in flight. -/
structure Derived (r : Run) : Prop where
  values : ∀ id output, r.outputs.get? id = some output →
    ∃ s ∈ r.plan.pipeline.steps, s.step.id = id ∧ Earned answer r s output
  entering : ∀ f ∈ r.flights, ∀ input connector, f.stage = .entering input connector →
    r.Readied f.item input connector
  calling : ∀ f ∈ r.flights, ∀ call overdue, f.stage = .calling call overdue →
    ∃ input connector before, r.Readied f.item input connector ∧
      call = (connector.call f.item.step input r.plan.context before).2
  faults : ∀ f ∈ r.flights, ∀ x, f.stage.report? = some x → x.status ≠ .success →
    Explained answer r x
  reports : ∀ x ∈ r.reports, x.status ≠ .success → Explained answer r x

end Derivation

variable {answer : Step → Value → Context → Except Trouble Output}

/-! ## Outputs that stay -/

/-- `r'` is about the same as `r` and has its outputs. -/
structure Extends (r r' : Run) : Prop where
  plan : r'.plan = r.plan
  inputs : r'.inputs = r.inputs
  outputs : ∀ id output, r.outputs.get? id = some output → r'.outputs.get? id = some output
  heeded : r.heeded = true → r'.heeded = true

theorem Extends.of_outputs {r r' : Run} (plan : r'.plan = r.plan) (inputs : r'.inputs = r.inputs)
    (outputs : r'.outputs = r.outputs) (heeded : r.heeded = true → r'.heeded = true) :
    Extends r r' :=
  ⟨plan, inputs, fun id output hget => by rw [outputs]; exact hget, heeded⟩

theorem Supplied.mono {r r' : Run} (h : Extends r r') {s : PipelineStep} (supplied : r.Supplied s) :
    r'.Supplied s := by
  intro id hid
  have hhas := supplied id hid
  unfold Outputs.has at hhas ⊢
  obtain ⟨output, houtput⟩ := Option.isSome_iff_exists.1 hhas
  rw [h.outputs id output houtput]
  rfl

/-- What is built of the input of a step that is supplied does not change when outputs are added. -/
theorem Supplied.build_eq {r r' : Run} (h : Extends r r') (formed : r.plan.pipeline.WellFormed)
    {s : PipelineStep} (hs : s ∈ r.plan.pipeline.steps) (supplied : r.Supplied s)
    (environment : Environment) :
    s.mapper.build (r'.outputs.read environment) r'.inputs =
      s.mapper.build (r.outputs.read environment) r.inputs := by
  rw [h.inputs]
  refine formed.build_congr hs (fun id hid => ?_) r.inputs
  obtain ⟨output, houtput⟩ := Option.isSome_iff_exists.1 (supplied id hid)
  unfold Outputs.read
  rw [houtput, h.outputs id output houtput]

theorem Fed.mono {r r' : Run} (h : Extends r r') (formed : r.plan.pipeline.WellFormed)
    {s : PipelineStep} (hs : s ∈ r.plan.pipeline.steps) {built : Except BuildFault Value}
    (fed : r.Fed s built) : r'.Fed s built :=
  ⟨fed.1.mono h, (fed.1.build_eq h formed hs {}).trans fed.2⟩

theorem Timed.iff {r r' : Run} (h : Extends r r') : r'.Timed ↔ r.Timed := by
  unfold Timed
  rw [h.plan]

theorem Readied.mono {r r' : Run} (h : Extends r r') (formed : r.plan.pipeline.WellFormed)
    {s : PipelineStep} (hs : s ∈ r.plan.pipeline.steps) {input : Value} {connector : Connector}
    (readied : r.Readied s input connector) : r'.Readied s input connector := by
  refine ⟨?_, readied.2.1.mono h formed hs, (Timed.iff h).2 readied.2.2⟩
  rw [h.plan]
  exact readied.1

theorem Earned.mono {r r' : Run} (h : Extends r r') (formed : r.plan.pipeline.WellFormed)
    {s : PipelineStep} (hs : s ∈ r.plan.pipeline.steps) {output : Output}
    (earned : Earned answer r s output) : Earned answer r' s output := by
  obtain ⟨input, connector, v, houtput, hreadied, hanswer⟩ := earned
  refine ⟨input, connector, v, houtput, hreadied.mono h formed hs, ?_⟩
  rw [h.plan]
  exact hanswer

theorem Foiled.mono {r r' : Run} (h : Extends r r') (formed : r.plan.pipeline.WellFormed)
    {s : PipelineStep} (hs : s ∈ r.plan.pipeline.steps) (foiled : Foiled answer r s) :
    Foiled answer r' s := by
  rcases foiled with ⟨fault, hfed⟩ | ⟨failure, hfound⟩ | huntimed | ⟨input, hfed, hrefused⟩
  · exact .inl ⟨fault, hfed.mono h formed hs⟩
  · exact .inr (.inl ⟨failure, by rw [h.plan]; exact hfound⟩)
  · exact .inr (.inr (.inl (mt (Timed.iff h).1 huntimed)))
  · exact .inr (.inr (.inr ⟨input, hfed.mono h formed hs, by rw [h.plan]; exact hrefused⟩))

theorem Explained.mono {r r' : Run} (h : Extends r r') (formed : r.plan.pipeline.WellFormed)
    {x : Report} (hx : x.item ∈ r.plan.pipeline.steps) (explained : Explained answer r x) :
    Explained answer r' x := by
  rcases explained with hfoiled | ⟨limit, hlimit, hfailure⟩ | hmeddled
  · exact .inl (hfoiled.mono h formed hx)
  · exact .inr (.inl ⟨limit, by rw [h.plan]; exact hlimit, hfailure⟩)
  · exact .inr (.inr (hmeddled.imp h.heeded (by rw [h.plan]; exact id)))

/-- Outputs that have a derivation show the same at any time. -/
theorem Derived.read_eq_known {r : Run} (h : Derived answer r) (environment : Environment) :
    r.outputs.read environment = r.known := by
  funext id
  unfold known Outputs.read
  cases hget : r.outputs.get? id with
  | none => rfl
  | some output =>
    obtain ⟨s, -, -, input, connector, v, rfl, -⟩ := h.values id output hget
    rfl

/-- A step in flight waits for steps that have outputs. -/
theorem Sound.supplied {r : Run} {lost : List String} (h : Sound r lost) {f : Flight}
    (hf : f ∈ r.flights) : r.Supplied f.item := by
  intro id hid
  have hsucceeded := h.judged.released f hf id hid
  rw [h.judged.succeeded] at hsucceeded
  obtain ⟨x, hx, rfl⟩ := List.mem_map.1 hsucceeded
  obtain ⟨hx, hstatus⟩ := List.mem_filter.1 hx
  exact h.booked.has_of_report hx (by simpa using hstatus)

/-! ## Derivations -/

/-- What has a derivation keeps it when the steps in flight and the outputs stay. -/
theorem Alike.derived {r r' : Run} (alike : Alike r r') (formed : r.plan.pipeline.WellFormed)
    (placed : Placed r) (h : Derived answer r) : Derived answer r' := by
  have hext : Extends r r' :=
    .of_outputs alike.plan alike.inputs alike.outputs fun hh => alike.heeded.trans hh
  refine { values := ?_, entering := ?_, calling := ?_, faults := ?_, reports := ?_ }
  · intro id output hget
    rw [alike.outputs] at hget
    obtain ⟨s, hs, hid, hearned⟩ := h.values id output hget
    exact ⟨s, by rw [alike.plan]; exact hs, hid, hearned.mono hext formed hs⟩
  · intro f' hf input connector hstage'
    obtain ⟨f, hf, hitem, -, hstage⟩ := alike.mem_flights hf
    rw [hitem]
    exact (h.entering f hf input connector (hstage ▸ hstage')).mono hext formed (placed.flying f hf)
  · intro f' hf call overdue hstage'
    obtain ⟨f, hf, hitem, -, hstage⟩ := alike.mem_flights hf
    obtain ⟨input, connector, before, hreadied, hcall⟩ :=
      h.calling f hf call overdue (hstage ▸ hstage')
    rw [hitem, alike.plan]
    exact ⟨input, connector, before, hreadied.mono hext formed (placed.flying f hf), hcall⟩
  · intro f' hf x hx herror
    obtain ⟨f, hf, hitem, -, hstage⟩ := alike.mem_flights hf
    have hitem' : x.item ∈ r.plan.pipeline.steps := by
      rw [placed.own f hf x (hstage ▸ hx)]
      exact placed.flying f hf
    exact (h.faults f hf x (hstage ▸ hx) herror).mono hext formed hitem'
  · intro x hx herror
    rw [alike.reports] at hx
    exact (h.reports x hx herror).mono hext formed (placed.reported x hx)

/-- A shift of a step keeps derivations, if the step has one at its new stage and so have the
outputs. -/
theorem Shift.derived {r r' : Run} {f g : Flight} {told : List RunEvent} {outputs : Outputs}
    (shift : Shift r r' g told outputs) (formed : r.plan.pipeline.WellFormed) (placed : Placed r)
    (kept : ∀ id output, r.outputs.get? id = some output → outputs.get? id = some output)
    (values : ∀ id output, outputs.get? id = some output → r.outputs.get? id = some output ∨
      ∃ s ∈ r.plan.pipeline.steps, s.step.id = id ∧ Earned answer r s output)
    (entering : ∀ input connector, g.stage = .entering input connector →
      r.Readied g.item input connector)
    (calling : ∀ call overdue, g.stage = .calling call overdue →
      ∃ input connector before, r.Readied g.item input connector ∧
        call = (connector.call g.item.step input r.plan.context before).2)
    (faults : ∀ x, g.stage.report? = some x → x.item = g.item ∧
      (x.status ≠ .success → Explained answer r x))
    (flies : r.flight? f.id = some f) (item : g.item = f.item) (h : Derived answer r) :
    Derived answer r' := by
  have hext : Extends r r' := by
    refine ⟨shift.plan, shift.inputs, fun id output hget => ?_, fun hh => shift.heeded.trans hh⟩
    rw [shift.outputs]
    exact kept id output hget
  have hg : g.item ∈ r.plan.pipeline.steps := by
    rw [item]
    exact placed.flying f (flight?_mem flies)
  refine { values := ?_, entering := ?_, calling := ?_, faults := ?_, reports := ?_ }
  · intro id output hget
    rw [shift.outputs] at hget
    rw [shift.plan]
    rcases values id output hget with hget | ⟨s, hs, hid, hearned⟩
    · obtain ⟨s, hs, hid, hearned⟩ := h.values id output hget
      exact ⟨s, hs, hid, hearned.mono hext formed hs⟩
    · exact ⟨s, hs, hid, hearned.mono hext formed hs⟩
  · intro e he input connector hstage
    rcases shift.mem_flights he with rfl | ⟨he, -⟩
    · exact (entering input connector hstage).mono hext formed hg
    · exact (h.entering e he input connector hstage).mono hext formed (placed.flying e he)
  · intro e he call overdue hstage
    rw [shift.plan]
    rcases shift.mem_flights he with rfl | ⟨he, -⟩
    · obtain ⟨input, connector, before, hreadied, hcall⟩ := calling call overdue hstage
      exact ⟨input, connector, before, hreadied.mono hext formed hg, hcall⟩
    · obtain ⟨input, connector, before, hreadied, hcall⟩ := h.calling e he call overdue hstage
      exact ⟨input, connector, before, hreadied.mono hext formed (placed.flying e he), hcall⟩
  · intro e he x hx herror
    rcases shift.mem_flights he with rfl | ⟨he, -⟩
    · obtain ⟨hxitem, hexplained⟩ := faults x hx
      exact (hexplained herror).mono hext formed (hxitem ▸ hg)
    · refine (h.faults e he x hx herror).mono hext formed ?_
      rw [placed.own e he x hx]
      exact placed.flying e he
  · intro x hx herror
    rw [shift.reports] at hx
    exact (h.reports x hx herror).mono hext formed (placed.reported x hx)

/-- A shift of a step that leaves the outputs alone. -/
theorem Shift.derived_of_outputs {r r' : Run} {f g : Flight} {told : List RunEvent}
    (shift : Shift r r' g told r.outputs) (formed : r.plan.pipeline.WellFormed) (placed : Placed r)
    (entering : ∀ input connector, g.stage = .entering input connector →
      r.Readied g.item input connector)
    (calling : ∀ call overdue, g.stage = .calling call overdue →
      ∃ input connector before, r.Readied g.item input connector ∧
        call = (connector.call g.item.step input r.plan.context before).2)
    (faults : ∀ x, g.stage.report? = some x → x.item = g.item ∧
      (x.status ≠ .success → Explained answer r x))
    (flies : r.flight? f.id = some f) (item : g.item = f.item) (h : Derived answer r) :
    Derived answer r' :=
  shift.derived formed placed (fun _ _ hget => hget) (fun _ _ hget => .inl hget) entering calling
    faults flies item h

/-- The answer that a step gets is the answer to its input. -/
theorem Derived.answer_eq {r : Run} (h : Derived answer r) (steady : r.plan.Steady answer)
    {f : Flight} (flies : r.flight? f.id = some f) {call : Call} {overdue : Bool}
    (stage : f.stage = .calling call overdue) (after : Environment) :
    ∃ input connector, r.Readied f.item input connector ∧
      (call.finish after).2 = answer f.item.step input r.plan.context := by
  obtain ⟨input, connector, before, hreadied, rfl⟩ :=
    h.calling f (flight?_mem flies) call overdue stage
  exact ⟨input, connector, hreadied,
    steady.answers f.item.step connector hreadied.1 input r.plan.context before after⟩

/-- A step whose connector does not answer with an output cannot succeed. -/
theorem Derived.foiled_of_answer {r : Run} (h : Derived answer r) (steady : r.plan.Steady answer)
    {f : Flight} (flies : r.flight? f.id = some f) {call : Call} {overdue : Bool}
    (stage : f.stage = .calling call overdue)
    (refused : ∀ v, (call.finish r.environment).2 ≠ .ok (.value v)) :
    Foiled answer r f.item := by
  obtain ⟨input, connector, hreadied, hanswer⟩ := h.answer_eq steady flies stage r.environment
  refine .inr (.inr (.inr ⟨input, hreadied.2.1, fun v hv => refused v ?_⟩))
  rw [hanswer]
  exact hv

/-- A step that fails fails because of the outputs of the steps that it waits for, or because its
time is over. -/
theorem Stumbles.explained {r : Run} {lost : List String} {f : Flight} {failure : Failure}
    (why : Stumbles r f failure) (sound : Sound r lost) (steady : r.plan.Steady answer)
    (flies : r.flight? f.id = some f) (h : Derived answer r) (now : Nat) :
    Explained answer r (f.stop now .error failure) := by
  have hsupplied := sound.supplied (flight?_mem flies)
  cases why with
  | unbuilt fault stage built =>
    rw [h.read_eq_known] at built
    exact .inl (.inl ⟨fault, hsupplied, built⟩)
  | unconnected failure stage found => exact .inl (.inr (.inl ⟨failure, found⟩))
  | untimed limit fault stage limited faulty =>
    refine .inl (.inr (.inr (.inl fun htimed => ?_)))
    rw [htimed limit limited] at faulty
    cases faulty
  | late limit stage limited => exact .inr (.inl ⟨limit, limited, rfl⟩)
  | refused call overdue trouble stage answered =>
    exact .inl (h.foiled_of_answer steady flies stage (by rw [answered]; simp))
  | uncopyable call overdue fault stage answered =>
    exact .inl (h.foiled_of_answer steady flies stage (by rw [answered]; simp))
  | repeated call overdue fault stage taken =>
    -- a step whose connector is at work has no output yet
    have hbegun := (sound.booked.flights f (flight?_mem flies)).of_isUnderway (by rw [stage]; rfl)
    unfold Outputs.has at taken
    rw [hbegun.2] at taken
    cases taken

theorem Move.derived {r r' : Run} {lost : List String} {f : Flight} (move : Move r r' f)
    (sound : Sound r lost) (steady : r.plan.Steady answer) (flies : r.flight? f.id = some f)
    (h : Derived answer r) : Derived answer r' := by
  have hf := flight?_mem flies
  have hsupplied := sound.supplied hf
  cases move with
  | opens due stage shift =>
    exact shift.derived_of_outputs sound.formed sound.placed (by simp) (by simp)
      (by simp [Stage.report?]) flies rfl h
  | prepares due input connector stage built found timed shift =>
    rw [h.read_eq_known] at built
    refine shift.derived_of_outputs sound.formed sound.placed ?_ (by simp) (by simp [Stage.report?])
      flies rfl h
    rintro _ _ ⟨⟩
    exact ⟨found, ⟨hsupplied, built⟩, timed⟩
  | calls due input connector overdue stage shift =>
    have hreadied := h.entering f hf input connector stage
    refine shift.derived_of_outputs sound.formed sound.placed (by simp) ?_ (by simp [Stage.report?])
      flies rfl h
    rintro _ _ ⟨⟩
    exact ⟨input, connector, r.environment, hreadied, rfl⟩
  | fails due failure why shift =>
    refine shift.derived_of_outputs sound.formed sound.placed (by simp) (by simp) ?_ flies rfl h
    rintro x ⟨⟩
    exact ⟨rfl, fun _ => why.explained sound steady flies h r.now⟩
  | succeeds due call overdue output seen outputs stage answered copyable recorded shift =>
    obtain ⟨input, connector, hreadied, hanswer⟩ := h.answer_eq steady flies stage r.environment
    rw [answered] at hanswer
    have hget := Outputs.get?_record recorded
    -- the outputs that were there stay, and the new one is the answer to what the step was given
    have hnone := (Outputs.record_eq_ok recorded).1
    refine shift.derived sound.formed sound.placed ?_ ?_ (by simp) (by simp) ?_ flies rfl h
    · intro id other hother
      have hne : id ≠ f.id := by
        rintro rfl
        rw [hnone] at hother
        cases hother
      rw [hget, if_neg hne]
      exact hother
    · intro id other hother
      rw [hget] at hother
      by_cases hid : id = f.id
      · rw [if_pos hid] at hother
        cases hother
        refine .inr ⟨f.item, sound.placed.flying f hf, hid.symm, ?_⟩
        cases output with
        | value v => exact ⟨input, connector, v, rfl, hreadied, hanswer.symm⟩
        | shared => exact absurd hanswer.symm (steady.own _ _ _)
        | uncopyable fault => exact absurd rfl (copyable fault)
      · rw [if_neg hid] at hother
        exact .inl hother
    · rintro x ⟨⟩
      exact ⟨rfl, fun hnot => absurd rfl hnot⟩
  | ends report stage shift =>
    refine shift.derived_of_outputs sound.formed sound.placed (by simp) (by simp) ?_ flies rfl h
    rintro x ⟨⟩
    have hreport : f.stage.report? = some report := by rw [stage]; rfl
    exact ⟨sound.placed.own f hf report hreport, h.faults f hf report hreport⟩

/-- A step that is given up before its end is told cannot succeed, or the listener gives it up. -/
theorem GivesUp.explained {r : Run} {lost : List String} {f : Flight} (gives : GivesUp r f)
    (sound : Sound r lost) (steady : r.plan.Steady answer) (flies : r.flight? f.id = some f)
    (h : Derived answer r) : Foiled answer r f.item ∨ r.Meddled := by
  have hgrounds := sound.judged.grounds f (flight?_mem flies)
  cases gives with
  | start stage =>
    rw [stage] at hgrounds
    exact .inr (.inr ⟨_, hgrounds rfl⟩)
  | answer call overdue stage answered =>
    exact .inl (h.foiled_of_answer steady flies stage (by rw [answered]; simp))
  | last report stage =>
    rw [stage] at hgrounds
    exact .inr (.inr ⟨_, hgrounds rfl⟩)

theorem Cut.derived {r r' : Run} {lost : List String} {f : Flight} (cut : Cut r r' f)
    (called : r.heeded = true ∨ r.expired.isSome = true ∨ GivesUp r f) (sound : Sound r lost)
    (steady : r.plan.Steady answer) (unstopped : r.expired = none)
    (flies : r.flight? f.id = some f) (h : Derived answer r) : Derived answer r' := by
  cases cut with
  | past stage same =>
    rw [same]
    exact { h with }
  | drops stage shift =>
    exact shift.derived_of_outputs sound.formed sound.placed (by simp) (by simp)
      (by simp [Stage.report?]) flies rfl h
  | loses report givenUp stage shift =>
    exact shift.derived_of_outputs sound.formed sound.placed (by simp) (by simp)
      (by simp [Stage.report?]) flies rfl h
  | stops due stage shift =>
    refine shift.derived_of_outputs sound.formed sound.placed (by simp) (by simp) ?_ flies rfl h
    rintro x ⟨⟩
    refine ⟨rfl, fun _ => ?_⟩
    rcases called with hheeded | hexpired | hgives
    · exact .inr (.inr (.inl hheeded))
    · rw [unstopped] at hexpired
      cases hexpired
    · exact (hgives.explained sound steady flies h).imp_right .inr

/-- Every change keeps derivations. -/
theorem Derived.change {r r' : Run} {lost more : List String} (sound : Sound r lost)
    (steady : r.plan.Steady answer) (unstopped : r.expired = none) (h : Derived answer r)
    (change : Change r r' more) : Derived answer r' := by
  cases change with
  | stirs stir => exact stir.toAlike.derived sound.formed sound.placed h
  | moves flies move => exact move.derived sound steady flies h
  | cuts called flies cut => exact cut.derived called sound steady unstopped flies h
  | heeds running asked =>
    exact
      { values := h.values, entering := h.entering, calling := h.calling
        faults := fun _ _ _ _ _ => .inr (.inr (.inl rfl))
        reports := fun _ _ _ => .inr (.inr (.inl rfl)) }
  | collects running =>
    rw [collect_eq]
    refine
      { values := h.values
        entering := fun f hf => h.entering f (List.mem_of_mem_filter hf)
        calling := fun f hf => h.calling f (List.mem_of_mem_filter hf)
        faults := fun f hf => h.faults f (List.mem_of_mem_filter hf)
        reports := ?_ }
    intro x hx herror
    rcases List.mem_append.1 hx with hx | hx
    · exact h.reports x hx herror
    · obtain ⟨f, hf, hstage, -⟩ := sound.placed.mem_overReports hx
      exact h.faults f hf x (by rw [hstage]; rfl) herror
  | launches running may first =>
    refine
      { values := h.values, entering := ?_, calling := ?_, faults := ?_, reports := h.reports }
    · intro f hf input connector hstage
      rcases List.mem_append.1 hf with hf | hf
      · exact h.entering f hf input connector hstage
      · rw [List.mem_singleton.1 hf] at hstage
        cases hstage
    · intro f hf call overdue hstage
      rcases List.mem_append.1 hf with hf | hf
      · exact h.calling f hf call overdue hstage
      · rw [List.mem_singleton.1 hf] at hstage
        cases hstage
    · intro f hf x hx
      rcases List.mem_append.1 hf with hf | hf
      · exact h.faults f hf x hx
      · rw [List.mem_singleton.1 hf] at hx
        cases hx
  | concludes running idle stuck =>
    exact (conclude_alike r).derived sound.formed sound.placed h
  | closes phase => exact (close_alike r _).derived sound.formed sound.placed h

/-- Outputs and failures have a derivation in all of the history of a run that its time limit does
not stop. -/
theorem Sound.derived_performAll {r : Run} {lost : List String} (h : Sound r lost)
    (steady : r.plan.Steady answer) (derived : r.expired = none → Derived answer r)
    (acts : List Act) :
    (r.performAll acts).expired = none → Derived answer (r.performAll acts) := by
  induction acts generalizing r lost with
  | nil => exact derived
  | cons a acts ih =>
    have hact := Run.perform_induction (a := a)
      (motive := fun q gone => Sound q gone ∧ q.plan = r.plan ∧
        (q.expired = none → Derived answer q)) lost
      h.placed.flies_once ⟨h, rfl, derived⟩ ?_ ?_
    · obtain ⟨hsound, hplan, hderived⟩ := hact
      exact ih hsound (by rw [hplan]; exact steady) hderived
    · intro q q' gone more ⟨hsound, hplan, hderived⟩ change
      obtain ⟨hplan', -, hexpired'⟩ := change.keeps
      refine ⟨hsound.change change, hplan'.trans hplan, fun hexpired => ?_⟩
      rw [hexpired'] at hexpired
      exact (hderived hexpired).change hsound (by rw [hplan]; exact steady) hexpired change
    · intro limit _ hreached
      refine ⟨h.stoppedBy hreached, rfl, fun hexpired => ?_⟩
      cases hexpired

/-! ## Two runs of one pipeline -/

/-- Two runs that are about the same, but for when anything happens in them. -/
structure Peers (r r' : Run) : Prop where
  plans : r.plan.Variant r'.plan
  inputs : r'.inputs = r.inputs

theorem Peers.refl (r : Run) : Peers r r := ⟨.refl r.plan, rfl⟩

theorem Peers.symm {r r' : Run} (h : Peers r r') : Peers r' r := ⟨h.plans.symm, h.inputs.symm⟩

/-- A step that has outputs in both runs has the same output: by induction on the order of the
pipeline, it was built from the same outputs. -/
theorem Derived.output_unique {r r' : Run} (h : Derived answer r) (h' : Derived answer r')
    (peers : Peers r r') (formed : r.plan.pipeline.WellFormed) (count : Nat) :
    ∀ front s back, r.plan.pipeline.steps = front ++ s :: back → front.length = count →
      ∀ output output', r.outputs.get? s.step.id = some output →
        r'.outputs.get? s.step.id = some output' → output = output' := by
  induction count using Nat.strongRecOn with
  | _ count ih =>
    intro front s back hsteps hcount output output' hget hget'
    have hs : s ∈ r.plan.pipeline.steps := by
      rw [hsteps]
      exact List.mem_append_right _ List.mem_cons_self
    obtain ⟨t, ht, hid, input, -, v, rfl, ⟨-, hfed, -⟩, hanswer⟩ := h.values _ output hget
    obtain ⟨t', ht', hid', input', -, v', rfl, ⟨-, hfed', -⟩, hanswer'⟩ := h'.values _ output' hget'
    rw [peers.plans.pipeline] at ht'
    rw [formed.step_unique ht hs hid] at hfed hanswer
    rw [formed.step_unique ht' hs hid'] at hfed' hanswer'
    -- the steps that `s` waits for stand before it, so they have the same outputs
    have hknown : ∀ id ∈ s.dependsOn, r.known id = r'.known id := by
      intro id hdep
      have hhas := hfed.1 id hdep
      have hhas' := hfed'.1 id hdep
      unfold Outputs.has at hhas hhas'
      obtain ⟨given, hgiven⟩ := Option.isSome_iff_exists.1 hhas
      obtain ⟨given', hgiven'⟩ := Option.isSome_iff_exists.1 hhas'
      obtain ⟨u, hu, rfl⟩ := List.mem_map.1 (formed.dependsOn_before front s back hsteps id hdep)
      obtain ⟨before, after, rfl⟩ := List.append_of_mem hu
      rw [List.append_assoc, List.cons_append] at hsteps
      rw [List.length_append] at hcount
      have hless : before.length < count := by
        rw [← hcount, List.length_cons]
        omega
      have hsame := ih before.length hless before u _ hsteps rfl given given' hgiven hgiven'
      unfold known Outputs.read
      rw [hgiven, hgiven', hsame]
    have hbuilt := hfed.2
    rw [formed.build_congr hs hknown, ← peers.inputs, hfed'.2] at hbuilt
    cases hbuilt
    rw [peers.plans.context, hanswer] at hanswer'
    cases hanswer'
    rfl

/-- The same is known in both runs of the steps that a step waits for. -/
theorem Derived.known_eq {r r' : Run} (h : Derived answer r) (h' : Derived answer r')
    (peers : Peers r r') (formed : r.plan.pipeline.WellFormed) {id : String}
    (has : r.outputs.has id = true) (has' : r'.outputs.has id = true) :
    r.known id = r'.known id := by
  unfold Outputs.has at has has'
  obtain ⟨output, hget⟩ := Option.isSome_iff_exists.1 has
  obtain ⟨output', hget'⟩ := Option.isSome_iff_exists.1 has'
  obtain ⟨s, hs, rfl, -⟩ := h.values id output hget
  obtain ⟨front, back, hsteps⟩ := List.append_of_mem hs
  have hsame := h.output_unique h' peers formed _ front s back hsteps rfl output output' hget hget'
  unfold known Outputs.read
  rw [hget, hget', hsame]

/-- A step that has an output in one run, in which all steps have, does not fail in the other. -/
theorem Derived.not_foiled {r r' : Run} (h : Derived answer r) (h' : Derived answer r')
    (peers : Peers r r') (formed : r.plan.pipeline.WellFormed)
    (all : ∀ s ∈ r.plan.pipeline.steps, r.outputs.has s.step.id = true) {s : PipelineStep}
    (hs : s ∈ r.plan.pipeline.steps) : ¬Foiled answer r' s := by
  have hhas := all s hs
  unfold Outputs.has at hhas
  obtain ⟨output, hget⟩ := Option.isSome_iff_exists.1 hhas
  obtain ⟨t, ht, hid, input, connector, v, rfl, ⟨hconnected, hfed, htimed⟩, hanswer⟩ :=
    h.values _ output hget
  have hts := formed.step_unique ht hs hid
  subst hts
  -- what is built of the input in the other run is built in this one as well
  have hsame : ∀ built, r'.Fed t built → r.Fed t built := by
    intro built hbuilt
    refine ⟨hfed.1, ?_⟩
    rw [← hbuilt.2, peers.inputs]
    exact formed.build_congr hs
      (fun id hid => h.known_eq h' peers formed (hfed.1 id hid) (hbuilt.1 id hid)) r.inputs
  rintro (⟨fault, hbuilt⟩ | ⟨failure, hfound⟩ | huntimed | ⟨input', hbuilt, hrefused⟩)
  · have hfault := (hsame _ hbuilt).2
    rw [hfed.2] at hfault
    cases hfault
  · obtain ⟨other, hother⟩ := (peers.plans.connected t.step).1 ⟨connector, hconnected⟩
    rw [hfound] at hother
    cases hother
  · refine huntimed fun limit hlimit => htimed limit ?_
    rw [← peers.plans.stepLimit]
    exact hlimit
  · have hinput := (hsame _ hbuilt).2
    rw [hfed.2] at hinput
    cases hinput
    exact hrefused v (by rw [peers.plans.context]; exact hanswer)

end Run

end Conduit
