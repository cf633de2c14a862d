import Conduit.Proofs.Run.Completion
import Conduit.Proofs.Run.Derivation
import Conduit.Proofs.Run.Invariant

/-!
# Outcomes do not depend on the schedule

Two runs of one pipeline in one context, with connectors whose answers depend on the step, its input
and the context alone, come to the same outcome, however many steps are in flight at once and
however long anything takes: both are completed, with the same outputs, or neither is. That holds as
long as they are not cancelled, no time limit is reached and the listener gives up nothing.

* `Run.Undisturbed` — a run that was not cancelled and reached no time limit, and whose listener
  gives up nothing;
* `Run.Serene` — such a run that is over;
* `Run.Serene.completes_iff` — when such a run is completed;
* `Run.completes_independent` — the outcome does not depend on the schedule.
-/

namespace Conduit

/-- A result says that a step succeeded and gave an output, and says nothing else of it. -/
def RunResult.Gives (result : RunResult) (id : String) (v : Value) : Prop :=
  (∃ x ∈ result.steps, x.step = id) ∧
    ∀ x ∈ result.steps, x.step = id → x.status = .success ∧ x.output = v

namespace Run

/-- A run returned a result that says that it is completed. -/
def Completes (r : Run) (result : RunResult) : Prop :=
  r.returned? = some result ∧ result.state = .completed

variable {answer : Step → Value → Context → Except Trouble Output}

/-- A run that was not cancelled, in which no time limit was reached and whose listener gives up
nothing. -/
structure Undisturbed (r : Run) : Prop where
  uncancelled : r.cancelled = false
  unstopped : r.expired = none
  timely : ∀ x ∈ r.reports, ¬r.Late x
  kept : ∀ id, ¬r.plan.Forsakes id
  heard : r.HeardOut

/-- A run that was begun and is over, and was not disturbed. -/
structure Serene (answer : Step → Value → Context → Except Trouble Output) (plan : Plan)
    (inputs : Members) (r : Run) : Prop extends Undisturbed r where
  sound : ∃ lost, Sound r lost
  derived : Derived answer r
  about : r.plan = plan ∧ r.inputs = inputs
  ended : r.isOver = true

/-! ## The end of a serene run -/

/-- In a serene run in which all went well every step was reported. -/
theorem Serene.exists_report {plan : Plan} {inputs : Members} {r : Run}
    (h : Serene answer plan inputs r) (all : r.AllSucceeded) {s : PipelineStep}
    (hs : s ∈ plan.pipeline.steps) :
    ∃ x ∈ r.reports, x.id = s.step.id ∧ x.status = .success := by
  obtain ⟨lost, hsound⟩ := h.sound
  exact hsound.exists_report (all.intact h.kept) h.ended
    (hsound.judged.failure_of_allSucceeded h.unstopped all) h.uncancelled
    (by rw [h.about.1]; exact hs)

/-- In a serene run in which all went well every step has an output. -/
theorem Serene.has {plan : Plan} {inputs : Members} {r : Run} (h : Serene answer plan inputs r)
    (all : r.AllSucceeded) {s : PipelineStep} (hs : s ∈ plan.pipeline.steps) :
    r.outputs.has s.step.id = true := by
  obtain ⟨lost, hsound⟩ := h.sound
  obtain ⟨x, hx, hid, hstatus⟩ := h.exists_report all hs
  rw [← hid]
  exact hsound.booked.has_of_report hx hstatus

/-- Only steps of the pipeline have outputs. -/
theorem Derived.mem_stepIds {r : Run} (h : Derived answer r) {id : String}
    (has : r.outputs.has id = true) : id ∈ r.plan.pipeline.stepIds := by
  obtain ⟨output, hget⟩ := Option.isSome_iff_exists.1 has
  obtain ⟨s, hs, rfl, -⟩ := h.values id output hget
  exact List.mem_map_of_mem hs

/-- If all steps have outputs in one of two serene runs, all went well in the other: a step that
does not succeed does so because of outputs, which are the same. -/
theorem Serene.allSucceeded {plan plan' : Plan} {inputs : Members} {r r' : Run}
    (h : Serene answer plan inputs r) (h' : Serene answer plan' inputs r') (peers : Peers r r')
    (all : ∀ s ∈ r.plan.pipeline.steps, r.outputs.has s.step.id = true) : r'.AllSucceeded := by
  obtain ⟨lost, hsound⟩ := h.sound
  obtain ⟨lost', hsound'⟩ := h'.sound
  intro x hx
  by_contra hfailed
  have hx' : x.item ∈ r.plan.pipeline.steps := by
    rw [← peers.plans.pipeline]
    exact hsound'.placed.reported x hx
  -- a failure has a cause in the outputs, which are the same, or came with time or from outside
  rcases h'.derived.reports x hx hfailed with hfoiled | hlate | hheeded | ⟨id, hforsakes⟩
  · exact h.derived.not_foiled h'.derived peers hsound.formed all hx' hfoiled
  · exact h'.timely x hx hlate
  · have hcancelled := hsound'.judged.heeded hheeded
    rw [h'.uncancelled] at hcancelled
    cases hcancelled
  · exact h'.kept id hforsakes

/-- A serene run is completed when all went well and the output of the pipeline can be built. -/
theorem Serene.completes_iff {plan : Plan} {inputs : Members} {r : Run}
    (h : Serene answer plan inputs r) {result : RunResult} :
    r.Completes result ↔ r.AllSucceeded ∧
      ∃ output, plan.pipeline.buildOutput r.known inputs = .ok output ∧
        result = r.successful output := by
  obtain ⟨lost, hsound⟩ := h.sound
  obtain ⟨-, -, hreturned⟩ := hsound.standing.of_isOver h.ended
  have hbuilt : r.plan.pipeline.buildOutput (r.outputs.read r.environment) r.inputs =
      plan.pipeline.buildOutput r.known inputs := by
    rw [h.derived.read_eq_known, h.about.1, h.about.2]
  constructor
  · rintro ⟨hreturn, hstate⟩
    rcases result_cases ((hreturned result).1 hreturn).1 with ⟨failure, -, rfl⟩ | ⟨-, -, rfl⟩ |
      ⟨-, hsize, output, houtput, rfl⟩
    · cases hstate
    · cases hstate
    · have hall := hsound.has_of_size_le (fun id hhas => h.derived.mem_stepIds hhas) hsize
      exact ⟨h.allSucceeded h (.refl r) hall, output, hbuilt ▸ houtput, rfl⟩
  · rintro ⟨hall, output, houtput, rfl⟩
    -- all steps have outputs, so the run does not count as cancelled
    have hsize : ¬r.outputs.size < r.plan.pipeline.steps.length := by
      refine Nat.not_lt.2 (hsound.size_le_of_has fun s hs => h.has hall ?_)
      rw [← h.about.1]
      exact hs
    have hresult : r.result = .ok (r.successful output) := by
      unfold result
      rw [hsound.judged.failure_of_allSucceeded h.unstopped hall]
      dsimp only
      rw [if_neg hsize, hbuilt, houtput]
    have hheard := h.heard _ (hsound.standing.done_mem h.ended hresult)
    exact ⟨(hreturned _).2 ⟨hresult, hheard⟩, rfl⟩

/-- The result of a completed run gives the outputs of the steps. -/
theorem Serene.gives {plan : Plan} {inputs : Members} {r : Run} (h : Serene answer plan inputs r)
    (all : r.AllSucceeded) {s : PipelineStep} (hs : s ∈ plan.pipeline.steps) (output : Value) :
    ∃ v, r.outputs.get? s.step.id = some (.value v) ∧
      (r.successful output).Gives s.step.id v := by
  obtain ⟨lost, hsound⟩ := h.sound
  obtain ⟨x, hx, hid, hstatus⟩ := h.exists_report all hs
  have hrecorded : ∀ y ∈ r.reports, y.id = s.step.id →
      r.outputs.get? s.step.id = some y.output := by
    intro y hy hyid
    have hgiven := (hsound.booked.reports y hy).2
    unfold Report.given at hgiven
    rw [if_pos (all y hy), hyid] at hgiven
    exact hgiven
  have hget := hrecorded x hx hid
  obtain ⟨t, -, -, input, connector, v, hv, -⟩ := h.derived.values _ _ hget
  refine ⟨v, by rw [hget, hv], ?_, ?_⟩
  · exact ⟨_, mem_stepResults.2 ⟨x, hx, rfl⟩, hid⟩
  · intro z hz hzid
    obtain ⟨y, hy, rfl⟩ := mem_stepResults.1 hz
    have hyget := hrecorded y hy hzid
    refine ⟨all y hy, ?_⟩
    rw [hget, hv] at hyget
    show y.output.read r.environment = v
    rw [← Option.some.inj hyget]
    rfl

/-! ## Two serene runs -/

/-- Two serene runs in which all went well know the same outputs. -/
theorem Serene.known_eq {plan plan' : Plan} {inputs : Members} {r r' : Run}
    (h : Serene answer plan inputs r) (h' : Serene answer plan' inputs r') (peers : Peers r r')
    (all : r.AllSucceeded) (all' : r'.AllSucceeded) : r.known = r'.known := by
  obtain ⟨lost, hsound⟩ := h.sound
  have hpipeline : plan'.pipeline = plan.pipeline := by
    rw [← h.about.1, ← h'.about.1]
    exact peers.plans.pipeline
  funext id
  by_cases hid : id ∈ plan.pipeline.stepIds
  · obtain ⟨s, hs, rfl⟩ := List.mem_map.1 hid
    exact h.derived.known_eq h'.derived peers hsound.formed (h.has all hs)
      (h'.has all' (hpipeline ▸ hs))
  · -- only steps of the pipeline have outputs
    have hnone : r.outputs.get? id = none := by
      refine Option.not_isSome_iff_eq_none.1 fun hhas => hid ?_
      rw [← h.about.1]
      exact h.derived.mem_stepIds hhas
    have hnone' : r'.outputs.get? id = none := by
      refine Option.not_isSome_iff_eq_none.1 fun hhas => hid ?_
      rw [← hpipeline, ← h'.about.1]
      exact h'.derived.mem_stepIds hhas
    unfold known Outputs.read
    rw [hnone, hnone']

/-- If one of two serene runs is completed, so is the other, with the same outputs. -/
theorem Serene.completes {plan plan' : Plan} {inputs : Members} {r r' : Run}
    (h : Serene answer plan inputs r) (h' : Serene answer plan' inputs r') (peers : Peers r r')
    {result : RunResult} (completes : r.Completes result) :
    ∃ result', r'.Completes result' ∧ result.output = result'.output ∧
      ∀ s ∈ plan.pipeline.steps, ∃ v, result.Gives s.step.id v ∧ result'.Gives s.step.id v := by
  obtain ⟨hall, output, hbuilt, rfl⟩ := h.completes_iff.1 completes
  have hall' := h.allSucceeded h' peers fun s hs => h.has hall (by rw [← h.about.1]; exact hs)
  have hknown := h.known_eq h' peers hall hall'
  have hpipeline : plan'.pipeline = plan.pipeline := by
    rw [← h.about.1, ← h'.about.1]
    exact peers.plans.pipeline
  refine ⟨r'.successful output, h'.completes_iff.2 ⟨hall', output, ?_, rfl⟩, rfl, ?_⟩
  · rw [hpipeline, ← hknown]
    exact hbuilt
  · intro s hs
    obtain ⟨v, hget, hgives⟩ := h.gives hall hs output
    obtain ⟨v', hget', hgives'⟩ := h'.gives hall' (hpipeline ▸ hs) output
    have hsame := congrFun hknown s.step.id
    unfold known Outputs.read at hsame
    rw [hget, hget'] at hsame
    cases hsame
    exact ⟨v, hgives, hgives'⟩

/-! ## Runs from their beginning -/

/-- Nothing has an output before anything is dispatched. -/
theorem Derived.loaded (plan : Plan) (now : Nat) (environment : Environment)
    (reader : Option Reader) (cancelled : Bool) (inputs : Members) :
    Derived answer (loaded plan now environment reader cancelled inputs) where
  values := by simp [Run.loaded, prepare, Outputs.get?]
  entering := by simp [Run.loaded, prepare]
  calling := by simp [Run.loaded, prepare]
  faults := by simp [Run.loaded, prepare]
  reports := by simp [Run.loaded, prepare]

/-- Outputs have a derivation when a run is begun. -/
theorem Derived.begin {plan : Plan} (steady : plan.Steady answer)
    (formed : plan.pipeline.WellFormed) (now : Nat) (environment : Environment)
    (reader : Option Reader) (cancelled : Bool) (inputs : Members) :
    Derived answer ((prepare plan now environment reader cancelled).begin inputs) := by
  have hall := begin_invariant
    (motive := fun q _ => q.plan = plan ∧ q.expired = none ∧ Derived answer q) formed ?_ now
    environment reader cancelled inputs ⟨rfl, rfl, .loaded _ _ _ _ _ _⟩
  · exact hall.2.2
  · intro q q' gone more hsound ⟨hplan, hexpired, hderived⟩ change
    obtain ⟨hplan', -, hexpired'⟩ := change.keeps
    refine ⟨hplan'.trans hplan, hexpired'.trans hexpired, ?_⟩
    exact hderived.change hsound (by rw [hplan]; exact steady) hexpired change

/-- An undisturbed run of a steady plan that can be begun is serene when it is over. -/
theorem Begins.serene {plan : Plan} {r : Run} (begins : Begins plan r) (steady : plan.Steady answer)
    {inputs : Members} (canBegin : plan.CanBegin inputs) (acts : List Act)
    (ended : (r.performAll acts).isOver = true) (undisturbed : Undisturbed (r.performAll acts)) :
    Serene answer plan inputs (r.performAll acts) := by
  have hderived : Derived answer r := by
    obtain ⟨d, schema, hcompiled⟩ := begins.compiled
    obtain ⟨now, environment, reader, cancelled, rfl⟩ := begins.entered
    rw [enter_eq_begin canBegin.1 canBegin.2]
    exact .begin steady (.of_compile hcompiled) now environment reader cancelled inputs
  cases begins.entry with
  | begun inputs' accepted timed sound about fresh =>
    rw [canBegin.1] at accepted
    cases accepted
    obtain ⟨hplan, hinputs⟩ := sound.about_performAll acts
    exact
      { undisturbed with
        sound := ⟨_, sound.performAll acts⟩
        derived := sound.derived_performAll (by rw [about.1]; exact steady) (fun _ => hderived) acts
          undisturbed.unstopped
        about := ⟨hplan.trans about.1, hinputs.trans about.2⟩
        ended := ended }
  | refused failure rejected rests reported =>
    rw [canBegin.1] at rejected
    cases rejected
  | raised fault faulty rests ended =>
    rcases faulty with hfault | ⟨-, hlimit⟩
    · rw [canBegin.1] at hfault
      cases hfault
    · rw [canBegin.2] at hlimit
      cases hlimit

/-- A run that cannot be begun is never completed. -/
theorem Begins.not_completes {plan : Plan} {r : Run} (begins : Begins plan r)
    (cannot : ∀ inputs, ¬plan.CanBegin inputs)
    (acts : List Act) (result : RunResult) : ¬(r.performAll acts).Completes result := by
  rintro ⟨hreturned, hstate⟩
  have hphase := result?_of_returned? hreturned
  cases begins.entry with
  | begun inputs accepted timed sound about fresh => exact cannot inputs ⟨accepted, timed⟩
  | refused failure rejected rests reported =>
    obtain ⟨-, -, hresult, -⟩ := rests.performAll acts
    rw [hresult, reported] at hphase
    cases hphase
    cases hstate
  | raised fault faulty rests ended =>
    obtain ⟨time, hover⟩ := ended
    obtain ⟨-, -, -, hkept⟩ := rests.performAll acts
    rw [hkept _ _ hover] at hphase
    cases hphase

/-- Two runs of one pipeline in one context, with connectors that give the same answers, are both
completed with the same outputs, or neither is, however many steps may be in flight and however long
anything takes, if they are not disturbed. -/
theorem completes_independent {plan plan' : Plan} {r r' : Run} (begins : Begins plan r)
    (begins' : Begins plan' r') (variant : plan.Variant plan') (steady : plan.Steady answer)
    (steady' : plan'.Steady answer) (acts acts' : List Act)
    (undisturbed : (r.performAll acts).finish.Undisturbed)
    (undisturbed' : (r'.performAll acts').finish.Undisturbed) :
    (∃ result result', (r.performAll acts).finish.Completes result ∧
      (r'.performAll acts').finish.Completes result' ∧ result.output = result'.output ∧
      ∀ s ∈ plan.pipeline.steps, ∃ v, result.Gives s.step.id v ∧ result'.Gives s.step.id v) ∨
    ∀ result, ¬(r.performAll acts).finish.Completes result ∧
      ¬(r'.performAll acts').finish.Completes result := by
  obtain ⟨more, hmore, hover⟩ := begins.finish_eq acts
  obtain ⟨more', hmore', hover'⟩ := begins'.finish_eq acts'
  rw [hmore] at undisturbed ⊢
  rw [hmore'] at undisturbed' ⊢
  have hsame : ∀ inputs, plan'.CanBegin inputs ↔ plan.CanBegin inputs := by
    intro inputs
    unfold Plan.CanBegin
    rw [variant.pipeline, variant.context, variant.limit]
  -- both runs can be begun, with the same inputs, or neither can
  by_cases hcan : ∃ inputs, plan.CanBegin inputs
  · obtain ⟨inputs, hcan⟩ := hcan
    have h := begins.serene steady hcan more hover undisturbed
    have h' := begins'.serene steady' ((hsame inputs).2 hcan) more' hover' undisturbed'
    have hpeers : Peers (r.performAll more) (r'.performAll more') :=
      { plans := by rw [h.about.1, h'.about.1]; exact variant
        inputs := by rw [h.about.2, h'.about.2] }
    by_cases hcompletes : ∃ result, (r.performAll more).Completes result
    · obtain ⟨result, hcompletes⟩ := hcompletes
      obtain ⟨result', hrest⟩ := h.completes h' hpeers hcompletes
      exact .inl ⟨result, result', hcompletes, hrest⟩
    · refine .inr fun result => ⟨fun hcompletes' => hcompletes ⟨result, hcompletes'⟩, ?_⟩
      intro hcompletes'
      obtain ⟨other, hother, -⟩ := h'.completes h hpeers.symm hcompletes'
      exact hcompletes ⟨other, hother⟩
  · have hcannot : ∀ inputs, ¬plan.CanBegin inputs := fun inputs hinputs => hcan ⟨inputs, hinputs⟩
    refine .inr fun result => ⟨begins.not_completes hcannot more result, ?_⟩
    refine begins'.not_completes (fun inputs hinputs => ?_) more' result
    exact hcannot inputs ((hsame inputs).1 hinputs)

/-! ## One by one and side by side -/

/-- A connector that gives its input back after a while. -/
def echoAfter (delay : Step → Nat) : Connector where
  name := "echo"
  kind := .controlFlow
  call := fun step input _ environment =>
    (environment,
     { wait := .time (delay step)
       finish := fun environment => (environment, .ok (.value input)) })

/-- What such a connector answers. -/
def echoAnswer (_ : Step) (input : Value) (_ : Context) : Except Trouble Output :=
  .ok (.value input)

/-- A workflow of two steps and a third that joins their outputs. -/
def joining : Definition where
  id := "w"
  name := "W"
  steps :=
    [{ id := "a", kind := .controlFlow }, { id := "b", kind := .controlFlow },
     { id := "c", kind := .controlFlow }]
  mappings :=
    [{ source := .fixed, target := .step "a", targetPath := "x", value := .str "u" },
     { source := .fixed, target := .step "b", targetPath := "x", value := .str "v" },
     { source := .step "a", sourcePath := "x", target := .step "c", targetPath := "left" },
     { source := .step "b", sourcePath := "x", target := .step "c", targetPath := "right" }]

/-- The pipeline of that workflow with so many steps in flight that take so long. -/
def joiningPlan (count : Nat) (positive : 0 < count) (delay : Step → Nat) : Plan where
  executor :=
    { registry := .ofConnectors {} [echoAfter delay], concurrency := count,
      concurrency_pos := positive }
  pipeline := ((joining.compile none).toOption).getD default
  context := {}
  id := "r"
  origin := default

/-- Its steps have a connector if they are of the right kind. -/
theorem connectorOf_joiningPlan {count : Nat} {positive : 0 < count} {delay : Step → Nat}
    {step : Step} {connector : Connector} :
    (joiningPlan count positive delay).executor.registry.connectorOf step = .ok connector ↔
      step.kind = .controlFlow ∧ connector = echoAfter delay := by
  -- no toolkit has a connector of its own
  have htoolkit : ((step.toolkit.filter (!·.isEmpty)).bind fun t =>
      (joiningPlan count positive delay).executor.registry.byToolkit.lookup t) = none := by
    cases step.toolkit.filter (!·.isEmpty) <;> rfl
  unfold Registry.connectorOf Registry.resolve
  rw [htoolkit]
  constructor
  · intro hconnector
    cases hkind : step.kind <;> rw [hkind] at hconnector <;> cases hconnector
    exact ⟨rfl, rfl⟩
  · rintro ⟨hkind, rfl⟩
    rw [hkind]
    rfl

theorem joiningPlan_steady (count : Nat) (positive : 0 < count) (delay : Step → Nat) :
    (joiningPlan count positive delay).Steady echoAnswer where
  answers := by
    intro step connector hconnector input context before after
    rw [(connectorOf_joiningPlan.1 hconnector).2]
    rfl
  own := by simp [echoAnswer]

theorem joiningPlan_variant (count count' : Nat) (positive : 0 < count) (positive' : 0 < count')
    (delay delay' : Step → Nat) :
    (joiningPlan count positive delay).Variant (joiningPlan count' positive' delay') where
  pipeline := rfl
  context := rfl
  limit := rfl
  stepLimit := rfl
  connected := by
    intro step
    simp only [connectorOf_joiningPlan]
    constructor
    · rintro ⟨_, hkind, -⟩
      exact ⟨_, hkind, rfl⟩
    · rintro ⟨_, hkind, -⟩
      exact ⟨_, hkind, rfl⟩

theorem joiningPlan_begins (count : Nat) (positive : 0 < count) (delay : Step → Nat) :
    Begins (joiningPlan count positive delay)
      (enter (joiningPlan count positive delay) 0 {} none false) :=
  .of_isSome (by decide +kernel : (joining.compile none).toOption.isSome = true) rfl 0 {} none false

theorem joiningPlan_kept (count : Nat) (positive : 0 < count) (delay : Step → Nat) (id : String) :
    ¬(joiningPlan count positive delay).Forsakes id := by
  rintro ⟨e, -, hgives⟩
  simp [Delivery.givesUp, joiningPlan] at hgives

/-- The steps are carried out one by one. -/
def oneByOnePlan : Plan := joiningPlan 1 Nat.one_pos fun _ => 10

/-- Two steps are carried out side by side, and the first is slow. -/
def sideBySidePlan : Plan := joiningPlan 2 Nat.two_pos fun step => if step.id = "a" then 30 else 5

/-- The run of the steps one by one, at its entry. -/
def oneByOne : Run := enter oneByOnePlan 0 {} none false

/-- The run of the steps side by side, at its entry. -/
def sideBySide : Run := enter sideBySidePlan 0 {} none false

theorem oneByOne_begins : Begins oneByOnePlan oneByOne := joiningPlan_begins _ _ _

theorem sideBySide_begins : Begins sideBySidePlan sideBySide := joiningPlan_begins _ _ _

theorem oneByOne_undisturbed : (oneByOne.performAll []).finish.Undisturbed where
  uncancelled := by decide +kernel
  unstopped := by decide +kernel
  timely := by
    have hnone : ∀ x ∈ (oneByOne.performAll []).finish.reports, x.failure = none := by
      decide +kernel
    rintro x hx ⟨limit, -, hfailure⟩
    rw [hnone x hx] at hfailure
    cases hfailure
  kept := by
    rw [oneByOne_begins.finish_plan]
    exact joiningPlan_kept _ _ _
  heard := by
    intro result _
    rw [oneByOne_begins.finish_plan]
    rfl

theorem sideBySide_undisturbed : (sideBySide.performAll []).finish.Undisturbed where
  uncancelled := by decide +kernel
  unstopped := by decide +kernel
  timely := by
    have hnone : ∀ x ∈ (sideBySide.performAll []).finish.reports, x.failure = none := by
      decide +kernel
    rintro x hx ⟨limit, -, hfailure⟩
    rw [hnone x hx] at hfailure
    cases hfailure
  kept := by
    rw [sideBySide_begins.finish_plan]
    exact joiningPlan_kept _ _ _
  heard := by
    intro result _
    rw [sideBySide_begins.finish_plan]
    rfl

theorem completes_independent_joining :
    (∃ result result', (oneByOne.performAll []).finish.Completes result ∧
      (sideBySide.performAll []).finish.Completes result' ∧ result.output = result'.output ∧
      ∀ s ∈ oneByOnePlan.pipeline.steps, ∃ v,
        result.Gives s.step.id v ∧ result'.Gives s.step.id v) ∨
    ∀ result, ¬(oneByOne.performAll []).finish.Completes result ∧
      ¬(sideBySide.performAll []).finish.Completes result := by
  have hvariant : oneByOnePlan.Variant sideBySidePlan := joiningPlan_variant _ _ _ _ _ _
  have hsteady : oneByOnePlan.Steady echoAnswer := joiningPlan_steady _ _ _
  have hsteady' : sideBySidePlan.Steady echoAnswer := joiningPlan_steady _ _ _
  exact completes_independent oneByOne_begins sideBySide_begins hvariant hsteady hsteady' [] []
    oneByOne_undisturbed sideBySide_undisturbed

/-- Both runs join the outputs of the first two steps. -/
example : ((oneByOne.performAll []).finish.returned?.map RunResult.output =
      some (.object [("left", .str "u"), ("right", .str "v")])) ∧
    (sideBySide.performAll []).finish.returned?.map RunResult.output =
      some (.object [("left", .str "u"), ("right", .str "v")]) := by
  decide +kernel

end Run

end Conduit
