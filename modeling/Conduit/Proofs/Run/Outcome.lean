import Conduit.Proofs.Run.Derivation
import Conduit.Proofs.Run.Invariant

/-!
# What a report says is the step's own

In a run that its time limit does not stop, the report of a step says one of four things: the step
gave what its connector answered to its input, it failed for a reason of its own, it was
interrupted, and then it could be, or it was given up, by its connector or by the listener over its
start. Only the report of a step is lost that may be interrupted or that the listener gives up.

Nothing is asked of the connectors here. What they answer may depend on the environment at the time,
so of the input and the answer it is only said that there was an environment in which they came
about; the outputs that the input is built from do not change any more.

* `Run.Mishap`, `Run.Forgone`, `Run.Outcome` — what a report can say;
* `Run.Attested` — the invariant, kept by every change (`Run.Attested.change`);
* `Run.Begins.attested` — it holds in all of the history of a run.
-/

namespace Conduit.Run

/-! ## What a report can say -/

/-- In some environment the outputs of the steps that a step waits for make `built` of its input. -/
def Builds (r : Run) (s : PipelineStep) (built : Except BuildFault Value) : Prop :=
  r.Supplied s ∧ ∃ environment, s.mapper.build (r.outputs.read environment) r.inputs = built

/-- A step has its connector and an input for it. -/
def Equipped (r : Run) (s : PipelineStep) (input : Value) (connector : Connector) : Prop :=
  r.plan.executor.registry.connectorOf s.step = .ok connector ∧ r.Builds s (.ok input)

/-- `call` is how the connector of a step took its input. -/
def Called (r : Run) (s : PipelineStep) (call : Call) : Prop :=
  ∃ input connector before, r.Equipped s input connector ∧
    call = (connector.call s.step input r.plan.context before).2

/-- Why a step fails that is not interrupted. -/
inductive Mishap (r : Run) (s : PipelineStep) : Failure → Prop
  /-- Its input cannot be built. -/
  | unbuilt (fault : BuildFault) (built : r.Builds s (.error fault)) :
      Mishap r s (fault.trouble.stepFailure s.step.id)
  /-- It has no connector. -/
  | unconnected (failure : Failure)
      (found : r.plan.executor.registry.connectorOf s.step = .error failure) : Mishap r s failure
  /-- Its time is limited by what is no limit. -/
  | untimed (limit : TimeLimit) (fault : Fault) (limited : r.plan.executor.stepLimit? = some limit)
      (faulty : limit.callFault? = some fault) :
      Mishap r s ((Trouble.fault fault).stepFailure s.step.id)
  /-- Its time is over. -/
  | late (limit : TimeLimit) (limited : r.plan.executor.stepLimit? = some limit) :
      Mishap r s (stepTimeoutFailure s.step.id limit)
  /-- Its connector makes trouble. -/
  | refused (call : Call) (after : Environment) (trouble : Trouble) (called : r.Called s call)
      (answer : (call.finish after).2 = .error trouble) (kept : trouble ≠ .cancelled) :
      Mishap r s (trouble.stepFailure s.step.id)
  /-- Its output cannot be copied. -/
  | uncopyable (call : Call) (after : Environment) (fault : Fault) (called : r.Called s call)
      (answer : (call.finish after).2 = .ok (.uncopyable fault)) :
      Mishap r s (uncopyableFailure s.step.id fault)

/-- Why a step is given up before its end is told. -/
inductive Forgone (r : Run) (s : PipelineStep) : Prop
  /-- Its connector does that. -/
  | answered (call : Call) (after : Environment) (called : r.Called s call)
      (answer : (call.finish after).2 = .error .cancelled)
  /-- The listener does that over its start. -/
  | overStart (gives : r.plan.delivery.givesUp (.started s) = true)

/-- What a report says of a step that was not interrupted. -/
inductive Own (r : Run) (x : Report) : Prop
  /-- It gave what its connector answered. -/
  | gave (call : Call) (after : Environment) (status : x.status = .success)
      (called : r.Called x.item call) (answer : (call.finish after).2 = .ok x.output)
  /-- It failed for a reason of its own. -/
  | failed (failure : Failure) (status : x.status = .error) (because : x.failure = some failure)
      (why : r.Mishap x.item failure)

/-- What a report says of a step. -/
inductive Outcome (r : Run) (x : Report) : Prop
  | own (own : r.Own x)
  /-- The step was interrupted, as it may be. -/
  | interrupted (status : x.status = .cancelled) (because : x.failure = some (stepCancelled x.id))
      (allowed : r.plan.executor.mayInterrupt x.item.step = true)
  /-- The step was given up. -/
  | givenUp (status : x.status = .cancelled) (because : x.failure = some (stepCancelled x.id))
      (why : r.Forgone x.item)

/-- What is known of a step at a stage. -/
def Attests (r : Run) (s : PipelineStep) : Stage → Prop
  | .opening givenUp => givenUp = r.plan.delivery.givesUp (.started s)
  | .entering input connector => r.Equipped s input connector
  | .calling call _ => r.Called s call
  | .closing x _ => r.Outcome x
  | .ended (some x) => r.Outcome x
  | _ => True

/-- What is reported of steps has come about, and so has how far the steps in flight are. -/
structure Attested (r : Run) : Prop where
  flights : ∀ f ∈ r.flights, r.Attests f.item f.stage
  reports : ∀ x ∈ r.reports, r.Outcome x

/-! ## Outputs that stay -/

section Mono

variable {r r' : Run} (h : Extends r r') (formed : r.plan.pipeline.WellFormed) {s : PipelineStep}
  (hs : s ∈ r.plan.pipeline.steps)

include h formed hs

theorem Builds.mono {built : Except BuildFault Value} (builds : r.Builds s built) :
    r'.Builds s built := by
  obtain ⟨hsupplied, environment, hbuilt⟩ := builds
  exact ⟨hsupplied.mono h, environment, (hsupplied.build_eq h formed hs environment).trans hbuilt⟩

theorem Equipped.mono {input : Value} {connector : Connector}
    (equipped : r.Equipped s input connector) : r'.Equipped s input connector :=
  ⟨by rw [h.plan]; exact equipped.1, equipped.2.mono h formed hs⟩

theorem Called.mono {call : Call} (called : r.Called s call) : r'.Called s call := by
  obtain ⟨input, connector, before, hequipped, hcall⟩ := called
  exact ⟨input, connector, before, hequipped.mono h formed hs, by rw [h.plan]; exact hcall⟩

theorem Mishap.mono {failure : Failure} (mishap : r.Mishap s failure) : r'.Mishap s failure := by
  cases mishap with
  | unbuilt fault built => exact .unbuilt fault (built.mono h formed hs)
  | unconnected failure found => exact .unconnected failure (by rw [h.plan]; exact found)
  | untimed limit fault limited faulty =>
    exact .untimed limit fault (by rw [h.plan]; exact limited) faulty
  | late limit limited => exact .late limit (by rw [h.plan]; exact limited)
  | refused call after trouble called answer kept =>
    exact .refused call after trouble (called.mono h formed hs) answer kept
  | uncopyable call after fault called answer =>
    exact .uncopyable call after fault (called.mono h formed hs) answer

theorem Forgone.mono (forgone : r.Forgone s) : r'.Forgone s := by
  cases forgone with
  | answered call after called answer => exact .answered call after (called.mono h formed hs) answer
  | overStart gives => exact .overStart (by rw [h.plan]; exact gives)

end Mono

theorem Outcome.mono {r r' : Run} (h : Extends r r') (formed : r.plan.pipeline.WellFormed)
    {x : Report} (hx : x.item ∈ r.plan.pipeline.steps) (outcome : r.Outcome x) : r'.Outcome x := by
  cases outcome with
  | own own =>
    cases own with
    | gave call after status called answer =>
      exact .own (.gave call after status (called.mono h formed hx) answer)
    | failed failure status because why =>
      exact .own (.failed failure status because (why.mono h formed hx))
  | interrupted status because allowed =>
    exact .interrupted status because (by rw [h.plan]; exact allowed)
  | givenUp status because why => exact .givenUp status because (why.mono h formed hx)

/-- What is known of a step in flight stays known when outputs are added. -/
theorem Attests.mono {r r' : Run} (h : Extends r r') (formed : r.plan.pipeline.WellFormed)
    (placed : Placed r) {f : Flight} (hf : f ∈ r.flights) (attests : r.Attests f.item f.stage) :
    r'.Attests f.item f.stage := by
  have hitem := placed.flying f hf
  have hreport : ∀ x, f.stage.report? = some x → r.Outcome x → r'.Outcome x := by
    intro x hx houtcome
    refine houtcome.mono h formed ?_
    rw [placed.own f hf x hx]
    exact hitem
  unfold Attests at attests ⊢
  cases hstage : f.stage with
  | opening givenUp =>
    rw [hstage] at attests
    show givenUp = r'.plan.delivery.givesUp _
    rw [h.plan]
    exact attests
  | entering input connector =>
    rw [hstage] at attests
    exact attests.mono h formed hitem
  | calling call overdue =>
    rw [hstage] at attests
    exact attests.mono h formed hitem
  | closing x givenUp =>
    rw [hstage] at attests
    exact hreport x (by rw [hstage]; rfl) attests
  | ended report =>
    rw [hstage] at attests
    cases report with
    | some x => exact hreport x (by rw [hstage]; rfl) attests
    | none => trivial
  | _ => trivial

/-! ## Attestation -/

/-- Attestation is kept where outputs are added, if the steps in flight are those that were there or
are attested anew, and steps are reported that were over. -/
theorem Attested.mono {r r' : Run} (h : Attested r) (ext : Extends r r')
    (formed : r.plan.pipeline.WellFormed) (placed : Placed r)
    (flights : ∀ e ∈ r'.flights, (∃ f ∈ r.flights, e.item = f.item ∧ e.stage = f.stage) ∨
      r'.Attests e.item e.stage)
    (reports : ∀ x ∈ r'.reports, x ∈ r.reports ∨ ∃ f ∈ r.flights, f.stage = .ended (some x)) :
    Attested r' := by
  constructor
  · intro e he
    rcases flights e he with ⟨f, hf, hitem, hstage⟩ | hattests
    · rw [hitem, hstage]
      exact (h.flights f hf).mono ext formed placed hf
    · exact hattests
  · intro x hx
    rcases reports x hx with hx | ⟨f, hf, hstage⟩
    · exact (h.reports x hx).mono ext formed (placed.reported x hx)
    · have hattests := (h.flights f hf).mono ext formed placed hf
      rw [hstage] at hattests
      exact hattests

theorem Alike.attested {r r' : Run} (alike : Alike r r') (formed : r.plan.pipeline.WellFormed)
    (placed : Placed r) (h : Attested r) : Attested r' := by
  have hext : Extends r r' :=
    .of_outputs alike.plan alike.inputs alike.outputs fun hh => alike.heeded.trans hh
  refine h.mono hext formed placed ?_ ?_
  · intro e he
    obtain ⟨f, hf, hitem, -, hstage⟩ := alike.mem_flights he
    exact .inl ⟨f, hf, hitem, hstage⟩
  · intro x hx
    rw [alike.reports] at hx
    exact .inl hx

/-- A shift of a step is attested if the step is at its new stage, and no output is lost. -/
theorem Shift.attested {r r' : Run} {g : Flight} {told : List RunEvent} {outputs : Outputs}
    (shift : Shift r r' g told outputs) (formed : r.plan.pipeline.WellFormed) (placed : Placed r)
    (kept : ∀ id output, r.outputs.get? id = some output → outputs.get? id = some output)
    (now : Extends r r' → r'.Attests g.item g.stage) (h : Attested r) : Attested r' := by
  have hext : Extends r r' := by
    refine ⟨shift.plan, shift.inputs, fun id output hget => ?_, fun hh => shift.heeded.trans hh⟩
    rw [shift.outputs]
    exact kept id output hget
  refine h.mono hext formed placed ?_ ?_
  · intro e he
    rcases shift.mem_flights he with rfl | ⟨he, -⟩
    · exact .inr (now hext)
    · exact .inl ⟨e, he, rfl, rfl⟩
  · intro x hx
    rw [shift.reports] at hx
    exact .inl hx

/-- A step that is given up before its end is told is so for a reason. -/
theorem GivesUp.forgone {r : Run} {f : Flight} (gives : GivesUp r f)
    (underway : f.stage.isUnderway = true) (attests : r.Attests f.item f.stage) :
    r.Forgone f.item := by
  cases gives with
  | start stage =>
    rw [stage] at attests
    exact .overStart attests.symm
  | answer call overdue stage answer =>
    rw [stage] at attests
    exact .answered call r.environment attests answer
  | last report stage =>
    rw [stage] at underway
    cases underway

/-- A step that fails has a reason of its own. -/
theorem Stumbles.mishap {r : Run} {lost : List String} {f : Flight} {failure : Failure}
    (why : Stumbles r f failure) (sound : Sound r lost) (flies : r.flight? f.id = some f)
    (h : Attested r) : r.Mishap f.item failure := by
  have hf := flight?_mem flies
  have hcalled : ∀ call overdue, f.stage = .calling call overdue → r.Called f.item call := by
    intro call overdue hstage
    have hattests := h.flights f hf
    rwa [hstage] at hattests
  cases why with
  | unbuilt fault stage built => exact .unbuilt fault ⟨sound.supplied hf, r.environment, built⟩
  | unconnected failure stage found => exact .unconnected failure found
  | untimed limit fault stage limited faulty => exact .untimed limit fault limited faulty
  | late limit stage limited => exact .late limit limited
  | refused call overdue trouble stage answer kept =>
    exact .refused call r.environment trouble (hcalled call overdue stage) answer kept
  | uncopyable call overdue fault stage answer =>
    exact .uncopyable call r.environment fault (hcalled call overdue stage) answer
  | repeated call overdue fault stage taken =>
    -- a step whose connector is at work has no output yet
    have hbegun := (sound.booked.flights f hf).of_isUnderway (by rw [stage]; rfl)
    unfold Outputs.has at taken
    rw [hbegun.2] at taken
    cases taken

theorem Move.attested {r r' : Run} {lost : List String} {f : Flight} (move : Move r r' f)
    (sound : Sound r lost) (flies : r.flight? f.id = some f) (h : Attested r) : Attested r' := by
  have hf := flight?_mem flies
  have hitem := sound.placed.flying f hf
  have hattests := h.flights f hf
  cases move with
  | opens due stage shift =>
    refine shift.attested sound.formed sound.placed (fun _ _ => id) (fun hext => ?_) h
    show _ = r'.plan.delivery.givesUp _
    rw [hext.plan]
  | prepares due input connector stage built found timed shift =>
    refine shift.attested sound.formed sound.placed (fun _ _ => id) (fun hext => ?_) h
    have hequipped : r.Equipped f.item input connector :=
      ⟨found, sound.supplied hf, r.environment, built⟩
    exact hequipped.mono hext sound.formed hitem
  | calls due input connector overdue stage shift =>
    refine shift.attested sound.formed sound.placed (fun _ _ => id) (fun hext => ?_) h
    rw [stage] at hattests
    have hcalled : r.Called f.item
        (connector.call f.item.step input r.plan.context r.environment).2 :=
      ⟨input, connector, r.environment, hattests, rfl⟩
    exact hcalled.mono hext sound.formed hitem
  | fails due failure why shift =>
    refine shift.attested sound.formed sound.placed (fun _ _ => id) (fun hext => ?_) h
    have hmishap := (why.mishap sound flies h).mono hext sound.formed hitem
    exact .own (.failed failure rfl rfl hmishap)
  | succeeds due call overdue output seen outputs stage answer copyable recorded shift =>
    -- the output is recorded besides those that are there
    refine shift.attested sound.formed sound.placed ?_ (fun hext => ?_) h
    · intro id other hother
      rw [Outputs.get?_record recorded, if_neg ?_]
      · exact hother
      · rintro rfl
        rw [(Outputs.record_eq_ok recorded).1] at hother
        cases hother
    · rw [stage] at hattests
      have hcalled : r.Called f.item call := hattests
      exact .own (.gave call r.environment rfl (hcalled.mono hext sound.formed hitem) answer)
  | ends report stage shift =>
    refine shift.attested sound.formed sound.placed (fun _ _ => id) (fun hext => ?_) h
    rw [stage] at hattests
    have hown := sound.placed.own f hf report (by rw [stage]; rfl)
    have houtcome : r.Outcome report := hattests
    exact houtcome.mono hext sound.formed (by rw [hown]; exact hitem)

theorem Cut.attested {r r' : Run} {lost : List String} {f : Flight} (cut : Cut r r' f)
    (sound : Sound r lost) (flies : r.flight? f.id = some f) (unstopped : r.expired = none)
    (allowed : r.plan.executor.mayInterrupt f.item.step = true ∨ GivesUp r f) (h : Attested r) :
    Attested r' := by
  have hf := flight?_mem flies
  cases cut with
  | past stage same =>
    rw [same]
    exact h.mono (.of_outputs rfl rfl rfl id) sound.formed sound.placed
      (fun e he => .inl ⟨e, he, rfl, rfl⟩) fun x hx => .inl hx
  | drops stage shift =>
    exact shift.attested sound.formed sound.placed (fun _ _ => id) (fun _ => trivial) h
  | loses report givenUp stage shift =>
    exact shift.attested sound.formed sound.placed (fun _ _ => id) (fun _ => trivial) h
  | stops due stage shift =>
    refine shift.attested sound.formed sound.placed (fun _ _ => id) (fun hext => ?_) h
    have hcancelled : r.interruption f = (.cancelled, stepCancelled f.id) := by
      unfold interruption
      rw [unstopped]
    have hunderway : f.stage.isUnderway = true := by
      rcases stage with ⟨givenUp, stage⟩ | ⟨input, connector, stage⟩ | ⟨call, overdue, stage⟩
      · rw [stage]; rfl
      · rw [stage]; rfl
      · rw [stage]; rfl
    rw [hcancelled]
    rcases allowed with hallowed | hgives
    · exact .interrupted rfl rfl (by rw [hext.plan]; exact hallowed)
    · exact .givenUp rfl rfl ((hgives.forgone hunderway (h.flights f hf)).mono hext sound.formed
        (sound.placed.flying f hf))

/-- Every change keeps attestation, if the time limit has not stopped the run. -/
theorem Attested.change {r r' : Run} {lost more : List String} (sound : Sound r lost)
    (unstopped : r.expired = none) (h : Attested r) (change : Change r r' more) : Attested r' := by
  cases change with
  | stirs stir => exact stir.toAlike.attested sound.formed sound.placed h
  | moves flies move => exact move.attested sound flies h
  | cuts called flies cut allowed => exact cut.attested sound flies unstopped (allowed unstopped) h
  | heeds running asked =>
    exact h.mono (.of_outputs rfl rfl rfl fun _ => rfl) sound.formed sound.placed
      (fun e he => .inl ⟨e, he, rfl, rfl⟩) fun x hx => .inl hx
  | collects running =>
    rw [collect_eq]
    refine h.mono (.of_outputs rfl rfl rfl id) sound.formed sound.placed
      (fun e he => .inl ⟨e, List.mem_of_mem_filter he, rfl, rfl⟩) fun x hx => ?_
    refine (List.mem_append.1 hx).imp_right fun hover => ?_
    obtain ⟨f, hf, hstage, -⟩ := sound.placed.mem_overReports hover
    exact ⟨f, hf, hstage⟩
  | launches running may first =>
    refine h.mono (.of_outputs rfl rfl rfl id) sound.formed sound.placed (fun e he => ?_)
      fun x hx => .inl hx
    rcases List.mem_append.1 he with he | he
    · exact .inl ⟨e, he, rfl, rfl⟩
    · rw [List.mem_singleton.1 he]
      exact .inr trivial
  | concludes running idle stuck => exact (conclude_alike r).attested sound.formed sound.placed h
  | closes phase => exact (close_alike r _).attested sound.formed sound.placed h

/-- The report of a step can be lost: it may be interrupted, or the listener gives it up. -/
def Losable (p : Plan) (id : String) : Prop :=
  ∃ s ∈ p.pipeline.steps, s.step.id = id ∧
    (p.executor.mayInterrupt s.step = true ∨ p.Forsakes id)

/-- Only reports are lost that can be, if the time limit has not stopped the run. -/
theorem Sound.losable {r r' : Run} {gone lost : List String} (h : Sound r gone)
    (unstopped : r.expired = none) (change : Change r r' lost) {id : String} (hid : id ∈ lost) :
    Losable r.plan id := by
  cases change with
  | @cuts _ f called flies cut allowed =>
    have hf := flight?_mem flies
    split at hid
    · next hclosing =>
      obtain rfl := List.mem_singleton.1 hid
      refine ⟨f.item, h.placed.flying f hf, rfl, (allowed unstopped).imp_right fun gives => ?_⟩
      exact gives.forsakes hclosing (h.judged.grounds f hf)
    · cases hid
  | _ => cases hid

/-! ## All of the history -/

/-- In a run that its time limit does not stop, what is reported has come about, and only reports
are lost that can be. -/
theorem Begins.attested {plan : Plan} {r : Run} (begins : Begins plan r) (acts : List Act)
    (unstopped : (r.performAll acts).expired = none) :
    Attested (r.performAll acts) ∧ ∀ id ∈ r.lost acts, Losable (r.performAll acts).plan id := by
  refine begins.invariant
    (motive := fun q gone => q.expired = none → Attested q ∧ ∀ id ∈ gone, Losable q.plan id)
    ?_ ?_ ?_ ?_ acts unstopped
  · intro now environment reader cancelled inputs _
    exact ⟨⟨by simp [loaded, prepare], by simp [loaded, prepare]⟩, by simp⟩
  · intro q told rests _ _
    exact ⟨⟨by simp [rests.flights], by simp [rests.reports]⟩, by simp⟩
  · intro q q' gone more sound hmotive change hexpired
    obtain ⟨hplan, -, hexpired'⟩ := change.keeps
    rw [hexpired'] at hexpired
    obtain ⟨hattested, hgone⟩ := hmotive hexpired
    refine ⟨hattested.change sound hexpired change, fun id hid => ?_⟩
    rw [hplan]
    rcases List.mem_append.1 hid with hid | hid
    · exact hgone id hid
    · exact sound.losable hexpired change hid
  · intro q gone limit _ _ _ hexpired
    cases hexpired

end Conduit.Run
