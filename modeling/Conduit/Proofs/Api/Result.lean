import Conduit.Api.Service
import Conduit.Proofs.Engine.Registry
import Conduit.Proofs.Value.Published
import Conduit.Proofs.Workflow.Document

/-!
# What a client is told that waits for a run

A client that asks for a run is answered when the run is over. A run that ended with a result has
told it as its last event. The response tells the same, unless an output has no place in responses:
then the client is told nothing of the run, though all of its steps have had their effects.

* `Value.HasPlace` — an output that has a place in a response;
* `Response.Tells` — a response that tells the result of a run as the run itself does;
* `RunResult.response`, `RunResult.response_tells_iff` — the response to a result;
* `Engine.execute_tells_iff` — the response to a client, whatever happens while it waits;
* `Engine.handle_hides_run` — a run that a client is told nothing of.
-/

namespace Conduit

open Value (documentDepth published finite finiteMembers publishedMembers)

/-- A value has a place in a response: no handle stands in it, not too many values stand inside each
other, and what is shown of it has no integer that is too long. -/
structure Value.HasPlace (v : Value) : Prop where
  shallow : ∀ n part, Inside n part v → n < documentDepth
  plain : ∀ n part, Inside n part v → part ≠ opaqueHandle
  short : ∀ n part, Inside n part v.published → ¬part.IsLong

theorem Value.hasPlace_iff {v : Value} :
    v.HasPlace ↔ v.documentFlaw? documentDepth = none ∧ v.published.hasLongInteger = false := by
  rw [documentFlaw?_eq_none_iff, hasLongInteger_eq_false_iff]
  constructor
  · rintro ⟨shallow, plain, short⟩
    exact ⟨fun n part h => ⟨shallow n part h, plain n part h⟩, short⟩
  · rintro ⟨document, short⟩
    exact ⟨fun n part h => (document n part h).1, fun n part h => (document n part h).2, short⟩

/-- A response tells the result of a run as the last event of the run does. -/
structure Response.Tells (response : Response) (run : String) (result : RunResult) : Prop where
  status : response.status = 200
  members : ∃ members : Members, response.content = .document (.object members) ∧
    ∀ name ∈ ["run_id", "state", "step_results"],
      members.get? name = Members.get? ((RunEvent.done result).data run) name

namespace RunResult

variable (result : RunResult) (run workflow : String)

/-- The outputs that a result holds. -/
def outputs : List Value := result.output :: result.steps.map StepResult.output

/-- A result with the ids of its run and its workflow. -/
def shown : Value :=
  .object (("run_id", .str run) :: ("workflow_id", .str workflow) :: result.members)

/-- The response to a client that waits for a run with a result. -/
def response : Response :=
  match result.flaw? with
  | some flaw => Response.crash (.fault (.notDocument flaw))
  | none => Response.ofValue (result.shown run workflow).finite

theorem flaw?_eq_none_iff :
    result.flaw? = none ↔ ∀ v ∈ result.outputs, v.documentFlaw? documentDepth = none := by
  simp [flaw?, outputs]

/-! ## What is shown of a result -/

theorem published_ofText? (text : Option String) :
    (Value.ofText? text).published = .ofText? text := by
  cases text <;> rfl

theorem hasLongInteger_ofText? (text : Option String) :
    (Value.ofText? text).hasLongInteger = false := by
  cases text <;> rfl

/-- What is shown of the steps of a result. -/
def shownSteps : Value := (Value.list (result.steps.map StepResult.encode)).finite.published

/-- What is shown of a result, member by member. -/
theorem published_shown :
    (result.shown run workflow).finite.published =
      .object
        [("run_id", .str run), ("workflow_id", .str workflow), ("success", .bool result.success),
          ("state", .str result.state.name), ("output", result.output.finite.published),
          ("error", .ofText? result.error), ("error_code", .ofText? result.errorCode),
          ("step_results", result.shownSteps)] := by
  simp [shown, members, finite, finiteMembers, published, publishedMembers, Value.isInternalName,
    published_ofText?, shownSteps]

theorem published_encode (s : StepResult) :
    s.encode.published =
      .object
        [("step_id", .str s.step), ("status", .str s.status.name), ("output", s.output.published),
          ("error", .ofText? s.error), ("error_code", .ofText? s.errorCode),
          ("started_at", .str s.startedAt.documentText),
          ("ended_at", .str s.endedAt.documentText)] := by
  simp [StepResult.encode, published, publishedMembers, Value.isInternalName, published_ofText?]

/-- What is shown of a result has an integer that is too long if what is shown of an output has. -/
theorem hasLongInteger_shown :
    (result.shown run workflow).finite.published.hasLongInteger =
      result.outputs.any fun v => v.published.hasLongInteger := by
  have hsteps : result.shownSteps.hasLongInteger =
      result.steps.any fun s => s.output.published.hasLongInteger := by
    rw [shownSteps, Value.published_finite, Value.hasLongInteger_finite, published,
      Value.hasLongInteger, Value.anyLongInteger_eq, Value.publishedItems_eq, List.map_map,
      List.any_map]
    refine Value.any_eq_any fun s _ => ?_
    simp [published_encode, Value.hasLongInteger, Value.anyMemberLongInteger,
      hasLongInteger_ofText?]
  rw [published_shown, Value.hasLongInteger, Value.anyMemberLongInteger_eq]
  simp [hsteps, outputs, Value.published_finite, Value.hasLongInteger_finite, Value.hasLongInteger,
    hasLongInteger_ofText?, Function.comp_def]

/-- The steps of a result are shown as they are, but for infinities and NaN, if the outputs are. -/
theorem shownSteps_eq_iff :
    result.shownSteps = (Value.list (result.steps.map StepResult.encode)).finite ↔
      ∀ s ∈ result.steps, s.output.finite.published = s.output.finite := by
  have hstep : ∀ s : StepResult, s.encode.finite.published = s.encode.finite ↔
      s.output.finite.published = s.output.finite := by
    intro s
    simp [StepResult.encode, finite, finiteMembers, published, publishedMembers,
      Value.isInternalName, published_ofText?]
  simp [shownSteps, finite, published, Value.finiteItems_eq, Value.publishedItems_eq, hstep]

/-! ## The response to a result -/

/-- A result is shown if all of its outputs have a place in responses. -/
theorem response_of_hasPlace (place : ∀ v ∈ result.outputs, v.HasPlace) :
    result.response run workflow =
      { status := 200, content := .document (result.shown run workflow).finite.published } := by
  have hflaw : result.flaw? = none :=
    result.flaw?_eq_none_iff.2 fun v hv => (Value.hasPlace_iff.1 (place v hv)).1
  have hshort : (result.shown run workflow).finite.published.hasLongInteger = false := by
    rw [hasLongInteger_shown, List.any_eq_false]
    intro v hv
    rw [(Value.hasPlace_iff.1 (place v hv)).2]
    simp
  -- what is shown of a value without infinities and NaN has none
  have hfinite : (result.shown run workflow).finite.published.finite =
      (result.shown run workflow).finite.published := by
    rw [Value.published_finite, Value.finite_finite]
  rw [response, hflaw]
  dsimp only
  rw [Response.ofValue, hshort, if_neg (by simp), Response.ofDocument, if_pos hfinite]

/-- Nothing is shown of a result with an output that has no place in responses. -/
theorem response_of_not_hasPlace (noPlace : ¬∀ v ∈ result.outputs, v.HasPlace) :
    ∃ fault, result.response run workflow = Response.crash (.fault fault) := by
  rw [response]
  cases hflaw : result.flaw? with
  | some flaw => exact ⟨_, rfl⟩
  | none =>
    have hlong : (result.shown run workflow).finite.published.hasLongInteger = true := by
      by_contra hshort
      rw [hasLongInteger_shown, Bool.not_eq_true, List.any_eq_false] at hshort
      refine noPlace fun v hv => Value.hasPlace_iff.2 ⟨?_, by simpa using hshort v hv⟩
      exact result.flaw?_eq_none_iff.1 hflaw v hv
    exact ⟨_, if_pos hlong⟩

/-- A response tells a result if all outputs have a place in responses and the names in those of the
steps are shown. -/
theorem response_tells_iff :
    (result.response run workflow).Tells run result ↔
      (∀ v ∈ result.outputs, v.HasPlace) ∧ ∀ s ∈ result.steps, s.output.IsPublic := by
  by_cases place : ∀ v ∈ result.outputs, v.HasPlace
  · have hflaw : result.flaw? = none :=
      result.flaw?_eq_none_iff.2 fun v hv => (Value.hasPlace_iff.1 (place v hv)).1
    have hsteps : result.shownSteps = (Value.list (result.steps.map StepResult.encode)).finite ↔
        ∀ s ∈ result.steps, s.output.IsPublic := by
      rw [shownSteps_eq_iff]
      refine forall₂_congr fun s hs => ?_
      have hplain := (place s.output (List.mem_cons_of_mem _ (List.mem_map_of_mem hs))).plain
      rw [Value.published_eq_iff, and_iff_right hplain]
    rw [response_of_hasPlace result run workflow place, published_shown, ← hsteps,
      and_iff_right place]
    constructor
    · rintro ⟨-, members, hmembers, htells⟩
      cases hmembers
      have hlast := htells "step_results" (by simp)
      simpa [RunEvent.data, RunEvent.resultMembers, hflaw, Members.get?, RunResult.members,
        finiteMembers] using hlast
    · intro hsteps
      refine ⟨rfl, _, rfl, ?_⟩
      simp [RunEvent.data, RunEvent.resultMembers, hflaw, Members.get?, RunResult.members,
        finiteMembers, hsteps, finite]
  · obtain ⟨fault, hcrash⟩ := result.response_of_not_hasPlace run workflow place
    rw [hcrash]
    exact ⟨fun h => absurd h.status (by simp [Response.crash]), fun h => absurd h.1 place⟩

end RunResult

namespace Engine

/-- The response to a client whose run has ended with a result. -/
theorem responseOfRun_eq {e : Engine} {run : String} {record : RunRecord} {result : RunResult}
    (found : e.record? run = some record) (finished : record.result? = some result) :
    e.responseOfRun run = result.response record.id record.workflow := by
  have houtcome : record.outcome =
      documented (some result) (result.shown record.id record.workflow) := by
    unfold RunRecord.result? at finished
    unfold RunRecord.outcome
    split at finished
    · next hphase =>
      cases finished
      rw [hphase]
      rfl
    · cases finished
  rw [responseOfRun, found]
  dsimp only
  rw [houtcome, documented, RunResult.response]
  cases hflaw : result.flaw? <;> simp [hflaw]

/-- A run that has ended with a result has told it, and nothing after it. -/
theorem Orderly.told_last {e : Engine} (h : Orderly e) {record : RunRecord}
    (hr : record ∈ e.records) {result : RunResult} (finished : record.result? = some result) :
    ∃ before, record.run.events = before ++ [.done result] := by
  unfold RunRecord.result? at finished
  split at finished
  · next time hphase =>
    cases finished
    have hkept : record.run.isAbandoned = false := by rw [Run.isAbandoned, hphase]
    exact ((h.tended record hr).tracked hkept).told_last hphase
  · cases finished

/-- A request for a run that can be made is answered when the run is over. -/
theorem receive_eq {e e' : Engine} {r : Request} {workflow run : String} {context : Context}
    (asked : Endpoint.find r.method r.address.path = .found (.executeWorkflow workflow))
    (decoded : r.required Context.decodePayload = .ok context)
    (started : e.start { workflow := workflow, context := context } none false = (e', .ok run)) :
    e.receive r = (e', .running run) := by
  have hreceived : e.receiveRun r workflow = (e', .ok run) := by
    rw [receiveRun, decoded]
    dsimp only
    rw [started]
    rfl
  rw [receive, asked]
  dsimp only
  rw [perform, hreceived]
  rfl

/-- A client asks for a run of a workflow at any point in the history of an engine, and the run is
made. Whatever happens until it is over, if it ends with a result, its last event tells the result,
and the response tells it as the event does exactly if every output has a place in responses and the
steps have put out no name that responses leave out. Where every output has a place the response
shows the result, and where one has none it says nothing of the run. -/
theorem execute_tells_iff {e : Engine} (fresh : IsNew e) (before acts : List Act)
    {r : Request} {workflow : String} {context : Context}
    (asked : Endpoint.find r.method r.address.path = .found (.executeWorkflow workflow))
    (decoded : r.required Context.decodePayload = .ok context) {e' : Engine} {run : String}
    (started : (e.undergoAll before).start { workflow := workflow, context := context } none false =
      (e', .ok run)) :
    (e.undergoAll before).receive r = (e', .running run) ∧
    ∃ record, ((e'.undergoAll acts).await run).record? run = some record ∧
      record.id = run ∧ record.workflow = workflow ∧
      ∀ result, record.result? = some result →
        (∃ earlier, record.run.events = earlier ++ [.done result]) ∧
        let response := ((e'.undergoAll acts).completeReply (.running run)).2
        ((∀ v ∈ result.outputs, v.HasPlace) → response =
          { status := 200, content := .document (result.shown run workflow).finite.published }) ∧
        ((¬∀ v ∈ result.outputs, v.HasPlace) →
          ∃ fault, response = Response.crash (.fault fault)) ∧
        (response.Tells run result ↔
          (∀ v ∈ result.outputs, v.HasPlace) ∧ ∀ s ∈ result.steps, s.output.IsPublic) := by
  have horderly := (fresh.orderly.undergoAll before).1
  generalize e.undergoAll before = now at horderly started ⊢
  refine ⟨receive_eq asked decoded started, ?_⟩
  obtain ⟨hstarted, first, hfirst, hid, hworkflow⟩ := horderly.start started
  -- the record is there from then on, whatever happens
  obtain ⟨hlater, hon⟩ := hstarted.undergoAll (acts ++ [.await run])
  have hawait : e'.undergoAll (acts ++ [.await run]) = (e'.undergoAll acts).await run := by
    rw [undergoAll, List.foldl_append]
    rfl
  rw [hawait] at hlater hon
  obtain ⟨record, hrecord, honward⟩ := hon.records first hfirst
  have hsame : record.id = run := honward.id.trans hid
  have hfound := hlater.record?_eq hrecord
  rw [hsame] at hfound
  refine ⟨record, hfound, hsame, honward.workflow.trans hworkflow, fun result hresult => ?_⟩
  have hresponse : ((e'.undergoAll acts).completeReply (.running run)).2 =
      result.response run workflow := by
    have h := responseOfRun_eq hfound hresult
    rw [hsame, honward.workflow.trans hworkflow] at h
    exact h
  refine ⟨hlater.told_last hrecord hresult, ?_⟩
  dsimp only
  rw [hresponse]
  exact ⟨result.response_of_hasPlace run workflow, result.response_of_not_hasPlace run workflow,
    result.response_tells_iff run workflow⟩

/-! ## Outputs with and without a place -/

/-- A connector that answers with a value after a while. -/
def answering (v : Value) : Connector where
  name := "answering"
  kind := .controlFlow
  call := fun _ _ _ environment =>
    (environment,
     { wait := .time 10
       finish := fun environment => (environment, .ok (.value v)) })

/-- An engine with a workflow of one step that puts out a value. -/
def puttingOut (v : Value) : Engine where
  store := .memory
    { definitions :=
        [("w", { id := "w", name := "W", steps := [{ id := "a", kind := .controlFlow }] })] }
  executor :=
    { registry := .ofConnectors {} [answering v], concurrency := 1, concurrency_pos := Nat.one_pos }
  origin := default

/-- A request for a run of the workflow. -/
def runRequest : Request where
  method := "POST"
  address := { path := ["", "api", "v1", "workflows", "w", "execute"] }
  text := "\x7b\x7d"

theorem runRequest_asked :
    Endpoint.find runRequest.method runRequest.address.path = .found (.executeWorkflow "w") := by
  decide +kernel

theorem runRequest_decoded : runRequest.required Context.decodePayload = .ok {} := by
  have hread : Json.readBytes runRequest.text = .ok (.object []) := by
    have hchars : runRequest.text.toList = ['\x7b', '\x7d'] := by decide +kernel
    rw [Json.readBytes, hchars]
    cbv
  have hdocument : runRequest.document = .ok (some (.object [])) := by
    rw [Request.document, hread, if_neg (by decide +kernel)]
  rw [Request.required, hdocument]
  rfl

theorem puttingOut_new (v : Value) : IsNew (puttingOut v) := ⟨rfl, rfl⟩

/-- The engine after a request that makes a run. -/
theorem start_eq_of_id (e : Engine) (request : Invocation) (id : String)
    (h : (e.start request none false).2.toOption = some id) :
    e.start request none false = (e.undergo (.request request none false), .ok id) := by
  refine Prod.ext rfl ?_
  cases hstart : (e.start request none false).2 with
  | error trouble =>
    rw [hstart] at h
    cases h
  | ok run =>
    rw [hstart] at h
    cases h
    rfl

/-- An object with an infinity deep inside. -/
def infinite : Value := .object [("rows", .list [.float (.infinity false), .null])]

/-- The result of a run whose step puts out an infinity is told. -/
theorem execute_tells_iff_infinite :
    Endpoint.find runRequest.method runRequest.address.path = .found (.executeWorkflow "w") ∧
      runRequest.required Context.decodePayload = .ok {} ∧
      ∃ e' result, (puttingOut infinite).start ⟨"w", {}⟩ none false = (e', .ok "run-1") ∧
        (puttingOut infinite).receive runRequest = (e', .running "run-1") ∧
        result.state = .completed ∧ result.outputs = [infinite, infinite] ∧
        (e'.completeReply (.running "run-1")).2.Tells "run-1" result := by
  have started := start_eq_of_id (puttingOut infinite) ⟨"w", {}⟩ "run-1" (by decide +kernel)
  obtain ⟨received, record, found, -, -, htells⟩ :=
    execute_tells_iff (puttingOut_new infinite) [] [] runRequest_asked runRequest_decoded started
  have shown : (((((puttingOut infinite).undergo (requestFor "w")).undergoAll []).await
      "run-1").record? "run-1").bind (fun r => r.result?.map fun result =>
        (result.state, result.outputs)) =
      some (.completed, [infinite, infinite]) := by decide +kernel
  rw [requestFor, found] at shown
  obtain ⟨result, hresult, hshown⟩ := Option.map_eq_some_iff.1 shown
  obtain ⟨hstate, houtputs⟩ := Prod.mk.inj hshown
  obtain ⟨-, -, -, tells⟩ := htells result hresult
  have hplace : infinite.HasPlace := Value.hasPlace_iff.2 (by decide +kernel)
  have hpublic : infinite.IsPublic := (Value.published_eq_iff.1 (by decide +kernel)).2
  refine ⟨runRequest_asked, runRequest_decoded, _, result, started, received, hstate, houtputs,
    tells.2 ⟨?_, ?_⟩⟩
  · simp [houtputs, hplace]
  · intro s hs
    have hmem : s.output ∈ result.outputs := List.mem_cons_of_mem _ (List.mem_map_of_mem hs)
    rw [houtputs, List.mem_pair, or_self] at hmem
    exact hmem ▸ hpublic

/-- An object with a handle. -/
def handle : Value := .object [("handle", .opaqueHandle)]

/-- A run whose step puts out a handle ends with a result, and the client is told nothing of it. -/
theorem handle_hides_run :
    ∃ result,
      (((puttingOut handle).respond runRequest).1.record? "run-1").bind RunRecord.result? =
        some result ∧
      result.state = .completed ∧
      (result.steps.map fun s => (s.step, s.status)) = [("a", .success)] ∧
      ((puttingOut handle).respond runRequest).2.status = 500 ∧
      ¬((puttingOut handle).respond runRequest).2.Tells "run-1" result := by
  have started := start_eq_of_id (puttingOut handle) ⟨"w", {}⟩ "run-1" (by decide +kernel)
  have responded : (puttingOut handle).respond runRequest =
      ((puttingOut handle).undergo (requestFor "w")).completeReply (.running "run-1") := by
    rw [respond, receive_eq runRequest_asked runRequest_decoded started, requestFor]
  have failed : (((puttingOut handle).undergo (requestFor "w")).completeReply
      (.running "run-1")).2.status = 500 := by decide +kernel
  have shown : (((((puttingOut handle).undergo (requestFor "w")).completeReply
      (.running "run-1")).1.record? "run-1").bind RunRecord.result?).map (fun result =>
        (result.state, result.steps.map fun s => (s.step, s.status))) =
      some (.completed, [("a", .success)]) := by decide +kernel
  obtain ⟨result, hresult, hshown⟩ := Option.map_eq_some_iff.1 shown
  obtain ⟨hstate, hsteps⟩ := Prod.mk.inj hshown
  rw [responded]
  refine ⟨result, hresult, hstate, hsteps, failed, fun tells => ?_⟩
  rw [tells.status] at failed
  cases failed

end Engine

end Conduit
