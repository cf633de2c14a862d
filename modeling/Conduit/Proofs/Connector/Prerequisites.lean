import Conduit.Connector.Registry
import Conduit.Connector.Service
import Conduit.Proofs.Workflow.Checks
import Conduit.Workflow.Prerequisites

/-!
# What is reported missing, and the steps that fail for want of it

The report of missing prerequisites and the connectors look for the same bindings, each in its own
way. Whatever is reported missing makes every step fail that refers to it. When nothing is reported,
a step can still want a binding in two ways that the report overlooks: the step refers to nothing,
or what it refers to is bound to an empty text.

* `Registry.carryOut` — what a step answers;
* `Unbound`, `Overlooked` — how a reference can be without a binding;
* `Foretells` — what a report says of the steps;
* `Registry.standard_foretells` — both reports, for every connector of a standard registry.
-/

namespace Conduit

/-! ## Answers -/

/-- What a step answers that is called in one environment and ends in another. -/
def Registry.carryOut (r : Registry) (s : Step) (input : Value) (context : Context)
    (before after : Environment) : Except Trouble Output :=
  match r.connectorOf s with
  | .error f => .error (.failure f)
  | .ok connector => ((connector.call s input context before).2.finish after).2

/-- The failure of a step whose toolkit has no connection. -/
def Step.unconnected (s : Step) : Failure where
  kind := .missingConnection
  message := Failure.missingConnectionMessage (s.toolkit.getD "None")
  details := [("toolkit_slug", .ofText? s.toolkit)]

/-- The failure of a step whose table is not bound. -/
def Step.unbound (s : Step) : Failure where
  kind := .table
  message := "No table binding for: " ++ s.table.getD "None"
  details := [("table_ref", .ofText? s.table)]

/-- A service never complains of a missing connection: that is for the connector to find out. -/
def ActionClient.Connected (client : ActionClient) : Prop :=
  ∀ request f, (client request).result = .error (.failure f) → f.kind ≠ .missingConnection

namespace Registry

variable (client : ActionClient) (functions : List (String × CustomFunction)) (loader : CodeLoader)
  (evaluate : Evaluator) (catalog : Catalog)

/-- A standard registry has a connector for every step. -/
theorem connectorOf_standard (s : Step) :
    (standard client functions loader evaluate catalog).connectorOf s =
      .ok (match s.kind with
        | .remoteTool => RemoteTool.connector client
        | .customCode => CustomCode.connector functions loader
        | .tableQuery => TableQuery.connector
        | .tableWrite => TableWrite.connector
        | .controlFlow => ControlFlow.connector evaluate) := by
  -- no toolkit has a connector of its own
  have htoolkit : ((s.toolkit.filter (!·.isEmpty)).bind fun t =>
      (standard client functions loader evaluate catalog).byToolkit.lookup t) = none := by
    cases s.toolkit.filter (!·.isEmpty) <;> rfl
  unfold connectorOf resolve
  rw [htoolkit]
  cases s.kind <;> rfl

end Registry

/-! ## References -/

/-- What a reference is bound to; an empty reference and an empty text count as none. -/
def binding? (bindings : List (String × String)) (reference : Option String) : Option String :=
  ((reference.filter (!·.isEmpty)).bind fun t => bindings.lookup t).filter (!·.isEmpty)

/-- A reference is without a binding in a way that no report tells of: there is none, or it is bound
to an empty text. -/
inductive Overlooked (bindings : List (String × String)) (reference : Option String) : Prop
  | absent (none : reference.filter (!·.isEmpty) = none)
  | empty (t : String) (named : reference = some t) (bound : bindings.lookup t = some "")

/-- A reference is without a binding. -/
inductive Unbound (bindings : List (String × String)) (reference : Option String) : Prop
  | overlooked (overlooked : Overlooked bindings reference)
  | unlisted (t : String) (named : reference = some t) (unlisted : bindings.lookup t = none)

/-- A text counts as none when it is empty. -/
theorem filter_given_eq_none_iff {o : Option String} :
    o.filter (!·.isEmpty) = none ↔ ∀ t, o = some t → t = "" := by
  cases o with
  | none => simp
  | some t => simp

theorem binding?_of_given {bindings : List (String × String)} {reference : Option String}
    {t : String} (given : reference.filter (!·.isEmpty) = some t) :
    binding? bindings reference = (bindings.lookup t).filter (!·.isEmpty) := by
  unfold binding?
  rw [given, Option.bind_some]

/-- A reference has no binding in one of the ways there are. -/
theorem binding?_eq_none_iff {bindings : List (String × String)} {reference : Option String} :
    binding? bindings reference = none ↔ Unbound bindings reference := by
  cases hgiven : reference.filter (!·.isEmpty) with
  | none =>
    refine ⟨fun _ => .overlooked (.absent hgiven), fun _ => ?_⟩
    unfold binding?
    rw [hgiven]
    rfl
  | some t =>
    obtain ⟨hnamed, -⟩ := Option.filter_eq_some_iff.1 hgiven
    rw [binding?_of_given hgiven, filter_given_eq_none_iff]
    constructor
    · intro hempty
      cases hbound : bindings.lookup t with
      | none => exact .unlisted t hnamed hbound
      | some id =>
        cases hempty id hbound
        exact .overlooked (.empty t hnamed hbound)
    · rintro ((hnone | ⟨u, hu, hbound⟩) | ⟨u, hu, hunlisted⟩)
      · rw [hgiven] at hnone
        cases hnone
      · cases hnamed.symm.trans hu
        intro id hid
        cases hbound.symm.trans hid
        rfl
      · cases hnamed.symm.trans hu
        intro id hid
        cases hunlisted.symm.trans hid

theorem mem_insertDistinct {s t : String} {l : List String} :
    t ∈ insertDistinct s l ↔ t = s ∨ t ∈ l := by
  induction l with
  | nil => simp [insertDistinct]
  | cons u rest ih =>
    unfold insertDistinct
    split_ifs with hless heq
    · simp
    · subst heq
      simp
    · rw [List.mem_cons, ih, List.mem_cons]
      tauto

theorem mem_sortedDistinct {t : String} {l : List String} : t ∈ sortedDistinct l ↔ t ∈ l := by
  induction l with
  | nil => rfl
  | cons u rest ih =>
    rw [show sortedDistinct (u :: rest) = insertDistinct u (sortedDistinct rest) from rfl,
      mem_insertDistinct, ih, List.mem_cons]

/-! ## Requirements -/

/-- What steps of some kinds have to be bound to. -/
structure Requirement where
  /-- The kinds of steps that it is about. -/
  concerns : StepKind → Bool
  /-- What a step refers to. -/
  reference : Step → Option String
  /-- What a context binds. -/
  bindings : Context → List (String × String)
  /-- What a report says is missing. -/
  missing : Prerequisites → List String
  /-- The failure of a step without a binding. -/
  failure : Step → Failure
  /-- Whether a failure is for want of a binding. -/
  tells : Failure → Bool

namespace Requirement

/-- Remote actions need a connection of their toolkit. -/
def connections : Requirement where
  concerns := (· == .remoteTool)
  reference := Step.toolkit
  bindings := Context.connections
  missing := Prerequisites.missingConnections
  failure := Step.unconnected
  tells f := f.kind == .missingConnection

/-- Steps on tables need a table. -/
def tables : Requirement where
  concerns := StepKind.usesTable
  reference := Step.table
  bindings := Context.tables
  missing := Prerequisites.missingTables
  failure := Step.unbound
  tells f := Members.has f.details "table_ref"

/-- The references of the steps of some kinds that have no entry, as a report lists them. -/
def report (q : Requirement) (d : Definition) (context : Context) : List String :=
  (sortedDistinct (((d.steps.filter fun s => q.concerns s.kind).filterMap q.reference).filter
    (!·.isEmpty))).filter fun t => ((q.bindings context).lookup t).isNone

theorem connections_report (d : Definition) (context : Context) :
    connections.missing (d.prerequisites context) = connections.report d context :=
  rfl

theorem tables_report (d : Definition) (context : Context) :
    tables.missing (d.prerequisites context) = tables.report d context :=
  rfl

/-- What is missing is what a step refers to by a name that is not bound. -/
theorem mem_report_iff {q : Requirement} {d : Definition} {context : Context} {t : String} :
    t ∈ q.report d context ↔
      (∃ s ∈ d.steps, q.concerns s.kind = true ∧ q.reference s = some t) ∧ t ≠ "" ∧
        (q.bindings context).lookup t = none := by
  unfold report
  rw [List.mem_filter, mem_sortedDistinct, List.mem_filter, List.mem_filterMap]
  simp only [List.mem_filter, and_assoc]
  simp

/-- The connectors enforce a requirement: a step fails for want of a binding when it has none, on
any input, and only then. -/
structure Enforced (q : Requirement) (r : Registry) : Prop where
  /-- A step without a binding fails. -/
  fails : ∀ {s context}, q.concerns s.kind = true → Unbound (q.bindings context) (q.reference s) →
    ∀ input before after,
      r.carryOut s input context before after = .error (.failure (q.failure s))
  /-- A step with a binding does not fail for want of it. -/
  bound : ∀ {s context}, q.concerns s.kind = true →
    ¬ Unbound (q.bindings context) (q.reference s) → ∀ {input before after f},
      r.carryOut s input context before after = .error (.failure f) → q.tells f = false

/-- What the report says of the steps. -/
structure Foretold (q : Requirement) (r : Registry) (d : Definition) (context : Context) :
    Prop where
  /-- Every step fails that refers to what is missing. -/
  missing : ∀ t ∈ q.missing (d.prerequisites context), ∀ s, q.concerns s.kind = true →
    q.reference s = some t → ∀ input before after,
      r.carryOut s input context before after = .error (.failure (q.failure s))
  /-- So does every step without a binding that the report overlooks. -/
  overlooked : ∀ s, q.concerns s.kind = true →
    Overlooked (q.bindings context) (q.reference s) → ∀ input before after,
      r.carryOut s input context before after = .error (.failure (q.failure s))
  /-- When nothing is reported, no other step of the workflow does. -/
  met : (d.prerequisites context).isMet = true → ∀ s ∈ d.steps, q.concerns s.kind = true →
    ¬ Overlooked (q.bindings context) (q.reference s) → ∀ input before after f,
      r.carryOut s input context before after = .error (.failure f) → q.tells f = false

/-- The report foretells what the connectors enforce. -/
theorem Enforced.foretold {q : Requirement} {r : Registry} (enforced : q.Enforced r)
    {d : Definition} {context : Context}
    (reported : q.missing (d.prerequisites context) = q.report d context)
    (met : (d.prerequisites context).isMet = true → q.missing (d.prerequisites context) = []) :
    q.Foretold r d context where
  missing := by
    intro t ht s hconcerned hreference
    rw [reported, mem_report_iff] at ht
    exact enforced.fails hconcerned (.unlisted t hreference ht.2.2)
  overlooked s hconcerned hoverlooked := enforced.fails hconcerned (.overlooked hoverlooked)
  met := by
    intro hmet s hs hconcerned hseen input before after f hfails
    refine enforced.bound hconcerned ?_ hfails
    rintro (hoverlooked | ⟨t, hreference, hunlisted⟩)
    · exact hseen hoverlooked
    · -- a step that is not overlooked and refers to nothing bound is reported
      have hempty : t ≠ "" := by
        rintro rfl
        refine hseen (.absent (filter_given_eq_none_iff.2 fun t ht => ?_))
        cases hreference.symm.trans ht
        rfl
      have hmissing := mem_report_iff.2 ⟨⟨s, hs, hconcerned, hreference⟩, hempty, hunlisted⟩
      rw [← reported, met hmet] at hmissing
      cases hmissing

end Requirement

/-! ## Connections -/

section Connections

variable {s : Step} {context : Context}

theorem RemoteTool.connection?_eq :
    RemoteTool.connection? s context = binding? context.connections s.toolkit :=
  rfl

theorem RemoteTool.connection_of_unbound (unbound : Unbound context.connections s.toolkit) :
    RemoteTool.connection s context = .error (.failure s.unconnected) := by
  unfold RemoteTool.connection
  rw [connection?_eq, binding?_eq_none_iff.2 unbound]
  rfl

theorem RemoteTool.connection_of_bound (bound : ¬ Unbound context.connections s.toolkit) :
    ∃ account, RemoteTool.connection s context = .ok account := by
  rw [← binding?_eq_none_iff, ← connection?_eq] at bound
  obtain ⟨account, haccount⟩ := Option.ne_none_iff_exists'.1 bound
  refine ⟨account, ?_⟩
  unfold RemoteTool.connection
  rw [haccount]

/-- A request that cannot be made for a step with a connection has no action. -/
theorem RemoteTool.request_failure {input : Value} {f : Failure}
    (bound : ¬ Unbound context.connections s.toolkit)
    (fails : RemoteTool.request s input context = .error (.failure f)) :
    f.kind = .remoteAction := by
  obtain ⟨account, haccount⟩ := connection_of_bound bound
  unfold RemoteTool.request at fails
  rw [haccount, except_bind_eq_error] at fails
  rcases fails with hfails | ⟨_, -, hfails⟩
  · cases hfails
  · split at hfails
    · cases hfails
      rfl
    · cases hfails

/-- An answer is a failure when the service gave none, or when it says so. -/
theorem RemoteTool.answer_failure {reply : ActionReply} {environment : Environment} {f : Failure}
    (fails : ((RemoteTool.callOf s reply).finish environment).2 = .error (.failure f)) :
    reply.result = .error (.failure f) ∨ f.kind = .remoteAction := by
  have hbind : reply.result >>= RemoteTool.outputOf s = .error (.failure f) := fails
  rw [except_bind_eq_error] at hbind
  rcases hbind with hresult | ⟨result, -, houtput⟩
  · exact .inl hresult
  · unfold RemoteTool.outputOf at houtput
    split_ifs at houtput
    cases houtput
    exact .inr rfl

end Connections

/-- The connector of remote actions enforces that they have a connection. -/
theorem Requirement.connections_enforced {client : ActionClient} (connected : client.Connected)
    (functions : List (String × CustomFunction)) (loader : CodeLoader) (evaluate : Evaluator)
    (catalog : Catalog) :
    Requirement.connections.Enforced (.standard client functions loader evaluate catalog) where
  fails := by
    intro s context hconcerned hunbound input before after
    have hkind : s.kind = .remoteTool := eq_of_beq hconcerned
    have hrequest : RemoteTool.request s input context = .error (.failure s.unconnected) := by
      unfold RemoteTool.request
      rw [RemoteTool.connection_of_unbound hunbound]
      rfl
    simp only [Registry.carryOut, Registry.connectorOf_standard, hkind, RemoteTool.connector,
      hrequest]
    rfl
  bound := by
    intro s context hconcerned hbound input before after f hfails
    have hkind : s.kind = .remoteTool := eq_of_beq hconcerned
    refine beq_eq_false_iff_ne.2 ?_
    simp only [Registry.carryOut, Registry.connectorOf_standard, hkind, RemoteTool.connector]
      at hfails
    cases hrequest : RemoteTool.request s input context with
    | error trouble =>
      rw [hrequest] at hfails
      cases hfails
      rw [RemoteTool.request_failure hbound hrequest]
      decide
    | ok request =>
      rw [hrequest] at hfails
      rcases RemoteTool.answer_failure hfails with hresult | hkind
      · exact connected request f hresult
      · rw [hkind]
        decide

/-! ## The service -/

namespace ActionService

theorem interpret_failure {action : String} {exchange : Exchange} {f : Failure}
    (fails : interpret action exchange = .error (.failure f)) : f.kind = .remoteAction := by
  cases exchange with
  | answered data =>
    rw [interpret, answerOf.eq_def] at fails
    split at fails
    · split at fails <;> cases fails
    · cases fails
      rfl
  | broken fault => cases fails
  | refused | lost | improper =>
    cases fails
    rfl

/-- A service never complains of a missing connection, whatever becomes of the requests to it. -/
theorem client_connected (service : ActionService) (exchange : PostRequest → Exchange) :
    (service.client exchange).Connected := by
  intro request f hfails
  rw [interpret_failure hfails]
  decide

end ActionService

/-! ## Tables -/

namespace TableStore

variable {tables : TableStore} {id : String}

/-- A store fails because a table is not there, and then the failure names the table. -/
theorem find_failure {f : Failure} (fails : tables.find id = .error (.failure f)) :
    f = notFound id := by
  unfold find at fails
  split at fails <;> cases fails
  rfl

theorem query_failure {filters : List Table.Filter} {sort : Option Table.SortKey}
    {limit : Option Int} {f : Failure}
    (fails : tables.query id filters sort limit = .error (.failure f)) : f = notFound id := by
  unfold query at fails
  rw [except_bind_eq_error] at fails
  rcases fails with hfind | ⟨t, -, hrest⟩
  · exact find_failure hfind
  · -- rows that cannot be put in order are a fault, not a failure
    dsimp only at hrest
    split at hrest
    · cases hrest
    · split at hrest <;> cases hrest

theorem insert_failure {row : Members} {f : Failure}
    (fails : tables.insert id row = .error (.failure f)) : f = notFound id := by
  unfold insert at fails
  rw [except_bind_eq_error] at fails
  rcases fails with hfind | ⟨t, -, hrest⟩
  · exact find_failure hfind
  · cases hrest

theorem upsert_failure {row : Members} {key : String} {f : Failure}
    (fails : tables.upsert id row key = .error (.failure f)) : f = notFound id := by
  unfold upsert at fails
  rw [except_bind_eq_error] at fails
  rcases fails with hfind | ⟨t, -, hrest⟩
  · exact find_failure hfind
  · split at hrest <;> cases hrest

end TableStore

section Tables

variable {s : Step} {context : Context} {input : Value} {tables : TableStore}

theorem boundTable_of_unbound (unbound : Unbound context.tables s.table) :
    boundTable s context = .error (.failure s.unbound) := by
  have hnone : binding? context.tables s.table = none := binding?_eq_none_iff.2 unbound
  unfold binding? at hnone
  unfold boundTable
  simp only [hnone]
  rfl

theorem boundTable_of_bound (bound : ¬ Unbound context.tables s.table) :
    ∃ id, boundTable s context = .ok id := by
  rw [← binding?_eq_none_iff] at bound
  obtain ⟨id, hid⟩ := Option.ne_none_iff_exists'.1 bound
  unfold binding? at hid
  refine ⟨id, ?_⟩
  unfold boundTable
  simp only [hid]

/-- A step that reads a table it is bound to fails for other reasons than the binding. -/
theorem TableQuery.answer_failure {f : Failure} (bound : ¬ Unbound context.tables s.table)
    (fails : TableQuery.answer s input context tables = .error (.failure f)) :
    Requirement.tables.tells f = false := by
  obtain ⟨id, hid⟩ := boundTable_of_bound bound
  unfold TableQuery.answer at fails
  rw [hid, except_bind_eq_error] at fails
  rcases fails with hfails | ⟨_, -, hfails⟩
  · cases hfails
  · split at hfails
    · cases hfails
      rfl
    · rw [except_bind_eq_error] at hfails
      rcases hfails with hquery | ⟨_, -, hfails⟩
      · rw [TableStore.query_failure hquery]
        rfl
      · cases hfails

theorem TableWrite.write_failure {config : Table.WriteConfig} {id : String} {row : Members}
    {f : Failure} (fails : TableWrite.write s config id row tables = .error (.failure f)) :
    Requirement.tables.tells f = false := by
  unfold TableWrite.write at fails
  split at fails
  · cases hinsert : tables.insert id row with
    | ok written =>
      rw [hinsert] at fails
      cases fails
    | error trouble =>
      rw [hinsert] at fails
      cases fails
      rw [TableStore.insert_failure hinsert]
      rfl
  · split at fails
    · rw [TableStore.upsert_failure fails]
      rfl
    · cases fails
      rfl

/-- So does a step that writes to one. -/
theorem TableWrite.answer_failure {f : Failure} (bound : ¬ Unbound context.tables s.table)
    (fails : TableWrite.answer s input context tables = .error (.failure f)) :
    Requirement.tables.tells f = false := by
  obtain ⟨id, hid⟩ := boundTable_of_bound bound
  unfold TableWrite.answer at fails
  rw [hid, except_bind_eq_error] at fails
  rcases fails with hfails | ⟨_, -, hfails⟩
  · cases hfails
  · split at hfails
    · cases hfails
      rfl
    · split at hfails
      · rw [except_bind_eq_error] at hfails
        rcases hfails with hwrite | ⟨_, -, hfails⟩
        · exact TableWrite.write_failure hwrite
        · cases hfails
      · cases hfails
        rfl

end Tables

/-- The connectors of tables enforce that steps are bound to one. -/
theorem Requirement.tables_enforced (client : ActionClient)
    (functions : List (String × CustomFunction)) (loader : CodeLoader) (evaluate : Evaluator)
    (catalog : Catalog) :
    Requirement.tables.Enforced (.standard client functions loader evaluate catalog) where
  fails := by
    intro s context hconcerned hunbound input before after
    have hbound := boundTable_of_unbound hunbound
    simp only [Registry.carryOut, Registry.connectorOf_standard]
    cases hkind : s.kind <;> rw [hkind] at hconcerned <;> cases hconcerned
    · have hanswer : TableQuery.answer s input context before.tables =
          .error (.failure s.unbound) := by
        unfold TableQuery.answer
        rw [hbound]
        rfl
      simp only [TableQuery.connector, hanswer]
      rfl
    · have hanswer : TableWrite.answer s input context before.tables =
          .error (.failure s.unbound) := by
        unfold TableWrite.answer
        rw [hbound]
        rfl
      simp only [TableWrite.connector, hanswer]
      rfl
  bound := by
    intro s context hconcerned hbound input before after f hfails
    simp only [Registry.carryOut, Registry.connectorOf_standard] at hfails
    cases hkind : s.kind <;> rw [hkind] at hconcerned hfails <;> cases hconcerned
    · cases hanswer : TableQuery.answer s input context before.tables with
      | ok v =>
        simp only [TableQuery.connector, hanswer] at hfails
        cases hfails
      | error trouble =>
        simp only [TableQuery.connector, hanswer] at hfails
        cases hfails
        exact TableQuery.answer_failure hbound hanswer
    · cases hanswer : TableWrite.answer s input context before.tables with
      | ok written =>
        simp only [TableWrite.connector, hanswer] at hfails
        cases hfails
      | error trouble =>
        simp only [TableWrite.connector, hanswer] at hfails
        cases hfails
        exact TableWrite.answer_failure hbound hanswer

/-! ## The report and the steps -/

/-- For every workflow and every context, what is reported missing is what a standard registry makes
steps fail for. Every step that refers to it fails for want of it, on any input; when nothing is
reported, a step fails so exactly when it refers to nothing, or to what is bound to an empty text.
-/
theorem Registry.standard_foretold {client : ActionClient} (connected : client.Connected)
    (functions : List (String × CustomFunction)) (loader : CodeLoader) (evaluate : Evaluator)
    (catalog : Catalog) (d : Definition) (context : Context) :
    Requirement.connections.Foretold (.standard client functions loader evaluate catalog) d
        context ∧
      Requirement.tables.Foretold (.standard client functions loader evaluate catalog) d
        context := by
  refine ⟨(Requirement.connections_enforced connected functions loader evaluate catalog).foretold
      (Requirement.connections_report d context) fun hmet => ?_,
    (Requirement.tables_enforced client functions loader evaluate catalog).foretold
      (Requirement.tables_report d context) fun hmet => ?_⟩
  · exact List.isEmpty_iff.1 (Bool.and_eq_true_iff.1 hmet).1
  · exact List.isEmpty_iff.1 (Bool.and_eq_true_iff.1 hmet).2

/-! ## A connection that is empty -/

/-- A service that cannot be reached. -/
def unreachable : ActionClient :=
  ActionService.client { baseUrl := "http://localhost" } fun _ => .lost "no route"

/-- A registry of that service, which loads no functions and evaluates no conditions. -/
def Registry.withoutService : Registry :=
  .standard unreachable [] (fun _ _ => .nothing) (fun _ names => ⟨none, names⟩) {}

/-- A remote action. -/
def Step.fetching : Step where
  id := "a"
  kind := .remoteTool
  toolkit := some "t"
  action := some "A"

/-- A workflow of that action alone. -/
def Definition.fetching : Definition where
  id := "w"
  name := "W"
  steps := [.fetching]
  mappings := []

/-- A context that binds its toolkit to an empty text. -/
def Context.blank : Context where
  connections := [("t", "")]

theorem Registry.standard_foretold_unreachable :
    unreachable.Connected ∧
      Requirement.connections.Foretold .withoutService .fetching .blank ∧
      Requirement.tables.Foretold .withoutService .fetching .blank :=
  ⟨ActionService.client_connected _ _,
    Registry.standard_foretold (ActionService.client_connected _ _) [] (fun _ _ => .nothing)
      (fun _ names => ⟨none, names⟩) {} .fetching .blank⟩

/-- Nothing is reported missing, and the only step of the workflow fails for want of its connection.
-/
theorem Registry.blank_not_foretold :
    (Definition.fetching.prerequisites .blank).isMet = true ∧
      Registry.withoutService.carryOut .fetching .null .blank {} {} =
        .error (.failure Step.fetching.unconnected) := by
  decide +kernel

end Conduit
