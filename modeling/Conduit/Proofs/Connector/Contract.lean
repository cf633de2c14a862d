import Conduit.Proofs.Connector.Prerequisites
import Conduit.Proofs.Path
import Conduit.Proofs.Pipeline.Sequence
import Conduit.Proofs.Table.Sort

/-!
# What connectors promise

A connector answers a step with an output or with a failure of a connector, and where it fails the
tables are as they were. The connectors keep this promise except where what they work on cannot be
worked on: a path of a loop that cannot be read, rows that have no order, exchanges with an action
service that nothing foresees and complaints of the service that are no text. Then a fault or the
issues of a value come out instead. All this holds however conditions are evaluated and whatever
becomes of requests.

* `Escapes` — a computation that ends in something else than a failure of a connector;
* `Connector.Keeps` — the promise of a connector, up to where it slips;
* `ControlFlow.Slips`, `TableQuery.Slips`, `ActionService.Slips`, `RemoteTool.Slips` — where the
  connectors slip;
* `Connector.keeps_exactly` — what the connectors promise, exactly.
-/

namespace Conduit

/-- Trouble that a connector may come out with. -/
def Trouble.IsConnector : Trouble → Prop
  | .failure f => f.kind.isConnector = true
  | _ => False

/-- A computation ends in something that no connector may come out with. -/
def Escapes {α : Type} (x : Except Trouble α) : Prop :=
  ∃ trouble, x = .error trouble ∧ ¬trouble.IsConnector

section Escapes

variable {α β : Type}

@[simp] theorem not_escapes_ok (a : α) : ¬Escapes (.ok a : Except Trouble α) := by
  simp [Escapes]

@[simp] theorem escapes_failure_iff (f : Failure) :
    Escapes (.error (.failure f) : Except Trouble α) ↔ f.kind.isConnector = false := by
  simp [Escapes, Trouble.IsConnector]

@[simp] theorem escapes_fault (fault : Fault) :
    Escapes (.error (.fault fault) : Except Trouble α) := by
  simp [Escapes, Trouble.IsConnector]

@[simp] theorem escapes_undecodable (issues : List Issue) :
    Escapes (.error (.undecodable issues) : Except Trouble α) := by
  simp [Escapes, Trouble.IsConnector]

theorem escapes_bind_iff {x : Except Trouble α} {f : α → Except Trouble β} :
    Escapes (x >>= f) ↔ Escapes x ∨ ∃ a, x = .ok a ∧ Escapes (f a) := by
  cases x <;> simp [Escapes, bind, Except.bind]

@[simp] theorem escapes_map_iff {x : Except Trouble α} {f : α → β} :
    Escapes (x.map f) ↔ Escapes x := by
  cases x <;> simp [Escapes, Except.map]

end Escapes

namespace Connector

/-- What a connector answers when it is called in one environment and ends in another. -/
def answer (c : Connector) (s : Step) (input : Value) (context : Context)
    (before after : Environment) : Except Trouble Output :=
  ((c.call s input context before).2.finish after).2

/-- A connector answers with an output or with a failure of a connector, except exactly where it
slips. When it does not answer with an output, neither its beginning nor its end changes a table. -/
structure Keeps (c : Connector) (slips : Step → Value → Context → TableStore → Prop) : Prop where
  escapes : ∀ s input context before after,
    Escapes (c.answer s input context before after) ↔ slips s input context before.tables
  tables : ∀ s input context before after trouble,
    c.answer s input context before after = .error trouble →
      (c.call s input context before).1.tables = before.tables ∧
        ((c.call s input context before).2.finish after).1.tables = after.tables

end Connector

/-! ## Branches, merges and loops -/

namespace ControlFlow

section Loop

variable {evaluate : Evaluator} {c : ControlFlow}

/-- A loop stumbles: the path to its items cannot be read, or that to the part of an item that it
picks, as the item is after its condition has been evaluated. -/
inductive Stumbles (evaluate : Evaluator) (c : ControlFlow) (input : Value) : Prop
  | items (unreadable : Path.Unreadable input (c.itemsPath.getD ""))
  | part {found : Option Value} {item after : Value} {path : String}
      (read : Path.lookup? input (c.itemsPath.getD "") = .ok found)
      (mem : item ∈ itemsOf (found.getD .null)) (wanted : c.wants evaluate item = (true, after))
      (picks : given? c.partPath = some path) (unreadable : Path.Unreadable after path)

/-- Where steps of this kind slip: they are loops and stumble. -/
def Slips (evaluate : Evaluator) (s : Step) (input : Value) : Prop :=
  ∃ c, (decode s.config).toExcept = .ok c ∧ c.kind = .loop ∧ c.Stumbles evaluate input

theorem pick_eq_error_iff {item : Value} :
    (∃ fault, c.pick evaluate item = .error fault) ↔ ∃ after,
      c.wants evaluate item = (true, after) ∧
        ∃ path, given? c.partPath = some path ∧ Path.Unreadable after path := by
  unfold pick
  obtain ⟨wanted, after⟩ := c.wants evaluate item
  cases wanted with
  | false => simp
  | true => cases given? c.partPath <;> simp [Path.lookup?_eq_error_iff]

theorem loop_eq_error_iff {input : Value} :
    (∃ fault, c.loop evaluate input = .error fault) ↔ c.Stumbles evaluate input := by
  unfold loop
  cases hfound : Path.lookup? input (c.itemsPath.getD "") with
  | error fault =>
    exact ⟨fun _ => .items (Path.lookup?_eq_error_iff.1 ⟨fault, hfound⟩), fun _ => ⟨fault, rfl⟩⟩
  | ok found =>
    have hreadable : ¬Path.Unreadable input (c.itemsPath.getD "") := by
      rw [← Path.lookup?_eq_error_iff, hfound]
      simp
    have hitems : (∃ fault, (itemsOf (found.getD .null)).mapM (c.pick evaluate) =
        .error fault) ↔ c.Stumbles evaluate input := by
      rw [exists_mapM_eq_error_iff]
      constructor
      · rintro ⟨item, hmem, hpick⟩
        obtain ⟨after, hwanted, path, hpath, hunreadable⟩ := pick_eq_error_iff.1 hpick
        exact .part hfound hmem hwanted hpath hunreadable
      · intro h
        cases h with
        | items unreadable => exact absurd unreadable hreadable
        | part read mem wanted picks unreadable =>
          cases hfound.symm.trans read
          exact ⟨_, mem, pick_eq_error_iff.2 ⟨_, wanted, _, picks, unreadable⟩⟩
    rw [← hitems]
    refine exists_congr fun fault => ?_
    change ((itemsOf (found.getD .null)).mapM (c.pick evaluate) >>= _) = _ ↔ _
    rw [except_bind_eq_error]
    simp [pure, Except.pure]

end Loop

theorem keeps (evaluate : Evaluator) :
    (connector evaluate).Keeps fun s input _ _ => Slips evaluate s input where
  escapes := by
    intro s input context before after
    change Escapes ((ControlFlow.answer evaluate s input context).map Output.value) ↔ _
    rw [escapes_map_iff]
    unfold ControlFlow.answer Slips
    cases hconfig : (decode s.config).toExcept with
    | error issues => simp [invalidConfig, FailureKind.isConnector]
    | ok c =>
      have hrun : (∃ fault, c.run evaluate input = .error fault) ↔
          c.kind = .loop ∧ c.Stumbles evaluate input := by
        rw [← loop_eq_error_iff, run]
        cases c.kind <;> simp
      have hslips : (∃ c', (.ok c : Except (List Issue) ControlFlow) = .ok c' ∧ c'.kind = .loop ∧
          c'.Stumbles evaluate input) ↔ ∃ fault, c.run evaluate input = .error fault := by
        rw [hrun]
        simp
      rw [hslips]
      dsimp only
      cases c.run evaluate input <;> simp
  tables := fun _ _ _ _ _ _ _ => ⟨rfl, rfl⟩

end ControlFlow

/-! ## Tables -/

/-- Rows cannot be put in order because two of them have values without one. -/
theorem Table.arrange_error {key : Table.SortKey} {rows : List Members} {pair : Value.Unordered}
    (h : Table.arrange key rows = .error pair) :
    ∃ a ∈ rows, ∃ b ∈ rows, Table.isPresent key.column a = true ∧
      Table.isPresent key.column b = true ∧
      Value.less (Members.getD a key.column) (Members.getD b key.column) = .error pair := by
  have hsort : ∃ a ∈ rows.filter (Table.isPresent key.column),
      ∃ b ∈ rows.filter (Table.isPresent key.column),
        Value.less (Members.getD a key.column) (Members.getD b key.column) = .error pair := by
    unfold Table.arrange at h
    dsimp only at h
    split at h
    · rcases except_bind_eq_error.1 h with h | ⟨sorted, -, h⟩
      · exact Table.sortByDescending_error h
      · cases h
    · rcases except_bind_eq_error.1 h with h | ⟨sorted, -, h⟩
      · exact Table.sortBy_error h
      · cases h
  obtain ⟨a, ha, b, hb, hless⟩ := hsort
  obtain ⟨ha, hpresent⟩ := List.mem_filter.1 ha
  obtain ⟨hb, hpresent'⟩ := List.mem_filter.1 hb
  exact ⟨a, ha, b, hb, hpresent, hpresent', hless⟩

theorem not_escapes_boundTable {s : Step} {context : Context} :
    ¬Escapes (boundTable s context) := by
  unfold boundTable
  dsimp only
  split <;> simp [FailureKind.isConnector]

theorem TableStore.not_escapes_find {tables : TableStore} {id : String} :
    ¬Escapes (tables.find id) := by
  unfold TableStore.find
  split <;> simp [TableStore.notFound, FailureKind.isConnector]

/-- Asking a table slips if the rows that are asked for cannot be put in order. -/
theorem TableStore.escapes_query_iff {tables : TableStore} {id : String}
    {filters : List Table.Filter} {sort : Option Table.SortKey} {limit : Option Int} :
    Escapes (tables.query id filters sort limit) ↔ ∃ t key pair, tables.find id = .ok t ∧
      sort = some key ∧ Table.arrange key (t.select filters) = .error pair := by
  unfold TableStore.query
  rw [escapes_bind_iff, or_iff_right TableStore.not_escapes_find]
  refine exists_congr fun t => ?_
  cases sort with
  | none => simp [escapes_bind_iff, pure, Except.pure]
  | some key =>
    cases harrange : Table.arrange key (t.select filters) <;>
      simp [escapes_bind_iff, pure, Except.pure, harrange]

namespace TableQuery

/-- Where steps that read tables slip: the rows that they ask for cannot be put in order. -/
def Slips (s : Step) (input : Value) (context : Context) (tables : TableStore) : Prop :=
  ∃ id config t key pair, boundTable s context = .ok id ∧
    (Table.QueryConfig.decode s.config).toExcept = .ok config ∧ tables.find id = .ok t ∧
    config.sort = some key ∧
    Table.arrange key (t.select (config.filter.toList ++ inputFilters input)) = .error pair

/-- Two of the rows that a step asks for have values in the column to sort by, and these values have
no order. -/
theorem Slips.unordered {s : Step} {input : Value} {context : Context} {tables : TableStore}
    (h : Slips s input context tables) :
    ∃ id t column pair, ∃ a ∈ t.rows, ∃ b ∈ t.rows, tables.find id = .ok t ∧
      Table.isPresent column a = true ∧ Table.isPresent column b = true ∧
      Value.less (Members.getD a column) (Members.getD b column) = .error pair := by
  obtain ⟨id, config, t, key, pair, -, -, hfind, -, harrange⟩ := h
  obtain ⟨a, ha, b, hb, hless⟩ := Table.arrange_error harrange
  exact ⟨id, t, key.column, pair, a, List.mem_of_mem_filter ha, b, List.mem_of_mem_filter hb,
    hfind, hless⟩

theorem keeps : connector.Keeps Slips where
  escapes := by
    intro s input context before after
    change Escapes ((TableQuery.answer s input context before.tables).map Output.value) ↔ _
    rw [escapes_map_iff]
    unfold TableQuery.answer Slips
    rw [escapes_bind_iff, or_iff_right not_escapes_boundTable]
    refine exists_congr fun id => ?_
    cases hconfig : (Table.QueryConfig.decode s.config).toExcept with
    | error issues =>
      simp [invalidConfig, FailureKind.isConnector, throw, throwThe, MonadExceptOf.throw]
    | ok config =>
      simp [escapes_bind_iff, pure, Except.pure, TableStore.escapes_query_iff]
  tables := fun _ _ _ _ _ _ _ => ⟨rfl, rfl⟩

end TableQuery

namespace TableWrite

theorem not_escapes_write {s : Step} {config : Table.WriteConfig} {id : String} {row : Members}
    {tables : TableStore} : ¬Escapes (write s config id row tables) := by
  unfold write
  split
  · simp [TableStore.insert, escapes_bind_iff, TableStore.not_escapes_find, pure, Except.pure]
  · split
    · unfold TableStore.upsert
      rw [escapes_bind_iff, or_iff_right TableStore.not_escapes_find]
      rintro ⟨t, -, h⟩
      split at h <;> exact not_escapes_ok _ h
    · simp [FailureKind.isConnector]

theorem not_escapes_answer (s : Step) (input : Value) (context : Context) (tables : TableStore) :
    ¬Escapes (TableWrite.answer s input context tables) := by
  unfold TableWrite.answer
  rw [escapes_bind_iff, or_iff_right not_escapes_boundTable]
  rintro ⟨id, -, h⟩
  split at h
  · simp [invalidConfig, FailureKind.isConnector, throw, throwThe, MonadExceptOf.throw] at h
  · split at h
    · rw [escapes_bind_iff, or_iff_right not_escapes_write] at h
      obtain ⟨written, -, h⟩ := h
      exact not_escapes_ok _ h
    · simp [FailureKind.isConnector, throw, throwThe, MonadExceptOf.throw] at h

/-- Beginning to write a row writes it; what is left to wait for changes nothing. -/
theorem call_eq (s : Step) (input : Value) (context : Context) (before : Environment) :
    connector.call s input context before =
      match TableWrite.answer s input context before.tables with
      | .error trouble => (before, Call.answered (.error trouble))
      | .ok written =>
        ({ before with tables := written.1 }, Call.answered (.ok (.value written.2))) := by
  unfold connector
  dsimp only
  cases TableWrite.answer s input context before.tables <;> rfl

/-- Steps that write to tables never slip. -/
theorem keeps : connector.Keeps fun _ _ _ _ => False where
  escapes := by
    intro s input context before after
    have hanswer := not_escapes_answer s input context before.tables
    rw [iff_false, Connector.answer, call_eq]
    cases h : TableWrite.answer s input context before.tables with
    | error trouble =>
      rw [h] at hanswer
      rintro ⟨_, ⟨⟩, hconnector⟩
      exact hanswer ⟨trouble, rfl, hconnector⟩
    | ok written => exact not_escapes_ok _
  tables := by
    intro s input context before after trouble hfails
    rw [Connector.answer, call_eq] at hfails
    rw [call_eq]
    cases h : TableWrite.answer s input context before.tables with
    | error trouble => exact ⟨rfl, rfl⟩
    | ok written =>
      rw [h] at hfails
      cases hfails

end TableWrite

/-! ## Remote actions -/

namespace ActionService

/-- Where asking an action service slips: the exchange ends in what nothing foresees, or the
document of a good response complains in something else than a text. -/
inductive Slips (service : ActionService) (exchange : PostRequest → Exchange) (r : ActionRequest) :
    Prop
  | broken {fault : Fault} (exchanged : exchange (service.post r) = .broken fault)
  | complaint {m : Members} (exchanged : exchange (service.post r) = .answered (.object m))
      (unfit : Members.getD m "error" ≠ .null) (kind : ∀ t, Members.getD m "error" ≠ .str t)

@[simp] theorem not_escapes_failure {α : Type} (action what : String) (details : Members) :
    ¬Escapes (.error (failure action what details) : Except Trouble α) := by
  simp [failure, FailureKind.isConnector]

/-- Of the members of an answer, only the complaint can be of a kind that cannot be read. -/
theorem decode_answerMembers (m : Members) :
    (∃ issues, (ActionResult.decode (answerMembers m)).toExcept = .error issues) ↔
      Members.getD m "error" ≠ .null ∧ ∀ t, Members.getD m "error" ≠ .str t := by
  have hdecode : ActionResult.decode (answerMembers m) =
      (((Decode.nullable Decode.text) (Members.getD m "error")).under (.field "error")).map
        (ActionResult.mk (Members.getD m "successful").isTruthy (Members.getD m "data")) := by
    simp only [ActionResult.decode, answerMembers, Decode.field, Decode.optional, Members.get?,
      String.reduceEq, if_true, if_false]
    cases ((Decode.nullable Decode.text) (Members.getD m "error")).under (.field "error") <;> rfl
  rw [hdecode]
  cases Members.getD m "error" <;>
    simp [Decode.nullable, Decode.text, Decode.refuse, Decoded.map, Decoded.under, Decoded.toExcept]

theorem escapes_answerOf_iff {action : String} {data : Value} :
    Escapes (answerOf action data) ↔ ∃ m, data = .object m ∧ Members.getD m "error" ≠ .null ∧
      ∀ t, Members.getD m "error" ≠ .str t := by
  cases data with
  | object m =>
    have hdecode := decode_answerMembers m
    simp only [answerOf]
    cases h : (ActionResult.decode (answerMembers m)).toExcept with
    | ok result =>
      rw [h] at hdecode
      simpa using hdecode
    | error issues =>
      rw [h] at hdecode
      simpa using hdecode
  | _ => simp [answerOf]

theorem escapes_client_iff {service : ActionService} {exchange : PostRequest → Exchange}
    {r : ActionRequest} :
    Escapes (service.client exchange r).result ↔ service.Slips exchange r := by
  change Escapes (interpret r.action (exchange (service.post r))) ↔ _
  constructor
  · intro h
    cases hexchange : exchange (service.post r) with
    | answered data =>
      rw [hexchange] at h
      obtain ⟨m, rfl, unfit, kind⟩ := escapes_answerOf_iff.1 h
      exact .complaint hexchange unfit kind
    | broken fault => exact .broken hexchange
    | refused | lost | improper => simp [hexchange, interpret] at h
  · intro h
    cases h with
    | broken exchanged => simp [exchanged, interpret]
    | complaint exchanged unfit kind =>
      rw [exchanged, interpret]
      exact escapes_answerOf_iff.2 ⟨_, rfl, unfit, kind⟩

end ActionService

namespace RemoteTool

/-- Where steps that ask an action service slip: asking the service does. -/
def Slips (service : ActionService) (exchange : PostRequest → Exchange) (s : Step) (input : Value)
    (context : Context) : Prop :=
  ∃ r, request s input context = .ok r ∧ service.Slips exchange r

theorem not_escapes_request (s : Step) (input : Value) (context : Context) :
    ¬Escapes (request s input context) := by
  unfold request connection
  rw [escapes_bind_iff]
  rintro (h | ⟨account, -, h⟩)
  · split at h <;> simp [FailureKind.isConnector] at h
  · split at h
    · simp [FailureKind.isConnector, throw, throwThe, MonadExceptOf.throw] at h
    · exact not_escapes_ok _ h

theorem not_escapes_outputOf {s : Step} {result : ActionResult} :
    ¬Escapes (outputOf s result) := by
  unfold outputOf
  split <;> simp [FailureKind.isConnector]

theorem keeps (service : ActionService) (exchange : PostRequest → Exchange) :
    (connector (service.client exchange)).Keeps fun s input context _ =>
      Slips service exchange s input context where
  escapes := by
    intro s input context before after
    have hrequest := not_escapes_request s input context
    unfold Connector.answer connector Slips
    dsimp only
    cases h : request s input context with
    | error trouble =>
      rw [h] at hrequest
      simpa [Escapes, Call.answered] using hrequest
    | ok r =>
      change Escapes ((service.client exchange r).result >>= outputOf s) ↔ _
      rw [escapes_bind_iff, ActionService.escapes_client_iff]
      simp [not_escapes_outputOf]
  tables := by
    intro s input context before after trouble _
    unfold connector
    dsimp only
    split <;> exact ⟨rfl, rfl⟩

end RemoteTool

namespace Connector

/-- What the connectors promise, however conditions are evaluated, whatever action service there is
and whatever becomes of the requests to it. Branches, merges and loops slip exactly where a loop
stumbles, steps that read tables where the rows that they ask for cannot be put in order, which
takes two values without one, steps that write to tables never, and remote actions where asking
their service does. -/
theorem keeps_exactly (evaluate : Evaluator) (service : ActionService)
    (exchange : PostRequest → Exchange) :
    (ControlFlow.connector evaluate).Keeps
      (fun s input _ _ => ControlFlow.Slips evaluate s input) ∧
    TableQuery.connector.Keeps TableQuery.Slips ∧
    (∀ s input context tables, TableQuery.Slips s input context tables →
      ∃ id t column pair, ∃ a ∈ t.rows, ∃ b ∈ t.rows, tables.find id = .ok t ∧
        Table.isPresent column a = true ∧ Table.isPresent column b = true ∧
        Value.less (Members.getD a column) (Members.getD b column) = .error pair) ∧
    TableWrite.connector.Keeps (fun _ _ _ _ => False) ∧
    (RemoteTool.connector (service.client exchange)).Keeps
      (fun s input context _ => RemoteTool.Slips service exchange s input context) :=
  ⟨ControlFlow.keeps evaluate, TableQuery.keeps, fun _ _ _ _ h => h.unordered, TableWrite.keeps,
    RemoteTool.keeps service exchange⟩

/-! ## A column of numbers and texts -/

/-- A step that asks for all rows of a table, sorted by a column. -/
def sortingStep : Step where
  id := "q"
  kind := .tableQuery
  table := some "t"
  config := [("sort", .object [("column", .str "x")])]

/-- A context that binds the table of the step. -/
def sortingContext : Context where
  tables := [("t", "T")]

/-- A table with a number and a text in the column. -/
def mixedTables : TableStore := .ofTables [("T", [[("x", .int 1)], [("x", .str "a")]])]

/-- A number and a text have no order, and reading the table ends in a fault. -/
theorem mixed_escapes :
    TableQuery.connector.answer sortingStep (.object []) sortingContext { tables := mixedTables }
        { tables := mixedTables } = .error (.fault (.unordered ⟨"str", "int"⟩)) ∧
      ¬(Trouble.fault (.unordered ⟨"str", "int"⟩)).IsConnector := by
  refine ⟨by decide +kernel, ?_⟩
  simp [Trouble.IsConnector]

end Connector

end Conduit
