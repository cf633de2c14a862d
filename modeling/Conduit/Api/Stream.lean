import Conduit.Api.Service

/-!
# Streams

A client follows a run: it sends one document that asks for the run, and is sent the events of the
run in their order, as messages. When the client is gone the run is cancelled.

* `Engine.connect` — what becomes of a client;
* `Engine.closeStream` — what it was sent when all is over.
-/

namespace Conduit

/-- What a client was sent, and how that ended. -/
structure Transcript where
  /-- The messages. -/
  messages : List Value := []
  /-- Whether the service ended the stream. -/
  closed : Bool := false
  /-- Trouble that nobody expected. -/
  trouble : Option Trouble := none
deriving Inhabited

/-- What becomes of a client. -/
inductive Following where
  /-- It was sent all that it is sent. -/
  | over (t : Transcript)
  /-- It follows a run; after `reach` messages it is gone. -/
  | run (id : String) (reach : Option Nat)
deriving Inhabited

/-- A message that something went wrong. -/
def errorMessage (report : Value) : Value := .object [("event", .str "error"), ("data", report)]

/-- A message that a request cannot be met. -/
def invalidRequest (report : String) : Value :=
  errorMessage
    (.object
      [("error", .str ("Invalid request: " ++ report)), ("code", .str "invalid_request")])

namespace Transcript

/-- Whether a client that is gone after `reach` messages is sent another one. -/
def reaches (reach : Option Nat) (count : Nat) : Bool := reach.all fun n => decide (count < n)

/-- Sends one more message and ends the stream. -/
def endWith (sent : List Value) (message : Value) (reach : Option Nat) : Transcript :=
  if reaches reach sent.length then { messages := sent ++ [message], closed := true }
  else { messages := sent, trouble := some (.fault .disconnected) }

/-- The end of a stream whose run met trouble. -/
def endInTrouble (sent : List Value) (trouble : Trouble) (reach : Option Nat) : Transcript :=
  match trouble with
  | .failure f => endWith sent (errorMessage f.report) reach
  | t => { messages := sent, trouble := some t }

end Transcript

/-- What keeps a message from being understood. -/
inductive Misunderstanding where
  /-- It is told to the client. -/
  | told (report : String)
  /-- Nobody expected it. -/
  | untold (fault : Fault)

/-- The context that a message of a client asks for. -/
def Context.ofMessage (text : String) : Except Misunderstanding Context :=
  match Json.read text with
  | .error (.tooDeep kind) => .error (.untold (.badJson (.tooDeep kind)))
  | .error e => .error (.told e.message)
  | .ok v =>
    if v.isTruthy then
      match v with
      | .object members =>
        match (Context.decodePayload members).toExcept with
        | .ok c => .ok c
        | .error issues => .error (.told (issueReport "ExecuteRequest" issues))
      | v =>
        .error (.told (Fault.notFields "stepflow.api.routes.ExecuteRequest" v.kindName).message)
    else .ok {}

/-- An event as a message. -/
def RunEvent.publish (e : RunEvent) (run : String) : Value :=
  Value.published (.object [("event", .str e.name), ("data", .object (e.data run))])

namespace Engine

/-- Begins the run that a client asks for in its first message, if it sends one. -/
def follow (e : Engine) (workflow : String) (messages : List String) (reach : Option Nat) :
    Engine × Following :=
  match messages with
  | [] => (e, .over {})
  | text :: _ =>
    match Context.ofMessage text with
    | .error (.told report) => (e, .over (Transcript.endWith [] (invalidRequest report) reach))
    | .error (.untold fault) => (e, .over { trouble := some (.fault fault) })
    | .ok context =>
      match e.start { workflow := workflow, context := context }
          (some { left := reach.map (· + 1) }) false with
      | (e, .ok run) => (e, .run run reach)
      | (e, .error trouble) => (e, .over (Transcript.endInTrouble [] trouble reach))

/-- What becomes of a client at a path. -/
def connect (e : Engine) (address : Address) (messages : List String) (reach : Option Nat) :
    Engine × Following :=
  match Endpoint.streamed? address.path with
  | some workflow => e.follow workflow messages reach
  | none => (e, .over { closed := true })

/-- What a client was sent of a run that is over. Trouble of a run that the client does not follow
any more is nobody's. -/
def transcriptOf (e : Engine) (id : String) (reach : Option Nat) : Transcript :=
  match e.record? id with
  | none => {}
  | some r =>
    let seen := r.run.sightings.map fun s => s.event.publish id
    let sent := seen.take (reach.getD seen.length)
    match decide (sent.length < seen.length), r.run.phase with
    | false, .over (.raised trouble) _ => Transcript.endInTrouble sent trouble reach
    | false, _ => { messages := sent, closed := true }
    | true, .over (.raised (.failure _)) _ =>
      { messages := sent, trouble := some (.fault (.noOperation "WebSocket" "method")) }
    | true, .over (.raised trouble) _ => { messages := sent, trouble := some trouble }
    | true, _ => { messages := sent }

/-- What a client was sent when all is over. -/
def closeStream (e : Engine) : Following → Engine × Transcript
  | .over t => (e, t)
  | .run id reach =>
    let e := e.await id
    (e, e.transcriptOf id reach)

end Engine

end Conduit
