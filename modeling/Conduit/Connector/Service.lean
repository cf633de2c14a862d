import Conduit.Connector.RemoteTool
import Conduit.Value.Document

/-!
# The action service

What is sent to an action service, and what is made of what comes back. How requests travel is left
open.

* `ActionService` — where the service is;
* `PostRequest`, `Exchange` — what is sent, and what becomes of it;
* `ActionService.post` — the request for an action;
* `ActionService.interpret` — the answer that an exchange stands for;
* `ActionService.client` — the service as a client of actions.
-/

namespace Conduit

/-- An action service. -/
structure ActionService where
  /-- Where the service is, without slashes at the end. -/
  baseUrl : String
  /-- The key that goes with every request. -/
  key : Option String := none
  /-- How long a request may take, in seconds. -/
  timeout : Double := Double.ofRatio false 60 1
deriving DecidableEq, Inhabited

/-- A request that posts a JSON document. -/
structure PostRequest where
  /-- Where it is sent. -/
  url : String
  /-- The key that goes with it. -/
  key : Option String
  /-- How long it may take, in seconds. -/
  timeout : Double
  /-- The document. -/
  body : Value
deriving DecidableEq, Inhabited

/-- What becomes of a request. -/
inductive Exchange where
  /-- A good response, with the document that it holds. -/
  | answered (data : Value)
  /-- A response whose status is not good, and its text. -/
  | refused (status : Nat) (text : String)
  /-- The request or its response was lost on the way. -/
  | lost (report : String)
  /-- The request or its response holds something that is no proper value, as a good response that
  is no JSON document. -/
  | improper (report : String)
  /-- It ends in something else, which nothing foresees. -/
  | broken (fault : Fault)
deriving DecidableEq, Inhabited

namespace ActionService

/-- A text without slashes at its end. -/
def withoutSlashes (s : String) : String :=
  String.ofList ((s.toList.reverse.dropWhile (· = '/')).reverse)

/-- The service at a place. -/
def located (url : String) (key : Option String) (timeout : Double) : ActionService where
  baseUrl := withoutSlashes url
  key := key
  timeout := timeout

/-- A failure of an action. -/
def failure (action what : String) (details : Members) : Trouble :=
  .failure
    { kind := .remoteAction, message := "Action " ++ action ++ " " ++ what,
      details := ("action_id", .str action) :: details }

/-- What is said of an action to the service. -/
def bodyOf (r : ActionRequest) : Value :=
  .object
    [("arguments", .object r.arguments), ("connected_account_id", .str r.account),
     ("user_id", .ofText? r.entity)]

/-- The request for an action. An empty key counts as none. -/
def post (s : ActionService) (r : ActionRequest) : PostRequest where
  url := s.baseUrl ++ "/tools/execute/" ++ r.action
  key := s.key.filter (!·.isEmpty)
  timeout := s.timeout
  body := bodyOf r

/-- The members of an answer. -/
def answerMembers (m : Members) : Members :=
  [("successful", .bool (Members.getD m "successful").isTruthy), ("data", Members.getD m "data"),
   ("error", Members.getD m "error")]

/-- The answer that the document of a good response stands for. -/
def answerOf (action : String) (data : Value) : Except Trouble ActionResult :=
  match data with
  | .object m =>
    match (ActionResult.decode (answerMembers m)).toExcept with
    | .ok result => .ok result
    | .error issues => .error (.undecodable issues)
  | _ => .error (failure action "returned an unexpected payload" [])

/-- The answer to a request for an action. -/
def interpret (action : String) : Exchange → Except Trouble ActionResult
  | .answered data => answerOf action data
  | .refused status text =>
    .error (failure action ("failed with HTTP " ++ toString status ++ ": " ++ text)
      [("status_code", .ofNat status)])
  | .lost report => .error (failure action ("request failed: " ++ report) [])
  | .improper report => .error (failure action ("returned invalid JSON: " ++ report) [])
  | .broken fault => .error (.fault fault)

/-- A client of a service; `exchange` says what becomes of a request. -/
def client (s : ActionService) (exchange : PostRequest → Exchange) : ActionClient := fun r =>
  { wait := .none, result := interpret r.action (exchange (s.post r)) }

end ActionService

end Conduit
