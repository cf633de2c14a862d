import Conduit.Connector.Service
import Conduit.Location.Basic

/-!
# Requests over HTTP

What becomes of a request that is sent over HTTP. A location is read before anything is sent, and a
response is judged by its status. The action service is defined for every `Exchange`; this is the
one that runs.

* `HttpRequest` — what is sent;
* `HttpOutcome` — what comes back;
* `Http.requestOf` — what is sent for a request, unless something keeps it from being sent;
* `Http.exchange` — what becomes of a request.
-/

namespace Conduit

/-- A request as it is sent. -/
structure HttpRequest where
  /-- Where it is sent. -/
  location : Location
  /-- The key that goes with it. -/
  key : Option String
  /-- The document. -/
  body : Value
deriving DecidableEq, Inhabited

/-- What comes back for a request that is sent. -/
inductive HttpOutcome where
  /-- A response with a status and a text. -/
  | response (status : Nat) (text : String)
  /-- The request or the response was lost. -/
  | lost (report : String)
  /-- The request cannot be sent. -/
  | unsendable (fault : Fault)
deriving DecidableEq, Inhabited

namespace Http

/-- What keeps a key from being sent: characters that are not plain. -/
def keyFault? (key : String) : Option Fault :=
  let isPlain (c : Char) : Bool := decide (c.toNat < 0x80)
  let before := key.toList.takeWhile isPlain
  match (key.toList.drop before.length).takeWhile (!isPlain ·) with
  | [] => none
  | c :: rest => some (.notPlain c before.length (rest.length + 1))

/-- What is sent for a request. Nothing is sent to a broken location, nothing with a key that is not
plain and nothing with infinite numbers. Without a host only the path is asked for. -/
def requestOf (p : PostRequest) : Except Exchange HttpRequest :=
  match Location.read p.url with
  | .error flaw => .error (.broken (.badLocation flaw))
  | .ok location =>
    match p.key.bind keyFault? with
    | some fault => .error (.improper fault.message)
    | none =>
      if p.body.finite = p.body then
        .ok
          { location := if location.isAbsolute then location else location.rooted
            key := p.key, body := p.body }
      else .error (.improper Fault.outOfRangeNumber.message)

/-- The document of a good response. -/
def document (text : String) : Exchange :=
  match Json.readBytes text with
  | .ok data => .answered data
  | .error (.tooDeep kind) => .broken (.badJson (.tooDeep kind))
  | .error e => .improper e.message

/-- What comes back for a request. No response can be used whose request tells of no host. -/
def judge (r : HttpRequest) : HttpOutcome → Exchange
  | .response status text =>
    if r.location.isAbsolute then
      if 200 ≤ status ∧ status < 300 then document text else .refused status text
    else .improper ("unknown url type: " ++ Text.quoted r.location.text)
  | .lost report => .lost report
  | .unsendable fault => .broken fault

/-- What becomes of a request; `send` says what comes back for one that is sent. -/
def exchange (send : HttpRequest → HttpOutcome) (p : PostRequest) : Exchange :=
  match requestOf p with
  | .ok r => judge r (send r)
  | .error e => e

end Http

end Conduit
