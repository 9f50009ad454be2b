import CpuAlert.Api.MediaType
import CpuAlert.Api.Message
import CpuAlert.Api.Query
import CpuAlert.Api.Role
import CpuAlert.Service.Observe
import CpuAlert.Service.Update
import CpuAlert.Wire.Config
import CpuAlert.Wire.History

/-!
# Requests to the service

A request is answered in this order. Its path names an endpoint, or nothing is
found there. The caller's token is checked, at every endpoint but that of the
service's health. The method names an action at the endpoint, or it is not
allowed. What the action needs is read from the query or the body. Only then a
caller who may only read is refused an action that changes something.

## Main definitions

* `Endpoint`, `Action` — what can be asked for
* `Api` — what requests are answered with
* `Api.handle` — the answer to a request
-/

namespace CpuAlert

open Program (perform)

/-! ## Endpoints and actions -/

/-- A place that requests are sent to. -/
inductive Endpoint
  | health
  | config
  | status
  | silence
  | history
  | test
  | stream
  deriving DecidableEq, Repr

/-- The endpoint at a path. -/
def Endpoint.ofPath? (path : String) : Option Endpoint :=
  match path with
  | "/api/v1/health" => some .health
  | "/api/v1/alerts/config" => some .config
  | "/api/v1/alerts/status" => some .status
  | "/api/v1/alerts/silence" => some .silence
  | "/api/v1/alerts/history" => some .history
  | "/api/v1/alerts/test" => some .test
  | "/api/v1/stream" => some .stream
  | _ => none

/-- The caller's token is checked. -/
def Endpoint.isProtected (e : Endpoint) : Bool := e != .health

/-- Something that can be done at an endpoint. -/
inductive Action
  | readHealth
  | readConfig
  | changeConfig
  | readStatus
  | beginSilence
  | endSilence
  | readHistory
  | sendTest
  | openStream
  deriving DecidableEq, Repr

/-- The action that a method asks for. What may be read may also be asked for
without its body. -/
def Endpoint.action? : Endpoint → Method → Option Action
  | health, .get | health, .head => some .readHealth
  | config, .get | config, .head => some .readConfig
  | config, .put => some .changeConfig
  | status, .get | status, .head => some .readStatus
  | silence, .post => some .beginSilence
  | silence, .delete => some .endSilence
  | history, .get | history, .head => some .readHistory
  | test, .post => some .sendTest
  | stream, .get => some .openStream
  | _, _ => none

/-! ## Responses -/

namespace Response

/-- A response that brings a value. -/
def ok (v : Json.Value) : Response := { status := 200, body := .json v }

/-- A response without a body. -/
def bare (status : Nat) : Response := { status }

/-- The refusal of a caller who may only read. -/
def readOnly : Response :=
  { status := 403, body := .ofError "read-only access cannot modify alerts" }

end Response

/-- The status of a failure of the service. -/
def ServiceError.httpStatus : ServiceError → Nat
  | configuration _ => 400
  | invalidSilence _ => 400
  | secretsUnavailable _ => 409
  | channelsDisabled => 409
  | persistence _ => 500
  | crypto _ => 500

/-- The response to a failure of the service. -/
def ServiceError.response (e : ServiceError) : Response :=
  { status := e.httpStatus, body := .ofError e.message }

/-- The status of a refusal. -/
def Refusal.httpStatus : Refusal → Nat
  | missing => 401
  | notBearer => 401
  | unknownToken => 403

/-- The response to a caller without access. -/
def Refusal.response (e : Refusal) : Response :=
  { status := e.httpStatus, body := .text e.message }

/-- A response to what became of an operation. -/
def Response.ofResult {α : Type} (f : α → Response) : Except ServiceError α → Response
  | .ok a => f a
  | .error e => e.response

/-! ## Bodies -/

/-- The largest body that is read, in bytes. -/
def maxBody : Nat := 2097152

/-- The body of a request as JSON, or why it cannot be had. What follows the
value is not looked at. -/
def Request.readBody {α : Type} (r : Request) (decode : Json.Decoder α) : Except Response α :=
  if ¬ (r.contentType.bind MediaType.read?).any MediaType.isJson then .error (.bare 415)
  else if maxBody < r.body.utf8ByteSize then .error (.bare 413)
  else
    match Json.decodeLeading decode r.body with
    | .ok a => .ok a
    | .error .mismatched => .error (.bare 422)
    | .error _ => .error (.bare 400)

namespace Wire

/-- The minutes of a silence. -/
def silenceMinutes : Json.Decoder Int :=
  Json.Decoder.record [.of "minutes" .required Json.Decoder.int64 fun a _ => a] 0

end Wire

/-! ## Actions -/

/-- What requests are answered with. -/
structure Api where
  service : Service
  tokens : BearerTokens := {}
  crossOrigin : Bool := false

namespace Api

/-- The service's health. -/
def health : Program Response := do
  let (healthy, message) := match ← Service.health with
    | .ok h => (h.healthy, h.message)
    | .error e => (false, e.message)
  let now ← perform .clock
  let enabled ← Service.isEnabled
  return .ok (.object
    [("status", .text (if healthy then "ok" else "degraded")),
     ("timestamp", .text (Time.Rfc3339.write .fewest .numeric now)),
     ("storage_healthy", .bool healthy),
     ("storage_message", .text message),
     ("alerts_enabled", .bool enabled)])

/-- The status after a silence has begun or ended. -/
def afterSilence {α : Type} : Except ServiceError α → Program Response
  | .error e => return e.response
  | .ok _ => return .ok (← Service.status false).toJson

/-- The events that a query asks for. -/
def history (s : Service) (q : HistoryRequest) : Program Response := do
  return .ofResult
    (fun events => .ok (.object
      [("events", .array (events.map Event.toJson)), ("retention_days", .int s.retentionDays)]))
    (← Service.history (q.limit.getD 0) q.beforeId)

/-- Do something that changes the service, if the caller may. -/
def asAdmin (role : Role) (p : Program Response) : Program Response :=
  if role.mayOnlyRead then return .readOnly else p

/-- Do what is asked for. -/
def act (s : Service) (role : Role) (r : Request) : Action → Program Response
  | .readHealth => health
  | .readConfig => return .ok (← s.view role.mayOnlyRead).toJson
  | .changeConfig =>
    match r.readBody Wire.update with
    | .error response => return response
    | .ok u => asAdmin role do
      return .ofResult (fun (v : View) => .ok v.toJson) (← s.update u)
  | .readStatus => return .ok (← Service.status role.mayOnlyRead).toJson
  | .beginSilence =>
    match r.readBody Wire.silenceMinutes with
    | .error response => return response
    | .ok minutes => asAdmin role do afterSilence (← Service.silence minutes)
  | .endSilence => asAdmin role do afterSilence (← Service.endSilence)
  | .readHistory =>
    match HistoryRequest.read? r.query with
    | none => return .bare 400
    | some q => history s q
  | .sendTest => asAdmin role do
      return .ofResult (fun (e : Event) => .ok e.toJson) (← s.sendTest)
  | .openStream => return .bare (if r.upgrade then 101 else 400)

/-- The answer at an endpoint. -/
def answerAt (a : Api) (r : Request) (e : Endpoint) : Program Response :=
  match if e.isProtected then a.tokens.roleFor r.authorization else .ok .viewer with
  | .error refusal => return refusal.response
  | .ok role =>
    match e.action? r.method with
    | none => return .bare 405
    | some action => act a.service role r action

/-- The answer to a request, before other sites are thought of. -/
def answer (a : Api) (r : Request) : Program Response :=
  match Endpoint.ofPath? r.path with
  | none => return .bare 404
  | some e => do
    let response ← a.answerAt r e
    return if r.method = .head then { response with body := .none } else response

/-- The answer to a request. If other sites may read responses, they may, and
whoever asks what is allowed is told that everything is. -/
def handle (a : Api) (r : Request) : Program Response :=
  if a.crossOrigin then
    -- such a question is answered without looking at path or token
    if r.method = .options then return { status := 200, allowOrigin := some "*" }
    else return { ← a.answer r with allowOrigin := some "*" }
  else a.answer r

end Api

end CpuAlert
