import RetryTrial.Http.MediaType
import RetryTrial.Http.Request
import RetryTrial.Service
import RetryTrial.Wire

/-!
# Calls

`Request.call` finds out what a request asks for, or why it is refused. Targets under `/retries/`
and all targets that are not known need the internal key; changing a tenant's share needs the admin
key. The key is checked first, then the method, then the identifier in the path, the content type,
the length of the body and what it says. Nothing here depends on the state of the service.
-/

namespace RetryTrial

def Guard.header : Guard → String
  | admin => "X-Admin-Api-Key"
  | internal => "X-Internal-Api-Key"

def Setup.key (setup : Setup) : Guard → String
  | .admin => setup.adminKey
  | .internal => setup.internalKey

namespace Http
open Json Text

inductive Call
  | declineCodes (retryable category : Option String)
  | checkPayment (externalKey : String) (tenant : Uuid)
  | statistics
  | readiness
  | liveness
  | getShare (tenant : Uuid)
  | putShare (tenant : Uuid) (percent : Int32)
  | decide (attempt : Attempt)
  | score (attempt : Uuid) (outcome : Outcome)

/-- Why a request is refused before it is looked at any further. -/
inductive Refusal
  | unauthorized (guard : Guard)
  | badRequest
  | notFound
  | methodNotAllowed
  | payloadTooLarge
  | unsupportedMediaType
  | unprocessable
deriving DecidableEq

def Refusal.status : Refusal → Nat
  | badRequest => 400
  | unauthorized _ => 401
  | notFound => 404
  | methodNotAllowed => 405
  | payloadTooLarge => 413
  | unsupportedMediaType => 415
  | unprocessable => 422

/-- What the path leads to. -/
inductive Target
  | declineCodes
  | paymentMethodCheck
  | statistics
  | readiness
  | liveness
  | share (tenant : String)
  | decide
  | outcome (attempt : String)
  | unknown
deriving DecidableEq

def Target.ofSegments : List String → Target
  | ["", "decline-codes"] => declineCodes
  | ["", "payment-method-check"] => paymentMethodCheck
  | ["", "stats"] => statistics
  | ["", "ops", "readiness"] => readiness
  | ["", "ops", "liveness"] => liveness
  | ["", "experiment-config", tenant] => if tenant = "" then unknown else share tenant
  | ["", "retries", "decide"] => decide
  | ["", "retries", attempt, "outcome"] => outcome attempt
  | _ => unknown

namespace Request

def leadsTo (r : Request) : Target := .ofSegments r.segments

/-- The method asks for a resource without changing it. -/
def isRead (r : Request) : Bool := r.method == "GET" || r.method == "HEAD"

def requireKey (r : Request) (setup : Setup) (guard : Guard) : Except Refusal Unit :=
  if r.hasKey guard.header (setup.key guard) then .ok () else .error (.unauthorized guard)

def requireMethod (allowed : Bool) : Except Refusal Unit :=
  if allowed then .ok () else .error .methodNotAllowed

/-- The identifier in a segment of the path. -/
def pathUuid (segment : String) : Except Refusal Uuid :=
  match (percentDecode? segment).bind Uuid.ofText? with
  | some u => .ok u
  | none => .error .badRequest

/-- How many bytes a body may have. -/
def bodyLimit : Nat := 2097152

/-- The record in the body. -/
def bodyRecord (r : Request) (shape : Shape α) : Except Refusal α :=
  if !(r.header? "Content-Type").any MediaType.isJson then .error .unsupportedMediaType
  else if bodyLimit < r.body.length then .error .payloadTooLarge
  else
    match shape.readStart r.body with
    | .ok a => .ok a
    | .error .malformed => .error .badRequest
    | .error .misfit => .error .unprocessable

/-- The value of a name in the query, which may be given once. -/
def parameter? (r : Request) (name : String) : Except Refusal (Option String) :=
  match r.form.filter (·.1 = name) with
  | [] => .ok none
  | [(_, value)] => .ok (some value)
  | _ => .error .badRequest

def parameter (r : Request) (name : String) : Except Refusal String := do
  match ← r.parameter? name with
  | some value => return value
  | none => .error .badRequest

def call (setup : Setup) (r : Request) : Except Refusal Call :=
  match r.leadsTo with
  | .declineCodes => do
    requireMethod r.isRead
    let retryable ← r.parameter? "retryable"
    let category ← r.parameter? "category"
    return .declineCodes retryable category
  | .paymentMethodCheck => do
    requireMethod r.isRead
    let externalKey ← r.parameter "payment_external_key"
    let tenant ← r.parameter "tenant_id"
    match Uuid.ofText? tenant with
    | some tenant => return .checkPayment externalKey tenant
    | none => .error .badRequest
  | .statistics => do
    requireMethod r.isRead
    return .statistics
  | .readiness => do
    requireMethod r.isRead
    return .readiness
  | .liveness => do
    requireMethod r.isRead
    return .liveness
  | .share segment =>
    if r.isRead then do
      let tenant ← pathUuid segment
      return .getShare tenant
    else do
      r.requireKey setup .admin
      requireMethod (r.method == "PUT")
      let tenant ← pathUuid segment
      let percent ← r.bodyRecord Shape.shareUpdate
      return .putShare tenant percent
  | .decide => do
    r.requireKey setup .internal
    requireMethod (r.method == "POST")
    let attempt ← r.bodyRecord Shape.attempt
    return .decide attempt
  | .outcome segment => do
    r.requireKey setup .internal
    requireMethod (r.method == "POST")
    let attempt ← pathUuid segment
    let outcome ← r.bodyRecord Shape.outcomeReport
    return .score attempt outcome
  | .unknown => do
    r.requireKey setup .internal
    .error .notFound

end Request

end Http

end RetryTrial
