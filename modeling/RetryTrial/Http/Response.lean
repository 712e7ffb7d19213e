import RetryTrial.Http.Call

/-!
# Responses

`respond` answers a request: a refusal leaves the world as it is, a call is carried out. Failures of
collaborators are logged with their whole chain, and the answer shows the outermost message. A read
that is asked for by `HEAD` is answered without its body.
-/

namespace RetryTrial.Http
open Json Text

inductive Body
  | document (document : Document)
  | text (text : String)
  /-- Nothing that this service words. -/
  | none

structure Response where
  status : Nat
  body : Body

namespace Response

def ok (d : Document) : Response := ⟨200, .document d⟩

def error (status : Nat) (message : String) : Response :=
  ⟨status, .document (.object [("error", .text message)])⟩

def ofRefusal : Refusal → Response
  | .unauthorized guard => ⟨(Refusal.unauthorized guard).status, .text "unauthorized"⟩
  | refusal => ⟨refusal.status, .none⟩

def withoutBody (r : Response) : Response := { r with body := .none }

end Response

/-- A flag in the query is set by the word true alone. -/
def isTrue (text : Option String) : Bool :=
  text.any fun s => sameIgnoringCase (trim s.toList) "true".toList

def tableDocument (view : Std.ExtTreeMap String CodeTable) : Document :=
  .object (view.toList.map fun (plugin, codes) => (plugin, codes.document))

def declineCodes (table : Table) (retryable category : Option String) : Response :=
  match category with
  | none => .ok (tableDocument (table.filtered (isTrue retryable) none))
  | some name =>
    match Category.ofName? name with
    | some c => .ok (tableDocument (table.filtered (isTrue retryable) (some c)))
    | none => .error 400 s!"unknown category '{name}'"

def statistics (gate : Gate) : Document :=
  .object [("attempted", .ofNat gate.attempted), ("aborted", .ofNat gate.aborted),
    ("pending", .ofNat gate.pending.size), ("outcomes", gate.outcomes.document)]

def scoreDocument (attempt : Uuid) : Option Tally → Document
  | some t =>
    .object [("attempt_id", .text attempt.toText), ("scored", .flag true),
      ("succeeded", .ofNat t.succeeded), ("failed", .ofNat t.failed)]
  | none => .object [("attempt_id", .text attempt.toText), ("scored", .flag false)]

/-- The database answers. Without a database nothing does. -/
def ready : Backend → Traced Bool
  | .memory .. => pure false
  | .database db => db.ready

def checkPayment (setup : Setup) (w : World) (externalKey : String) (tenant : Uuid) :
    Traced Response := do
  match ← w.paymentDecline setup externalKey tenant with
  | .ok (some decline) => return .ok (Shape.decline.write decline)
  | .ok none => return .error 404 "no failed authorization to classify"
  | .error failure => do
    Traced.log (.checkFailed externalKey tenant failure)
    return .error 500 failure.message

def checkReadiness (setup : Setup) (w : World) : Traced Response := do
  let ready ← ready w.backend.store
  return ⟨if ready then 200 else 503, .document (.object [("ready", .flag ready),
    ("db", .flag ready), ("decline_tables", .ofNat setup.classifier.table.routes.size)])⟩

def getShare (w : World) (now : Nat) (tenant : Uuid) : Traced (Response × World) := do
  let (answer, w) ← w.cachedShare now tenant
  match answer with
  | .ok share => return (.ok (Shape.tenantShare.write ⟨tenant, Int32.ofNat share⟩), w)
  | .error failure => do
    Traced.log (.shareUnavailable tenant failure)
    return (.error 500 failure.message, w)

def putShare (w : World) (tenant : Uuid) (percent : Int32) : Traced (Response × World) :=
  if percent < 0 ∨ 100 < percent then
    pure (.error 400 "experiment_traffic_pct must be within [0, 100]", w)
  else do
    let (answer, w) ← w.putShare ⟨tenant, percent⟩
    match answer with
    | .ok () => do
      Traced.log (.shareUpdated tenant percent)
      return (.ok (.object [("updated", .flag true)]), w)
    | .error failure => do
      Traced.log (.shareNotUpdated tenant failure)
      return (.error 500 failure.message, w)

def answer (setup : Setup) (w : World) (now : Nat) : Call → Traced (Response × World)
  | .declineCodes retryable category =>
    pure (declineCodes setup.classifier.table retryable category, w)
  | .checkPayment externalKey tenant => do
    let response ← checkPayment setup w externalKey tenant
    return (response, w)
  | .statistics => pure (.ok (statistics w.gate), w)
  | .readiness => do
    let response ← checkReadiness setup w
    return (response, w)
  | .liveness => pure (.ok (.object [("alive", .flag true)]), w)
  | .getShare tenant => getShare w now tenant
  | .putShare tenant percent => putShare w tenant percent
  | .decide attempt => do
    let (decision, w) ← w.decide setup now attempt
    return (.ok (Shape.decision.write decision), w)
  | .score attempt outcome => do
    let (tally, w) ← w.score attempt outcome
    return (.ok (scoreDocument attempt tally), w)

def refuse (path : String) (refusal : Refusal) : Traced Response := do
  if let .unauthorized guard := refusal then Traced.log (.keyRejected guard path)
  return .ofRefusal refusal

def respond (setup : Setup) (w : World) (now : Nat) (r : Request) : Traced (Response × World) :=
  match r.call setup with
  | .error refusal => do
    let response ← refuse (String.ofList r.path) refusal
    return (response, w)
  | .ok call => do
    let (response, w) ← answer setup w now call
    return (if r.method == "HEAD" then response.withoutBody else response, w)

end RetryTrial.Http
