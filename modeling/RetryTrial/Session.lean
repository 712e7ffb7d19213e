import RetryTrial.Http.Response

/-!
# Sessions

A session is a sequence of actions on the service and what surrounds it: billing records come and
go, collaborators fail and recover, attempts are decided and scored, requests are answered. Every
action happens at a time and starts from the world that the one before it left.
-/

namespace RetryTrial

inductive Action
  | addPayment (payment : Payment)
  | addPaymentMethod (paymentMethod : Uuid) (plugin : String)
  | setHistoryDown (down : Bool)
  | setMethodsDown (down : Bool)
  | setFixedShare (tenant : Uuid) (share : Nat)
  | storeShare (row : TenantShare)
  | cutStore (failure : Option Failure)
  | cutShares (failure : Option Failure)
  | setDatabase (database : Database)
  | decide (attempt : Attempt)
  | score (attempt : Uuid) (outcome : Outcome)
  | lastDecline (account paymentMethod tenant : Uuid)
  | checkPayment (externalKey : String) (tenant : Uuid)
  | share (tenant : Uuid)
  | accountPayments (account tenant : Uuid)
  | paymentByKey (externalKey : String) (tenant : Uuid)
  | paymentMethod (paymentMethod tenant : Uuid)
  | isPending (attempt : Uuid)
  | outcomes
  | readStore (tenant : Uuid)
  | writeStore (row : TenantShare)
  | request (request : Http.Request)

inductive Reply
  | done
  | failed (failure : Failure)
  | decision (decision : Decision)
  | tally (tally : Option Tally)
  | decline (decline : Option Decline)
  | share (share : Nat)
  | payments (payments : List Payment)
  | payment (payment : Option Payment)
  | paymentMethod (paymentMethod : Option PaymentMethod)
  | flag (flag : Bool)
  | outcomes (outcomes : Outcomes)
  | row (row : Option TenantShare)
  | response (response : Http.Response)

def Reply.ofExcept (reply : α → Reply) : Except Failure α → Reply
  | .ok a => reply a
  | .error failure => .failed failure

namespace Backend

def mapHistory (f : Ledger → Ledger) : Backend → Backend
  | memory history methods shares => memory (f history) methods shares
  | database db => database db

def mapMethods (f : Ledger → Ledger) : Backend → Backend
  | memory history methods shares => memory history (f methods) shares
  | database db => database db

/-- A row put into memory behind the back of every cache. -/
def storeShare (row : TenantShare) : Backend → Backend
  | memory history methods shares => memory history methods (shares.write row)
  | database db => database db

end Backend

namespace World

def mapBackend (w : World) (f : Backend → Backend) : World :=
  { w with backend := { w.backend with store := f w.backend.store } }

def look (w : World) (reply : α → Reply) (answer : Traced (Except Failure α)) :
    Traced (Reply × World) := do
  let answer ← answer
  return (.ofExcept reply answer, w)

def act (setup : Setup) (w : World) (now : Nat) : Action → Traced (Reply × World)
  | .addPayment payment => pure (.done, w.mapBackend (.mapHistory (·.addPayment payment)))
  | .addPaymentMethod id plugin =>
    pure (.done, w.mapBackend (.mapMethods (·.addPaymentMethod id plugin)))
  | .setHistoryDown down => pure (.done, w.mapBackend (.mapHistory ({ · with down })))
  | .setMethodsDown down => pure (.done, w.mapBackend (.mapMethods ({ · with down })))
  | .setFixedShare tenant share =>
    pure (.done, { w with fixedShares := w.fixedShares.set tenant share })
  | .storeShare row => pure (.done, w.mapBackend (.storeShare row))
  | .cutStore failure => pure (.done, { w with backend := { w.backend with cut := failure } })
  | .cutShares failure => pure (.done, { w with sharesDown := failure })
  | .setDatabase db => pure (.done, w.mapBackend fun _ => .database db)
  | .decide attempt => do
    let (decision, w) ← w.decide setup now attempt
    return (.decision decision, w)
  | .score attempt outcome => do
    let (tally, w) ← w.score attempt outcome
    return (.tally tally, w)
  | .lastDecline account paymentMethod tenant =>
    w.look .decline (w.lastDecline setup account paymentMethod tenant)
  | .checkPayment externalKey tenant =>
    w.look .decline (w.paymentDecline setup externalKey tenant)
  | .share tenant => do
    let (answer, w) ← w.share setup now tenant
    return (.ofExcept .share answer, w)
  | .accountPayments account tenant => w.look .payments (w.billing.accountPayments account tenant)
  | .paymentByKey externalKey tenant => w.look .payment (w.billing.paymentByKey externalKey tenant)
  | .paymentMethod paymentMethod tenant =>
    w.look .paymentMethod (w.billing.paymentMethod paymentMethod tenant)
  | .isPending attempt => pure (.flag (w.gate.pending.contains attempt), w)
  | .outcomes => pure (.outcomes w.gate.outcomes, w)
  | .readStore tenant => do
    let (answer, store) ← ShareStore.read w.backend.store tenant
    return (.ofExcept .row answer, w.mapBackend fun _ => store)
  | .writeStore row => do
    let (answer, store) ← ShareStore.write w.backend.store row
    return (.ofExcept (fun () => .done) answer, w.mapBackend fun _ => store)
  | .request r => do
    let (response, w) ← Http.respond setup w now r
    return (.response response, w)

/-- The replies to timed actions, each with what led to it and the world after it. -/
def run (setup : Setup) (w : World) : List (Nat × Action) → List (Traced (Reply × World))
  | [] => []
  | (now, action) :: rest =>
    let step := w.act setup now action
    step :: run setup step.value.2 rest

end World

end RetryTrial
