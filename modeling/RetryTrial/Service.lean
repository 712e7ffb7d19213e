import RetryTrial.Attempt
import RetryTrial.Billing.LastAuthorization
import RetryTrial.Database
import RetryTrial.Decline.Classifier
import RetryTrial.Experiment.Cache
import RetryTrial.Gate.Basic

/-!
# The retry service

The service looks up how the last authorization by a payment method failed, classifies it, and lets
the gate decide by the tenant's share. Whatever cannot be looked up lets the retry through, with a
warning and without a trace in the state.

A `Setup` is fixed, a `World` is what steps change. Billing records and stored shares come from a
`Backend`: ledgers and rows in memory, or the database.
-/

namespace RetryTrial

namespace Lookup

/-- The verdict on a failed transaction by a payment method. -/
def classify (classifier : Classifier) (billing : BillingSource) (failed : Transaction)
    (paymentMethod tenant : Uuid) : Traced (Except Failure (Option Decline)) :=
  match failed.report with
  | none => pure (.ok none)
  | some report => do
    match ← billing.paymentMethod paymentMethod tenant with
    | .error failure => return .error failure
    | .ok none => do
      Traced.log (.paymentMethodUnknown paymentMethod)
      return .ok none
    | .ok (some method) => do
      match ← classifier.classify method.plugin report.code report.message with
      | none => return .ok none
      | some decline => do
        Traced.log (.transactionClassified failed.id failed.externalKey
          (failed.gatewayCode.getD "") (failed.gatewayMessage.getD "") decline)
        return .ok (some decline)

def classifyLast (classifier : Classifier) (billing : BillingSource) (payments : List Payment)
    (paymentMethod tenant : Uuid) : Traced (Except Failure (Option Decline)) :=
  match lastFailedAuthorization? payments paymentMethod with
  | none => pure (.ok none)
  | some failed => classify classifier billing failed paymentMethod tenant

def lastDecline (classifier : Classifier) (billing : BillingSource)
    (account paymentMethod tenant : Uuid) : Traced (Except Failure (Option Decline)) := do
  match ← billing.accountPayments account tenant with
  | .error failure => return .error failure
  | .ok payments => classifyLast classifier billing payments paymentMethod tenant

/-- The verdict on the payment of an external key by itself. -/
def paymentDecline (classifier : Classifier) (billing : BillingSource) (key : String)
    (tenant : Uuid) : Traced (Except Failure (Option Decline)) := do
  match ← billing.paymentByKey key tenant with
  | .error failure => return .error failure
  | .ok none => return .ok none
  | .ok (some payment) =>
    classifyLast classifier billing [payment] payment.paymentMethod tenant

end Lookup

inductive Backend
  | memory (history methods : Ledger) (shares : MemoryShares)
  | database (database : Database)

namespace Backend

def billing : Backend → BillingSource
  | memory history methods _ => Ledger.source history methods
  | database db => db.source

instance : ShareStore Backend where
  read
    | memory history methods shares, tenant =>
      let (row, shares) := shares.read tenant
      pure (.ok row, memory history methods shares)
    | database db, tenant => do
      let (answer, db) ← ShareStore.read db tenant
      return (answer, database db)
  write
    | memory history methods shares, row =>
      pure (.ok (), memory history methods (shares.write row))
    | database db, row => do
      let (answer, db) ← ShareStore.write db row
      return (answer, database db)

end Backend

/-- Where the service takes a tenant's share from. -/
inductive ShareOrigin
  | fixed
  | cache
deriving DecidableEq

structure Setup where
  classifier : Classifier
  draws : Draws
  origin : ShareOrigin
  adminKey : String
  internalKey : String

structure World where
  gate : Gate
  /-- The backend, with the line to its stored shares. -/
  backend : Line Backend
  cache : ShareCache
  fixedShares : FixedShares
  /-- Why the service gets no shares, if it gets none. -/
  sharesDown : Option Failure

namespace World

def billing (w : World) : BillingSource := w.backend.store.billing

/-- A tenant's share through the cache. -/
def cachedShare (w : World) (now : Nat) (tenant : Uuid) : Traced (Except Failure Nat × World) := do
  let (answer, cache, backend) ← w.cache.share w.backend now tenant
  return (answer, { w with cache, backend })

def putShare (w : World) (row : TenantShare) : Traced (Except Failure Unit × World) := do
  let (answer, cache, backend) ← w.cache.update w.backend row
  return (answer, { w with cache, backend })

def share (setup : Setup) (w : World) (now : Nat) (tenant : Uuid) :
    Traced (Except Failure Nat × World) :=
  match w.sharesDown with
  | some failure => pure (.error failure, w)
  | none =>
    match setup.origin with
    | .fixed => pure (.ok (w.fixedShares.share tenant), w)
    | .cache => w.cachedShare now tenant

def lastDecline (setup : Setup) (w : World) (account paymentMethod tenant : Uuid) :
    Traced (Except Failure (Option Decline)) :=
  Lookup.lastDecline setup.classifier w.billing account paymentMethod tenant

def paymentDecline (setup : Setup) (w : World) (key : String) (tenant : Uuid) :
    Traced (Except Failure (Option Decline)) :=
  Lookup.paymentDecline setup.classifier w.billing key tenant

def decideClassified (setup : Setup) (w : World) (now : Nat) (attempt : Attempt)
    (decline : Decline) : Traced (Decision × World) := do
  let (answer, w) ← w.share setup now attempt.tenant
  match answer with
  | .error failure => do
    Traced.log (.allowedWithoutShare attempt.id attempt.tenant failure)
    return (.allow, w)
  | .ok share => do
    let (decision, gate) ← w.gate.decide setup.draws attempt.id (some decline) share
    return (decision, { w with gate })

protected def decide (setup : Setup) (w : World) (now : Nat) (attempt : Attempt) :
    Traced (Decision × World) := do
  match ← w.lastDecline setup attempt.account attempt.paymentMethod attempt.tenant with
  | .error failure => do
    Traced.log
      (.allowedUnclassified attempt.id attempt.account attempt.paymentMethod failure)
    return (.allow, w)
  | .ok none => return (.allow, w)
  | .ok (some decline) => w.decideClassified setup now attempt decline

def score (w : World) (attempt : Uuid) (outcome : Outcome) : Traced (Option Tally × World) := do
  let (tally, gate) ← w.gate.score attempt outcome
  return (tally, { w with gate })

end World

end RetryTrial
