import RetryTrial.Billing.Basic
import RetryTrial.Traced

/-!
# Sources of billing records

A `BillingSource` is whatever answers questions about payments and payment methods. A `Ledger` in
memory does: it answers from its records regardless of the tenant, or not at all while it is down.
-/

namespace RetryTrial

structure BillingSource where
  /-- The payments of an account and a tenant, oldest first. -/
  accountPayments : Uuid → Uuid → Traced (Except Failure (List Payment))
  /-- The payment of that external key and tenant. -/
  paymentByKey : String → Uuid → Traced (Except Failure (Option Payment))
  /-- The payment method of a tenant. -/
  paymentMethod : Uuid → Uuid → Traced (Except Failure (Option PaymentMethod))

structure Ledger where
  payments : List Payment
  paymentMethods : Std.ExtTreeMap Uuid PaymentMethod
  down : Bool
deriving DecidableEq

namespace Ledger

def empty : Ledger := ⟨[], ∅, false⟩

def addPayment (l : Ledger) (p : Payment) : Ledger := { l with payments := l.payments ++ [p] }

def addPaymentMethod (l : Ledger) (id : Uuid) (plugin : String) : Ledger :=
  { l with paymentMethods := l.paymentMethods.insert id ⟨id, plugin⟩ }

def unavailable : Failure := ⟨"billing system unavailable", []⟩

def answer (l : Ledger) (a : α) : Traced (Except Failure α) :=
  pure (if l.down then .error unavailable else .ok a)

/-- Payments from one ledger and payment methods from another. -/
def source (history methods : Ledger) : BillingSource where
  accountPayments account _ := history.answer (history.payments.filter (·.account = account))
  paymentByKey key _ := history.answer (history.payments.find? (·.externalKey = key))
  paymentMethod id _ := methods.answer methods.paymentMethods[id]?

end Ledger

end RetryTrial
