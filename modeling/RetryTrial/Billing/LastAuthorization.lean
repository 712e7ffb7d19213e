import RetryTrial.Billing.Basic

/-!
# The last failed authorization

Of an account's payments, oldest first, only the last one by the payment method counts. If it holds
an authorized amount, or its authorization was voided, an authorization went through and there is
nothing to classify. Otherwise the last transaction counts that is an authorization or has failed.
-/

namespace RetryTrial

namespace Transaction

/-- The transaction may say why an authorization failed. -/
def IsAttempt (t : Transaction) : Prop :=
  t.type = .authorize ∨ t.status = .paymentFailure

instance (t : Transaction) : Decidable t.IsAttempt := inferInstanceAs (Decidable (_ ∨ _))

end Transaction

namespace Payment

def Authorized (p : Payment) : Prop :=
  p.authAmount.getD 0 ≠ 0 ∨ p.authVoided = true

instance (p : Payment) : Decidable p.Authorized := inferInstanceAs (Decidable (_ ∨ _))

def lastAttempt? (p : Payment) : Option Transaction :=
  p.transactions.reverse.find? fun t => decide t.IsAttempt

/-- The last attempt of the payment, unless one went through. -/
def failedAttempt? (p : Payment) : Option Transaction :=
  if p.Authorized then none else p.lastAttempt?

end Payment

def lastPayment? (payments : List Payment) (paymentMethod : Uuid) : Option Payment :=
  payments.reverse.find? fun p => p.paymentMethod = paymentMethod

def lastFailedAuthorization? (payments : List Payment) (paymentMethod : Uuid) :
    Option Transaction :=
  (lastPayment? payments paymentMethod).bind Payment.failedAttempt?

theorem lastPayment?_singleton (p : Payment) : lastPayment? [p] p.paymentMethod = some p := by
  simp [lastPayment?]

end RetryTrial
