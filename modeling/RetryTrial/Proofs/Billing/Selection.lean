import RetryTrial.Billing.LastAuthorization
import RetryTrial.Proofs.LastMember

/-!
# The selected transaction

The failure to classify is the last attempt within the last payment by the payment method, provided
that this payment was neither authorized for an amount nor voided.
-/

namespace RetryTrial

/-- The transaction that says why the last authorization by a payment method failed. -/
def LastFailure (payments : List Payment) (paymentMethod : Uuid) (failed : Transaction) : Prop :=
  ∃ payment, IsLast (fun p : Payment => p.paymentMethod = paymentMethod) payments payment ∧
    (payment.authAmount = none ∨ payment.authAmount = some 0) ∧ payment.authVoided = false ∧
    IsLast (fun t : Transaction => t.type = .authorize ∨ t.status = .paymentFailure)
      payment.transactions failed

theorem Payment.not_authorized_iff (p : Payment) :
    ¬ p.Authorized ↔ (p.authAmount = none ∨ p.authAmount = some 0) ∧ p.authVoided = false := by
  unfold Authorized
  cases p.authAmount <;> simp

theorem lastFailedAuthorization?_eq_some_iff {payments : List Payment} {paymentMethod : Uuid}
    {failed : Transaction} :
    lastFailedAuthorization? payments paymentMethod = some failed ↔
      LastFailure payments paymentMethod failed := by
  rw [lastFailedAuthorization?, Option.bind_eq_some_iff]
  apply exists_congr
  intro p
  rw [lastPayment?, find?_reverse_eq_some_iff]
  apply and_congr_right
  intro _
  rw [Payment.failedAttempt?, Option.ite_none_left_eq_some, Payment.not_authorized_iff, and_assoc,
    Payment.lastAttempt?, find?_reverse_eq_some_iff]
  rfl

end RetryTrial
