import RetryTrial.Proofs.Billing.Selection

/-!
# The last payment alone decides

The last payment by a payment method is the last one of those by it, so payments by other methods
have no part in the selection, and neither have earlier payments. If an authorization of the last
payment went through, no earlier failure takes its place.
-/

namespace RetryTrial

variable {payments others after : List Payment} {payment : Payment} {paymentMethod : Uuid}

theorem lastPayment?_eq_getLast? (payments : List Payment) (paymentMethod : Uuid) :
    lastPayment? payments paymentMethod =
      (payments.filter (·.paymentMethod = paymentMethod)).getLast? := by
  rw [lastPayment?, ← List.head?_filter, List.filter_reverse, List.head?_reverse]

theorem lastPayment?_append_cons (hm : payment.paymentMethod = paymentMethod)
    (hafter : ∀ p ∈ after, p.paymentMethod ≠ paymentMethod) (before : List Payment) :
    lastPayment? (before ++ payment :: after) paymentMethod = some payment :=
  find?_reverse_eq_some_iff.mpr ⟨before, after, rfl, hm, hafter⟩

theorem lastFailedAuthorization?_congr
    (h : lastPayment? others paymentMethod = lastPayment? payments paymentMethod) :
    lastFailedAuthorization? others paymentMethod =
      lastFailedAuthorization? payments paymentMethod := by
  rw [lastFailedAuthorization?, lastFailedAuthorization?, h]

/-- Payments by other methods make no difference. -/
theorem lastFailedAuthorization?_congr_filter
    (h : others.filter (·.paymentMethod = paymentMethod) =
      payments.filter (·.paymentMethod = paymentMethod)) :
    lastFailedAuthorization? others paymentMethod =
      lastFailedAuthorization? payments paymentMethod := by
  apply lastFailedAuthorization?_congr
  rw [lastPayment?_eq_getLast?, lastPayment?_eq_getLast?, h]

theorem lastFailedAuthorization?_append_cons (hm : payment.paymentMethod = paymentMethod)
    (hafter : ∀ p ∈ after, p.paymentMethod ≠ paymentMethod) (before : List Payment) :
    lastFailedAuthorization? (before ++ payment :: after) paymentMethod =
      payment.failedAttempt? := by
  rw [lastFailedAuthorization?, lastPayment?_append_cons hm hafter, Option.bind_some]

theorem Payment.failedAttempt?_of_authorized (h : payment.Authorized) :
    payment.failedAttempt? = none := by
  rw [failedAttempt?, if_pos h]

theorem Payment.authorized_iff (p : Payment) :
    p.Authorized ↔ (∃ amount, p.authAmount = some amount ∧ amount ≠ 0) ∨ p.authVoided = true := by
  unfold Authorized
  cases p.authAmount <;> simp

/-- The failure to classify is the last attempt within the last payment by the method, unless an
authorization of this payment went through. Payments by other methods, wherever they stand, and
payments before the last one by the method do not change it, and after another payment by the method
that went through or was voided there is none. -/
theorem last_payment_alone_decides (payments : List Payment) (paymentMethod : Uuid) :
    (∀ failed, lastFailedAuthorization? payments paymentMethod = some failed ↔
      ∃ before payment after earlier later,
        payments = before ++ payment :: after ∧ payment.paymentMethod = paymentMethod ∧
        (∀ p ∈ after, p.paymentMethod ≠ paymentMethod) ∧
        (payment.authAmount = none ∨ payment.authAmount = some 0) ∧ payment.authVoided = false ∧
        payment.transactions = earlier ++ failed :: later ∧
        (failed.type = .authorize ∨ failed.status = .paymentFailure) ∧
        ∀ t ∈ later, ¬ (t.type = .authorize ∨ t.status = .paymentFailure)) ∧
    (∀ others : List Payment,
      others.filter (·.paymentMethod = paymentMethod) =
        payments.filter (·.paymentMethod = paymentMethod) →
      lastFailedAuthorization? others paymentMethod =
        lastFailedAuthorization? payments paymentMethod) ∧
    (∀ before payment after, payments = before ++ payment :: after →
      payment.paymentMethod = paymentMethod → (∀ p ∈ after, p.paymentMethod ≠ paymentMethod) →
      ∀ before' after' : List Payment, (∀ p ∈ after', p.paymentMethod ≠ paymentMethod) →
        lastFailedAuthorization? (before' ++ payment :: after') paymentMethod =
          lastFailedAuthorization? payments paymentMethod) ∧
    (∀ payment : Payment, payment.paymentMethod = paymentMethod →
      (∃ amount, payment.authAmount = some amount ∧ amount ≠ 0) ∨ payment.authVoided = true →
      lastFailedAuthorization? (payments ++ [payment]) paymentMethod = none) := by
  refine ⟨?_, fun others => lastFailedAuthorization?_congr_filter, ?_, ?_⟩
  · intro failed
    rw [lastFailedAuthorization?_eq_some_iff]
    constructor
    · rintro ⟨payment, ⟨before, after, hsplit, hm, hafter⟩, ha, hv, earlier, later, ht, hf, hlater⟩
      exact ⟨before, payment, after, earlier, later, hsplit, hm, hafter, ha, hv, ht, hf, hlater⟩
    · rintro ⟨before, payment, after, earlier, later, hsplit, hm, hafter, ha, hv, ht, hf, hlater⟩
      exact ⟨payment, ⟨before, after, hsplit, hm, hafter⟩, ha, hv, earlier, later, ht, hf, hlater⟩
  · rintro before payment after rfl hm hafter before' after' hafter'
    have hleft := lastFailedAuthorization?_append_cons hm hafter' before'
    have hright := lastFailedAuthorization?_append_cons hm hafter before
    exact hleft.trans hright.symm
  · intro payment hm hauthorized
    have hnone := Payment.failedAttempt?_of_authorized (payment.authorized_iff.mpr hauthorized)
    rw [lastFailedAuthorization?_append_cons hm (by simp), hnone]

end RetryTrial
