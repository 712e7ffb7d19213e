import Mathlib.Data.List.Nodup
import RetryTrial.Proofs.Service.Lookup

/-!
# The verdict on one payment by itself

A payment that is looked up by its external key is classified by itself. A decision goes by the last
payment of the account and the payment method. So the two verdicts agree on that last payment, down
to what is logged; on an earlier one they may differ.
-/

namespace RetryTrial

def Payment.SameMethod (p q : Payment) : Prop :=
  q.account = p.account ∧ q.paymentMethod = p.paymentMethod

instance (p q : Payment) : Decidable (p.SameMethod q) := inferInstanceAs (Decidable (_ ∧ _))

variable {history methods : Ledger} {payments : List Payment} {p q : Payment} {tenant : Uuid}

theorem lastPayment?_filter_eq_some_iff :
    lastPayment? (payments.filter (·.account = p.account)) p.paymentMethod = some q ↔
      IsLast p.SameMethod payments q := by
  rw [lastPayment?, ← List.filter_reverse, List.find?_filter]
  simp only [decide_eq_true_eq]
  exact find?_reverse_eq_some_iff (P := p.SameMethod)

theorem find?_externalKey (hkeys : (payments.map Payment.externalKey).Nodup) (hp : p ∈ payments) :
    payments.find? (·.externalKey = p.externalKey) = some p := by
  cases h : payments.find? (·.externalKey = p.externalKey) with
  | none =>
      have hn := List.find?_eq_none.mp h p hp
      simp at hn
  | some q =>
      have hq : q ∈ payments := List.mem_of_find?_eq_some h
      have hkey : q.externalKey = p.externalKey := by simpa using List.find?_some h
      rw [List.inj_on_of_nodup_map hkeys hq hp hkey]

namespace Lookup

variable {classifier : Classifier}

/-- The verdict on the last failure depends on the last payment alone. -/
theorem classifyLast_congr {payments' : List Payment} {paymentMethod : Uuid}
    (h : lastPayment? payments paymentMethod = lastPayment? payments' paymentMethod)
    (billing : BillingSource) :
    classifyLast classifier billing payments paymentMethod tenant =
      classifyLast classifier billing payments' paymentMethod tenant := by
  simp only [classifyLast, lastFailedAuthorization?, h]

theorem exists_value_classifyLast {billing : BillingSource} {paymentMethod : Uuid}
    {method : Option PaymentMethod}
    (hm : (billing.paymentMethod paymentMethod tenant).value = .ok method)
    (classifier : Classifier) (payments : List Payment) :
    ∃ verdict, (classifyLast classifier billing payments paymentMethod tenant).value =
      .ok verdict := by
  rw [classifyLast]
  cases lastFailedAuthorization? payments paymentMethod with
  | none => exact ⟨none, rfl⟩
  | some failed =>
      dsimp only
      rw [classify]
      cases failed.report with
      | none => exact ⟨none, rfl⟩
      | some report =>
          dsimp only
          rw [Traced.value_bind, hm]
          cases method with
          | none => exact ⟨none, rfl⟩
          | some method =>
              dsimp only
              rw [Traced.value_bind]
              cases (classifier.classify method.plugin report.code report.message).value with
              | none => exact ⟨none, rfl⟩
              | some d => exact ⟨some d, rfl⟩

theorem paymentDecline_of_mem (hkeys : (history.payments.map Payment.externalKey).Nodup)
    (hp : p ∈ history.payments) :
    paymentDecline classifier (Ledger.source history methods) p.externalKey tenant =
      if history.down then pure (.error Ledger.unavailable)
      else classifyLast classifier (Ledger.source history methods) [p] p.paymentMethod tenant := by
  have hkey : (Ledger.source history methods).paymentByKey p.externalKey tenant =
      history.answer (some p) := by
    rw [← find?_externalKey hkeys hp]
    rfl
  rw [paymentDecline, hkey, Ledger.answer, pure_bind]
  cases history.down <;> rfl

theorem lastDecline_of_isLast (hq : IsLast p.SameMethod history.payments q) :
    lastDecline classifier (Ledger.source history methods) p.account p.paymentMethod tenant =
      if history.down then pure (.error Ledger.unavailable)
      else classifyLast classifier (Ledger.source history methods) [q] q.paymentMethod tenant := by
  have hmethod : q.paymentMethod = p.paymentMethod := hq.holds.2
  have hlast : lastPayment? (history.payments.filter (·.account = p.account)) p.paymentMethod =
      lastPayment? [q] q.paymentMethod := by
    rw [lastPayment?_filter_eq_some_iff.mpr hq, lastPayment?_singleton]
  have hpayments : (Ledger.source history methods).accountPayments p.account tenant =
      history.answer (history.payments.filter (·.account = p.account)) := rfl
  rw [lastDecline, hpayments, Ledger.answer, pure_bind]
  cases history.down with
  | true => rfl
  | false =>
      rw [hmethod] at hlast ⊢
      exact classifyLast_congr hlast _

end Lookup

namespace World

/-- In a memory whose payments have distinct external keys, the verdict that a decision goes by is
the one on the last payment of the account and the payment method by itself; so the two agree on
that payment, down to what is logged. While billing answers, there is such a verdict on every
payment. -/
theorem probe_agrees_on_last_payment (setup : Setup) (w : World) (tenant : Uuid)
    (history methods : Ledger) (shares : MemoryShares)
    (hw : w.backend.store = .memory history methods shares)
    (hkeys : (history.payments.map Payment.externalKey).Nodup) :
    (∀ p ∈ history.payments, IsLast p.SameMethod history.payments p →
      w.paymentDecline setup p.externalKey tenant =
        w.lastDecline setup p.account p.paymentMethod tenant) ∧
    (∀ p ∈ history.payments, ∃ q ∈ history.payments, IsLast p.SameMethod history.payments q ∧
      w.lastDecline setup p.account p.paymentMethod tenant =
        w.paymentDecline setup q.externalKey tenant) ∧
    (history.down = false → methods.down = false → ∀ p ∈ history.payments,
      ∃ verdict, (w.paymentDecline setup p.externalKey tenant).value = .ok verdict) := by
  have hbilling : w.billing = Ledger.source history methods := by
    rw [billing, hw]
    rfl
  have hprobe : ∀ p ∈ history.payments, w.paymentDecline setup p.externalKey tenant =
      if history.down then pure (.error Ledger.unavailable)
      else Lookup.classifyLast setup.classifier (Ledger.source history methods) [p]
        p.paymentMethod tenant := by
    intro p hp
    rw [paymentDecline, hbilling, Lookup.paymentDecline_of_mem hkeys hp]
  have hlast : ∀ p q : Payment, IsLast p.SameMethod history.payments q →
      w.lastDecline setup p.account p.paymentMethod tenant =
        w.paymentDecline setup q.externalKey tenant := by
    intro p q hq
    rw [hprobe q hq.mem, lastDecline, hbilling, Lookup.lastDecline_of_isLast hq]
  refine ⟨fun p _ hl => (hlast p p hl).symm, ?_, ?_⟩
  · intro p hp
    obtain ⟨q, hq⟩ := exists_isLast_iff (P := p.SameMethod) |>.mpr ⟨p, hp, rfl, rfl⟩
    exact ⟨q, hq.mem, hq, hlast p q hq⟩
  · intro hh hm p hp
    have hmethod : ((Ledger.source history methods).paymentMethod p.paymentMethod tenant).value =
        .ok methods.paymentMethods[p.paymentMethod]? := by
      simp [Ledger.source, Ledger.answer, hm]
    rw [hprobe p hp, hh]
    exact Lookup.exists_value_classifyLast hmethod setup.classifier [p]

def oneCode : Classifier where
  table := (Table.build [.processor "Braintree" [⟨2004, "Expired Card", .expiredCard, false⟩],
    .route "blue" "Braintree"]).value
  matcher := ⟨[]⟩

def oneCodeSetup : Setup := ⟨oneCode, .fixed 0, .fixed, "admin", "internal"⟩

def failedPayment : Payment :=
  ⟨⟨1⟩, "failed", ⟨8⟩, ⟨9⟩, none, false,
    [⟨⟨11⟩, "a", .authorize, .paymentFailure, none, none, some ⟨some "2004", none, ∅⟩⟩]⟩

def paidPayment (key : String) (account paymentMethod : Uuid) : Payment :=
  ⟨⟨2⟩, key, account, paymentMethod, some 2500, false,
    [⟨⟨12⟩, "b", .authorize, .success, none, none, none⟩]⟩

def ledgerOf (payments : List Payment) : Ledger := { Ledger.empty with payments }

def worldOf (payments : List Payment) : World where
  gate := .fresh
  backend :=
    ⟨.memory (ledgerOf payments) (Ledger.empty.addPaymentMethod ⟨9⟩ "blue") .empty, none⟩
  cache := .new 0 0
  fixedShares := .new 100
  sharesDown := none

/-- After the failed payment the account has paid by another method, and another account by the
same one: the verdicts agree. -/
theorem failed_payment_probed_last :
    let payments := [paidPayment "before" ⟨8⟩ ⟨9⟩, failedPayment, paidPayment "other" ⟨8⟩ ⟨5⟩,
      paidPayment "foreign" ⟨6⟩ ⟨9⟩]
    (payments.map Payment.externalKey).Nodup ∧
      IsLast failedPayment.SameMethod payments failedPayment ∧
      ((worldOf payments).lastDecline oneCodeSetup ⟨8⟩ ⟨9⟩ ⟨7⟩).value =
        .ok (some ⟨"Braintree", 2004, "Expired Card", .expiredCard, false⟩) := by
  intro payments
  have hkeys : (payments.map Payment.externalKey).Nodup := by decide
  have hlast : IsLast failedPayment.SameMethod payments failedPayment :=
    ⟨[paidPayment "before" ⟨8⟩ ⟨9⟩],
      [paidPayment "other" ⟨8⟩ ⟨5⟩, paidPayment "foreign" ⟨6⟩ ⟨9⟩], rfl, ⟨rfl, rfl⟩, by decide⟩
  have hagree := (probe_agrees_on_last_payment oneCodeSetup (worldOf payments) ⟨7⟩
    (ledgerOf payments) _ _ rfl hkeys).1 failedPayment hlast.mem hlast
  refine ⟨hkeys, hlast, ?_⟩
  change ((worldOf payments).lastDecline oneCodeSetup failedPayment.account
    failedPayment.paymentMethod ⟨7⟩).value = _
  rw [← hagree]
  rfl

/-- After the failed payment the account has paid by the same method: a decision finds nothing to
classify, while the failed payment by itself is declined. -/
theorem failed_payment_probed_earlier :
    let payments := [failedPayment, paidPayment "after" ⟨8⟩ ⟨9⟩]
    (payments.map Payment.externalKey).Nodup ∧
      ((worldOf payments).lastDecline oneCodeSetup ⟨8⟩ ⟨9⟩ ⟨7⟩).value = .ok none ∧
      ((worldOf payments).paymentDecline oneCodeSetup "failed" ⟨7⟩).value =
        .ok (some ⟨"Braintree", 2004, "Expired Card", .expiredCard, false⟩) := by
  exact ⟨by decide, rfl, rfl⟩

end World

end RetryTrial
