import RetryTrial.Proofs.Billing.Selection
import RetryTrial.Service

/-!
# What the lookups end with

A verdict on an account's last failure by a payment method needs four things: the payments, among
them a failure that its plugin reported on, the record of the payment method, and a classification.
Without a reported failure payment methods are not asked for.
-/

namespace RetryTrial.Lookup

variable {classifier : Classifier} {billing : BillingSource} {account paymentMethod tenant : Uuid}
  {failed : Transaction} {report : PluginReport} {d : Decline} {failure : Failure}

/-- The plugin reported on the account's last failure by the payment method. -/
def Reported (billing : BillingSource) (account paymentMethod tenant : Uuid) (failed : Transaction)
    (report : PluginReport) : Prop :=
  ∃ payments, (billing.accountPayments account tenant).value = .ok payments ∧
    LastFailure payments paymentMethod failed ∧ failed.report = some report

/-- The account's last failure by the payment method is classified as this decline. -/
def Verdict (classifier : Classifier) (billing : BillingSource)
    (account paymentMethod tenant : Uuid) (d : Decline) : Prop :=
  ∃ failed report method, Reported billing account paymentMethod tenant failed report ∧
    (billing.paymentMethod paymentMethod tenant).value = .ok (some method) ∧
    (classifier.classify method.plugin
      (report.properties["processorResponse"]?.or report.gatewayCode) report.gatewayError).value =
        some d

/-- A lookup failed: that of the payments or, with a report to classify, that of the method. -/
def Fails (billing : BillingSource) (account paymentMethod tenant : Uuid) (failure : Failure) :
    Prop :=
  (billing.accountPayments account tenant).value = .error failure ∨
    (∃ failed report, Reported billing account paymentMethod tenant failed report) ∧
      (billing.paymentMethod paymentMethod tenant).value = .error failure

theorem code_eq (report : PluginReport) :
    report.code = report.properties["processorResponse"]?.or report.gatewayCode := by
  unfold PluginReport.code PluginReport.codeProperty
  cases report.properties["processorResponse"]? <;> rfl

theorem Reported.unique {report' : PluginReport} {failed' : Transaction}
    (h : Reported billing account paymentMethod tenant failed report)
    (h' : Reported billing account paymentMethod tenant failed' report') : report = report' := by
  obtain ⟨payments, ha, hl, hr⟩ := h
  obtain ⟨payments', ha', hl', hr'⟩ := h'
  obtain rfl : payments = payments' := Except.ok.inj (ha.symm.trans ha')
  rw [← lastFailedAuthorization?_eq_some_iff] at hl hl'
  obtain rfl : failed = failed' := Option.some.inj (hl.symm.trans hl')
  exact Option.some.inj (hr.symm.trans hr')

theorem lastDecline_of_not_reported
    (h : ∀ failed report, ¬ Reported billing account paymentMethod tenant failed report) :
    lastDecline classifier billing account paymentMethod tenant =
      (billing.accountPayments account tenant) >>= fun answer =>
        pure (answer.map fun _ => none) := by
  unfold lastDecline
  cases ha : (billing.accountPayments account tenant).value with
  | error failure => ext <;> simp [ha, Except.map]
  | ok payments =>
      have hlast : classifyLast classifier billing payments paymentMethod tenant =
          pure (.ok none) := by
        unfold classifyLast
        cases hf : lastFailedAuthorization? payments paymentMethod with
        | none => rfl
        | some failed =>
            have hl := lastFailedAuthorization?_eq_some_iff.mp hf
            cases hr : failed.report with
            | none => simp [classify, hr]
            | some report => exact absurd ⟨payments, ha, hl, hr⟩ (h failed report)
      ext <;> simp [ha, hlast, Except.map]

theorem value_lastDecline_of_reported
    (h : Reported billing account paymentMethod tenant failed report) :
    (lastDecline classifier billing account paymentMethod tenant).value =
      match (billing.paymentMethod paymentMethod tenant).value with
      | .error failure => .error failure
      | .ok none => .ok none
      | .ok (some method) =>
        .ok (classifier.classify method.plugin
          (report.properties["processorResponse"]?.or report.gatewayCode)
          report.gatewayError).value := by
  obtain ⟨payments, ha, hl, hr⟩ := h
  rw [← lastFailedAuthorization?_eq_some_iff] at hl
  have hm : report.gatewayError = report.message := rfl
  rw [← code_eq, hm]
  unfold lastDecline
  rw [Traced.value_bind, ha]
  dsimp only
  rw [classifyLast, hl]
  dsimp only
  rw [classify, hr]
  dsimp only
  rw [Traced.value_bind]
  rcases (billing.paymentMethod paymentMethod tenant).value with failure | _ | method
  · rfl
  · rfl
  · dsimp only
    rw [Traced.value_bind]
    cases (classifier.classify method.plugin report.code report.message).value <;> rfl

theorem value_lastDecline_eq_some_iff :
    (lastDecline classifier billing account paymentMethod tenant).value = .ok (some d) ↔
      Verdict classifier billing account paymentMethod tenant d := by
  by_cases h : ∃ failed report, Reported billing account paymentMethod tenant failed report
  · obtain ⟨failed, report, hr⟩ := h
    rw [value_lastDecline_of_reported hr]
    constructor
    · intro hv
      rcases hm : (billing.paymentMethod paymentMethod tenant).value with failure | _ | method
      · simp [hm] at hv
      · simp [hm] at hv
      · rw [hm] at hv
        exact ⟨failed, report, method, hr, hm, Except.ok.inj hv⟩
    · rintro ⟨failed', report', method, hr', hm, hc⟩
      obtain rfl := Reported.unique hr hr'
      rw [hm]
      exact congrArg Except.ok hc
  · have hn : ∀ failed report, ¬ Reported billing account paymentMethod tenant failed report :=
      fun failed report hr => h ⟨failed, report, hr⟩
    rw [lastDecline_of_not_reported hn]
    constructor
    · intro hv
      cases ha : (billing.accountPayments account tenant).value <;> simp [ha, Except.map] at hv
    · rintro ⟨failed, report, method, hr, -, -⟩
      exact absurd hr (hn failed report)

theorem value_lastDecline_eq_error_iff :
    (lastDecline classifier billing account paymentMethod tenant).value = .error failure ↔
      Fails billing account paymentMethod tenant failure := by
  by_cases h : ∃ failed report, Reported billing account paymentMethod tenant failed report
  · have ha : (billing.accountPayments account tenant).value ≠ .error failure := by
      obtain ⟨failed, report, payments, ha, -⟩ := h
      simp [ha]
    rw [Fails, or_iff_right ha, and_iff_right h]
    obtain ⟨failed, report, hr⟩ := h
    rw [value_lastDecline_of_reported hr]
    rcases (billing.paymentMethod paymentMethod tenant).value with f | _ | method <;> simp
  · have hn : ∀ failed report, ¬ Reported billing account paymentMethod tenant failed report :=
      fun failed report hr => h ⟨failed, report, hr⟩
    rw [lastDecline_of_not_reported hn, Fails]
    cases ha : (billing.accountPayments account tenant).value <;> simp [ha, Except.map, h]

/-- Without a report on the last failure the lookup depends on the payments alone. -/
theorem lastDecline_congr_of_not_reported {billing' : BillingSource}
    (h : ∀ failed report, ¬ Reported billing account paymentMethod tenant failed report)
    (hp : billing'.accountPayments account tenant = billing.accountPayments account tenant) :
    lastDecline classifier billing' account paymentMethod tenant =
      lastDecline classifier billing account paymentMethod tenant := by
  have h' : ∀ failed report, ¬ Reported billing' account paymentMethod tenant failed report := by
    simpa only [Reported, hp] using h
  rw [lastDecline_of_not_reported h, lastDecline_of_not_reported h', hp]

theorem lastDecline_congr {billing' : BillingSource}
    (hp : billing'.accountPayments account tenant = billing.accountPayments account tenant)
    (hm : billing'.paymentMethod paymentMethod tenant =
      billing.paymentMethod paymentMethod tenant) :
    lastDecline classifier billing' account paymentMethod tenant =
      lastDecline classifier billing account paymentMethod tenant := by
  simp only [lastDecline, classifyLast, classify, hp, hm]

end RetryTrial.Lookup
