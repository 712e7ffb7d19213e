import RetryTrial.Proofs.Billing.Join
import RetryTrial.Proofs.Experiment.AtomicStore
import RetryTrial.Proofs.Gate.Step
import RetryTrial.Proofs.Warnings
import RetryTrial.Service

/-!
# Who lets a retry through

Only the service itself warns that it lets a retry through. Billing sources, the classifier, the
shares and the gate never do, whatever they answer.
-/

namespace RetryTrial

namespace Traced

variable {α β : Type}

/-- Nothing in the log says that a retry goes through for want of an answer. -/
def Quiet (t : Traced α) : Prop := ∀ e ∈ t.entries, e.isFailOpen = false

@[simp] theorem quiet_pure (a : α) : (pure a : Traced α).Quiet := by simp [Quiet]

@[simp] theorem quiet_bind {t : Traced α} {f : α → Traced β} :
    (t >>= f).Quiet ↔ t.Quiet ∧ (f t.value).Quiet := by
  simp [Quiet, or_imp, forall_and]

@[simp] theorem quiet_map {f : α → β} {t : Traced α} : (f <$> t).Quiet ↔ t.Quiet := by
  simp [Quiet]

@[simp] theorem quiet_log {e : LogEntry} : (log e).Quiet ↔ e.isFailOpen = false := by simp [Quiet]

theorem quiet_of_entries_eq_nil {t : Traced α} (h : t.entries = []) : t.Quiet := by
  simp [Quiet, h]

theorem Quiet.countP {t : Traced α} (h : t.Quiet) : t.entries.countP LogEntry.isFailOpen = 0 := by
  rw [List.countP_eq_zero]
  intro e he
  simp [h e he]

end Traced

open Traced

/-- The service asks this source of billing records only what it answers quietly. -/
structure BillingSource.Quiet (b : BillingSource) : Prop where
  accountPayments (account tenant : Uuid) : (b.accountPayments account tenant).Quiet
  paymentMethod (paymentMethod tenant : Uuid) : (b.paymentMethod paymentMethod tenant).Quiet

theorem Ledger.quiet_source (history methods : Ledger) : (source history methods).Quiet where
  accountPayments _ _ := quiet_pure _
  paymentMethod _ _ := quiet_pure _

theorem TransactionRow.quiet_byPayment (properties : Std.ExtTreeMap Uuid Properties)
    (rows : List TransactionRow) : (byPayment properties rows).Quiet := by
  intro e he
  rw [entries_byPayment, List.mem_map] at he
  obtain ⟨r, -, rfl⟩ := he
  rfl

namespace Database

theorem quiet_ask (query : Query) (answer : Answer ρ) : (ask query answer).Quiet :=
  quiet_of_entries_eq_nil (entries_ask query answer)

theorem quiet_loadProperties (db : Database) (transactions : List Uuid) :
    (db.loadProperties transactions).Quiet := by
  unfold loadProperties
  split
  · exact quiet_pure _
  · simpa using quiet_ask _ _

theorem quiet_loadPayments (db : Database) (rows : List PaymentRow) :
    (db.loadPayments rows).Quiet := by
  unfold loadPayments
  split
  · exact quiet_pure _
  · rw [quiet_bind]
    refine ⟨quiet_ask _ _, ?_⟩
    split
    · exact quiet_pure _
    · rw [quiet_bind]
      refine ⟨db.quiet_loadProperties _, ?_⟩
      split
      · exact quiet_pure _
      · simpa using TransactionRow.quiet_byPayment _ _

theorem quiet_source (db : Database) : db.source.Quiet where
  accountPayments account tenant := by
    change (db.accountPaymentsOf account tenant).Quiet
    unfold accountPaymentsOf
    rw [quiet_bind]
    refine ⟨quiet_ask _ _, ?_⟩
    split
    · exact quiet_pure _
    · exact db.quiet_loadPayments _
  paymentMethod paymentMethod tenant := by
    change (db.paymentMethodOf paymentMethod tenant).Quiet
    unfold paymentMethodOf
    simpa using quiet_ask _ _

end Database

theorem Backend.quiet_billing (b : Backend) : b.billing.Quiet := by
  cases b with
  | memory history methods shares => exact Ledger.quiet_source history methods
  | database db => exact db.quiet_source

namespace Classifier

theorem quiet_guess (c : Classifier) (plugin processor : String) (message : Option String) :
    (c.guess plugin processor message).Quiet := by
  unfold guess
  split <;> simp [LogEntry.isFailOpen]

theorem quiet_classify (c : Classifier) (plugin : String) (code message : Option String) :
    (c.classify plugin code message).Quiet := by
  unfold classify
  split
  · simp [LogEntry.isFailOpen]
  · split
    · exact c.quiet_guess _ _ _
    · split
      · simpa [LogEntry.isFailOpen] using c.quiet_guess _ _ _
      · split
        · exact quiet_pure _
        · simpa [LogEntry.isFailOpen] using c.quiet_guess _ _ _

end Classifier

namespace Lookup

variable {billing : BillingSource}

theorem quiet_classify (h : billing.Quiet) (classifier : Classifier) (failed : Transaction)
    (paymentMethod tenant : Uuid) :
    (classify classifier billing failed paymentMethod tenant).Quiet := by
  unfold classify
  split
  · exact quiet_pure _
  · rw [quiet_bind]
    refine ⟨h.paymentMethod paymentMethod tenant, ?_⟩
    split
    · exact quiet_pure _
    · simp [LogEntry.isFailOpen]
    · rw [quiet_bind]
      refine ⟨classifier.quiet_classify _ _ _, ?_⟩
      split <;> simp [LogEntry.isFailOpen]

theorem quiet_lastDecline (h : billing.Quiet) (classifier : Classifier)
    (account paymentMethod tenant : Uuid) :
    (lastDecline classifier billing account paymentMethod tenant).Quiet := by
  unfold lastDecline
  rw [quiet_bind]
  refine ⟨h.accountPayments account tenant, ?_⟩
  split
  · exact quiet_pure _
  · unfold classifyLast
    split
    · exact quiet_pure _
    · exact quiet_classify h classifier _ paymentMethod tenant

end Lookup

theorem ShareCache.quiet_share {σ : Type} [ShareStore σ] [AtomicStore σ] (c : ShareCache)
    (store : σ) (now : Nat) (tenant : Uuid) : (c.share store now tenant).Quiet := by
  rcases c.entries_share store now tenant with h | ⟨share, h⟩
  · exact quiet_of_entries_eq_nil h
  · simp [Traced.Quiet, h, LogEntry.isFailOpen]

theorem Gate.quiet_decide (draws : Draws) (g : Gate) (attempt : Uuid) (d : Decline) (share : Nat) :
    (g.decide draws attempt (some d) share).Quiet := by
  cases h : g.nextGroup draws share with
  | treatment =>
      rw [Traced.Quiet, entries_decide_of_treatment h]
      cases d.retryable <;> simp [LogEntry.isFailOpen]
  | control =>
      rw [Traced.Quiet, entries_decide_of_control h]
      cases g.pending.contains attempt <;> simp [LogEntry.isFailOpen]

end RetryTrial
