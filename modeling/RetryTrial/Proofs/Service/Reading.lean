import RetryTrial.Proofs.Billing.Join
import RetryTrial.Proofs.Service.Share

/-!
# What only reads

Looking up billing records, classifying and looking up a share ask the database for nothing to be
written. Reading a tenant's share leaves the stored rows of all tenants as they are, although a
store in memory counts its reads.
-/

namespace RetryTrial

def Query.isWrite : Query → Bool
  | putShare .. => true
  | _ => false

namespace Traced

variable {α β : Type}

def ReadOnly (t : Traced α) : Prop := ∀ q ∈ t.queries, q.isWrite = false

@[simp] theorem readOnly_pure (a : α) : (pure a : Traced α).ReadOnly := by simp [ReadOnly]

@[simp] theorem readOnly_bind {t : Traced α} {f : α → Traced β} :
    (t >>= f).ReadOnly ↔ t.ReadOnly ∧ (f t.value).ReadOnly := by
  simp [ReadOnly, or_imp, forall_and]

@[simp] theorem readOnly_map {f : α → β} {t : Traced α} : (f <$> t).ReadOnly ↔ t.ReadOnly := by
  simp [ReadOnly]

@[simp] theorem readOnly_log (e : LogEntry) : (log e).ReadOnly := by simp [ReadOnly]

@[simp] theorem readOnly_ask {q : Query} : (ask q).ReadOnly ↔ q.isWrite = false := by
  simp [ReadOnly]

end Traced

open Traced

namespace Database

theorem readOnly_ask {query : Query} (h : query.isWrite = false) (answer : Answer ρ) :
    (ask query answer).ReadOnly := by
  simpa [ask] using h

theorem readOnly_loadPayments (db : Database) (rows : List PaymentRow) :
    (db.loadPayments rows).ReadOnly := by
  unfold loadPayments
  split
  · exact readOnly_pure _
  · rw [readOnly_bind]
    refine ⟨readOnly_ask rfl _, ?_⟩
    split
    · exact readOnly_pure _
    · rw [readOnly_bind]
      constructor
      · unfold loadProperties
        split
        · exact readOnly_pure _
        · simpa using readOnly_ask rfl _
      · split
        · exact readOnly_pure _
        · simp [ReadOnly, TransactionRow.queries_byPayment]

theorem readOnly_paymentOfKey (db : Database) (key : String) (tenant : Uuid) :
    (db.paymentOfKey key tenant).ReadOnly := by
  unfold paymentOfKey
  rw [readOnly_bind]
  refine ⟨readOnly_ask rfl _, ?_⟩
  split
  · exact readOnly_pure _
  · simpa using db.readOnly_loadPayments _

theorem readOnly_ready (db : Database) : db.ready.ReadOnly := by
  simpa [ready] using readOnly_ask rfl _

end Database

namespace Backend

theorem readOnly_paymentByKey (b : Backend) (key : String) (tenant : Uuid) :
    (b.billing.paymentByKey key tenant).ReadOnly := by
  cases b with
  | memory history methods shares => exact readOnly_pure _
  | database db => exact db.readOnly_paymentOfKey key tenant

theorem readOnly_paymentMethod (b : Backend) (paymentMethod tenant : Uuid) :
    (b.billing.paymentMethod paymentMethod tenant).ReadOnly := by
  cases b with
  | memory history methods shares => exact readOnly_pure _
  | database db =>
      change (db.paymentMethodOf paymentMethod tenant).ReadOnly
      simpa [Database.paymentMethodOf] using Database.readOnly_ask rfl _

theorem readOnly_read (b : Backend) (tenant : Uuid) : (ShareStore.read b tenant).ReadOnly := by
  cases b with
  | memory history methods shares => exact readOnly_pure _
  | database db =>
      rw [read_database]
      simpa [ShareStore.read] using Database.readOnly_ask rfl _

theorem row_read (b : Backend) (tenant other : Uuid) :
    (ShareStore.read (ShareStore.read b tenant).value.2 other).value.1 =
      (ShareStore.read b other).value.1 := by
  cases b <;> rfl

end Backend

theorem Classifier.readOnly_classify (c : Classifier) (plugin : String)
    (code message : Option String) : (c.classify plugin code message).ReadOnly := by
  have hguess : ∀ processor, (c.guess plugin processor message).ReadOnly := by
    intro processor
    unfold guess
    split <;> simp
  unfold classify
  split
  · simp
  · split
    · exact hguess _
    · split
      · simpa using hguess _
      · split
        · exact readOnly_pure _
        · simpa using hguess _

theorem Lookup.readOnly_classify (classifier : Classifier) {billing : BillingSource}
    (h : ∀ paymentMethod tenant, (billing.paymentMethod paymentMethod tenant).ReadOnly)
    (failed : Transaction) (paymentMethod tenant : Uuid) :
    (classify classifier billing failed paymentMethod tenant).ReadOnly := by
  unfold classify
  split
  · exact readOnly_pure _
  · rw [readOnly_bind]
    refine ⟨h paymentMethod tenant, ?_⟩
    split
    · exact readOnly_pure _
    · simp
    · rw [readOnly_bind]
      refine ⟨classifier.readOnly_classify _ _ _, ?_⟩
      split <;> simp

theorem ShareCache.readOnly_share {σ : Type} [ShareStore σ] (c : ShareCache) {store : σ}
    {tenant : Uuid} (h : (ShareStore.read store tenant).ReadOnly) (now : Nat) :
    (c.share store now tenant).ReadOnly := by
  cases hc : c.fresh? now tenant with
  | some share =>
      rw [share_of_fresh hc]
      exact readOnly_pure _
  | none =>
      cases hs : (ShareStore.read store tenant).value.1 with
      | error failure =>
          rw [share_of_error hc hs]
          simpa using h
      | ok row =>
          rw [share_of_row hc hs]
          simpa using h

namespace World

def storedRow (w : World) (tenant : Uuid) : Except Failure (Option TenantShare) :=
  (ShareStore.read w.backend.store tenant).value.1

theorem readOnly_paymentDecline (setup : Setup) (w : World) (key : String) (tenant : Uuid) :
    (w.paymentDecline setup key tenant).ReadOnly := by
  unfold paymentDecline Lookup.paymentDecline
  rw [readOnly_bind]
  refine ⟨w.backend.store.readOnly_paymentByKey key tenant, ?_⟩
  split
  · exact readOnly_pure _
  · exact readOnly_pure _
  · unfold Lookup.classifyLast
    split
    · exact readOnly_pure _
    · exact Lookup.readOnly_classify _ w.backend.store.readOnly_paymentMethod _ _ tenant

theorem readOnly_cachedShare (w : World) (now : Nat) (tenant : Uuid) :
    (w.cachedShare now tenant).ReadOnly := by
  have hread : (ShareStore.read w.backend tenant).ReadOnly := by
    cases hcut : w.backend.cut with
    | some failure =>
        rw [Line.read_of_cut hcut]
        exact readOnly_pure _
    | none =>
        rw [Line.read_of_open hcut]
        simpa using w.backend.store.readOnly_read tenant
  simpa [cachedShare] using w.cache.readOnly_share hread now

theorem storedRow_cachedShare (w : World) (now : Nat) (tenant other : Uuid) :
    (w.cachedShare now tenant).value.2.storedRow other = w.storedRow other := by
  have hread : (ShareStore.read (ShareStore.read w.backend tenant).value.2.store other).value.1 =
      w.storedRow other := by
    cases hcut : w.backend.cut with
    | some failure =>
        rw [Line.read_of_cut hcut]
        rfl
    | none =>
        rw [Line.read_of_open hcut]
        exact w.backend.store.row_read tenant other
  cases hc : w.cache.fresh? now tenant with
  | some share => simp [cachedShare, ShareCache.share_of_fresh hc, storedRow]
  | none =>
      cases hs : (ShareStore.read w.backend tenant).value.1 with
      | error failure => simpa [cachedShare, ShareCache.share_of_error hc hs, storedRow] using hread
      | ok row => simpa [cachedShare, ShareCache.share_of_row hc hs, storedRow] using hread

@[simp] theorem gate_cachedShare (w : World) (now : Nat) (tenant : Uuid) :
    (w.cachedShare now tenant).value.2.gate = w.gate := rfl

end World

end RetryTrial
