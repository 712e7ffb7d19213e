import RetryTrial.Database
import RetryTrial.Proofs.Billing.Join

/-!
# The payments of an account

If every question that is asked is answered, the payments of an account are the join of the answers,
and each transaction of an unknown type is reported once. Transactions are asked for only if there
are payments, and properties only if there are transactions.
-/

namespace RetryTrial.Database

variable {db : Database} {rows : List PaymentRow} {transactions : List TransactionRow}
  {properties : List PropertyRow} {account tenant : Uuid}

/-- All that is asked for is answered, with these rows; what is not asked for has no rows. -/
structure Answers (db : Database) (rows : List PaymentRow) (transactions : List TransactionRow)
    (properties : List PropertyRow) : Prop where
  paymentRows : db.accountPayments = .ok rows
  transactionRows : if rows = [] then transactions = [] else db.transactions = .ok transactions
  propertyRows : if transactions = [] then properties = [] else db.properties = .ok properties

theorem loadProperties_of_ok
    (h : if transactions = [] then properties = [] else db.properties = .ok properties) :
    (db.loadProperties (transactions.map TransactionRow.id)).value =
        .ok (PropertyRow.byTransaction properties) ∧
      (db.loadProperties (transactions.map TransactionRow.id)).entries = [] := by
  unfold loadProperties
  cases transactions with
  | nil =>
      obtain rfl : properties = [] := h
      exact ⟨rfl, rfl⟩
  | cons r rest =>
      have hok : db.properties = .ok properties := h
      simp [hok, Except.mapError, Except.map]

theorem queries_loadProperties (db : Database) (ids : List Uuid) :
    (db.loadProperties ids).queries = if ids = [] then [] else [.properties ids] := by
  unfold loadProperties
  cases ids <;> simp

theorem loadPayments_of_ok
    (ht : if rows = [] then transactions = [] else db.transactions = .ok transactions)
    (hp : if transactions = [] then properties = [] else db.properties = .ok properties) :
    (db.loadPayments rows).value = .ok (PaymentRow.payments rows
        (TransactionRow.byPayment (PropertyRow.byTransaction properties) transactions).value) ∧
      (db.loadPayments rows).entries =
        (TransactionRow.byPayment (PropertyRow.byTransaction properties) transactions).entries := by
  unfold loadPayments
  cases rows with
  | nil =>
      obtain rfl : transactions = [] := ht
      exact ⟨rfl, rfl⟩
  | cons r rest =>
      have hok : db.transactions = .ok transactions := ht
      obtain ⟨hvalue, hentries⟩ := loadProperties_of_ok hp
      simp [hok, Except.mapError, hvalue, hentries]

/-- Each question is about the rows of the answer before, and is left out if there are none. -/
theorem queries_loadPayments (db : Database) (rows : List PaymentRow) :
    (db.loadPayments rows).queries =
      if rows = [] then [] else .transactions (rows.map PaymentRow.id) ::
        match db.transactions with
        | .error _ => []
        | .ok transactions =>
            if transactions = [] then []
            else [.properties (transactions.map TransactionRow.id)] := by
  by_cases hrows : rows = []
  · simp [loadPayments, hrows]
  · cases ht : db.transactions with
    | error text => simp [loadPayments, hrows, ht, Except.mapError]
    | ok transactions =>
        have hqueries := db.queries_loadProperties (transactions.map TransactionRow.id)
        simp only [List.map_eq_nil_iff] at hqueries
        cases hp : (db.loadProperties (transactions.map TransactionRow.id)).value <;>
          simp [loadPayments, hrows, ht, Except.mapError, hp, hqueries,
            TransactionRow.queries_byPayment]

theorem queries_accountPaymentsOf_of_error {text : String} (h : db.accountPayments = .error text)
    (account tenant : Uuid) :
    (db.accountPaymentsOf account tenant).queries = [.accountPayments account tenant] := by
  simp [accountPaymentsOf, h, Except.mapError]

theorem queries_accountPaymentsOf_of_ok (h : db.accountPayments = .ok rows)
    (account tenant : Uuid) :
    (db.accountPaymentsOf account tenant).queries =
      .accountPayments account tenant :: (db.loadPayments rows).queries := by
  simp [accountPaymentsOf, h, Except.mapError]

theorem accountPaymentsOf_of_ok (h : db.accountPayments = .ok rows) (account tenant : Uuid) :
    (db.accountPaymentsOf account tenant).value = (db.loadPayments rows).value ∧
      (db.accountPaymentsOf account tenant).entries = (db.loadPayments rows).entries := by
  simp [accountPaymentsOf, h, Except.mapError]

theorem transactions_mem_queries_iff {ids : List Uuid} :
    .transactions ids ∈ (db.accountPaymentsOf account tenant).queries ↔
      ∃ rows, db.accountPayments = .ok rows ∧ rows ≠ [] ∧ ids = rows.map PaymentRow.id := by
  cases h : db.accountPayments with
  | error text => simp [queries_accountPaymentsOf_of_error h]
  | ok rows =>
      rw [queries_accountPaymentsOf_of_ok h, queries_loadPayments]
      by_cases hrows : rows = []
      · simp [hrows]
      · cases db.transactions with
        | error text => simp [hrows]
        | ok transactions => by_cases htx : transactions = [] <;> simp [hrows, htx]

theorem properties_mem_queries_iff {ids : List Uuid} :
    .properties ids ∈ (db.accountPaymentsOf account tenant).queries ↔
      ∃ rows transactions, db.accountPayments = .ok rows ∧ rows ≠ [] ∧
        db.transactions = .ok transactions ∧ transactions ≠ [] ∧
        ids = transactions.map TransactionRow.id := by
  cases h : db.accountPayments with
  | error text => simp [queries_accountPaymentsOf_of_error h]
  | ok rows =>
      rw [queries_accountPaymentsOf_of_ok h, queries_loadPayments]
      by_cases hrows : rows = []
      · simp [hrows]
      · cases db.transactions with
        | error text => simp [hrows]
        | ok transactions => by_cases htx : transactions = [] <;> simp [hrows, htx]

theorem queries_accountPaymentsOf_of_answers (h : db.Answers rows transactions properties)
    (account tenant : Uuid) :
    (db.accountPaymentsOf account tenant).queries = .accountPayments account tenant ::
      ((if rows = [] then [] else [.transactions (rows.map PaymentRow.id)]) ++
        if transactions = [] then [] else [.properties (transactions.map TransactionRow.id)]) := by
  rw [queries_accountPaymentsOf_of_ok h.paymentRows, queries_loadPayments]
  by_cases hrows : rows = []
  · have htx : transactions = [] := by simpa [hrows] using h.transactionRows
    simp [hrows, htx]
  · have htx : db.transactions = .ok transactions := by simpa [hrows] using h.transactionRows
    simp [htx, hrows]

/-- What the payments of an account are, what is reported about their rows, and what is asked. -/
theorem account_payments_joined (db : Database) (account tenant : Uuid) :
    let answer := db.accountPaymentsOf account tenant
    (∀ rows transactions properties, db.Answers rows transactions properties →
      (rows.map PaymentRow.id).Nodup → (transactions.map TransactionRow.id).Nodup →
        answer.value = .ok (rows.map (PaymentRow.joined transactions properties)) ∧
        answer.entries = (transactions.filter fun r => TransactionType.ofName? r.type = none).map
          (fun r => .transactionSkipped r.id r.type) ∧
        (∀ e ∈ answer.entries, e.level = .warn) ∧
        answer.queries = .accountPayments account tenant ::
          ((if rows = [] then [] else [.transactions (rows.map PaymentRow.id)]) ++
            if transactions = [] then []
            else [.properties (transactions.map TransactionRow.id)]) ∧
        ∀ transaction key value,
          (PropertyRow.collect properties transaction)[key]? = some value ↔
            IsLast (fun r : PropertyRow => r.transaction = transaction ∧ r.key = key) properties
              ⟨transaction, key, value⟩) ∧
    (∀ ids, .transactions ids ∈ answer.queries ↔
      ∃ rows, db.accountPayments = .ok rows ∧ rows ≠ [] ∧ ids = rows.map PaymentRow.id) ∧
    (∀ ids, .properties ids ∈ answer.queries ↔
      ∃ rows transactions, db.accountPayments = .ok rows ∧ rows ≠ [] ∧
        db.transactions = .ok transactions ∧ transactions ≠ [] ∧
        ids = transactions.map TransactionRow.id) := by
  intro answer
  refine ⟨?_, fun _ => transactions_mem_queries_iff, fun _ => properties_mem_queries_iff⟩
  intro rows transactions properties h hrows htransactions
  obtain ⟨hvalue, hentries⟩ := accountPaymentsOf_of_ok h.paymentRows account tenant
  obtain ⟨hvalue', hentries'⟩ := loadPayments_of_ok h.transactionRows h.propertyRows
  have hskipped : answer.entries =
      (transactions.filter fun r => TransactionType.ofName? r.type = none).map
        (fun r => .transactionSkipped r.id r.type) := by
    rw [hentries, hentries', TransactionRow.entries_byPayment]
  refine ⟨?_, hskipped, ?_, queries_accountPaymentsOf_of_answers h account tenant, ?_⟩
  · rw [hvalue, hvalue', PaymentRow.payments_eq_joined hrows htransactions]
  · intro e he
    rw [hskipped] at he
    obtain ⟨r, -, rfl⟩ := List.mem_map.mp he
    rfl
  · intro transaction key value
    exact PropertyRow.getElem?_collect_eq_some_iff

/-- The transactions of two payments come interleaved with one of a third payment and one of an
unknown type; of two values of a key the later one stays. -/
theorem interleaved_rows_joined :
    let rows : List PaymentRow :=
      [⟨⟨1⟩, "first", ⟨9⟩, ⟨8⟩, none, false⟩, ⟨⟨2⟩, "second", ⟨9⟩, ⟨8⟩, some 5, true⟩]
    let transactions : List TransactionRow :=
      [⟨⟨11⟩, ⟨2⟩, "a", "authorize", "SUCCESS", none, none, true, some "62", none⟩,
        ⟨⟨12⟩, ⟨3⟩, "b", "PURCHASE", "SUCCESS", none, none, true, none, none⟩,
        ⟨⟨13⟩, ⟨1⟩, "c", "TRANSFER", "SUCCESS", none, none, true, none, none⟩,
        ⟨⟨14⟩, ⟨1⟩, "d", "Capture", "PENDING", none, none, true, none, some "declined"⟩,
        ⟨⟨15⟩, ⟨2⟩, "e", "VOID", "odd", none, none, false, none, none⟩]
    let properties : List PropertyRow :=
      [⟨⟨14⟩, "key", "old"⟩, ⟨⟨11⟩, "key", "own"⟩, ⟨⟨14⟩, "key", "new"⟩]
    let db : Database :=
      ⟨.ok rows, .ok [], .ok transactions, .ok properties, .ok [], .ok [], .ok [], .ok []⟩
    db.Answers rows transactions properties ∧ (rows.map PaymentRow.id).Nodup ∧
      (transactions.map TransactionRow.id).Nodup ∧
      (db.accountPaymentsOf ⟨9⟩ ⟨7⟩).value.map (List.map fun p => (p.id,
        p.transactions.map fun t => (t.id, t.report.bind fun r => r.properties["key"]?))) =
        .ok [(⟨1⟩, [(⟨14⟩, some "new")]), (⟨2⟩, [(⟨11⟩, some "own"), (⟨15⟩, none)])] := by
  intro rows transactions properties db
  have hanswers : db.Answers rows transactions properties := ⟨rfl, rfl, rfl⟩
  have hrows : (rows.map PaymentRow.id).Nodup := by decide
  have htransactions : (transactions.map TransactionRow.id).Nodup := by decide
  refine ⟨hanswers, hrows, htransactions, ?_⟩
  rw [((account_payments_joined db ⟨9⟩ ⟨7⟩).1 rows transactions properties hanswers hrows
    htransactions).1]
  rfl

end RetryTrial.Database
