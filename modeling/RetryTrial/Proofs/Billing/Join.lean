import Mathlib.Data.List.Basic
import RetryTrial.Billing.Rows
import RetryTrial.Proofs.LastMember

/-!
# Payments from their rows

The payments of an account are the join of three tables. Identifiers of payments and transactions
are keys, so taking a transaction's properties or a payment's transactions out of their map leaves
everything that belongs to the others.
-/

namespace RetryTrial

namespace PropertyRow

/-- The properties of one transaction; the last value of a key counts. -/
def collect (rows : List PropertyRow) (transaction : Uuid) : Properties :=
  (rows.filter (·.transaction = transaction)).foldl (fun map r => map.insert r.key r.value) ∅

theorem getElem?_collect_eq_some_iff {rows : List PropertyRow} {transaction : Uuid}
    {key value : String} : (collect rows transaction)[key]? = some value ↔
      IsLast (fun r : PropertyRow => r.transaction = transaction ∧ r.key = key) rows
        ⟨transaction, key, value⟩ := by
  have hfind : (rows.filter (·.transaction = transaction)).reverse.find? (fun r => r.key = key) =
      rows.reverse.find? fun r => decide (r.transaction = transaction ∧ r.key = key) := by
    rw [← List.filter_reverse, List.find?_filter]
    simp
  rw [collect, getElem?_foldl_insert, hfind, Std.ExtTreeMap.getElem?_empty, Option.or_none,
    Option.map_eq_some_iff]
  simp only [find?_reverse_eq_some_iff]
  constructor
  · rintro ⟨r, hr, rfl⟩
    obtain ⟨rfl, rfl⟩ := hr.holds
    exact hr
  · intro h
    exact ⟨_, h, rfl⟩

theorem getD_foldl_insert (rows : List PropertyRow) (map : Std.ExtTreeMap Uuid Properties)
    (transaction : Uuid) :
    (rows.foldl (fun map r =>
      map.insert r.transaction ((map.getD r.transaction ∅).insert r.key r.value)) map).getD
        transaction ∅ =
      (rows.filter (·.transaction = transaction)).foldl (fun map r => map.insert r.key r.value)
        (map.getD transaction ∅) := by
  induction rows generalizing map with
  | nil => rfl
  | cons r rows ih =>
      rw [List.foldl_cons, ih, Std.ExtTreeMap.getD_insert]
      by_cases hr : r.transaction = transaction
      · subst hr
        simp
      · simp [hr]

theorem getD_byTransaction (rows : List PropertyRow) (transaction : Uuid) :
    (byTransaction rows).getD transaction ∅ = collect rows transaction := by
  rw [byTransaction, getD_foldl_insert, Std.ExtTreeMap.getD_empty, collect]

end PropertyRow

namespace TransactionRow

/-- The transaction that a row stands for, if its type is known. -/
def read? (properties : List PropertyRow) (r : TransactionRow) : Option Transaction :=
  (TransactionType.ofName? r.type).map fun type =>
    { id := r.id
      externalKey := r.externalKey
      type := type
      status := .ofName r.status
      gatewayCode := r.gatewayCode
      gatewayMessage := r.gatewayMessage
      report :=
        if r.reported then
          some ⟨r.reportedCode, r.reportedError, PropertyRow.collect properties r.id⟩
        else none }

variable {properties map : Std.ExtTreeMap Uuid Properties} {rows done : List TransactionRow}
  {r : TransactionRow} {s : Sorted} {transaction : Uuid}

theorem takeReport_congr (h : map.getD r.id ∅ = properties.getD r.id ∅) :
    (r.takeReport map).1 = (r.takeReport properties).1 := by
  unfold takeReport
  split
  · rw [h]
  · rfl

theorem getD_takeReport_of_ne (h : r.id ≠ transaction) :
    (r.takeReport map).2.getD transaction ∅ = map.getD transaction ∅ := by
  unfold takeReport
  split
  · simp [Std.ExtTreeMap.getD_erase, h]
  · rfl

/-- The transaction of a row of a known type, with the properties under its own identifier. -/
def taken? (properties : Std.ExtTreeMap Uuid Properties) (r : TransactionRow) :
    Option Transaction :=
  (TransactionType.ofName? r.type).map fun type => r.transaction type (r.takeReport properties).1

/-- The rows that are done are sorted by payment in their order, and the properties of every other
transaction are still to be taken. -/
structure Sorts (properties : Std.ExtTreeMap Uuid Properties) (done : List TransactionRow)
    (s : Sorted) : Prop where
  byPayment : ∀ payment, s.byPayment.getD payment [] =
    (done.filter (·.payment = payment)).filterMap (taken? properties)
  left : ∀ transaction, transaction ∉ done.map id →
    s.properties.getD transaction ∅ = properties.getD transaction ∅

theorem sorts_nil (properties : Std.ExtTreeMap Uuid Properties) :
    Sorts properties [] ⟨properties, ∅⟩ where
  byPayment _ := Std.ExtTreeMap.getD_empty
  left _ _ := rfl

theorem Sorts.sort (h : Sorts properties done s) (hr : r.id ∉ done.map id) :
    Sorts properties (done ++ [r]) (sort s r).value := by
  cases ht : TransactionType.ofName? r.type with
  | none =>
      have hsort : (TransactionRow.sort s r).value = s := by simp [TransactionRow.sort, ht]
      rw [hsort]
      constructor
      · intro payment
        rw [h.byPayment, List.filter_append, List.filterMap_append]
        by_cases hp : r.payment = payment <;> simp [hp, taken?, ht]
      · intro transaction hn
        exact h.left transaction fun hmem => hn (by simp [hmem])
  | some type =>
      have hreport := takeReport_congr (h.left r.id hr)
      have hsort : (TransactionRow.sort s r).value =
          { s with properties := (r.takeReport s.properties).2 }.push r.payment
            (r.transaction type (r.takeReport properties).1) := by
        simp [TransactionRow.sort, ht, hreport]
      rw [hsort]
      constructor
      · intro payment
        rw [Sorted.push, Std.ExtTreeMap.getD_insert, h.byPayment, h.byPayment, List.filter_append,
          List.filterMap_append]
        by_cases hp : r.payment = payment
        · subst hp
          simp [taken?, ht]
        · simp [hp]
      · intro transaction hn
        have hne : r.id ≠ transaction := fun he => hn (by simp [he])
        rw [Sorted.push, getD_takeReport_of_ne hne]
        exact h.left transaction fun hmem => hn (by simp [hmem])

theorem Sorts.sort_all (h : Sorts properties done s) (hn : ((done ++ rows).map id).Nodup) :
    Sorts properties (done ++ rows) (rows.foldlM TransactionRow.sort s).value := by
  induction rows generalizing done s with
  | nil => simpa using h
  | cons r rows ih =>
      have hassoc : done ++ r :: rows = done ++ [r] ++ rows := by simp
      have hr : r.id ∉ done.map id := by
        rw [List.map_append, List.nodup_append] at hn
        exact fun hmem => hn.2.2 _ hmem _ (by simp) rfl
      rw [hassoc] at hn ⊢
      rw [List.foldlM_cons, Traced.value_bind]
      exact ih (h.sort hr) hn

theorem getD_byPayment (h : (rows.map id).Nodup) (payment : Uuid) :
    (byPayment properties rows).value.getD payment [] =
      (rows.filter (·.payment = payment)).filterMap (taken? properties) :=
  ((sorts_nil properties).sort_all h).byPayment payment

theorem entries_sort_all (rows : List TransactionRow) (s : Sorted) :
    (rows.foldlM sort s).entries =
      (rows.filter fun r => TransactionType.ofName? r.type = none).map fun r =>
        .transactionSkipped r.id r.type := by
  induction rows generalizing s with
  | nil => rfl
  | cons r rows ih =>
      rw [List.foldlM_cons, Traced.entries_bind, ih]
      cases ht : TransactionType.ofName? r.type <;> simp [sort, ht]

theorem entries_byPayment (properties : Std.ExtTreeMap Uuid Properties)
    (rows : List TransactionRow) :
    (byPayment properties rows).entries =
      (rows.filter fun r => TransactionType.ofName? r.type = none).map fun r =>
        .transactionSkipped r.id r.type := by
  simp [byPayment, entries_sort_all]

theorem queries_sort_all (rows : List TransactionRow) (s : Sorted) :
    (rows.foldlM sort s).queries = [] := by
  induction rows generalizing s with
  | nil => rfl
  | cons r rows ih =>
      rw [List.foldlM_cons, Traced.queries_bind, ih]
      cases ht : TransactionType.ofName? r.type <;> simp [sort, ht]

theorem queries_byPayment (properties : Std.ExtTreeMap Uuid Properties)
    (rows : List TransactionRow) : (byPayment properties rows).queries = [] := by
  simp [byPayment, queries_sort_all]

end TransactionRow

namespace PaymentRow

/-- The payment of a row with the transactions that name it, in the order of their rows. -/
def joined (transactions : List TransactionRow) (properties : List PropertyRow) (r : PaymentRow) :
    Payment where
  id := r.id
  externalKey := r.externalKey
  account := r.account
  paymentMethod := r.paymentMethod
  authAmount := r.authAmount
  authVoided := r.authVoided
  transactions :=
    (transactions.filter (·.payment = r.id)).filterMap (TransactionRow.read? properties)

/-- What a payment takes out belongs to no other payment. -/
theorem payments_eq_map {rows : List PaymentRow} (h : (rows.map id).Nodup)
    (byPayment : Std.ExtTreeMap Uuid (List Transaction)) :
    payments rows byPayment = rows.map fun r => r.payment (byPayment.getD r.id []) := by
  induction rows generalizing byPayment with
  | nil => rfl
  | cons r rows ih =>
      rw [List.map_cons, List.nodup_cons] at h
      obtain ⟨hr, hrows⟩ := h
      rw [payments, ih hrows, List.map_cons]
      congr 1
      apply List.map_congr_left
      intro s hs
      have hne : r.id ≠ s.id := fun he => hr (he ▸ List.mem_map_of_mem hs)
      simp [Std.ExtTreeMap.getD_erase, hne]

end PaymentRow

theorem TransactionRow.taken?_byTransaction (properties : List PropertyRow) (r : TransactionRow) :
    r.taken? (PropertyRow.byTransaction properties) = r.read? properties := by
  cases h : r.reported <;> simp [taken?, takeReport, transaction, read?, h,
    PropertyRow.getD_byTransaction]

theorem PaymentRow.payments_eq_joined {rows : List PaymentRow} {transactions : List TransactionRow}
    (hrows : (rows.map id).Nodup) (htransactions : (transactions.map TransactionRow.id).Nodup)
    (properties : List PropertyRow) :
    payments rows (TransactionRow.byPayment (PropertyRow.byTransaction properties)
      transactions).value = rows.map (joined transactions properties) := by
  have htaken : TransactionRow.taken? (PropertyRow.byTransaction properties) =
      TransactionRow.read? properties := funext (TransactionRow.taken?_byTransaction properties)
  rw [payments_eq_map hrows]
  simp only [TransactionRow.getD_byPayment htransactions, htaken]
  rfl

end RetryTrial
