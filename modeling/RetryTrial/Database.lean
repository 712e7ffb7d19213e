import RetryTrial.Billing.Rows
import RetryTrial.Billing.Source
import RetryTrial.Experiment.Store

/-!
# The billing database

A `Database` says what each query is answered with: rows, or an error. Questions that cannot matter
are not asked: transactions only if there are payments, properties only if there are transactions.
Of a query for one row the first row counts. A share is written within its bounds.
-/

namespace RetryTrial

/-- The rows that a query yields, or the text of its error. -/
abbrev Answer (ρ : Type) := Except String (List ρ)

structure Database where
  accountPayments : Answer PaymentRow
  paymentsByKey : Answer PaymentRow
  transactions : Answer TransactionRow
  properties : Answer PropertyRow
  paymentMethod : Answer PaymentMethod
  share : Answer TenantShare
  putShare : Answer Unit
  ping : Answer Unit

namespace Database

def failure (text : String) : Failure := ⟨"error returned from database: " ++ text, [text]⟩

def ask (query : Query) (answer : Answer ρ) : Traced (Except Failure (List ρ)) := do
  Traced.ask query
  return answer.mapError failure

@[simp] theorem value_ask (query : Query) (answer : Answer ρ) :
    (ask query answer).value = answer.mapError failure := rfl

@[simp] theorem entries_ask (query : Query) (answer : Answer ρ) :
    (ask query answer).entries = [] := rfl

@[simp] theorem queries_ask (query : Query) (answer : Answer ρ) :
    (ask query answer).queries = [query] := rfl

/-- The properties of the transactions, if there are any to ask for. -/
def loadProperties (db : Database) (transactions : List Uuid) :
    Traced (Except Failure (Std.ExtTreeMap Uuid Properties)) :=
  if transactions.isEmpty then pure (.ok ∅)
  else do
    let rows ← ask (.properties transactions) db.properties
    return rows.map PropertyRow.byTransaction

def loadPayments (db : Database) (rows : List PaymentRow) :
    Traced (Except Failure (List Payment)) :=
  if rows.isEmpty then pure (.ok [])
  else do
    match ← ask (.transactions (rows.map PaymentRow.id)) db.transactions with
    | .error failure => return .error failure
    | .ok transactionRows =>
      match ← db.loadProperties (transactionRows.map TransactionRow.id) with
      | .error failure => return .error failure
      | .ok properties =>
        let byPayment ← TransactionRow.byPayment properties transactionRows
        return .ok (PaymentRow.payments rows byPayment)

def accountPaymentsOf (db : Database) (account tenant : Uuid) :
    Traced (Except Failure (List Payment)) := do
  match ← ask (.accountPayments account tenant) db.accountPayments with
  | .error failure => return .error failure
  | .ok rows => db.loadPayments rows

def paymentOfKey (db : Database) (key : String) (tenant : Uuid) :
    Traced (Except Failure (Option Payment)) := do
  match ← ask (.paymentsByKey key tenant) db.paymentsByKey with
  | .error failure => return .error failure
  | .ok rows =>
    let payments ← db.loadPayments rows
    return payments.map List.head?

def paymentMethodOf (db : Database) (paymentMethod tenant : Uuid) :
    Traced (Except Failure (Option PaymentMethod)) := do
  let rows ← ask (.paymentMethod paymentMethod tenant) db.paymentMethod
  return rows.map List.head?

def source (db : Database) : BillingSource where
  accountPayments := db.accountPaymentsOf
  paymentByKey := db.paymentOfKey
  paymentMethod := db.paymentMethodOf

def bounded (percent : Int32) : Int32 := max 0 (min percent 100)

instance : ShareStore Database where
  read db tenant := do
    let rows ← ask (.share tenant) db.share
    return (rows.map List.head?, db)
  write db row := do
    let answer ← ask (.putShare row.tenant (bounded row.percent)) db.putShare
    return (answer.map fun _ => (), db)

def ready (db : Database) : Traced Bool := do
  let answer ← ask .ping db.ping
  return answer.isOk

end Database

end RetryTrial
