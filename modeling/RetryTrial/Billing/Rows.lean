import RetryTrial.Billing.Basic
import RetryTrial.Traced

/-!
# Rows of the billing database

The database keeps payments, their transactions and the properties of what a plugin reported in
three tables. The rows of the last two are sorted into maps, and what belongs together is taken out
of them again. A transaction of an unknown type is left out with a warning. Where an identifier
occurs twice, its first row takes all that belongs to it.
-/

namespace RetryTrial

structure PaymentRow where
  id : Uuid
  externalKey : String
  account : Uuid
  paymentMethod : Uuid
  authAmount : Option Int64
  authVoided : Bool
deriving DecidableEq

structure TransactionRow where
  id : Uuid
  payment : Uuid
  externalKey : String
  type : String
  status : String
  gatewayCode : Option String
  gatewayMessage : Option String
  reported : Bool
  reportedCode : Option String
  reportedError : Option String
deriving DecidableEq

structure PropertyRow where
  transaction : Uuid
  key : String
  value : String
deriving DecidableEq

namespace PropertyRow

/-- The properties of each transaction; the last value of a key counts. -/
def byTransaction (rows : List PropertyRow) : Std.ExtTreeMap Uuid Properties :=
  rows.foldl (fun map r =>
    map.insert r.transaction ((map.getD r.transaction ∅).insert r.key r.value)) ∅

end PropertyRow

/-- The properties that no transaction has taken yet, and the transactions so far by payment. -/
structure Sorted where
  properties : Std.ExtTreeMap Uuid Properties
  byPayment : Std.ExtTreeMap Uuid (List Transaction)
deriving DecidableEq

namespace Sorted

def push (s : Sorted) (payment : Uuid) (t : Transaction) : Sorted :=
  { s with byPayment := s.byPayment.insert payment (s.byPayment.getD payment [] ++ [t]) }

end Sorted

namespace TransactionRow

/-- What a plugin reported, with the transaction's properties, and the properties that are left. -/
def takeReport (r : TransactionRow) (properties : Std.ExtTreeMap Uuid Properties) :
    Option PluginReport × Std.ExtTreeMap Uuid Properties :=
  if r.reported then
    (some ⟨r.reportedCode, r.reportedError, properties.getD r.id ∅⟩, properties.erase r.id)
  else (none, properties)

def transaction (r : TransactionRow) (type : TransactionType) (report : Option PluginReport) :
    Transaction where
  id := r.id
  externalKey := r.externalKey
  type := type
  status := .ofName r.status
  gatewayCode := r.gatewayCode
  gatewayMessage := r.gatewayMessage
  report := report

/-- Sorts the transaction of a row under its payment. -/
def sort (s : Sorted) (r : TransactionRow) : Traced Sorted :=
  match TransactionType.ofName? r.type with
  | none => do
    Traced.log (.transactionSkipped r.id r.type)
    return s
  | some type =>
    let (report, properties) := r.takeReport s.properties
    pure ({ s with properties }.push r.payment (r.transaction type report))

/-- The transactions of the rows by payment. -/
def byPayment (properties : Std.ExtTreeMap Uuid Properties) (rows : List TransactionRow) :
    Traced (Std.ExtTreeMap Uuid (List Transaction)) := do
  let sorted ← rows.foldlM sort ⟨properties, ∅⟩
  return sorted.byPayment

end TransactionRow

namespace PaymentRow

def payment (r : PaymentRow) (transactions : List Transaction) : Payment :=
  ⟨r.id, r.externalKey, r.account, r.paymentMethod, r.authAmount, r.authVoided, transactions⟩

/-- The payments of the rows, each of which takes out the transactions that are under it. -/
def payments : List PaymentRow → Std.ExtTreeMap Uuid (List Transaction) → List Payment
  | [], _ => []
  | r :: rows, byPayment =>
    r.payment (byPayment.getD r.id []) :: payments rows (byPayment.erase r.id)

end PaymentRow

end RetryTrial
