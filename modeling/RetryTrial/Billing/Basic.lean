import Std.Data.ExtTreeMap
import RetryTrial.Text.Casing
import RetryTrial.Uuid

/-!
# Billing records

Payments with their transactions, and payment methods. A transaction may carry what its plugin
reported about it; the property `processorResponse` of that report, where it is present, holds the
code to go by. Types and statuses are read from their names without regard to letter case.
-/

namespace RetryTrial

inductive TransactionType
  | authorize
  | purchase
  | capture
  | void
  | refund
  | credit
  | chargeback
deriving DecidableEq

namespace TransactionType

def all : List TransactionType := [authorize, purchase, capture, void, refund, credit, chargeback]

def name : TransactionType → String
  | authorize => "AUTHORIZE"
  | purchase => "PURCHASE"
  | capture => "CAPTURE"
  | void => "VOID"
  | refund => "REFUND"
  | credit => "CREDIT"
  | chargeback => "CHARGEBACK"

theorem mem_all (t : TransactionType) : t ∈ all := by cases t <;> decide

theorem name_injective (a b : TransactionType) (h : a.name = b.name) : a = b := by
  cases a <;> cases b <;> simp_all [name]

def ofName? (name : String) : Option TransactionType :=
  all.find? fun t => t.name == Text.upperWord name

end TransactionType

inductive TransactionStatus
  | success
  | pending
  | paymentFailure
  | pluginFailure
  | unknown
deriving DecidableEq

namespace TransactionStatus

def all : List TransactionStatus := [success, pending, paymentFailure, pluginFailure, unknown]

def name : TransactionStatus → String
  | success => "SUCCESS"
  | pending => "PENDING"
  | paymentFailure => "PAYMENT_FAILURE"
  | pluginFailure => "PLUGIN_FAILURE"
  | unknown => "UNKNOWN"

theorem mem_all (s : TransactionStatus) : s ∈ all := by cases s <;> decide

theorem name_injective (a b : TransactionStatus) (h : a.name = b.name) : a = b := by
  cases a <;> cases b <;> simp_all [name]

/-- The status of that name; any other name counts as unknown. -/
def ofName (name : String) : TransactionStatus :=
  (all.find? fun s => s.name == Text.upperWord name).getD unknown

end TransactionStatus

abbrev Properties := Std.ExtTreeMap String String

/-- What a plugin reported about a transaction. -/
structure PluginReport where
  gatewayCode : Option String
  gatewayError : Option String
  properties : Properties
deriving DecidableEq

namespace PluginReport

def codeProperty : String := "processorResponse"

def code (r : PluginReport) : Option String := r.properties[codeProperty]? <|> r.gatewayCode

def message (r : PluginReport) : Option String := r.gatewayError

end PluginReport

structure Transaction where
  id : Uuid
  externalKey : String
  type : TransactionType
  status : TransactionStatus
  gatewayCode : Option String
  gatewayMessage : Option String
  report : Option PluginReport
deriving DecidableEq

/-- A payment with its transactions, oldest first. -/
structure Payment where
  id : Uuid
  externalKey : String
  account : Uuid
  paymentMethod : Uuid
  authAmount : Option Int64
  authVoided : Bool
  transactions : List Transaction
deriving DecidableEq

structure PaymentMethod where
  id : Uuid
  plugin : String
deriving DecidableEq

end RetryTrial
