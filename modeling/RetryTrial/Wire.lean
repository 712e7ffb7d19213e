import RetryTrial.Attempt
import RetryTrial.Billing.Basic
import RetryTrial.Decline.Table
import RetryTrial.Experiment.Store
import RetryTrial.Gate.Basic
import RetryTrial.Json.Shape

/-!
# The records on the wire

The shape of every record that is exchanged as a JSON document, with the names of its fields.
-/

namespace RetryTrial
open Json

def Category.choice : Choice Category := ⟨all, name, mem_all, name_injective⟩

def Outcome.choice : Choice Outcome := ⟨all, name, mem_all, name_injective⟩

def TransactionType.choice : Choice TransactionType := ⟨all, name, mem_all, name_injective⟩

def TransactionStatus.choice : Choice TransactionStatus := ⟨all, name, mem_all, name_injective⟩

namespace Json.Shape

def category : Shape Category := .choice Category.choice

def outcome : Shape Outcome := .choice Outcome.choice

def transactionType : Shape TransactionType := .choice TransactionType.choice

def transactionStatus : Shape TransactionStatus := .choice TransactionStatus.choice

def decline : Shape Decline :=
  .record
    (.cons "processor" .text <| .cons "code" .int32 <| .cons "message" .text <|
      .cons "category" category <| .cons "retryable" .flag .nil)
    (fun (processor, code, message, category, retryable, ()) =>
      ⟨processor, code, message, category, retryable⟩)
    (fun d => (d.processor, d.code, d.message, d.category, d.retryable, ()))
    (fun _ => rfl)

def pluginReport : Shape PluginReport :=
  .record
    (.cons "gateway_error_code" (.option .text) <| .cons "gateway_error" (.option .text) <|
      .cons "properties" .textMap .nil)
    (fun (gatewayCode, gatewayError, properties, ()) => ⟨gatewayCode, gatewayError, properties⟩)
    (fun r => (r.gatewayCode, r.gatewayError, r.properties, ()))
    (fun _ => rfl)

def transaction : Shape Transaction :=
  .record
    (.cons "transaction_id" .uuid <| .cons "external_key" .text <|
      .cons "transaction_type" transactionType <| .cons "status" transactionStatus <|
      .cons "gateway_error_code" (.option .text) <| .cons "gateway_error_msg" (.option .text) <|
      .cons "plugin_info" (.option pluginReport) .nil)
    (fun (id, externalKey, type, status, gatewayCode, gatewayMessage, report, ()) =>
      ⟨id, externalKey, type, status, gatewayCode, gatewayMessage, report⟩)
    (fun t => (t.id, t.externalKey, t.type, t.status, t.gatewayCode, t.gatewayMessage, t.report,
      ()))
    (fun _ => rfl)

def payment : Shape Payment :=
  .record
    (.cons "payment_id" .uuid <| .cons "external_key" .text <| .cons "account_id" .uuid <|
      .cons "payment_method_id" .uuid <| .cons "auth_amount_minor" (.option .int64) <|
      .cons "is_auth_voided" .flag <| .cons "transactions" (.list transaction) .nil)
    (fun (id, externalKey, account, paymentMethod, authAmount, authVoided, transactions, ()) =>
      ⟨id, externalKey, account, paymentMethod, authAmount, authVoided, transactions⟩)
    (fun p => (p.id, p.externalKey, p.account, p.paymentMethod, p.authAmount, p.authVoided,
      p.transactions, ()))
    (fun _ => rfl)

def paymentMethod : Shape PaymentMethod :=
  .record (.cons "payment_method_id" .uuid <| .cons "plugin_name" .text .nil)
    (fun (id, plugin, ()) => ⟨id, plugin⟩) (fun m => (m.id, m.plugin, ())) (fun _ => rfl)

def attempt : Shape Attempt :=
  .record
    (.cons "attempt_id" .uuid <| .cons "account_id" .uuid <| .cons "payment_method_id" .uuid <|
      .cons "tenant_id" .uuid .nil)
    (fun (id, account, paymentMethod, tenant, ()) => ⟨id, account, paymentMethod, tenant⟩)
    (fun a => (a.id, a.account, a.paymentMethod, a.tenant, ()))
    (fun _ => rfl)

def decision : Shape Decision :=
  .record (.cons "abort" .flag .nil) (fun (abort, ()) => ⟨abort⟩) (fun d => (d.abort, ()))
    (fun _ => rfl)

def tenantShare : Shape TenantShare :=
  .record (.cons "tenant_id" .uuid <| .cons "experiment_traffic_pct" .int32 .nil)
    (fun (tenant, percent, ()) => ⟨tenant, percent⟩) (fun s => (s.tenant, s.percent, ()))
    (fun _ => rfl)

def outcomeReport : Shape Outcome :=
  .record (.cons "outcome" outcome .nil) (fun (o, ()) => o) (fun o => (o, ())) (fun _ => rfl)

def shareUpdate : Shape Int32 :=
  .record (.cons "experiment_traffic_pct" .int32 .nil) (fun (percent, ()) => percent)
    (fun percent => (percent, ())) (fun _ => rfl)

end Json.Shape

open Json (Document)

def Tally.document (t : Tally) : Document :=
  .object [("succeeded", .ofNat t.succeeded), ("failed", .ofNat t.failed)]

def CodeTable.document (codes : CodeTable) : Document :=
  .object (codes.toList.map fun (code, d) => (code.toInt.repr, Shape.decline.write d))

def Outcomes.document (o : Outcomes) : Document :=
  .object (o.snapshot.map fun (processor, codes) =>
    (processor, .object (codes.map fun (code, t) => (code.toInt.repr, t.document))))

end RetryTrial
