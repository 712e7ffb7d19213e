import RetryTrial.Proofs.Json.Edit
import RetryTrial.Proofs.Json.Reading
import RetryTrial.Wire

/-!
# The wire format round-trips

The text that is written for a record of the data model is read back as this record. It still is
after the members of any record in it have been reordered, members with unknown names have been
added and optional members that are null have been removed.
-/

namespace RetryTrial.Json.Shape

/-- The document that is written for a value is read as this value, after any edits. -/
def RoundTrips {α : Type} (shape : Shape α) : Prop :=
  ∀ (a : α) (d : Document), Relation.ReflTransGen (Edit shape) (shape.write a) d →
    shape.readWhole d.print = .ok a

theorem roundTrips_of_sound {α : Type} {shape : Shape α} (hs : shape.Sound) : shape.RoundTrips := by
  intro a d edits
  apply readWhole_of_denotes hs
  exact denotes_of_edits hs edits (shape.denotes_write hs a)

theorem sound_pluginReport : pluginReport.Sound := by
  simp [pluginReport, Sound, Fields.Sound, Fields.field?, absent?]

theorem sound_transaction : transaction.Sound := by
  have htext : text.absent? = none := rfl
  have hreport : pluginReport.absent? = none := rfl
  simp [transaction, Sound, Fields.Sound, Fields.field?, sound_pluginReport, htext, hreport,
    transactionType, transactionStatus]

theorem sound_payment : payment.Sound := by
  simp [payment, Sound, Fields.Sound, Fields.field?, absent?, sound_transaction]

theorem sound_decline : decline.Sound := by
  simp [decline, Sound, Fields.Sound, Fields.field?, category]

theorem records_round_trip :
    payment.RoundTrips ∧ transaction.RoundTrips ∧ pluginReport.RoundTrips ∧
      paymentMethod.RoundTrips ∧ decline.RoundTrips ∧ attempt.RoundTrips ∧ decision.RoundTrips ∧
      tenantShare.RoundTrips := by
  refine ⟨roundTrips_of_sound sound_payment, roundTrips_of_sound sound_transaction,
    roundTrips_of_sound sound_pluginReport, roundTrips_of_sound ?_,
    roundTrips_of_sound sound_decline, roundTrips_of_sound ?_, roundTrips_of_sound ?_,
    roundTrips_of_sound ?_⟩
  · simp [paymentMethod, Sound, Fields.Sound, Fields.field?]
  · simp [attempt, Sound, Fields.Sound, Fields.field?]
  · simp [decision, Sound, Fields.Sound, Fields.field?]
  · simp [tenantShare, Sound, Fields.Sound, Fields.field?]

def refused : Transaction :=
  ⟨default, "order 7", .purchase, .paymentFailure, none, some "refused",
    some ⟨none, some "51", ∅⟩⟩

/-- The document of this transaction with its type at the front and without the missing code. The
report of the plugin has a member that is no field. -/
def refusedDocument : Document :=
  .object [("transaction_type", .text "PURCHASE"),
    ("transaction_id", .text (default : Uuid).toText), ("external_key", .text "order 7"),
    ("status", .text "PAYMENT_FAILURE"),
    ("gateway_error_msg", .text "refused"),
    ("plugin_info", .object [("gateway_error_code", .null), ("retries", .array [.integer 2, .null]),
      ("gateway_error", .text "51"), ("properties", .object [])])]

theorem refused_edits :
    Relation.ReflTransGen (Edit transaction) (transaction.write refused) refusedDocument := by
  refine .head (.member [_, _, _, _, _, _] [] "plugin_info" rfl
    (.option (.add [_] _ "retries" (.array [.integer 2, .null]) rfl))) ?_
  refine .head (.drop [_, _, _, _] _ "gateway_error_code" rfl) ?_
  exact .single (.permute (((List.Perm.swap _ _ _).cons _).trans (.swap _ _ _)))

theorem refused_read_back :
    Relation.ReflTransGen (Edit transaction) (transaction.write refused) refusedDocument ∧
      transaction.readWhole refusedDocument.print = .ok refused :=
  ⟨refused_edits, records_round_trip.2.1 refused refusedDocument refused_edits⟩

end RetryTrial.Json.Shape
