import RetryTrial.Uuid

/-!
# Queries

What the billing database is asked, with the parameters of each question.
-/

namespace RetryTrial

inductive Query
  | accountPayments (account tenant : Uuid)
  | paymentsByKey (externalKey : String) (tenant : Uuid)
  | transactions (payments : List Uuid)
  | properties (transactions : List Uuid)
  | paymentMethod (paymentMethod tenant : Uuid)
  | share (tenant : Uuid)
  | putShare (tenant : Uuid) (share : Int32)
  | ping
deriving DecidableEq

end RetryTrial
