import RetryTrial.Uuid

/-!
# Attempts

What the orchestrator tells about a retry before it makes it.
-/

namespace RetryTrial

structure Attempt where
  id : Uuid
  account : Uuid
  paymentMethod : Uuid
  tenant : Uuid
deriving DecidableEq

end RetryTrial
