/-!
# Failures

A `Failure` of a collaborator has a message and the messages of what caused it, outermost first.
-/

namespace RetryTrial

structure Failure where
  message : String
  causes : List String
deriving DecidableEq

/-- The whole chain in one line. -/
def Failure.chain (f : Failure) : String := ": ".intercalate (f.message :: f.causes)

/-- The failure with these messages, if there are any. -/
def Failure.ofMessages? : List String → Option Failure
  | [] => none
  | message :: causes => some ⟨message, causes⟩

end RetryTrial
