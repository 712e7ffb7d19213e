import RetryTrial.Decline.Category

/-!
# Declines

A `Decline` is the verdict on a failed authorization: the processor's code and message, what they
mean, and whether another try makes sense. A verdict that was guessed from the words of a message
has the code `guessedCode`, which no processor publishes.
-/

namespace RetryTrial

structure Decline where
  processor : String
  code : Int32
  message : String
  category : Category
  retryable : Bool
deriving DecidableEq

namespace Decline

def guessedCode : Int32 := 0

def isGuess (d : Decline) : Bool := d.code == guessedCode

theorem isGuess_iff (d : Decline) : d.isGuess = true ↔ d.code = guessedCode := by simp [isGuess]

end Decline

end RetryTrial
