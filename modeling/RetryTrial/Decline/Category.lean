import RetryTrial.Text.Blank
import RetryTrial.Text.Casing

/-!
# Decline categories

A `Category` says what a decline means. The order of `all` counts: where a message fits several
categories, the first one is taken. Each category has a name, words that point to it in a message,
and says whether such a decline is worth another try.
-/

namespace RetryTrial

inductive Category
  | addressMismatch
  | cardNumberMismatch
  | cvvMismatch
  | expirationDateMismatch
  | expiredCard
  | fraud
  | generalDecline
  | insufficientFunds
  | lostOrStolen
deriving DecidableEq

namespace Category
open Text

def all : List Category :=
  [addressMismatch, cardNumberMismatch, cvvMismatch, expirationDateMismatch, expiredCard, fraud,
    generalDecline, insufficientFunds, lostOrStolen]

theorem mem_all (c : Category) : c ∈ all := by cases c <;> decide

def name : Category → String
  | addressMismatch => "ADDRESS_MISMATCH"
  | cardNumberMismatch => "CARD_NUMBER_MISMATCH"
  | cvvMismatch => "CVV_MISMATCH"
  | expirationDateMismatch => "EXPIRATION_DATE_MISMATCH"
  | expiredCard => "EXPIRED_CARD"
  | fraud => "FRAUD"
  | generalDecline => "GENERAL_DECLINE"
  | insufficientFunds => "INSUFFICIENT_FUNDS"
  | lostOrStolen => "LOST_OR_STOLEN"

theorem name_injective (a b : Category) (h : a.name = b.name) : a = b := by
  cases a <;> cases b <;> simp_all [name]

def keywords : Category → List String
  | addressMismatch => ["address"]
  | cardNumberMismatch => ["invalid card number"]
  | cvvMismatch => ["cvc"]
  | expirationDateMismatch => ["expiration date"]
  | expiredCard => ["expired"]
  | fraud => ["fraud"]
  | insufficientFunds => ["not enough balance", "withdrawal amount exceeded"]
  | generalDecline | lostOrStolen => []

def retryable : Category → Bool
  | generalDecline | insufficientFunds => true
  | _ => false

/-- The category of that name, up to the case of ASCII letters and blanks around it. -/
def ofName? (name : String) : Option Category :=
  all.find? fun c => sameIgnoringCase c.name.toList (trim name.toList)

end Category

end RetryTrial
