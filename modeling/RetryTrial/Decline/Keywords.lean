import RetryTrial.Decline.Category

/-!
# Keywords in a decline's message

A `Matcher` is a list of rules. It looks for the keywords of each rule in the message of a decline,
letter case aside, and the first rule of which one occurs gives the category. A missing or empty
message matches nothing.
-/

namespace RetryTrial
open Text

structure KeywordRule where
  category : Category
  retryable : Bool
  keywords : List String
deriving DecidableEq

namespace KeywordRule

def lowered (r : KeywordRule) : KeywordRule :=
  { r with keywords := r.keywords.map fun k => String.ofList (lower k.toList) }

def ofCategory (c : Category) : KeywordRule := ⟨c, c.retryable, c.keywords⟩

def occursIn (r : KeywordRule) (message : List Char) : Bool :=
  r.keywords.any fun k => Text.occursIn k.toList message

theorem occursIn_iff (r : KeywordRule) (message : List Char) :
    r.occursIn message = true ↔ ∃ k ∈ r.keywords, k.toList <:+: message := by
  simp [occursIn, Text.occursIn_iff]

end KeywordRule

/-- Rules whose keywords are in small letters. -/
structure Matcher where
  rules : List KeywordRule

namespace Matcher

def ofRules (rules : List KeywordRule) : Matcher := ⟨rules.map KeywordRule.lowered⟩

/-- The rules of the categories themselves. -/
def standard : Matcher := ofRules (Category.all.map KeywordRule.ofCategory)

def find? (m : Matcher) (message : Option String) : Option KeywordRule :=
  match message with
  | none => none
  | some message =>
    if message.isEmpty then none
    else m.rules.find? fun r => r.occursIn (lower message.toList)

@[simp] theorem find?_none (m : Matcher) : m.find? none = none := rfl

end Matcher

end RetryTrial
