import RetryTrial.Decline.Keywords
import RetryTrial.Decline.Published
import RetryTrial.Text.Blank
import RetryTrial.Text.Numeral

/-!
# Classification of a failed authorization

A `Classifier` turns what a plugin reported into a `Decline`. A code that is listed decides. Without
one, the keywords in the message lead to a guess that names the plugin's processor. A plugin that is
not routed yields nothing. Every detour is logged.
-/

namespace RetryTrial

structure Classifier where
  table : Table
  matcher : Matcher

namespace Classifier

def standard : Classifier := ⟨Published.table, .standard⟩

def guess (c : Classifier) (plugin processor : String) (message : Option String) :
    Traced (Option Decline) :=
  match c.matcher.find? message with
  | some rule =>
    pure (some ⟨processor, Decline.guessedCode, message.getD "", rule.category, rule.retryable⟩)
  | none => do
    Traced.log (.messageUnmatched plugin (message.getD ""))
    return none

/-- The number that a code spells between blanks. -/
def readCode? (code : String) : Option Int32 := Text.int32? (Text.trim code.toList)

def classify (c : Classifier) (plugin : String) (code message : Option String) :
    Traced (Option Decline) :=
  match c.table.processorFor? plugin with
  | none => do
    Traced.log (.pluginUnrouted plugin)
    return none
  | some processor =>
    match code with
    | none => c.guess plugin processor message
    | some code =>
      match readCode? code with
      | none => do
        Traced.log (.codeUnreadable code (message.getD ""))
        c.guess plugin processor message
      | some number =>
        match c.table.lookup? plugin number with
        | some decline => pure (some decline)
        | none => do
          Traced.log (.codeUnlisted plugin number (message.getD ""))
          c.guess plugin processor message

end Classifier

end RetryTrial
