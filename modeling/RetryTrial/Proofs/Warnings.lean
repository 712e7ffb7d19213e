import RetryTrial.Log

/-!
# Warnings by their first words

Two kinds of warning are recognised by the words that their lines begin with: that a pending entry
was replaced, and that a retry goes through because something could not be looked up.
-/

namespace RetryTrial.LogEntry

/-- The line is a warning that begins with these words. -/
def warns (words : String) (e : LogEntry) : Bool :=
  decide (e.level = .warn) && words.toList.isPrefixOf e.text.toList

def isReplacement : LogEntry → Bool
  | pendingReplaced _ => true
  | _ => false

/-- A retry goes through because something could not be looked up. -/
def isFailOpen : LogEntry → Bool
  | allowedUnclassified .. | allowedWithoutShare .. => true
  | _ => false

theorem warns_of_level_ne {e : LogEntry} (h : e.level ≠ .warn) (words : String) :
    e.warns words = false := by
  simp only [warns, h, decide_false, Bool.false_and]

theorem toString_self (s : String) : toString s = s := rfl

theorem warns_replaced (e : LogEntry) :
    e.warns "replaced pending control-group entry" = e.isReplacement := by
  by_cases hl : e.level = .warn
  · simp only [warns, hl, decide_true, Bool.true_and]
    unfold text
    cases e <;> simp only [level, reduceCtorEq] at hl <;>
      simp [isReplacement, toString_self, List.isPrefixOf]
  · rw [warns_of_level_ne hl]
    cases e <;> first | rfl | exact absurd rfl hl

theorem warns_allowing (e : LogEntry) : e.warns "allowing retry" = e.isFailOpen := by
  by_cases hl : e.level = .warn
  · simp only [warns, hl, decide_true, Bool.true_and]
    unfold text
    cases e <;> simp only [level, reduceCtorEq] at hl <;>
      simp [isFailOpen, toString_self, List.isPrefixOf]
  · rw [warns_of_level_ne hl]
    cases e <;> first | rfl | exact absurd rfl hl

end RetryTrial.LogEntry
