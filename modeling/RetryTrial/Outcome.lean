/-!
# Outcomes

What became of an attempt that was let through, and a `Tally` of outcomes. Adding an outcome raises
its own count by one and leaves the other one alone.
-/

namespace RetryTrial

inductive Outcome
  | success
  | failure
deriving DecidableEq

namespace Outcome

def all : List Outcome := [success, failure]

def name : Outcome → String
  | success => "SUCCESS"
  | failure => "FAILURE"

def adjective : Outcome → String
  | success => "successful"
  | failure => "failed"

theorem mem_all (o : Outcome) : o ∈ all := by cases o <;> decide

theorem name_injective (a b : Outcome) (h : a.name = b.name) : a = b := by
  cases a <;> cases b <;> simp_all [name]

end Outcome

structure Tally where
  succeeded : Nat
  failed : Nat
deriving DecidableEq

namespace Tally

def zero : Tally := ⟨0, 0⟩

def total (t : Tally) : Nat := t.succeeded + t.failed

def count (t : Tally) : Outcome → Nat
  | .success => t.succeeded
  | .failure => t.failed

/-- The tally with this many outcomes of one kind. -/
def withCount (t : Tally) : Outcome → Nat → Tally
  | .success, n => { t with succeeded := n }
  | .failure, n => { t with failed := n }

def add (t : Tally) : Outcome → Tally
  | .success => { t with succeeded := t.succeeded + 1 }
  | .failure => { t with failed := t.failed + 1 }

@[simp] theorem total_zero : zero.total = 0 := rfl

@[simp] theorem count_zero (o : Outcome) : zero.count o = 0 := by cases o <;> rfl

@[simp] theorem withCount_add (t : Tally) (o : Outcome) :
    (t.add o).withCount o (t.count o + 1) = t.add o := by cases o <;> rfl

@[simp] theorem total_add (t : Tally) (o : Outcome) : (t.add o).total = t.total + 1 := by
  cases o <;> simp only [total, add] <;> omega

end Tally

end RetryTrial
