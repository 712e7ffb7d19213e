/-!
# Groups of the trial

An attempt is drawn into one of two groups. In the treatment group the verdict on its decline is
enforced, in the control group every attempt goes through and its outcome is scored. A `draw` is a
number below 100 and falls into the treatment group if it is below the tenant's share.
-/

namespace RetryTrial

inductive Group
  | treatment
  | control
deriving DecidableEq

namespace Group

def name : Group → String
  | treatment => "TREATMENT"
  | control => "CONTROL"

def label : Group → String
  | treatment => "Treatment"
  | control => "Control"

def ofDraw (draw share : Nat) : Group := if draw < min share 100 then treatment else control

theorem ofDraw_eq_treatment {draw share : Nat} :
    ofDraw draw share = treatment ↔ draw < min share 100 := by
  unfold ofDraw; split <;> simp [*]

theorem ofDraw_eq_control {draw share : Nat} :
    ofDraw draw share = control ↔ min share 100 ≤ draw := by
  rw [← Nat.not_lt, ← ofDraw_eq_treatment]
  cases ofDraw draw share <;> simp

end Group

/-- The values that are drawn, by the number of draws before. -/
abbrev Draws := Nat → Nat

namespace Draws

/-- Always the same value, at most 99. -/
def fixed (draw : Nat) : Draws := fun _ => min draw 99

/-- The given values over and over. -/
def cycle (draws : List Nat) : Draws := fun n => draws.getD (n % draws.length) 0

end Draws

end RetryTrial
