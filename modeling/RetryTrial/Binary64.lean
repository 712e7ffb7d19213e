/-!
# Rounding to double precision

A nonnegative rational is rounded to the nearest one with a significand of 53 bits, a tie going to
the even significand. `floorPercent` takes a share as a percentage the way double precision does:
the quotient is rounded, then its hundredfold is rounded, and only then the fraction is cut off. So
it can fall one short of the exact floor, as it does for 29 of 50.
-/

namespace RetryTrial

structure Ratio where
  num : Nat
  den : Nat

namespace Ratio

/-- The whole number nearest to a quotient, of two the even one. -/
def roundHalfEven (num den : Nat) : Nat :=
  let quotient := num / den
  let remainder := num % den
  if den < 2 * remainder ∨ (2 * remainder = den ∧ quotient % 2 = 1) then quotient + 1 else quotient

/-- The power of two that a positive ratio has to be multiplied by for 53 bits before the point. -/
def scale (r : Ratio) : Int :=
  let guess : Int := 53 + Nat.log2 r.den - Nat.log2 r.num
  if r.num <<< guess.toNat < r.den <<< (-guess).toNat <<< 53 then guess else guess - 1

/-- The nearest ratio whose significand has 53 bits. -/
def nearest (r : Ratio) : Ratio :=
  if r.num = 0 ∨ r.den = 0 then ⟨0, 1⟩
  else
    let up := r.scale.toNat
    let down := (-r.scale).toNat
    ⟨roundHalfEven (r.num <<< up) (r.den <<< down) <<< down, 1 <<< up⟩

def mul (r s : Ratio) : Ratio := ⟨r.num * s.num, r.den * s.den⟩

def div (r s : Ratio) : Ratio := ⟨r.num * s.den, r.den * s.num⟩

def ofNat (n : Nat) : Ratio := ⟨n, 1⟩

def floor (r : Ratio) : Nat := r.num / r.den

/-- Nothing of this size has a finite value in double precision. -/
def Overflows (r : Ratio) : Prop := r.den <<< 1024 ≤ r.num

instance (r : Ratio) : Decidable r.Overflows := inferInstanceAs (Decidable (_ ≤ _))

end Ratio

open Ratio in
/-- The share of `part` in `total` in whole percent, as double precision has it. -/
def floorPercent (part total : Nat) : Nat :=
  if total = 0 then 0
  else
    let share := nearest (div (nearest (ofNat part)) (nearest (ofNat total)))
    (nearest (mul share (ofNat 100))).floor

end RetryTrial
