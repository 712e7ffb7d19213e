import RetryTrial.Binary64

/-!
# Numbers of a JSON document

A `Literal` holds the digits of a number as they stand in the text. Written without fraction and
exponent, and within the 64-bit range of its sign, it denotes an integer. Any other literal denotes
a `Decimal`, whose significand has 64 bits: further digits are dropped, those before the point being
counted in the exponent. A decimal may be too large for double precision.
-/

namespace RetryTrial.Json

structure Decimal where
  negative : Bool
  significand : UInt64
  exponent : Int
deriving DecidableEq

open Ratio in
/-- Too large for double precision, where significand and power of ten are rounded before their
product is. -/
def Decimal.Overflows (d : Decimal) : Prop :=
  d.significand ≠ 0 ∧ 0 ≤ d.exponent ∧
    (308 < d.exponent ∨
      ((nearest (ofNat d.significand.toNat)).mul
        (nearest (ofNat (Nat.pow 10 d.exponent.toNat)))).nearest.Overflows)

instance (d : Decimal) : Decidable d.Overflows :=
  if h : 308 < d.exponent then
    decidable_of_iff (d.significand ≠ 0 ∧ 0 ≤ d.exponent) (by simp [Decimal.Overflows, h])
  else
    inferInstanceAs (Decidable (_ ∧ _ ∧ (_ ∨ _)))

structure Literal where
  negative : Bool
  whole : List Nat
  fraction : List Nat
  exponent : Option (Bool × List Nat)

/-- A significand under construction: the digits so far, and how many did not fit any more. -/
structure Significand where
  value : UInt64
  dropped : Nat

def Significand.push (s : Significand) (digit : Nat) : Significand :=
  let value := 10 * s.value.toNat + digit
  if s.dropped = 0 ∧ value < UInt64.size then ⟨UInt64.ofNat value, 0⟩ else ⟨s.value, s.dropped + 1⟩

namespace Literal

def number (digits : List Nat) : Nat := digits.foldl (fun value digit => 10 * value + digit) 0

def decimal (l : Literal) : Decimal :=
  let whole := l.whole.foldl Significand.push ⟨0, 0⟩
  let all := l.fraction.foldl Significand.push ⟨whole.value, 0⟩
  let shift : Int := whole.dropped - (l.fraction.length - all.dropped : Nat)
  let power : Int := match l.exponent with
    | none => 0
    | some (negative, digits) => if negative then -number digits else number digits
  ⟨l.negative, all.value, shift + power⟩

/-- The integer that the literal denotes, if it denotes one. -/
def integer? (l : Literal) : Option Int :=
  let value := number l.whole
  if l.fraction ≠ [] ∨ l.exponent.isSome then none
  else if l.negative then
    if 0 < value ∧ value ≤ UInt64.size / 2 then some (-value) else none
  else if value < UInt64.size then some value else none

end Literal

end RetryTrial.Json
