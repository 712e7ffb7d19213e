import RetryTrial.Text.Digit

/-!
# Decimal numerals

`natural?` and `integer?` read an ASCII decimal numeral and refuse a value outside the given
bounds. A natural may carry a plus sign, an integer either sign; nothing else may stand in the text.
-/

namespace RetryTrial.Text

def digitsFrom? (value : Nat) : List Char → Option Nat
  | [] => some value
  | c :: cs =>
    match digit? c with
    | some d => digitsFrom? (10 * value + d) cs
    | none => none

/-- The value of one or more digits. -/
def digits? : List Char → Option Nat
  | [] => none
  | c :: cs => digitsFrom? 0 (c :: cs)

def natural? (bound : Nat) (s : String) : Option Nat :=
  let unsigned := match s.toList with
    | '+' :: cs => digits? cs
    | cs => digits? cs
  unsigned.filter (· ≤ bound)

def signed? : List Char → Option Int
  | '+' :: cs => (digits? cs).map Int.ofNat
  | '-' :: cs => (digits? cs).map fun n => -Int.ofNat n
  | cs => (digits? cs).map Int.ofNat

/-- The 32-bit integer that the characters spell. -/
def int32? (cs : List Char) : Option Int32 :=
  match signed? cs with
  | some i =>
    if Int32.minValue.toInt ≤ i ∧ i ≤ Int32.maxValue.toInt then some (Int32.ofInt i) else none
  | none => none

end RetryTrial.Text
