import RetryTrial.Text.Digit
import RetryTrial.Text.Utf8

/-!
# Percent encoding

A percent sign and two hexadecimal digits stand for a byte; a percent sign that is not followed by
them stands for itself. In a form a plus sign stands for a blank.
-/

namespace RetryTrial.Text

/-- The byte that two digits spell. -/
def hexByte? (high low : Char) : Option UInt8 :=
  match hexValue? high, hexValue? low with
  | some h, some l => some (UInt8.ofNat (16 * h + l))
  | _, _ => none

/-- The bytes of the characters, where `skip` of them belong to a byte that has been read. -/
def percentBytesFrom : Nat → List Char → List UInt8
  | _, [] => []
  | skip + 1, _ :: cs => percentBytesFrom skip cs
  | 0, c :: cs =>
    match c, cs with
    | '%', high :: low :: _ =>
      match hexByte? high low with
      | some b => b :: percentBytesFrom 2 cs
      | none => String.utf8EncodeChar c ++ percentBytesFrom 0 cs
    | _, _ => String.utf8EncodeChar c ++ percentBytesFrom 0 cs

def percentBytes (cs : List Char) : List UInt8 := percentBytesFrom 0 cs

def percentDecode? (s : String) : Option String := decode? (percentBytes s.toList)

/-- A name or value of a form. -/
def formDecode (cs : List Char) : String :=
  decodeLossy (percentBytes (cs.map fun c => if c = '+' then ' ' else c))

end RetryTrial.Text
