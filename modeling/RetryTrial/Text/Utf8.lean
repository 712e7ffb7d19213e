/-!
# UTF-8

`decodeBytes` reads bytes as UTF-8, one character after the other. Where the bytes fit no
character, the longest start of a character among them counts as one fault. `decode?` refuses
faults, `decodeLossy` puts a replacement character for each.
-/

namespace RetryTrial.Text

/-- A character that has been read in part: its bits so far, how many bytes are missing, and between
which bounds the next one lies. -/
structure Unfinished where
  bits : Nat
  missing : Nat
  low : Nat
  high : Nat

/-- What a byte starts: a character, part of one, or a fault. -/
def leadByte (b : Nat) : List (Option Char) × Option Unfinished :=
  if b < 0x80 then ([some (Char.ofNat b)], none)
  else if 0xC2 ≤ b ∧ b ≤ 0xDF then ([], some ⟨b - 0xC0, 1, 0x80, 0xBF⟩)
  else if b = 0xE0 then ([], some ⟨0, 2, 0xA0, 0xBF⟩)
  else if b = 0xED then ([], some ⟨0xD, 2, 0x80, 0x9F⟩)
  else if 0xE1 ≤ b ∧ b ≤ 0xEF then ([], some ⟨b - 0xE0, 2, 0x80, 0xBF⟩)
  else if b = 0xF0 then ([], some ⟨0, 3, 0x90, 0xBF⟩)
  else if 0xF1 ≤ b ∧ b ≤ 0xF3 then ([], some ⟨b - 0xF0, 3, 0x80, 0xBF⟩)
  else if b = 0xF4 then ([], some ⟨4, 3, 0x80, 0x8F⟩)
  else ([none], none)

def nextByte (state : Option Unfinished) (b : Nat) : List (Option Char) × Option Unfinished :=
  match state with
  | none => leadByte b
  | some p =>
    if p.low ≤ b ∧ b ≤ p.high then
      let bits := 64 * p.bits + (b - 0x80)
      if p.missing ≤ 1 then ([some (Char.ofNat bits)], none)
      else ([], some ⟨bits, p.missing - 1, 0x80, 0xBF⟩)
    else
      let (found, state) := leadByte b
      (none :: found, state)

def decodeFrom (state : Option Unfinished) : List UInt8 → List (Option Char)
  | [] => if state.isSome then [none] else []
  | b :: bs =>
    let (found, state) := nextByte state b.toNat
    found ++ decodeFrom state bs

/-- The characters of the bytes, with `none` for each fault. -/
def decodeBytes (bs : List UInt8) : List (Option Char) := decodeFrom none bs

def decode? (bs : List UInt8) : Option String := ((decodeBytes bs).mapM id).map String.ofList

def decodeLossy (bs : List UInt8) : String :=
  String.ofList ((decodeBytes bs).map fun c => c.getD '\uFFFD')

def encode (s : String) : List UInt8 := s.toList.flatMap String.utf8EncodeChar

end RetryTrial.Text
