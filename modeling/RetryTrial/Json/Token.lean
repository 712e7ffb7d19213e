import RetryTrial.Json.Number
import RetryTrial.Text.Digit
import RetryTrial.Text.Utf8

/-!
# Tokens of a JSON document

`tokens` reads a text one character at a time: a `Stage` says what has been read of the current
token, and `Stage.next` which tokens are complete after one more character. The first character
that no token can have ends the list with `broken`, as does a text that ends inside a token. Thus a
reader of the list meets the faults of a document from left to right. `byteTokens` reads bytes;
where they are not UTF-8 the document is at fault, but within a string only the string is.
-/

namespace RetryTrial.Json
open Text (digit? hexValue?)

inductive Token
  | openBrace | closeBrace | openBracket | closeBracket | colon | comma
  | null
  | flag (value : Bool)
  | integer (value : Int)
  | decimal (value : Decimal)
  | text (value : String)
  /-- A string that is no text: half a surrogate pair stands alone, or bytes are not UTF-8. -/
  | unreadable
  /-- No token: the text is at fault here. -/
  | broken
deriving DecidableEq

def Literal.token (l : Literal) : Token :=
  match l.integer? with
  | some i => .integer i
  | none => .decimal l.decimal

/-- What a string holds at one place. -/
inductive Piece
  | char (c : Char)
  | unit (value : Nat)
  | fault

/-- The character that a high and a low surrogate encode together. -/
def pairChar? (high low : Nat) : Option Char :=
  if 0xD800 ≤ high ∧ high < 0xDC00 ∧ 0xDC00 ≤ low ∧ low < 0xE000 then
    some (Char.ofNat (0x10000 + (high - 0xD800) * 0x400 + (low - 0xDC00)))
  else none

/-- The characters of a string, unless it is at fault or a surrogate stands alone. -/
def joinPieces? : List Piece → Option (List Char)
  | [] => some []
  | .char c :: ps => (joinPieces? ps).map (c :: ·)
  | .fault :: _ => none
  | .unit high :: .unit low :: ps =>
    if 0xD800 ≤ high ∧ high < 0xE000 then
      match pairChar? high low with
      | some c => (joinPieces? ps).map (c :: ·)
      | none => none
    else (joinPieces? (.unit low :: ps)).map (Char.ofNat high :: ·)
  | .unit value :: ps =>
    if 0xD800 ≤ value ∧ value < 0xE000 then none
    else (joinPieces? ps).map (Char.ofNat value :: ·)

def textToken (pieces : List Piece) : Token :=
  match joinPieces? pieces with
  | some cs => .text (String.ofList cs)
  | none => .unreadable

/-- How far a number has been read. -/
inductive Phase
  | minus | zero | whole | point | fraction | exponent | exponentSign | exponentDigits

/-- A token that has been read in part. Strings and digits are kept last first. -/
inductive Stage
  | between
  | word (token : Token) (rest : List Char)
  | string (pieces : List Piece)
  | escape (pieces : List Piece)
  | unicode (pieces : List Piece) (value : Nat) (missing : Nat)
  | number (phase : Phase) (literal : Literal)

def isSpace (c : Char) : Bool := c == ' ' || c == '\t' || c == '\n' || c == '\r'

def escaped? : Char → Option Char
  | '"' => some '"'
  | '\\' => some '\\'
  | '/' => some '/'
  | 'b' => some '\x08'
  | 'f' => some '\x0c'
  | 'n' => some '\n'
  | 'r' => some '\r'
  | 't' => some '\t'
  | _ => none

def Literal.empty (negative : Bool) : Literal := ⟨negative, [], [], none⟩

def Literal.inOrder (l : Literal) : Literal :=
  ⟨l.negative, l.whole.reverse, l.fraction.reverse,
    l.exponent.map fun (negative, digits) => (negative, digits.reverse)⟩

def Phase.complete : Phase → Bool
  | .zero | .whole | .fraction | .exponentDigits => true
  | .minus | .point | .exponent | .exponentSign => false

/-- The first character of a token, or a blank before it. -/
def Stage.start (c : Char) : List Token × Option Stage :=
  match c with
  | '{' => ([.openBrace], some .between)
  | '}' => ([.closeBrace], some .between)
  | '[' => ([.openBracket], some .between)
  | ']' => ([.closeBracket], some .between)
  | ':' => ([.colon], some .between)
  | ',' => ([.comma], some .between)
  | '"' => ([], some (.string []))
  | 'n' => ([], some (.word .null ['u', 'l', 'l']))
  | 't' => ([], some (.word (.flag true) ['r', 'u', 'e']))
  | 'f' => ([], some (.word (.flag false) ['a', 'l', 's', 'e']))
  | '-' => ([], some (.number .minus (.empty true)))
  | '0' => ([], some (.number .zero ⟨false, [0], [], none⟩))
  | c =>
    match digit? c with
    | some d => ([], some (.number .whole ⟨false, [d], [], none⟩))
    | none => ([], if isSpace c then some .between else none)

/-- One more character of a number, or none if it cannot belong to it. -/
def Phase.next? (phase : Phase) (l : Literal) (c : Char) : Option (Phase × Literal) :=
  match phase, digit? c with
  | .minus, some 0 => some (.zero, { l with whole := [0] })
  | .minus, some d => some (.whole, { l with whole := [d] })
  | .whole, some d => some (.whole, { l with whole := d :: l.whole })
  | .point, some d => some (.fraction, { l with fraction := [d] })
  | .fraction, some d => some (.fraction, { l with fraction := d :: l.fraction })
  | .exponent, some d => some (.exponentDigits, { l with exponent := some (false, [d]) })
  | .exponentSign, some d =>
    some (.exponentDigits,
      { l with exponent := l.exponent.map fun (negative, _) => (negative, [d]) })
  | .exponentDigits, some d =>
    some (.exponentDigits,
      { l with exponent := l.exponent.map fun (negative, digits) => (negative, d :: digits) })
  | .zero, none | .whole, none =>
    if c = '.' then some (.point, l) else if c = 'e' ∨ c = 'E' then some (.exponent, l) else none
  | .fraction, none => if c = 'e' ∨ c = 'E' then some (.exponent, l) else none
  | .exponent, none =>
    if c = '+' then some (.exponentSign, { l with exponent := some (false, []) })
    else if c = '-' then some (.exponentSign, { l with exponent := some (true, []) })
    else none
  | _, _ => none

/-- The tokens that a character completes and what has been read after it; nothing if the character
is at fault. -/
def Stage.next (stage : Stage) (c : Char) : List Token × Option Stage :=
  match stage with
  | .between => start c
  | .word token (d :: rest) =>
    if c = d then
      if rest.isEmpty then ([token], some .between) else ([], some (.word token rest))
    else ([], none)
  | .word _ [] => ([], none)
  | .string pieces =>
    if c = '"' then ([textToken pieces.reverse], some .between)
    else if c = '\\' then ([], some (.escape pieces))
    else if c.toNat < 0x20 then ([], none)
    else ([], some (.string (.char c :: pieces)))
  | .escape pieces =>
    if c = 'u' then ([], some (.unicode pieces 0 4))
    else ([], (escaped? c).map fun d => .string (.char d :: pieces))
  | .unicode pieces value missing =>
    match hexValue? c with
    | none => ([], none)
    | some d =>
      if missing ≤ 1 then ([], some (.string (.unit (16 * value + d) :: pieces)))
      else ([], some (.unicode pieces (16 * value + d) (missing - 1)))
  | .number phase literal =>
    match phase.next? literal c with
    | some (phase, literal) => ([], some (.number phase literal))
    | none =>
      if phase.complete && !(phase matches .zero && (digit? c).isSome) then
        let (found, after) := start c
        (literal.inOrder.token :: found, after)
      else ([], none)

/-- What becomes of a stage at a place that is no character: within a string it is kept as a fault
of the string. -/
def Stage.nextFault : Stage → List Token × Option Stage
  | .string pieces => ([], some (.string (.fault :: pieces)))
  | .number phase literal => (if phase.complete then [literal.inOrder.token] else [], none)
  | _ => ([], none)

def Stage.step (stage : Stage) : Option Char → List Token × Option Stage
  | some c => stage.next c
  | none => stage.nextFault

/-- What a text leaves that ends at this stage. -/
def Stage.finish : Stage → List Token
  | .between => []
  | .number phase literal => if phase.complete then [literal.inOrder.token] else [.broken]
  | _ => [.broken]

/-- The tokens of characters from a stage on, with `none` for each place that is no character. -/
def tokensFrom (stage : Stage) : List (Option Char) → List Token
  | [] => stage.finish
  | c :: cs =>
    match stage.step c with
    | (found, some stage) => found ++ tokensFrom stage cs
    | (found, none) => found ++ [.broken]

def charTokens (stage : Stage) (cs : List Char) : List Token := tokensFrom stage (cs.map some)

def tokens (text : String) : List Token := charTokens .between text.toList

def byteTokens (bytes : List UInt8) : List Token := tokensFrom .between (Text.decodeBytes bytes)

@[simp] theorem charTokens_nil (stage : Stage) : charTokens stage [] = stage.finish := rfl

theorem charTokens_cons (stage : Stage) (c : Char) (cs : List Char) :
    charTokens stage (c :: cs) =
      match stage.next c with
      | (found, some stage) => found ++ charTokens stage cs
      | (found, none) => found ++ [.broken] := rfl

end RetryTrial.Json
