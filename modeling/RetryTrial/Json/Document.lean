import RetryTrial.Json.Token

/-!
# JSON documents

A `Document` is a JSON value; the members of an object keep their order and may share a name. It
has a list of tokens and a compact text, in which a string escapes quotes, backslashes and control
characters only.
-/

namespace RetryTrial.Json
open Text (hexChar)

inductive Document
  | null
  | flag (value : Bool)
  | integer (value : Int)
  /-- The coefficient times a power of ten, written with that exponent. -/
  | decimal (coefficient : Int) (exponent : Int)
  | text (value : String)
  | array (items : List Document)
  | object (members : List (String × Document))

def decimalDigits (n : Nat) : List Nat := (Nat.toDigits 10 n).map fun c => c.toNat - '0'.toNat

def integerLiteral (i : Int) : Literal := ⟨decide (i < 0), decimalDigits i.natAbs, [], none⟩

def decimalLiteral (coefficient exponent : Int) : Literal :=
  ⟨decide (coefficient < 0), decimalDigits coefficient.natAbs, [],
    some (decide (exponent < 0), decimalDigits exponent.natAbs)⟩

namespace Document

mutual

def tokens : Document → List Token
  | .null => [.null]
  | .flag b => [.flag b]
  | .integer i => [(integerLiteral i).token]
  | .decimal c e => [(decimalLiteral c e).token]
  | .text s => [.text s]
  | .array [] => [.openBracket, .closeBracket]
  | .array (d :: ds) => .openBracket :: (d.tokens ++ itemTokens ds)
  | .object [] => [.openBrace, .closeBrace]
  | .object ((name, d) :: ms) =>
    .openBrace :: .text name :: .colon :: (d.tokens ++ memberTokens ms)

/-- The items after the first one, and the bracket. -/
def itemTokens : List Document → List Token
  | [] => [.closeBracket]
  | d :: ds => .comma :: (d.tokens ++ itemTokens ds)

/-- The members after the first one, and the brace. -/
def memberTokens : List (String × Document) → List Token
  | [] => [.closeBrace]
  | (name, d) :: ms => .comma :: .text name :: .colon :: (d.tokens ++ memberTokens ms)

end

def escapeChar (c : Char) : List Char :=
  if c = '"' then ['\\', '"']
  else if c = '\\' then ['\\', '\\']
  else if c.toNat < 0x20 then ['\\', 'u', '0', '0', hexChar (c.toNat / 16), hexChar c.toNat]
  else [c]

def quote (s : String) : List Char := '"' :: (s.toList.flatMap escapeChar ++ ['"'])

def integerChars (i : Int) : List Char :=
  (if i < 0 then ['-'] else []) ++ Nat.toDigits 10 i.natAbs

mutual

def chars : Document → List Char
  | .null => ['n', 'u', 'l', 'l']
  | .flag true => ['t', 'r', 'u', 'e']
  | .flag false => ['f', 'a', 'l', 's', 'e']
  | .integer i => integerChars i
  | .decimal c e => integerChars c ++ 'e' :: integerChars e
  | .text s => quote s
  | .array [] => ['[', ']']
  | .array (d :: ds) => '[' :: (d.chars ++ itemChars ds)
  | .object [] => ['{', '}']
  | .object ((name, d) :: ms) => '{' :: (quote name ++ ':' :: (d.chars ++ memberChars ms))

def itemChars : List Document → List Char
  | [] => [']']
  | d :: ds => ',' :: (d.chars ++ itemChars ds)

def memberChars : List (String × Document) → List Char
  | [] => ['}']
  | (name, d) :: ms => ',' :: (quote name ++ ':' :: (d.chars ++ memberChars ms))

end

def print (d : Document) : String := String.ofList d.chars

def ofNat (n : Nat) : Document := .integer n

end Document

/-- What is open around a place in a document, innermost first. -/
inductive Nesting
  | array
  | object

/-- What may stand next in a document. -/
inductive Expected
  | value
  | itemOrEnd
  | nameOrEnd
  | name
  | colon
  | commaOrEnd
  | done

def Token.isScalar : Token → Bool
  | .null | .flag _ | .integer _ | .decimal _ | .text _ | .unreadable => true
  | _ => false

def Token.isString : Token → Bool
  | .text _ | .unreadable => true
  | _ => false

namespace Expected

def afterValue (outer : List Nesting) : Expected := if outer.isEmpty then .done else .commaOrEnd

def beginValue (outer : List Nesting) (t : Token) : Option (List Nesting × Expected) :=
  match t with
  | .openBracket => some (.array :: outer, .itemOrEnd)
  | .openBrace => some (.object :: outer, .nameOrEnd)
  | t => if t.isScalar then some (outer, afterValue outer) else none

/-- What is open and expected after one more token, or none if the token may not stand here. -/
def next (nesting : List Nesting) (expected : Expected) (t : Token) :
    Option (List Nesting × Expected) :=
  match expected, nesting, t with
  | .itemOrEnd, .array :: outer, .closeBracket => some (outer, afterValue outer)
  | .itemOrEnd, _, t => beginValue nesting t
  | .value, _, t => beginValue nesting t
  | .nameOrEnd, .object :: outer, .closeBrace => some (outer, afterValue outer)
  | .nameOrEnd, _, t => if t.isString then some (nesting, .colon) else none
  | .name, _, t => if t.isString then some (nesting, .colon) else none
  | .colon, _, .colon => some (nesting, .value)
  | .commaOrEnd, .array :: _, .comma => some (nesting, .value)
  | .commaOrEnd, .object :: _, .comma => some (nesting, .name)
  | .commaOrEnd, .array :: outer, .closeBracket => some (outer, afterValue outer)
  | .commaOrEnd, .object :: outer, .closeBrace => some (outer, afterValue outer)
  | _, _, _ => none

end Expected

/-- The tokens after the value that is being passed over, or none if the document is at fault before
its end. A string need not be a text and a number may be of any size. -/
def skipFrom : List Nesting → Expected → List Token → Option (List Token)
  | _, .done, ts => some ts
  | _, _, [] => none
  | nesting, expected, t :: ts =>
    match expected.next nesting t with
    | some (nesting, expected) => skipFrom nesting expected ts
    | none => none

/-- The tokens after the first value. -/
def skipValue (ts : List Token) : Option (List Token) := skipFrom [] .value ts

end RetryTrial.Json
