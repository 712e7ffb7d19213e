import Std.Data.ExtTreeMap
import RetryTrial.Json.Document
import RetryTrial.Uuid

/-!
# Shapes of records

A `Shape α` says which documents stand for the values of `α`, and `read` and `write` go both ways. A
record is an object with the fields' names in any order, or an array of all its fields in order.
Unknown members are passed over, a field may stand once, and an optional field may be missing.

`read` takes the document from left to right and stops at the first fault: the text is `malformed`
there, or well formed but a `misfit` for the shape. It returns the tokens after the value.
-/

namespace RetryTrial.Json

inductive Fault
  | malformed
  | misfit
deriving DecidableEq

/-- The named values of an enumeration. -/
structure Choice (α : Type) where
  values : List α
  name : α → String
  mem_values : ∀ a, a ∈ values
  name_injective : ∀ a b, name a = name b → a = b

def Choice.find? (c : Choice α) (name : String) : Option α := c.values.find? (c.name · == name)

abbrev TextMap := Std.ExtTreeMap String String

mutual

inductive Shape : Type → Type 1
  | text : Shape String
  | flag : Shape Bool
  | int32 : Shape Int32
  | int64 : Shape Int64
  | uuid : Shape Uuid
  | choice {α : Type} (choice : Choice α) : Shape α
  | option {α : Type} (shape : Shape α) : Shape (Option α)
  | list {α : Type} (shape : Shape α) : Shape (List α)
  | textMap : Shape TextMap
  | record {α β σ : Type} (fields : Fields β σ) (make : β → α) (parts : α → β)
      (make_parts : ∀ a, make (parts a) = a) : Shape α

/-- The fields of a record. Their values are a tuple of `β`, and what has been read of them is a
tuple of `σ`. -/
inductive Fields : Type → Type → Type 1
  | nil : Fields Unit Unit
  | cons {α β σ : Type} (name : String) (shape : Shape α) (rest : Fields β σ) :
      Fields (α × β) (Option α × σ)

end

/-- What takes a value from the front of the tokens. -/
abbrev Reading (α : Type) := List Token → Except Fault (α × List Token)

def faultAt : List Token → Fault
  | .null :: _ | .flag _ :: _ | .integer _ :: _ | .text _ :: _ | .openBrace :: _
  | .openBracket :: _ => .misfit
  | .decimal d :: _ => if d.Overflows then .malformed else .misfit
  | _ => .malformed

def readScalar (value? : Token → Option α) : Reading α
  | [] => .error .malformed
  | t :: ts =>
    match value? t with
    | some a => .ok (a, ts)
    | none => .error (faultAt (t :: ts))

def Token.text? : Token → Option String
  | .text s => some s
  | _ => none

def Token.flag? : Token → Option Bool
  | .flag b => some b
  | _ => none

def Token.int32? : Token → Option Int32
  | .integer i =>
    if Int32.minValue.toInt ≤ i ∧ i ≤ Int32.maxValue.toInt then some (Int32.ofInt i) else none
  | _ => none

def Token.int64? : Token → Option Int64
  | .integer i =>
    if Int64.minValue.toInt ≤ i ∧ i ≤ Int64.maxValue.toInt then some (Int64.ofInt i) else none
  | _ => none

def Token.uuid? : Token → Option Uuid
  | .text s => Uuid.ofText? s
  | _ => none

def readColon : List Token → Except Fault (List Token)
  | .colon :: ts => .ok ts
  | _ => .error .malformed

/-- A name of the enumeration, or an object whose one member has that name and is null. -/
def readChoice (c : Choice α) : Reading α
  | .text name :: ts =>
    match c.find? name with
    | some a => .ok (a, ts)
    | none => .error .misfit
  | .openBrace :: .text name :: ts =>
    match c.find? name with
    | none => .error .misfit
    | some a =>
      match ts with
      | .colon :: .null :: .closeBrace :: ts => .ok (a, ts)
      | .colon :: .null :: _ => .error .malformed
      | .colon :: ts => .error (faultAt ts)
      | _ => .error .malformed
  | _ => .error .malformed

/-- The items of an array from its second one on, each behind a comma. -/
def readItems (item : Reading α) : Nat → Reading (List α)
  | 0, _ => .error .malformed
  | fuel + 1, ts =>
    match ts with
    | .closeBracket :: ts => .ok ([], ts)
    | .comma :: ts => do
      let (a, ts) ← item ts
      let (as, ts) ← readItems item fuel ts
      return (a :: as, ts)
    | _ => .error .malformed

def readList (item : Reading α) : Reading (List α)
  | .openBracket :: .closeBracket :: ts => .ok ([], ts)
  | .openBracket :: ts => do
    let (a, ts) ← item ts
    let (as, ts) ← readItems item ts.length ts
    return (a :: as, ts)
  | ts => .error (faultAt ts)

/-- The members of an object from its second one on. `member` takes a name and the tokens after it,
and changes the state. -/
def readMembers (member : String → σ → Reading σ) : Nat → σ → Reading σ
  | 0, _, _ => .error .malformed
  | fuel + 1, state, ts =>
    match ts with
    | .closeBrace :: ts => .ok (state, ts)
    | .comma :: .text name :: ts => do
      let (state, ts) ← member name state ts
      readMembers member fuel state ts
    | _ => .error .malformed

/-- The members of an object behind its brace. -/
def readObject (member : String → σ → Reading σ) (state : σ) : Reading σ
  | .closeBrace :: ts => .ok (state, ts)
  | .text name :: ts => do
    let (state, ts) ← member name state ts
    readMembers member ts.length state ts
  | _ => .error .malformed

def readTextMember (name : String) (map : TextMap) : Reading TextMap := fun ts => do
  let ts ← readColon ts
  let (value, ts) ← readScalar Token.text? ts
  return (map.insert name value, ts)

/-- The value of a field that is missing. -/
def Shape.absent? : Shape α → Option α
  | .option _ => some none
  | _ => none

/-- What stands before a further item, where only the first one has no comma. -/
def readSeparator (first : Bool) : List Token → Except Fault (List Token)
  | .closeBracket :: _ => .error .misfit
  | .comma :: ts => if first then .error .malformed else .ok ts
  | ts => if first then .ok ts else .error .malformed

namespace Fields

/-- Nothing has been read yet. -/
def noSlots : Fields β σ → σ
  | .nil => ()
  | .cons _ _ rest => (none, rest.noSlots)

/-- The tuple of all fields. -/
def fill : Fields β σ → σ → Except Fault β
  | .nil, _ => .ok ()
  | .cons _ shape rest, (slot, slots) =>
    match slot <|> shape.absent? with
    | some a => (rest.fill slots).map (a, ·)
    | none => .error .misfit

end Fields

mutual

def Shape.read : Shape α → Reading α
  | .text, ts => readScalar Token.text? ts
  | .flag, ts => readScalar Token.flag? ts
  | .int32, ts => readScalar Token.int32? ts
  | .int64, ts => readScalar Token.int64? ts
  | .uuid, ts => readScalar Token.uuid? ts
  | .choice c, ts => readChoice c ts
  | .option shape, ts =>
    match ts with
    | .null :: ts => .ok (none, ts)
    | ts => do
      let (a, ts) ← shape.read ts
      return (some a, ts)
  | .list shape, ts => readList shape.read ts
  | .textMap, ts =>
    match ts with
    | .openBrace :: ts => readObject readTextMember ∅ ts
    | ts => .error (faultAt ts)
  | .record fields make _ _, ts =>
    match ts with
    | .openBrace :: ts => do
      let (slots, ts) ← readObject (fun name slots ts => fields.readMember name slots ts)
        fields.noSlots ts
      return (make (← fields.fill slots), ts)
    | .openBracket :: ts => do
      let (b, ts) ← fields.readElements true ts
      return (make b, ts)
    | ts => .error (faultAt ts)

/-- One member of a record behind its name. -/
def Fields.readMember : Fields β σ → String → σ → Reading σ
  | .nil, _, _, ts => do
    let ts ← readColon ts
    match skipValue ts with
    | some ts => return ((), ts)
    | none => .error .malformed
  | .cons field shape rest, name, (slot, slots), ts =>
    if name = field then
      if slot.isSome then .error .misfit
      else do
        let ts ← readColon ts
        let (a, ts) ← shape.read ts
        return ((some a, slots), ts)
    else do
      let (slots, ts) ← rest.readMember name slots ts
      return ((slot, slots), ts)

/-- The fields of a record in an array, behind its bracket or behind an item. -/
def Fields.readElements : Fields β σ → Bool → Reading β
  | .nil, _, ts =>
    match ts with
    | .closeBracket :: ts => .ok ((), ts)
    | _ => .error .malformed
  | .cons _ shape rest, first, ts => do
    let ts ← readSeparator first ts
    let (a, ts) ← shape.read ts
    let (b, ts) ← rest.readElements false ts
    return ((a, b), ts)

end

mutual

def Shape.write : Shape α → α → Document
  | .text, s => .text s
  | .flag, b => .flag b
  | .int32, i => .integer i.toInt
  | .int64, i => .integer i.toInt
  | .uuid, u => .text u.toText
  | .choice c, a => .text (c.name a)
  | .option shape, a =>
    match a with
    | none => .null
    | some a => shape.write a
  | .list shape, as => .array (as.map shape.write)
  | .textMap, map => .object (map.toList.map fun (key, value) => (key, .text value))
  | .record fields _ parts _, a => .object (fields.writeMembers (parts a))

def Fields.writeMembers : Fields β σ → β → List (String × Document)
  | .nil, _ => []
  | .cons name shape rest, (a, b) => (name, shape.write a) :: rest.writeMembers b

end

/-- The value at the start of the bytes of a document. What stands behind it does not matter. -/
def Shape.readStart (shape : Shape α) (bytes : List UInt8) : Except Fault α :=
  (shape.read (byteTokens bytes)).map Prod.fst

/-- The value that is the whole of a text. -/
def Shape.readWhole (shape : Shape α) (text : String) : Except Fault α :=
  match shape.read (tokens text) with
  | .ok (a, []) => .ok a
  | .ok (_, _ :: _) => .error .malformed
  | .error fault => .error fault

end RetryTrial.Json
