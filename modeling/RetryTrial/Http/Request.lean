import RetryTrial.Text.Percent

/-!
# Requests

A request names a method and a target and may carry headers and a body of bytes. A target is the
path and the query, in front of which a scheme and an authority may stand. Of a header that is given
twice the first one counts. A form in the query is a list of decoded names and values.
-/

namespace RetryTrial.Http
open Text

structure Request where
  method : String
  target : String
  headers : List (String × String)
  body : List UInt8

/-- The pieces between the separators. -/
def pieces (separator : Char) : List Char → List (List Char)
  | [] => [[]]
  | c :: cs =>
    match pieces separator cs with
    | [] => [[c]]
    | piece :: rest => if c = separator then [] :: piece :: rest else (c :: piece) :: rest

/-- The text up to a separator and the text behind it, if there is one. -/
def cut (separator : Char) (cs : List Char) : List Char × Option (List Char) :=
  match cs.dropWhile (· ≠ separator) with
  | [] => (cs, none)
  | _ :: rest => (cs.takeWhile (· ≠ separator), some rest)

def isSchemeChar (c : Char) : Bool := c.isAlphanum || c == '+' || c == '-' || c == '.'

/-- A target from its path on. An absolute target without a path is about the root; one that is
neither absolute nor begins with a path is about nothing. -/
def fromPath (target : List Char) : List Char :=
  match target with
  | '/' :: _ | ['*'] => target
  | _ =>
    match target.dropWhile isSchemeChar with
    | ':' :: '/' :: '/' :: rest =>
      match rest.dropWhile fun c => c ≠ '/' && c ≠ '?' && c ≠ '#' with
      | '/' :: rest => '/' :: rest
      | rest => '/' :: rest
    | _ => []

namespace Request

/-- The path and the query of the target, without a fragment. -/
def resource (r : Request) : List Char := (cut '#' (fromPath r.target.toList)).1

def path (r : Request) : List Char := (cut '?' r.resource).1

def query (r : Request) : List Char := (cut '?' r.resource).2.getD []

/-- The parts of the path, the first of which stands before the leading slash. -/
def segments (r : Request) : List String := (pieces '/' r.path).map String.ofList

def form (r : Request) : List (String × String) :=
  ((pieces '&' r.query).filter fun piece => !piece.isEmpty).map fun piece =>
    let (name, value) := cut '=' piece
    (formDecode name, formDecode (value.getD []))

def isHeaderChar (c : Char) : Bool := c == '\t' || (0x20 ≤ c.toNat && c.toNat < 0x7F)

/-- The first value of a header, if it is in printable ASCII. -/
def header? (r : Request) (name : String) : Option String :=
  match r.headers.find? fun (n, _) => n.toList.map Char.toLower == name.toList.map Char.toLower with
  | some (_, value) => if value.toList.all isHeaderChar then some value else none
  | none => none

/-- The request carries the key in that header. No request carries the empty key. -/
def hasKey (r : Request) (name key : String) : Bool := key != "" && r.header? name == some key

theorem hasKey_iff {r : Request} {name key : String} :
    r.hasKey name key = true ↔ key ≠ "" ∧ r.header? name = some key := by
  simp [hasKey]

end Request

end RetryTrial.Http
