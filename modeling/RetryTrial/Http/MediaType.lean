/-!
# Media types

`isJson` says whether a content type declares a JSON document: the type is `application`, and the
subtype is `json` or has the suffix `json`. Parameters may follow. Type, subtype and parameter names
are tokens; a parameter's value is a token or stands in quotes; blanks may stand before a parameter
and after a quoted value. A content type that is not written so declares nothing.
-/

namespace RetryTrial.MediaType

def isTokenChar (c : Char) : Bool :=
  c.isAlphanum || "!#$%&'*+-.^_\x60|~".toList.contains c

def isQuotedChar (c : Char) : Bool := 31 < c.toNat && c.toNat != 127

/-- Where in its parameters a content type has been read to. -/
inductive Place
  | beforeName
  | name
  | beforeValue
  | value
  | quotedStart
  | quoted
  | afterQuoted
deriving DecidableEq

/-- The next place, or none if the character may not stand here. -/
def Place.next : Place → Char → Option Place
  | beforeName, c =>
    if c = ' ' then some beforeName else if isTokenChar c then some name else none
  | name, c => if isTokenChar c then some name else if c = '=' then some beforeValue else none
  | beforeValue, c =>
    if c = '"' then some quotedStart else if isTokenChar c then some value else none
  | value, c => if isTokenChar c then some value else if c = ';' then some beforeName else none
  | quotedStart, c => if isQuotedChar c then some quoted else none
  | quoted, c =>
    if c = '"' then some afterQuoted else if isQuotedChar c then some quoted else none
  | afterQuoted, c =>
    if c = ';' then some beforeName else if c = ' ' then some afterQuoted else none

/-- The content type may end here. -/
def Place.final : Place → Bool
  | beforeName | beforeValue | value | afterQuoted => true
  | name | quotedStart | quoted => false

/-- The parameters behind the first semicolon are well formed. -/
def parametersFrom : Place → List Char → Bool
  | place, [] => place.final
  | place, c :: cs =>
    match place.next c with
    | some place => parametersFrom place cs
    | none => false

/-- What stands before and after the last plus sign that is not the first character. -/
def splitSuffix (subtype : List Char) : List Char × Option (List Char) :=
  let suffix := (subtype.reverse.takeWhile (· ≠ '+')).reverse
  let base := subtype.take (subtype.length - suffix.length - 1)
  if suffix.length = subtype.length ∨ base.isEmpty then (subtype, none) else (base, some suffix)

def json : List Char := ['j', 's', 'o', 'n']

/-- The subtype is JSON by its name or its suffix. -/
def isJsonSubtype (subtype : List Char) : Bool :=
  let (base, suffix) := splitSuffix (subtype.map Char.toLower)
  base == json || suffix == some json

def isJson (contentType : String) : Bool :=
  let cs := contentType.toList
  let main := cs.takeWhile (· ≠ '/')
  let subtype := (cs.dropWhile (· ≠ '/')).drop 1 |>.takeWhile (· ≠ ';')
  let rest := (cs.dropWhile (· ≠ '/')).drop 1 |>.dropWhile (· ≠ ';')
  main.map Char.toLower == "application".toList &&
    subtype.all isTokenChar && isJsonSubtype subtype &&
    match rest with
    | [] => true
    | _ :: parameters => parametersFrom .beforeName parameters

end RetryTrial.MediaType
