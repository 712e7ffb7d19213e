import RetryTrial.Text.CaseData

/-!
# Letter case

`lower` is the small form of a text. It goes letter by letter, with two exceptions: a dotted
capital I leaves its dot behind as a mark, and a capital sigma that ends a word becomes the final
form of the letter. `upperWord` is the capital form as far as that is spelled in ASCII, which
decides whether a text spells an ASCII word. `sameIgnoringCase` compares up to the case of ASCII
letters only.
-/

namespace RetryTrial.Text

def isCased (c : Char) : Bool := casedRanges.any fun r => r.Covers c.toNat

def isCaseIgnorable (c : Char) : Bool := caseIgnorableRanges.any fun r => r.Covers c.toNat

/-- The nearest character that is not passed over is a cased one. -/
def meetsCased : List Char → Bool
  | [] => false
  | c :: cs => if isCaseIgnorable c then meetsCased cs else isCased c

def capitalSigma : Char := 'Σ'

def smallSigma : Char := 'σ'

def finalSigma : Char := 'ς'

/-- The small forms of a letter that stands alone. -/
def lowerLetter (c : Char) : List Char :=
  if c.toNat < 128 then [c.toLower]
  else if c = 'İ' then ['i', '\u0307']
  else
    match capitalRuns.find? fun r => r.Covers c.toNat with
    | some r => [Char.ofNat (c.toNat + r.shift).toNat]
    | none => [c]

/-- A letter's small forms between the letters `before` it, nearest first, and those `after` it. -/
def lowerBetween (before : List Char) (c : Char) (after : List Char) : List Char :=
  if c = capitalSigma then
    if meetsCased before && !meetsCased after then [finalSigma] else [smallSigma]
  else lowerLetter c

def lowerAfter (before : List Char) : List Char → List Char
  | [] => []
  | c :: cs => lowerBetween before c cs ++ lowerAfter (c :: before) cs

def lower (cs : List Char) : List Char := lowerAfter [] cs

/-- The capital forms of a letter where all of them are ASCII; any other letter stays as it is, so
that no ASCII word has it. -/
def upperLetter (c : Char) : List Char :=
  match c with
  | 'ß' => ['S', 'S']
  | 'ı' => ['I']
  | 'ſ' => ['S']
  | 'ﬀ' => ['F', 'F']
  | 'ﬁ' => ['F', 'I']
  | 'ﬂ' => ['F', 'L']
  | 'ﬃ' => ['F', 'F', 'I']
  | 'ﬄ' => ['F', 'F', 'L']
  | 'ﬅ' => ['S', 'T']
  | 'ﬆ' => ['S', 'T']
  | c => [c.toUpper]

def upperWord (s : String) : String := String.ofList (s.toList.flatMap upperLetter)

def sameIgnoringCase (s t : List Char) : Bool := s.map Char.toLower == t.map Char.toLower

def occursIn (word : List Char) : List Char → Bool
  | [] => word.isEmpty
  | c :: cs => word.isPrefixOf (c :: cs) || occursIn word cs

theorem occursIn_iff (word cs : List Char) : occursIn word cs = true ↔ word <:+: cs := by
  induction cs with
  | nil => simp [occursIn]
  | cons c cs ih => simp [occursIn, ih, List.infix_cons_iff]

theorem sameIgnoringCase_iff (s t : List Char) :
    sameIgnoringCase s t = true ↔ s.map Char.toLower = t.map Char.toLower := by
  simp [sameIgnoringCase]

@[simp] theorem lowerAfter_nil (before : List Char) : lowerAfter before [] = [] := rfl

theorem lowerLetter_of_ascii (c : Char) (h : c.toNat < 128) : lowerLetter c = [c.toLower] := by
  simp [lowerLetter, h]

end RetryTrial.Text
