import RetryTrial.Decline.Keywords
import RetryTrial.Proofs.Text.Sigma

/-!
# Keywords that stand in the message as they are configured

A matcher compares the small form of a keyword with the small form of the whole message. A keyword
that stands in the message letter by letter is found if its capital sigmas end words there just as
they do in the keyword by itself. Without capital sigmas it always is.
-/

namespace RetryTrial
open Text

namespace Matcher

variable {rules : List KeywordRule} {rule : KeywordRule} {message keyword : String}
  {before after : List Char} {i : ℕ}

/-- The matcher finds one of the rules up to and including rule `i`. -/
def FindsUpTo (rules : List KeywordRule) (i : ℕ) (message : String) : Prop :=
  ∃ j found, j ≤ i ∧ rules[j]? = some found ∧
    (ofRules rules).find? (some message) = some found.lowered

/-- The message has the keyword between these letters. -/
structure Quotes (message : String) (before : List Char) (keyword : String) (after : List Char) :
    Prop where
  text : message.toList = before ++ keyword.toList ++ after
  ne_empty : message ≠ ""

theorem find?_ofRules (h : message ≠ "") :
    (ofRules rules).find? (some message) =
      (rules.find? fun r => r.lowered.occursIn (lower message.toList)).map KeywordRule.lowered := by
  have hempty : ¬ message.isEmpty = true := fun he => h (String.isEmpty_iff.mp he)
  rw [find?, ofRules, if_neg hempty, List.find?_map]
  rfl

theorem findsUpTo_of_occursIn (h : message ≠ "") (hi : rules[i]? = some rule)
    (hoccurs : rule.lowered.occursIn (lower message.toList) = true) :
    FindsUpTo rules i message := by
  obtain ⟨hlt, rfl⟩ := List.getElem?_eq_some_iff.mp hi
  have hfound : ∃ j, j ≤ i ∧ ∃ found, rules[j]? = some found ∧
      rules.find? (fun r => r.lowered.occursIn (lower message.toList)) = some found := by
    cases hfind : rules.find? fun r => r.lowered.occursIn (lower message.toList) with
    | none =>
        have hnot := List.find?_eq_none.mp hfind rules[i] (List.getElem_mem hlt)
        exact absurd hoccurs hnot
    | some found =>
        obtain ⟨-, j, hj, hget, hfirst⟩ := List.find?_eq_some_iff_getElem.mp hfind
        refine ⟨j, ?_, found, List.getElem?_eq_some_iff.mpr ⟨hj, hget⟩, rfl⟩
        by_contra hij
        simpa [hoccurs] using hfirst i (Nat.lt_of_not_le hij)
  obtain ⟨j, hji, found, hget, hfind⟩ := hfound
  refine ⟨j, found, hji, hget, ?_⟩
  rw [find?_ofRules h, hfind, Option.map_some]

theorem Quotes.occursIn (h : Quotes message before keyword after) (hk : keyword ∈ rule.keywords)
    (hforms : KeepsSigmas before.reverse keyword.toList after) :
    rule.lowered.occursIn (lower message.toList) = true := by
  rw [KeywordRule.occursIn_iff]
  refine ⟨String.ofList (lower keyword.toList), List.mem_map_of_mem hk, ?_⟩
  rw [String.toList_ofList, h.text]
  exact hforms.lower_infix

/-- A keyword that stands in the message as it is configured makes the matcher find its rule or an
earlier one, if each of its capital sigmas ends a word there exactly if it does in the keyword by
itself. So it is for a keyword without capital sigmas, and where no cased letter is next to the
keyword on either side. -/
theorem quoted_keyword_found_but_sigmas (rules : List KeywordRule) (i : ℕ) (rule : KeywordRule)
    (keyword message : String) (before after : List Char) (hi : rules[i]? = some rule)
    (hk : keyword ∈ rule.keywords) (h : Quotes message before keyword after) :
    (KeepsSigmas before.reverse keyword.toList after → FindsUpTo rules i message) ∧
    (capitalSigma ∉ keyword.toList → FindsUpTo rules i message) ∧
    (meetsCased before.reverse = false → meetsCased after = false →
      FindsUpTo rules i message) := by
  have hfound : KeepsSigmas before.reverse keyword.toList after → FindsUpTo rules i message :=
    fun hforms => findsUpTo_of_occursIn h.ne_empty hi (h.occursIn hk hforms)
  refine ⟨hfound, fun hsigma => ?_, fun hbefore hafter => ?_⟩
  · exact hfound (keepsSigmas_of_not_mem hsigma before.reverse after)
  · exact hfound (keepsSigmas_of_apart hbefore hafter keyword.toList)

def foreignRules : List KeywordRule :=
  [⟨.fraud, false, ["SAHTECİLİK"]⟩, ⟨.lostOrStolen, false, ["ΚΛΟΠΗ", "ΚΑΤΟΧΟΣ"]⟩]

/-- The second rule is found by a keyword that ends in a capital sigma, which ends a word of the
message as well, and by one without sigmas that is a part of a word. -/
theorem greek_keywords_found :
    Quotes "Ο ΚΑΤΟΧΟΣ ΑΠΩΝ" "Ο ".toList "ΚΑΤΟΧΟΣ" " ΑΠΩΝ".toList ∧
    FindsUpTo foreignRules 1 "Ο ΚΑΤΟΧΟΣ ΑΠΩΝ" ∧
    Quotes "ΚΛΟΠΗΣ" [] "ΚΛΟΠΗ" ['Σ'] ∧ FindsUpTo foreignRules 1 "ΚΛΟΠΗΣ" := by
  have hword : Quotes "Ο ΚΑΤΟΧΟΣ ΑΠΩΝ" "Ο ".toList "ΚΑΤΟΧΟΣ" " ΑΠΩΝ".toList :=
    ⟨by decide, by decide⟩
  have hpart : Quotes "ΚΛΟΠΗΣ" [] "ΚΛΟΠΗ" ['Σ'] := ⟨by decide, by decide⟩
  obtain ⟨-, -, hapart⟩ := quoted_keyword_found_but_sigmas foreignRules 1 _ "ΚΑΤΟΧΟΣ" _ _ _ rfl
    (by decide) hword
  obtain ⟨-, hplain, -⟩ := quoted_keyword_found_but_sigmas foreignRules 1 _ "ΚΛΟΠΗ" _ _ _ rfl
    (by decide) hpart
  exact ⟨hword, hapart (by decide +kernel) (by decide +kernel), hpart, hplain (by decide)⟩

/-- A keyword that ends in a capital sigma is missed where another letter follows it. -/
theorem final_sigma_missed :
    let rules : List KeywordRule := [⟨.fraud, false, ["ΑΣ"]⟩]
    Quotes "ΑΣΑ" [] "ΑΣ" ['Α'] ∧ (ofRules rules).find? (some "ΑΣΑ") = none := by
  exact ⟨⟨by decide, by decide⟩, by decide +kernel⟩

end Matcher

end RetryTrial
