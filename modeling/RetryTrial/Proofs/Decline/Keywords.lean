import RetryTrial.Decline.Keywords
import RetryTrial.Proofs.Text.AsciiSearch

/-!
# The keywords of the categories

The standard matcher looks for keywords in the small form of the whole message. Its keywords are
plain words, so what it finds is the first category of which the message has a keyword in ASCII
characters, the case of letters aside. The characters beyond ASCII have no part in it.
-/

namespace RetryTrial
open Text

namespace Category

/-- The message has a keyword of the category, the case of ASCII letters aside. -/
def MentionedIn (c : Category) (message : String) : Prop :=
  ∃ k ∈ c.keywords, Spelled k.toList message.toList

theorem plain_keywords (c : Category) : ∀ k ∈ c.keywords, Plain k.toList := by
  cases c <;> simp [keywords] <;> decide

theorem keywords_ne_nil (c : Category) : ∀ k ∈ c.keywords, k.toList ≠ [] := by
  cases c <;> simp [keywords]

theorem lowered_ofCategory (c : Category) :
    (KeywordRule.ofCategory c).lowered = KeywordRule.ofCategory c := by
  have hkeywords : (c.keywords.map fun k => String.ofList (lower k.toList)) = c.keywords := by
    refine (List.map_congr_left fun k hk => ?_).trans (List.map_id' c.keywords)
    rw [lower, (plain_keywords c k hk).lowerAfter, String.ofList_toList]
  rw [KeywordRule.lowered, KeywordRule.ofCategory, hkeywords]

variable {c : Category} {message other : String}

/-- A category's keyword stands in the small form of a message where the message mentions it. -/
theorem occursIn_lower_iff_mentionedIn :
    (KeywordRule.ofCategory c).occursIn (lower message.toList) = true ↔ c.MentionedIn message := by
  rw [KeywordRule.occursIn_iff, MentionedIn]
  refine exists_congr fun k => and_congr_right fun hk => ?_
  have hplain := plain_keywords c k hk
  have hne := keywords_ne_nil c k hk
  cases hword : k.toList with
  | nil => exact absurd hword hne
  | cons first word =>
      rw [hword] at hplain
      exact infix_lower_iff_spelled hplain

theorem not_mentionedIn_of_empty (h : message.toList = []) : ¬ c.MentionedIn message := by
  rintro ⟨k, hk, hspelled⟩
  rw [spelled_iff_isInfix (plain_keywords c k hk), h] at hspelled
  exact keywords_ne_nil c k hk (List.infix_nil.mp hspelled)

theorem mentionedIn_congr (h : SameAscii message.toList other.toList) :
    c.MentionedIn message ↔ c.MentionedIn other := by
  constructor
  · rintro ⟨k, hk, hspelled⟩
    exact ⟨k, hk, hspelled.of_sameAscii h⟩
  · rintro ⟨k, hk, hspelled⟩
    exact ⟨k, hk, hspelled.of_sameAscii h.symm⟩

end Category

namespace Matcher

variable {message : String}

theorem rules_standard : standard.rules = Category.all.map KeywordRule.ofCategory := by
  change (Category.all.map KeywordRule.ofCategory).map KeywordRule.lowered = _
  rw [List.map_map]
  exact List.map_congr_left fun c _ => c.lowered_ofCategory

theorem find?_standard (message : String) : standard.find? (some message) =
    (Category.all.find? fun c =>
      (KeywordRule.ofCategory c).occursIn (lower message.toList)).map KeywordRule.ofCategory := by
  simp only [find?, rules_standard, List.find?_map]
  split_ifs with hempty
  · have hnil : message.toList = [] := by
      rw [String.isEmpty_iff.mp hempty]
      rfl
    have hnone : Category.all.find? (fun c =>
        (KeywordRule.ofCategory c).occursIn (lower message.toList)) = none := by
      rw [List.find?_eq_none]
      intro c _ hc
      exact Category.not_mentionedIn_of_empty hnil (Category.occursIn_lower_iff_mentionedIn.mp hc)
    rw [hnone, Option.map_none]
  · rfl

theorem find?_standard_eq_some_iff {rule : KeywordRule} :
    standard.find? (some message) = some rule ↔
      ∃ before c after, Category.all = before ++ c :: after ∧ c.MentionedIn message ∧
        (∀ earlier ∈ before, ¬ earlier.MentionedIn message) ∧
        rule = ⟨c, c.retryable, c.keywords⟩ := by
  rw [find?_standard, Option.map_eq_some_iff]
  simp only [List.find?_eq_some_iff_append, Bool.not_eq_true', ← Bool.not_eq_true,
    Category.occursIn_lower_iff_mentionedIn]
  constructor
  · rintro ⟨c, ⟨hc, before, after, hall, hbefore⟩, rfl⟩
    exact ⟨before, c, after, hall, hc, hbefore, rfl⟩
  · rintro ⟨before, c, after, hall, hc, hbefore, rfl⟩
    exact ⟨c, ⟨hc, before, after, hall, hbefore⟩, rfl⟩

theorem find?_standard_eq_none_iff :
    standard.find? (some message) = none ↔ ∀ c : Category, ¬ c.MentionedIn message := by
  rw [find?_standard, Option.map_eq_none_iff, List.find?_eq_none]
  simp only [Category.occursIn_lower_iff_mentionedIn]
  exact ⟨fun h c => h c (Category.mem_all c), fun h c _ => h c⟩

theorem find?_standard_congr {other : String} (h : SameAscii message.toList other.toList) :
    standard.find? (some message) = standard.find? (some other) := by
  rw [find?_standard, find?_standard]
  congr 2
  funext c
  rw [Bool.eq_iff_iff, Category.occursIn_lower_iff_mentionedIn,
    Category.occursIn_lower_iff_mentionedIn, Category.mentionedIn_congr h]

/-- The standard matcher finds the first category of which the message has a keyword in ASCII
characters, letter case aside. What stands for the characters beyond ASCII does not matter. -/
theorem standard_finds_first_mentioned (message : String) :
    (∀ rule, standard.find? (some message) = some rule ↔
      ∃ before c after, Category.all = before ++ c :: after ∧ c.MentionedIn message ∧
        (∀ earlier ∈ before, ¬ earlier.MentionedIn message) ∧
        rule = ⟨c, c.retryable, c.keywords⟩) ∧
    (standard.find? (some message) = none ↔ ∀ c : Category, ¬ c.MentionedIn message) ∧
    ∀ other : String, SameAscii message.toList other.toList →
      standard.find? (some message) = standard.find? (some other) :=
  ⟨fun _ => find?_standard_eq_some_iff, find?_standard_eq_none_iff, fun _ => find?_standard_congr⟩

example : standard.find? (some "İNVALİD CARD NUMBER") = none ∧
    standard.find? (some "İnvalid: CVC İ") =
      some ⟨.cvvMismatch, false, ["cvc"]⟩ := by decide +kernel

end Matcher

end RetryTrial
