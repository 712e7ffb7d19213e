import RetryTrial.Proofs.Text.Numeral
import RetryTrial.Text.Casing

/-!
# Texts that say a word

A text says a word if that is all it has but for blanks around it, the case of ASCII letters aside.
For a word without blanks this is what trimming a text and comparing it finds out.
-/

namespace RetryTrial.Text

/-- The text is the word up to the case of ASCII letters, perhaps with blanks around it. -/
def Says (text word : String) : Prop :=
  ∃ before written after, text.toList = before ++ written ++ after ∧
    written.map Char.toLower = word.toList.map Char.toLower ∧
    (∀ c ∈ before, isBlank c = true) ∧ ∀ c ∈ after, isBlank c = true

theorem any_isBlank_eq_false_iff {cs : List Char} :
    cs.any isBlank = false ↔ ∀ c ∈ cs, isBlank c = false := by
  simp

theorem isBlank_toLower (c : Char) : isBlank c.toLower = isBlank c := by
  by_cases h : 'A'.val ≤ c.val ∧ c.val ≤ 'Z'.val
  · have hfirst : 65 ≤ c.toNat := UInt32.le_iff_toNat_le.mp h.1
    have hlast : c.toNat ≤ 90 := UInt32.le_iff_toNat_le.mp h.2
    have hcapital : isBlank c = false := by
      simp only [isBlank, Bool.or_eq_false_iff, Bool.and_eq_false_iff, decide_eq_false_iff_not,
        beq_eq_false_iff_ne]
      omega
    have hsmall : c.toLower.toNat = c.toNat + 32 := by
      have hlower : c.toLower.val = c.val + 32 := congrArg Char.val (dif_pos h)
      have hsum : (c.val + 32).toNat = (c.toNat + 32) % 2 ^ 32 := UInt32.toNat_add c.val 32
      have hfits : c.toNat + 32 < 2 ^ 32 := by omega
      exact ((congrArg UInt32.toNat hlower).trans hsum).trans (Nat.mod_eq_of_lt hfits)
    rw [hcapital]
    simp only [isBlank, Bool.or_eq_false_iff, Bool.and_eq_false_iff, decide_eq_false_iff_not,
      beq_eq_false_iff_ne]
    omega
  · have hlower : c.toLower = c := dif_neg h
    rw [hlower]

theorem sameIgnoringCase_trim_iff {text word : String}
    (hword : ∀ c ∈ word.toList, isBlank c = false) :
    sameIgnoringCase word.toList (trim text.toList) = true ↔ Says text word := by
  rw [sameIgnoringCase_iff]
  constructor
  · intro h
    obtain ⟨before, after, htext, hbefore, hafter⟩ := eq_blanks_append_trim text.toList
    exact ⟨before, trim text.toList, after, htext, h.symm, hbefore, hafter⟩
  · rintro ⟨before, written, after, htext, h, hbefore, hafter⟩
    have hwritten : ∀ c ∈ written, isBlank c = false := by
      intro c hc
      have hmem : c.toLower ∈ word.toList.map Char.toLower := h ▸ List.mem_map_of_mem hc
      obtain ⟨d, hd, hdc⟩ := List.mem_map.mp hmem
      rw [← isBlank_toLower, ← hdc, isBlank_toLower, hword d hd]
    rw [htext, trim_append hbefore hwritten hafter, h]

end RetryTrial.Text
