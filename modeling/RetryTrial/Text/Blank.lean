/-!
# Blank characters

`isBlank` is the White_Space property of the Unicode Standard, and `trim` takes blank characters
off both ends of a text.
-/

namespace RetryTrial.Text

def isBlank (c : Char) : Bool :=
  let n := c.toNat
  (0x09 ≤ n && n ≤ 0x0D) || n == 0x20 || n == 0x85 || n == 0xA0 || n == 0x1680 ||
    (0x2000 ≤ n && n ≤ 0x200A) || n == 0x2028 || n == 0x2029 || n == 0x202F || n == 0x205F ||
    n == 0x3000

def trimEnd : List Char → List Char
  | [] => []
  | c :: cs =>
    match trimEnd cs with
    | [] => if isBlank c then [] else [c]
    | rest => c :: rest

def trim (cs : List Char) : List Char := trimEnd (cs.dropWhile isBlank)

theorem trimEnd_append_blanks (cs : List Char) :
    ∃ after, cs = trimEnd cs ++ after ∧ ∀ c ∈ after, isBlank c := by
  induction cs with
  | nil => exact ⟨[], rfl, by simp⟩
  | cons c cs ih =>
    obtain ⟨after, hcs, hafter⟩ := ih
    unfold trimEnd
    split
    · rename_i hnil
      rw [hnil] at hcs
      by_cases hc : isBlank c
      · exact ⟨c :: after, by simpa [hc] using hcs, by simpa [hc] using hafter⟩
      · exact ⟨after, by simpa [hc] using hcs, hafter⟩
    · exact ⟨after, congrArg (c :: ·) hcs, hafter⟩

end RetryTrial.Text
