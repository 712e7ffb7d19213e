import Mathlib.Data.Nat.Digits.Defs
import RetryTrial.Text.Blank
import RetryTrial.Text.Numeral

/-!
# Texts that spell an integer

A numeral is one or more decimal digits, with a sign in front or without, and any number of zeros
may lead. Reading takes exactly the numerals whose value is in range. Blanks may stand around the
numeral of an integer, but not around that of a natural number, which has no minus sign either.
-/

namespace RetryTrial.Text

def digitValue (c : Char) : ℕ := c.toNat - '0'.toNat

/-- The value of a row of digits, most significant first. -/
def decimal (cs : List Char) : ℕ := Nat.ofDigits 10 (cs.reverse.map digitValue)

def IsDigits (cs : List Char) : Prop := cs ≠ [] ∧ ∀ c ∈ cs, c.isDigit = true

instance (cs : List Char) : Decidable (IsDigits cs) :=
  decidable_of_iff (cs ≠ [] ∧ cs.all Char.isDigit = true) (by simp [IsDigits])

/-- The characters are digits with at most one sign in front, and stand for this integer. -/
inductive Numeral : List Char → ℤ → Prop
  | plain {digits : List Char} (h : IsDigits digits) : Numeral digits (decimal digits)
  | plus {digits : List Char} (h : IsDigits digits) : Numeral ('+' :: digits) (decimal digits)
  | minus {digits : List Char} (h : IsDigits digits) : Numeral ('-' :: digits) (-decimal digits)

/-- The text is a numeral for this integer with blanks around it. -/
def Spells (s : String) (i : ℤ) : Prop :=
  ∃ before numeral after, s.toList = before ++ numeral ++ after ∧ Numeral numeral i ∧
    (∀ c ∈ before, isBlank c = true) ∧ ∀ c ∈ after, isBlank c = true

/-- The text is a row of digits for this number, with a plus sign in front or without. -/
inductive SpellsNatural (s : String) (n : ℕ) : Prop
  | plain (h : IsDigits s.toList) (hn : decimal s.toList = n)
  | plus {digits : List Char} (hs : s.toList = '+' :: digits) (h : IsDigits digits)
      (hn : decimal digits = n)

theorem digit?_eq_some_iff {c : Char} {d : ℕ} :
    digit? c = some d ↔ c.isDigit = true ∧ digitValue c = d := by
  have hd : c.isDigit = true ↔ '0' ≤ c ∧ c ≤ '9' := by
    simp only [Char.isDigit, Bool.and_eq_true, decide_eq_true_eq]
    exact Iff.rfl
  rw [hd, digit?, digitValue]
  by_cases h : '0' ≤ c ∧ c ≤ '9' <;> simp [h]

theorem decimal_cons (c : Char) (cs : List Char) :
    decimal (c :: cs) = digitValue c * 10 ^ cs.length + decimal cs := by
  rw [decimal, List.reverse_cons, List.map_append, Nat.ofDigits_append, List.length_map,
    List.length_reverse, List.map_singleton, Nat.ofDigits_singleton, Nat.add_comm, Nat.mul_comm]
  rfl

theorem digitsFrom?_eq_some_iff {value n : ℕ} {cs : List Char} :
    digitsFrom? value cs = some n ↔
      (∀ c ∈ cs, c.isDigit = true) ∧ value * 10 ^ cs.length + decimal cs = n := by
  induction cs generalizing value with
  | nil => simp [digitsFrom?, decimal]
  | cons c cs ih =>
      rw [digitsFrom?, decimal_cons]
      cases hc : digit? c with
      | none =>
          have hnot : ¬ c.isDigit = true := by
            intro h
            rw [digit?_eq_some_iff.mpr ⟨h, rfl⟩] at hc
            cases hc
          simp [hnot]
      | some d =>
          obtain ⟨hdigit, hvalue⟩ := digit?_eq_some_iff.mp hc
          have hsum : (10 * value + d) * 10 ^ cs.length + decimal cs =
              value * 10 ^ (cs.length + 1) + (d * 10 ^ cs.length + decimal cs) := by ring
          simp only [ih, hsum, List.length_cons, List.forall_mem_cons, hdigit, hvalue, true_and]

theorem digits?_eq_some_iff {n : ℕ} {cs : List Char} :
    digits? cs = some n ↔ IsDigits cs ∧ decimal cs = n := by
  cases cs with
  | nil => simp [digits?, IsDigits]
  | cons c cs => simp [digits?, digitsFrom?_eq_some_iff, IsDigits]

theorem signed?_of_plain {cs : List Char} (hplus : ∀ ds, cs ≠ '+' :: ds)
    (hminus : ∀ ds, cs ≠ '-' :: ds) : signed? cs = (digits? cs).map Int.ofNat := by
  unfold signed?
  split
  · exact absurd rfl (hplus _)
  · exact absurd rfl (hminus _)
  · rfl

theorem IsDigits.head_ne_sign {cs ds : List Char} (h : IsDigits cs) :
    cs ≠ '+' :: ds ∧ cs ≠ '-' :: ds := by
  constructor <;>
  · rintro rfl
    exact absurd (h.2 _ List.mem_cons_self) (by decide)

theorem signed?_eq_some_iff {cs : List Char} {i : ℤ} : signed? cs = some i ↔ Numeral cs i := by
  constructor
  · intro h
    unfold signed? at h
    split at h
    · obtain ⟨n, hn, rfl⟩ := Option.map_eq_some_iff.mp h
      obtain ⟨hd, rfl⟩ := digits?_eq_some_iff.mp hn
      exact .plus hd
    · obtain ⟨n, hn, rfl⟩ := Option.map_eq_some_iff.mp h
      obtain ⟨hd, rfl⟩ := digits?_eq_some_iff.mp hn
      exact .minus hd
    · obtain ⟨n, hn, rfl⟩ := Option.map_eq_some_iff.mp h
      obtain ⟨hd, rfl⟩ := digits?_eq_some_iff.mp hn
      exact .plain hd
  · intro h
    cases h with
    | plain hd =>
        rw [signed?_of_plain (fun _ => hd.head_ne_sign.1) (fun _ => hd.head_ne_sign.2),
          digits?_eq_some_iff.mpr ⟨hd, rfl⟩]
        rfl
    | plus hd => simp [signed?, digits?_eq_some_iff.mpr ⟨hd, rfl⟩]
    | minus hd => simp [signed?, digits?_eq_some_iff.mpr ⟨hd, rfl⟩]

theorem int32?_eq_some_iff {cs : List Char} {n : Int32} :
    int32? cs = some n ↔ Numeral cs n.toInt := by
  rw [← signed?_eq_some_iff, int32?]
  constructor
  · intro h
    cases hs : signed? cs with
    | none => simp [hs] at h
    | some i =>
        simp only [hs, Option.ite_none_right_eq_some, Option.some.injEq] at h
        obtain ⟨⟨hmin, hmax⟩, rfl⟩ := h
        rw [Int32.toInt_ofInt_of_le hmin (Int.lt_add_one_of_le hmax)]
  · intro h
    have hrange := And.intro n.minValue_le_toInt n.toInt_le
    simp only [h, if_pos hrange, Int32.ofInt_toInt]

theorem natural?_of_spells {s : String} {n : ℕ} (h : SpellsNatural s n) (bound : ℕ) :
    natural? bound s = if n ≤ bound then some n else none := by
  unfold natural?
  cases h with
  | plain hd hn =>
      have hread : digits? s.toList = some n := digits?_eq_some_iff.mpr ⟨hd, hn⟩
      split
      · rename_i digits hs
        exact absurd hs hd.head_ne_sign.1
      · simp [hread, Option.filter_some]
  | plus hs hd hn =>
      have hread := digits?_eq_some_iff.mpr ⟨hd, hn⟩
      simp [hs, hread, Option.filter_some]

theorem trimEnd_of_blank {cs : List Char} (h : ∀ c ∈ cs, isBlank c = true) : trimEnd cs = [] := by
  induction cs with
  | nil => rfl
  | cons c cs ih =>
      rw [List.forall_mem_cons] at h
      simp [trimEnd, ih h.2, h.1]

theorem trimEnd_append {core after : List Char} (hcore : ∀ c ∈ core, isBlank c = false)
    (hafter : ∀ c ∈ after, isBlank c = true) : trimEnd (core ++ after) = core := by
  induction core with
  | nil => exact trimEnd_of_blank hafter
  | cons c core ih =>
      rw [List.forall_mem_cons] at hcore
      rw [List.cons_append, trimEnd, ih hcore.2]
      cases core <;> simp [hcore.1]

/-- Blanks around a text without blanks are all that is taken off. -/
theorem trim_append {before core after : List Char} (hbefore : ∀ c ∈ before, isBlank c = true)
    (hcore : ∀ c ∈ core, isBlank c = false) (hafter : ∀ c ∈ after, isBlank c = true) :
    trim (before ++ core ++ after) = core := by
  rw [trim, List.append_assoc, List.dropWhile_append_of_pos hbefore]
  cases core with
  | nil => exact trimEnd_of_blank fun c hc => hafter c ((List.dropWhile_sublist isBlank).mem hc)
  | cons c core =>
      rw [List.cons_append, List.dropWhile_cons_of_neg (by simp [hcore c])]
      exact trimEnd_append hcore hafter

theorem eq_blanks_append_trim (cs : List Char) :
    ∃ before after, cs = before ++ trim cs ++ after ∧ (∀ c ∈ before, isBlank c = true) ∧
      ∀ c ∈ after, isBlank c = true := by
  obtain ⟨after, hcs, hafter⟩ := trimEnd_append_blanks (cs.dropWhile isBlank)
  refine ⟨cs.takeWhile isBlank, after, ?_, ?_, hafter⟩
  · rw [List.append_assoc]
    exact List.takeWhile_append_dropWhile.symm.trans (congrArg _ hcs)
  · intro c hc
    exact List.all_eq_true.mp List.all_takeWhile c hc

theorem not_isBlank_of_isDigit {c : Char} (h : c.isDigit = true) : isBlank c = false := by
  have hc : 48 ≤ c.toNat ∧ c.toNat ≤ 57 := by
    simp only [Char.isDigit, Bool.and_eq_true, decide_eq_true_eq] at h
    exact h
  simp only [isBlank, Bool.or_eq_false_iff, Bool.and_eq_false_iff, decide_eq_false_iff_not,
    beq_eq_false_iff_ne]
  omega

theorem Numeral.not_isBlank {cs : List Char} {i : ℤ} (h : Numeral cs i) :
    ∀ c ∈ cs, isBlank c = false := by
  cases h with
  | plain hd => exact fun c hc => not_isBlank_of_isDigit (hd.2 c hc)
  | plus hd =>
      rw [List.forall_mem_cons]
      exact ⟨by decide, fun c hc => not_isBlank_of_isDigit (hd.2 c hc)⟩
  | minus hd =>
      rw [List.forall_mem_cons]
      exact ⟨by decide, fun c hc => not_isBlank_of_isDigit (hd.2 c hc)⟩

theorem int32?_trim_eq_some_iff {s : String} {n : Int32} :
    int32? (trim s.toList) = some n ↔ Spells s n.toInt := by
  rw [int32?_eq_some_iff]
  constructor
  · intro h
    obtain ⟨before, after, hs, hbefore, hafter⟩ := eq_blanks_append_trim s.toList
    exact ⟨before, trim s.toList, after, hs, h, hbefore, hafter⟩
  · rintro ⟨before, numeral, after, hs, h, hbefore, hafter⟩
    rw [hs, trim_append hbefore h.not_isBlank hafter]
    exact h

end RetryTrial.Text
