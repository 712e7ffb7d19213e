import Mathlib.Algebra.Order.Field.Power
import Mathlib.Algebra.Order.Floor.Semifield
import Mathlib.Data.Rat.Floor
import Mathlib.Tactic.FieldSimp
import Mathlib.Tactic.Linarith
import Mathlib.Tactic.Positivity
import Mathlib.Tactic.Ring
import RetryTrial.Binary64

/-!
# How far rounding goes

The `scale` of a positive ratio is the one power of two that brings its value between `2 ^ 52` and
`2 ^ 53`, where the nearest whole number is taken. So rounding depends on the value alone, whole
numbers below `2 ^ 53` are kept, and the error is at most half a unit of the last place: `2 ^ (e -
54)` for a value below `2 ^ e`, and never more than one part in `2 ^ 53`.
-/

namespace RetryTrial.Ratio

def value (r : Ratio) : ℚ := r.num / r.den

variable {r s : Ratio}

theorem value_ofNat (n : ℕ) : (ofNat n).value = n := by simp [value, ofNat]

theorem value_mul (r s : Ratio) : (r.mul s).value = r.value * s.value := by
  simp only [value, mul, Nat.cast_mul, div_mul_div_comm]

theorem value_div (r s : Ratio) : (r.div s).value = r.value / s.value := by
  simp only [value, div, Nat.cast_mul, div_div_div_eq]

theorem floor_eq (r : Ratio) : r.floor = ⌊r.value⌋₊ := (Nat.floor_div_eq_div r.num r.den).symm

theorem value_nonneg (r : Ratio) : 0 ≤ r.value := by
  unfold value
  positivity

section Whole

variable {num den num' den' : ℕ}

theorem abs_roundHalfEven_sub_le (hd : 0 < den) :
    |(roundHalfEven num den : ℚ) - num / den| ≤ 1 / 2 := by
  have hsplit := Nat.div_add_mod num den
  have hmod := Nat.mod_lt num hd
  have hbounds : 2 * (den * roundHalfEven num den) ≤ 2 * num + den ∧
      2 * num ≤ 2 * (den * roundHalfEven num den) + den := by
    unfold roundHalfEven
    dsimp only
    split
    · rw [Nat.mul_succ]
      omega
    · omega
  obtain ⟨hupper, hlower⟩ := hbounds
  have hd' : (0 : ℚ) < den := by exact_mod_cast hd
  have hupper' : 2 * ((den : ℚ) * roundHalfEven num den) ≤ 2 * num + den := by exact_mod_cast hupper
  have hlower' : 2 * (num : ℚ) ≤ 2 * (den * roundHalfEven num den) + den := by exact_mod_cast hlower
  have hnum : (num : ℚ) = num / den * den := by field_simp
  rw [abs_le]
  constructor
  · by_contra h
    nlinarith
  · by_contra h
    nlinarith

theorem roundHalfEven_mul (num den : ℕ) {c : ℕ} (hc : 0 < c) :
    roundHalfEven (num * c) (den * c) = roundHalfEven num den := by
  have hlt : den * c < 2 * (num % den * c) ↔ den < 2 * (num % den) := by
    rw [← Nat.mul_assoc, Nat.mul_lt_mul_right hc]
  have heq : 2 * (num % den * c) = den * c ↔ 2 * (num % den) = den := by
    rw [← Nat.mul_assoc, Nat.mul_left_inj hc.ne']
  simp only [roundHalfEven, Nat.mul_div_mul_right num den hc, Nat.mul_mod_mul_right, hlt, heq]

theorem roundHalfEven_congr (hd : 0 < den) (hd' : 0 < den') (h : num * den' = num' * den) :
    roundHalfEven num den = roundHalfEven num' den' := by
  rw [← roundHalfEven_mul num den hd', h, Nat.mul_comm den den', roundHalfEven_mul num' den' hd]

theorem roundHalfEven_one (num : ℕ) : roundHalfEven num 1 = num := by
  simp [roundHalfEven, Nat.mod_one]

end Whole

/-- A shift of the numerator or, by a negative number, of the denominator. -/
theorem shifted_eq (num den : ℕ) (s : ℤ) :
    ((num <<< s.toNat : ℕ) : ℚ) / ((den <<< (-s).toNat : ℕ) : ℚ) = num / den * 2 ^ s := by
  have hs : (2 : ℚ) ^ s = 2 ^ s.toNat / 2 ^ (-s).toNat := by
    rw [← zpow_natCast, ← zpow_natCast, ← zpow_sub₀ two_ne_zero, Int.toNat_sub_toNat_neg]
  rw [Nat.shiftLeft_eq, Nat.shiftLeft_eq, hs, Nat.cast_mul, Nat.cast_mul, div_mul_div_comm]
  push_cast
  rfl

/-- The exponent brings the value to 53 bits before the point. -/
structure Fits (r : Ratio) (s : ℤ) : Prop where
  lower : 2 ^ 52 ≤ r.value * 2 ^ s
  upper : r.value * 2 ^ s < 2 ^ 53

theorem Fits.lt_of_value_lt {s e : ℤ} (h : r.Fits s) (he : r.value < 2 ^ e) : 52 < e + s := by
  have hpow : (2 : ℚ) ^ (52 : ℤ) < 2 ^ (e + s) := by
    rw [zpow_add₀ two_ne_zero]
    calc (2 : ℚ) ^ (52 : ℤ) ≤ r.value * 2 ^ s := h.lower
      _ < 2 ^ e * 2 ^ s := mul_lt_mul_of_pos_right he (by positivity)
  exact (zpow_lt_zpow_iff_right₀ one_lt_two).mp hpow

theorem Fits.unique {s t : ℤ} (hs : r.Fits s) (ht : r.Fits t) : s = t := by
  have hv : ∀ {s : ℤ}, r.Fits s → r.value < 2 ^ (53 - s) := by
    intro s hs
    rw [zpow_sub₀ two_ne_zero, lt_div_iff₀ (by positivity)]
    exact hs.upper
  have hst := hs.lt_of_value_lt (hv ht)
  have hts := ht.lt_of_value_lt (hv hs)
  omega

theorem guess_bounds (hn : 0 < r.num) (hd : 0 < r.den) :
    2 ^ 52 ≤ r.value * 2 ^ (53 + (Nat.log2 r.den : ℤ) - Nat.log2 r.num) ∧
      r.value * 2 ^ (53 + (Nat.log2 r.den : ℤ) - Nat.log2 r.num) < 2 ^ 54 := by
  have hnl : (2 ^ Nat.log2 r.num : ℚ) ≤ r.num := by exact_mod_cast Nat.log2_self_le hn.ne'
  have hnu : (r.num : ℚ) < 2 ^ Nat.log2 r.num * 2 := by
    rw [← pow_succ]
    exact_mod_cast Nat.lt_log2_self (n := r.num)
  have hdl : (2 ^ Nat.log2 r.den : ℚ) ≤ r.den := by exact_mod_cast Nat.log2_self_le hd.ne'
  have hdu : (r.den : ℚ) < 2 ^ Nat.log2 r.den * 2 := by
    rw [← pow_succ]
    exact_mod_cast Nat.lt_log2_self (n := r.den)
  have hvalue : r.value * 2 ^ (53 + (Nat.log2 r.den : ℤ) - Nat.log2 r.num) =
      2 ^ 53 * (r.num * 2 ^ Nat.log2 r.den) / (r.den * 2 ^ Nat.log2 r.num) := by
    rw [value, zpow_sub₀ two_ne_zero, zpow_add₀ two_ne_zero, zpow_natCast, zpow_natCast]
    norm_num
    field_simp
  have hd' : (0 : ℚ) < r.den := by exact_mod_cast hd
  have hpn : (0 : ℚ) < 2 ^ Nat.log2 r.num := by positivity
  have hpd : (0 : ℚ) < 2 ^ Nat.log2 r.den := by positivity
  have hlower : (r.den : ℚ) * 2 ^ Nat.log2 r.num ≤ 2 ^ Nat.log2 r.den * 2 * r.num :=
    mul_le_mul hdu.le hnl hpn.le (by positivity)
  have hupper : (r.num : ℚ) * 2 ^ Nat.log2 r.den < 2 ^ Nat.log2 r.num * 2 * r.den :=
    mul_lt_mul hnu hdl hpd (by positivity)
  rw [hvalue, le_div_iff₀ (by positivity), div_lt_iff₀ (by positivity)]
  constructor
  · linarith
  · linarith

theorem fits_scale (hn : 0 < r.num) (hd : 0 < r.den) : r.Fits r.scale := by
  obtain ⟨hlower, hupper⟩ := guess_bounds hn hd
  unfold scale
  dsimp only
  generalize 53 + (Nat.log2 r.den : ℤ) - Nat.log2 r.num = guess at hlower hupper ⊢
  have htest : r.num <<< guess.toNat < r.den <<< (-guess).toNat <<< 53 ↔
      r.value * 2 ^ guess < 2 ^ 53 := by
    have hpos : (0 : ℚ) < (r.den <<< (-guess).toNat : ℕ) := by
      rw [Nat.shiftLeft_eq]
      positivity
    rw [value, ← shifted_eq, div_lt_iff₀ hpos, Nat.shiftLeft_eq _ 53, mul_comm]
    norm_cast
  split
  · rename_i h
    exact ⟨hlower, htest.mp h⟩
  · rename_i h
    rw [htest, not_lt] at h
    have hhalf : r.value * 2 ^ (guess - 1) = r.value * 2 ^ guess / 2 := by
      rw [zpow_sub_one₀ two_ne_zero]
      ring
    constructor
    · rw [hhalf]
      linarith
    · rw [hhalf]
      linarith

theorem nearest_of_pos (hn : 0 < r.num) (hd : 0 < r.den) :
    nearest r = ⟨roundHalfEven (r.num <<< r.scale.toNat) (r.den <<< (-r.scale).toNat) <<<
      (-r.scale).toNat, 1 <<< r.scale.toNat⟩ := by
  rw [nearest, if_neg (by omega)]

theorem nearest_of_num_eq_zero (hn : r.num = 0) : nearest r = ⟨0, 1⟩ := by
  rw [nearest, if_pos (Or.inl hn)]

theorem den_nearest_pos (r : Ratio) : 0 < (nearest r).den := by
  unfold nearest
  split
  · exact Nat.one_pos
  · simp [Nat.shiftLeft_eq]

/-- What is rounded is the value at its scale, to a whole number. -/
theorem exists_value_nearest (hn : 0 < r.num) (hd : 0 < r.den) :
    ∃ m : ℕ, (nearest r).value = m / 2 ^ r.scale ∧ |(m : ℚ) - r.value * 2 ^ r.scale| ≤ 1 / 2 := by
  refine ⟨roundHalfEven (r.num <<< r.scale.toNat) (r.den <<< (-r.scale).toNat), ?_, ?_⟩
  · have h := shifted_eq
      (roundHalfEven (r.num <<< r.scale.toNat) (r.den <<< (-r.scale).toNat)) 1 (-r.scale)
    rw [neg_neg, Nat.cast_one, div_one, zpow_neg, ← div_eq_mul_inv] at h
    rw [nearest_of_pos hn hd, value, h]
  · have hpos : 0 < r.den <<< (-r.scale).toNat := by
      rw [Nat.shiftLeft_eq]
      positivity
    rw [value, ← shifted_eq]
    exact abs_roundHalfEven_sub_le hpos

theorem abs_value_nearest_sub_le_half (hn : 0 < r.num) (hd : 0 < r.den) :
    |(nearest r).value - r.value| ≤ 1 / 2 / 2 ^ r.scale := by
  obtain ⟨m, hm, herror⟩ := exists_value_nearest hn hd
  have hpos : (0 : ℚ) < 2 ^ r.scale := by positivity
  have hdiff : (m : ℚ) / 2 ^ r.scale - r.value = (m - r.value * 2 ^ r.scale) / 2 ^ r.scale := by
    field_simp
  rw [hm, hdiff, abs_div, abs_of_pos hpos]
  gcongr

theorem abs_value_nearest_sub_le (hd : 0 < r.den) :
    |(nearest r).value - r.value| ≤ r.value / 2 ^ 53 := by
  rcases Nat.eq_zero_or_pos r.num with hn | hn
  · rw [nearest_of_num_eq_zero hn]
    simp [value, hn]
  · have hlower := (fits_scale hn hd).lower
    have hpos : (0 : ℚ) < 2 ^ r.scale := by positivity
    refine (abs_value_nearest_sub_le_half hn hd).trans ?_
    rw [div_le_iff₀ hpos]
    linarith

theorem value_nearest_pos (hd : 0 < r.den) (hv : 0 < r.value) : 0 < (nearest r).value := by
  have herror := abs_value_nearest_sub_le hd
  rw [abs_le] at herror
  linarith

theorem abs_value_nearest_sub_le_of_lt {e : ℤ} (hd : 0 < r.den) (he : r.value < 2 ^ e) :
    |(nearest r).value - r.value| ≤ 2 ^ (e - 54) := by
  rcases Nat.eq_zero_or_pos r.num with hn | hn
  · rw [nearest_of_num_eq_zero hn]
    simp only [value, hn, Nat.cast_zero, zero_div, sub_zero, abs_zero]
    positivity
  · have hscale := (fits_scale hn hd).lt_of_value_lt he
    have hunit : (1 : ℚ) / 2 / 2 ^ r.scale = 2 ^ (-1 - r.scale) := by
      rw [zpow_sub₀ two_ne_zero, zpow_neg_one, one_div]
    refine (abs_value_nearest_sub_le_half hn hd).trans ?_
    rw [hunit]
    exact zpow_le_zpow_right₀ one_le_two (by omega)

theorem nearest_congr (hr : 0 < r.den) (hs : 0 < s.den) (h : r.value = s.value) :
    nearest r = nearest s := by
  have hr' : (r.den : ℚ) ≠ 0 := by exact_mod_cast hr.ne'
  have hs' : (s.den : ℚ) ≠ 0 := by exact_mod_cast hs.ne'
  have hcross : r.num * s.den = s.num * r.den := by
    rw [value, value, div_eq_div_iff hr' hs'] at h
    exact_mod_cast h
  rcases Nat.eq_zero_or_pos r.num with hn | hn
  · have hn' : s.num = 0 := by
      rw [hn, Nat.zero_mul] at hcross
      exact (Nat.mul_eq_zero.mp hcross.symm).resolve_right hr.ne'
    rw [nearest_of_num_eq_zero hn, nearest_of_num_eq_zero hn']
  · have hn' : 0 < s.num := by
      by_contra h0
      rw [Nat.eq_zero_of_not_pos h0, Nat.zero_mul] at hcross
      exact (Nat.mul_pos hn hs).ne' hcross
    have hscale : r.scale = s.scale := by
      have hfits := fits_scale hn' hs
      exact (fits_scale hn hr).unique ⟨h ▸ hfits.lower, h ▸ hfits.upper⟩
    have hround : roundHalfEven (r.num <<< s.scale.toNat) (r.den <<< (-s.scale).toNat) =
        roundHalfEven (s.num <<< s.scale.toNat) (s.den <<< (-s.scale).toNat) := by
      simp only [Nat.shiftLeft_eq]
      apply roundHalfEven_congr (by positivity) (by positivity)
      rw [Nat.mul_mul_mul_comm, hcross, Nat.mul_mul_mul_comm]
    rw [nearest_of_pos hn hr, nearest_of_pos hn' hs, hscale, hround]

theorem value_nearest_ofNat {n : ℕ} (h : n < 2 ^ 53) : (nearest (ofNat n)).value = n := by
  rcases Nat.eq_zero_or_pos n with rfl | hn
  · rw [nearest_of_num_eq_zero rfl]
    simp [value]
  · have hd : 0 < (ofNat n).den := Nat.one_pos
    have hfits : (ofNat n).Fits (ofNat n).scale := fits_scale hn hd
    have hlt : (ofNat n).value < 2 ^ (53 : ℤ) := by
      rw [value_ofNat]
      exact_mod_cast h
    have hscale := hfits.lt_of_value_lt hlt
    have hdown : (-(ofNat n).scale).toNat = 0 := by omega
    rw [nearest_of_pos hn hd, hdown, value]
    simp only [ofNat, Nat.shiftLeft_eq, pow_zero, mul_one, roundHalfEven_one]
    push_cast
    field_simp

end RetryTrial.Ratio
