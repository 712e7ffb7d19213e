import RetryTrial.Proofs.Binary64.Rounding

/-!
# Percentages in double precision

Up to `2 ^ 46` the rounding errors of the quotient and of its hundredfold are together smaller than
the distance of a fractional percentage from the next whole one, so `floorPercent` is the exact
floor there. A whole percentage is rounded like the same number of hundredths; of these 29, 57 and
58 come out one short, and all others are kept. Beyond `2 ^ 46` the floor is missed by at most one.
-/

namespace RetryTrial
open Ratio

def roundedShare (part total : ℕ) : Ratio :=
  nearest (div (nearest (ofNat part)) (nearest (ofNat total)))

def roundedPercent (part total : ℕ) : Ratio := nearest (mul (roundedShare part total) (ofNat 100))

variable {part total : ℕ}

theorem floorPercent_eq_floor (ht : 0 < total) :
    floorPercent part total = ⌊(roundedPercent part total).value⌋₊ := by
  rw [floorPercent, if_neg ht.ne']
  exact floor_eq _

theorem value_nearest_ofNat_pos (ht : 0 < total) : 0 < (nearest (ofNat total)).value := by
  apply value_nearest_pos Nat.one_pos
  rw [value_ofNat]
  exact_mod_cast ht

theorem den_quotient_pos (ht : 0 < total) :
    0 < (div (nearest (ofNat part)) (nearest (ofNat total))).den := by
  have hnum : (nearest (ofNat total)).num ≠ 0 := by
    intro h0
    have hvalue := value_nearest_ofNat_pos ht
    simp [value, h0] at hvalue
  exact Nat.mul_pos (den_nearest_pos _) (Nat.pos_of_ne_zero hnum)

theorem value_quotient (hp : part < 2 ^ 53) (ht : total < 2 ^ 53) :
    (div (nearest (ofNat part)) (nearest (ofNat total))).value = part / total := by
  rw [value_div, value_nearest_ofNat hp, value_nearest_ofNat ht]

theorem den_percent_pos (part total : ℕ) : 0 < (mul (roundedShare part total) (ofNat 100)).den :=
  Nat.mul_pos (den_nearest_pos _) Nat.one_pos

theorem value_percent (part total : ℕ) :
    (mul (roundedShare part total) (ofNat 100)).value = (roundedShare part total).value * 100 := by
  rw [value_mul, value_ofNat]
  norm_num

section Whole

variable {k : ℕ}

/-- A whole percentage is rounded like the same number of hundredths. -/
theorem floorPercent_eq_hundredths (hk : k ≤ 100) (ht : 0 < total) (ht' : total < 2 ^ 53)
    (h : 100 * part = k * total) : floorPercent part total = floorPercent k 100 := by
  have hle : k * total ≤ 100 * total := Nat.mul_le_mul_right total hk
  have hp : part < 2 ^ 53 := by omega
  have hk' : k < 2 ^ 53 := by omega
  have hvalue : (div (nearest (ofNat part)) (nearest (ofNat total))).value =
      (div (nearest (ofNat k)) (nearest (ofNat 100))).value := by
    have htotal : (total : ℚ) ≠ 0 := by exact_mod_cast ht.ne'
    have hcross : (part : ℚ) * 100 = k * total := by
      rw [mul_comm]
      exact_mod_cast h
    rw [value_quotient hp ht', value_quotient hk' (by norm_num), Nat.cast_ofNat,
      div_eq_div_iff htotal (by norm_num), hcross]
  have hshare : roundedShare part total = roundedShare k 100 :=
    nearest_congr (den_quotient_pos ht) (den_quotient_pos (by norm_num)) hvalue
  have hpercent : roundedPercent part total = roundedPercent k 100 := by
    rw [roundedPercent, roundedPercent, hshare]
  rw [floorPercent_eq_floor ht, floorPercent_eq_floor (by norm_num), hpercent]

/-- The hundredths whose percentage comes out one short. -/
def shortHundredths : List ℕ := [29, 57, 58]

theorem floorPercent_hundredths :
    ∀ k ≤ 100, floorPercent k 100 = if k ∈ shortHundredths then k - 1 else k := by
  decide +kernel

end Whole

section Fractional

theorem abs_value_roundedShare_sub_le (hlt : part < total) (ht : total < 2 ^ 53) :
    |(roundedShare part total).value - part / total| ≤ 2 ^ (-54 : ℤ) := by
  have htotal : (0 : ℚ) < total := by exact_mod_cast Nat.zero_lt_of_lt hlt
  have hvalue := value_quotient (hlt.trans ht) ht
  have hone : (div (nearest (ofNat part)) (nearest (ofNat total))).value < 2 ^ (0 : ℤ) := by
    rw [hvalue, zpow_zero, div_lt_one htotal]
    exact_mod_cast hlt
  have herror := abs_value_nearest_sub_le_of_lt (den_quotient_pos (Nat.zero_lt_of_lt hlt)) hone
  rwa [hvalue] at herror

theorem abs_value_roundedPercent_sub_lt (hlt : part < total) (ht : total < 2 ^ 53) :
    |(roundedPercent part total).value - 100 * part / total| < 1 / 2 ^ 46 := by
  have htotal : (0 : ℚ) < total := by exact_mod_cast Nat.zero_lt_of_lt hlt
  have hshare := abs_value_roundedShare_sub_le hlt ht
  have hone : (part : ℚ) / total < 1 := by
    rw [div_lt_one htotal]
    exact_mod_cast hlt
  have hbelow : (mul (roundedShare part total) (ofNat 100)).value < 2 ^ (7 : ℤ) := by
    rw [value_percent]
    norm_num at hshare ⊢
    rw [abs_le] at hshare
    linarith
  have hpercent := abs_value_nearest_sub_le_of_lt (den_percent_pos part total) hbelow
  rw [value_percent, ← roundedPercent] at hpercent
  have hexact : 100 * (part : ℚ) / total = part / total * 100 := by ring
  rw [hexact]
  norm_num at hshare hpercent ⊢
  rw [abs_le] at hshare hpercent
  rw [abs_lt]
  constructor
  · linarith
  · linarith

theorem floorPercent_of_not_dvd (hle : part ≤ total) (ht : total ≤ 2 ^ 46)
    (h : ¬ total ∣ 100 * part) : floorPercent part total = 100 * part / total := by
  have hne : part ≠ total := by
    rintro rfl
    exact h (Nat.dvd_mul_left part 100)
  have hlt : part < total := lt_of_le_of_ne hle hne
  have hpos : 0 < total := Nat.zero_lt_of_lt hlt
  have hmod : 0 < 100 * part % total := Nat.pos_of_ne_zero fun h0 => h (Nat.dvd_of_mod_eq_zero h0)
  have hmod' := Nat.mod_lt (100 * part) hpos
  have hsplit := Nat.div_add_mod' (100 * part) total
  have htotal : (0 : ℚ) < total := by exact_mod_cast hpos
  have hinv : (1 : ℚ) / 2 ^ 46 ≤ 1 / total := by
    apply one_div_le_one_div_of_le htotal
    exact_mod_cast ht
  have hlower : ((100 * part / total : ℕ) : ℚ) + 1 / total ≤ 100 * part / total := by
    rw [le_div_iff₀ htotal, add_mul, one_div_mul_cancel htotal.ne']
    have hnat : 100 * part / total * total + 1 ≤ 100 * part := by omega
    exact_mod_cast hnat
  have hupper : 100 * part / total ≤ ((100 * part / total : ℕ) : ℚ) + 1 - 1 / total := by
    rw [div_le_iff₀ htotal, sub_mul, one_div_mul_cancel htotal.ne', le_sub_iff_add_le]
    have hnat : 100 * part + 1 ≤ (100 * part / total + 1) * total := by
      rw [add_mul, one_mul]
      omega
    exact_mod_cast hnat
  have herror := abs_value_roundedPercent_sub_lt hlt (by omega)
  rw [abs_lt] at herror
  rw [floorPercent_eq_floor hpos, Nat.floor_eq_iff (value_nonneg _)]
  constructor
  · linarith
  · linarith

end Fractional

section AnyCounts

/-- Each of two numbers is at most `c` times the other. -/
structure Near (c x y : ℚ) : Prop where
  le : x ≤ c * y
  ge : y ≤ c * x

variable {c d x y z w : ℚ}

theorem Near.trans (h : Near c x y) (h' : Near d y z) (hc : 0 ≤ c) (hd : 0 ≤ d) :
    Near (c * d) x z where
  le :=
    calc x ≤ c * y := h.le
      _ ≤ c * (d * z) := mul_le_mul_of_nonneg_left h'.le hc
      _ = c * d * z := (mul_assoc c d z).symm
  ge :=
    calc z ≤ d * y := h'.ge
      _ ≤ d * (c * x) := mul_le_mul_of_nonneg_left h.ge hd
      _ = c * d * x := by ring

theorem Near.mul_right (h : Near c x y) (hz : 0 ≤ z) : Near c (x * z) (y * z) where
  le := by
    rw [← mul_assoc]
    exact mul_le_mul_of_nonneg_right h.le hz
  ge := by
    rw [← mul_assoc]
    exact mul_le_mul_of_nonneg_right h.ge hz

theorem Near.inv (h : Near c x y) (hx : 0 < x) (hy : 0 < y) : Near c x⁻¹ y⁻¹ where
  le := by
    rw [← div_eq_mul_inv, inv_eq_one_div, div_le_div_iff₀ hx hy, one_mul]
    exact h.ge
  ge := by
    rw [← div_eq_mul_inv, inv_eq_one_div, div_le_div_iff₀ hy hx, one_mul]
    exact h.le

theorem Near.div (h : Near c x y) (h' : Near d z w) (hc : 0 ≤ c) (hd : 0 ≤ d) (hy : 0 ≤ y)
    (hz : 0 < z) (hw : 0 < w) : Near (c * d) (x / z) (y / w) := by
  have hnum : Near c (x / z) (y / z) := h.mul_right (inv_nonneg.mpr hz.le)
  have hden : Near d (y / z) (y / w) := by
    rw [div_eq_inv_mul, div_eq_inv_mul]
    exact (h'.inv hz hw).mul_right hy
  exact hnum.trans hden hc hd

/-- The factor by which rounding changes a number at most. -/
def slack : ℚ := 1 + 1 / 2 ^ 52

theorem slack_nonneg : 0 ≤ slack := by norm_num [slack]

theorem near_nearest {r : Ratio} (hd : 0 < r.den) : Near slack (nearest r).value r.value := by
  have hvalue := r.value_nonneg
  have herror := abs_value_nearest_sub_le hd
  norm_num at herror
  rw [abs_le] at herror
  constructor
  · norm_num [slack]
    linarith
  · norm_num [slack]
    linarith

/-- Four roundings lead to the percentage: of the counts, of the quotient and of the product. -/
theorem near_roundedPercent (part : ℕ) (ht : 0 < total) :
    Near (slack * (slack * (slack * slack))) (roundedPercent part total).value
      (part / total * 100) := by
  have hslack := slack_nonneg
  have hpart : Near slack (nearest (ofNat part)).value part := by
    have h := near_nearest (r := ofNat part) Nat.one_pos
    rwa [value_ofNat] at h
  have htotal : Near slack (nearest (ofNat total)).value total := by
    have h := near_nearest (r := ofNat total) Nat.one_pos
    rwa [value_ofNat] at h
  have hquotient : Near (slack * slack)
      (div (nearest (ofNat part)) (nearest (ofNat total))).value (part / total) := by
    rw [value_div]
    exact hpart.div htotal hslack hslack (by positivity) (value_nearest_ofNat_pos ht)
      (by exact_mod_cast ht)
  have hshare : Near (slack * (slack * slack)) (roundedShare part total).value (part / total) :=
    (near_nearest (den_quotient_pos ht)).trans hquotient hslack (by positivity)
  have hproduct : Near slack (roundedPercent part total).value
      ((roundedShare part total).value * 100) := by
    have h := near_nearest (den_percent_pos part total)
    rwa [value_percent] at h
  exact hproduct.trans (hshare.mul_right (by norm_num)) hslack (by positivity)

theorem abs_value_roundedPercent_sub_lt_one (hle : part ≤ total) (ht : 0 < total) :
    |(roundedPercent part total).value - 100 * part / total| < 1 := by
  have htotal : (0 : ℚ) < total := by exact_mod_cast ht
  have hone : (part : ℚ) / total ≤ 1 := by
    rw [div_le_one htotal]
    exact_mod_cast hle
  have hexact : 100 * (part : ℚ) / total = part / total * 100 := by ring
  have hnear := near_roundedPercent part ht
  have hslack : slack * (slack * (slack * slack)) ≤ 1 + 1 / 2 ^ 49 := by norm_num [slack]
  have hnonneg : (0 : ℚ) ≤ part / total * 100 := by positivity
  have hupper := hnear.le.trans (mul_le_mul_of_nonneg_right hslack hnonneg)
  have hlower := hnear.ge.trans (mul_le_mul_of_nonneg_right hslack (value_nonneg _))
  rw [hexact, abs_lt]
  norm_num at hupper hlower
  constructor
  · linarith
  · linarith

theorem floorPercent_within_one (hle : part ≤ total) (ht : 0 < total) :
    floorPercent part total ≤ 100 * part / total + 1 ∧
      100 * part / total ≤ floorPercent part total + 1 := by
  have herror := abs_value_roundedPercent_sub_lt_one hle ht
  have hfloor : 100 * part / total = ⌊100 * (part : ℚ) / total⌋₊ := by
    rw [← Nat.floor_div_eq_div (K := ℚ), Nat.cast_mul, Nat.cast_ofNat]
  have hexact : (0 : ℚ) ≤ 100 * part / total := by positivity
  rw [abs_lt] at herror
  rw [floorPercent_eq_floor ht, hfloor, ← Nat.floor_add_one hexact,
    ← Nat.floor_add_one (value_nonneg _)]
  constructor
  · exact Nat.floor_mono (by linarith)
  · exact Nat.floor_mono (by linarith)

end AnyCounts

/-- The share is exactly one of those whose percentage comes out one short. -/
def FallsShort (part total : ℕ) : Prop := ∃ k ∈ shortHundredths, 100 * part = k * total

theorem floorPercent_of_fallsShort (ht : 0 < total) (ht' : total < 2 ^ 53)
    (h : FallsShort part total) : floorPercent part total = 100 * part / total - 1 := by
  obtain ⟨k, hk, hpart⟩ := h
  have hall : ∀ k ∈ shortHundredths, k ≤ 100 := by decide
  have hk' := hall k hk
  rw [floorPercent_eq_hundredths hk' ht ht' hpart, floorPercent_hundredths k hk', if_pos hk, hpart,
    Nat.mul_div_cancel k ht]

/-- Up to `2 ^ 46`, and but for three shares, the percentage is the exact floor. -/
theorem floorPercent_of_not_fallsShort (hle : part ≤ total) (ht : 0 < total) (ht' : total ≤ 2 ^ 46)
    (h : ¬ FallsShort part total) : floorPercent part total = 100 * part / total := by
  by_cases hdvd : total ∣ 100 * part
  · obtain ⟨k, hk⟩ := hdvd
    rw [mul_comm total] at hk
    have hk' : k ≤ 100 := by
      apply Nat.le_of_mul_le_mul_right _ ht
      omega
    have hshort : k ∉ shortHundredths := fun hmem => h ⟨k, hmem, hk⟩
    rw [floorPercent_eq_hundredths hk' ht (by omega) hk, floorPercent_hundredths k hk',
      if_neg hshort, hk, Nat.mul_div_cancel k ht]
  · exact floorPercent_of_not_dvd hle ht' hdvd

end RetryTrial
