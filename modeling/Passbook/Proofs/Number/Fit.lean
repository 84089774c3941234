import Passbook.Proofs.Number.Cents
import Passbook.Proofs.Number.HalfEven

namespace Passbook

theorem dropDigits_nearest (c k : Nat) : IsNearest ((c : ℚ) / 10 ^ k) (dropDigits c k : Nat) := by
  unfold dropDigits
  split_ifs with short
  · -- The quotient is below a tenth.
    have tenth : 10 * c < 10 ^ k := by
      calc
        10 * c < 10 * 10 ^ digitCount c := by have := lt_pow_digitCount c; omega
        _ = 10 ^ (digitCount c + 1) := by rw [pow_succ, Nat.mul_comm]
        _ ≤ 10 ^ k := Nat.pow_le_pow_right (by norm_num) short
    have small : (10 : ℚ) * c < 10 ^ k := by exact_mod_cast tenth
    refine .inl ?_
    rw [Nat.cast_zero, Int.cast_zero, sub_zero, abs_of_nonneg (by positivity),
      div_lt_iff₀ (by positivity)]
    linarith
  · have := divHalfEven_nearest c (show 0 < 10 ^ k by positivity)
    rwa [Nat.cast_pow, Nat.cast_ofNat] at this

theorem dropDigits_mul (n k : Nat) : dropDigits (n * 10 ^ k) k = n := by
  have near := dropDigits_nearest (n * 10 ^ k) k
  rw [Nat.cast_mul, Nat.cast_pow, Nat.cast_ofNat, mul_div_cancel_right₀ _ (by positivity)] at near
  exact_mod_cast near.unique (IsNearest.self n)

namespace Decimal
variable {n : Bool} {c units : Nat} {e unit : Int}

/-! ## Whole units are exact -/

theorem reach_le_units {digits : Nat} (hc : c ≠ 0) (whole : (c : ℚ) * 10 ^ e = units * 10 ^ unit)
    (small : units < 10 ^ digits) : reach c e ≤ unit + digits := by
  have size : (units : ℚ) < 10 ^ digits := by exact_mod_cast small
  have : (10 : ℚ) ^ (reach c e - 1) < 10 ^ (unit + digits) := by
    calc
      (10 : ℚ) ^ (reach c e - 1) ≤ c * 10 ^ e := pow_reach_le_size hc e
      _ = units * 10 ^ unit := whole
      _ < 10 ^ digits * 10 ^ unit := mul_lt_mul_of_pos_right size (by positivity)
      _ = 10 ^ (unit + digits) := by rw [zpow_add₀ (by norm_num), zpow_natCast, mul_comm]
  have := (zpow_lt_zpow_iff_right₀ (by norm_num)).1 this
  omega

theorem eq_units_mul (whole : (c : ℚ) * 10 ^ e = units * 10 ^ unit) (le : e ≤ unit) :
    c = units * 10 ^ (unit - e).toNat := by
  have split : (10 : ℚ) ^ unit = 10 ^ (unit - e).toNat * 10 ^ e := by
    rw [← zpow_natCast, ← zpow_add₀ (by norm_num)]
    congr 1
    omega
  rw [split, ← mul_assoc] at whole
  exact_mod_cast mul_right_cancel₀ (by positivity) whole

theorem coefficientAt_units (whole : (c : ℚ) * 10 ^ e = units * 10 ^ unit) :
    coefficientAt c e unit = units := by
  have pos : (0 : ℚ) < 10 ^ unit := by positivity
  unfold coefficientAt
  split_ifs with zero le
  · rw [zero, Nat.cast_zero, zero_mul, zero_eq_mul] at whole
    exact_mod_cast (whole.resolve_right pos.ne').symm
  · have := eq_units_mul whole.symm le
    rw [Nat.pow_eq, ← this]
  · rw [eq_units_mul whole (by omega), dropDigits_mul]

theorem fit_units (whole : (c : ℚ) * 10 ^ e = units * 10 ^ unit) (small : units < centsBound)
    (tiny : tinyExponent ≤ unit) (top : unit ≤ topExponent) :
    ∃ z, fit n c e = .ok z ∧ z.isFinite ∧ z.value = (finite n c e).value := by
  by_cases hc : c = 0
  · refine ⟨_, by rw [fit, if_pos hc], rfl, ?_⟩
    rw [hc, value_nought, value_nought]
  have digits : reach c e ≤ unit + precision := reach_le_units hc whole small
  have noOverflow : ¬topExponent < reach c e - precision := by omega
  obtain ⟨last, hlast⟩ : ∃ last, max (reach c e - precision) tinyExponent = last := ⟨_, rfl⟩
  simp only [fit, if_neg hc, if_neg noOverflow, hlast]
  by_cases exact : last ≤ e
  · exact ⟨_, if_pos exact, rfl, rfl⟩
  -- Only noughts are dropped, since the last of 28 digits stands no higher than the units.
  obtain ⟨drop, hdrop⟩ : ∃ drop : Nat, last - e = drop := ⟨_, (Int.toNat_of_nonneg (by omega)).symm⟩
  obtain ⟨rest, rfl⟩ : ∃ rest, c = rest * 10 ^ drop := by
    have noughts : (unit - e).toNat = (unit - last).toNat + drop := by omega
    refine ⟨units * 10 ^ (unit - last).toNat, ?_⟩
    rw [mul_assoc, ← pow_add, ← noughts]
    exact eq_units_mul whole (by omega)
  have shifted : ((rest * 10 ^ drop : Nat) : ℚ) * 10 ^ e = rest * 10 ^ last := by
    have split : last = drop + e := by omega
    rw [split, zpow_add₀ (by norm_num), zpow_natCast]
    push_cast
    ring
  have fits : digitCount rest ≤ precision := by
    rw [digitCount_le_iff (by decide)]
    have : (rest : ℚ) * 10 ^ last < 10 ^ precision * 10 ^ last := by
      calc
        (rest : ℚ) * 10 ^ last = ((rest * 10 ^ drop : Nat) : ℚ) * 10 ^ e := shifted.symm
        _ < 10 ^ reach (rest * 10 ^ drop) e := size_lt_pow_reach _ e
        _ ≤ 10 ^ ((precision : Int) + last) := zpow_le_zpow_right₀ (by norm_num) (by omega)
        _ = 10 ^ precision * 10 ^ last := by rw [zpow_add₀ (by norm_num), zpow_natCast]
    exact_mod_cast lt_of_mul_lt_mul_right this (by positivity)
  refine ⟨_, by rw [if_neg exact, hdrop, Int.toNat_natCast, dropDigits_mul, if_pos fits], rfl, ?_⟩
  simp only [Decimal.value, shifted]

/-! ## Where numbers overflow -/

/-- Halfway between the greatest coefficient of 28 digits and `10 ^ 28`, in the top exponent. -/
def overflowBound : ℚ := (10 ^ precision - 1 / 2) * 10 ^ topExponent

theorem lt_overflowBound_of_reach (h : reach c e < topExponent + precision) :
    (c : ℚ) * 10 ^ e < overflowBound := by
  have pos : (0 : ℚ) < 10 ^ topExponent := by positivity
  calc
    (c : ℚ) * 10 ^ e < 10 ^ reach c e := size_lt_pow_reach c e
    _ ≤ 10 ^ (((precision - 1 : Nat) : Int) + topExponent) :=
      zpow_le_zpow_right₀ (by norm_num) (by simp only [precision] at h ⊢; omega)
    _ = 10 ^ (precision - 1) * 10 ^ topExponent := by rw [zpow_add₀ (by norm_num), zpow_natCast]
    _ ≤ overflowBound := mul_le_mul_of_nonneg_right (by norm_num [precision]) pos.le

theorem overflowBound_le_of_reach (hc : c ≠ 0) (h : topExponent + precision < reach c e) :
    overflowBound ≤ c * 10 ^ e := by
  have pos : (0 : ℚ) < 10 ^ topExponent := by positivity
  calc
    overflowBound ≤ 10 ^ precision * 10 ^ topExponent :=
      mul_le_mul_of_nonneg_right (by norm_num) pos.le
    _ = 10 ^ ((precision : Int) + topExponent) := by rw [zpow_add₀ (by norm_num), zpow_natCast]
    _ ≤ 10 ^ (reach c e - 1) := zpow_le_zpow_right₀ (by norm_num) (by omega)
    _ ≤ c * 10 ^ e := pow_reach_le_size hc e

theorem dropDigits_near {last : Int} (le : e ≤ last) :
    IsNearest ((c : ℚ) * 10 ^ e / 10 ^ last) (dropDigits c (last - e).toNat : Nat) := by
  have split : (10 : ℚ) ^ last = 10 ^ (last - e).toNat * 10 ^ e := by
    rw [← zpow_natCast, ← zpow_add₀ (by norm_num)]
    congr 1
    omega
  rw [split, mul_div_mul_right _ _ (by positivity)]
  exact dropDigits_nearest c _

theorem fit_of_reach_lt (n : Bool) (hc : c ≠ 0) (h : reach c e < topExponent + precision) :
    ∃ z, fit n c e = .ok z := by
  have room : tinyExponent < topExponent := by decide
  have noOverflow : ¬topExponent < reach c e - precision := by omega
  have noOverflow' : ¬topExponent < max (reach c e - precision) tinyExponent + 1 := by omega
  simp only [fit, if_neg hc, if_neg noOverflow, if_neg noOverflow']
  split_ifs <;> exact ⟨_, rfl⟩

theorem last_of_reach_eq (h : reach c e = topExponent + precision) :
    max (reach c e - precision) tinyExponent = topExponent := by
  have : tinyExponent < topExponent := by decide
  omega

theorem fit_of_reach_eq (n : Bool) (hc : c ≠ 0) (h : reach c e = topExponent + precision)
    (rounds : e < topExponent) :
    (∃ z, fit n c e = .ok z) ↔ dropDigits c (topExponent - e).toNat < 10 ^ precision := by
  have noOverflow : ¬topExponent < reach c e - precision := by omega
  have atTop : topExponent < topExponent + 1 := by omega
  rw [← digitCount_le_iff (by decide)]
  simp only [fit, if_neg hc, if_neg noOverflow, last_of_reach_eq h, if_neg (not_le.2 rounds),
    if_pos atTop]
  split_ifs with fits <;> simp [fits]

/-- The odd number before `10 ^ 28` does not win a tie against it. -/
theorem lt_pow_iff_of_nearest {x : ℚ} {k : Nat} (near : IsNearest x k) :
    k < 10 ^ precision ↔ x < 10 ^ precision - 1 / 2 := by
  constructor
  · intro small
    have below : (k : ℚ) + 1 ≤ 10 ^ precision := by exact_mod_cast small
    rcases near with close | ⟨half, even⟩
    · have := (abs_lt.1 close).2
      rw [Int.cast_natCast] at this
      linarith
    · have := (abs_le.1 half.le).2
      rw [Int.cast_natCast] at this
      refine lt_of_le_of_ne (by linarith) fun tie => ?_
      have : (k : ℚ) + 1 = 10 ^ precision := by linarith
      have : k + 1 = 10 ^ precision := by exact_mod_cast this
      have odd : k = 9999999999999999999999999999 := by simpa [precision] using this
      rw [odd, Int.even_coe_nat] at even
      revert even
      decide
  · intro small
    have := near.close
    have := (abs_le.1 this).1
    rw [Int.cast_natCast] at this
    have : (k : ℚ) < 10 ^ precision := by linarith
    exact_mod_cast this

theorem lt_overflowBound_of_top (h : reach c e = topExponent + precision) (le : topExponent ≤ e) :
    (c : ℚ) * 10 ^ e < overflowBound := by
  have unit : (0 : ℚ) < 10 ^ topExponent := by positivity
  obtain ⟨units, hunits⟩ : ∃ units : Nat, (c : ℚ) * 10 ^ e = units * 10 ^ topExponent := by
    refine ⟨c * 10 ^ (e - topExponent).toNat, ?_⟩
    rw [size_eq_scaled c e topExponent, min_eq_right le]
  have small : (units : ℚ) * 10 ^ topExponent < 10 ^ precision * 10 ^ topExponent := by
    calc
      (units : ℚ) * 10 ^ topExponent = c * 10 ^ e := hunits.symm
      _ < 10 ^ reach c e := size_lt_pow_reach c e
      _ = 10 ^ precision * 10 ^ topExponent := by
        rw [h, add_comm, zpow_add₀ (by norm_num), zpow_natCast]
  have digits : units < 10 ^ precision := by
    exact_mod_cast lt_of_mul_lt_mul_right small unit.le
  rw [hunits, overflowBound]
  exact mul_lt_mul_of_pos_right ((lt_pow_iff_of_nearest (IsNearest.self units)).1 digits) unit

theorem fit_ok_iff : (∃ z, fit n c e = .ok z) ↔ (c : ℚ) * 10 ^ e < overflowBound := by
  have unit : (0 : ℚ) < 10 ^ topExponent := by positivity
  by_cases hc : c = 0
  · have : (0 : ℚ) < overflowBound := mul_pos (by norm_num [precision]) unit
    simp [fit, hc, this]
  rcases lt_trichotomy (reach c e) (topExponent + precision) with below | top | above
  · simp only [fit_of_reach_lt n hc below, lt_overflowBound_of_reach below]
  · rcases lt_or_ge e topExponent with rounds | exact
    · rw [fit_of_reach_eq n hc top rounds, lt_pow_iff_of_nearest (dropDigits_near rounds.le),
        div_lt_iff₀ unit, overflowBound]
    · have noOverflow : ¬topExponent < reach c e - precision := by omega
      have fits : fit n c e = .ok (finite n c e) := by
        simp only [fit, if_neg hc, if_neg noOverflow, last_of_reach_eq top, if_pos exact]
      simp [fits, lt_overflowBound_of_top top exact]
  · have noFit : ¬∃ z, fit n c e = .ok z := by
      rintro ⟨z, h⟩
      rw [fit, if_neg hc, if_pos (by omega)] at h
      cases h
    simp only [noFit, not_lt.2 (overflowBound_le_of_reach hc above)]

end Decimal

end Passbook
