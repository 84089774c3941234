import Passbook.Proofs.Number.Bounded

namespace Passbook.Decimal
variable {x z : Decimal} {n m : Bool} {c c' fuel : Nat} {e e' : Int}

/-! ## Noughts at the end of a coefficient -/

theorem dropNoughts_size (fuel c : Nat) (e : Int) :
    ((dropNoughts fuel c e).1 : ℚ) * 10 ^ (dropNoughts fuel c e).2 = c * 10 ^ e := by
  induction fuel generalizing c e with
  | zero => rfl
  | succ fuel ih =>
    simp only [dropNoughts]
    split_ifs with nought
    · have tenfold : (c : ℚ) = 10 * (c / 10 : Nat) := by
        exact_mod_cast (by omega : c = 10 * (c / 10))
      rw [ih, zpow_add₀ (by norm_num), zpow_one, tenfold]
      ring
    · rfl

theorem dropNoughts_stripped (nonzero : c ≠ 0) (enough : c < 10 ^ fuel) :
    (dropNoughts fuel c e).1 % 10 ≠ 0 := by
  induction fuel generalizing c e with
  | zero => omega
  | succ fuel ih =>
    simp only [dropNoughts]
    split_ifs with nought
    · exact ih (by omega) (by rw [pow_succ] at enough; omega)
    · exact nought

/-! ## Sizes of short numbers -/

/-- The number has at most 28 digits, besides noughts at either end. -/
def IsShort (x : Decimal) : Prop :=
  ∃ (c : Nat) (e : Int), c < 10 ^ precision ∧ |x.value| = c * 10 ^ e

/-- The number is not nought, but rounded to nought. -/
def Vanishes (x : Decimal) : Prop := x.value ≠ 0 ∧ |x.value| ≤ 10 ^ tinyExponent / 2

theorem not_vanishes (large : 1 ≤ |x.value|) : ¬x.Vanishes := by
  rintro ⟨-, small⟩
  have : (10 : ℚ) ^ tinyExponent ≤ 1 := zpow_le_one_of_nonpos₀ (by norm_num) (by decide)
  linarith

def IsHundredths (x : Decimal) : Prop := ∃ k : Int, 100 * x.value = k

theorem isHundredths_of_size (whole : ∃ k : Nat, |x.value| = k * 10 ^ (-2 : Int)) :
    x.IsHundredths := by
  obtain ⟨k, size⟩ := whole
  rcases abs_choice x.value with positive | negative
  · refine ⟨k, ?_⟩
    rw [← positive, size, Int.cast_natCast]
    norm_num
    ring
  · refine ⟨-k, ?_⟩
    rw [← neg_eq_iff_eq_neg.2 negative, size, Int.cast_neg, Int.cast_natCast]
    norm_num
    ring

theorem IsHundredths.size (whole : x.IsHundredths) :
    ∃ k : Nat, |x.value| = k * 10 ^ (-2 : Int) := by
  obtain ⟨k, hk⟩ := whole
  refine ⟨k.natAbs, ?_⟩
  have : |100 * x.value| = k.natAbs := by rw [hk, Nat.cast_natAbs, Int.cast_abs]
  rw [abs_mul, abs_of_pos (by norm_num)] at this
  rw [← this]
  norm_num
  ring

theorem size_hundredths (c : Nat) (le : -2 ≤ e) :
    ∃ k : Nat, (c : ℚ) * 10 ^ e = k * 10 ^ (-2 : Int) := by
  refine ⟨c * 10 ^ (e - -2).toNat, ?_⟩
  rw [size_eq_scaled c e (-2), min_eq_right le]

theorem size_of_fit_nought (hc : c ≠ 0) (fits : fit n c e = .ok (.finite m 0 e')) :
    (c : ℚ) * 10 ^ e ≤ 10 ^ tinyExponent / 2 := by
  have unit : (0 : ℚ) < 10 ^ tinyExponent := by positivity
  have low : reach c e < tinyExponent + precision := by
    by_contra high
    obtain ⟨-, size⟩ := pow_reach_le_fit hc (not_lt.1 high) fits
    rw [value_nought, abs_zero] at size
    exact absurd size (not_le.2 (by positivity))
  have last : max (reach c e - precision) tinyExponent = tinyExponent := by omega
  simp only [fit, if_neg hc, last] at fits
  split_ifs at fits with beyond exact digits beyond' <;>
    obtain ⟨-, nought, -⟩ := Decimal.finite.inj (Except.ok.inj fits)
  · exact absurd nought hc
  · have near : |(c : ℚ) * 10 ^ e / 10 ^ tinyExponent - _| ≤ 1 / 2 :=
      (dropDigits_near (not_le.1 exact).le).close
    rw [nought, Nat.cast_zero, Int.cast_zero, sub_zero, abs_of_nonneg (by positivity),
      div_le_iff₀ unit] at near
    linarith
  · -- more than 28 digits are left, so that a tenth of them is no nought
    have many := mt (digitCount_le_iff (by decide)).2 digits
    have : (10 : Nat) ≤ 10 ^ precision := by decide
    omega

theorem fit_isFinite (fits : fit n c e = .ok z) : z.isFinite := by
  unfold fit at fits
  dsimp only at fits
  split_ifs at fits <;> cases fits <;> rfl

/-! ## How many places are needed -/

theorem places_of_fit (fits : fit n c e = .ok (.finite m c' e')) (nonzero : c' ≠ 0) :
    ∃ (d : Nat) (f : Int), d % 10 ≠ 0 ∧ (d : ℚ) * 10 ^ f = |(finite m c' e').value| ∧
      (finite n c e).places = min (-e).toNat (-f).toNat := by
  refine ⟨(dropNoughts (digitCount c') c' e').1, (dropNoughts (digitCount c') c' e').2,
    dropNoughts_stripped nonzero (lt_pow_digitCount c'), ?_, ?_⟩
  · rw [abs_value, dropNoughts_size]
  · simp only [places, fits]

theorem places_le_two {cents : Nat} (whole : (c : ℚ) * 10 ^ e = cents * 10 ^ (-2 : Int))
    (small : cents < centsBound) : (finite n c e).places ≤ 2 := by
  obtain ⟨z, fits, finite, same⟩ := fit_units (n := n) whole small (by decide) (by decide)
  cases z with
  | infinite | nan => cases finite
  | finite m c' e' =>
  by_cases nonzero : c' = 0
  · subst nonzero
    simp [places, fits]
  obtain ⟨d, f, stripped, size, places⟩ := places_of_fit fits nonzero
  rw [places]
  have whole' : (d : ℚ) * 10 ^ f = cents * 10 ^ (-2 : Int) := by rw [size, same, abs_value, whole]
  have high : -2 ≤ f := by
    by_contra low
    -- a lower exponent is made up for by a nought at the end
    have noughts := eq_units_mul whole' (by omega)
    obtain ⟨more, hmore⟩ : ∃ more, (-2 - f).toNat = more + 1 := ⟨(-2 - f).toNat - 1, by omega⟩
    rw [hmore, pow_succ, ← mul_assoc] at noughts
    omega
  omega

theorem fit_small (fits : fit n c e = .ok z)
    (small : (c : ℚ) * 10 ^ e < 10 ^ precision * 10 ^ tinyExponent) :
    |z.value| < 10 ^ (-2 : Int) := by
  have below : (c : ℚ) * 10 ^ e < (10 ^ 27 + 1 / 2) * 10 ^ (tinyExponent + 1) := by
    refine small.trans_le ?_
    rw [zpow_add₀ (by norm_num), zpow_one, mul_comm _ (10 : ℚ), ← mul_assoc]
    exact mul_le_mul_of_nonneg_right (by norm_num [precision]) (by positivity)
  obtain ⟨_, fits', -, bounded⟩ := fit_bounded n (by decide) (by decide) below
  cases fits.symm.trans fits'
  exact bounded.trans_lt ((zpow_lt_zpow_iff_right₀ (by norm_num)).2 (by decide))

theorem fit_le {units : Nat} {unit : Int} (atMost : (c : ℚ) * 10 ^ e ≤ units * 10 ^ unit)
    (few : units < 10 ^ precision) (notTiny : tinyExponent ≤ unit) (fits : fit n c e = .ok z) :
    |z.value| ≤ units * 10 ^ unit := by
  by_cases hc : c = 0
  · rw [fit, if_pos hc] at fits
    cases fits
    rw [value_nought, abs_zero]
    positivity
  have digits : reach c e ≤ precision + unit := by
    refine reach_le_of_size_lt hc (atMost.trans_lt ?_)
    rw [zpow_add₀ (by norm_num), zpow_natCast]
    exact mul_lt_mul_of_pos_right (by exact_mod_cast few) (by positivity)
  obtain ⟨last, hlast⟩ : ∃ last, max (reach c e - precision) tinyExponent = last := ⟨_, rfl⟩
  have scale : (0 : ℚ) < 10 ^ last := by positivity
  -- The units are whole in the last digit that is kept.
  have split : (10 : ℚ) ^ unit = 10 ^ (unit - last).toNat * 10 ^ last := by
    rw [← zpow_natCast, ← zpow_add₀ (by norm_num)]
    congr 1
    omega
  have rounded (below : e ≤ last) :
      (dropDigits c (last - e).toNat : ℚ) * 10 ^ last ≤ units * 10 ^ unit := by
    have whole : (c : ℚ) * 10 ^ e / 10 ^ last ≤ ((units * 10 ^ (unit - last).toNat : Int) : ℚ) := by
      rw [div_le_iff₀ scale]
      push_cast
      rwa [mul_assoc, ← split]
    have kept := (dropDigits_near (c := c) below).le_of_le whole
    rw [split, ← mul_assoc]
    exact mul_le_mul_of_nonneg_right (by exact_mod_cast kept) scale.le
  simp only [fit, if_neg hc, hlast] at fits
  split_ifs at fits with beyond exact digits beyond' <;> cases fits <;> rw [abs_value]
  · exact atMost
  · exact rounded (not_le.1 exact).le
  · refine le_trans ?_ (rounded (not_le.1 exact).le)
    rw [zpow_add₀ (by norm_num), zpow_one, mul_comm _ (10 : ℚ), ← mul_assoc]
    exact mul_le_mul_of_nonneg_right (by exact_mod_cast Nat.div_mul_le_self _ 10) scale.le

theorem fit_short {units : Nat} {unit : Int} (size : (c : ℚ) * 10 ^ e = units * 10 ^ unit)
    (few : units < 10 ^ precision) (top : unit ≤ topExponent) (fits : fit n c e = .ok z)
    (large : 10 ^ (-2 : Int) ≤ |z.value|) : |z.value| = c * 10 ^ e := by
  have notTiny : tinyExponent ≤ unit := by
    by_contra low
    have few' : (units : ℚ) < 10 ^ precision := by exact_mod_cast few
    have small : (c : ℚ) * 10 ^ e < 10 ^ precision * 10 ^ tinyExponent := by
      calc
        (c : ℚ) * 10 ^ e = units * 10 ^ unit := size
        _ ≤ units * 10 ^ tinyExponent :=
          mul_le_mul_of_nonneg_left (zpow_le_zpow_right₀ (by norm_num) (by omega)) (by positivity)
        _ < 10 ^ precision * 10 ^ tinyExponent := mul_lt_mul_of_pos_right few' (by positivity)
    exact absurd (fit_small fits small) (not_lt.2 large)
  obtain ⟨_, fits', -, exact⟩ := fit_units (n := n) size few notTiny top
  cases fits.symm.trans fits'
  rw [exact, abs_value]

/-- If a number has at most 28 digits, no more than two places are needed only by hundredths, and by
numbers that are lost when they are rounded. -/
theorem hundredths_of_places (finite : x.isFinite) (short : x.IsShort) (places : x.places ≤ 2) :
    x.IsHundredths ∨ x.Vanishes := by
  cases x with
  | infinite | nan => cases finite
  | finite n c e =>
  by_cases written : -2 ≤ e
  · exact .inl (isHundredths_of_size (by rw [abs_value]; exact size_hundredths c written))
  obtain ⟨units, unit, few, size⟩ := short
  by_cases coarse : -2 ≤ unit
  · exact .inl (isHundredths_of_size (by rw [size]; exact size_hundredths units coarse))
  rw [abs_value] at size
  cases fits : fit n c e with
  | error fault =>
    simp only [Decimal.places, fits] at places
    omega
  | ok z =>
  cases z with
  | infinite | nan => cases fit_isFinite fits
  | finite m c' e' =>
  by_cases nonzero : c' = 0
  · subst nonzero
    by_cases hc : c = 0
    · exact .inl ⟨0, by rw [hc, value_nought]; norm_num⟩
    · refine .inr ⟨fun nought => ?_, by rw [abs_value]; exact size_of_fit_nought hc fits⟩
      have size := abs_value n c e
      rw [nought, abs_zero] at size
      exact absurd size (by positivity)
  · obtain ⟨d, f, stripped, same, needed⟩ := places_of_fit fits nonzero
    rw [needed] at places
    have one : (1 : ℚ) ≤ d := by exact_mod_cast (by omega : 1 ≤ d)
    have large : (10 : ℚ) ^ (-2 : Int) ≤ |(Decimal.finite m c' e').value| := by
      calc
        (10 : ℚ) ^ (-2 : Int) ≤ 10 ^ f := zpow_le_zpow_right₀ (by norm_num) (by omega)
        _ ≤ d * 10 ^ f := le_mul_of_one_le_left (by positivity) one
        _ = _ := same
    have top : (-2 : Int) ≤ topExponent := by decide
    refine .inl (isHundredths_of_size ?_)
    rw [abs_value, ← fit_short size few (by omega) fits large, ← same]
    exact size_hundredths d (by omega)

end Passbook.Decimal
