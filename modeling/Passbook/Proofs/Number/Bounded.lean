import Passbook.Proofs.Number.Whole

/-!
# Sums that stop growing

A decimal of 28 digits loses what is added to it once that is less than half a unit of its last
digit. So a balance that grows by amounts of limited size never overflows.
-/

namespace Passbook.Decimal
variable {x y : Decimal} {n m : Bool} {c d : Nat} {e f : Int}

theorem reach_le_of_size_lt (hc : c ≠ 0) (small : (c : ℚ) * 10 ^ e < 10 ^ f) : reach c e ≤ f := by
  have := (pow_reach_le_size hc e).trans_lt small
  rw [zpow_lt_zpow_iff_right₀ (by norm_num)] at this
  omega

theorem dropDigits_bounded {last : Int} (le : e ≤ last)
    (digits : reach c e ≤ last + precision) (atMost : last ≤ f)
    (small : (c : ℚ) * 10 ^ e < (10 ^ 27 + 1 / 2) * 10 ^ f) :
    (dropDigits c (last - e).toNat : ℚ) * 10 ^ last ≤ 10 ^ (27 + f) := by
  have near := dropDigits_near (c := c) le
  have unit : (0 : ℚ) < 10 ^ last := by positivity
  have target : (10 : ℚ) ^ (27 + f) = 10 ^ 27 * 10 ^ f := by
    rw [zpow_add₀ (by norm_num)]
    rfl
  rcases atMost.lt_or_eq with below | rfl
  · have whole : (c : ℚ) * 10 ^ e / 10 ^ last ≤ ((10 ^ 28 : Int) : ℚ) := by
      rw [div_le_iff₀ unit]
      calc
        (c : ℚ) * 10 ^ e ≤ 10 ^ reach c e := (size_lt_pow_reach c e).le
        _ ≤ 10 ^ (28 + last) :=
          zpow_le_zpow_right₀ (by norm_num) (by simp only [precision] at digits; omega)
        _ = ((10 ^ 28 : Int) : ℚ) * 10 ^ last := by rw [zpow_add₀ (by norm_num)]; norm_num
    have kept : (dropDigits c (last - e).toNat : ℚ) ≤ 10 ^ 28 := by
      exact_mod_cast near.le_of_le whole
    calc
      (dropDigits c (last - e).toNat : ℚ) * 10 ^ last ≤ 10 ^ 28 * 10 ^ last :=
        mul_le_mul_of_nonneg_right kept unit.le
      _ = 10 ^ (28 + last) := by rw [zpow_add₀ (by norm_num)]; rfl
      _ ≤ 10 ^ (27 + f) := zpow_le_zpow_right₀ (by norm_num) (by omega)
  · have half : (c : ℚ) * 10 ^ e / 10 ^ last < ((10 ^ 27 : Int) : ℚ) + 1 / 2 := by
      rw [div_lt_iff₀ unit]
      exact_mod_cast small
    have kept : (dropDigits c (last - e).toNat : ℚ) ≤ 10 ^ 27 := by
      exact_mod_cast near.le_of_lt_half half
    rw [target]
    exact mul_le_mul_of_nonneg_right kept unit.le

theorem exact_bounded (kept : reach c e - precision ≤ e)
    (small : (c : ℚ) * 10 ^ e < (10 ^ 27 + 1 / 2) * 10 ^ f) : (c : ℚ) * 10 ^ e ≤ 10 ^ (27 + f) := by
  rcases lt_or_ge (reach c e) (28 + f) with below | top
  · calc
      (c : ℚ) * 10 ^ e ≤ 10 ^ reach c e := (size_lt_pow_reach c e).le
      _ ≤ 10 ^ (27 + f) := zpow_le_zpow_right₀ (by norm_num) (by omega)
  · have unit : (0 : ℚ) < 10 ^ f := by positivity
    have le : f ≤ e := by
      simp only [precision] at kept
      omega
    have whole : (c : ℚ) * 10 ^ e = ((c * 10 ^ (e - f).toNat : Nat) : ℚ) * 10 ^ f := by
      rw [size_eq_scaled c e f, min_eq_right le]
    rw [whole, mul_lt_mul_iff_left₀ unit] at small
    have units : c * 10 ^ (e - f).toNat < 10 ^ 27 + 1 := by
      have : ((c * 10 ^ (e - f).toNat : Nat) : ℚ) < 10 ^ 27 + 1 := small.trans (by norm_num)
      exact_mod_cast this
    rw [whole, zpow_add₀ (by norm_num)]
    refine mul_le_mul_of_nonneg_right ?_ unit.le
    exact_mod_cast Nat.lt_succ_iff.1 units

theorem fit_bounded (n : Bool) (tiny : tinyExponent ≤ f) (room : f + 28 < topExponent + precision)
    (small : (c : ℚ) * 10 ^ e < (10 ^ 27 + 1 / 2) * 10 ^ f) :
    ∃ z, fit n c e = .ok z ∧ z.isFinite ∧ |z.value| ≤ 10 ^ (27 + f) := by
  by_cases hc : c = 0
  · refine ⟨_, by rw [fit, if_pos hc], rfl, ?_⟩
    rw [value_nought, abs_zero]
    positivity
  have size : (c : ℚ) * 10 ^ e < 10 ^ (28 + f) := by
    refine small.trans ?_
    rw [zpow_add₀ (by norm_num)]
    exact mul_lt_mul_of_pos_right (by norm_num) (by positivity)
  have digits := reach_le_of_size_lt hc size
  obtain ⟨z, fits⟩ : ∃ z, fit n c e = .ok z := fit_of_reach_lt n hc (by omega)
  refine ⟨z, fits, ?_⟩
  simp only [fit, if_neg hc] at fits
  split_ifs at fits with beyond kept rounded beyond' <;> cases fits
  · refine ⟨rfl, ?_⟩
    rw [abs_value]
    exact exact_bounded (by omega) small
  all_goals
    have bounded : (dropDigits c (max (reach c e - precision) tinyExponent - e).toNat : ℚ) *
        10 ^ max (reach c e - precision) tinyExponent ≤ 10 ^ (27 + f) :=
      dropDigits_bounded (by omega) (by omega) (by simp only [precision]; omega) small
  · refine ⟨rfl, ?_⟩
    rwa [abs_value]
  · refine ⟨rfl, ?_⟩
    rw [abs_value]
    refine le_trans ?_ bounded
    set kept := dropDigits c (max (reach c e - precision) tinyExponent - e).toNat
    have tenth : ((kept / 10 : Nat) : ℚ) * 10 ≤ kept := by exact_mod_cast Nat.div_mul_le_self kept 10
    rw [zpow_add₀ (by norm_num), zpow_one, mul_comm _ (10 : ℚ), ← mul_assoc]
    exact mul_le_mul_of_nonneg_right tenth (by positivity)

/-! ## Sums -/

structure IsTame (x : Decimal) : Prop where
  isFinite : x.isFinite
  bounded : |x.value| ≤ 10 ^ 45

/-- What 28 digits still hold: `10 ^ 45`, and a little more. -/
theorem fit_tame (n : Bool) (small : (c : ℚ) * 10 ^ e ≤ 10 ^ 45 + 10 ^ 16) :
    ∃ z, fit n c e = .ok z ∧ z.IsTame := by
  have below : (c : ℚ) * 10 ^ e < (10 ^ 27 + 1 / 2) * 10 ^ (18 : Int) := small.trans_lt (by norm_num)
  obtain ⟨z, fits, finite, bounded⟩ := fit_bounded n (by decide) (by decide) below
  exact ⟨z, fits, finite, by exact_mod_cast bounded⟩

theorem tameSmaller_cases (c : Nat) (e : Int) (d : Nat) (f : Int) :
    tameSmaller c e d f = (d, f) ∨ ∃ least ≤ reach c e - precision - 2,
      tameSmaller c e d f = (1, least) := by
  unfold tameSmaller
  dsimp only
  split_ifs
  · refine .inr ⟨_, ?_, rfl⟩
    rw [reach]
    omega
  · exact .inl rfl

theorem tameSmaller_size {k : Int} (n : Bool) (hc : c ≠ 0)
    (large : (c : ℚ) * 10 ^ e < 10 ^ (k + 30)) :
    |(finite n (tameSmaller c e d f).1 (tameSmaller c e d f).2).value| ≤
      max ((d : ℚ) * 10 ^ f) (10 ^ k) := by
  have digits := reach_le_of_size_lt hc large
  rw [abs_value]
  rcases tameSmaller_cases c e d f with same | ⟨least, le, same⟩ <;> rw [same]
  · exact le_max_left _ _
  · refine le_max_of_le_right ?_
    rw [Nat.cast_one, one_mul]
    exact zpow_le_zpow_right₀ (by norm_num) (by simp only [precision] at le; omega)

theorem addFinite_tame (hx : (c : ℚ) * 10 ^ e ≤ 10 ^ 45) (hy : (d : ℚ) * 10 ^ f ≤ 10 ^ 16) :
    ∃ z, addFinite n c e m d f = .ok z ∧ z.IsTame := by
  have scaled (n : Bool) (c : Nat) {e unit : Int} (le : unit ≤ e) :
      ((c * Nat.pow 10 (e - unit).toNat : Nat) : ℚ) * 10 ^ unit = c * 10 ^ e := by
    rw [← abs_value n, value_scaled n c le, abs_value]
  unfold addFinite
  by_cases hc : c = 0
  · rw [if_pos hc]
    split_ifs
    · exact fit_tame _ (by norm_num)
    · refine fit_tame m ?_
      rw [scaled m d (by simp only [precision]; omega)]
      exact hy.trans (by norm_num)
  rw [if_neg hc]
  by_cases hd : d = 0
  · rw [if_pos hd]
    refine fit_tame n ?_
    rw [scaled n c (by simp only [precision]; omega)]
    exact hx.trans (by norm_num)
  rw [if_neg hd]
  -- Either number may be replaced by one that stands for it, and that one is as small.
  obtain ⟨c', e', left, small⟩ : ∃ c' e',
      (if e < f then tameSmaller d f c e else (c, e)) = (c', e') ∧
        |(finite n c' e').value| ≤ 10 ^ 45 := by
    split_ifs
    · have large : (d : ℚ) * 10 ^ f < 10 ^ ((15 : Int) + 30) := hy.trans_lt (by norm_num)
      exact ⟨_, _, rfl, (tameSmaller_size n hd large).trans (max_le hx (by norm_num))⟩
    · exact ⟨c, e, rfl, by rwa [abs_value]⟩
  obtain ⟨d', f', right, small'⟩ : ∃ d' f',
      (if e < f then (d, f) else tameSmaller c e d f) = (d', f') ∧
        |(finite m d' f').value| ≤ 10 ^ 16 := by
    split_ifs
    · exact ⟨d, f, rfl, by rwa [abs_value]⟩
    · have large : (c : ℚ) * 10 ^ e < 10 ^ ((16 : Int) + 30) := hx.trans_lt (by norm_num)
      exact ⟨_, _, rfl, (tameSmaller_size m hc large).trans (max_le hy (by norm_num))⟩
  simp only [left, right]
  split_ifs
  · exact fit_tame _ (by norm_num)
  · refine fit_tame _ ?_
    have sum := value_units (unitsOf n c' e' (min e' f') + unitsOf m d' f' (min e' f')) (min e' f')
    rw [← abs_value, sum, Int.cast_add, add_mul, unitsOf_value n c' (min_le_left e' f'),
      unitsOf_value m d' (min_le_right e' f')]
    exact (abs_add_le _ _).trans (add_le_add small small')

theorem IsTame.add (hx : x.IsTame) (finite : y.isFinite) (small : |y.value| ≤ 10 ^ 16) :
    ∃ z, x.add? y = .ok z ∧ z.IsTame := by
  obtain ⟨finite', bounded⟩ := hx
  cases x with
  | infinite | nan => cases finite'
  | finite n c e =>
  cases y with
  | infinite | nan => cases finite
  | finite m d f =>
  rw [abs_value] at bounded small
  exact addFinite_tame bounded small

end Passbook.Decimal
