import Passbook.Proofs.Number.Whole

/-!
# How far rounding goes astray

Below `2 ^ k`, a binary number of 53 bits is off by `2 ^ (k - 54)` at most.
-/

namespace Passbook.Binary64
variable {b c : Binary64} {m k : Nat} {e : Int} {x : ℚ}

theorem RoundsTo.error (h : RoundsTo x m e) (small : x < 2 ^ k) :
    |(m : ℚ) * 2 ^ e - x| ≤ 2 ^ ((k : Int) - 54) := by
  obtain ⟨e₀, m₀, exponent, near, same⟩ := h.nearest
  have unit : (0 : ℚ) < 2 ^ e₀ := by positivity
  have le : e₀ ≤ (k : Int) - 53 := by
    rcases exponent.full with rfl | full
    · simp only [leastExponent]
      omega
    · have below : (2 : ℚ) ^ (e₀ + 52) < 2 ^ (k : Int) := full.trans_lt (by exact_mod_cast small)
      rw [zpow_lt_zpow_iff_right₀ (by norm_num)] at below
      omega
  have off : (m : ℚ) * 2 ^ e - x = -(x / 2 ^ e₀ - m₀) * 2 ^ e₀ := by
    rw [same]
    field_simp
    ring
  have close := near.close
  rw [Int.cast_natCast] at close
  rw [off, abs_mul, abs_neg, abs_of_pos unit]
  calc
    |x / 2 ^ e₀ - m₀| * 2 ^ e₀ ≤ 1 / 2 * 2 ^ e₀ := mul_le_mul_of_nonneg_right close unit.le
    _ = 2 ^ (e₀ - 1) := by rw [zpow_sub₀ (by norm_num)]; ring
    _ ≤ 2 ^ ((k : Int) - 54) := zpow_le_zpow_right₀ (by norm_num) (by omega)

theorem ofRatio_error {p q : Nat} (hp : p ≠ 0) (hq : q ≠ 0) (size : (p : ℚ) / q = |x|)
    (small : |x| < 2 ^ k) (range : k < 970) :
    (ofRatio (decide (x < 0)) p q).isFinite ∧
      |(ofRatio (decide (x < 0)) p q).value - x| ≤ 2 ^ ((k : Int) - 54) := by
  have fits : (p : ℚ) / q < 2 ^ (greatestExponent - 1) := by
    rw [size]
    calc
      |x| < 2 ^ (k : Int) := by exact_mod_cast small
      _ ≤ 2 ^ (greatestExponent - 1) :=
        zpow_le_zpow_right₀ (by norm_num) (by simp only [greatestExponent]; omega)
  obtain ⟨m, e, rounded, near⟩ := ofRatio_roundsTo (decide (x < 0)) hp hq fits
  have error := near.error (size ▸ small)
  rw [size] at error
  rw [rounded]
  refine ⟨rfl, ?_⟩
  -- The sign is kept apart from the fraction that is rounded.
  rcases lt_or_ge x 0 with negative | positive
  · rw [abs_of_neg negative] at error
    have flipped : (finite (decide (x < 0)) m e).value - x = -((m : ℚ) * 2 ^ e - -x) := by
      simp only [value, negative, decide_true, if_true]
      ring
    rwa [flipped, abs_neg]
  · rw [abs_of_nonneg positive] at error
    simpa only [value, not_lt.2 positive, decide_false, Bool.false_eq_true, if_false, one_mul]
      using error

theorem add_error (hb : b.isFinite) (hc : c.isFinite) (small : |b.value + c.value| < 2 ^ k)
    (range : k < 970) :
    (b.add c).isFinite ∧ |(b.add c).value - (b.value + c.value)| ≤ 2 ^ ((k : Int) - 54) := by
  cases b with
  | infinite | nan => cases hb
  | finite n a e =>
  cases c with
  | infinite | nan => cases hc
  | finite m b f =>
  rcases add_eq n m a b e f with ⟨zero, sum⟩ | ⟨-, p, q, hp, hq, size, sum⟩ <;> rw [sum]
  · refine ⟨rfl, ?_⟩
    rw [value_nought, zero, sub_zero, abs_zero]
    positivity
  · exact ofRatio_error hp hq size small range

theorem ofCents_error {cents : Int} (nonzero : cents ≠ 0) (small : |(cents : ℚ) / 100| < 2 ^ k)
    (range : k < 970) :
    (ofCents cents).isFinite ∧ |(ofCents cents).value - cents / 100| ≤ 2 ^ ((k : Int) - 54) := by
  have size : (cents.natAbs : ℚ) / (100 : Nat) = |(cents : ℚ) / 100| := by
    rw [abs_div, Nat.cast_natAbs, Int.cast_abs]
    norm_num
  have sign : decide (cents < 0) = decide ((cents : ℚ) / 100 < 0) := by
    rw [decide_eq_decide, div_lt_iff₀ (by norm_num), zero_mul, Int.cast_lt_zero]
  rw [ofCents, sign]
  exact ofRatio_error (Int.natAbs_ne_zero.2 nonzero) (by norm_num) size small range

theorem cents_of_close {cents : Int} (finite : b.isFinite)
    (close : |b.value - cents / 100| < 1 / 200) : b.cents = cents := by
  refine (cents_nearest finite).unique (.inl ?_)
  have scaled : 100 * b.value - cents = 100 * (b.value - cents / 100) := by ring
  rw [scaled, abs_mul, abs_of_pos (by norm_num)]
  linarith

end Passbook.Binary64
