import Mathlib.Tactic
import Passbook.Number.Arithmetic

namespace Passbook

theorem digitCount_le_iff {n k : Nat} (hk : 0 < k) : digitCount n ≤ k ↔ n < 10 ^ k :=
  Nat.length_toDigits_le_iff (by decide) hk

theorem digitCount_pos (n : Nat) : 0 < digitCount n := Nat.length_toDigits_pos

theorem lt_pow_digitCount (n : Nat) : n < 10 ^ digitCount n :=
  (digitCount_le_iff (digitCount_pos n)).1 le_rfl

theorem pow_digitCount_le {n : Nat} (hn : n ≠ 0) : 10 ^ (digitCount n - 1) ≤ n := by
  by_contra h
  have pos := digitCount_pos n
  rcases Nat.eq_zero_or_pos (digitCount n - 1) with one | more
  · rw [one] at h
    omega
  · have := (digitCount_le_iff more).2 (not_le.1 h)
    omega

namespace Decimal

def value : Decimal → ℚ
  | .finite n c e => (if n then -1 else 1) * (c * 10 ^ e)
  | _ => 0

@[simp] theorem value_ofCents (cents : Nat) : (ofCents cents).value = cents / 100 := by
  simp only [ofCents, value, Bool.false_eq_true, if_false, one_mul]
  norm_num [zpow_neg]
  ring

@[simp] theorem value_ofNat (n : Nat) : (ofNat n).value = n := by simp [ofNat, value]

theorem size_lt_pow_reach (c : Nat) (e : Int) : (c : ℚ) * 10 ^ e < 10 ^ reach c e := by
  rw [reach, zpow_add₀ (by norm_num), mul_comm]
  have : (c : ℚ) < 10 ^ digitCount c := by exact_mod_cast lt_pow_digitCount c
  exact mul_lt_mul_of_pos_left (by exact_mod_cast this) (by positivity)

theorem pow_reach_le_size {c : Nat} (hc : c ≠ 0) (e : Int) :
    (10 : ℚ) ^ (reach c e - 1) ≤ c * 10 ^ e := by
  have pos := digitCount_pos c
  have split : reach c e - 1 = e + ((digitCount c - 1 : Nat) : Int) := by
    rw [reach]
    omega
  rw [split, zpow_add₀ (by norm_num), mul_comm]
  have : (10 : ℚ) ^ (digitCount c - 1) ≤ c := by exact_mod_cast pow_digitCount_le hc
  exact mul_le_mul_of_nonneg_right (by exact_mod_cast this) (by positivity)

theorem size_lt_of_reach_lt {c d : Nat} {e f : Int} (hd : d ≠ 0) (h : reach c e < reach d f) :
    (c : ℚ) * 10 ^ e < d * 10 ^ f :=
  calc
    (c : ℚ) * 10 ^ e < 10 ^ reach c e := size_lt_pow_reach c e
    _ ≤ 10 ^ (reach d f - 1) := zpow_le_zpow_right₀ (by norm_num) (by omega)
    _ ≤ d * 10 ^ f := pow_reach_le_size hd f

theorem size_eq_scaled (c : Nat) (e f : Int) :
    (c : ℚ) * 10 ^ e = ((c * 10 ^ (e - f).toNat : Nat) : ℚ) * 10 ^ min e f := by
  have split : e = ((e - f).toNat : Int) + min e f := by omega
  push_cast
  rw [mul_assoc, ← zpow_natCast, ← zpow_add₀ (by norm_num), ← split]

theorem compareSize_eq (c : Nat) (e : Int) (d : Nat) (f : Int) :
    compareSize c e d f = compare ((c : ℚ) * 10 ^ e) (d * 10 ^ f) := by
  simp only [compareSize, Nat.pow_eq]
  split_ifs with hc hd hd
  · simp [hc, hd]
  · rw [eq_comm, compare_lt_iff_lt, hc]
    simp only [Nat.cast_zero, zero_mul]
    positivity
  · rw [eq_comm, compare_gt_iff_gt, hd]
    simp only [Nat.cast_zero, zero_mul]
    positivity
  · cases order : compare (reach c e) (reach d f) with
    | lt => exact (compare_lt_iff_lt.2 (size_lt_of_reach_lt hd (compare_lt_iff_lt.1 order))).symm
    | gt => exact (compare_gt_iff_gt.2 (size_lt_of_reach_lt hc (compare_gt_iff_gt.1 order))).symm
    | eq =>
      rw [size_eq_scaled c e f, size_eq_scaled d f e, min_comm f e]
      have unit : (0 : ℚ) < 10 ^ min e f := by positivity
      rcases lt_trichotomy (c * 10 ^ (e - f).toNat) (d * 10 ^ (f - e).toNat) with h | h | h
      · rw [compare_lt_iff_lt.2 h, eq_comm, compare_lt_iff_lt]
        exact mul_lt_mul_of_pos_right (by exact_mod_cast h) unit
      · simp [h]
      · rw [compare_gt_iff_gt.2 h, eq_comm, compare_gt_iff_gt]
        exact mul_lt_mul_of_pos_right (by exact_mod_cast h) unit

@[simp] theorem value_nought (n : Bool) (e : Int) : (finite n 0 e).value = 0 := by simp [value]

theorem value_pos {c : Nat} (hc : c ≠ 0) (e : Int) : 0 < (finite false c e).value := by
  simp only [value, Bool.false_eq_true, if_false, one_mul]
  positivity

theorem value_neg {c : Nat} (hc : c ≠ 0) (e : Int) : (finite true c e).value < 0 := by
  have : (0 : ℚ) < c * 10 ^ e := by positivity
  simp only [value, if_true]
  linarith

theorem compare_neg (a b : ℚ) : compare (-a) (-b) = compare b a := by
  rcases lt_trichotomy b a with h | h | h
  · rw [compare_lt_iff_lt.2 h, compare_lt_iff_lt.2 (neg_lt_neg h)]
  · simp [h]
  · rw [compare_gt_iff_gt.2 h, compare_gt_iff_gt.2 (neg_lt_neg h)]

theorem compare?_finite {x y : Decimal} (hx : x.isFinite) (hy : y.isFinite) :
    compare? x y = some (compare x.value y.value) := by
  cases x with
  | infinite | nan => cases hx
  | finite n c e =>
  cases y with
  | infinite | nan => cases hy
  | finite m d f =>
  have smaller {a b : ℚ} (h : a < b) : some Ordering.lt = some (compare a b) :=
    congrArg some (compare_lt_iff_lt.2 h).symm
  have larger {a b : ℚ} (h : b < a) : some Ordering.gt = some (compare a b) :=
    congrArg some (compare_gt_iff_gt.2 h).symm
  by_cases hc : c = 0 <;> by_cases hd : d = 0
  · simp [compare?, signOf, compareSize, hc, hd]
  · subst hc
    rw [value_nought]
    cases m <;> simp only [compare?, signOf, if_true, if_neg hd, Bool.false_eq_true, if_false]
    · exact smaller (value_pos hd f)
    · exact larger (value_neg hd f)
  · subst hd
    rw [value_nought]
    cases n <;> simp only [compare?, signOf, if_true, if_neg hc, Bool.false_eq_true, if_false]
    · exact larger (value_pos hc e)
    · exact smaller (value_neg hc e)
  · -- Numbers of one sign are told apart by their sizes, in the other order below nought.
    cases n <;> cases m <;>
      simp only [compare?, signOf, if_true, if_neg hc, if_neg hd, Bool.false_eq_true, if_false]
    · simp [compareSize_eq, value]
    · exact larger ((value_neg hd f).trans (value_pos hc e))
    · exact smaller ((value_neg hc e).trans (value_pos hd f))
    · simp only [compareSize_eq, value, if_true, neg_mul, one_mul]
      rw [compare_neg]
      simp

theorem exceeds?_finite {x y : Decimal} (hx : x.isFinite) (hy : y.isFinite) :
    exceeds? x y = some (decide (y.value < x.value)) := by
  rw [exceeds?, compare?_finite hx hy, Option.map_some, Option.some.injEq, Bool.eq_iff_iff]
  simp [compare_gt_iff_gt]

/-! ## Rounding to 28 digits -/

theorem value_nonneg (c : Nat) (e : Int) : 0 ≤ (finite false c e).value := by
  simp only [value, Bool.false_eq_true, if_false, one_mul]
  positivity

theorem fit_nonneg {c : Nat} {e : Int} {r : Decimal} (h : fit false c e = .ok r) :
    0 ≤ r.value := by
  unfold fit at h
  dsimp only at h
  split_ifs at h <;> cases h <;> exact value_nonneg _ _

theorem div_le_divHalfEven (n d : Nat) : n / d ≤ divHalfEven n d := by
  unfold divHalfEven
  dsimp only
  split_ifs <;> omega

theorem pow_le_dropDigits {c k : Nat} (hc : c ≠ 0) (hk : digitCount c = precision + k) :
    10 ^ (precision - 1) ≤ dropDigits c k := by
  have keeps : ¬digitCount c < k := by omega
  rw [dropDigits, if_neg keeps, Nat.pow_eq]
  refine le_trans ?_ (div_le_divHalfEven c (10 ^ k))
  rw [Nat.le_div_iff_mul_le (by positivity), ← pow_add]
  have exponents : precision - 1 + k = digitCount c - 1 := by
    simp only [hk, precision]
    omega
  exact exponents ▸ pow_digitCount_le hc

/-- Rounding keeps the power of ten of the first digit or raises it, unless digits are lost below
the smallest exponent. -/
theorem pow_reach_le_fit {n : Bool} {c : Nat} {e : Int} {r : Decimal} (hc : c ≠ 0)
    (noUnderflow : tinyExponent + precision ≤ reach c e) (h : fit n c e = .ok r) :
    r.isFinite ∧ (10 : ℚ) ^ (reach c e - 1) ≤ |r.value| := by
  have size (d : Nat) (f : Int) : |(finite n d f).value| = d * 10 ^ f := by
    cases n <;> simp [value, abs_of_nonneg, abs_mul]
  have last_eq : max (reach c e - precision) tinyExponent = reach c e - precision := by omega
  simp only [fit, if_neg hc, last_eq] at h
  split_ifs at h with beyond exact rounded beyond' <;> cases h
  · exact ⟨rfl, by rw [size]; exact pow_reach_le_size hc e⟩
  · refine ⟨rfl, ?_⟩
    have digits := pow_le_dropDigits (k := (reach c e - precision - e).toNat) hc
      (by simp only [reach] at exact ⊢; omega)
    rw [size]
    calc
      (10 : ℚ) ^ (reach c e - 1) = 10 ^ (precision - 1) * 10 ^ (reach c e - precision) := by
        rw [← zpow_natCast, ← zpow_add₀ (by norm_num)]
        congr 1
        simp only [precision]
        omega
      _ ≤ _ := mul_le_mul_of_nonneg_right (by exact_mod_cast digits) (by positivity)
  · refine ⟨rfl, ?_⟩
    have digits : 10 ^ (precision - 1) ≤ dropDigits c (reach c e - precision - e).toNat / 10 := by
      have := mt (digitCount_le_iff (k := precision) (by decide)).2 rounded
      rw [Nat.le_div_iff_mul_le (by norm_num)]
      simpa [precision] using this
    rw [size]
    calc
      (10 : ℚ) ^ (reach c e - 1) ≤ 10 ^ (precision - 1) * 10 ^ (reach c e - precision + 1) := by
        rw [← zpow_natCast, ← zpow_add₀ (by norm_num)]
        apply zpow_le_zpow_right₀ (by norm_num)
        simp only [precision]
        omega
      _ ≤ _ := mul_le_mul_of_nonneg_right (by exact_mod_cast digits) (by positivity)

end Decimal

end Passbook
