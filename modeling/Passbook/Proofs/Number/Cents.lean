import Passbook.Proofs.Number.Value

namespace Passbook.Decimal

def signed (negative : Bool) (c : Nat) : Int := if negative then -c else c

/-- `k` hundredths. Only nought may be written without places. -/
def IsCents (x : Decimal) (k : Int) : Prop :=
  ∃ n c e, x = .finite n c e ∧ signed n c = k ∧ (e = -2 ∨ c = 0 ∧ e = 0)

theorem isCents_finite (n : Bool) (c : Nat) : IsCents (.finite n c (-2)) (signed n c) :=
  ⟨n, c, -2, rfl, rfl, .inl rfl⟩

theorem isCents_ofCents (cents : Nat) : IsCents (ofCents cents) cents := isCents_finite false cents

theorem isCents_zero : IsCents (ofNat 0) 0 := ⟨false, 0, 0, rfl, rfl, .inr ⟨rfl, rfl⟩⟩

theorem IsCents.isFinite {x : Decimal} {k : Int} (h : IsCents x k) : x.isFinite := by
  obtain ⟨n, c, e, rfl, -⟩ := h
  rfl

theorem IsCents.value {x : Decimal} {k : Int} (h : IsCents x k) : x.value = k / 100 := by
  obtain ⟨n, c, e, rfl, rfl, rfl | ⟨rfl, rfl⟩⟩ := h
  · cases n <;> simp [Decimal.value, signed, zpow_neg] <;> norm_num <;> ring
  · cases n <;> simp [signed]

theorem exceeds?_cents {x y : Decimal} {j k : Int} (hx : IsCents x j) (hy : IsCents y k) :
    exceeds? x y = some (decide (k < j)) := by
  rw [exceeds?_finite hx.isFinite hy.isFinite, hx.value, hy.value, Option.some.injEq,
    decide_eq_decide, div_lt_div_iff_of_pos_right (by norm_num)]
  exact_mod_cast Iff.rfl

/-! ## Arithmetic on whole cents is exact -/

def centsBound : Nat := 10 ^ 28

theorem digitCount_le_precision {c : Nat} (hc : c < centsBound) : digitCount c ≤ precision :=
  (digitCount_le_iff (by decide)).2 hc

theorem fit_cents (n : Bool) {c : Nat} (hc : c < centsBound) :
    fit n c (-2) = .ok (.finite n c (-2)) := by
  have digits := digitCount_le_precision hc
  unfold fit
  by_cases zero : c = 0
  · simp [zero, tinyExponent, minExponent, maxExponent]
  · have noOverflow : ¬topExponent < reach c (-2) - precision := by
      simp only [topExponent, maxExponent, reach]
      omega
    have noRounding : max (reach c (-2) - precision) tinyExponent ≤ -2 := by
      simp only [tinyExponent, minExponent, reach]
      omega
    simp only [if_neg zero, if_neg noOverflow, if_pos noRounding]

theorem negate?_cents {c : Nat} (pos : c ≠ 0) (hc : c < centsBound) :
    negate? (.finite false c (-2)) = .ok (.finite true c (-2)) := by
  simp [negate?, pos, fit_cents true hc]

theorem unitsOf_self (n : Bool) (c : Nat) (e : Int) : unitsOf n c e e = signed n c := by
  simp [unitsOf, signed]

theorem tameSmaller_same (c d : Nat) (e : Int) : tameSmaller c e d e = (d, e) := by
  have := digitCount_pos d
  have near : ¬reach d e ≤ e + min (-1) ((digitCount c : Int) - precision - 2) := by
    rw [reach]
    omega
  simp only [tameSmaller, if_neg near]

theorem addFinite_cents (n m : Bool) {c d : Nat} (hc : c ≠ 0) (hd : d ≠ 0) :
    addFinite n c (-2) m d (-2) =
      if signed n c + signed m d = 0 then fit false 0 (-2)
      else fit (signed n c + signed m d < 0) (signed n c + signed m d).natAbs (-2) := by
  simp only [addFinite, if_neg hc, if_neg hd, lt_irrefl, if_false, tameSmaller_same, min_self,
    unitsOf_self]

theorem addFinite_nought (n m : Bool) {d : Nat} {e : Int} (he : e = -2 ∨ e = 0) (hd : d ≠ 0) :
    addFinite n 0 e m d (-2) = fit m d (-2) := by
  rcases he with rfl | rfl <;> simp [addFinite, hd, precision]

theorem signed_natAbs (k : Int) : signed (k < 0) k.natAbs = k := by
  unfold signed
  split_ifs with h <;> simp only [decide_eq_true_eq] at h <;> omega

theorem add?_cents {x : Decimal} {k : Int} (hx : IsCents x k) (m : Bool) {d : Nat} (hd : d ≠ 0)
    (small : (k + signed m d).natAbs < centsBound) :
    ∃ z, x.add? (.finite m d (-2)) = .ok z ∧ IsCents z (k + signed m d) := by
  obtain ⟨n, c, e, rfl, rfl, he⟩ := hx
  by_cases hc : c = 0
  · subst hc
    have zero : signed n 0 = 0 := by simp [signed]
    have exponent : e = -2 ∨ e = 0 := by omega
    rw [zero, zero_add] at small ⊢
    have fits : d < centsBound := by
      have : (signed m d).natAbs = d := by cases m <;> simp [signed]
      omega
    exact ⟨.finite m d (-2), by rw [add?, addFinite_nought n m exponent hd, fit_cents m fits],
      isCents_finite m d⟩
  · obtain rfl : e = -2 := by omega
    rw [add?, addFinite_cents n m hc hd]
    by_cases zero : signed n c + signed m d = 0
    · rw [if_pos zero, zero]
      exact ⟨_, fit_cents false (by decide), isCents_finite false 0⟩
    · rw [if_neg zero]
      refine ⟨_, fit_cents _ small, ?_⟩
      have := isCents_finite (decide (signed n c + signed m d < 0))
        (signed n c + signed m d).natAbs
      rwa [signed_natAbs] at this

end Passbook.Decimal
