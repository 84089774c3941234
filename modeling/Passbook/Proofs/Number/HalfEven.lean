import Mathlib.Tactic
import Passbook.Number.HalfEven

namespace Passbook

def IsNearest (x : ℚ) (k : Int) : Prop := |x - k| < 1 / 2 ∨ |x - k| = 1 / 2 ∧ Even k

namespace IsNearest
variable {x : ℚ} {j k : Int}

theorem close (h : IsNearest x k) : |x - k| ≤ 1 / 2 := h.elim le_of_lt (·.1.le)

theorem le_of_le (h : IsNearest x k) (le : x ≤ j) : k ≤ j := by
  by_contra beyond
  have := (abs_le.1 h.close).1
  have : (j : ℚ) + 1 ≤ k := by exact_mod_cast not_le.1 beyond
  linarith

theorem ge_of_ge (h : IsNearest x k) (ge : (j : ℚ) ≤ x) : j ≤ k := by
  by_contra beyond
  have := (abs_le.1 h.close).2
  have : (k : ℚ) + 1 ≤ j := by exact_mod_cast not_le.1 beyond
  linarith

theorem le_of_lt_half (h : IsNearest x k) (lt : x < j + 1 / 2) : k ≤ j := by
  by_contra beyond
  have := (abs_le.1 h.close).1
  have : (j : ℚ) + 1 ≤ k := by exact_mod_cast not_le.1 beyond
  linarith

theorem self (k : Int) : IsNearest k k := .inl (by norm_num)

theorem neg (h : IsNearest x k) : IsNearest (-x) (-k) := by
  have same : |-x - ((-k : Int) : ℚ)| = |x - k| := by
    rw [← abs_neg]
    push_cast
    ring_nf
  rw [IsNearest, same]
  exact h.imp_right fun ⟨half, even⟩ => ⟨half, even.neg⟩

theorem sub_even (h : IsNearest x k) (even : Even j) : IsNearest (x - j) (k - j) := by
  have same : x - j - ((k - j : Int) : ℚ) = x - k := by
    push_cast
    ring
  rw [IsNearest, same]
  exact h.imp_right fun ⟨half, whole⟩ => ⟨half, whole.sub even⟩

theorem not_succ (h : IsNearest x k) : ¬IsNearest x (k + 1) := by
  intro h'
  have below := (abs_le.1 h.close).2
  have above := (abs_le.1 h'.close).1
  push_cast at above
  obtain rfl : x = k + 1 / 2 := by linarith
  have even : Even k := by
    refine (h.resolve_left ?_).2
    norm_num
  have even' : Even (k + 1) := by
    refine (h'.resolve_left ?_).2
    push_cast
    norm_num
  exact Int.even_add_one.1 even' even

theorem unique (h : IsNearest x j) (h' : IsNearest x k) : j = k := by
  have ⟨above, below⟩ := abs_le.1 h.close
  have ⟨above', below'⟩ := abs_le.1 h'.close
  have upper : j ≤ k + 1 := by exact_mod_cast (by linarith : (j : ℚ) ≤ k + 1)
  have lower : k ≤ j + 1 := by exact_mod_cast (by linarith : (k : ℚ) ≤ j + 1)
  obtain same | rfl | rfl : j = k ∨ j = k + 1 ∨ k = j + 1 := by omega
  · exact same
  · exact absurd h h'.not_succ
  · exact absurd h' h.not_succ

end IsNearest

theorem divHalfEven_nearest (n : Nat) {d : Nat} (hd : 0 < d) :
    IsNearest ((n : ℚ) / d) (divHalfEven n d : Nat) := by
  have pos : (0 : ℚ) < d := by exact_mod_cast hd
  have split : (n : ℚ) / d = (n / d : Nat) + ((n % d : Nat) : ℚ) / d := by
    have whole : ((n % d : Nat) : ℚ) + d * (n / d : Nat) = n := by exact_mod_cast Nat.mod_add_div n d
    rw [← whole]
    field_simp
    ring
  have rest_nonneg : (0 : ℚ) ≤ ((n % d : Nat) : ℚ) / d := by positivity
  have rest_lt : ((n % d : Nat) : ℚ) / d < 1 := by
    rw [div_lt_one pos]
    exact_mod_cast Nat.mod_lt n hd
  unfold divHalfEven
  dsimp only
  split_ifs with below above
  · have : ((n % d : Nat) : ℚ) / d < 1 / 2 := by
      rw [div_lt_div_iff₀ pos (by norm_num)]
      exact_mod_cast (by omega : (n % d) * 2 < 1 * d)
    refine .inl ?_
    rw [split, Int.cast_natCast, add_sub_cancel_left, abs_of_nonneg rest_nonneg]
    exact this
  · have : (1 : ℚ) / 2 < ((n % d : Nat) : ℚ) / d := by
      rw [div_lt_div_iff₀ (by norm_num) pos]
      exact_mod_cast (by omega : 1 * d < (n % d) * 2)
    refine .inl ?_
    rw [split, Int.cast_natCast, abs_lt]
    push_cast
    constructor <;> linarith
  · have half : ((n % d : Nat) : ℚ) / d = 1 / 2 := by
      rw [div_eq_div_iff pos.ne' (by norm_num)]
      exact_mod_cast (by omega : (n % d) * 2 = 1 * d)
    refine .inr ⟨?_, ?_⟩
    · rw [split, half, Int.cast_natCast]
      push_cast
      rcases Nat.mod_two_eq_zero_or_one (n / d) with parity | parity <;> rw [parity] <;>
        norm_num [abs_of_nonneg, abs_of_neg]
    · rw [Int.even_coe_nat, Nat.even_iff]
      omega

end Passbook
