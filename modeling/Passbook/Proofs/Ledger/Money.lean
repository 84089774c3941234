import Passbook.Ledger.Money
import Passbook.Proofs.Ledger.Failure
import Passbook.Proofs.Number.Cents

namespace Passbook

def greatestCents : Nat := 999999999999999999

def Decimal.IsAmount (x : Decimal) : Prop :=
  ∃ cents, 0 < cents ∧ cents ≤ greatestCents ∧ x = .ofCents cents

theorem Decimal.IsAmount.positive {x : Decimal} (h : x.IsAmount) : 0 < x.value := by
  obtain ⟨cents, pos, -, rfl⟩ := h
  rw [Decimal.value_ofCents]
  positivity

/-- Nought may have either sign, and is written without places if no amount was given. -/
def Decimal.IsOpening (x : Decimal) : Prop := x.IsAmount ∨ x.IsCents 0

namespace Money
open Decimal

theorem isAbove_iff {x y : Decimal} (hx : x.isFinite) (hy : y.isFinite) :
    isAbove x y ↔ y.value < x.value := by
  simp [isAbove, compare?_finite hx hy, compare_gt_iff_gt]

theorem isBelow_iff {x y : Decimal} (hx : x.isFinite) (hy : y.isFinite) :
    isBelow x y ↔ x.value < y.value := by
  simp [isBelow, compare?_finite hx hy, compare_lt_iff_lt]

theorem isEqual_iff {x y : Decimal} (hx : x.isFinite) (hy : y.isFinite) :
    isEqual x y ↔ x.value = y.value := by
  simp [isEqual, compare?_finite hx hy]

theorem check_eq_ok {field : String} {allowZero : Bool} {given : Option Decimal} {a : Decimal}
    (h : check field allowZero given = .ok a) :
    ∃ n c e size, given = some (.finite n c e) ∧ fit false c e = .ok size ∧
      ¬isAbove size greatestAmount ∧ a = .finite n (coefficientAt c e (-2)) (-2) ∧
      isEqual a (.finite n c e) ∧ (if allowZero then ¬isBelow a zero else isAbove a zero) := by
  cases given with
  | none => cases h
  | some x =>
  cases x with
  | infinite n | nan n => cases h
  | finite n c e =>
  simp only [check, isFinite, Bool.not_true, Bool.false_eq_true, if_false, magnitude?] at h
  split at h
  · cases h
  · rename_i size hsize
    split_ifs at h with range places allowed sign sign <;> cases h
    · exact ⟨n, c, e, size, rfl, hsize, range, rfl, by simpa using places, by rwa [if_pos allowed]⟩
    · exact ⟨n, c, e, size, rfl, hsize, range, rfl, by simpa using places, by rwa [if_neg allowed]⟩

theorem cents_le_of_fit {c cents : Nat} {e : Int} {size : Decimal}
    (fits : fit false c e = .ok size) (range : ¬isAbove size greatestAmount)
    (whole : (c : ℚ) * 10 ^ e = cents / 100) : cents ≤ greatestCents := by
  by_contra beyond
  have large : (10 : ℚ) ^ (16 : Int) ≤ c * 10 ^ e := by
    rw [whole, le_div_iff₀ (by norm_num)]
    have : greatestCents + 1 ≤ cents := by omega
    have : ((greatestCents + 1 : Nat) : ℚ) ≤ cents := by exact_mod_cast this
    norm_num [greatestCents] at this ⊢
    exact this
  have nonzero : c ≠ 0 := by
    rintro rfl
    norm_num at large
  have far : 16 < reach c e := by
    have := large.trans_lt (size_lt_pow_reach c e)
    exact (zpow_lt_zpow_iff_right₀ (by norm_num)).1 this
  have noUnderflow : tinyExponent + precision ≤ reach c e := by
    simp only [tinyExponent, minExponent, precision]
    omega
  obtain ⟨finite, size_ge⟩ := pow_reach_le_fit nonzero noUnderflow fits
  rw [abs_of_nonneg (fit_nonneg fits)] at size_ge
  apply range
  rw [isAbove_iff finite rfl, greatestAmount, value_ofCents]
  calc
    ((999999999999999999 : Nat) : ℚ) / 100 < 10 ^ (16 : Int) := by norm_num
    _ ≤ 10 ^ (reach c e - 1) := zpow_le_zpow_right₀ (by norm_num) (by omega)
    _ ≤ size.value := size_ge

theorem check_cents {field : String} {allowZero : Bool} {given : Option Decimal} {a : Decimal}
    (h : check field allowZero given = .ok a) :
    ∃ n c, a = .finite n c (-2) ∧ c ≤ greatestCents ∧
      (if allowZero then ¬isBelow a zero else isAbove a zero) := by
  obtain ⟨n, c, e, size, -, fits, range, rfl, places, sign⟩ := check_eq_ok h
  refine ⟨n, _, rfl, cents_le_of_fit fits range ?_, sign⟩
  have same := (isEqual_iff rfl rfl).1 places
  rw [(isCents_finite n _).value] at same
  cases n
  · simpa [value, signed] using same.symm
  · have := congrArg Neg.neg same
    simp only [value, signed, if_true] at this
    push_cast at this
    linarith

theorem check_amount {field : String} {given : Option Decimal} {a : Decimal}
    (h : check field false given = .ok a) : a.IsAmount := by
  obtain ⟨n, c, rfl, bound, sign⟩ := check_cents h
  rw [if_neg (by decide), isAbove_iff rfl rfl, (isCents_finite n c).value, zero, value_ofNat] at sign
  cases n
  · refine ⟨c, Nat.pos_of_ne_zero ?_, bound, rfl⟩
    rintro rfl
    simp [signed] at sign
  · have : (0 : ℚ) ≤ c := by positivity
    simp only [signed, if_true] at sign
    push_cast at sign
    linarith

theorem check_opening {field : String} {given : Option Decimal} {a : Decimal}
    (h : check field true given = .ok a) : a.IsOpening := by
  obtain ⟨n, c, rfl, bound, sign⟩ := check_cents h
  rcases Nat.eq_zero_or_pos c with rfl | pos
  · exact .inr ⟨n, 0, -2, rfl, by cases n <;> rfl, .inl rfl⟩
  · rw [if_pos rfl, isBelow_iff rfl rfl, (isCents_finite n c).value, zero, value_ofNat] at sign
    cases n
    · exact .inl ⟨c, pos, bound, rfl⟩
    · have : (0 : ℚ) < c := by exact_mod_cast pos
      simp only [signed, if_true] at sign
      push_cast at sign
      linarith

end Money

end Passbook
