import Passbook.Number.Binary64
import Passbook.Proofs.Number.Cents
import Passbook.Proofs.Number.HalfEven

namespace Passbook.Binary64

def isFinite : Binary64 → Bool
  | .finite .. => true
  | _ => false

def value : Binary64 → ℚ
  | .finite n m e => (if n then -1 else 1) * (m * 2 ^ e)
  | _ => 0

theorem abs_value (n : Bool) (m : Nat) (e : Int) : |(finite n m e).value| = m * 2 ^ e := by
  cases n <;> simp [value, abs_mul, abs_of_nonneg]

@[simp] theorem value_nought (n : Bool) : (nought n).value = 0 := by simp [nought, value]

/-- The form of the numbers that are made here: nothing is left of the significand's 53 bits,
unless the exponent is the least. -/
structure IsCanonical (m : Nat) (e : Int) : Prop where
  least : leastExponent ≤ e
  greatest : e ≤ greatestExponent
  lt : m < 2 ^ 53
  full : e = leastExponent ∨ 2 ^ 52 ≤ m

theorem zpow_eq_div {b : ℚ} (hb : b ≠ 0) (e : Int) : b ^ e = b ^ e.toNat / b ^ (-e).toNat := by
  rw [← zpow_natCast, ← zpow_natCast, ← zpow_sub₀ hb]
  congr 1
  omega

theorem two_zpow_eq (e : Int) : (2 : ℚ) ^ e = 2 ^ e.toNat / 2 ^ (-e).toNat :=
  zpow_eq_div (by norm_num) e

/-! ## The exponent of a fraction -/

variable {n d m : Nat} {e f : Int} {x : ℚ}

theorem scaleDown_snd_ne (n : Nat) (hd : d ≠ 0) (e : Int) : (scaleDown n d e).2 ≠ 0 := by
  simp [scaleDown, hd]

theorem scaleDown_ratio (n d : Nat) (e : Int) :
    ((scaleDown n d e).1 : ℚ) / (scaleDown n d e).2 = n / d / 2 ^ e := by
  rw [two_zpow_eq]
  simp only [scaleDown, Nat.pow_eq]
  push_cast
  field_simp

structure IsExponent (x : ℚ) (e : Int) : Prop where
  least : leastExponent ≤ e
  lt : x < 2 ^ (e + 53)
  full : e = leastExponent ∨ 2 ^ (e + 52) ≤ x

theorem ratio_lt (hd : d ≠ 0) : (n : ℚ) / d < 2 ^ ((Nat.log2 n : Int) - Nat.log2 d + 1) := by
  have upper : (n : ℚ) < 2 ^ (Nat.log2 n + 1) := by exact_mod_cast Nat.lt_log2_self
  have lower : (2 : ℚ) ^ Nat.log2 d ≤ d := by exact_mod_cast Nat.log2_self_le hd
  have split : (2 : ℚ) ^ ((Nat.log2 n : Int) - Nat.log2 d + 1) =
      2 ^ (Nat.log2 n + 1) / 2 ^ Nat.log2 d := by
    rw [← zpow_natCast, ← zpow_natCast, ← zpow_sub₀ (by norm_num)]
    congr 1
    push_cast
    ring
  rw [split]
  exact div_lt_div₀ upper lower (by positivity) (by positivity)

theorem lt_ratio (hn : n ≠ 0) (hd : d ≠ 0) :
    (2 : ℚ) ^ ((Nat.log2 n : Int) - Nat.log2 d - 1) < n / d := by
  have flipped := ratio_lt (n := d) hn
  rw [← inv_lt_inv₀ (by positivity) (by positivity), ← zpow_neg, inv_div] at flipped
  have exponent : (Nat.log2 n : Int) - Nat.log2 d - 1 = -(Nat.log2 d - Nat.log2 n + 1) := by ring
  rwa [exponent]

theorem exponentFor_isExponent (hn : n ≠ 0) (hd : d ≠ 0) :
    IsExponent (n / d) (exponentFor n d) := by
  have upper := ratio_lt (n := n) hd
  have lower := lt_ratio hn hd
  have below {a b : Int} (h : a ≤ b) : (2 : ℚ) ^ a ≤ 2 ^ b :=
    zpow_le_zpow_right₀ (by norm_num) h
  set low : Int := (Nat.log2 n : Int) - Nat.log2 d - 53 with hlow
  have test : 2 ^ 53 * (scaleDown n d low).2 ≤ (scaleDown n d low).1 ↔
      (2 : ℚ) ^ (low + 53) ≤ n / d := by
    have pos : (0 : ℚ) < (scaleDown n d low).2 := by
      exact_mod_cast Nat.pos_of_ne_zero (scaleDown_snd_ne n hd low)
    have scaled : (2 : ℚ) ^ (low + 53) ≤ n / d ↔
        (2 ^ 53 : ℚ) * (scaleDown n d low).2 ≤ (scaleDown n d low).1 := by
      rw [← le_div_iff₀ pos, scaleDown_ratio, add_comm, zpow_add₀ (by norm_num)]
      exact (le_div_iff₀ (by positivity)).symm
    rw [scaled]
    exact_mod_cast Iff.rfl
  have best : ∃ e₀, exponentFor n d = max e₀ leastExponent ∧ (n : ℚ) / d < 2 ^ (e₀ + 53) ∧
      2 ^ (e₀ + 52) ≤ (n : ℚ) / d := by
    refine ⟨_, rfl, ?_⟩
    split_ifs with more
    · have more := test.1 more
      refine ⟨upper.trans_le (below (by omega)), ?_⟩
      convert more using 2
      ring
    · exact ⟨not_le.1 (mt test.2 more), (below (by omega)).trans lower.le⟩
  obtain ⟨e₀, exponent, upper, lower⟩ := best
  rw [exponent]
  refine ⟨le_max_right _ _, upper.trans_le (below (by omega)), ?_⟩
  rcases le_total e₀ leastExponent with tiny | normal
  · exact .inl (max_eq_right tiny)
  · rw [max_eq_left normal]
    exact .inr lower

theorem IsExponent.unique (h : IsExponent x e) (h' : IsExponent x f) : e = f := by
  -- Of two exponents the larger is not the least, so that it bounds the number from below.
  have apart {a b : Int} (ha : IsExponent x a) (hb : IsExponent x b) (lt : a < b) : False := by
    have full := hb.full.resolve_left (by have := ha.least; omega)
    have := full.trans_lt ha.lt
    rw [zpow_lt_zpow_iff_right₀ (by norm_num)] at this
    omega
  rcases lt_trichotomy e f with lt | same | lt
  · exact (apart h h' lt).elim
  · exact same
  · exact (apart h' h lt).elim

theorem IsCanonical.isExponent (h : IsCanonical m e) : IsExponent (m * 2 ^ e) e where
  least := h.least
  lt := by
    have : (m : ℚ) < 2 ^ 53 := by exact_mod_cast h.lt
    rw [zpow_add₀ (by norm_num), mul_comm]
    exact mul_lt_mul_of_pos_left (by exact_mod_cast this) (by positivity)
  full := by
    refine h.full.imp_right fun full => ?_
    have : (2 : ℚ) ^ 52 ≤ m := by exact_mod_cast full
    rw [zpow_add₀ (by norm_num), mul_comm]
    exact mul_le_mul_of_nonneg_right (by exact_mod_cast this) (by positivity)

/-! ## Rounding -/

/-- `m * 2 ^ e` is nearest to `x` among the multiples of the unit that leaves 53 bits of `x`. -/
structure RoundsTo (x : ℚ) (m : Nat) (e : Int) : Prop where
  canonical : IsCanonical m e
  nearest : ∃ (e₀ : Int) (m₀ : Nat), IsExponent x e₀ ∧ IsNearest (x / 2 ^ e₀) m₀ ∧
    (m : ℚ) * 2 ^ e = m₀ * 2 ^ e₀

theorem IsExponent.le_of_nearest (h : IsExponent x e) (near : IsNearest (x / 2 ^ e) m) :
    m ≤ 2 ^ 53 := by
  have bound : x / 2 ^ e ≤ ((2 ^ 53 : Int) : ℚ) := by
    rw [div_le_iff₀ (by positivity)]
    have := h.lt
    rw [add_comm, zpow_add₀ (by norm_num)] at this
    exact_mod_cast this.le
  exact_mod_cast near.le_of_le bound

theorem IsExponent.ge_of_nearest (h : IsExponent x e) (near : IsNearest (x / 2 ^ e) m) :
    e = leastExponent ∨ 2 ^ 52 ≤ m := by
  refine h.full.imp_right fun full => ?_
  have bound : ((2 ^ 52 : Int) : ℚ) ≤ x / 2 ^ e := by
    rw [le_div_iff₀ (by positivity)]
    rw [add_comm, zpow_add₀ (by norm_num)] at full
    exact_mod_cast full
  exact_mod_cast near.ge_of_ge bound

theorem ofRatio_roundsTo (negative : Bool) (hn : n ≠ 0) (hd : d ≠ 0)
    (small : (n : ℚ) / d < 2 ^ (greatestExponent - 1)) :
    ∃ m e, ofRatio negative n d = .finite negative m e ∧ RoundsTo (n / d) m e := by
  have exponent := exponentFor_isExponent hn hd
  simp only [ofRatio, if_neg hn]
  set e := exponentFor n d
  have near : IsNearest ((n : ℚ) / d / 2 ^ e)
      (divHalfEven (scaleDown n d e).1 (scaleDown n d e).2 : Nat) := by
    rw [← scaleDown_ratio]
    exact divHalfEven_nearest _ (Nat.pos_of_ne_zero (scaleDown_snd_ne n hd e))
  set m := divHalfEven (scaleDown n d e).1 (scaleDown n d e).2
  have room : e + 1 ≤ greatestExponent := by
    rcases exponent.full with least | full
    · rw [least]
      decide
    · have := full.trans_lt small
      rw [zpow_lt_zpow_iff_right₀ (by norm_num)] at this
      omega
  split_ifs with fits beyond beyond
  · omega
  · exact ⟨m, e, rfl, ⟨exponent.least, by omega, fits, exponent.ge_of_nearest near⟩, e, m, exponent,
      near, rfl⟩
  · omega
  · have carried : m = 2 ^ 53 := le_antisymm (exponent.le_of_nearest near) (not_lt.1 fits)
    have least := exponent.least
    refine ⟨2 ^ 52, e + 1, rfl, ⟨by omega, room, by norm_num, .inr le_rfl⟩, e, m, exponent, near, ?_⟩
    rw [carried, zpow_add₀ (by norm_num)]
    push_cast
    ring

theorem RoundsTo.le (h : RoundsTo x m e) (least : leastExponent ≤ f)
    (bound : x < (2 ^ 52 + 1 / 2) * 2 ^ f) : (m : ℚ) * 2 ^ e ≤ 2 ^ (f + 52) := by
  obtain ⟨e₀, m₀, exponent, near, same⟩ := h.nearest
  rw [same]
  rcases lt_trichotomy e₀ f with lt | rfl | gt
  · have : (m₀ : ℚ) ≤ 2 ^ 53 := by exact_mod_cast exponent.le_of_nearest near
    calc
      (m₀ : ℚ) * 2 ^ e₀ ≤ 2 ^ 53 * 2 ^ e₀ := mul_le_mul_of_nonneg_right this (by positivity)
      _ = 2 ^ (e₀ + 53) := by rw [add_comm, zpow_add₀ (by norm_num)]; rfl
      _ ≤ 2 ^ (f + 52) := zpow_le_zpow_right₀ (by norm_num) (by omega)
  · have half : x / 2 ^ e₀ < ((2 ^ 52 : Int) : ℚ) + 1 / 2 := by
      rw [div_lt_iff₀ (by positivity)]
      exact_mod_cast bound
    have : (m₀ : ℚ) ≤ 2 ^ 52 := by exact_mod_cast near.le_of_lt_half half
    rw [add_comm, zpow_add₀ (by norm_num)]
    exact mul_le_mul_of_nonneg_right (by exact_mod_cast this) (by positivity)
  · have full := exponent.full.resolve_left (by omega)
    have large : (2 : ℚ) ^ (53 + f) ≤ x :=
      (zpow_le_zpow_right₀ (by norm_num) (by omega)).trans full
    have unit : (0 : ℚ) < 2 ^ f := by positivity
    rw [zpow_add₀ (by norm_num)] at large
    have := large.trans_lt bound
    rw [mul_lt_mul_iff_left₀ unit] at this
    norm_num at this

theorem IsExponent.one_le (h : IsExponent x e) (large : 2 ^ leastExponent ≤ x) :
    ((1 : Int) : ℚ) ≤ x / 2 ^ e := by
  rw [le_div_iff₀ (by positivity), Int.cast_one, one_mul]
  rcases h.full with rfl | full
  · exact large
  · exact (zpow_le_zpow_right₀ (by norm_num) (by omega)).trans full

theorem RoundsTo.ne_zero (h : RoundsTo x m e) (large : 2 ^ leastExponent ≤ x) : m ≠ 0 := by
  obtain ⟨e₀, m₀, exponent, near, same⟩ := h.nearest
  have pos : (0 : ℚ) < m₀ := by exact_mod_cast near.ge_of_ge (exponent.one_le large)
  rintro rfl
  have : (0 : ℚ) < m₀ * 2 ^ e₀ := by positivity
  rw [← same, Nat.cast_zero, zero_mul] at this
  exact lt_irrefl _ this

theorem ofRatio_isPositive (hn : n ≠ 0) (hd : d ≠ 0) (large : (2 : ℚ) ^ leastExponent ≤ n / d) :
    (ofRatio false n d).isPositive := by
  have exponent := exponentFor_isExponent hn hd
  simp only [ofRatio, if_neg hn]
  set e := exponentFor n d
  have near : IsNearest ((n : ℚ) / d / 2 ^ e)
      (divHalfEven (scaleDown n d e).1 (scaleDown n d e).2 : Nat) := by
    rw [← scaleDown_ratio]
    exact divHalfEven_nearest _ (Nat.pos_of_ne_zero (scaleDown_snd_ne n hd e))
  have pos := near.ge_of_ge (exponent.one_le large)
  split_ifs
  · rfl
  · simp only [isPositive, Bool.not_false, Bool.true_and, decide_eq_true_eq]
    omega
  · rfl
  · rfl

theorem ofRatio_canonical (negative : Bool) (hn : n ≠ 0) (hd : d ≠ 0) (canonical : IsCanonical m e)
    (same : (n : ℚ) / d = m * 2 ^ e) :
    ofRatio negative n d = .finite negative m e := by
  have exponent : exponentFor n d = e :=
    (exponentFor_isExponent hn hd).unique (same ▸ canonical.isExponent)
  have near := divHalfEven_nearest (scaleDown n d e).1
    (Nat.pos_of_ne_zero (scaleDown_snd_ne n hd e))
  rw [scaleDown_ratio, same, mul_div_cancel_right₀ _ (by positivity)] at near
  have whole : divHalfEven (scaleDown n d e).1 (scaleDown n d e).2 = m := by
    exact_mod_cast near.unique (.self m)
  simp only [ofRatio, if_neg hn, exponent, whole, Nat.pow_eq, if_pos canonical.lt,
    if_neg (not_lt.2 canonical.greatest)]

/-! ## Sums -/

theorem unitsOf_value (negative : Bool) (m : Nat) {e unit : Int} (le : unit ≤ e) :
    (unitsOf negative m e unit : ℚ) * 2 ^ unit = (finite negative m e).value := by
  have split : (2 : ℚ) ^ e = 2 ^ (e - unit).toNat * 2 ^ unit := by
    rw [← zpow_natCast, ← zpow_add₀ (by norm_num)]
    congr 1
    omega
  cases negative <;> simp [unitsOf, value, split] <;> ring

theorem ratio_of_units (units : Nat) (unit : Int) :
    ((units * 2 ^ unit.toNat : Nat) : ℚ) / (2 ^ (-unit).toNat : Nat) = units * 2 ^ unit := by
  rw [two_zpow_eq]
  push_cast
  ring

theorem add_eq (n m : Bool) (a b : Nat) (e f : Int) :
    let x := (finite n a e).value + (finite m b f).value
    (x = 0 ∧ add (.finite n a e) (.finite m b f) = nought (n && m)) ∨
      (x ≠ 0 ∧ ∃ p q : Nat, p ≠ 0 ∧ q ≠ 0 ∧ (p : ℚ) / q = |x| ∧
        add (.finite n a e) (.finite m b f) = ofRatio (decide (x < 0)) p q) := by
  intro x
  set unit := min e f
  set sum := unitsOf n a e unit + unitsOf m b f unit with hsum
  have exact : x = (sum : ℚ) * 2 ^ unit := by
    rw [hsum, Int.cast_add, add_mul, unitsOf_value n a (min_le_left e f),
      unitsOf_value m b (min_le_right e f)]
  have pos : (0 : ℚ) < 2 ^ unit := by positivity
  have done : add (.finite n a e) (.finite m b f) = if sum = 0 then nought (n && m)
      else ofRatio (sum < 0) (sum.natAbs * 2 ^ unit.toNat) (2 ^ (-unit).toNat) := rfl
  by_cases zero : sum = 0
  · exact .inl ⟨by rw [exact, zero, Int.cast_zero, zero_mul], by rw [done, if_pos zero]⟩
  · have nonzero : x ≠ 0 := by
      rw [exact]
      exact mul_ne_zero (by exact_mod_cast zero) pos.ne'
    refine .inr ⟨nonzero, sum.natAbs * 2 ^ unit.toNat, 2 ^ (-unit).toNat, ?_, by positivity, ?_, ?_⟩
    · exact mul_ne_zero (Int.natAbs_ne_zero.2 zero) (by positivity)
    · rw [ratio_of_units, exact, abs_mul, abs_of_pos pos, Nat.cast_natAbs, Int.cast_abs]
    · have sign : x < 0 ↔ sum < 0 := by
        rw [exact, ← not_le, ← not_le, mul_nonneg_iff_of_pos_right pos]
        exact_mod_cast Iff.rfl
      rw [done, if_neg zero, decide_eq_decide.2 sign]

theorem add_bounded {b c : Binary64} (hb : b.isFinite) (hc : c.isFinite)
    (large : |b.value| ≤ 2 ^ (f + 52)) (small : |c.value| < 2 ^ (f - 1))
    (least : leastExponent ≤ f) (range : f + 53 ≤ greatestExponent - 1) :
    (b.add c).isFinite ∧ |(b.add c).value| ≤ 2 ^ (f + 52) := by
  cases b with
  | infinite | nan => cases hb
  | finite n a e =>
  cases c with
  | infinite | nan => cases hc
  | finite m b e' =>
  have bound : |(finite n a e).value + (finite m b e').value| < (2 ^ 52 + 1 / 2) * 2 ^ f := by
    have split : (2 ^ 52 + 1 / 2 : ℚ) * 2 ^ f = 2 ^ (f + 52) + 2 ^ (f - 1) := by
      rw [zpow_add₀ (by norm_num), zpow_sub₀ (by norm_num)]
      norm_num
      ring
    rw [split]
    exact (abs_add_le _ _).trans_lt (add_lt_add_of_le_of_lt large small)
  rcases add_eq n m a b e e' with ⟨-, sum⟩ | ⟨-, p, q, hp, hq, size, sum⟩ <;> rw [sum]
  · refine ⟨rfl, ?_⟩
    rw [value_nought, abs_zero]
    positivity
  · rw [← size] at bound
    have fits : (p : ℚ) / q < 2 ^ (greatestExponent - 1) :=
      calc
        (p : ℚ) / q < (2 ^ 52 + 1 / 2) * 2 ^ f := bound
        _ ≤ 2 ^ 53 * 2 ^ f := mul_le_mul_of_nonneg_right (by norm_num) (by positivity)
        _ = 2 ^ (f + 53) := by rw [add_comm, zpow_add₀ (by norm_num)]; rfl
        _ ≤ 2 ^ (greatestExponent - 1) := zpow_le_zpow_right₀ (by norm_num) range
    obtain ⟨k, g, rounded, near⟩ := ofRatio_roundsTo
      (decide ((finite n a e).value + (finite m b e').value < 0)) hp hq fits
    rw [rounded, abs_value]
    exact ⟨rfl, near.le least bound⟩

theorem nought_add (sign n : Bool) (hm : m ≠ 0) (canonical : IsCanonical m e) :
    add (nought sign) (.finite n m e) = .finite n m e := by
  have size : (0 : ℚ) < m * 2 ^ e := by positivity
  rcases add_eq sign n 0 m leastExponent e with ⟨zero, -⟩ | ⟨-, p, q, hp, hq, same, sum⟩
  · rw [← nought, value_nought, zero_add] at zero
    rw [← abs_eq_zero, abs_value] at zero
    exact absurd zero size.ne'
  · rw [← nought, value_nought, zero_add] at same sum
    rw [abs_value] at same
    rw [sum, ofRatio_canonical _ hp hq canonical same]
    have sign : decide ((finite n m e).value < 0) = n := by
      cases n
      · simpa [value] using size.le
      · simpa [value] using size
    rw [sign]

/-- A number without the sign of nought, as a money column holds it. -/
def settled : Binary64 → Binary64
  | .finite _ 0 _ => nought false
  | b => b

@[simp] theorem value_settled (b : Binary64) : b.settled.value = b.value := by
  cases b with
  | finite n m e => cases m <;> simp [settled, value, nought]
  | infinite | nan => rfl

@[simp] theorem isFinite_settled (b : Binary64) : b.settled.isFinite = b.isFinite := by
  cases b with
  | finite n m e => cases m <;> rfl
  | infinite | nan => rfl

theorem settled_finite (n : Bool) (hm : m ≠ 0) (e : Int) :
    settled (.finite n m e) = .finite n m e := by
  unfold settled
  split
  · rename_i same
    cases same
    exact absurd rfl hm
  · rfl

/-! ## Cents -/

def ofCents (k : Int) : Binary64 := ofRatio (k < 0) k.natAbs 100

def cents : Binary64 → Int
  | .finite n m e =>
    Decimal.signed n (divHalfEven (100 * m * 2 ^ e.toNat) (2 ^ (-e).toNat))
  | _ => 0

theorem toCents_isCents {b : Binary64} (hb : b.isFinite) : b.toCents.IsCents b.cents := by
  cases b with
  | infinite | nan => cases hb
  | finite n m e => exact Decimal.isCents_finite n _

theorem cents_nearest {b : Binary64} (hb : b.isFinite) : IsNearest (100 * b.value) b.cents := by
  cases b with
  | infinite | nan => cases hb
  | finite n m e =>
  have near := divHalfEven_nearest (100 * m * 2 ^ e.toNat) (d := 2 ^ (-e).toNat) (by positivity)
  have exact : ((100 * m * 2 ^ e.toNat : Nat) : ℚ) / (2 ^ (-e).toNat : Nat) = 100 * (m * 2 ^ e) := by
    rw [ratio_of_units]
    push_cast
    ring
  rw [exact] at near
  cases n
  · simpa [value, cents, Decimal.signed] using near
  · simpa [value, cents, Decimal.signed] using near.neg

theorem ofDecimal?_cents (n : Bool) {c : Nat} (hc : c < Decimal.centsBound) :
    ofDecimal? (.finite n c (-2)) = some (ofRatio n c 100) := by
  have digits := Decimal.digitCount_le_precision hc
  have near : ¬400 < Decimal.reach c (-2) ∧ ¬Decimal.reach c (-2) < -400 := by
    simp only [Decimal.reach, Decimal.precision] at digits ⊢
    omega
  simp only [ofDecimal?, if_neg near.1, if_neg near.2]
  split_ifs with zero
  · simp [ofRatio, zero]
  · simp

theorem ratio_of_decimal (c : Nat) (e : Int) :
    ((c * Nat.pow 10 e.toNat : Nat) : ℚ) / (Nat.pow 10 (-e).toNat : Nat) = c * 10 ^ e := by
  simp only [Nat.pow_eq]
  push_cast
  rw [zpow_eq_div (by norm_num) e, mul_div_assoc]

theorem ofDecimal?_isPositive {x : Decimal} (large : 1 / 100 ≤ x.value) :
    ∃ b, ofDecimal? x = some b ∧ b.isPositive := by
  cases x with
  | infinite | nan => norm_num [Decimal.value] at large
  | finite n c e =>
    have size : (0 : ℚ) ≤ c * 10 ^ e := by positivity
    cases n with
    | true =>
      simp only [Decimal.value, if_true] at large
      linarith
    | false =>
      simp only [Decimal.value, Bool.false_eq_true, if_false, one_mul] at large
      have nonzero : c ≠ 0 := by
        rintro rfl
        norm_num at large
      have notTiny : ¬Decimal.reach c e < -400 := by
        intro tiny
        have := calc
          (c : ℚ) * 10 ^ e < 10 ^ Decimal.reach c e := Decimal.size_lt_pow_reach c e
          _ ≤ 10 ^ (-2 : Int) := zpow_le_zpow_right₀ (by norm_num) (by omega)
        norm_num at this
        linarith
      simp only [ofDecimal?, if_neg nonzero, if_neg notTiny]
      split_ifs with huge
      · exact ⟨_, rfl, rfl⟩
      · refine ⟨_, rfl, ofRatio_isPositive (by simp [nonzero]) (by simp) ?_⟩
        rw [ratio_of_decimal]
        refine le_trans ?_ large
        exact (zpow_le_zpow_right₀ (n := -7) (by norm_num) (by decide)).trans (by norm_num)

theorem ofCents_eq {k : Int} (hk : k ≠ 0) (bound : (k.natAbs : ℚ) / 100 ≤ 2 ^ 54) :
    ∃ m e, ofCents k = .finite (k < 0) m e ∧ m ≠ 0 ∧ IsCanonical m e ∧ (m : ℚ) * 2 ^ e ≤ 2 ^ 54 := by
  have nonzero : k.natAbs ≠ 0 := Int.natAbs_ne_zero.2 hk
  have size : (k.natAbs : ℚ) / (100 : Nat) < (2 ^ 52 + 1 / 2) * 2 ^ (2 : Int) :=
    bound.trans_lt (by norm_num)
  have fits : (k.natAbs : ℚ) / (100 : Nat) < 2 ^ (greatestExponent - 1) :=
    calc
      (k.natAbs : ℚ) / (100 : Nat) ≤ 2 ^ 54 := bound
      _ < 2 ^ (55 : Int) := by norm_num
      _ ≤ 2 ^ (greatestExponent - 1) := zpow_le_zpow_right₀ (by norm_num) (by decide)
  have large : (2 : ℚ) ^ leastExponent ≤ k.natAbs / (100 : Nat) := by
    have one : (1 : ℚ) ≤ k.natAbs := by exact_mod_cast Nat.one_le_iff_ne_zero.2 nonzero
    calc
      (2 : ℚ) ^ leastExponent ≤ 2 ^ (-7 : Int) := zpow_le_zpow_right₀ (by norm_num) (by decide)
      _ ≤ 1 / (100 : Nat) := by norm_num
      _ ≤ k.natAbs / (100 : Nat) := by gcongr
  obtain ⟨m, e, rounded, near⟩ := ofRatio_roundsTo (decide (k < 0)) nonzero (d := 100) (by decide)
    fits
  have value_le := near.le (by decide) size
  exact ⟨m, e, rounded, near.ne_zero large, near.canonical, by exact_mod_cast value_le⟩

end Passbook.Binary64
