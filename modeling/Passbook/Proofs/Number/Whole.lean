import Passbook.Proofs.Number.Binary64
import Passbook.Proofs.Number.Fit

/-!
# Whole units

Whole units need no rounding, however they are written: sums of decimals are exact below 28 digits,
binary numbers and their sums below `2 ^ 53`.

- `Decimal.IsWhole`, `Binary64.IsWhole`: numbers of whole units
- `Decimal.IsUnits`, `IsUnits.add`, `IsUnits.negate`: decimal arithmetic on whole units, which may be
  any power of ten
- `Binary64.ofDecimal?_whole`, `Binary64.add_units`, `Binary64.IsWhole.toCents`: into binary numbers,
  arithmetic on these, and back
- `IsGenuine.take_whole`: whole units are taken from a balance of any cents without rounding
-/

namespace Passbook

theorem ite_mul_abs (x : ℚ) : (if x < 0 then -1 else 1) * |x| = x := by
  split_ifs with negative
  · rw [abs_of_neg negative]
    ring
  · rw [abs_of_nonneg (not_lt.1 negative), one_mul]

namespace Decimal
variable {x y : Decimal} {n m : Bool} {c d : Nat} {e f unit j k : Int}

structure IsWhole (x : Decimal) (k : Int) : Prop where
  isFinite : x.isFinite
  value : x.value = k

structure IsUnits (x : Decimal) (unit k : Int) : Prop where
  isFinite : x.isFinite
  value : x.value = k * 10 ^ unit

theorem isWhole_iff : x.IsWhole k ↔ x.IsUnits 0 k :=
  ⟨fun h => ⟨h.isFinite, by rw [h.value, zpow_zero, mul_one]⟩,
    fun h => ⟨h.isFinite, by rw [h.value, zpow_zero, mul_one]⟩⟩

theorem IsUnits.unique (h : x.IsUnits unit j) (h' : x.IsUnits unit k) : j = k := by
  have pos : (0 : ℚ) < 10 ^ unit := by positivity
  exact_mod_cast mul_right_cancel₀ pos.ne' (h.value.symm.trans h'.value)

theorem IsUnits.exceeds (hx : x.IsUnits unit j) (hy : y.IsUnits unit k) :
    x.exceeds? y = some (decide (k < j)) := by
  have pos : (0 : ℚ) < 10 ^ unit := by positivity
  rw [exceeds?_finite hx.isFinite hy.isFinite, hx.value, hy.value, Option.some.injEq,
    decide_eq_decide, mul_lt_mul_iff_left₀ pos]
  exact_mod_cast Iff.rfl

theorem IsWhole.unique (h : x.IsWhole j) (h' : x.IsWhole k) : j = k :=
  (isWhole_iff.1 h).unique (isWhole_iff.1 h')

theorem IsWhole.exceeds (hx : x.IsWhole j) (hy : y.IsWhole k) :
    x.exceeds? y = some (decide (k < j)) :=
  (isWhole_iff.1 hx).exceeds (isWhole_iff.1 hy)

theorem abs_value (n : Bool) (c : Nat) (e : Int) : |(finite n c e).value| = c * 10 ^ e := by
  cases n <;> simp [Decimal.value, abs_mul, abs_of_nonneg]

theorem IsUnits.size (h : (finite n c e).IsUnits unit k) :
    (c : ℚ) * 10 ^ e = k.natAbs * 10 ^ unit := by
  have pos : (0 : ℚ) < 10 ^ unit := by positivity
  rw [← abs_value n, h.value, abs_mul, abs_of_pos pos, Nat.cast_natAbs, Int.cast_abs]

theorem IsWhole.size (h : (finite n c e).IsWhole k) : (c : ℚ) * 10 ^ e = k.natAbs := by
  rw [(isWhole_iff.1 h).size, zpow_zero, mul_one]

/-! ## Where the first digit of whole units stands -/

theorem unit_lt_reach {units : Nat} (hc : c ≠ 0) (whole : (c : ℚ) * 10 ^ e = units * 10 ^ unit) :
    unit < reach c e := by
  have unit_pos : (0 : ℚ) < 10 ^ unit := by positivity
  have size : (0 : ℚ) < units * 10 ^ unit := by
    rw [← whole]
    positivity
  have one : (1 : ℚ) ≤ units := by
    exact_mod_cast Nat.cast_pos.1 ((mul_pos_iff_of_pos_right unit_pos).1 size)
  refine (zpow_lt_zpow_iff_right₀ (by norm_num : (1 : ℚ) < 10)).1 ?_
  calc
    (10 : ℚ) ^ unit ≤ units * 10 ^ unit := le_mul_of_one_le_left unit_pos.le one
    _ = c * 10 ^ e := whole.symm
    _ < 10 ^ reach c e := size_lt_pow_reach c e

/-! ## Arithmetic on whole units is exact -/

theorem fit_isUnits (h : (finite n c e).IsUnits unit k) (small : k.natAbs < centsBound)
    (tiny : tinyExponent ≤ unit) (top : unit ≤ topExponent) :
    ∃ z, fit n c e = .ok z ∧ z.IsUnits unit k := by
  obtain ⟨z, fits, finite, value⟩ := fit_units h.size small tiny top
  exact ⟨z, fits, finite, value.trans h.value⟩

theorem IsUnits.negate (h : x.IsUnits unit k) (pos : 0 < k) (small : k.natAbs < centsBound)
    (tiny : tinyExponent ≤ unit) (top : unit ≤ topExponent) :
    ∃ z, x.negate? = .ok z ∧ z.IsUnits unit (-k) := by
  cases x with
  | infinite | nan => cases h.isFinite
  | finite n c e =>
  have positive : (0 : ℚ) < k * 10 ^ unit := by
    have : (0 : ℚ) < k := by exact_mod_cast pos
    positivity
  have above := h.value
  cases n with
  | true =>
    have : (0 : ℚ) ≤ c * 10 ^ e := by positivity
    simp only [Decimal.value, if_true] at above
    linarith
  | false =>
    have hc : c ≠ 0 := by
      rintro rfl
      rw [value_nought] at above
      linarith
    have opposite : (finite true c e).IsUnits unit (-k) := by
      refine ⟨rfl, ?_⟩
      simp only [Decimal.value, Bool.false_eq_true, if_false, if_true, one_mul, neg_mul] at above ⊢
      rw [above, Int.cast_neg, neg_mul]
    simpa [negate?, hc] using fit_isUnits opposite (by rwa [Int.natAbs_neg]) tiny top

theorem unitsOf_value (n : Bool) (c : Nat) (le : unit ≤ e) :
    (unitsOf n c e unit : ℚ) * 10 ^ unit = (finite n c e).value := by
  have split : (10 : ℚ) ^ e = 10 ^ (e - unit).toNat * 10 ^ unit := by
    rw [← zpow_natCast, ← zpow_add₀ (by norm_num)]
    congr 1
    omega
  cases n <;> simp [unitsOf, Decimal.value, split] <;> ring

theorem value_scaled (n : Bool) (c : Nat) (le : unit ≤ e) :
    (finite n (c * Nat.pow 10 (e - unit).toNat) unit).value = (finite n c e).value := by
  rw [← unitsOf_value n c le]
  cases n <;> simp [unitsOf, Decimal.value]

theorem value_units (sum unit : Int) :
    (finite (sum < 0) sum.natAbs unit).value = sum * 10 ^ unit := by
  have signed := ite_mul_abs (sum : ℚ)
  simp only [Int.cast_lt_zero] at signed
  rw [Decimal.value, ← mul_assoc, Nat.cast_natAbs, Int.cast_abs]
  simp only [decide_eq_true_eq, signed]

theorem tameSmaller_near (large : reach c e ≤ unit + precision) (near : unit < reach d f) :
    tameSmaller c e d f = (d, f) := by
  have := digitCount_pos c
  have : ¬reach d f ≤ e + min (-1) ((digitCount c : Int) - precision - 2) := by
    simp only [reach, precision] at large near ⊢
    omega
  simp only [tameSmaller, if_neg this]

theorem addFinite_units (hx : (finite n c e).IsUnits unit j) (hy : (finite m d f).IsUnits unit k)
    (hj : j.natAbs < centsBound) (hk : k.natAbs < centsBound) (sum : (j + k).natAbs < centsBound)
    (tiny : tinyExponent ≤ unit) (top : unit ≤ topExponent) :
    ∃ z, addFinite n c e m d f = .ok z ∧ z.IsUnits unit (j + k) := by
  unfold addFinite
  by_cases hc : c = 0
  · obtain rfl : j = 0 := IsUnits.unique hx ⟨rfl, by simp [hc]⟩
    rw [if_pos hc, zero_add]
    by_cases hd : d = 0
    · obtain rfl : k = 0 := IsUnits.unique hy ⟨rfl, by simp [hd]⟩
      rw [if_pos hd]
      exact fit_isUnits ⟨rfl, by simp⟩ (by decide) tiny top
    · rw [if_neg hd]
      exact fit_isUnits ⟨rfl, (value_scaled m d (by simp only [precision]; omega)).trans hy.value⟩ hk
        tiny top
  · rw [if_neg hc]
    by_cases hd : d = 0
    · obtain rfl : k = 0 := IsUnits.unique hy ⟨rfl, by simp [hd]⟩
      rw [if_pos hd, add_zero]
      exact fit_isUnits ⟨rfl, (value_scaled n c (by simp only [precision]; omega)).trans hx.value⟩ hj
        tiny top
    · have near := unit_lt_reach hc hx.size
      have near' := unit_lt_reach hd hy.size
      have digits : reach c e ≤ unit + precision := reach_le_units hc hx.size hj
      have digits' : reach d f ≤ unit + precision := reach_le_units hd hy.size hk
      have same : (if e < f then tameSmaller d f c e else (c, e)) = (c, e) := by
        split_ifs
        · exact tameSmaller_near digits' near
        · rfl
      have same' : (if e < f then (d, f) else tameSmaller c e d f) = (d, f) := by
        split_ifs
        · rfl
        · exact tameSmaller_near digits near'
      simp only [if_neg hd, same, same']
      have exact : ((unitsOf n c e (min e f) + unitsOf m d f (min e f) : Int) : ℚ) *
          10 ^ min e f = ((j + k : Int) : ℚ) * 10 ^ unit := by
        rw [Int.cast_add, add_mul, unitsOf_value n c (min_le_left e f),
          unitsOf_value m d (min_le_right e f), hx.value, hy.value, Int.cast_add, add_mul]
      split_ifs with zero
      · rw [zero, Int.cast_zero, zero_mul] at exact
        refine fit_isUnits ⟨rfl, ?_⟩ sum tiny top
        rw [value_nought, exact]
      · exact fit_isUnits ⟨rfl, (value_units _ _).trans exact⟩ sum tiny top

theorem IsUnits.add (hx : x.IsUnits unit j) (hy : y.IsUnits unit k) (hj : j.natAbs < centsBound)
    (hk : k.natAbs < centsBound) (sum : (j + k).natAbs < centsBound)
    (tiny : tinyExponent ≤ unit) (top : unit ≤ topExponent) :
    ∃ z, x.add? y = .ok z ∧ z.IsUnits unit (j + k) := by
  cases x with
  | infinite | nan => cases hx.isFinite
  | finite n c e =>
  cases y with
  | infinite | nan => cases hy.isFinite
  | finite m d f => exact addFinite_units hx hy hj hk sum tiny top

theorem IsWhole.negate (h : x.IsWhole k) (pos : 0 < k) (small : k.natAbs < centsBound) :
    ∃ z, x.negate? = .ok z ∧ z.IsWhole (-k) := by
  simp only [isWhole_iff] at h ⊢
  exact h.negate pos small (by decide) (by decide)

theorem IsWhole.add (hx : x.IsWhole j) (hy : y.IsWhole k) (hj : j.natAbs < centsBound)
    (hk : k.natAbs < centsBound) (sum : (j + k).natAbs < centsBound) :
    ∃ z, x.add? y = .ok z ∧ z.IsWhole (j + k) := by
  simp only [isWhole_iff] at hx hy ⊢
  exact hx.add hy hj hk sum (by decide) (by decide)

end Decimal

/-! ## Binary numbers -/

namespace Binary64
variable {b b' : Binary64} {x : Decimal} {j k : Int}

structure IsWhole (b : Binary64) (k : Int) : Prop where
  isFinite : b.isFinite
  value : b.value = k

/-- The numbers that the arithmetic here makes: 53 bits and an exponent in its range. -/
def IsGenuine (b : Binary64) : Prop := ∃ n m e, b = .finite n m e ∧ IsCanonical m e

theorem IsGenuine.isFinite (h : b.IsGenuine) : b.isFinite := by
  obtain ⟨n, m, e, rfl, -⟩ := h
  rfl

theorem isGenuine_nought (n : Bool) : (nought n).IsGenuine :=
  ⟨n, 0, leastExponent, rfl, le_rfl, by decide, by norm_num, .inl rfl⟩

theorem IsGenuine.settled (h : b.IsGenuine) : b.settled.IsGenuine := by
  obtain ⟨n, m, e, rfl, canonical⟩ := h
  by_cases zero : m = 0
  · subst zero
    exact isGenuine_nought false
  · rw [settled_finite n zero]
    exact ⟨n, m, e, rfl, canonical⟩

theorem exists_canonical {units : Nat} {unit : Int} (pos : units ≠ 0) (small : units < 2 ^ 53)
    (least : leastExponent + 52 ≤ unit) (greatest : unit ≤ greatestExponent) :
    ∃ m e, IsCanonical m e ∧ (m : ℚ) * 2 ^ e = units * 2 ^ unit := by
  have log : Nat.log2 units < 53 := (Nat.log2_lt pos).2 small
  obtain ⟨shift, hshift⟩ : ∃ shift : Nat, Nat.log2 units + shift = 52 :=
    ⟨52 - Nat.log2 units, by omega⟩
  have upper : units * 2 ^ shift < 2 ^ 53 := by
    calc
      units * 2 ^ shift < 2 ^ (Nat.log2 units + 1) * 2 ^ shift :=
        Nat.mul_lt_mul_of_pos_right Nat.lt_log2_self (by positivity)
      _ = 2 ^ 53 := by rw [← pow_add]; congr 1; omega
  have lower : 2 ^ 52 ≤ units * 2 ^ shift := by
    calc
      2 ^ 52 = 2 ^ Nat.log2 units * 2 ^ shift := by rw [← pow_add, hshift]
      _ ≤ units * 2 ^ shift := Nat.mul_le_mul_right _ (Nat.log2_self_le pos)
  refine ⟨units * 2 ^ shift, unit - shift, ⟨by omega, by omega, upper, .inr lower⟩, ?_⟩
  rw [Nat.cast_mul, Nat.cast_pow, Nat.cast_ofNat, zpow_sub₀ (by norm_num), zpow_natCast]
  field_simp

theorem ofRatio_units (negative : Bool) {p q units : Nat} {unit : Int} (hp : p ≠ 0) (hq : q ≠ 0)
    (same : (p : ℚ) / q = units * 2 ^ unit) (small : units < 2 ^ 53)
    (least : leastExponent + 52 ≤ unit) (greatest : unit ≤ greatestExponent) :
    ∃ m e, ofRatio negative p q = .finite negative m e ∧ IsCanonical m e ∧
      (m : ℚ) * 2 ^ e = units * 2 ^ unit := by
  have nonzero : units ≠ 0 := by
    rintro rfl
    simp [hp, hq] at same
  obtain ⟨m, e, canonical, value⟩ := exists_canonical nonzero small least greatest
  exact ⟨m, e, ofRatio_canonical negative hp hq canonical (same.trans value.symm), canonical, value⟩

theorem ofRatio_whole (negative : Bool) {p q units : Nat} (hp : p ≠ 0) (hq : q ≠ 0)
    (same : (p : ℚ) / q = units) (small : units < 2 ^ 53) :
    ∃ m e, ofRatio negative p q = .finite negative m e ∧ (m : ℚ) * 2 ^ e = units := by
  rw [← mul_one (units : ℚ), ← zpow_zero (2 : ℚ)] at same
  obtain ⟨m, e, rounded, -, value⟩ :=
    ofRatio_units negative hp hq same small (by decide) (by decide)
  rw [zpow_zero, mul_one] at value
  exact ⟨m, e, rounded, value⟩

theorem ofDecimal?_whole (h : x.IsWhole k) (small : k.natAbs < 2 ^ 53) :
    ∃ b, ofDecimal? x = some b ∧ b.IsWhole k := by
  cases x with
  | infinite | nan => cases h.isFinite
  | finite n c e =>
  by_cases hc : c = 0
  · refine ⟨nought n, by simp [ofDecimal?, hc], rfl, ?_⟩
    rw [value_nought, ← h.value, hc, Decimal.value_nought]
  · have units := (Decimal.isWhole_iff.1 h).size
    have pos : 0 < Decimal.reach c e := Decimal.unit_lt_reach hc units
    have digits : Decimal.reach c e ≤ 0 + (16 : Nat) :=
      Decimal.reach_le_units hc units (small.trans (by decide))
    obtain ⟨m, f, rounded, size⟩ := ofRatio_whole n (by simp [hc]) (by simp)
      ((ratio_of_decimal c e).trans h.size) small
    refine ⟨.finite n m f, ?_, rfl, ?_⟩
    · simp only [ofDecimal?, if_neg hc, if_neg (show ¬400 < Decimal.reach c e by omega),
        if_neg (show ¬Decimal.reach c e < -400 by omega), rounded]
    · rw [← h.value, value, Decimal.value, size, h.size]

theorem add_units {unit : Int} (hb : b.isFinite) (hb' : b'.isFinite)
    (sum : b.value + b'.value = k * 2 ^ unit) (small : k.natAbs < 2 ^ 53)
    (least : leastExponent + 52 ≤ unit) (greatest : unit ≤ greatestExponent) :
    (b.add b').IsGenuine ∧ (b.add b').value = b.value + b'.value := by
  cases b with
  | infinite | nan => cases hb
  | finite n m e =>
  cases b' with
  | infinite | nan => cases hb'
  | finite n' m' e' =>
  rcases add_eq n n' m m' e e' with ⟨zero, added⟩ | ⟨-, p, q, hp, hq, size, added⟩ <;> rw [added]
  · exact ⟨isGenuine_nought _, by rw [value_nought, zero]⟩
  · set x := (finite n m e).value + (finite n' m' e').value
    have units : |x| = k.natAbs * 2 ^ unit := by
      rw [sum, abs_mul, abs_of_pos (by positivity : (0 : ℚ) < 2 ^ unit), Nat.cast_natAbs,
        Int.cast_abs]
    obtain ⟨a, f, rounded, canonical, value⟩ :=
      ofRatio_units (decide (x < 0)) hp hq (size.trans units) small least greatest
    rw [rounded]
    refine ⟨⟨_, a, f, rfl, canonical⟩, ?_⟩
    simpa only [Binary64.value, value, ← units, decide_eq_true_eq] using ite_mul_abs x

theorem IsWhole.add (hb : b.IsWhole j) (hb' : b'.IsWhole k) (small : (j + k).natAbs < 2 ^ 53) :
    (b.add b').IsWhole (j + k) := by
  have sum : b.value + b'.value = ((j + k : Int) : ℚ) * 2 ^ (0 : Int) := by
    rw [hb.value, hb'.value, zpow_zero, mul_one, Int.cast_add]
  obtain ⟨genuine, value⟩ :=
    add_units hb.isFinite hb'.isFinite sum small (by decide) (by decide)
  exact ⟨genuine.isFinite, by rw [value, sum, zpow_zero, mul_one]⟩

theorem IsWhole.toCents (h : b.IsWhole k) : b.toCents.IsWhole k := by
  have cents := toCents_isCents h.isFinite
  refine ⟨cents.isFinite, ?_⟩
  have near := cents_nearest h.isFinite
  rw [h.value] at near
  have exact : b.cents = 100 * k := by
    apply near.unique
    have := IsNearest.self (100 * k)
    push_cast at this
    exact this
  rw [cents.value, exact]
  push_cast
  ring

theorem IsWhole.settled (h : b.IsWhole k) : b.settled.IsWhole k :=
  ⟨by rw [isFinite_settled, h.isFinite], by rw [value_settled, h.value]⟩

/-! ## Taking whole units from an amount of money -/

theorem le_value_of_cents {units : Int} (finite : b.isFinite) (h : 100 * units ≤ b.cents) :
    (units : ℚ) - 1 / 200 ≤ b.value := by
  have close := (abs_le.1 (cents_nearest finite).close).1
  have : 100 * (units : ℚ) ≤ b.cents := by exact_mod_cast h
  linarith

theorem value_lt_of_cents {units : Int} (finite : b.isFinite) (h : b.cents < 100 * units) :
    b.value < units := by
  have close := (abs_le.1 (cents_nearest finite).close).2
  have : (b.cents : ℚ) + 1 ≤ 100 * units := by exact_mod_cast h
  linarith

/-- Of whole units that are taken from a larger balance, or from one that only reads as large, no bit
is lost: the difference is a multiple of the last bit of the balance, and is not longer. -/
theorem IsGenuine.sub_whole {units : Nat} (h : b.IsGenuine) (taken : b'.IsWhole (-(units : Int)))
    (pos : 0 < units) (covered : 100 * (units : Int) ≤ b.cents) (bound : b.cents < 100 * 2 ^ 53) :
    (b.add b').IsGenuine ∧ (b.add b').value = b.value - units := by
  obtain ⟨n, m, e, rfl, canonical⟩ := h
  set b := finite n m e with hb
  have least : (units : ℚ) - 1 / 200 ≤ b.value := by
    exact_mod_cast le_value_of_cents (b := b) rfl covered
  have greatest : b.value < ((2 ^ 53 : Int) : ℚ) := value_lt_of_cents rfl bound
  have one : (1 : ℚ) ≤ units := by exact_mod_cast pos
  have size : b.value = m * 2 ^ e := by
    rw [← abs_value n, ← hb, abs_of_nonneg (by linarith)]
  -- The last bit of the balance, or the whole unit if that is smaller.
  set unit := min e 0 with hunit
  have below : b.value < 2 ^ (unit + 53) := by
    rcases min_choice e 0 with same | same <;> rw [hunit, same]
    · exact size ▸ canonical.isExponent.lt
    · exact_mod_cast greatest
  set rest : Int := unitsOf false m e unit - unitsOf false units 0 unit with hrest
  have exact : b.value + b'.value = rest * 2 ^ unit := by
    rw [hrest, Int.cast_sub, sub_mul, unitsOf_value _ _ (min_le_left e 0),
      unitsOf_value _ _ (min_le_right e 0), taken.value, size]
    simp [value]
    ring
  have small : |b.value + b'.value| < 2 ^ (unit + 53) := by
    rw [taken.value, abs_lt]
    push_cast
    constructor <;> linarith
  have length : rest.natAbs < 2 ^ 53 := by
    have unit_pos : (0 : ℚ) < 2 ^ unit := by positivity
    rw [exact, abs_mul, abs_of_pos unit_pos, add_comm, zpow_add₀ (by norm_num),
      mul_lt_mul_iff_left₀ unit_pos] at small
    have : (rest.natAbs : ℚ) < 2 ^ 53 := by
      rw [Nat.cast_natAbs, Int.cast_abs]
      exact_mod_cast small
    exact_mod_cast this
  have tiny : leastExponent + 52 ≤ unit := by
    have : (2 : ℚ) ^ (-1 : Int) < 2 ^ (unit + 53) := by
      have half : (1 / 2 : ℚ) < b.value := by linarith
      exact lt_of_le_of_lt (by norm_num) (half.trans below)
    rw [zpow_lt_zpow_iff_right₀ (by norm_num)] at this
    simp only [leastExponent]
    omega
  have top : unit ≤ greatestExponent := (min_le_right e 0).trans (by decide)
  obtain ⟨genuine, value⟩ := add_units (b := b) rfl taken.isFinite exact length tiny top
  refine ⟨genuine, ?_⟩
  rw [value, taken.value]
  push_cast
  ring

/-- Whole units have an even number of cents, so that what is read back is less by just these. -/
theorem IsGenuine.take_whole {units : Nat} (h : b.IsGenuine) (taken : b'.IsWhole (-(units : Int)))
    (pos : 0 < units) (covered : 100 * (units : Int) ≤ b.cents) (bound : b.cents < 100 * 2 ^ 53) :
    (b.add b').settled.IsGenuine ∧ (b.add b').settled.cents = b.cents - 100 * units := by
  obtain ⟨genuine, rest⟩ := h.sub_whole taken pos covered bound
  have even : Even (100 * (units : Int)) := (by decide : Even (100 : Int)).mul_right _
  have near := (cents_nearest h.isFinite).sub_even even
  refine ⟨genuine.settled, (cents_nearest genuine.settled.isFinite).unique ?_⟩
  convert near using 1
  rw [value_settled, rest]
  push_cast
  ring

end Binary64

end Passbook
