import Passbook.Proofs.Ledger.Denotation
import Passbook.Proofs.Ledger.Money

/-!
# Which amounts are taken

- `Money.IsPayable`: whole cents in the range of amounts
- `Money.validate_iff`: a value is taken if it denotes such an amount, and as exactly this amount
- `Money.Overflows`, `Money.check_overflows`: the amounts so large that the test breaks down
- `Money.validate_answered`: all other values are taken or turned away
-/

namespace Passbook.Money
open Decimal
variable {field : String} {allowZero : Bool} {v : Json} {x : ℚ}

structure IsPayable (allowZero : Bool) (x : ℚ) : Prop where
  cents : ∃ k : Int, 100 * x = k
  greatest : x ≤ 9999999999999999.99
  sign : if allowZero then 0 ≤ x else 0 < x

theorem isPayable_iff : IsPayable allowZero x ↔
    ∃ cents : Nat, x = cents / 100 ∧ cents ≤ greatestCents ∧ (allowZero = true ∨ 0 < cents) := by
  constructor
  · rintro ⟨⟨k, hk⟩, greatest, sign⟩
    obtain rfl : x = k / 100 := by linarith
    have nonneg : (0 : ℚ) ≤ k / 100 := by
      cases allowZero
      · exact le_of_lt (by simpa using sign)
      · simpa using sign
    have := Int.cast_nonneg_iff.1 (show (0 : ℚ) ≤ k by linarith)
    obtain ⟨cents, rfl⟩ := Int.eq_ofNat_of_zero_le this
    refine ⟨cents, by simp, ?_, ?_⟩
    · rw [Int.cast_natCast, div_le_iff₀ (by norm_num)] at greatest
      norm_num at greatest
      exact greatest
    · cases allowZero
      · right
        have : (0 : ℚ) < cents := by
          simp at sign
          exact_mod_cast sign
        exact_mod_cast this
      · exact .inl rfl
  · rintro ⟨cents, rfl, bound, sign⟩
    have bound' : (cents : ℚ) ≤ (greatestCents : Nat) := by exact_mod_cast bound
    refine ⟨⟨cents, by push_cast; ring⟩, ?_, ?_⟩
    · rw [div_le_iff₀ (by norm_num)]
      exact bound'.trans (by norm_num [greatestCents])
    rcases sign with rfl | pos
    · simp only [if_true]
      positivity
    · have : (0 : ℚ) < cents / 100 := by positivity
      split_ifs
      · exact this.le
      · exact this

theorem check_of_cents {n : Bool} {c cents : Nat} {e : Int}
    (value : (finite n c e).value = cents / 100) (bound : cents ≤ greatestCents)
    (sign : allowZero = true ∨ 0 < cents) :
    check field allowZero (some (.finite n c e)) = .ok (.finite n cents (-2)) := by
  have whole : (c : ℚ) * 10 ^ e = cents * 10 ^ (-2 : Int) := by
    rw [← abs_value n, value, abs_of_nonneg (by positivity)]
    norm_num
    ring
  obtain ⟨size, fits, isFinite, same⟩ := fit_units (n := false) whole
    (bound.trans_lt (by decide)) (by decide) (by decide)
  have size_eq : size.value = cents / 100 := by
    rw [same, ← value_ofCents]
    simp only [ofCents, Decimal.value, whole]
  have kept : (finite n cents (-2)).value = cents / 100 := by
    rw [← value]
    simp only [Decimal.value, whole]
  have inRange : ¬isAbove size greatestAmount := by
    rw [isAbove_iff isFinite rfl, greatestAmount, size_eq, value_ofCents, not_lt]
    have : (cents : ℚ) ≤ (greatestCents : Nat) := by exact_mod_cast bound
    exact div_le_div_of_nonneg_right this (by norm_num)
  have exact : isEqual (.finite n cents (-2)) (.finite n c e) := by
    rw [isEqual_iff rfl rfl, kept, value]
  simp only [check, Decimal.isFinite, magnitude?, fits, rescale, coefficientAt_units whole, inRange,
    exact, Bool.not_true, Bool.false_eq_true, if_false]
  cases allowZero with
  | true =>
    have : ¬isBelow (.finite n cents (-2)) zero := by
      rw [isBelow_iff rfl rfl, kept, zero, value_ofNat, not_lt, Nat.cast_zero]
      positivity
    simp [this]
  | false =>
    have pos : 0 < cents := by simpa using sign
    have : isAbove (.finite n cents (-2)) zero := by
      rw [isAbove_iff rfl rfl, kept, zero, value_ofNat, Nat.cast_zero]
      positivity
    simp [this]

theorem check_of_amount {a : Decimal} (amount : a.IsAmount) (field : String) (allowZero : Bool) :
    check field allowZero (some a) = .ok a := by
  obtain ⟨cents, pos, bound, rfl⟩ := amount
  exact check_of_cents (value_ofCents cents) bound (.inr pos)

theorem cents_of_check {y a : Decimal} (h : check field allowZero (some y) = .ok a) :
    y.isFinite ∧ a.value = y.value ∧ ∃ n cents, a = .finite n cents (-2) ∧
      a.value = cents / 100 ∧ cents ≤ greatestCents ∧ (allowZero = true ∨ 0 < cents) := by
  obtain ⟨n, cents, same, bound, sign⟩ := check_cents h
  obtain ⟨n', c, e, size, given, -, -, form, exact, -⟩ := check_eq_ok h
  cases given
  rw [isEqual_iff (by rw [form]; rfl) rfl] at exact
  have finite : a.isFinite := by rw [same]; rfl
  have size : |a.value| = cents / 100 := by
    rw [same, abs_value]
    norm_num
    ring
  rw [isBelow_iff finite rfl, isAbove_iff finite rfl, zero, value_ofNat, Nat.cast_zero] at sign
  refine ⟨rfl, exact, n, cents, same, ?_, bound, ?_⟩
  · rw [← size, abs_of_nonneg]
    cases allowZero
    · exact le_of_lt (by simpa using sign)
    · simpa using sign
  · cases allowZero
    · right
      have pos : 0 < |a.value| := abs_pos_of_pos (by simpa using sign)
      rw [size] at pos
      exact_mod_cast (div_pos_iff_of_pos_right (by norm_num)).1 pos
    · exact .inl rfl

theorem validate_eq_ok {a : Decimal} : validate field allowZero v = .ok a ↔
    ∃ y, v.toDecimal = .ok y ∧ check field allowZero (some y) = .ok a := by
  simp only [validate, Json.amount]
  cases v.toDecimal with
  | ok y => simp
  | error unread => cases unread <;> simp [check, reject, refuse]

/-- A value is taken if and only if it denotes an amount, and then it is taken as this amount, with
two places. -/
theorem validate_iff (field : String) (allowZero : Bool) (v : Json) :
    ((∃ a, validate field allowZero v = .ok a) ↔
      ∃ x, (v.Denotes x ∨ v.DenotesInParts x) ∧ IsPayable allowZero x) ∧
    ∀ a, validate field allowZero v = .ok a →
      (∀ x, v.Denotes x ∨ v.DenotesInParts x → a.value = x) ∧ (∃ n c, a = .finite n c (-2)) ∧
        ∀ field', check field' allowZero (some a) = .ok a := by
  refine ⟨⟨?_, ?_⟩, fun a h => ?_⟩
  · rintro ⟨a, h⟩
    obtain ⟨y, read, passed⟩ := validate_eq_ok.1 h
    obtain ⟨finite, same, -, cents, -, value, bound, sign⟩ := cents_of_check passed
    exact ⟨y.value, Json.denotes_iff.2 ⟨y, read, finite, rfl⟩,
      isPayable_iff.2 ⟨cents, same.symm.trans value, bound, sign⟩⟩
  · rintro ⟨x, denotes, payable⟩
    obtain ⟨y, read, finite, rfl⟩ := Json.denotes_iff.1 denotes
    obtain ⟨cents, value, bound, sign⟩ := isPayable_iff.1 payable
    cases y with
    | infinite | nan => cases finite
    | finite n c e => exact ⟨_, validate_eq_ok.2 ⟨_, read, check_of_cents value bound sign⟩⟩
  · obtain ⟨y, read, passed⟩ := validate_eq_ok.1 h
    obtain ⟨-, same, n, cents, rfl, value, bound, sign⟩ := cents_of_check passed
    refine ⟨fun x denotes => ?_, ⟨n, cents, rfl⟩, fun field' => check_of_cents value bound sign⟩
    obtain ⟨y', read', -, rfl⟩ := Json.denotes_iff.1 denotes
    obtain rfl : y = y' := by simpa using read.symm.trans read'
    exact same

theorem validate_trailing_nought :
    validate "Amount" false (.string "1.500") = .ok (.ofCents 150) ∧
      ∀ field, check field false (some (.ofCents 150)) = .ok (.ofCents 150) := by
  have taken : validate "Amount" false (.string "1.500") = .ok (.ofCents 150) := by decide +kernel
  exact ⟨taken, ((validate_iff "Amount" false (.string "1.500")).2 _ taken).2.2⟩

/-- A list is taken that is neither a text nor a number: `[0, [5], 0]` is five. -/
theorem validate_list :
    ¬((∃ a, validate "Amount" false (.array [.int 0, .array [.int 5], .int 0]) = .ok a) ↔
      ∃ x, Json.Denotes (.array [.int 0, .array [.int 5], .int 0]) x ∧ IsPayable false x) := by
  have taken : validate "Amount" false (.array [.int 0, .array [.int 5], .int 0]) =
      .ok (.ofCents 500) := by decide +kernel
  intro same
  obtain ⟨x, denotes, -⟩ := same.1 ⟨_, taken⟩
  cases denotes

/-! ## Amounts that are neither taken nor turned away -/

def Overflows (given : Option Decimal) : Prop :=
  ∃ x, given = some x ∧ x.isFinite ∧ overflowBound ≤ |x.value|

def Answered (field : String) (result : Except Failure Decimal) : Prop :=
  (∃ a, result = .ok a) ∨ ∃ fault, result = .error (.refused (.invalidRequest (.money field fault)))

theorem answered_reject (field : String) (fault : MoneyFault) :
    Answered field (reject field fault) :=
  .inr ⟨fault, rfl⟩

theorem Answered.not_arithmetic {result : Except Failure Decimal} (h : Answered field result)
    (fault : ArithmeticFault) : result ≠ .error (.arithmetic fault) := by
  rintro rfl
  rcases h with ⟨a, h⟩ | ⟨fault, h⟩ <;> cases h

theorem check_cases (field : String) (allowZero : Bool) (given : Option Decimal) :
    (¬Overflows given ∧ Answered field (check field allowZero given)) ∨
      Overflows given ∧ ∃ fault, check field allowZero given = .error (.arithmetic fault) := by
  cases given with
  | none => exact .inl ⟨by simp [Overflows], answered_reject field _⟩
  | some x =>
  cases x with
  | infinite | nan => exact .inl ⟨by simp [Overflows, Decimal.isFinite], answered_reject field _⟩
  | finite n c e =>
  have overflows : Overflows (some (finite n c e)) ↔ ¬∃ size, fit false c e = .ok size := by
    rw [fit_ok_iff, not_lt, ← abs_value n]
    simp [Overflows, Decimal.isFinite]
  simp only [overflows, check, Decimal.isFinite, magnitude?]
  cases rounded : fit false c e with
  | error fault => exact .inr ⟨by simp, fault, rfl⟩
  | ok size =>
    refine .inl ⟨by simp, ?_⟩
    simp only [Bool.not_true, Bool.false_eq_true, if_false]
    split_ifs <;> first | exact answered_reject field _ | exact .inl ⟨_, rfl⟩

theorem check_overflows {given : Option Decimal} :
    (∃ fault, check field allowZero given = .error (.arithmetic fault)) ↔ Overflows given := by
  rcases check_cases field allowZero given with ⟨fits, answered⟩ | ⟨overflows, broken⟩
  · simp only [fits, iff_false, not_exists]
    exact answered.not_arithmetic
  · simp only [overflows, broken]

theorem check_answered {given : Option Decimal} :
    Answered field (check field allowZero given) ↔ ¬Overflows given := by
  rcases check_cases field allowZero given with ⟨fits, answered⟩ | ⟨overflows, fault, broken⟩
  · simp only [fits, answered, not_false_eq_true]
  · simp only [overflows, not_true, iff_false]
    exact fun answered => answered.not_arithmetic fault broken

theorem overflows_iff {y : Decimal} (read : v.toDecimal = .ok y) :
    Overflows (some y) ↔ ∃ x, (v.Denotes x ∨ v.DenotesInParts x) ∧ overflowBound ≤ |x| := by
  constructor
  · rintro ⟨x, same, finite, large⟩
    cases same
    exact ⟨_, Json.denotes_iff.2 ⟨y, read, finite, rfl⟩, large⟩
  · rintro ⟨x, denotes, large⟩
    obtain ⟨y', read', finite, rfl⟩ := Json.denotes_iff.1 denotes
    obtain rfl : y = y' := by simpa using read.symm.trans read'
    exact ⟨y, rfl, finite, large⟩

theorem validate_answered (field : String) (allowZero : Bool) (v : Json) :
    Answered field (validate field allowZero v) ↔ ¬(v.toDecimal = .error .beyondWord ∨
      ∃ x, (v.Denotes x ∨ v.DenotesInParts x) ∧ overflowBound ≤ |x|) := by
  cases read : v.toDecimal with
  | ok y =>
    have result : validate field allowZero v = check field allowZero (some y) := by
      simp [validate, Json.amount, read]
    simp [result, check_answered, overflows_iff read]
  | error unread =>
    have noNumber : ¬∃ x, (v.Denotes x ∨ v.DenotesInParts x) ∧ overflowBound ≤ |x| := by
      rintro ⟨x, denotes, -⟩
      obtain ⟨y, read', -⟩ := Json.denotes_iff.1 denotes
      rw [read] at read'
      cases read'
    simp only [noNumber, or_false]
    cases unread with
    | notANumber =>
      have result : validate field allowZero v = reject field .notANumber := by
        simp [validate, Json.amount, read, check]
      simp [result, answered_reject]
    | beyondWord =>
      have result : validate field allowZero v = .error (.arithmetic .beyondWord) := by
        simp [validate, Json.amount, read]
      simp only [result, not_true, iff_false]
      exact fun answered => answered.not_arithmetic _ rfl

end Passbook.Money
