import Passbook.Proofs.Api.Breakdown
import Passbook.Proofs.Ledger.Kinds
import Passbook.Proofs.Number.Places
import Passbook.Proofs.Width.Requests

/-!
# What forms take and what the ledger takes

Amounts and kinds are tested twice, as fields of a form and by the ledger itself.
-/

namespace Passbook
open Money (check reject Overflows IsPayable check_of_cents cents_of_check isPayable_iff)
variable {field : String} {allowZero : Bool} {x y a : Decimal}

/-! ## Amounts -/

namespace Form

theorem testAmount_eq_ok : testAmount allowZero x = .ok y ↔ y = x ∧ x.isFinite ∧ x.places ≤ 2 ∧
    if allowZero then 0 ≤ x.value else 0 < x.value := by
  by_cases finite : x.isFinite
  · have below := Money.isBelow_iff finite (y := Money.zero) rfl
    have above := Money.isAbove_iff finite (y := Money.zero) rfl
    rw [Money.zero, Decimal.value_ofNat, Nat.cast_zero] at below above
    simp only [testAmount, Money.zero, finite]
    split_ifs with places nought negative positive <;> grind
  · simp [testAmount, finite]

theorem testAmount_of_check (passed : check field allowZero (some x) = .ok a) :
    testAmount allowZero x = .ok x := by
  obtain ⟨finite, same, n, cents, -, value, bound, sign⟩ := cents_of_check passed
  cases x with
  | infinite | nan => cases finite
  | finite n c e =>
  have payable : IsPayable allowZero (Decimal.finite n c e).value :=
    isPayable_iff.2 ⟨cents, same.symm.trans value, bound, sign⟩
  have whole : (c : ℚ) * 10 ^ e = cents * 10 ^ (-2 : Int) := by
    rw [← Decimal.abs_value n, ← same, value, abs_of_nonneg (by positivity)]
    norm_num
    ring
  exact testAmount_eq_ok.2
    ⟨rfl, rfl, Decimal.places_le_two whole (lt_centsBound bound), payable.sign⟩

end Form

namespace Money

theorem check_of_payable (finite : x.isFinite) (payable : IsPayable allowZero x.value) :
    ∃ a, check field allowZero (some x) = .ok a := by
  obtain ⟨cents, value, bound, sign⟩ := isPayable_iff.1 payable
  cases x with
  | infinite | nan => cases finite
  | finite n c e => exact ⟨_, check_of_cents value bound sign⟩

theorem greatest_lt_of_fit {c : Nat} {e : Int} {size : Decimal}
    (fits : Decimal.fit false c e = .ok size) (range : isAbove size greatestAmount) :
    9999999999999999.99 < (c : ℚ) * 10 ^ e := by
  have greatest : ((greatestCents : Nat) : ℚ) * 10 ^ (-2 : Int) = 9999999999999999.99 := by
    norm_num [greatestCents]
  by_contra within
  rw [not_lt, ← greatest] at within
  have size_le := Decimal.fit_le within (by decide) (by decide) fits
  rw [isAbove_iff (Decimal.fit_isFinite fits) rfl, greatestAmount, Decimal.value_ofCents] at range
  rw [abs_of_nonneg (Decimal.fit_nonneg fits), greatest] at size_le
  norm_num at range size_le
  linarith

theorem check_accepted (field : String) (accepted : Form.testAmount allowZero x = .ok x) :
    (∃ a, check field allowZero (some x) = .ok a) ∨
    (check field allowZero (some x) = reject field .outOfRange ∧ 9999999999999999.99 < x.value) ∨
    (check field allowZero (some x) = reject field .belowCents ∧ ¬x.IsHundredths) ∨
    Overflows (some x) ∧ ∃ fault, check field allowZero (some x) = .error (.arithmetic fault) := by
  obtain ⟨-, finite, -, sign⟩ := Form.testAmount_eq_ok.1 accepted
  have nonneg : 0 ≤ x.value := by
    cases allowZero
    · exact le_of_lt (by simpa using sign)
    · simpa using sign
  cases x with
  | infinite | nan => cases finite
  | finite n c e =>
  cases rounded : Decimal.fit false c e with
  | error fault =>
    have broken : check field allowZero (some (.finite n c e)) = .error (.arithmetic fault) := by
      simp [check, Decimal.isFinite, Decimal.magnitude?, rounded]
    exact .inr (.inr (.inr ⟨check_overflows.1 ⟨fault, broken⟩, fault, broken⟩))
  | ok size =>
  simp only [check, Decimal.isFinite, Decimal.magnitude?, Decimal.rescale, rounded, Bool.not_true,
    Bool.false_eq_true, if_false]
  by_cases range : isAbove size greatestAmount
  · have beyond := greatest_lt_of_fit rounded range
    rw [← Decimal.abs_value n, abs_of_nonneg nonneg] at beyond
    exact .inr (.inl ⟨if_pos range, beyond⟩)
  obtain ⟨cents, hcents⟩ :
    ∃ cents, Decimal.finite n (Decimal.coefficientAt c e (-2)) (-2) = cents := ⟨_, rfl⟩
  have cents_finite : cents.isFinite := by rw [← hcents]; rfl
  simp only [range, hcents, Bool.false_eq_true, if_false]
  by_cases exact : isEqual cents (.finite n c e)
  · -- The cents have the sign of the amount, which was tested before.
    have below : isBelow cents zero ↔ cents.value < 0 := by
      rw [isBelow_iff cents_finite rfl, zero, Decimal.value_ofNat, Nat.cast_zero]
    have above : isAbove cents zero ↔ 0 < cents.value := by
      rw [isAbove_iff cents_finite rfl, zero, Decimal.value_ofNat, Nat.cast_zero]
    rw [(isEqual_iff cents_finite rfl).1 exact] at below above
    refine .inl ⟨cents, ?_⟩
    cases allowZero <;> simp_all
  · refine .inr (.inr (.inl ⟨by simp [exact], fun whole => exact ?_⟩))
    obtain ⟨k, size⟩ := whole.size
    rw [Decimal.abs_value] at size
    rw [isEqual_iff cents_finite rfl, ← hcents]
    simp only [Decimal.coefficientAt_units size, Decimal.value, size]

end Money

/-- The two tests of an amount, that of forms and that of the ledger. -/
structure AmountsAgree (field : String) (allowZero : Bool) (x : Decimal) : Prop where
  taken : ∀ a, check field allowZero (some x) = .ok a →
    Form.testAmount allowZero x = .ok x ∧ a.value = x.value
  read : ∀ y, Form.testAmount allowZero x = .ok y → y = x
  enforced : Form.testAmount allowZero x = .ok x → x.isFinite ∧
    (if allowZero then 0 ≤ x.value else 0 < x.value) ∧ (x.IsShort → x.IsHundredths ∨ x.Vanishes)
  decided : Form.testAmount allowZero x = .ok x → x.IsShort → ¬x.Vanishes →
    ((∃ a, check field allowZero (some x) = .ok a) ↔ x.value ≤ 9999999999999999.99)
  refused : Form.testAmount allowZero x = .ok x → x.IsShort → ¬x.Vanishes →
    (((∃ fault, check field allowZero (some x) = reject field fault) ↔
      9999999999999999.99 < x.value) ↔ ¬Overflows (some x))
  reason : Form.testAmount allowZero x = .ok x → ∀ fault,
    check field allowZero (some x) = reject field fault →
      (fault = .outOfRange ∧ 9999999999999999.99 < x.value) ∨
        fault = .belowCents ∧ (¬x.IsShort ∨ x.Vanishes)

theorem amountsAgree (field : String) (allowZero : Bool) (x : Decimal) :
    AmountsAgree field allowZero x := by
  have whole (accepted : Form.testAmount allowZero x = .ok x) (short : x.IsShort)
      (lasting : ¬x.Vanishes) : x.IsHundredths := by
    obtain ⟨-, finite, places, -⟩ := Form.testAmount_eq_ok.1 accepted
    exact (Decimal.hundredths_of_places finite short places).resolve_right lasting
  have taken (accepted : Form.testAmount allowZero x = .ok x) (hundredths : x.IsHundredths) :
      (∃ a, check field allowZero (some x) = .ok a) ↔ x.value ≤ 9999999999999999.99 := by
    obtain ⟨-, finite, -, sign⟩ := Form.testAmount_eq_ok.1 accepted
    constructor
    · rintro ⟨a, passed⟩
      obtain ⟨-, same, n, cents, -, value, bound, positive⟩ := cents_of_check passed
      exact (isPayable_iff.2 ⟨cents, same.symm.trans value, bound, positive⟩).greatest
    · exact fun greatest => Money.check_of_payable finite ⟨hundredths, greatest, sign⟩
  constructor
  case taken =>
    exact fun a passed => ⟨Form.testAmount_of_check passed, (cents_of_check passed).2.1⟩
  case read => exact fun y accepted => (Form.testAmount_eq_ok.1 accepted).1
  case enforced =>
    intro accepted
    obtain ⟨-, finite, places, sign⟩ := Form.testAmount_eq_ok.1 accepted
    exact ⟨finite, sign, fun short => Decimal.hundredths_of_places finite short places⟩
  case decided => exact fun accepted short lasting => taken accepted (whole accepted short lasting)
  case refused =>
    intro accepted short lasting
    rw [← not_le, ← taken accepted (whole accepted short lasting)]
    rcases Money.check_cases field allowZero (some x) with
      ⟨fits, answer⟩ | ⟨overflows, fault, broken⟩
    · rcases answer with ⟨a, passed⟩ | ⟨fault, refused⟩
      · simp [fits, passed, reject, refuse]
      · simp [fits, refused, reject, refuse]
    · simp [overflows, broken, reject, refuse]
  case reason =>
    intro accepted fault refused
    rcases Money.check_accepted field accepted with ⟨a, passed⟩ | ⟨range, beyond⟩ |
      ⟨fractions, rest⟩ | ⟨-, fault', broken⟩
    · cases passed.symm.trans refused
    · cases range.symm.trans refused
      exact .inl ⟨rfl, beyond⟩
    · cases fractions.symm.trans refused
      refine .inr ⟨rfl, ?_⟩
      by_contra both
      rw [not_or, not_not] at both
      exact rest (whole accepted both.1 both.2)
    · cases broken.symm.trans refused

/-! ## Kinds -/

structure KindsAgree (text : String) : Prop where
  same : ∀ kind, Form.kind (.string text) = .ok kind ↔ normalizeKind (some text) = .ok kind
  named : ∀ kind, normalizeKind (some text) = .ok kind ↔ kind.IsNamedBy text
  settled : ∀ kind, normalizeKind (some text) = .ok kind → normalizeKind kind.text = .ok kind

theorem Form.kind_eq_ok {value : Json} {kind : Kind} : Form.kind value = .ok kind ↔
    ∃ text, value = .string text ∧ normalizeKind (some text) = .ok kind := by
  constructor
  · intro h
    unfold Form.kind at h
    split at h
    · rename_i text
      split at h
      · rename_i taken
        cases h
        exact ⟨text, rfl, taken⟩
      · cases h
    · cases h
    · cases h
  · rintro ⟨text, rfl, taken⟩
    unfold Form.kind
    simp only [taken]

theorem kindsAgree (text : String) : KindsAgree text :=
  ⟨fun _ => by simp [Form.kind_eq_ok], fun _ => normalizeKind_iff,
    fun _ taken => normalizeKind_text (normalizeKind_ok taken)⟩

/-! ## Calls from forms -/

namespace Form
variable {body : Json} {name : String}

theorem required_ok {α : Type} {read : Json → Except FieldFault α} {a : α}
    (h : required body name read = .ok a) : ∃ value, read value = .ok a := by
  unfold required at h
  split at h
  · exact ⟨_, located_ok h⟩
  · cases located_ok h

theorem optional_ok {α : Type} {read : Json → Except FieldFault α} {a : α}
    (h : optional body name read = .ok (some a)) : ∃ value, read value = .ok a := by
  unfold optional at h
  split at h
  · cases h
  · cases h
  · rename_i value _ _
    have found := located_ok h
    cases taken : read value with
    | error fault =>
      rw [taken] at found
      cases found
    | ok given =>
      rw [taken] at found
      cases found
      exact ⟨value, taken⟩

theorem amount_ok {value : Json} (h : amount allowZero value = .ok x) :
    testAmount allowZero x = .ok x := by
  obtain ⟨y, -, tested⟩ := Except.bind_eq_ok.1 h
  obtain ⟨rfl, -⟩ := testAmount_eq_ok.1 tested
  exact tested

end Form

theorem AccountForm.deposit_ok {body : Json} {form : AccountForm} (h : ofJson body = .ok form)
    (given : form.deposit = some x) : Form.testAmount true x = .ok x := by
  simp only [ofJson] at h
  split at h
  · rename_i label currency deposit
    cases h
    cases given
    obtain ⟨value, taken⟩ := Form.optional_ok deposit
    exact Form.amount_ok taken
  · cases h

theorem TransactionForm.tested_ok {body : Json} {form : TransactionForm}
    (h : ofJson body = .ok form) : Form.testAmount false form.amount = .ok form.amount ∧
      normalizeKind form.kind.text = .ok form.kind := by
  simp only [ofJson] at h
  split at h
  · rename_i account amount currency description kind
    cases h
    obtain ⟨value, taken⟩ := Form.required_ok amount
    obtain ⟨named, kind⟩ := Form.required_ok kind
    obtain ⟨text, -, known⟩ := Form.kind_eq_ok.1 kind
    exact ⟨Form.amount_ok taken, (kindsAgree text).settled _ known⟩
  · cases h

theorem PaymentForm.amount_ok {body : Json} {form : PaymentForm} (h : ofJson body = .ok form) :
    Form.testAmount false form.amount = .ok form.amount := by
  simp only [ofJson] at h
  split at h
  · rename_i account amount description number name
    cases h
    obtain ⟨value, taken⟩ := Form.required_ok amount
    exact Form.amount_ok taken
  · cases h

/-- Why a call fails that was made from a form. -/
inductive Call.FailsAs (call : Call) : Failure → Prop
  | range (field : String) (x : Decimal) (given : call.money? = some x)
      (beyond : 9999999999999999.99 < x.value) :
      FailsAs call (.refused (.invalidRequest (.money field .outOfRange)))
  | precision (field : String) (x : Decimal) (given : call.money? = some x)
      (fine : ¬x.IsShort ∨ x.Vanishes) :
      FailsAs call (.refused (.invalidRequest (.money field .belowCents)))
  | breakdown (fault : ArithmeticFault) (overflows : Overflows call.money?) :
      FailsAs call (.arithmetic fault)
  | payee (owner : Uuid) (name number : Option String)
      (asked : call = .createPayee owner name number)
      (blank : trimmed name = "" ∨ trimmed number = "") :
      FailsAs call (.refused (.invalidRequest .payeeFields))

theorem Call.FailsAs.of_check {call : Call} {failure : Failure} (given : call.money? = some x)
    (accepted : Form.testAmount allowZero x = .ok x)
    (failed : check field allowZero (some x) = .error failure) : call.FailsAs failure := by
  rcases Money.check_cases field allowZero (some x) with
    ⟨-, ⟨a, passed⟩ | ⟨fault, refused⟩⟩ | ⟨overflows, fault, broken⟩
  · cases passed.symm.trans failed
  · cases refused.symm.trans failed
    rcases (amountsAgree field allowZero x).reason accepted fault refused with
      ⟨rfl, beyond⟩ | ⟨rfl, fine⟩
    · exact .range field x given beyond
    · exact .precision field x given fine
  · cases broken.symm.trans failed
    exact .breakdown fault (given ▸ overflows)

namespace App
variable {owner : Uuid} {query : List (String × String)} {payload : Payload} {action : Action}
  {call : Call} {terms : Terms} {failure : Failure}

theorem callOf_failure (made : callOf owner query payload action = .ok call)
    (failed : call.operation terms = .error failure) : call.FailsAs failure := by
  cases action with
  | listAccounts | listPayees | deletePayees =>
    cases made
    cases failed
  | listTransactions =>
    obtain ⟨account, -, made⟩ := Except.bind_eq_ok.1 made
    cases made
    cases failed
  | createAccount =>
    obtain ⟨body, -, made⟩ := Except.bind_eq_ok.1 made
    obtain ⟨form, read, made⟩ := Except.bind_eq_ok.1 made
    cases made
    cases given : form.deposit with
    | none =>
      rw [given] at failed
      cases failed
    | some deposit =>
      have accepted := AccountForm.deposit_ok read given
      rw [given] at failed
      rcases Except.bind_eq_error.1 failed with failed | ⟨opening, -, failed⟩
      · exact .of_check (by simp [Call.money?]) accepted failed
      · cases failed
  | createTransaction =>
    obtain ⟨body, -, made⟩ := Except.bind_eq_ok.1 made
    obtain ⟨form, read, made⟩ := Except.bind_eq_ok.1 made
    cases made
    obtain ⟨accepted, known⟩ := TransactionForm.tested_ok read
    rcases Except.bind_eq_error.1 failed with failed | ⟨amount, -, failed⟩
    · exact .of_check rfl accepted failed
    · rw [known] at failed
      cases failed
  | createPayment =>
    obtain ⟨body, -, made⟩ := Except.bind_eq_ok.1 made
    obtain ⟨form, read, made⟩ := Except.bind_eq_ok.1 made
    cases made
    rcases Except.bind_eq_error.1 failed with failed | ⟨amount, -, failed⟩
    · exact .of_check rfl (PaymentForm.amount_ok read) failed
    · cases failed
  | createPayee =>
    obtain ⟨body, -, made⟩ := Except.bind_eq_ok.1 made
    obtain ⟨form, read, made⟩ := Except.bind_eq_ok.1 made
    cases made
    simp only [Call.operation] at failed
    split_ifs at failed with blank
    cases failed
    exact .payee _ _ _ rfl blank

end App

/-- The tests of amounts and kinds by forms and by the ledger. A call that was made from a form
fails for its amount alone, or for a payee that is blank. -/
theorem forms_agree (terms : Terms) : (∀ field allowZero x, AmountsAgree field allowZero x) ∧
    (∀ text, KindsAgree text) ∧
    ∀ owner query payload action call failure, App.callOf owner query payload action = .ok call →
      call.operation terms = .error failure → call.FailsAs failure :=
  ⟨amountsAgree, kindsAgree, fun _ _ _ _ _ _ => App.callOf_failure⟩

theorem forms_agree_trailing_nought :
    Form.testAmount false (.finite false 1500 (-3)) = .ok (.finite false 1500 (-3)) ∧
      ∃ a, check "Amount" false (some (.finite false 1500 (-3))) = .ok a := by
  have accepted :
      Form.testAmount false (.finite false 1500 (-3)) = .ok (.finite false 1500 (-3)) := by decide
  have short : (Decimal.finite false 1500 (-3)).IsShort :=
    ⟨1500, -3, by decide, Decimal.abs_value ..⟩
  have value : (Decimal.finite false 1500 (-3)).value = 3 / 2 := by norm_num [Decimal.value]
  have lasting : ¬(Decimal.finite false 1500 (-3)).Vanishes :=
    Decimal.not_vanishes (by rw [value]; norm_num)
  have agree := (forms_agree .standard).1 "Amount" false (.finite false 1500 (-3))
  refine ⟨accepted, (agree.decided accepted short lasting).2 ?_⟩
  rw [value]
  norm_num

/-- A deposit of one digit that forms take, and that is beyond the greatest amount, is not turned
away. -/
theorem forms_disagree :
    let x := Decimal.finite false 1 1000000
    Form.testAmount true x = .ok x ∧ x.IsShort ∧ ¬x.Vanishes ∧
      ¬((∃ fault, check "Initial deposit" true (some x) = reject "Initial deposit" fault) ↔
        9999999999999999.99 < x.value) := by
  intro x
  have accepted : Form.testAmount true x = .ok x := by decide
  have short : x.IsShort := ⟨1, 1000000, by decide, Decimal.abs_value ..⟩
  have lasting : ¬x.Vanishes := by
    refine Decimal.not_vanishes ?_
    rw [Decimal.abs_value, Nat.cast_one, one_mul]
    exact one_le_zpow₀ (by norm_num) (by decide)
  have broken : check "Initial deposit" true (some x) = .error (.arithmetic .overflow) := by decide
  exact ⟨accepted, short, lasting, fun agree =>
    ((amountsAgree _ _ x).refused accepted short lasting).1 agree
      (Money.check_overflows.1 ⟨_, broken⟩)⟩

end Passbook
