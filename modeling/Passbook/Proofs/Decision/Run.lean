import Passbook.Proofs.Decision.Serving
import Passbook.Proofs.Ledger.Validation

/-!
# Callers can foresee what a transaction comes to

- `IsPayment`, `IsRequest`: an amount, and with it a word, that ask for a transaction
- `operation_request`, `operation_invalid`: only these reach a store
- `Decision`: what a transaction comes to, told from the owner's accounts
- `transaction_decided`: this is so after all calls of all owners, in memory and in the database
-/

namespace Passbook
open Passbook.Text

/-! ## Requests -/

def directionOf (kind : Option String) : String := lower (trimmed kind)

structure IsPayment (amount : Option Decimal) (x : ℚ) : Prop where
  amount : ∃ y, amount = some y ∧ y.isFinite ∧ y.value = x
  payable : Money.IsPayable false x

structure IsRequest (amount : Option Decimal) (kind : Option String) (x : ℚ) : Prop
    extends IsPayment amount x where
  kind : directionOf kind = "credit" ∨ directionOf kind = "debit"

section
variable {amount : Option Decimal} {kind : Option String} {x : ℚ}

theorem IsPayment.check (h : IsPayment amount x) (field : String) :
    ∃ y, Money.check field false amount = .ok y ∧ y.value = x := by
  obtain ⟨given, rfl, finite, rfl⟩ := h.amount
  obtain ⟨cents, value, bound, sign⟩ := Money.isPayable_iff.1 h.payable
  cases given with
  | infinite | nan => cases finite
  | finite n c e =>
    have taken : Money.check field false (some (.finite n c e)) = .ok _ :=
      Money.check_of_cents value bound sign
    exact ⟨_, taken, (Money.cents_of_check taken).2.1⟩

theorem isPayment_of_check {field : String} {y : Decimal}
    (h : Money.check field false amount = .ok y) : IsPayment amount y.value := by
  cases amount with
  | none => cases h
  | some given =>
    obtain ⟨finite, value, -, cents, -, size, bound, sign⟩ := Money.cents_of_check h
    exact ⟨⟨given, rfl, finite, value.symm⟩, Money.isPayable_iff.2 ⟨cents, size, bound, sign⟩⟩

theorem normalizeKind_request (known : directionOf kind = "credit" ∨ directionOf kind = "debit") :
    normalizeKind kind = .ok (if directionOf kind = "debit" then .debit else .credit) := by
  unfold normalizeKind
  rw [directionOf] at known ⊢
  rcases known with word | word <;> rw [word] <;> rfl

theorem normalizeKind_unknown
    (unknown : ¬(directionOf kind = "credit" ∨ directionOf kind = "debit")) :
    normalizeKind kind = refuse (.invalidRequest (.kind kind)) := by
  unfold normalizeKind
  rw [directionOf, not_or] at unknown
  split
  · exact absurd ‹_› unknown.1
  · exact absurd ‹_› unknown.2
  · rfl

end

section
variable (terms : Terms) (owner id : Uuid) (currency description : Option String)
  {amount : Option Decimal} {kind : Option String} {x : ℚ}

theorem operation_request (request : IsRequest amount kind x) : ∃ y : Decimal, y.value = x ∧
    (Call.applyTransaction owner id amount kind currency description).operation terms =
      .ok (.applyTransaction owner id y currency
        (if directionOf kind = "debit" then .debit else .credit) (some (description.getD ""))) := by
  obtain ⟨y, taken, value⟩ := request.check "Amount"
  refine ⟨y, value, ?_⟩
  simp only [Call.operation, taken, normalizeKind_request request.kind]
  rfl

theorem operation_invalid (fits : ¬Money.Overflows amount)
    (strange : ¬∃ x, IsRequest amount kind x) :
    ∃ fault, (Call.applyTransaction owner id amount kind currency description).operation terms =
      refuse (.invalidRequest fault) := by
  have answered : Money.Answered "Amount" (Money.check "Amount" false amount) :=
    Money.check_answered.2 fits
  rcases answered with ⟨y, taken⟩ | ⟨fault, rejected⟩
  · have unknown : ¬(directionOf kind = "credit" ∨ directionOf kind = "debit") :=
      fun known => strange ⟨y.value, isPayment_of_check taken, known⟩
    refine ⟨.kind kind, ?_⟩
    simp only [Call.operation, taken, normalizeKind_unknown unknown]
    rfl
  · refine ⟨.money "Amount" fault, ?_⟩
    simp only [Call.operation, rejected]
    rfl

end

/-! ## Decisions -/

/-- What a transaction on the account `id` comes to for an owner who has these accounts. -/
structure Decision (accounts : List Account) (owner id : Uuid) (amount : Option Decimal)
    (kind currency description : Option String) (result : Except Failure Answer) : Prop where
  invalid : (∃ fault, result = refuse (.invalidRequest fault)) ↔ ¬∃ x, IsRequest amount kind x
  unknown : ∀ x, IsRequest amount kind x →
    ((∃ named, result = refuse (.accountNotFound named)) ↔ ∀ a ∈ accounts, a.id ≠ id)
  short : ∀ x, IsRequest amount kind x → ∀ a ∈ accounts, a.id = id →
    ((∃ named asked left, result = refuse (.insufficientFunds named asked left)) ↔
      directionOf kind = "debit" ∧ a.balance.value < x)
  recorded : ∀ x, IsRequest amount kind x → ∀ a ∈ accounts, a.id = id →
    ¬(directionOf kind = "debit" ∧ a.balance.value < x) →
    ∃ t : Transaction, result = .ok (.transaction t) ∧ t.account = id ∧ t.owner = owner ∧
      t.kind = (if directionOf kind = "debit" then .debit else .credit) ∧ t.amount.value = x ∧
      t.currency = (if trimmed currency = "" then a.currency else some (upper (trimmed currency))) ∧
      t.description = some (description.getD "")
  names : ∀ named, result = refuse (.accountNotFound named) → named = id
  carries : ∀ named asked left, result = refuse (.insufficientFunds named asked left) →
    named = id ∧ IsRequest amount kind asked.value ∧ ∃ a ∈ accounts, a.id = id ∧ left = a.balance
  granted : ∀ target, result ≠ refuse (.accessDenied target)

section
variable {accounts : List Account} {owner id : Uuid} {amount : Option Decimal} {y : Decimal}
  {kind currency description : Option String} {result : Except Failure Answer} {x : ℚ}

theorem refuse_inj {r r' : Refusal} :
    (refuse r : Except Failure Answer) = refuse r' ↔ r = r' := by
  simp [refuse]

theorem ok_ne_refuse (answer : Answer) (r : Refusal) :
    (.ok answer : Except Failure Answer) ≠ refuse r := by
  simp [refuse]

theorem IsRequest.unique {x' : ℚ} (h : IsRequest amount kind x) (h' : IsRequest amount kind x') :
    x' = x := by
  obtain ⟨y, rfl, -, rfl⟩ := h.amount
  obtain ⟨y', same, -, rfl⟩ := h'.amount
  cases same
  rfl

namespace Decision

theorem of_invalid (fault : InvalidRequest) (none : ¬∃ x, IsRequest amount kind x) :
    Decision accounts owner id amount kind currency description
      (refuse (.invalidRequest fault)) where
  invalid := by simpa [refuse_inj] using none
  unknown x request := absurd ⟨x, request⟩ none
  short x request := absurd ⟨x, request⟩ none
  recorded x request := absurd ⟨x, request⟩ none
  names named := by simp [refuse_inj]
  carries named asked left := by simp [refuse_inj]
  granted target := by simp [refuse_inj]

theorem of_unknown (request : IsRequest amount kind x) (none : ∀ a ∈ accounts, a.id ≠ id) :
    Decision accounts owner id amount kind currency description
      (refuse (.accountNotFound id)) where
  invalid := by simpa [refuse_inj] using ⟨x, request⟩
  unknown x _ := by simpa [refuse_inj] using none
  short x _ a mem same := absurd same (none a mem)
  recorded x _ a mem same := absurd same (none a mem)
  names named same := by simpa [refuse_inj, eq_comm] using same
  carries named asked left := by simp [refuse_inj]
  granted target := by simp [refuse_inj]

variable {a : Account} (mem : a ∈ accounts) (has : a.id = id)
  (one : ∀ b ∈ accounts, b.id = id → b = a)
include mem has one

theorem of_short (request : IsRequest amount kind y.value) (debit : directionOf kind = "debit")
    (less : a.balance.value < y.value) :
    Decision accounts owner id amount kind currency description
      (refuse (.insufficientFunds id y a.balance)) where
  invalid := by simpa [refuse_inj] using ⟨_, request⟩
  unknown x _ := by simpa [refuse_inj] using ⟨a, mem, has⟩
  short x request' b hb same := by
    obtain rfl := one b hb same
    obtain rfl := request.unique request'
    simp [refuse_inj, debit, less]
  recorded x request' b hb same covered := by
    obtain rfl := one b hb same
    obtain rfl := request.unique request'
    exact absurd ⟨debit, less⟩ covered
  names named := by simp [refuse_inj]
  carries named asked left same := by
    cases refuse_inj.1 same
    exact ⟨rfl, request, a, mem, has, rfl⟩
  granted target := by simp [refuse_inj]

theorem of_recorded (request : IsRequest amount kind y.value)
    (covered : ¬(directionOf kind = "debit" ∧ a.balance.value < y.value)) {t : Transaction}
    (account : t.account = id) (mine : t.owner = owner)
    (direction : t.kind = if directionOf kind = "debit" then .debit else .credit)
    (size : t.amount = y) (money : t.currency = resolveCurrency currency a.currency)
    (text : t.description = some (description.getD "")) :
    Decision accounts owner id amount kind currency description (.ok (.transaction t)) where
  invalid := by simpa [ok_ne_refuse] using ⟨_, request⟩
  unknown x _ := by simpa [ok_ne_refuse] using ⟨a, mem, has⟩
  short x request' b hb same := by
    obtain rfl := one b hb same
    obtain rfl := request.unique request'
    simpa [ok_ne_refuse] using covered
  recorded x request' b hb same _ := by
    obtain rfl := one b hb same
    obtain rfl := request.unique request'
    refine ⟨t, rfl, account, mine, direction, by rw [size], ?_, text⟩
    rw [money, resolveCurrency_eq]
  names named := by simp [ok_ne_refuse]
  carries named asked left := by simp [ok_ne_refuse]
  granted target := ok_ne_refuse _ _

end Decision

theorem Verdict.decision (request : IsRequest amount kind y.value)
    (one : ∀ a ∈ accounts, ∀ b ∈ accounts, a.id = b.id → a = b)
    (h : Verdict accounts owner id y currency
      (if directionOf kind = "debit" then .debit else .credit) (some (description.getD "")) result) :
    Decision accounts owner id amount kind currency description result := by
  have only {a : Account} (mem : a ∈ accounts) (has : a.id = id) :
      ∀ b ∈ accounts, b.id = id → b = a := fun b hb same => one b hb a mem (same.trans has.symm)
  generalize direction : (if directionOf kind = "debit" then Kind.debit else .credit) = k at h
  have debit_iff : k = .debit ↔ directionOf kind = "debit" := by
    rw [← direction]
    split_ifs with word <;> simp [word]
  cases h with
  | unknown none => exact .of_unknown request none
  | short mem has debit less =>
    exact .of_short mem has (only mem has) request (debit_iff.1 debit) less
  | recorded stamp mem has covered =>
    refine .of_recorded mem has (only mem has) request ?_ rfl rfl direction.symm rfl rfl rfl
    rintro ⟨debit, less⟩
    exact (covered (debit_iff.2 debit)).not_gt less

end

namespace World
variable {terms : Terms} {w : World} {owner id : Uuid} {amount : Option Decimal}

theorem Regular.decides (h : w.Regular) (fits : ¬Money.Overflows amount)
    (kind currency description : Option String) :
    Decision (w.accounts owner) owner id amount kind currency description
      (w.perform terms (.applyTransaction owner id amount kind currency description)).result := by
  by_cases request : ∃ x, IsRequest amount kind x
  · obtain ⟨x, request⟩ := request
    obtain ⟨y, rfl, valid⟩ := operation_request terms owner id currency description request
    exact (perform_verdict h valid).decision request fun a ha b hb => h.one ha hb
  · obtain ⟨fault, invalid⟩ := operation_invalid terms owner id currency description fits request
    have result : (w.perform terms (.applyTransaction owner id amount kind currency
        description)).result = refuse (.invalidRequest fault) := by
      simp only [perform, invalid]
      rfl
    rw [result]
    exact .of_invalid fault request

/-- After any calls of any owners on new stores, without failures: what becomes of a transaction
depends on its arguments and on the accounts that its owner is shown, and a call that fails changes
nothing. -/
theorem transaction_decided (terms : Terms) {start : World} (empty : start.book = .empty)
    (bare : start.rows = ⟨[], [], []⟩) (faultFree : start.FaultFree) (calls : List Call)
    (owner id : Uuid) (amount : Option Decimal) (kind currency description : Option String)
    (fits : ¬Money.Overflows amount) :
    let w := (run terms calls start).2
    let served := w.perform terms (.applyTransaction owner id amount kind currency description)
    Decision (w.accounts owner) owner id amount kind currency description served.result ∧
      (w.usesDatabase ∨ w.accounts owner ≠ [] →
        (w.perform terms (.listAccounts owner)).result = .ok (.accounts (w.accounts owner))) ∧
      ∀ failure, served.result = .error failure →
        served.state.book = w.book ∧ served.state.rows = w.rows := by
  intro w served
  have regular : w.Regular := run_regular terms calls empty bare faultFree
  exact ⟨regular.decides fits kind currency description, listAccounts_shown regular,
    fun failure => perform_failed⟩

theorem transaction_decided_short :
    let w := (run .standard soberCalls newDurable).2
    let amount : Option Decimal := some (.ofCents 6976)
    let served := w.perform .standard
      (.applyTransaction ⟨1⟩ (Supply.issuedId 2) amount (some " DEBIT ") none none)
    w.accounts ⟨1⟩ = [soberAccount] ∧
      Decision (w.accounts ⟨1⟩) ⟨1⟩ (Supply.issuedId 2) amount (some " DEBIT ") none none
        served.result ∧
      served.result = refuse (.insufficientFunds (Supply.issuedId 2) (.ofCents 6976)
        (.ofCents 6975)) := by
  intro w amount served
  have answered : Money.Answered "Amount" (Money.check "Amount" false amount) :=
    .inl ⟨.ofCents 6976, by decide +kernel⟩
  have faultFree : newDurable.FaultFree := ⟨rfl, .inr (.inl ⟨_, rfl, rfl⟩)⟩
  have decided := transaction_decided .standard (rfl : newDurable.book = .empty) rfl faultFree
    soberCalls ⟨1⟩ (Supply.issuedId 2) amount (some " DEBIT ") none none
    (Money.check_answered.1 answered)
  exact ⟨by decide +kernel, decided.1, by decide +kernel⟩

end World

end Passbook
