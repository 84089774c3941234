import Passbook.Proofs.Ledger.Failure
import Passbook.Proofs.Ledger.Supply
import Passbook.Service.Call
import Passbook.Store.Durable

namespace Passbook

/-- A permutation can be made to send `a` to `b`; nothing else changes but what was sent there. -/
theorem exists_perm_sending {α : Type} [DecidableEq α] (e : Equiv.Perm α) (a b : α) :
    ∃ e' : Equiv.Perm α, e' a = b ∧ ∀ c, c ≠ a → e c ≠ b → e' c = e c :=
  ⟨e.trans (Equiv.swap (e a) b), Equiv.swap_apply_left _ _, fun _ other kept =>
    Equiv.swap_apply_of_ne_of_ne (e.injective.ne other) kept⟩

structure Renaming where
  id : Equiv.Perm Uuid
  number : Equiv.Perm String
  moments : Set Int
  time : Int → Int
  rising : StrictMonoOn time moments

namespace Renaming
variable (ρ : Renaming)

def instant (t : Instant) : Instant := ⟨ρ.time t.micros⟩

def stamp (stamp : Stamp) : Stamp := ⟨ρ.instant stamp.now, ρ.id stamp.first, ρ.id stamp.second⟩

def account (a : Account) : Account :=
  { a with
    id := ρ.id a.id, number := ρ.number a.number, createdAt := ρ.instant a.createdAt,
    updatedAt := ρ.instant a.updatedAt }

def transaction (t : Transaction) : Transaction :=
  { t with id := ρ.id t.id, account := ρ.id t.account, createdAt := ρ.instant t.createdAt }

def payee (p : Payee) : Payee := { p with id := ρ.id p.id, createdAt := ρ.instant p.createdAt }

def accountRow (row : AccountRow) : AccountRow :=
  { row with
    id := ρ.id row.id, number := ρ.number row.number, createdAt := ρ.instant row.createdAt,
    updatedAt := ρ.instant row.updatedAt }

def transactionRow (row : TransactionRow) : TransactionRow :=
  { row with
    id := ρ.id row.id, account := ρ.id row.account, createdAt := ρ.instant row.createdAt }

def payeeRow (row : PayeeRow) : PayeeRow :=
  { row with id := ρ.id row.id, createdAt := ρ.instant row.createdAt }

def shelf (shelf : Shelf) : Shelf :=
  ⟨shelf.accounts.map ρ.account, shelf.transactions.map ρ.transaction, shelf.payees.map ρ.payee⟩

def answer : Answer → Answer
  | .account a => .account (ρ.account a)
  | .accounts as => .accounts (as.map ρ.account)
  | .transaction t => .transaction (ρ.transaction t)
  | .transactions ts => .transactions (ts.map ρ.transaction)
  | .payee p => .payee (ρ.payee p)
  | .payees ps => .payees (ps.map ρ.payee)
  | .removed count => .removed count

def refusal : Refusal → Refusal
  | .accountNotFound id => .accountNotFound (ρ.id id)
  | .insufficientFunds account requested available =>
    .insufficientFunds (ρ.id account) requested available
  | other => other

def failure : Failure → Failure
  | .refused refusal => .refused (ρ.refusal refusal)
  | other => other

def result : Except Failure Answer → Except Failure Answer
  | .ok answer => .ok (ρ.answer answer)
  | .error failure => .error (ρ.failure failure)

theorem instant_le {t t' : Instant} (mem : t.micros ∈ ρ.moments) (mem' : t'.micros ∈ ρ.moments) :
    (ρ.instant t).micros ≤ (ρ.instant t').micros ↔ t.micros ≤ t'.micros :=
  ρ.rising.le_iff_le mem mem'

@[simp] theorem id_beq (a b : Uuid) : (ρ.id a == ρ.id b) = (a == b) := by
  rw [Bool.eq_iff_iff, beq_iff_eq, beq_iff_eq, ρ.id.injective.eq_iff]

@[simp] theorem account_owner (a : Account) : (ρ.account a).owner = a.owner := rfl

@[simp] theorem transaction_owner (t : Transaction) : (ρ.transaction t).owner = t.owner := rfl

@[simp] theorem payee_owner (p : Payee) : (ρ.payee p).owner = p.owner := rfl

@[simp] theorem accountRow_owner (row : AccountRow) : (ρ.accountRow row).owner = row.owner := rfl

@[simp] theorem transactionRow_owner (row : TransactionRow) :
    (ρ.transactionRow row).owner = row.owner := rfl

@[simp] theorem payeeRow_owner (row : PayeeRow) : (ρ.payeeRow row).owner = row.owner := rfl

@[simp] theorem toAccount_accountRow (row : AccountRow) :
    (ρ.accountRow row).toAccount = ρ.account row.toAccount := rfl

@[simp] theorem toTransaction_transactionRow (row : TransactionRow) :
    (ρ.transactionRow row).toTransaction = ρ.transaction row.toTransaction := rfl

@[simp] theorem toPayee_payeeRow (row : PayeeRow) :
    (ρ.payeeRow row).toPayee = ρ.payee row.toPayee := rfl

theorem account_opened (st : Stamp) (n : String) (owner : Uuid) (label currency : Option String)
    (balance : Decimal) :
    ρ.account (.opened st n owner label currency balance) =
      .opened (ρ.stamp st) (ρ.number n) owner label currency balance := rfl

theorem failure_driver (error : DriverError) : ρ.failure error.failure = error.failure := by
  unfold DriverError.failure
  split <;> rfl

end Renaming

/-! ## Calls that name another account -/

namespace Operation

def renamed (f : Uuid → Uuid) : Operation → Operation
  | .listTransactions owner account => .listTransactions owner (account.map f)
  | .applyTransaction owner account amount currency kind description =>
    .applyTransaction owner (f account) amount currency kind description
  | op => op

@[simp] theorem renamed_owner (f : Uuid → Uuid) (op : Operation) :
    (op.renamed f).owner = op.owner := by
  cases op <;> rfl

@[simp] theorem renamed_method (f : Uuid → Uuid) (op : Operation) :
    (op.renamed f).method = op.method := by
  cases op <;> rfl

end Operation

namespace Call

def renamed (f : Uuid → Uuid) : Call → Call
  | .listTransactions owner account => .listTransactions owner (account.map f)
  | .applyTransaction owner account amount kind currency description =>
    .applyTransaction owner (f account) amount kind currency description
  | .makePayment owner account amount payeeName payeeNumber description =>
    .makePayment owner (f account) amount payeeName payeeNumber description
  | call => call

@[simp] theorem renamed_owner (f : Uuid → Uuid) (call : Call) :
    (call.renamed f).owner = call.owner := by
  cases call <;> rfl

theorem renamed_renamed {f g : Uuid → Uuid} (inverse : ∀ id, g (f id) = id) (call : Call) :
    (call.renamed f).renamed g = call := by
  cases call <;> simp only [renamed, inverse]
  case listTransactions owner account => cases account <;> simp [inverse]

theorem operation_renamed (terms : Terms) (f : Uuid → Uuid) (call : Call) :
    (call.renamed f).operation terms = (call.operation terms).map (Operation.renamed f) := by
  cases call with
  | listAccounts | listTransactions | listPayees | deletePayees => rfl
  | createAccount owner label currency deposit =>
    simp only [renamed, operation]
    cases openingAmount deposit <;> rfl
  | applyTransaction owner account amount kind currency description =>
    simp only [renamed, operation]
    cases Money.check "Amount" false amount with
    | error failure => rfl
    | ok amount => cases normalizeKind kind <;> rfl
  | makePayment owner account amount payeeName payeeNumber description =>
    simp only [renamed, operation]
    cases Money.check "Amount" false amount <;> rfl
  | createPayee owner name number =>
    simp only [renamed, operation]
    split_ifs <;> rfl

end Call

/-! ## Rules -/

theorem Money.failure_of_check {field : String} {allowZero : Bool} {amount : Option Decimal}
    {failure : Failure} (h : check field allowZero amount = .error failure) (ρ : Renaming) :
    ρ.failure failure = failure := by
  cases amount with
  | none => cases h; rfl
  | some x =>
    simp only [check] at h
    by_cases infinite : !x.isFinite
    · rw [if_pos infinite] at h; cases h; rfl
    · rw [if_neg infinite] at h
      cases size : x.magnitude? with
      | error fault => rw [size] at h; cases h; rfl
      | ok size' =>
        rw [size] at h
        dsimp only at h
        split_ifs at h <;> cases h <;> rfl

theorem Call.failure_of_operation {terms : Terms} {call : Call} {failure : Failure}
    (h : call.operation terms = .error failure) (ρ : Renaming) : ρ.failure failure = failure := by
  cases call with
  | listAccounts | listTransactions | listPayees | deletePayees => cases h
  | createAccount owner label currency deposit =>
    simp only [operation] at h
    cases opening : openingAmount deposit with
    | ok amount => rw [opening] at h; cases h
    | error fault =>
      rw [opening] at h
      cases h
      cases deposit with
      | none => cases opening
      | some given => exact Money.failure_of_check opening ρ
  | applyTransaction owner account amount kind currency description =>
    simp only [operation] at h
    cases checked : Money.check "Amount" false amount with
    | error fault => rw [checked] at h; cases h; exact Money.failure_of_check checked ρ
    | ok amount =>
      rw [checked] at h
      simp only [Except.ok_bind, normalizeKind] at h
      split at h <;> cases h
      rfl
  | makePayment owner account amount payeeName payeeNumber description =>
    simp only [operation] at h
    cases checked : Money.check "Amount" false amount with
    | error fault => rw [checked] at h; cases h; exact Money.failure_of_check checked ρ
    | ok amount => rw [checked] at h; cases h
  | createPayee owner name number =>
    simp only [operation] at h
    split_ifs at h
    cases h
    rfl

theorem signedDelta_renamed (ρ : Renaming) (id : Uuid) (balance amount : Decimal) (kind : Kind) :
    Except.Paired ρ.failure Eq (signedDelta id balance amount kind)
      (signedDelta (ρ.id id) balance amount kind) := by
  unfold signedDelta
  refine .ite Iff.rfl ?_ (.ok rfl)
  cases amount.exceeds? balance with
  | none => exact .error (Failure.arithmetic .invalid)
  | some above =>
    cases above with
    | true => exact .error (Failure.refused (.insufficientFunds id amount balance))
    | false =>
      cases amount.negate? with
      | error fault => exact .error (Failure.arithmetic fault)
      | ok delta => exact .ok rfl

end Passbook
