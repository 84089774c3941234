import Passbook.Proofs.Ledger.Rules
import Passbook.Proofs.Store.Rows

namespace Passbook

def Database.IsBare (db : Database) : Prop :=
  db.accounts = none ∧ db.transactions = none ∧ db.payees = none

def Database.bareFault (db : Database) (table : Table) : StatementFault :=
  if db.reachable then .noTable table else .cannotOpen

theorem moneyColumn_of_finite {x : Decimal} (finite : x.isFinite) :
    ∃ b, moneyColumn x = .ok b := by
  cases x with
  | infinite | nan => cases finite
  | finite n c e =>
    simp only [moneyColumn, Binary64.ofDecimal?]
    split_ifs <;> exact ⟨_, rfl⟩

theorem Decimal.IsOpening.isFinite {x : Decimal} (h : x.IsOpening) : x.isFinite := by
  rcases h with ⟨cents, -, -, rfl⟩ | nought
  · rfl
  · exact nought.isFinite

namespace Database
variable {db : Database}

theorem rowsOf_bare {α : Type} (db : Database) (table : Table) :
    db.rowsOf (α := α) table none = .error (db.bareFault table) := by
  unfold rowsOf bareFault
  split_ifs <;> rfl

theorem IsBare.accountRows (bare : db.IsBare) :
    db.accountRows = .error (db.bareFault .accounts) := by
  rw [Database.accountRows, bare.1, rowsOf_bare]

theorem IsBare.transactionRows (bare : db.IsBare) :
    db.transactionRows = .error (db.bareFault .transactions) := by
  rw [Database.transactionRows, bare.2.1, rowsOf_bare]

theorem IsBare.payeeRows (bare : db.IsBare) : db.payeeRows = .error (db.bareFault .payees) := by
  rw [Database.payeeRows, bare.2.2, rowsOf_bare]

theorem bareFault_isConstraint (db : Database) (table : Table) :
    (db.bareFault table).isConstraint = false := by
  unfold bareFault
  split_ifs <;> rfl

theorem bareFault_failure (db : Database) (table : Table) :
    (db.bareFault table).error.failure =
      if db.reachable then .schemaMissing .reported else .unavailable .storeFailed := by
  unfold bareFault
  split_ifs
  · cases table <;> decide +kernel
  · decide +kernel

end Database

def Method.draws : Method → Nat
  | .createAccount => 1
  | _ => 0

def Supply.wasted (s : Supply) (draws : Nat) : Supply :=
  { s with nextId := s.nextId + 2, clock := s.clock.next, drawn := s.drawn + draws }

namespace Durable
variable {db : Database} {s : Supply} {attempts : Nat}

theorem perform_done {body : Stamp → Database → Except Failure (Answer × Database)}
    {answer : Answer} {db' : Database} (h : body s.stamp.1 db = .ok (answer, db')) :
    perform ⟨db, []⟩ body s = ⟨.ok answer, (⟨db', []⟩, s.stamp.2), []⟩ := by
  simp only [perform, work, openSession, h]

theorem perform_failed {body : Stamp → Database → Except Failure (Answer × Database)}
    {failure : Failure} (h : body s.stamp.1 db = .error failure) :
    perform ⟨db, []⟩ body s = ⟨.error failure, (⟨db, []⟩, s.wasted 0), []⟩ := by
  simp only [perform, work, openSession, h]
  rfl

theorem run_bare {op : Operation} (bare : db.IsBare) (checked : op.Checked)
    (tries : attempts ≠ 0 ∨ op.method ≠ .createAccount) (s : Supply) :
    run attempts false op ⟨db, []⟩ s =
      ⟨.error (if db.reachable then .schemaMissing .reported else .unavailable .storeFailed),
        (⟨db, []⟩, s.wasted op.method.draws), []⟩ := by
  cases op with
  | createAccount owner label currency opening =>
    obtain ⟨left, rfl⟩ := Nat.exists_eq_succ_of_ne_zero (tries.resolve_right (absurd rfl))
    obtain ⟨-, -, finite⟩ := checked
    obtain ⟨column, binary⟩ := moneyColumn_of_finite finite.isFinite
    have inserted (stamp : Stamp) (number : String) :
        db.insertAccount (.opened stamp number owner label currency opening) =
          .error (db.bareFault .accounts) := by
      rw [Database.insertAccount, Account.opened_balance, binary, bare.accountRows]
      rfl
    rw [← db.bareFault_failure .accounts]
    simp only [run, createAccount, openSession, insertOpened, inserted,
      Database.bareFault_isConstraint, Bool.false_and, Bool.false_eq_true, if_false]
    rfl
  | listAccounts owner =>
    simp only [run]
    apply perform_failed
    rw [← db.bareFault_failure .accounts, listAccounts, Database.selectAccounts, bare.accountRows]
    rfl
  | listTransactions owner account =>
    simp only [run]
    apply perform_failed
    cases account with
    | none =>
      rw [← db.bareFault_failure .transactions]
      simp only [listTransactions, Database.selectTransactions, bare.transactionRows]
      rfl
    | some id =>
      rw [← db.bareFault_failure .accounts, listTransactions, Database.findAccount,
        bare.accountRows]
      rfl
  | applyTransaction owner id amount currency kind description =>
    simp only [run]
    apply perform_failed
    rw [← db.bareFault_failure .accounts, apply, Database.findAccount, bare.accountRows]
    rfl
  | listPayees owner =>
    simp only [run]
    apply perform_failed
    rw [← db.bareFault_failure .payees, listPayees, Database.selectPayees, bare.payeeRows]
    rfl
  | createPayee owner name number =>
    simp only [run]
    apply perform_failed
    rw [← db.bareFault_failure .payees, createPayee, Database.insertPayee, bare.payeeRows]
    simp only [Except.error_bind, Database.bareFault_isConstraint, Bool.false_eq_true, if_false]
    rfl
  | deletePayees owner =>
    simp only [run]
    apply perform_failed
    rw [← db.bareFault_failure .payees, deletePayees, Database.deletePayees, bare.payeeRows]
    rfl

end Durable
end Passbook
