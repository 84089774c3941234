import Passbook.Proofs.Ledger.Failure
import Passbook.Store.Table

/-!
# Statements on a database with missing tables

A statement either misses a table, or does what it does when the missing tables are created empty
first.
-/

namespace Passbook

section
variable {ε α β γ δ : Type} {missing : ε → Prop} {f : α → β} {g : γ → δ}
  {x : Except ε α} {x' : Except ε β}

/-- Unless `x` misses something, `x'` does what `x` does, with its result under `f`. -/
def Follows (missing : ε → Prop) (f : α → β) (x : Except ε α) (x' : Except ε β) : Prop :=
  (∃ e, x = .error e ∧ missing e) ∨ x' = x.map f

namespace Follows

theorem refl (missing : ε → Prop) (x : Except ε α) : Follows missing id x x :=
  .inr (by cases x <;> rfl)

theorem ok {a : α} (h : Follows missing f x x') (done : x = .ok a) : x' = .ok (f a) := by
  rcases h with ⟨e, failed, -⟩ | same
  · rw [done] at failed
    cases failed
  · rw [same, done]
    rfl

theorem bind {k : α → Except ε γ} {k' : β → Except ε δ} (h : Follows missing f x x')
    (rest : ∀ a, Follows missing g (k a) (k' (f a))) :
    Follows missing g (x >>= k) (x' >>= k') := by
  rcases h with ⟨e, rfl, is_missing⟩ | rfl
  · exact .inl ⟨e, rfl, is_missing⟩
  · cases x with
    | error e => exact .inr rfl
    | ok a => exact rest a

theorem step {k : α → Except ε γ} {k' : α → Except ε δ} (x : Except ε α)
    (rest : ∀ a, Follows missing g (k a) (k' a)) : Follows missing g (x >>= k) (x >>= k') :=
  bind (refl missing x) rest

theorem ite {x y : Except ε α} {x' y' : Except ε β} {p : Prop} [Decidable p]
    (h : Follows missing f x x') (h' : Follows missing f y y') :
    Follows missing f (if p then x else y) (if p then x' else y') := by
  split_ifs
  · exact h
  · exact h'

end Follows

end

def StatementFault.IsMissing (fault : StatementFault) : Prop := ∃ table, fault = .noTable table

def Failure.IsMissing (failure : Failure) : Prop := ∃ fault, failure = .schemaMissing fault

theorem Table.mem_all (table : Table) : table ∈ Table.all := by cases table <;> decide

theorem Index.mem_all (index : Index) : index ∈ Index.all := by cases index <;> decide

namespace Database
variable {db db' : Database}

/-- The rows of a database; a table that is missing counts as empty. -/
def provisioned (db : Database) : Database :=
  { db with
    accounts := some (db.accounts.getD []),
    transactions := some (db.transactions.getD []),
    payees := some (db.payees.getD []),
    indexes := Index.all }

@[simp] theorem provisioned_provisioned (db : Database) :
    db.provisioned.provisioned = db.provisioned := rfl

theorem ensureTables_eq_ok : db.ensureTables = .ok db' ↔ db.reachable ∧ db' = db.provisioned := by
  unfold ensureTables
  split_ifs with reachable
  · simp [reachable, provisioned, eq_comm]
  · simp [reachable]

variable (db)

/-! ## Rows -/

theorem rowsOf_follows {α : Type} (table : Table) (found : Option (List α)) :
    Follows StatementFault.IsMissing id (db.rowsOf table found)
      (db.provisioned.rowsOf table (some (found.getD []))) := by
  unfold rowsOf
  by_cases reachable : db.reachable
  · cases found with
    | none => exact .inl ⟨.noTable table, by simp [reachable], table, rfl⟩
    | some rows => exact .inr (by simp [reachable, provisioned, Except.map])
  · exact .inr (by simp [reachable, provisioned, Except.map])

theorem accountRows_follows :
    Follows StatementFault.IsMissing id db.accountRows db.provisioned.accountRows :=
  db.rowsOf_follows .accounts db.accounts

theorem transactionRows_follows :
    Follows StatementFault.IsMissing id db.transactionRows db.provisioned.transactionRows :=
  db.rowsOf_follows .transactions db.transactions

theorem payeeRows_follows :
    Follows StatementFault.IsMissing id db.payeeRows db.provisioned.payeeRows :=
  db.rowsOf_follows .payees db.payees

/-! ## Statements -/

theorem insertAccount_follows (a : Account) :
    Follows StatementFault.IsMissing provisioned (db.insertAccount a)
      (db.provisioned.insertAccount a) :=
  .step _ fun _ => db.accountRows_follows.bind fun _ => .step _ fun _ => .step _ fun _ =>
    .step _ fun _ => .ite (.inr rfl) (.inr rfl)

theorem insertTransaction_follows (t : Transaction) :
    Follows StatementFault.IsMissing provisioned (db.insertTransaction t)
      (db.provisioned.insertTransaction t) :=
  .step _ fun _ => db.transactionRows_follows.bind fun _ => .step _ fun _ => .step _ fun _ =>
    .step _ fun _ => .step _ fun _ => .ite (.inr rfl) (.inr rfl)

theorem insertPayee_follows (p : Payee) :
    Follows StatementFault.IsMissing provisioned (db.insertPayee p)
      (db.provisioned.insertPayee p) :=
  db.payeeRows_follows.bind fun _ => .step _ fun _ => .step _ fun _ => .ite (.inr rfl) (.inr rfl)

theorem findAccount_follows (owner account : Uuid) :
    Follows StatementFault.IsMissing id (db.findAccount owner account)
      (db.provisioned.findAccount owner account) :=
  db.accountRows_follows.bind fun _ => .inr rfl

theorem updateBalance_follows (owner id : Uuid) (delta : Binary64) (now : Instant) :
    Follows StatementFault.IsMissing provisioned (db.updateBalance owner id delta now)
      (db.provisioned.updateBalance owner id delta now) :=
  db.accountRows_follows.bind fun _ => .step _ fun _ => .inr rfl

theorem selectAccounts_follows (owner : Uuid) :
    Follows StatementFault.IsMissing id (db.selectAccounts owner)
      (db.provisioned.selectAccounts owner) :=
  db.accountRows_follows.bind fun _ => .inr rfl

theorem selectTransactions_follows (owner : Uuid) (account : Option Uuid) :
    Follows StatementFault.IsMissing id (db.selectTransactions owner account)
      (db.provisioned.selectTransactions owner account) :=
  db.transactionRows_follows.bind fun _ => .inr rfl

theorem selectPayees_follows (owner : Uuid) :
    Follows StatementFault.IsMissing id (db.selectPayees owner)
      (db.provisioned.selectPayees owner) :=
  db.payeeRows_follows.bind fun _ => .inr rfl

theorem deletePayees_follows (owner : Uuid) :
    Follows StatementFault.IsMissing (Prod.map id provisioned) (db.deletePayees owner)
      (db.provisioned.deletePayees owner) :=
  db.payeeRows_follows.bind fun _ => .inr rfl

end Database

end Passbook
