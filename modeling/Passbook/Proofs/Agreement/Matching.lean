import Passbook.Proofs.Ledger.AccountNumber
import Passbook.Proofs.Ledger.Total
import Passbook.Proofs.Number.Whole
import Passbook.Proofs.Owner.Renaming
import Passbook.Proofs.Store.Book

/-!
# One answer for another

Two stores name what they record by identifiers of their own, and one of them may read the clock
more often than the other.
-/

namespace Passbook

structure Pairing where
  id : Equiv.Perm Uuid
  time : Instant → Instant → Prop

variable (π : Pairing)

/-! ## Records and results -/

/-- Of equal size, however they are written. -/
def Decimal.Equals (x y : Decimal) : Prop := x.compare? y = some .eq

structure Account.Matches (a a' : Account) : Prop where
  id : a'.id = π.id a.id
  owner : a'.owner = a.owner
  number : a'.number = a.number
  label : a'.label = a.label
  balance : a.balance.Equals a'.balance
  currency : a'.currency = a.currency
  createdAt : π.time a.createdAt a'.createdAt
  updatedAt : π.time a.updatedAt a'.updatedAt

structure Transaction.Matches (t t' : Transaction) : Prop where
  id : t'.id = π.id t.id
  account : t'.account = π.id t.account
  owner : t'.owner = t.owner
  amount : t.amount.Equals t'.amount
  currency : t'.currency = t.currency
  kind : t'.kind = t.kind
  description : t'.description = t.description
  createdAt : π.time t.createdAt t'.createdAt

structure Payee.Matches (p p' : Payee) : Prop where
  id : p'.id = π.id p.id
  owner : p'.owner = p.owner
  name : p'.name = p.name
  number : p'.number = p.number
  createdAt : π.time p.createdAt p'.createdAt

inductive Answer.Matches : Answer → Answer → Prop
  | account {a a'} (h : a.Matches π a') : Matches (.account a) (.account a')
  | accounts {as as'} (h : List.Forall₂ (Account.Matches π) as as') :
    Matches (.accounts as) (.accounts as')
  | transaction {t t'} (h : t.Matches π t') : Matches (.transaction t) (.transaction t')
  | transactions {ts ts'} (h : List.Forall₂ (Transaction.Matches π) ts ts') :
    Matches (.transactions ts) (.transactions ts')
  | payee {p p'} (h : p.Matches π p') : Matches (.payee p) (.payee p')
  | payees {ps ps'} (h : List.Forall₂ (Payee.Matches π) ps ps') : Matches (.payees ps) (.payees ps')
  | removed (count) : Matches (.removed count) (.removed count)

inductive Refusal.Matches : Refusal → Refusal → Prop
  | accountNotFound (id) : Matches (.accountNotFound id) (.accountNotFound (π.id id))
  | insufficientFunds (account) {requested requested' available available'}
      (asked : requested.Equals requested') (there : available.Equals available') :
    Matches (.insufficientFunds account requested available)
      (.insufficientFunds (π.id account) requested' available')
  | duplicatePayee (number) : Matches (.duplicatePayee number) (.duplicatePayee number)

inductive Matches : Except Failure Answer → Except Failure Answer → Prop
  | answer {a a'} (h : a.Matches π a') : Matches (.ok a) (.ok a')
  | refused {r r'} (h : r.Matches π r') : Matches (refuse r) (refuse r')
  | unavailable (outage) : Matches (.error (.unavailable outage)) (.error (.unavailable outage))

/-! ## Runs -/

structure Step where
  before : Supply
  after : Supply
  op : Operation
  result : Except Failure Answer

def Supply.during (s : Supply) (time : Nat → Int) : Supply := { s with clock := ⟨0, time⟩ }

/-- Operations one after another. While the `k`-th of them runs, the clock gives `clock k`. -/
def issue {σ : Type} (run : Operation → σ → Supply → Outcome (σ × Supply) Answer)
    (clock : Nat → Nat → Int) : List Operation → Nat → σ → Supply → List Step
  | [], _, _, _ => []
  | op :: ops, k, store, s =>
    let o := run op store (s.during (clock k))
    ⟨s.during (clock k), o.state.2, op, o.result⟩ ::
      issue run clock ops (k + 1) o.state.1 o.state.2

/-- Nothing is left out, amounts are whole units, what an account is credited with stays below
`2 ^ 53`, and an owner's accounts or payees are listed only if there are any. -/
def Operation.Suits (terms : BookTerms) (b : Book) (s : Supply) : Operation → Prop
  | .createAccount _ label currency opening =>
    label.isSome ∧ currency.isSome ∧ ∃ units : Nat, opening.IsWhole units ∧
      ((∃ i < terms.attempts, s.candidate i ∉ b.numbers) → units < 2 ^ 53)
  | .listAccounts owner => (b.shelf owner).accounts ≠ []
  | .applyTransaction owner id amount _ kind description =>
    description.isSome ∧ ∃ units : Nat, 0 < units ∧ amount.IsWhole units ∧
      (kind = .debit ∨ kind = .credit ∧
        (id ∈ b.ids owner → total .credit id (b.shelf owner).transactions + units < 2 ^ 53))
  | .listPayees owner => (b.shelf owner).payees ≠ []
  | .createPayee _ name number => name.isSome ∧ number.isSome
  | .listTransactions .. | .deletePayees _ => True

end Passbook
