import Passbook.Ledger.Failure
import Passbook.Ledger.Record

/-!
What a store is asked and what it answers.

- `Operation`: a request with its arguments, every one of them scoped by an owner
- `Answer`: what a request that succeeds gives back
- `Event`: a record of the log, with its level, its source and its text
- `Outcome`: the result of a request with the state it leaves and the records it writes
-/

namespace Passbook

inductive Operation
  | createAccount (owner : Uuid) (label currency : Option String) (opening : Decimal)
  | listAccounts (owner : Uuid)
  | listTransactions (owner : Uuid) (account : Option Uuid)
  | applyTransaction (owner account : Uuid) (amount : Decimal) (currency : Option String)
      (kind : Kind) (description : Option String)
  | listPayees (owner : Uuid)
  | createPayee (owner : Uuid) (name number : Option String)
  | deletePayees (owner : Uuid)
deriving DecidableEq

namespace Operation

def method : Operation → Method
  | createAccount .. => .createAccount
  | listAccounts _ => .listAccounts
  | listTransactions .. => .listTransactions
  | applyTransaction .. => .applyTransaction
  | listPayees _ => .listPayees
  | createPayee .. => .createPayee
  | deletePayees _ => .deletePayees

def owner : Operation → Uuid
  | createAccount owner .. | listAccounts owner | listTransactions owner _
  | applyTransaction owner .. | listPayees owner | createPayee owner .. | deletePayees owner =>
    owner

end Operation

inductive Answer
  | account (account : Account)
  | accounts (accounts : List Account)
  | transaction (transaction : Transaction)
  | transactions (transactions : List Transaction)
  | payee (payee : Payee)
  | payees (payees : List Payee)
  | removed (count : Nat)
deriving DecidableEq

inductive Level
  | debug
  | info
  | warning
  | error
deriving DecidableEq

def Level.name : Level → String
  | .debug => "DEBUG"
  | .info => "INFO"
  | .warning => "WARNING"
  | .error => "ERROR"

inductive Event
  | noDurableStore (method : Method)
  | schemaMissing (method : Method)
  | durableFailed (method : Method)
  | repairFailed (method : Method)
  | memoryFailed (method : Method)
  | tablesEnsured
  | tablesDropped
  | defaultAccount (owner : Uuid)
  | numberTaken (owner : Uuid) (attempt attempts : Nat)
deriving DecidableEq

namespace Event

def level : Event → Level
  | noDurableStore _ => .debug
  | defaultAccount _ | tablesEnsured => .info
  | schemaMissing _ | tablesDropped | numberTaken .. => .warning
  | durableFailed _ | repairFailed _ | memoryFailed _ => .error

def source : Event → String
  | noDurableStore _ | schemaMissing _ | durableFailed _ | repairFailed _ | memoryFailed _ =>
    "ledger.services.ledger_service"
  | defaultAccount _ => "ledger.stores.volatile"
  | tablesEnsured | tablesDropped | numberTaken .. => "ledger.stores.durable"

def message (name : Uuid → String) : Event → String
  | noDurableStore method => "No durable store configured, using volatile for " ++ method.name
  | schemaMissing method =>
    "Ledger schema missing during " ++ method.name ++ ", provisioning and retrying once"
  | durableFailed method =>
    "Durable store failed during " ++ method.name ++ ", falling back to volatile store"
  | repairFailed method => "Ensure schema + retry failed during " ++ method.name
  | memoryFailed method => "Volatile fallback failed during " ++ method.name
  | tablesEnsured => "Ensured ledger tables exist"
  | tablesDropped => "Dropped ledger tables"
  | defaultAccount owner => "Provisioned default in-memory account for " ++ name owner
  | numberTaken owner attempt attempts =>
    "Account number collision for owner " ++ name owner ++ " (attempt " ++ toString attempt ++
      "/" ++ toString attempts ++ ")"

end Event

structure Outcome (σ α : Type) where
  result : Except Failure α
  state : σ
  log : List Event := []

namespace Outcome

def within {σ τ α : Type} (o : Outcome σ α) (enter : σ → τ) : Outcome τ α :=
  ⟨o.result, enter o.state, o.log⟩

def after {σ α : Type} (earlier : List Event) (o : Outcome σ α) : Outcome σ α :=
  { o with log := earlier ++ o.log }

end Outcome

end Passbook
