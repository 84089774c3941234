import Passbook.Ledger.Operation
import Passbook.Ledger.Rules
import Passbook.Ledger.Supply
import Passbook.Store.Table

/-!
The ledger in a database. Every operation is one unit of work: its statements take effect together,
or not at all.

- `Durable.run`: the operations of a store
- `Durable.ensureTables`, `Durable.dropTables`: provisioning

Each unit of work opens a session. `Durable.sessions` is a script of what these openings meet, for
trying out failures; beyond it they succeed.
-/

namespace Passbook

/-- What a scripted call meets: nothing, a failure in its place, a wait without end, or, when it
applies a transaction, an account that has gone by the time its balance is to change. -/
inductive Fault
  | pass
  | fails (failure : Failure)
  | hang
  | noRow
deriving DecidableEq

def Fault.failure? : Fault → Option Failure
  | .fails failure => some failure
  | .hang => some .timedOut
  | .pass | .noRow => none

/-- What a unit of work makes of a failure: errors of the driver and of the system are classified by
their text, everything else passes through. -/
def Failure.classified : Failure → Failure
  | .driver error => error.failure
  | .system message => (DriverError.plain message).failure
  | .timedOut => (DriverError.plain "").failure
  | failure => failure

def Fault.sessionFailure? : Fault → Option Failure
  | .fails failure => some failure.classified
  | fault => fault.failure?

structure Durable where
  database : Database
  sessions : List Fault
deriving DecidableEq

def Statement.orFail {α : Type} (s : Statement α) : Except Failure α :=
  s.mapError fun fault => (Failure.driver fault.error).classified

namespace Durable

def openSession (d : Durable) : Option Failure × Durable :=
  match d.sessions with
  | [] => (none, d)
  | fault :: rest => (fault.sessionFailure?, { d with sessions := rest })

/-- Opens a session and does the work. The database changes only if all of it succeeds. -/
def work {α : Type} (body : Database → Except Failure (α × Database)) (d : Durable) :
    Except Failure α × Durable :=
  match d.openSession with
  | (some failure, d) => (.error failure, d)
  | (none, d) =>
    match body d.database with
    | .ok (a, database) => (.ok a, { d with database })
    | .error failure => (.error failure, d)

def insertOpened (stamp : Stamp) (account : Account) (db : Database) :
    Except Failure (Option Database) :=
  match db.insertAccount account with
  | .error fault =>
    if fault.isConstraint && fault.error.isNumberCollision then .ok none
    else Statement.orFail (.error fault)
  | .ok db =>
    match account.balance.exceeds? Money.zero with
    | none => .error (.arithmetic .invalid)
    | some true =>
      (Statement.orFail (db.insertTransaction (account.openingCredit stamp))).map some
    | some false => .ok (some db)

def createAccount (owner : Uuid) (label currency : Option String) (opening : Decimal)
    (attempts : Nat) : Nat → Durable → Supply → Outcome (Durable × Supply) Answer
  | 0, d, s => { result := .error (.unavailable .noFreeNumber), state := (d, s) }
  | left + 1, d, s =>
    let (stamp, s) := s.stamp
    match d.openSession with
    | (some failure, d) => { result := .error failure, state := (d, s) }
    | (none, d) =>
      let (number, s) := s.drawNumber
      let account := Account.opened stamp number owner label currency opening
      match insertOpened stamp account d.database with
      | .error failure => { result := .error failure, state := (d, s) }
      | .ok (some database) =>
        { result := .ok (.account account), state := ({ d with database }, s) }
      | .ok none =>
        (createAccount owner label currency opening attempts left d s).after
          [.numberTaken owner (attempts - left) attempts]

def listAccounts (owner : Uuid) (db : Database) : Except Failure (Answer × Database) := do
  let rows ← Statement.orFail (db.selectAccounts owner)
  return (.accounts (rows.map (·.toAccount)), db)

def listTransactions (owner : Uuid) (account : Option Uuid) (db : Database) :
    Except Failure (Answer × Database) := do
  if let some id := account then
    if (← Statement.orFail (db.findAccount owner id)).isNone then refuse (.accountNotFound id)
  let rows ← Statement.orFail (db.selectTransactions owner account)
  return (.transactions (rows.map (·.toTransaction)), db)

/-- `vanished` says that the account has gone by the time its balance is to change; then no
transaction is recorded either. A transaction that comes without a description gets an empty one. -/
def apply (stamp : Stamp) (vanished : Bool) (owner id : Uuid) (amount : Decimal)
    (currency : Option String) (kind : Kind) (description : Option String) (db : Database) :
    Except Failure (Answer × Database) := do
  match ← Statement.orFail (db.findAccount owner id) with
  | none => refuse (.accountNotFound id)
  | some row =>
    let delta ← signedDelta row.id row.balance.toCents amount kind
    let delta ← Statement.orFail (moneyColumn delta)
    if vanished then refuse (.accessDenied .account)
    else
      let db ← Statement.orFail (db.updateBalance owner id delta stamp.now)
      let t : Transaction :=
        { id := stamp.first, account := id, owner, amount,
          currency := resolveCurrency currency (some row.currency), kind,
          description := some (description.getD ""), createdAt := stamp.now }
      let db ← Statement.orFail (db.insertTransaction t)
      return (.transaction t, db)

def listPayees (owner : Uuid) (db : Database) : Except Failure (Answer × Database) := do
  let rows ← Statement.orFail (db.selectPayees owner)
  return (.payees (rows.map (·.toPayee)), db)

/-- Whatever constraint stands against a payee, it counts as saved already. -/
def createPayee (stamp : Stamp) (owner : Uuid) (name number : Option String) (db : Database) :
    Except Failure (Answer × Database) :=
  let payee : Payee := { id := stamp.first, owner, name, number, createdAt := stamp.now }
  match db.insertPayee payee with
  | .ok db => .ok (.payee payee, db)
  | .error fault =>
    if fault.isConstraint then refuse (.duplicatePayee number)
    else Statement.orFail (.error fault)

def deletePayees (owner : Uuid) (db : Database) : Except Failure (Answer × Database) := do
  let (count, db) ← Statement.orFail (db.deletePayees owner)
  return (.removed count, db)

def perform (d : Durable) (body : Stamp → Database → Except Failure (Answer × Database))
    (s : Supply) : Outcome (Durable × Supply) Answer :=
  let (stamp, s) := s.stamp
  let (result, d) := d.work (body stamp)
  { result, state := (d, s) }

def run (attempts : Nat) (vanished : Bool) (op : Operation) (d : Durable) (s : Supply) :
    Outcome (Durable × Supply) Answer :=
  match op with
  | .createAccount owner label currency opening =>
    createAccount owner label currency opening attempts attempts d s
  | .listAccounts owner => d.perform (fun _ => listAccounts owner) s
  | .listTransactions owner account => d.perform (fun _ => listTransactions owner account) s
  | .applyTransaction owner id amount currency kind description =>
    d.perform (apply · vanished owner id amount currency kind description) s
  | .listPayees owner => d.perform (fun _ => listPayees owner) s
  | .createPayee owner name number => d.perform (createPayee · owner name number) s
  | .deletePayees owner => d.perform (fun _ => deletePayees owner) s

def ensureTables (d : Durable) : Outcome Durable Unit :=
  match d.database.ensureTables with
  | .ok database =>
    { result := .ok (), state := { d with database }, log := [.tablesEnsured] }
  | .error _ => { result := .error (.unavailable .provisioning), state := d }

def dropTables (d : Durable) : Outcome Durable Unit :=
  match d.database.dropTables with
  | .ok database =>
    { result := .ok (), state := { d with database }, log := [.tablesDropped] }
  | .error _ => { result := .error (.unavailable .dropping), state := d }

end Durable

end Passbook
