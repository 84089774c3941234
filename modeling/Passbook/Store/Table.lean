import Passbook.Ledger.Record
import Passbook.Number.Binary64
import Passbook.Store.DriverError

/-!
The tables of the ledger in a database, and the statements that work on them.

Money columns hold binary numbers. A stored number is read back with two places; nought loses its
sign when it is stored, and what is not a number cannot be stored.

- `AccountRow`, `TransactionRow`, `PayeeRow`: the rows
- `Database`: the tables that exist, each with its rows in the order in which they came
- `Statement`: a piece of work that succeeds with a new database or fails as a driver does
-/

namespace Passbook

structure AccountRow where
  id : Uuid
  owner : Uuid
  number : String
  label : String
  balance : Binary64
  currency : String
  createdAt : Instant
  updatedAt : Instant
deriving DecidableEq

structure TransactionRow where
  id : Uuid
  account : Uuid
  owner : Uuid
  amount : Binary64
  currency : String
  kind : String
  description : String
  createdAt : Instant
deriving DecidableEq

structure PayeeRow where
  id : Uuid
  owner : Uuid
  name : String
  number : String
  createdAt : Instant
deriving DecidableEq

def AccountRow.toAccount (row : AccountRow) : Account :=
  { id := row.id, owner := row.owner, number := row.number, label := some row.label,
    balance := row.balance.toCents, currency := some row.currency,
    createdAt := row.createdAt, updatedAt := row.updatedAt }

def TransactionRow.toTransaction (row : TransactionRow) : Transaction :=
  { id := row.id, account := row.account, owner := row.owner, amount := row.amount.toCents,
    currency := some row.currency, kind := .ofText (some row.kind),
    description := some row.description, createdAt := row.createdAt }

def PayeeRow.toPayee (row : PayeeRow) : Payee :=
  { id := row.id, owner := row.owner, name := some row.name, number := some row.number,
    createdAt := row.createdAt }

inductive Table
  | accounts
  | transactions
  | payees
deriving DecidableEq

namespace Table

def name : Table → String
  | accounts => "ledger_accounts"
  | transactions => "ledger_transactions"
  | payees => "ledger_payees"

def all : List Table := [accounts, payees, transactions]

def ofName? (s : String) : Option Table :=
  all.find? (·.name.toList == s.toList.map Char.toLower)

end Table

inductive Index
  | accountNumbers
  | accountOwners
  | payeeNumbers
  | transactionAccounts
  | transactionTimes
  | transactionOwners
deriving DecidableEq

namespace Index

def name : Index → String
  | accountNumbers => accountNumberIndex
  | accountOwners => "ix_ledger_accounts_owner_id"
  | payeeNumbers => "ix_ledger_payees_owner_id_account_number"
  | transactionAccounts => "ix_ledger_transactions_account_id"
  | transactionTimes => "ix_ledger_transactions_created_at"
  | transactionOwners => "ix_ledger_transactions_owner_id"

def table : Index → Table
  | accountNumbers | accountOwners => .accounts
  | payeeNumbers => .payees
  | transactionAccounts | transactionTimes | transactionOwners => .transactions

def all : List Index :=
  [accountNumbers, accountOwners, payeeNumbers, transactionAccounts, transactionTimes,
   transactionOwners]

end Index

structure Database where
  reachable : Bool
  accounts : Option (List AccountRow)
  transactions : Option (List TransactionRow)
  payees : Option (List PayeeRow)
  indexes : List Index
deriving DecidableEq

inductive StatementFault
  | cannotOpen
  | noTable (table : Table)
  | missingValue
  | numberTaken
  | payeeTaken
  | notPositive
  | notANumber
deriving DecidableEq

namespace StatementFault

def error : StatementFault → DriverError
  | cannotOpen => .wrapping "unable to open database file"
  | noTable table => .wrapping ("no such table: " ++ table.name)
  | missingValue => .wrapping "NOT NULL constraint failed"
  | numberTaken => .wrapping ("UNIQUE constraint failed: " ++ accountNumberColumn)
  | payeeTaken =>
    .wrapping "UNIQUE constraint failed: ledger_payees.owner_id, ledger_payees.account_number"
  | notPositive => .wrapping "CHECK constraint failed: ck_ledger_transactions_positive_amount"
  | notANumber => .plain "cannot convert signaling NaN to float"

def isConstraint : StatementFault → Bool
  | missingValue | numberTaken | payeeTaken | notPositive => true
  | _ => false

end StatementFault

abbrev Statement (α : Type) := Except StatementFault α

def required {α : Type} : Option α → Statement α
  | some value => .ok value
  | none => .error .missingValue

def moneyColumn (x : Decimal) : Statement Binary64 :=
  match Binary64.ofDecimal? x with
  | some b => .ok b
  | none => .error .notANumber

def stored : Binary64 → Statement Binary64
  | .finite _ 0 _ => .ok (Binary64.nought false)
  | .nan => .error .missingValue
  | b => .ok b

namespace Database

def empty : Database := ⟨true, none, none, none, []⟩

def unreachable : Database := ⟨false, none, none, none, []⟩

def rowsOf {α : Type} (db : Database) (table : Table) (found : Option (List α)) :
    Statement (List α) :=
  if db.reachable then
    match found with
    | some rows => .ok rows
    | none => .error (.noTable table)
  else .error .cannotOpen

def accountRows (db : Database) : Statement (List AccountRow) := db.rowsOf .accounts db.accounts

def transactionRows (db : Database) : Statement (List TransactionRow) :=
  db.rowsOf .transactions db.transactions

def payeeRows (db : Database) : Statement (List PayeeRow) := db.rowsOf .payees db.payees

def insertAccount (a : Account) (db : Database) : Statement Database := do
  let balance ← moneyColumn a.balance
  let rows ← db.accountRows
  let label ← required a.label
  let balance ← stored balance
  let currency ← required a.currency
  if rows.any (·.number == a.number) then .error .numberTaken
  else
    let row : AccountRow :=
      { id := a.id, owner := a.owner, number := a.number, label, balance, currency,
        createdAt := a.createdAt, updatedAt := a.updatedAt }
    .ok { db with accounts := some (rows ++ [row]) }

def insertTransaction (t : Transaction) (db : Database) : Statement Database := do
  let amount ← moneyColumn t.amount
  let rows ← db.transactionRows
  let amount ← stored amount
  let currency ← required t.currency
  let kind ← required t.kind.text
  let description ← required t.description
  if !amount.isPositive then .error .notPositive
  else
    let row : TransactionRow :=
      { id := t.id, account := t.account, owner := t.owner, amount, currency, kind, description,
        createdAt := t.createdAt }
    .ok { db with transactions := some (rows ++ [row]) }

def insertPayee (p : Payee) (db : Database) : Statement Database := do
  let rows ← db.payeeRows
  let name ← required p.name
  let number ← required p.number
  if rows.any (fun row => row.owner == p.owner && row.number == number) then .error .payeeTaken
  else
    let row : PayeeRow := { id := p.id, owner := p.owner, name, number, createdAt := p.createdAt }
    .ok { db with payees := some (rows ++ [row]) }

def isKeptUnder (owner id : Uuid) (row : AccountRow) : Bool :=
  row.id == id && row.owner == owner

def findAccount (owner id : Uuid) (db : Database) : Statement (Option AccountRow) := do
  return (← db.accountRows).find? (isKeptUnder owner id)

def addToBalance (owner id : Uuid) (delta : Binary64) (now : Instant) (row : AccountRow) :
    Statement AccountRow :=
  if isKeptUnder owner id row then do
    let balance ← stored (row.balance.add delta)
    return { row with balance, updatedAt := now }
  else .ok row

def updateBalance (owner id : Uuid) (delta : Binary64) (now : Instant) (db : Database) :
    Statement Database := do
  let rows ← db.accountRows
  let rows ← rows.mapM (addToBalance owner id delta now)
  return { db with accounts := some rows }

def selectAccounts (owner : Uuid) (db : Database) : Statement (List AccountRow) := do
  return ((← db.accountRows).filter (·.owner == owner)).mergeSort fun a b =>
    a.createdAt.micros ≤ b.createdAt.micros

def selectTransactions (owner : Uuid) (account : Option Uuid) (db : Database) :
    Statement (List TransactionRow) := do
  let rows := (← db.transactionRows).filter fun row =>
    row.owner == owner && account.all (row.account == ·)
  return rows.mergeSort fun a b => b.createdAt.micros ≤ a.createdAt.micros

def selectPayees (owner : Uuid) (db : Database) : Statement (List PayeeRow) := do
  return ((← db.payeeRows).filter (·.owner == owner)).mergeSort fun a b =>
    b.createdAt.micros ≤ a.createdAt.micros

def deletePayees (owner : Uuid) (db : Database) : Statement (Nat × Database) := do
  let rows ← db.payeeRows
  return ((rows.filter (·.owner == owner)).length,
    { db with payees := some (rows.filter (·.owner != owner)) })

def ensureTables (db : Database) : Statement Database :=
  if db.reachable then
    .ok { db with
      accounts := some (db.accounts.getD []),
      transactions := some (db.transactions.getD []),
      payees := some (db.payees.getD []),
      indexes := Index.all }
  else .error .cannotOpen

def dropTable (table : Table) (db : Database) : Database :=
  let db := { db with indexes := db.indexes.filter (·.table ≠ table) }
  match table with
  | .accounts => { db with accounts := none }
  | .transactions => { db with transactions := none }
  | .payees => { db with payees := none }

def dropTables (db : Database) : Statement Database :=
  if db.reachable then .ok (Table.all.foldl (fun db table => db.dropTable table) db)
  else .error .cannotOpen

def hasTable (db : Database) : Table → Bool
  | .accounts => db.accounts.isSome
  | .transactions => db.transactions.isSome
  | .payees => db.payees.isSome

def objects (db : Database) : List String :=
  (Index.all.filter (· ∈ db.indexes)).map (fun index => "index " ++ index.name) ++
    (Table.all.filter db.hasTable).map (fun table => "table " ++ table.name)

end Database

end Passbook
