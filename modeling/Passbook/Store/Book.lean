import Passbook.Ledger.Operation
import Passbook.Ledger.Rules
import Passbook.Ledger.Supply

/-!
The ledger in memory: a shelf of records for every owner, and the account numbers given out. An
owner without accounts gets a default one on the first listing, and an owner without payees the
demonstration payee.
-/

namespace Passbook

structure Shelf where
  accounts : List Account
  transactions : List Transaction
  payees : List Payee
deriving DecidableEq

def Shelf.empty : Shelf := ⟨[], [], []⟩

structure Book where
  shelf : Uuid → Shelf
  numbers : List String

structure BookTerms where
  attempts : Nat
  label : String
  currency : String
deriving DecidableEq

namespace Book

def empty : Book := ⟨fun _ => .empty, []⟩

def setShelf (b : Book) (owner : Uuid) (shelf : Shelf) : Book :=
  { b with shelf := fun other => if other = owner then shelf else b.shelf other }

def isTaken (b : Book) (number : String) : Bool := b.numbers.contains number

def addAccount (b : Book) (account : Account) : Book :=
  let shelf := b.shelf account.owner
  { b.setShelf account.owner { shelf with accounts := shelf.accounts ++ [account] } with
    numbers := account.number :: b.numbers }

def addTransaction (b : Book) (t : Transaction) : Book :=
  let shelf := b.shelf t.owner
  b.setShelf t.owner { shelf with transactions := shelf.transactions ++ [t] }

def addPayee (b : Book) (p : Payee) : Book :=
  let shelf := b.shelf p.owner
  b.setShelf p.owner { shelf with payees := shelf.payees ++ [p] }

/-- Opens an account under a free number. An opening amount that has no order stops the call when
the account already stands. -/
def createAccount (stamp : Stamp) (number : String) (owner : Uuid)
    (label currency : Option String) (opening : Decimal) (b : Book) :
    Except Failure Answer × Book :=
  let account := Account.opened stamp number owner label currency opening
  let b := b.addAccount account
  match opening.exceeds? Money.zero with
  | none => (.error (.arithmetic .invalid), b)
  | some true => (.ok (.account account), b.addTransaction (account.openingCredit stamp))
  | some false => (.ok (.account account), b)

def listTransactions (owner : Uuid) (account : Option Uuid) (b : Book) : Except Failure Answer :=
  let shelf := b.shelf owner
  match account with
  | none => .ok (.transactions shelf.transactions.reverse)
  | some id =>
    if shelf.accounts.any (·.id == id) then
      .ok (.transactions (shelf.transactions.reverse.filter (·.account == id)))
    else refuse (.accountNotFound id)

def replaceAccount (account : Account) : List Account → List Account
  | [] => []
  | other :: rest =>
    if other.id = account.id then account :: rest else other :: replaceAccount account rest

def apply (stamp : Stamp) (owner id : Uuid) (amount : Decimal) (currency : Option String)
    (kind : Kind) (description : Option String) (b : Book) : Except Failure (Answer × Book) := do
  let shelf := b.shelf owner
  match shelf.accounts.find? (·.id == id) with
  | none => refuse (.accountNotFound id)
  | some account =>
    let delta ← signedDelta account.id account.balance amount kind
    let balance ← (account.balance.add? delta).mapError .arithmetic
    let t : Transaction :=
      { id := stamp.first, account := id, owner, amount,
        currency := resolveCurrency currency account.currency, kind, description,
        createdAt := stamp.now }
    let account := { account with balance, updatedAt := stamp.now }
    .ok (.transaction t,
      b.setShelf owner { shelf with
        accounts := replaceAccount account shelf.accounts,
        transactions := shelf.transactions ++ [t] })

def demoPayeeName : String := "Demo Payee"
def demoPayeeNumber : String := "DEMO1234567890"

def demoPayee (stamp : Stamp) (owner : Uuid) : Payee :=
  { id := stamp.first, owner, name := some demoPayeeName, number := some demoPayeeNumber,
    createdAt := stamp.now }

def listPayees (stamp : Stamp) (owner : Uuid) (b : Book) : List Payee × Book :=
  let b := if (b.shelf owner).payees.isEmpty then b.addPayee (demoPayee stamp owner) else b
  ((b.shelf owner).payees.reverse, b)

def createPayee (stamp : Stamp) (owner : Uuid) (name number : Option String) (b : Book) :
    Except Failure (Answer × Book) :=
  if (b.shelf owner).payees.any (·.number == number) then refuse (.duplicatePayee number)
  else
    let payee : Payee := { id := stamp.first, owner, name, number, createdAt := stamp.now }
    .ok (.payee payee, b.addPayee payee)

def deletePayees (owner : Uuid) (b : Book) : Nat × Book :=
  let shelf := b.shelf owner
  (shelf.payees.length, b.setShelf owner { shelf with payees := [] })

def settle (b : Book) (s : Supply) : Except Failure (Answer × Book) → Outcome (Book × Supply) Answer
  | .ok (answer, b) => { result := .ok answer, state := (b, s) }
  | .error failure => { result := .error failure, state := (b, s) }

def noFreeNumber : Failure := .unavailable .noFreeNumber

def run (terms : BookTerms) (op : Operation) (b : Book) (s : Supply) :
    Outcome (Book × Supply) Answer :=
  let (stamp, s) := s.stamp
  match op with
  | .createAccount owner label currency opening =>
    match s.findNumber b.isTaken terms.attempts with
    | (none, s) => { result := .error noFreeNumber, state := (b, s) }
    | (some number, s) =>
      let (result, b) := b.createAccount stamp number owner label currency opening
      { result, state := (b, s) }
  | .listAccounts owner =>
    if (b.shelf owner).accounts.isEmpty then
      match s.findNumber b.isTaken terms.attempts with
      | (none, s) => { result := .error noFreeNumber, state := (b, s) }
      | (some number, s) =>
        let account :=
          Account.opened stamp number owner (some terms.label) (some terms.currency) Money.zero
        { result := .ok (.accounts [account]), state := (b.addAccount account, s),
          log := [.defaultAccount owner] }
    else { result := .ok (.accounts (b.shelf owner).accounts), state := (b, s) }
  | .listTransactions owner account =>
    { result := b.listTransactions owner account, state := (b, s) }
  | .applyTransaction owner id amount currency kind description =>
    settle b s (b.apply stamp owner id amount currency kind description)
  | .listPayees owner =>
    let (payees, b) := b.listPayees stamp owner
    { result := .ok (.payees payees), state := (b, s) }
  | .createPayee owner name number => settle b s (b.createPayee stamp owner name number)
  | .deletePayees owner =>
    let (count, b) := b.deletePayees owner
    { result := .ok (.removed count), state := (b, s) }

end Book

end Passbook
