import Passbook.Number.Decimal
import Passbook.Uuid
import Passbook.Instant

/-!
The records of the ledger: accounts, transactions and payees.

Amounts of transactions are positive; the direction is the transaction's kind. Texts are optional
because a store takes them as it is given them. What comes through the service has all of them.
-/

namespace Passbook

/-- The direction of a transaction. Whatever is not a debit counts as money in. -/
inductive Kind
  | credit
  | debit
  | other (text : Option String)
deriving DecidableEq

namespace Kind

def text : Kind → Option String
  | .credit => some "credit"
  | .debit => some "debit"
  | .other text => text

def ofText : Option String → Kind
  | some "credit" => .credit
  | some "debit" => .debit
  | text => .other text

end Kind

structure Account where
  id : Uuid
  owner : Uuid
  number : String
  label : Option String
  balance : Decimal
  currency : Option String
  createdAt : Instant
  updatedAt : Instant
deriving DecidableEq

structure Transaction where
  id : Uuid
  account : Uuid
  owner : Uuid
  amount : Decimal
  currency : Option String
  kind : Kind
  description : Option String
  createdAt : Instant
deriving DecidableEq

structure Payee where
  id : Uuid
  owner : Uuid
  name : Option String
  number : Option String
  createdAt : Instant
deriving DecidableEq

def openingDescription : String := "Initial deposit"

def accountNumberFloor : Nat := 100000000000

def accountNumberSpan : Nat := 900000000000

def accountNumber (draw : Nat) : String := toString (accountNumberFloor + draw)

end Passbook
