import Passbook.Number.Arithmetic
import Passbook.Number.DecimalText
import Passbook.Text.Quoted
import Passbook.Uuid

/-!
Why a call of the ledger fails, as causes, and the text of each.

- `Refusal`: an answer to the caller's request, which no store may turn into anything else
- `SchemaFault`, `Outage`: troubles of a store that the service deals with
- `Failure`: all of these, and what else may stop a call
- `ErrorKind`: the published families of errors, their names and their default texts
-/

namespace Passbook

inductive Method
  | createAccount
  | listAccounts
  | listTransactions
  | applyTransaction
  | listPayees
  | createPayee
  | deletePayees
deriving DecidableEq

def Method.name : Method → String
  | .createAccount => "create_account"
  | .listAccounts => "list_accounts"
  | .listTransactions => "list_transactions"
  | .applyTransaction => "apply_transaction"
  | .listPayees => "list_payees"
  | .createPayee => "create_payee"
  | .deletePayees => "delete_payees"

inductive MoneyFault
  | notANumber
  | notFinite
  | outOfRange
  | belowCents
  | negative
  | notPositive
deriving DecidableEq

def greatestAmount : Decimal := .ofCents 999999999999999999

def MoneyFault.message (field : String) : MoneyFault → String
  | .notANumber => field ++ " must be a number"
  | .notFinite => field ++ " must be a finite number"
  | .outOfRange => field ++ " is out of range (max " ++ greatestAmount.text ++ ")"
  | .belowCents => field ++ " cannot have more than two decimal places"
  | .negative => field ++ " cannot be negative"
  | .notPositive => field ++ " must be greater than zero"

inductive InvalidRequest
  | money (field : String) (fault : MoneyFault)
  | kind (given : Option String)
  | payeeFields
  | stated (text : String)
deriving DecidableEq

def orNone (s : Option String) : String := s.getD "None"

def quotedOrNone (s : Option String) : String := orNone (s.map Text.quoted)

def InvalidRequest.message : InvalidRequest → String
  | .money field fault => fault.message field
  | .kind given =>
    "Transaction type must be 'credit' or 'debit', got " ++ quotedOrNone given
  | .payeeFields => "Name and account number are required"
  | .stated text => text

inductive Denied
  | resource
  | account
deriving DecidableEq

inductive Refusal
  | accountNotFound (id : Uuid)
  | insufficientFunds (account : Uuid) (requested available : Decimal)
  | accessDenied (target : Denied)
  | invalidRequest (fault : InvalidRequest)
  | duplicatePayee (number : Option String)
deriving DecidableEq

def Refusal.message (name : Uuid → String) : Refusal → String
  | .accountNotFound id => "Account " ++ name id ++ " not found"
  | .insufficientFunds _ requested available =>
    "Insufficient funds: requested " ++ requested.text ++ ", available " ++ available.text
  | .accessDenied .resource => "You do not have access to this resource"
  | .accessDenied .account => "You do not have access to this account"
  | .invalidRequest fault => fault.message
  | .duplicatePayee number =>
    "Payee with account number " ++ orNone number ++ " already exists"

inductive SchemaFault
  | unspecified
  | reported
deriving DecidableEq

def SchemaFault.message : SchemaFault → String
  | .unspecified => "Ledger schema is missing"
  | .reported => "Ledger schema is missing:"

inductive Outage
  | unspecified
  | storeFailed
  | provisioning
  | dropping
  | noFreeNumber
  | afterRepair (method : Method)
  | noStore (method : Method)
deriving DecidableEq

def Outage.message : Outage → String
  | .unspecified => "Ledger storage is unavailable"
  | .storeFailed => "Durable store failed:"
  | .provisioning => "Could not provision ledger schema:"
  | .dropping => "Could not drop ledger schema:"
  | .noFreeNumber => "Failed to generate a unique account number"
  | .afterRepair method => "Ledger storage unavailable after schema repair (" ++ method.name ++ ")"
  | .noStore method => "Ledger storage unavailable (" ++ method.name ++ ")"

/-- What a database driver says about one error object: its text and the two places where a state
code may stand. -/
structure ErrorNote where
  message : String
  sqlstate : Option String
  pgcode : Option String
deriving DecidableEq

structure DriverError where
  own : ErrorNote
  wrapped : Option ErrorNote
  cause : Option ErrorNote
deriving DecidableEq

inductive Failure
  | refused (refusal : Refusal)
  | schemaMissing (fault : SchemaFault)
  | unavailable (outage : Outage)
  | timedOut
  | system (message : String)
  | driver (error : DriverError)
  | breakdown (message : String)
  | arithmetic (fault : ArithmeticFault)
deriving DecidableEq

inductive ErrorKind
  | ledger
  | business
  | accountNotFound
  | insufficientFunds
  | unauthorizedAccess
  | invalidRequest
  | duplicatePayee
  | schemaMissing
  | storageUnavailable
deriving DecidableEq

namespace ErrorKind

def name : ErrorKind → String
  | ledger => "LedgerError"
  | business => "LedgerBusinessError"
  | accountNotFound => "AccountNotFoundError"
  | insufficientFunds => "InsufficientFundsError"
  | unauthorizedAccess => "UnauthorizedAccessError"
  | invalidRequest => "InvalidRequestError"
  | duplicatePayee => "DuplicatePayeeError"
  | schemaMissing => "SchemaMissingError"
  | storageUnavailable => "StorageUnavailableError"

def all : List ErrorKind :=
  [ledger, business, accountNotFound, insufficientFunds, unauthorizedAccess, invalidRequest,
   duplicatePayee, schemaMissing, storageUnavailable]

def ofName? (s : String) : Option ErrorKind := all.find? (·.name == s)

def lineage : ErrorKind → List ErrorKind
  | ledger => [ledger]
  | business => [business, ledger]
  | schemaMissing => [schemaMissing, ledger]
  | storageUnavailable => [storageUnavailable, ledger]
  | kind => [kind, business, ledger]

def defaultText? : ErrorKind → Option String
  | ledger | business | invalidRequest => some "An error occurred"
  | unauthorizedAccess => some ((Refusal.accessDenied .resource).message Uuid.text)
  | schemaMissing => some SchemaFault.unspecified.message
  | storageUnavailable => some Outage.unspecified.message
  | _ => none

inductive ArgumentFault
  | unfit
  | notAnId
  | notANumber
deriving DecidableEq

def idOf : Option String → Except ArgumentFault Uuid
  | none => .error .unfit
  | some s =>
    match Uuid.ofSubject? s with
    | some id => .ok id
    | none => .error .notAnId

def numberOf : Option String → Except ArgumentFault Decimal
  | none => .error .unfit
  | some s =>
    match Decimal.ofText? s with
    | some x => .ok x
    | none => .error .notANumber

def textOf : ErrorKind → List (Option String) → Except ArgumentFault (Option String)
  | accountNotFound, [id] => do
    return some ((Refusal.accountNotFound (← idOf id)).message Uuid.text)
  | insufficientFunds, [id, requested, available] => do
    let refusal := Refusal.insufficientFunds (← idOf id) (← numberOf requested) (← numberOf available)
    return some (refusal.message Uuid.text)
  | duplicatePayee, [number] => .ok (some ((Refusal.duplicatePayee number).message Uuid.text))
  | kind, [] =>
    match kind.defaultText? with
    | some text => .ok (some text)
    | none => .error .unfit
  | kind, [text] => if kind.defaultText?.isSome then .ok text else .error .unfit
  | _, _ => .error .unfit

end ErrorKind

def Refusal.kind : Refusal → ErrorKind
  | .accountNotFound _ => .accountNotFound
  | .insufficientFunds .. => .insufficientFunds
  | .accessDenied _ => .unauthorizedAccess
  | .invalidRequest _ => .invalidRequest
  | .duplicatePayee _ => .duplicatePayee

def refuse {α : Type} (r : Refusal) : Except Failure α := .error (.refused r)

end Passbook
