import Passbook.Service.World

namespace Passbook

inductive Call
  | createAccount (owner : Uuid) (label currency : Option String)
      (deposit : Option (Option Decimal))
  | listAccounts (owner : Uuid)
  | listTransactions (owner : Uuid) (account : Option Uuid)
  | applyTransaction (owner account : Uuid) (amount : Option Decimal) (kind : Option String)
      (currency description : Option String)
  | makePayment (owner account : Uuid) (amount : Option Decimal)
      (payeeName payeeNumber description : Option String)
  | listPayees (owner : Uuid)
  | createPayee (owner : Uuid) (name number : Option String)
  | deletePayees (owner : Uuid)
deriving DecidableEq

namespace Call
open Passbook.Text

def owner : Call → Uuid
  | createAccount owner .. | listAccounts owner | listTransactions owner _
  | applyTransaction owner .. | makePayment owner .. | listPayees owner | createPayee owner ..
  | deletePayees owner => owner

def openingAmount : Option (Option Decimal) → Except Failure Decimal
  | none => .ok Money.zero
  | some deposit => Money.check "Initial deposit" true deposit

/-- The operation of a call; its arguments are trimmed, put into normal form and tested. An amount
that could not be read as a number is given as none. -/
def operation (terms : Terms) : Call → Except Failure Operation
  | createAccount owner label currency deposit => do
    let label := Terms.orElse (trimmed label) terms.label
    let currency := Terms.orElse (upper (trimmed currency)) terms.currency
    let opening ← openingAmount deposit
    return .createAccount owner (some label) (some currency) opening
  | listAccounts owner => .ok (.listAccounts owner)
  | listTransactions owner account => .ok (.listTransactions owner account)
  | applyTransaction owner account amount kind currency description => do
    let amount ← Money.check "Amount" false amount
    let kind ← normalizeKind kind
    return .applyTransaction owner account amount currency kind (some (description.getD ""))
  | makePayment owner account amount payeeName payeeNumber description => do
    let amount ← Money.check "Amount" false amount
    return .applyTransaction owner account amount none .debit
      (some (paymentDescription description payeeName payeeNumber))
  | listPayees owner => .ok (.listPayees owner)
  | createPayee owner name number =>
    if trimmed name = "" ∨ trimmed number = "" then refuse (.invalidRequest .payeeFields)
    else .ok (.createPayee owner (some (trimmed name)) (some (trimmed number)))
  | deletePayees owner => .ok (.deletePayees owner)

end Call

namespace World

def perform (terms : Terms) (call : Call) (w : World) : Served World :=
  match call.operation terms with
  | .error failure => ⟨.error failure, w, [], []⟩
  | .ok op => w.serve terms op

def run (terms : Terms) : List Call → World → List (Except Failure Answer) × World
  | [], w => ([], w)
  | call :: rest, w =>
    let served := w.perform terms call
    let (answers, w) := run terms rest served.state
    (served.result :: answers, w)

end World

end Passbook
