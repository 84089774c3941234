import Passbook.Ledger.Money
import Passbook.Ledger.Record
import Passbook.Text.Letter
import Passbook.Text.Blank

namespace Passbook
open Passbook.Text

def trimmed (s : Option String) : String := strip (s.getD "")

def normalizeKind (given : Option String) : Except Failure Kind :=
  match lower (trimmed given) with
  | "credit" => .ok .credit
  | "debit" => .ok .debit
  | _ => refuse (.invalidRequest (.kind given))

def signedDelta (account : Uuid) (balance amount : Decimal) (kind : Kind) :
    Except Failure Decimal :=
  if kind = .debit then
    match amount.exceeds? balance with
    | none => .error (.arithmetic .invalid)
    | some true => refuse (.insufficientFunds account amount balance)
    | some false => amount.negate?.mapError .arithmetic
  else .ok amount

def resolveCurrency (requested accountCurrency : Option String) : Option String :=
  match requested with
  | none => accountCurrency
  | some s => if isBlankText s then accountCurrency else some (upper (strip s))

def paymentDescription (description payeeName payeeNumber : Option String) : String :=
  match description.filter (!isBlankText ·), payeeName.filter (!isBlankText ·) with
  | some text, _ => text
  | none, some name => "Payment to " ++ name ++ " (" ++ payeeNumber.getD "" ++ ")"
  | none, none => "Payment"

end Passbook
