import Passbook.Api.Form
import Passbook.Json
import Passbook.Ledger.Operation

namespace Passbook

namespace Json

def hiddenMark : List Nat := "_sa".toList.map Char.toNat

mutual

def isReportable : Json → Bool
  | .float (.infinite _) | .float .nan | .quoted (.broken _) => false
  | .array items => areReportable items
  | .object fields => haveReportable fields
  | _ => true

def areReportable : List Json → Bool
  | [] => true
  | item :: rest => item.isReportable && areReportable rest

def haveReportable : List (JsonText × Json) → Bool
  | [] => true
  | (name, value) :: rest =>
    (hiddenMark.isPrefixOf name.points ||
      (name.points.all (!isSurrogate ·) && value.isReportable)) && haveReportable rest

end

end Json

inductive Body
  | account (account : Account)
  | accounts (accounts : List Account)
  | transaction (transaction : Transaction)
  | transactions (transactions : List Transaction)
  | payee (payee : Payee)
  | payees (payees : List Payee)
  | deleted (count : Nat)
  | health (version : String) (storage : String)
  | refused (refusal : Refusal)
  | unavailable (outage : Outage)
  | detail (text : String)
  | invalid (errors : List FieldError)
  | plain (text : String)

structure Response where
  status : Nat
  body : Body

namespace Response

def notAuthenticated : Response := ⟨401, .detail "Not authenticated"⟩
def notValid : Response := ⟨401, .detail "Could not validate credentials"⟩
def notFound : Response := ⟨404, .detail "Not Found"⟩
def notAllowed : Response := ⟨405, .detail "Method Not Allowed"⟩
def unreadable : Response := ⟨400, .detail "There was an error parsing the body"⟩
def elsewhere : Response := ⟨307, .plain ""⟩

def manual : Response := ⟨200, .plain ""⟩

def withoutBody (r : Response) : Response := { r with body := .plain "" }

def breakdown : Response := ⟨500, .plain "Internal Server Error"⟩

/-- Faults of a request. They are reported with the values they are about, which breaks down if one
of these cannot be written. -/
def invalid (errors : List FieldError) : Response :=
  if errors.all (·.value.isReportable) then ⟨422, .invalid errors⟩ else breakdown

def statusOf : Refusal → Nat
  | .accountNotFound _ => 404
  | .insufficientFunds .. => 422
  | .accessDenied _ => 403
  | .invalidRequest _ => 400
  | .duplicatePayee _ => 409

def ofFailure : Failure → Response
  | .refused refusal => ⟨statusOf refusal, .refused refusal⟩
  | .unavailable outage => ⟨503, .unavailable outage⟩
  | _ => breakdown

end Response

structure Labels where
  account : Uuid → String
  transaction : Uuid → String
  payee : Uuid → String
  moment : Instant → Json

def Labels.plain : Labels :=
  ⟨Uuid.text, Uuid.text, Uuid.text, fun t => .string (t.stamp ++ "Z")⟩

namespace Body

def optionalText (s : Option String) : Json := (s.map Json.string).getD .null

def accountJson (l : Labels) (a : Account) : Json :=
  .object [("id", .string (l.account a.id)), ("account_number", .string a.number),
    ("account_type", optionalText a.label), ("balance", .string a.balance.text),
    ("currency", optionalText a.currency)]

def transactionJson (l : Labels) (t : Transaction) : Json :=
  .object [("id", .string (l.transaction t.id)), ("account_id", .string (l.account t.account)),
    ("amount", .string t.amount.text), ("currency", optionalText t.currency),
    ("type", optionalText t.kind.text), ("description", optionalText t.description),
    ("created_at", l.moment t.createdAt)]

def payeeJson (l : Labels) (p : Payee) : Json :=
  .object [("id", .string (l.payee p.id)), ("name", optionalText p.name),
    ("account_number", optionalText p.number)]

def errorWord : Refusal → String
  | .accountNotFound _ => "account_not_found"
  | .insufficientFunds .. => "insufficient_funds"
  | .accessDenied _ => "unauthorized_access"
  | .invalidRequest _ => "invalid_request"
  | .duplicatePayee _ => "duplicate_payee"

def errorAmounts : Refusal → List (JsonText × Json)
  | .insufficientFunds _ requested available =>
    [("requested", .string requested.text), ("available", .string available.text)]
  | _ => []

def errorJson (e : FieldError) : Json :=
  .object [("loc", .array (e.location.map .string)), ("type", .string e.fault.name)]

def json (l : Labels) : Body → Json
  | account a => accountJson l a
  | accounts as => .array (as.map (accountJson l))
  | transaction t => transactionJson l t
  | transactions ts => .array (ts.map (transactionJson l))
  | payee p => payeeJson l p
  | payees ps => .array (ps.map (payeeJson l))
  | deleted count => .object [("deleted", .int count)]
  | health version storage =>
    .object [("status", .string "ok"), ("version", .string version), ("storage", .string storage)]
  | refused r =>
    .object (("detail", .string (r.message l.account)) :: ("error_type", .string (errorWord r)) ::
      errorAmounts r)
  | unavailable outage =>
    .object [("detail", .string outage.message), ("error_type", .string "storage_unavailable")]
  | detail text => .object [("detail", .string text)]
  | invalid errors => .object [("detail", .array (errors.map errorJson))]
  | plain text => .object [("text", .string text)]

end Body

def Answer.body : Answer → Body
  | .account a => .account a
  | .accounts as => .accounts as
  | .transaction t => .transaction t
  | .transactions ts => .transactions ts
  | .payee p => .payee p
  | .payees ps => .payees ps
  | .removed count => .deleted count

end Passbook
