import Passbook.Api.Response
import Passbook.Json.Units
import Passbook.Service.Call
import Passbook.Settings
import Passbook.Token

/-!
The web interface of the ledger.

- `Endpoint.at?`: the endpoint for a method and a path
- `App.handle`: the response to a request, and the calls of stores that were made for it

A body that is not JSON is reported first, then missing or invalid credentials, then faults of the
fields; only then is the ledger asked.
-/

namespace Passbook

structure Request where
  method : String
  path : String
  query : List (String × String)
  authorization : Option String
  contentType : Option String
  body : String
deriving DecidableEq

inductive Action
  | createAccount
  | listAccounts
  | listTransactions
  | createTransaction
  | createPayment
  | listPayees
  | createPayee
  | deletePayees
deriving DecidableEq

namespace Action

def hasBody : Action → Bool
  | createAccount | createTransaction | createPayment | createPayee => true
  | _ => false

def successStatus (action : Action) : Nat := if action.hasBody then 201 else 200

end Action

inductive Endpoint
  | health
  | manual
  | ledger (action : Action)
deriving DecidableEq

namespace Endpoint

def manualPaths : List String := ["/openapi.json", "/docs", "/docs/oauth2-redirect", "/redoc"]

def routes : List (String × List (String × Endpoint)) :=
  [("/accounts", [("POST", .ledger .createAccount), ("GET", .ledger .listAccounts)]),
   ("/transactions",
    [("GET", .ledger .listTransactions), ("POST", .ledger .createTransaction)]),
   ("/payments", [("POST", .ledger .createPayment)]),
   ("/payees",
    [("GET", .ledger .listPayees), ("POST", .ledger .createPayee),
     ("DELETE", .ledger .deletePayees)]),
   ("/health", [("GET", health)])] ++
  manualPaths.map fun path => (path, [("GET", manual), ("HEAD", manual)])

def withoutLineBreak (path : String) : String :=
  match path.toList.reverse with
  | '\n' :: rest => String.ofList rest.reverse
  | _ => path

def methodsAt? (path : String) : Option (List (String × Endpoint)) :=
  (routes.find? (·.1 == withoutLineBreak path)).map (·.2)

def withoutLastStrokes (path : String) : String :=
  String.ofList (path.toList.reverse.dropWhile (· == '/')).reverse

def at? (method path : String) : Except Response Endpoint :=
  match methodsAt? path with
  | some methods =>
    match methods.find? (·.1 == method) with
    | some (_, endpoint) => .ok endpoint
    | none => .error .notAllowed
  | none =>
    if (methodsAt? (withoutLastStrokes path)).isSome then .error .elsewhere else .error .notFound

end Endpoint

inductive Payload
  | none
  | json (value : Json)
  | other (text : String)

namespace Payload

def saysJson (contentType : String) : Bool :=
  let kind := (Text.lower (Text.strip (String.ofList (contentType.toList.takeWhile (· ≠ ';')))))
  match kind.toList.dropWhile (· ≠ '/') with
  | _ :: sub =>
    kind.toList.takeWhile (· ≠ '/') = "application".toList && !sub.contains '/' &&
      (sub = "json".toList || "+json".toList.isSuffixOf sub)
  | [] => false

def ofRequest (r : Request) : Except Response Payload :=
  if r.body = "" then .ok .none
  else if r.contentType.any saysJson then
    match Json.parseBytes r.body with
    | .ok value => .ok (.json value)
    | .error .malformed => .error (.invalid [⟨["body"], .notJson, .object []⟩])
    | .error _ => .error .unreadable
  else .ok (.other r.body)

def object : Payload → Checked Json
  | .none => .error [⟨["body"], .missing, .null⟩]
  | .json (.object fields) => .ok (.object fields)
  | .json value => .error [⟨["body"], .notAnObject, value⟩]
  | .other text => .error [⟨["body"], .notAnObject, .string text⟩]

end Payload

def bearerToken? (authorization : Option String) : Option String :=
  let cs := (authorization.getD "").toList
  if Text.lower (String.ofList (cs.takeWhile (· ≠ ' '))) = "bearer" then
    some (Text.strip (String.ofList ((cs.dropWhile (· ≠ ' ')).drop 1)))
  else none

structure App where
  terms : Terms
  version : String
  secret : String

structure Handled where
  response : Response
  world : Option World
  log : List Event
  calls : List StoreCall

namespace App

def ownerOf (app : App) (now : Int) (r : Request) : Except Response Uuid :=
  match bearerToken? r.authorization with
  | none => .error .notAuthenticated
  | some token =>
    match Token.owner app.secret now token with
    | .ok owner => .ok owner
    | .error .notValid => .error .notValid
    | .error (.breakdown _) => .error .breakdown

def queriedAccount (query : List (String × String)) : Checked (Option Uuid) :=
  match query.reverse.find? (·.1 == "account_id") with
  | none => .ok none
  | some (_, s) =>
    match Uuid.ofText? s with
    | some id => .ok (some id)
    | none => .error [⟨["query", "account_id"], .notAnId, .string s⟩]

def callOf (owner : Uuid) (query : List (String × String)) (payload : Payload) :
    Action → Checked Call
  | .createAccount => do
    let form ← AccountForm.ofJson (← payload.object)
    return .createAccount owner form.label form.currency (form.deposit.map some)
  | .listAccounts => .ok (.listAccounts owner)
  | .listTransactions => do return .listTransactions owner (← queriedAccount query)
  | .createTransaction => do
    let form ← TransactionForm.ofJson (← payload.object)
    return .applyTransaction owner form.account (some form.amount) form.kind.text form.currency
      form.description
  | .createPayment => do
    let form ← PaymentForm.ofJson (← payload.object)
    return .makePayment owner form.account (some form.amount) form.payeeName form.payeeNumber
      form.description
  | .listPayees => .ok (.listPayees owner)
  | .createPayee => do
    let form ← PayeeForm.ofJson (← payload.object)
    return .createPayee owner (some form.name) (some form.number)
  | .deletePayees => .ok (.deletePayees owner)

/-- The call of a request for an action, or the response to a request that makes none. Without
stores a request breaks down as soon as its owner is known. -/
def prepare (app : App) (now : Int) (r : Request) (hasStores : Bool) (action : Action) :
    Except Response Call := do
  let payload ← if action.hasBody then Payload.ofRequest r else pure .none
  let owner ← app.ownerOf now r
  if !hasStores then throw .breakdown
  (callOf owner r.query payload action).mapError .invalid

def healthOf (app : App) (world : Option World) : Response :=
  ⟨200, .health app.version (((world.map World.storageMode).map StorageMode.name).getD "unknown")⟩

def answer (action : Action) : Except Failure Answer → Response
  | .ok answer => ⟨action.successStatus, answer.body⟩
  | .error failure => .ofFailure failure

def respond (app : App) (now : Int) (r : Request) (world : Option World) : Handled :=
  match Endpoint.at? r.method r.path with
  | .error response => ⟨response, world, [], []⟩
  | .ok .health => ⟨app.healthOf world, world, [], []⟩
  | .ok .manual => ⟨.manual, world, [], []⟩
  | .ok (.ledger action) =>
    match app.prepare now r world.isSome action, world with
    | .error response, _ => ⟨response, world, [], []⟩
    | .ok _, none => ⟨.breakdown, none, [], []⟩
    | .ok call, some w =>
      let served := w.perform app.terms call
      ⟨answer action served.result, some served.state, served.log, served.calls⟩

/-- Handles a request. The method's letter case does not matter, and a request for the head of a
response gets it without its body. -/
def handle (app : App) (now : Int) (r : Request) (world : Option World) : Handled :=
  let method := Text.upper r.method
  let handled := app.respond now { r with method } world
  if method = "HEAD" then { handled with response := handled.response.withoutBody } else handled

end App

end Passbook
