import Passbook.Service.Call

/-!
Sample data for demonstrations: two accounts with a few transactions for one owner.
-/

namespace Passbook.Demo

def ownerId : Uuid := ⟨0xaaaaaaaaaaaaaaaaaaaaaaaaaaaaaaaa⟩

structure Entry where
  kind : Kind
  amount : Decimal
  description : String
deriving DecidableEq

structure Plan where
  label : String
  opening : Decimal
  entries : List Entry
deriving DecidableEq

def plans : List Plan :=
  [{ label := "Checking", opening := .ofCents 250050
     entries := [⟨.credit, .ofCents 10000, "Salary deposit"⟩,
       ⟨.debit, .ofCents 5000, "Grocery shopping"⟩] },
   { label := "Savings", opening := .ofCents 1000000
     entries := [⟨.credit, .ofCents 50000, "Transfer from checking"⟩] }]

structure Progress where
  world : World
  log : List Event
  lines : List String
  failure : Option Failure

namespace Progress

def start (w : World) : Progress := ⟨w, [], [], none⟩

def print (line : String) (p : Progress) : Progress := { p with lines := p.lines ++ ["  " ++ line] }

def call (terms : Terms) (c : Call) (next : Answer → Progress → Progress) (p : Progress) :
    Progress :=
  let served := p.world.perform terms c
  let p := { p with world := served.state, log := p.log ++ served.log }
  match served.result with
  | .ok answer => next answer p
  | .error failure => { p with failure := some failure }

end Progress

def padRight (width : Nat) (s : String) : String :=
  s ++ String.ofList (List.replicate (width - s.length) ' ')

def padLeft (width : Nat) (s : String) : String :=
  String.ofList (List.replicate (width - s.length) ' ') ++ s

def accountLine (a : Account) : String :=
  padRight 10 (a.label.getD "") ++ " " ++ a.number ++ "  opened with " ++ a.balance.text

def entryLine (e : Entry) : String :=
  "  " ++ padRight 6 (e.kind.text.getD "") ++ " " ++ padLeft 10 e.amount.text ++ "  " ++
    e.description

def bookEntries (terms : Terms) (owner account : Uuid) : List Entry → Progress → Progress
  | [], p => p
  | e :: rest, p =>
    p.call terms
      (.applyTransaction owner account (some e.amount) e.kind.text none (some e.description))
      fun _ p => bookEntries terms owner account rest (p.print (entryLine e))

def openAccounts (terms : Terms) (owner : Uuid) (currency : String) :
    List Plan → Progress → Progress
  | [], p => p
  | plan :: rest, p =>
    p.call terms (.createAccount owner (some plan.label) (some currency) (some (some plan.opening)))
      fun answer p =>
        match answer with
        | .account a =>
          let p := bookEntries terms owner a.id plan.entries (p.print (accountLine a))
          if p.failure.isSome then p else openAccounts terms owner currency rest p
        | _ => p

def hasTransactions : Answer → Bool
  | .transactions (_ :: _) => true
  | _ => false

/-- Whether anything was booked, and how it went; owners are named by `name`. -/
def seed (terms : Terms) (currency : String) (name : Uuid → String) (owner : Uuid) (w : World) :
    Bool × Progress :=
  let listing := w.perform terms (.listTransactions owner none)
  let p : Progress := ⟨listing.state, listing.log, [], none⟩
  match listing.result with
  | .error failure => (false, { p with failure := some failure })
  | .ok answer =>
    if hasTransactions answer then
      (false, p.print ("Owner " ++ name owner ++ " already has ledger data, skipping"))
    else (true, openAccounts terms owner currency plans p)

def reset (w : World) : Progress :=
  match w.durable with
  | none => (Progress.start w).print "No DATABASE_URL configured, nothing to reset"
  | some _ =>
    let dropped := w.dropTables
    match dropped.result with
    | .error failure => ⟨dropped.state, dropped.log, [], some failure⟩
    | .ok _ =>
      let created := dropped.state.repair
      match created.result with
      | .error failure => ⟨created.state, dropped.log ++ created.log, [], some failure⟩
      | .ok _ =>
        Progress.print "Ledger tables dropped and recreated"
          ⟨created.state, dropped.log ++ created.log, [], none⟩

end Passbook.Demo
