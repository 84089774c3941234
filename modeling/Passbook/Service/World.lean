import Passbook.Service.Selection
import Passbook.Store.Book
import Passbook.Store.Durable

/-!
The stores of one service together, with what they take from outside.

- `World`: the memory store, the durable store if there is one, the supply, and a script of what
  calls of the stores meet, for trying out failures
- `World.callDurable`, `World.callMemory`, `World.repair`: calls of a store under that script
- `Terms`: what the service is set up with
-/

namespace Passbook

/-- What the next calls meet, for each method of each store; beyond it they take their course. -/
structure Script where
  durable : Method → List Fault
  memory : Method → List Fault
  repair : List Fault

namespace Script

def empty : Script := ⟨fun _ => [], fun _ => [], []⟩

def next : List Fault → Fault × List Fault
  | [] => (.pass, [])
  | fault :: rest => (fault, rest)

def setQueue (queues : Method → List Fault) (method : Method) (queue : List Fault) :
    Method → List Fault :=
  fun other => if other = method then queue else queues other

def takeDurable (script : Script) (method : Method) : Fault × Script :=
  let (fault, rest) := next (script.durable method)
  (fault, { script with durable := setQueue script.durable method rest })

def takeMemory (script : Script) (method : Method) : Fault × Script :=
  let (fault, rest) := next (script.memory method)
  (fault, { script with memory := setQueue script.memory method rest })

def takeRepair (script : Script) : Fault × Script :=
  let (fault, rest) := next script.repair
  (fault, { script with repair := rest })

end Script

structure Terms where
  attempts : Nat
  label : String
  currency : String
deriving DecidableEq

namespace Terms

def standardAttempts : Nat := 5
def standardLabel : String := "Checking"
def standardCurrency : String := "NZD"

def standard : Terms := ⟨standardAttempts, standardLabel, standardCurrency⟩

/-- No attempts at all stands for the standard number of them, less than none for none. -/
def attemptsFor (asked : Int) : Nat := if asked = 0 then standardAttempts else asked.toNat

def orElse (s standard : String) : String := if s = "" then standard else s

/-- The memory store does not put up with empty texts. -/
def forBook (terms : Terms) : BookTerms :=
  ⟨terms.attempts, orElse terms.label standardLabel, orElse terms.currency standardCurrency⟩

end Terms

structure World where
  book : Book
  durable : Option Durable
  supply : Supply
  script : Script

namespace World

def scripted {α : Type} (fault : Fault) (w : World) (call : World → Outcome World α) :
    Outcome World α :=
  match fault.failure? with
  | some failure => { result := .error failure, state := w }
  | none => call w

def callMemory (terms : Terms) (op : Operation) (w : World) : Outcome World Answer :=
  let (fault, script) := w.script.takeMemory op.method
  scripted fault { w with script } fun w =>
    (w.book.run terms.forBook op w.supply).within fun (book, supply) => { w with book, supply }

def callDurable (terms : Terms) (op : Operation) (d : Durable) (w : World) :
    Outcome World Answer :=
  let (fault, script) := w.script.takeDurable op.method
  scripted fault { w with script } fun w =>
    (d.run terms.attempts (fault = .noRow) op w.supply).within fun (d, supply) =>
      { w with durable := some d, supply }

def tryDurable (terms : Terms) (op : Operation) (w : World) : Outcome World Answer :=
  match w.durable with
  | some d => w.callDurable terms op d
  | none => { result := .error (.unavailable .unspecified), state := w }

def repair (w : World) : Outcome World Unit :=
  let (fault, script) := w.script.takeRepair
  scripted fault { w with script } fun w =>
    match w.durable with
    | some d => d.ensureTables.within fun d => { w with durable := some d }
    | none => { result := .error (.unavailable .provisioning), state := w }

def dropTables (w : World) : Outcome World Unit :=
  match w.durable with
  | some d => d.dropTables.within fun d => { w with durable := some d }
  | none => { result := .error (.unavailable .dropping), state := w }

def stores (terms : Terms) (op : Operation) (w : World) : Stores World :=
  { durable := w.durable.map fun _ => tryDurable terms op
    repair := repair
    memory := callMemory terms op }

def serve (terms : Terms) (op : Operation) (w : World) : Served World :=
  (w.stores terms op).serve op.method w

end World

end Passbook
