import Passbook.Ledger.Operation

/-!
Which store serves a call.

Without a durable store, the memory store does. With one, the durable store is tried first. Its
answer counts, and so does its refusal. If a table was missing, the tables are provisioned and the
durable store is tried once more. After any other failure the memory store serves this one call.

- `Stores.serve`: this protocol, for any behaviour of the stores
- `Served.calls`: the calls that were made, in their order
-/

namespace Passbook

inductive StoreCall
  | durable
  | repair
  | memory
deriving DecidableEq

structure Stores (σ : Type) where
  durable : Option (σ → Outcome σ Answer)
  repair : σ → Outcome σ Unit
  memory : σ → Outcome σ Answer

structure Served (σ : Type) where
  result : Except Failure Answer
  state : σ
  log : List Event
  calls : List StoreCall

namespace Served

def ofOutcome {σ : Type} (o : Outcome σ Answer) (calls : List StoreCall) : Served σ :=
  ⟨o.result, o.state, o.log, calls⟩

def after {σ : Type} (log : List Event) (calls : List StoreCall) (r : Served σ) : Served σ :=
  { r with log := log ++ r.log, calls := calls ++ r.calls }

end Served

def Outcome.surfaced {σ α : Type} (outage : Outage) (event : Event) (o : Outcome σ α) :
    Outcome σ α :=
  match o.result with
  | .ok _ | .error (.refused _) => o
  | .error _ => ⟨.error (.unavailable outage), o.state, o.log ++ [event]⟩

namespace Stores

def serveFromMemory {σ : Type} (stores : Stores σ) (method : Method) (s : σ) : Served σ :=
  .ofOutcome ((stores.memory s).surfaced (.noStore method) (.memoryFailed method)) [.memory]

def serveAfterRepair {σ : Type} (stores : Stores σ) (durable : σ → Outcome σ Answer)
    (method : Method) (s : σ) : Served σ :=
  let outage := Outage.afterRepair method
  let repair := (stores.repair s).surfaced outage (.repairFailed method)
  match repair.result with
  | .error failure => ⟨.error failure, repair.state, repair.log, [.repair]⟩
  | .ok _ =>
    let retry := (durable repair.state).surfaced outage (.repairFailed method)
    (Served.ofOutcome retry [.durable]).after repair.log [.repair]

def serve {σ : Type} (stores : Stores σ) (method : Method) (s : σ) : Served σ :=
  match stores.durable with
  | none => (stores.serveFromMemory method s).after [.noDurableStore method] []
  | some durable =>
    let first := durable s
    match first.result with
    | .ok _ | .error (.refused _) => .ofOutcome first [.durable]
    | .error (.schemaMissing _) =>
      (stores.serveAfterRepair durable method first.state).after
        (first.log ++ [.schemaMissing method]) [.durable]
    | .error _ =>
      (stores.serveFromMemory method first.state).after
        (first.log ++ [.durableFailed method]) [.durable]

end Stores

end Passbook
