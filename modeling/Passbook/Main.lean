import Passbook.Demo.Command

/-!
The command that seeds the ledger with sample data, with its settings from the environment. The
database of a run starts without tables and ends with the run.
-/

namespace Passbook.Demo

def readVariables : List String → IO (List (String × String))
  | [] => return []
  | name :: rest => do
    let found := (← IO.getEnv name).toList.map fun value => (name, value)
    return found ++ (← readVariables rest)

def drawCount : Nat := 64

def readDraws : Nat → IO (List Nat)
  | 0 => return []
  | n + 1 => do
    let draw ← IO.rand 0 (accountNumberSpan - 1)
    return draw :: (← readDraws n)

/-- No moment is printed, so any clock that only goes forward will do. -/
def readSupply : IO Supply := do
  let draws ← readDraws drawCount
  let now : Int := (← IO.monoNanosNow) / 1000
  return { nextId := ← IO.rand 0 (Nat.pow 2 60), clock := ⟨0, fun k => now + k⟩, drawn := 0
           draw := fun k => draws.getD (k % drawCount) 0 }

def databaseFor : StorageMode → Option Durable
  | .memory => none
  | .durable => some ⟨Database.empty, []⟩

def seedAndPrint (settings : Settings) (mode : StorageMode) (reset : Bool) : IO UInt32 := do
  let world : World :=
    { book := Book.empty, durable := databaseFor mode, supply := ← readSupply,
      script := Script.empty }
  let progress := run settings.terms Terms.standardCurrency Uuid.text reset world
  for line in progress.lines do IO.println line
  return if progress.failure.isSome then 1 else 0

def reportFaults : SettingsFault → IO Unit
  | .notJson => IO.eprintln (Settings.originsName ++ ": not JSON")
  | .tooDeep => IO.eprintln (Settings.originsName ++ ": nested too deep")
  | .values faults =>
    for (name, fault) in faults do IO.eprintln (name ++ ": " ++ fault.name)

end Passbook.Demo

open Passbook in
def main (arguments : List String) : IO UInt32 := do
  match Demo.Options.ofArguments arguments with
  | .invalid =>
    IO.eprintln Demo.usage
    return 2
  | .help =>
    for line in Demo.helpLines do IO.println line
    return 0
  | .seed reset =>
    match Settings.read (← Demo.readVariables Settings.names) with
    | .error fault =>
      Demo.reportFaults fault
      return 1
    | .ok settings =>
      match StorageMode.ofUrl settings.databaseUrl with
      | .error _ =>
        IO.eprintln "DATABASE_URL: no database can be set up at this address"
        return 1
      | .ok mode => Demo.seedAndPrint settings mode reset
