import Passbook.Demo
import Passbook.Settings

namespace Passbook.Demo

inductive Options
  | seed (reset : Bool)
  | help
  | invalid
deriving DecidableEq

namespace Options

def resetFlag : List Char := "--reset".toList
def helpFlag : List Char := "--help".toList

inductive Word
  | reset
  | help
  | unknown
  | misused
deriving DecidableEq

def names (flag name : List Char) : Bool := 2 < name.length && name.isPrefixOf flag

def longWord (cs : List Char) : Word :=
  let name := cs.takeWhile (· ≠ '=')
  let word :=
    if names resetFlag name then Word.reset else if names helpFlag name then .help else .unknown
  if word ≠ .unknown ∧ name.length < cs.length then .misused else word

def shortWord : List Char → Word
  | [] => .help
  | ['='] => .misused
  | '=' :: letters | letters => if letters.all (· == 'h') then .help else .misused

def wordOf (argument : String) : Word :=
  match argument.toList with
  | '-' :: '-' :: rest => longWord ('-' :: '-' :: rest)
  | '-' :: 'h' :: rest => shortWord rest
  | _ => .unknown

def isAmbiguous (argument : String) : Bool := "--=".toList.isPrefixOf argument.toList

/-- Reads arguments from left to right. A request for help wins over what is merely unknown. -/
def readFrom (reset unknown : Bool) : List String → Options
  | [] => if unknown then .invalid else .seed reset
  | argument :: rest =>
    match wordOf argument with
    | .help => .help
    | .misused => .invalid
    | .reset => readFrom true unknown rest
    | .unknown => readFrom reset true rest

def separator : String := "--"

def ofArguments (arguments : List String) : Options :=
  let flags := arguments.takeWhile (· ≠ separator)
  if flags.any isAmbiguous then .invalid
  else readFrom false (arguments.contains separator) flags

end Options

def usage : String := "usage: seed.py [-h] [--reset]"

def helpLines : List String :=
  [usage, "", "Demo seed script — NOT FOR PRODUCTION", "", "options:",
   "  -h, --help  show this help message and exit",
   "  --reset     Drop the ledger tables before seeding", "",
   "Creates sample accounts and transactions for the demo owner."]

def run (terms : Terms) (currency : String) (name : Uuid → String) (reset : Bool) (w : World) :
    Progress :=
  let opening := ["", "Seeding ledger (" ++ w.storageMode.name ++ " store)"]
  let first := if reset then Demo.reset w else Progress.start w
  let first := { first with lines := opening ++ first.lines }
  if first.failure.isSome then first
  else
    let (seeded, p) := seed terms currency name ownerId first.world
    let closing :=
      if seeded && p.failure.isNone then
        ["", "SEED COMPLETE — demo owner " ++ name ownerId, ""]
      else []
    { p with log := first.log ++ p.log, lines := first.lines ++ p.lines ++ closing }

end Passbook.Demo
