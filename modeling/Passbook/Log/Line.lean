import Passbook.Instant
import Passbook.Json.Writer
import Passbook.Ledger.Failure
import Passbook.Log.Template
import Passbook.Text.Letter

namespace Passbook

structure LoggedError where
  kind : String
  message : String
deriving DecidableEq

namespace LoggedError

def isRich (e : LoggedError) : Bool := ErrorKind.ofName? e.kind = some .insufficientFunds

def missingName : String := "KeyError"

def words (e : LoggedError) : String :=
  match ErrorKind.ofName? e.kind with
  | some .accountNotFound => "Account " ++ e.message ++ " not found"
  | some .duplicatePayee => (Refusal.duplicatePayee (some e.message)).message Uuid.text
  | some _ => e.message
  | none => if e.kind = missingName then Text.quoted e.message else e.message

/-- The kind and what the error says. Errors of the ledger's own families are written with the place
they are published in. -/
def text (e : LoggedError) : String :=
  let kind := if (ErrorKind.ofName? e.kind).isSome then "ledger.exceptions." ++ e.kind else e.kind
  if e.words = "" then kind else kind ++ ": " ++ e.words

end LoggedError

structure LogRecord where
  source : String
  level : Int
  template : String
  args : List Json
  error : Option LoggedError

def levelNames : List (Int × String) :=
  [(0, "NOTSET"), (10, "DEBUG"), (20, "INFO"), (30, "WARNING"), (40, "ERROR"), (50, "CRITICAL")]

def levelName (level : Int) : String :=
  match levelNames.find? (·.1 == level) with
  | some (_, name) => name
  | none => "Level " ++ toString level

def LogRecord.line (now : Instant) (r : LogRecord) : Except Template.Fault String := do
  if r.error.any LoggedError.isRich then throw .mismatch
  if !now.hasDate then throw .tooLarge
  let message ← Template.fill r.template r.args
  let error : List (JsonText × Json) :=
    r.error.toList.map fun e => ("exception", .string e.text)
  let fields : List (JsonText × Json) :=
    ("timestamp", .string (now.stamp ++ "+00:00")) :: ("level", .string (levelName r.level)) ::
      ("logger", .string r.source) :: ("message", .quoted message) :: error
  return (Json.object fields).text

structure LogSetup where
  level : Nat
  handlers : Nat
  json : Bool
  propagates : Bool
deriving DecidableEq

namespace LogSetup

def untouched : LogSetup := ⟨0, 0, false, true⟩

inductive Named
  | level (value : Nat)
  | text
  | table
deriving DecidableEq

def names : List (String × Named) :=
  [("DEBUG", .level 10), ("INFO", .level 20), ("WARN", .level 30), ("WARNING", .level 30),
   ("ERROR", .level 40), ("CRITICAL", .level 50), ("FATAL", .level 50), ("NOTSET", .level 0),
   ("BASIC_FORMAT", .text), ("_STYLES", .table)]

def named? (name : String) : Option Named :=
  (names.find? (·.1 == Text.upper name)).map (·.2)

inductive Fault
  | unknownLevel
  | notALevel
deriving DecidableEq

def levelOf (name : String) : Except Fault Nat :=
  match named? name with
  | some (.level value) => .ok value
  | some .text => .error .unknownLevel
  | some .table => .error .notALevel
  | none => .ok 20

def configure (name : String) (json : Bool) (old : LogSetup) : Except Fault Unit × LogSetup :=
  match levelOf name with
  | .ok level => (.ok (), ⟨level, 1, json, false⟩)
  | .error fault => (.error fault, { old with handlers := 1, json })

end LogSetup

end Passbook
