import Passbook.Address.Check
import Passbook.Json.Reader
import Passbook.Service.World
import Passbook.Settings.Value

namespace Passbook
open Passbook.Text

structure Settings where
  appName : String
  appVersion : String
  debug : Bool
  logLevel : String
  logJson : Bool
  databaseUrl : Option String
  timeoutSeconds : Binary64
  numberAttempts : Int
  defaultCurrency : String
  defaultLabel : String
  secretKey : String
  algorithm : String
  allowedOrigins : List JsonText

inductive SettingsFault
  | notJson
  | tooDeep
  | values (faults : List (String × Settings.ValueFault))
deriving DecidableEq

namespace Settings

/-- The value of a variable. The letter case of names does not matter, and of two variables with one
name the last counts. -/
def valueOf? (env : List (String × String)) (name : String) : Option String :=
  (env.reverse.find? fun entry => lower entry.1 == lower name).map (·.2)

def reading {α : Type} (env : List (String × String)) (name : String) (usual : α)
    (read : String → Except ValueFault α) : Except (List (String × ValueFault)) α :=
  match valueOf? env name with
  | none => .ok usual
  | some s => (read s).mapError fun fault => [(name, fault)]

def text (env : List (String × String)) (name usual : String) : String :=
  (valueOf? env name).getD usual

def secretName : String := "SECRET_KEY"

def secret (env : List (String × String)) : Except (List (String × ValueFault)) String :=
  match valueOf? env secretName with
  | some s => .ok s
  | none => .error [(secretName, .missing)]

def configuredUrl (url : Option String) : Option String :=
  (url.map strip).filter (· ≠ "")

def originsName : String := "ALLOWED_ORIGINS"

def usualOrigins : List JsonText := ["http://localhost:3000"]

def strings (name : String) (items : List Json) :
    Except (List (String × ValueFault)) (List JsonText) :=
  let texts := items.filterMap fun
    | .quoted content => some content
    | _ => none
  if texts.length = items.length then .ok texts
  else .error (List.replicate (items.length - texts.length) (name, .notAString))

def origins (env : List (String × String)) :
    Except SettingsFault (Except (List (String × ValueFault)) (List JsonText)) :=
  match valueOf? env originsName with
  | none => .ok (.ok usualOrigins)
  | some s =>
    match Json.parse s with
    | .error .tooDeep => .error .tooDeep
    | .error _ => .error .notJson
    | .ok .null => .ok (.ok usualOrigins)
    | .ok (.array items) => .ok (strings originsName items)
    | .ok _ => .ok (.error [(originsName, .notAList)])

def names : List String :=
  ["ACCOUNT_NUMBER_ATTEMPTS", "ALGORITHM", originsName, "APP_NAME", "APP_VERSION", "DATABASE_URL",
   "DB_OPERATION_TIMEOUT_SECONDS", "DEBUG", "DEFAULT_ACCOUNT_TYPE", "DEFAULT_CURRENCY", "LOG_JSON",
   "LOG_LEVEL", secretName]

def faultsOf {α : Type} : Except (List (String × ValueFault)) α → List (String × ValueFault)
  | .ok _ => []
  | .error faults => faults

def read (env : List (String × String)) : Except SettingsFault Settings := do
  let origins ← origins env
  let attempts := reading env "ACCOUNT_NUMBER_ATTEMPTS" (Terms.standardAttempts : Int) readInteger
  let timeout := reading env "DB_OPERATION_TIMEOUT_SECONDS" (Binary64.ofRatio false 10 1) readFloat
  let debug := reading env "DEBUG" false readBool
  let logJson := reading env "LOG_JSON" false readBool
  let key := secret env
  match attempts, origins, timeout, debug, logJson, key with
  | .ok numberAttempts, .ok allowedOrigins, .ok timeoutSeconds, .ok debug, .ok logJson,
    .ok secretKey =>
    return {
      appName := text env "APP_NAME" "Ledger Engine"
      appVersion := text env "APP_VERSION" "0.1.0"
      debug, logLevel := text env "LOG_LEVEL" "INFO"
      logJson, databaseUrl := configuredUrl (valueOf? env "DATABASE_URL")
      timeoutSeconds, numberAttempts
      defaultCurrency := text env "DEFAULT_CURRENCY" Terms.standardCurrency
      defaultLabel := text env "DEFAULT_ACCOUNT_TYPE" Terms.standardLabel
      secretKey, algorithm := text env "ALGORITHM" "HS256"
      allowedOrigins }
  | _, _, _, _, _, _ =>
    .error (.values (faultsOf attempts ++ faultsOf origins ++ faultsOf timeout ++ faultsOf debug ++
      faultsOf logJson ++ faultsOf key))

def terms (s : Settings) : Terms :=
  ⟨Terms.attemptsFor s.numberAttempts, s.defaultLabel, s.defaultCurrency⟩

end Settings

inductive StorageMode
  | memory
  | durable
deriving DecidableEq

def StorageMode.name : StorageMode → String
  | memory => "volatile"
  | durable => "durable"

def World.storageMode (w : World) : StorageMode :=
  match w.durable with
  | none => .memory
  | some _ => .durable

def StorageMode.ofUrl (url : Option String) : Except AddressFault StorageMode :=
  match Settings.configuredUrl url with
  | none => .ok .memory
  | some url => (Address.check url).map fun _ => .durable

end Passbook
