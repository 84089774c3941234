import Passbook.Address.Driver
import Passbook.Number.BinaryText
import Passbook.Text.Letter

/-!
Whether a database can be set up at an address. Nothing is opened for that; the driver must be
there, the parts of the address must suit it, and its options must be readable.
-/

namespace Passbook.Address
open Passbook.Text

def trueOptions : List String := ["true", "yes", "on", "y", "t", "1"]
def falseOptions : List String := ["false", "no", "off", "n", "f", "0"]

def readFlag : List String → Except AddressFault Bool
  | [value] =>
    let word := lower (strip value)
    if trueOptions.contains word then .ok true
    else if falseOptions.contains word then .ok false
    else .error .badNumber
  | _ => .ok true

def readNumber {α : Type} (read? : String → Option α) : List String → Except AddressFault Unit
  | [value] => if (read? value).isSome then .ok () else .error .badNumber
  | _ => .error .notOneValue

def testOption (a : Address) (name : String) (read : List String → Except AddressFault Unit) :
    Except AddressFault Unit :=
  match a.option? name with
  | some values => read values
  | none => .ok ()

def isGiven (part : Option String) : Bool := part.any (· ≠ "")

def namesServer (a : Address) : Bool :=
  isGiven a.user || isGiven a.password || isGiven a.host || a.socket.any (· ≠ 0)

def fileOptions : List String :=
  ["uri", "timeout", "isolation_level", "detect_types", "check_same_thread", "cached_statements"]

/-- A file has no server. If it is named by an address of its own and has options, it must be
named. -/
def checkFile (a : Address) : Except AddressFault Unit := do
  if a.namesServer then throw .unfitParts
  let readsName ← match a.option? "uri" with
    | some values => readFlag values
    | none => pure false
  a.testOption "timeout" (readNumber Binary64.ofText?)
  a.testOption "detect_types" (readNumber (readInteger? 10))
  a.testOption "check_same_thread" fun values => do
    let _ ← readFlag values
  a.testOption "cached_statements" (readNumber (readInteger? 10))
  if readsName && a.database.isNone && a.options.any (!fileOptions.contains ·.1) then throw .noFile

def hostOption : String := "host"
def socketOption : String := "port"

structure Servers where
  hosts : List String
  sockets : List (Option Int)
deriving DecidableEq

def isHostChar (c : Char) : Bool := c.isAlphanum || c == '-' || c == '.'

def hostAndSocket? (s : String) : Option (String × String) :=
  let cs := s.toList
  let (host, rest) := (cs.takeWhile isHostChar, cs.dropWhile isHostChar)
  match rest with
  | ':' :: socket =>
    let socket := if socket.getLast? = some '\n' then socket.dropLast else socket
    if socket.all fun c => (digitValue? c).isSome then
      some (String.ofList host, String.ofList socket)
    else none
  | _ => none

def readServerSocket (s : String) : Except AddressFault (Option Int) :=
  if s = "" then .ok none
  else
    match readInteger? 10 s with
    | some socket => .ok (some socket)
    | none => .error .unfitParts

def splitText (mark : Char) (s : String) : List String :=
  (splitAtMarks mark s.toList).map String.ofList

def separateHosts (values : List String) : Except AddressFault (List String × List String) :=
  let pairs := values.map fun value => if value.contains ':' then splitText ':' value else [value, ""]
  if pairs.all (2 < ·.length) then .error .tooManyNames
  else .ok (pairs.map (·.headD ""), pairs.map fun pair => (pair.drop 1).headD "")

def readHosts (a : Address) : Except AddressFault (List String × Option (List String)) :=
  match a.option? hostOption with
  | none => .ok ([], none)
  | some [value] =>
    match splitText ',' value, (a.option? socketOption).isNone, hostAndSocket? value with
    | [_], true, some (host, socket) => .ok ([host], some [socket])
    | hosts, _, _ => .ok (hosts, none)
  | some values => (separateHosts values).map fun (hosts, sockets) => (hosts, some sockets)

def readSockets (a : Address) (fromHosts : Option (List String)) :
    Except AddressFault (Option (List String)) :=
  match a.option? socketOption, fromHosts with
  | none, sockets => .ok sockets
  | some _, some _ => .error .unfitParts
  | some [value], none => .ok (some (splitText ',' value))
  | some values, none => .ok (some values)

def readServers (a : Address) : Except AddressFault Servers := do
  let (hosts, fromHosts) ← a.readHosts
  let sockets ← ((← a.readSockets fromHosts).getD []).mapM readServerSocket
  let areSeveral := 1 < hosts.length || 1 < sockets.length
  if !sockets.isEmpty && areSeveral && hosts.length ≠ sockets.length then throw .unfitParts
  return ⟨hosts, if sockets.isEmpty then hosts.map fun _ => none else sockets⟩

def checkServer (a : Address) : Except AddressFault Unit := do
  let servers ← a.readServers
  if 1 < servers.hosts.length then
    if !servers.hosts.all (· ≠ "") || !servers.sockets.all (·.any (· ≠ 0)) then throw .unfitParts
  a.testOption "prepared_statement_cache_size" (readNumber (readInteger? 10))
  a.testOption "async_fallback" fun values => do
    let _ ← readFlag values

def check (s : String) : Except AddressFault Unit := do
  let a ← parse s
  if (a.option? "plugin").isSome then throw .unknownName
  match ← Driver.named a.name with
  | .absent => throw .notInstalled
  | .server => a.checkServer
  | .file blocks =>
    a.checkFile
    if blocks then throw .blockingDriver

end Passbook.Address
