import Passbook.Json.Reader
import Passbook.Number.IntegerText
import Passbook.Token.Base64
import Passbook.Token.Sha256
import Passbook.Uuid

/-!
Bearer tokens: a header, claims and a signature, each in base 64, with points between them.

- `Token.claims`: the claims of a token that is signed with the secret and valid at the time
- `Token.owner`: the owner that a token speaks for
- `Token.issue`: a token for an owner
-/

namespace Passbook.Token
open Passbook.Text

/-- Why a token is not accepted. The last three make a request break down: a time that is no number
at all, one beyond all numbers, and a header or claims that are nested too deep to be read. -/
inductive Fault
  | malformed
  | expired
  | claim
  | notATime
  | endlessTime
  | tooDeep
deriving DecidableEq

def bytesOf (s : String) : List UInt8 := s.toUTF8.data.toList

def textOf? (bytes : List UInt8) : Option String := String.fromUTF8? ⟨bytes.toArray⟩

def algorithm : String := "HS256"

def splitLast? (cs : List Char) : Option (List Char × List Char) :=
  let tail := cs.reverse.takeWhile (· ≠ '.')
  if tail.length < cs.length then
    some (cs.take (cs.length - tail.length - 1), tail.reverse)
  else none

def splitFirst? (cs : List Char) : Option (List Char × List Char) :=
  match cs.dropWhile (· ≠ '.') with
  | _ :: rest => some (cs.takeWhile (· ≠ '.'), rest)
  | [] => none

def decodePart? (cs : List Char) : Option (List UInt8) :=
  Base64.decode? (bytesOf (String.ofList cs)).length cs

def need {α : Type} : Option α → Except Fault α
  | some a => .ok a
  | none => .error .malformed

def readObject (bytes : List UInt8) : Except Fault Json := do
  match Json.parse (← need (textOf? bytes)) with
  | .ok (.object fields) => return .object fields
  | .error .tooDeep => throw .tooDeep
  | _ => throw .malformed

def namesAlgorithm (header : Json) : Bool :=
  match header.field? "alg" with
  | some (.string name) => name == algorithm
  | _ => false

def verified (secret token : String) : Except Fault Json := do
  let (signed, signature) ← need (splitLast? token.toList)
  let (header, payload) ← need (splitFirst? signed)
  let header ← readObject (← need (decodePart? header))
  let payload ← need (decodePart? payload)
  let signature ← need (decodePart? signature)
  if !namesAlgorithm header then throw .malformed
  if Sha256.keyed (bytesOf secret) (bytesOf (String.ofList signed)) ≠ signature then
    throw .malformed
  readObject payload

def seconds : Json → Except Fault Int
  | .int i => .ok i
  | .bool b => .ok (if b then 1 else 0)
  | .string s =>
    match readInteger? 10 s with
    | some i => .ok i
    | none => .error .claim
  | .quoted _ => .error .claim
  | .float (.finite n m e) =>
    let size : Int := m * Nat.pow 2 e.toNat / Nat.pow 2 (-e).toNat
    .ok (if n then -size else size)
  | .float (.infinite _) => .error .endlessTime
  | .float .nan => .error .claim
  | _ => .error .notATime

def testClaim (claims : Json) (name : String) (test : Json → Except Fault Unit) :
    Except Fault Unit :=
  match claims.field? name with
  | some value => test value
  | none => .ok ()

def mustBeText : Json → Except Fault Unit
  | .quoted _ => .ok ()
  | _ => .error .claim

/-- The claims in the order in which they are tested. A token for a certain audience, or bound to
another token, is for someone else. -/
def testClaims (now : Int) (claims : Json) : Except Fault Unit := do
  testClaim claims "iat" fun value => do
    let _ ← seconds value
  testClaim claims "nbf" fun value => do
    if now < (← seconds value) then .error .claim
  testClaim claims "exp" fun value => do
    if (← seconds value) < now then .error .expired
  testClaim claims "aud" fun _ => .error .claim
  testClaim claims "sub" mustBeText
  testClaim claims "jti" mustBeText
  testClaim claims "at_hash" fun _ => .error .claim

def claims (secret : String) (now : Int) (token : String) : Except Fault Json := do
  let claims ← verified secret token
  testClaims now claims
  return claims

inductive OwnerFault
  | notValid
  | breakdown (fault : Fault)
deriving DecidableEq

def Fault.asOwnerFault : Fault → OwnerFault
  | .notATime => .breakdown .notATime
  | .endlessTime => .breakdown .endlessTime
  | .tooDeep => .breakdown .tooDeep
  | _ => .notValid

def owner (secret : String) (now : Int) (token : String) : Except OwnerFault Uuid :=
  match claims secret now token with
  | .error fault => .error fault.asOwnerFault
  | .ok claims =>
    match claims.field? "sub" with
    | some (.string s) =>
      match Uuid.ofSubject? s with
      | some owner => .ok owner
      | none => .error .notValid
    | _ => .error .notValid

def encodePart (s : String) : List Char := Base64.encode (bytesOf s)

def issue (secret : String) (owner : Uuid) : String :=
  let header := encodePart "\x7b\"alg\": \"HS256\", \"typ\": \"JWT\"\x7d"
  let payload := encodePart ("\x7b\"sub\": \"" ++ owner.text ++ "\"\x7d")
  let signed := header ++ '.' :: payload
  let signature := Sha256.keyed (bytesOf secret) (bytesOf (String.ofList signed))
  String.ofList (signed ++ '.' :: Base64.encode signature)

end Passbook.Token
