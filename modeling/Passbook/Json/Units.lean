import Passbook.Json.Reader

/-!
JSON texts as bytes. A text may be written in units of 8, 16 or 32 bits; its first two characters
are basic Latin ones, so the noughts among its first bytes tell which.
-/

namespace Passbook.Json

inductive UnitForm
  | bytes
  | wide (bigEndian : Bool)
  | widest (bigEndian : Bool)
deriving DecidableEq

def UnitForm.ofBytes : List Nat → UnitForm
  | [a, b] => if a = 0 then .wide true else if b = 0 then .wide false else .bytes
  | 0 :: b :: _ :: _ :: _ => if b = 0 then .widest true else .wide true
  | _ :: 0 :: c :: d :: _ => if c = 0 ∧ d = 0 then .widest false else .wide false
  | _ => .bytes

def bytesValue (bigEndian : Bool) (bytes : List Nat) : Nat :=
  (if bigEndian then bytes else bytes.reverse).foldl (256 * · + ·) 0

def wideUnits? (bigEndian : Bool) : List Nat → Option (List Nat)
  | [] => some []
  | a :: b :: rest => (wideUnits? bigEndian rest).map (bytesValue bigEndian [a, b] :: ·)
  | [_] => none

def widestUnits? (bigEndian : Bool) : List Nat → Option (List Nat)
  | [] => some []
  | a :: b :: c :: d :: rest =>
    (widestUnits? bigEndian rest).map (bytesValue bigEndian [a, b, c, d] :: ·)
  | _ => none

def joinPairs : List Nat → List Nat
  | high :: low :: rest =>
    if isHighSurrogate high && isLowSurrogate low then joinSurrogates high low :: joinPairs rest
    else high :: joinPairs (low :: rest)
  | units => units

def widePoints? : UnitForm → List Nat → Option (List Nat)
  | .bytes, _ => none
  | .wide bigEndian, bytes => (wideUnits? bigEndian bytes).map joinPairs
  | .widest bigEndian, bytes =>
    (widestUnits? bigEndian bytes).filter fun points => points.all (· < 0x110000)

def withoutMark : List Nat → List Nat
  | 0xFEFF :: rest => rest
  | points => points

def parseBytes (s : String) : Except ReadFault Json :=
  let bytes := s.toUTF8.data.toList.map UInt8.toNat
  let points :=
    match UnitForm.ofBytes bytes with
    | .bytes => some (withoutMark (s.toList.map Char.toNat))
    | form => widePoints? form bytes
  match points with
  | none => .error .notText
  | some points => parsePoints points

end Passbook.Json
