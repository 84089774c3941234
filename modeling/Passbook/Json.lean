import Passbook.Number.Binary64

/-!
JSON values. Whole numbers are kept apart from numbers written with a point or a power of ten, which
are binary fractions.
-/

namespace Passbook

def isSurrogate (point : Nat) : Bool := 0xD800 ≤ point && point < 0xE000

/-- What a JSON string holds: a text, or code points with a surrogate that has no partner among
them. -/
inductive JsonText
  | plain (s : String)
  | broken (points : List Nat)
deriving DecidableEq

namespace JsonText

def ofPoints (points : List Nat) : JsonText :=
  if points.any isSurrogate then .broken points else .plain (String.ofList (points.map Char.ofNat))

def points : JsonText → List Nat
  | plain s => s.toList.map Char.toNat
  | broken points => points

def charAt (point : Nat) : Char := if isSurrogate point then Char.ofNat 0xFFFD else Char.ofNat point

def chars : JsonText → List Char
  | plain s => s.toList
  | broken points => points.map charAt

instance : Coe String JsonText := ⟨.plain⟩

end JsonText

inductive Json
  | null
  | bool (value : Bool)
  | int (value : Int)
  | float (value : Binary64)
  | quoted (content : JsonText)
  | array (items : List Json)
  | object (fields : List (JsonText × Json))

namespace Json

@[match_pattern] abbrev string (s : String) : Json := .quoted (.plain s)

def whole? : Json → Option Int
  | .int i => some i
  | .bool b => some (if b then 1 else 0)
  | _ => none

def field? (name : String) : Json → Option Json
  | .object fields => (fields.find? (·.1 == .plain name)).map (·.2)
  | _ => none

def setField (name : JsonText) (value : Json) : List (JsonText × Json) → List (JsonText × Json)
  | [] => [(name, value)]
  | (other, old) :: rest =>
    if other = name then (name, value) :: rest else (other, old) :: setField name value rest

end Json

end Passbook
