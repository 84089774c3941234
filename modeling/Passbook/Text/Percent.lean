import Passbook.Number.IntegerText

namespace Passbook.Text

def continuations : Nat → Nat → Nat → Nat → List Nat → Option Nat × List Nat
  | 0, _, _, point, bytes => (some point, bytes)
  | _ + 1, _, _, _, [] => (none, [])
  | count + 1, low, high, point, byte :: rest =>
    if low ≤ byte ∧ byte ≤ high then continuations count 0x80 0xBF (64 * point + byte % 64) rest
    else (none, byte :: rest)

def decodeCharacter (byte : Nat) (rest : List Nat) : Option Nat × List Nat :=
  if byte < 0x80 then (some byte, rest)
  else if byte < 0xC2 then (none, rest)
  else if byte < 0xE0 then continuations 1 0x80 0xBF (byte % 32) rest
  else if byte < 0xF0 then
    continuations 2 (if byte = 0xE0 then 0xA0 else 0x80) (if byte = 0xED then 0x9F else 0xBF)
      (byte % 16) rest
  else if byte < 0xF5 then
    continuations 3 (if byte = 0xF0 then 0x90 else 0x80) (if byte = 0xF4 then 0x8F else 0xBF)
      (byte % 8) rest
  else (none, rest)

/-- Reads bytes as UTF-8. The bytes of a character that breaks off become one replacement character;
`fuel` bounds the number of characters. -/
def decodeBytes : Nat → List Nat → List Char
  | 0, _ | _, [] => []
  | fuel + 1, byte :: rest =>
    let (point, rest) := decodeCharacter byte rest
    Char.ofNat (point.getD 0xFFFD) :: decodeBytes fuel rest

def latinBytes : List Char → List Nat
  | '%' :: a :: b :: rest =>
    match digitIn? 16 a, digitIn? 16 b with
    | some high, some low => (16 * high + low) :: latinBytes rest
    | _, _ => '%'.toNat :: latinBytes (a :: b :: rest)
  | c :: rest => c.toNat :: latinBytes rest
  | [] => []

def decodeCollected (collected : List Char) : List Char :=
  let bytes := latinBytes collected.reverse
  decodeBytes bytes.length bytes

def percentDecodeFrom (collected : List Char) : List Char → List Char
  | [] => decodeCollected collected
  | c :: rest =>
    if c.toNat < 0x80 then percentDecodeFrom (c :: collected) rest
    else decodeCollected collected ++ c :: percentDecodeFrom [] rest

def percentDecode (cs : List Char) : String := String.ofList (percentDecodeFrom [] cs)

def splitAtMarks (mark : Char) : List Char → List (List Char)
  | [] => [[]]
  | c :: rest =>
    if c = mark then [] :: splitAtMarks mark rest
    else
      match splitAtMarks mark rest with
      | piece :: pieces => (c :: piece) :: pieces
      | [] => [[c]]

def decodeForm (cs : List Char) : String :=
  percentDecode (cs.map fun c => if c = '+' then ' ' else c)

/-- The names and values in order. A piece without an equals sign has an empty value; pieces with
empty values count only if `keepEmpty` says so, and empty pieces never. -/
def namedValues (keepEmpty : Bool) (cs : List Char) : List (String × String) :=
  (splitAtMarks '&' cs).filterMap fun piece =>
    let name := piece.takeWhile (· ≠ '=')
    let value := (piece.drop name.length).drop 1
    if piece.isEmpty || (value.isEmpty && !keepEmpty) then none
    else some (decodeForm name, decodeForm value)

end Passbook.Text
