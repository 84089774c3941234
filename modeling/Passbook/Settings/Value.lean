import Passbook.Number.BinaryText
import Passbook.Text.Search

namespace Passbook.Settings
open Passbook.Text

inductive ValueFault
  | missing
  | notABool
  | notAnInteger
  | tooManyDigits
  | notAFloat
  | notAList
  | notAString
deriving DecidableEq

def ValueFault.name : ValueFault → String
  | missing => "missing"
  | notABool => "bool_parsing"
  | notAnInteger => "int_parsing"
  | tooManyDigits => "int_parsing_size"
  | notAFloat => "float_parsing"
  | notAList => "list_type"
  | notAString => "string_type"

def isSpace (c : Char) : Bool := isBlank c && !(0x1C ≤ c.toNat && c.toNat ≤ 0x1F)

def trueWords : List String := ["1", "t", "y", "on", "yes", "true"]
def falseWords : List String := ["0", "f", "n", "no", "off", "false"]

def readBool (s : String) : Except ValueFault Bool :=
  let word := String.ofList (s.toList.map Char.toLower)
  if trueWords.contains word then .ok true
  else if falseWords.contains word then .ok false
  else .error .notABool

def withoutUnderscores? (cs : List Char) : Option (List Char) :=
  if cs.head? = some '_' ∨ cs.getLast? = some '_' ∨ containsChars ['_', '_'] cs then none
  else some (cs.filter (· ≠ '_'))

/-- The digits of a number that starts with noughts, without these; the last of them stays if
nothing but a point or the end follows. -/
def afterNoughts (last : Char) : List Char → Option (List Char)
  | [] => some [last]
  | c :: rest =>
    if c = '0' ∨ c = '_' then afterNoughts c rest
    else if c.isDigit then some (c :: rest)
    else if c = '.' then some (last :: c :: rest)
    else none

def withoutLeadingNoughts? : List Char → Option (List Char)
  | '0' :: rest => afterNoughts '0' rest
  | c :: rest => if c.isDigit then some (c :: rest) else none
  | [] => none

def withoutNoughtPlaces (cs : List Char) : List Char :=
  match cs.dropWhile (· ≠ '.') with
  | _ :: '0' :: places => if places.all (· == '0') then cs.takeWhile (· ≠ '.') else cs
  | _ => cs

def splitSign? : List Char → Option (Bool × List Char)
  | '+' :: '-' :: _ => none
  | '+' :: rest => some (false, rest)
  | '-' :: rest => some (true, rest)
  | rest => some (false, rest)

def numeral? (s : String) : Option (Bool × List Char) := do
  let (negative, cs) ← splitSign? (trimBoth isSpace s.toList)
  let cs ← withoutUnderscores? (withoutNoughtPlaces (← withoutLeadingNoughts? cs))
  return (negative, cs)

def greatestLength : Nat := 4300

def readInteger (s : String) : Except ValueFault Int :=
  match numeral? s with
  | none => .error .notAnInteger
  | some (negative, cs) =>
    if greatestLength < (String.ofList cs).utf8ByteSize + negative.toNat then .error .tooManyDigits
    else if cs.isEmpty || !cs.all Char.isDigit then .error .notAnInteger
    else
      let size : Int := Decimal.numberOfDigits cs
      .ok (if negative then -size else size)

def readFloat (s : String) : Except ValueFault Binary64 :=
  let plain := Binary64.ofChars? (trimBoth isSpace s.toList)
  match plain <|> (withoutUnderscores? s.toList).bind Binary64.ofChars? with
  | some x => .ok x
  | none => .error .notAFloat

end Passbook.Settings
