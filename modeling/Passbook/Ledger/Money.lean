import Passbook.Json
import Passbook.Ledger.Failure

/-!
Amounts of money as the ledger keeps them: whole cents up to 9999999999999999.99.
-/

namespace Passbook

namespace Json

inductive Unread
  | notANumber
  | beyondWord
deriving DecidableEq

def wordBound : Int := 9223372036854775808

def word (value : Json) : Except Unread Int :=
  match value.whole? with
  | none => .error .notANumber
  | some i => if -wordBound ≤ i ∧ i < wordBound then .ok i else .error .beyondWord

def signOf (value : Json) : Except Unread Bool := do
  let i ← value.word
  if i = 0 then return false
  else if i = 1 then return true
  else throw .notANumber

inductive Scale
  | power (e : Int)
  | infinite
  | nan (signaling : Bool)
deriving DecidableEq

def scaleOf : Json → Except Unread Scale
  | .string "F" => .ok .infinite
  | .string "n" => .ok (.nan false)
  | .string "N" => .ok (.nan true)
  | value => return .power (← value.word)

def digitOf (value : Json) : Except Unread Char := do
  let i ← value.word
  if 0 ≤ i ∧ i ≤ 9 then return Char.ofNat ('0'.toNat + i.toNat) else throw .notANumber

def digitsOf : Json → Except Unread (List Char)
  | .array digits => digits.mapM digitOf
  | _ => .error .notANumber

def found : Option Decimal → Except Unread Decimal
  | some x => .ok x
  | none => .error .notANumber

/-- A number in parts. They are read in turn, the digits last. -/
def numberOfParts (sign digits scale : Json) : Except Unread Decimal := do
  let negative ← sign.signOf
  let scale ← scale.scaleOf
  let c := Decimal.numberOfDigits (← digits.digitsOf)
  match scale with
  | .power e => found (Decimal.readable? negative c e)
  | .infinite => return .infinite negative
  | .nan signaling => return .nan negative signaling c

/-- Texts are read as numbers, numbers have their exact values, the truth values count as one and
nought, and a list of three items is a number in parts. -/
def toDecimal : Json → Except Unread Decimal
  | .string s => found (Decimal.ofText? s)
  | .int i => .ok (.ofInt i)
  | .float x => .ok x.toDecimal
  | .bool b => .ok (.ofNat (if b then 1 else 0))
  | .array [sign, digits, scale] => numberOfParts sign digits scale
  | _ => .error .notANumber

def amount (value : Json) : Except Failure (Option Decimal) :=
  match value.toDecimal with
  | .ok x => .ok (some x)
  | .error .notANumber => .ok none
  | .error .beyondWord => .error (.arithmetic .beyondWord)

end Json

namespace Money

def zero : Decimal := .ofNat 0

def isAbove (x y : Decimal) : Bool := x.compare? y == some .gt
def isBelow (x y : Decimal) : Bool := x.compare? y == some .lt
def isEqual (x y : Decimal) : Bool := x.compare? y == some .eq

def reject {α : Type} (field : String) (fault : MoneyFault) : Except Failure α :=
  refuse (.invalidRequest (.money field fault))

/-- The range is tested on the size rounded to 28 digits, which may overflow; whole cents are tested
on the number itself. -/
def check (field : String) (allowZero : Bool) : Option Decimal → Except Failure Decimal
  | none => reject field .notANumber
  | some x =>
    if !x.isFinite then reject field .notFinite
    else
      match x.magnitude? with
      | .error fault => .error (.arithmetic fault)
      | .ok size =>
        if isAbove size greatestAmount then reject field .outOfRange
        else
          let cents := x.rescale (-2)
          if !isEqual cents x then reject field .belowCents
          else if allowZero then
            if isBelow cents zero then reject field .negative else .ok cents
          else if isAbove cents zero then .ok cents
          else reject field .notPositive

def validate (field : String) (allowZero : Bool) (value : Json) : Except Failure Decimal := do
  check field allowZero (← value.amount)

end Money

end Passbook
