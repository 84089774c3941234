import Passbook.Text.Blank
import Passbook.Text.DecimalDigit

/-!
Whole numbers as text, in base ten or sixteen: digits of any script, with single underscores between
them. A number in base ten may have 4300 digits.
-/

namespace Passbook
open Passbook.Text

def plainDigitChar (c : Char) : Char :=
  if c.toNat < 127 then c
  else if isBlank c then ' '
  else
    match digitValue? c with
    | some d => Char.ofNat ('0'.toNat + d)
    | none => '?'

def isLineBlank (c : Char) : Bool := c == ' ' || (9 ≤ c.toNat && c.toNat ≤ 13)

def digitIn? (base : Nat) (c : Char) : Option Nat :=
  let value :=
    if c.isDigit then c.toNat - '0'.toNat
    else if 'a' ≤ c ∧ c ≤ 'z' then c.toNat - 'a'.toNat + 10
    else if 'A' ≤ c ∧ c ≤ 'Z' then c.toNat - 'A'.toNat + 10
    else base
  if value < base then some value else none

def readDigits? (base : Nat) : Nat → List Char → Option Nat
  | n, [] => some n
  | n, '_' :: c :: rest => (digitIn? base c).bind fun d => readDigits? base (n * base + d) rest
  | n, c :: rest => (digitIn? base c).bind fun d => readDigits? base (n * base + d) rest

def readMagnitude? (base : Nat) (cs : List Char) : Option Nat :=
  match cs with
  | [] | '_' :: _ => none
  | cs => readDigits? base 0 cs

def afterBaseMark (base : Nat) (cs : List Char) : List Char :=
  match base, cs with
  | 16, '0' :: x :: '_' :: rest => if x = 'x' ∨ x = 'X' then rest else cs
  | 16, '0' :: x :: rest => if x = 'x' ∨ x = 'X' then rest else cs
  | _, cs => cs

def readInteger? (base : Nat) (s : String) : Option Int :=
  let cs := trimBoth isLineBlank (s.toList.map plainDigitChar)
  let (negative, digits) :=
    match cs with
    | '-' :: rest => (true, rest)
    | '+' :: rest => (false, rest)
    | rest => (false, rest)
  let digits := afterBaseMark base digits
  if base = 10 ∧ 4300 < (digits.filter Char.isDigit).length then none
  else (readMagnitude? base digits).map fun n => if negative then -(n : Int) else n

end Passbook
