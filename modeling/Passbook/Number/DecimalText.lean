import Passbook.Number.Decimal
import Passbook.Text.Blank
import Passbook.Text.DecimalDigit

/-!
Decimal numbers as text. When one is read, blanks around it and all underscores are passed over, and
a digit may be of any script. It is written without a power of ten as long as its exponent is not
positive and at most five noughts follow the point before the first digit.
-/

namespace Passbook.Decimal
open Passbook.Text

def readableTop : Int := 999999999999999999
def readableBottom : Int := -1999999999999999997

def numberOfDigits (digits : List Char) : Nat :=
  digits.foldl (fun n c => 10 * n + (c.toNat - '0'.toNat)) 0

def takeSign : List Char → Bool × List Char
  | '-' :: rest => (true, rest)
  | '+' :: rest => (false, rest)
  | rest => (false, rest)

def plainChars? (cs : List Char) : Option (List Char) :=
  (cs.filter (· ≠ '_')).mapM fun c =>
    if 0 < c.toNat ∧ c.toNat < 128 then some c
    else if isBlank c then some ' '
    else (digitValue? c).map fun d => Char.ofNat ('0'.toNat + d)

def readable? (negative : Bool) (c : Nat) (e : Int) : Option Decimal :=
  if e < readableBottom then none
  else if c = 0 then (if readableTop < e then none else some (.finite negative 0 e))
  else if readableTop < reach c e - 1 then none
  else some (.finite negative c e)

def exponentOf? : List Char → Option Int
  | [] => some 0
  | c :: rest =>
    if c ≠ 'e' ∧ c ≠ 'E' then none
    else
      let (negative, digits) := takeSign rest
      if digits.isEmpty || !digits.all Char.isDigit then none
      else
        let size : Int := numberOfDigits digits
        some (if negative then -size else size)

def numeral? (negative : Bool) (cs : List Char) : Option Decimal :=
  let whole := cs.takeWhile Char.isDigit
  let rest := cs.dropWhile Char.isDigit
  let (fraction, rest) :=
    match rest with
    | '.' :: rest => (rest.takeWhile Char.isDigit, rest.dropWhile Char.isDigit)
    | rest => ([], rest)
  if whole.isEmpty && fraction.isEmpty then none
  else
    (exponentOf? rest).bind fun e =>
      readable? negative (numberOfDigits (whole ++ fraction)) (e - fraction.length)

def payload? (digits : List Char) : Option Nat :=
  if digits.all Char.isDigit then some (numberOfDigits digits) else none

def ofPlainChars? (cs : List Char) : Option Decimal :=
  let (negative, rest) := takeSign cs
  match rest.map Char.toLower with
  | 'i' :: 'n' :: 'f' :: more =>
    if more = [] ∨ more = "inity".toList then some (.infinite negative) else none
  | 'n' :: 'a' :: 'n' :: digits => (payload? digits).map (.nan negative false ·)
  | 's' :: 'n' :: 'a' :: 'n' :: digits => (payload? digits).map (.nan negative true ·)
  | _ => numeral? negative rest

def ofText? (s : String) : Option Decimal :=
  (plainChars? (stripChars s.toList)).bind ofPlainChars?

def exponentChars (e : Int) : List Char :=
  'E' :: (if e < 0 then '-' else '+') :: Nat.toDigits 10 e.natAbs

def finiteChars (c : Nat) (e : Int) : List Char :=
  let digits := Nat.toDigits 10 c
  let left := e + digits.length
  if e ≤ 0 ∧ -6 < left then
    if e = 0 then digits
    else if left ≤ 0 then '0' :: '.' :: List.replicate (-left).toNat '0' ++ digits
    else digits.take left.toNat ++ '.' :: digits.drop left.toNat
  else
    let mantissa :=
      match digits with
      | first :: second :: rest => first :: '.' :: second :: rest
      | _ => digits
    mantissa ++ (if left = 1 then [] else exponentChars (left - 1))

def signChars (negative : Bool) : List Char := if negative then ['-'] else []

def chars : Decimal → List Char
  | .finite n c e => signChars n ++ finiteChars c e
  | .infinite n => signChars n ++ "Infinity".toList
  | .nan n signaling payload =>
    signChars n ++ (if signaling then ['s'] else []) ++ "NaN".toList ++
      (if payload = 0 then [] else Nat.toDigits 10 payload)

def text (x : Decimal) : String := String.ofList x.chars

end Passbook.Decimal
