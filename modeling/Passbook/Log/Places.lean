import Passbook.Number.Shortest

namespace Passbook.Binary64

def mostDigits : Nat := 800

def fraction (m : Nat) (e : Int) : Nat × Nat := (m * Nat.pow 2 e.toNat, Nat.pow 2 (-e).toNat)

def withPoint (places : Nat) (alternate : Bool) (digits : List Char) : List Char :=
  let digits := List.replicate (places + 1 - digits.length) '0' ++ digits
  let whole := digits.length - places
  if places = 0 then digits ++ (if alternate then ['.'] else [])
  else digits.take whole ++ '.' :: digits.drop whole

def fixedChars (places : Nat) (alternate : Bool) (m : Nat) (e : Int) : List Char :=
  let (n, d) := fraction m e
  withPoint places alternate (Nat.toDigits 10 (divHalfEven (n * Nat.pow 10 places) d))

def roundedDigits (count m : Nat) (e : Int) : Nat × Int :=
  if m = 0 then (0, 0)
  else
    let (n, d) := fraction m e
    let power := leadingPower n d
    let shift := power - (count - 1)
    let rounded := divHalfEven (n * Nat.pow 10 (-shift).toNat) (d * Nat.pow 10 shift.toNat)
    if rounded < Nat.pow 10 count then (rounded, power) else (rounded / 10, power + 1)

def scientificChars (places : Nat) (alternate : Bool) (m : Nat) (e : Int) : List Char :=
  let (digits, power) := roundedDigits (places + 1) m e
  withPoint places alternate (Nat.toDigits 10 digits) ++ 'e' :: powerChars power

def dropLastNoughts (cs : List Char) : List Char :=
  if cs.contains '.' then
    let kept := cs.reverse.dropWhile (· == '0')
    (match kept with
      | '.' :: rest => rest
      | kept => kept).reverse
  else cs

def generalChars (digits : Nat) (alternate : Bool) (m : Nat) (e : Int) : List Char :=
  let digits := max digits 1
  let tidy (cs : List Char) := if alternate then cs else dropLastNoughts cs
  let (rounded, power) := roundedDigits digits m e
  if -4 ≤ power ∧ power < digits then
    let places := (digits - 1 - power).toNat
    tidy (withPoint places alternate (Nat.toDigits 10 rounded))
  else
    tidy (withPoint (digits - 1) alternate (Nat.toDigits 10 rounded)) ++ 'e' :: powerChars power

end Passbook.Binary64
