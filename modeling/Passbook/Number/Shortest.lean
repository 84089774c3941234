import Passbook.Number.Binary64

/-!
The shortest decimal that reads back as a given binary number. It is written without a power of ten
from `0.0001` up to below `10 ^ 16`.
-/

namespace Passbook.Binary64

/-- The fractions that round to one number: the ends of their interval and the number itself, all
over the denominator `unit`, and whether the ends belong to it. -/
structure Interval where
  low : Nat
  value : Nat
  high : Nat
  unit : Nat
  closed : Bool

/-- The fractions that round to `m * 2 ^ e`, in units of a quarter of `2 ^ e`. Below a power of two
the next number is nearer. -/
def interval (m : Nat) (e : Int) : Interval :=
  let below := if m = Nat.pow 2 52 ∧ leastExponent < e then 1 else 2
  let scale := Nat.pow 2 e.toNat
  { low := (4 * m - below) * scale, value := 4 * m * scale, high := (4 * m + 2) * scale,
    unit := 4 * Nat.pow 2 (-e).toNat, closed := m % 2 = 0 }

def Interval.holds (i : Interval) (digits up down : Nat) : Bool :=
  let x := digits * up * i.unit
  if i.closed then i.low * down ≤ x && x ≤ i.high * down
  else i.low * down < x && x < i.high * down

def leadingPower (n d : Nat) : Int :=
  let guess : Int := (digitCount n : Int) - digitCount d
  if d * Nat.pow 10 guess.toNat ≤ n * Nat.pow 10 (-guess).toNat then guess else guess - 1

def Interval.onGrid? (i : Interval) (power : Int) : Option Nat :=
  let up := Nat.pow 10 power.toNat
  let down := Nat.pow 10 (-power).toNat
  let n := i.value * down
  let d := i.unit * up
  let below := n / d
  let lowFits := i.holds below up down
  let highFits := i.holds (below + 1) up down
  if lowFits && highFits then some (divHalfEven n d)
  else if lowFits then some below
  else if highFits then some (below + 1)
  else none

def Interval.search (i : Interval) : Nat → Int → Nat × Int
  | 0, power => (i.value * Nat.pow 10 (-power).toNat / (i.unit * Nat.pow 10 power.toNat), power)
  | fuel + 1, power =>
    match i.onGrid? power with
    | some digits => (digits, power)
    | none => i.search fuel (power - 1)

def dropNoughts : Nat → Nat → Int → Nat × Int
  | 0, c, e => (c, e)
  | fuel + 1, c, e => if c % 10 = 0 then dropNoughts fuel (c / 10) (e + 1) else (c, e)

/-- Seventeen digits always suffice. -/
def shortest (m : Nat) (e : Int) : Nat × Int :=
  let i := interval m e
  let (digits, power) := i.search 17 (leadingPower i.value i.unit)
  dropNoughts 18 digits power

def signChars (negative : Bool) : List Char := if negative then ['-'] else []

def powerChars (power : Int) : List Char :=
  let digits := Nat.toDigits 10 power.natAbs
  (if power < 0 then '-' else '+') ::
    (if digits.length < 2 then '0' :: digits else digits)

def finiteChars (m : Nat) (e : Int) : List Char :=
  if m = 0 then "0.0".toList
  else
    let (c, power) := shortest m e
    let digits := Nat.toDigits 10 c
    let point := power + digits.length
    if -4 < point ∧ point ≤ 16 then
      if point ≤ 0 then '0' :: '.' :: List.replicate (-point).toNat '0' ++ digits
      else if 0 ≤ power then digits ++ List.replicate power.toNat '0' ++ ['.', '0']
      else digits.take point.toNat ++ '.' :: digits.drop point.toNat
    else
      let mantissa :=
        match digits with
        | first :: second :: rest => first :: '.' :: second :: rest
        | _ => digits
      mantissa ++ 'e' :: powerChars (point - 1)

def chars : Binary64 → List Char
  | .finite n m e => signChars n ++ finiteChars m e
  | .infinite n => signChars n ++ "inf".toList
  | .nan => "nan".toList

def text (x : Binary64) : String := String.ofList x.chars

end Passbook.Binary64
