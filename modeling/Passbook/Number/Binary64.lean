import Passbook.Number.Decimal

/-!
Binary floating-point numbers of 64 bits, as signed whole multiples of powers of two. Results are
rounded to the nearest number, a tie going to the even significand.
-/

namespace Passbook

/-- A finite number is `significand * 2 ^ exponent`. Those made here have a significand below
`2 ^ 53` and an exponent from -1074 to 971, and a significand of `2 ^ 52` or more unless the
exponent is -1074. -/
inductive Binary64
  | finite (negative : Bool) (significand : Nat) (exponent : Int)
  | infinite (negative : Bool)
  | nan
deriving DecidableEq

namespace Binary64

def leastExponent : Int := -1074
def greatestExponent : Int := 971

def nought (negative : Bool) : Binary64 := .finite negative 0 leastExponent

def scaleDown (n d : Nat) (e : Int) : Nat × Nat :=
  (n * Nat.pow 2 (-e).toNat, d * Nat.pow 2 e.toNat)

def exponentFor (n d : Nat) : Int :=
  let low : Int := (Nat.log2 n : Int) - Nat.log2 d - 53
  let (a, b) := scaleDown n d low
  max (if Nat.pow 2 53 * b ≤ a then low + 1 else low) leastExponent

def ofRatio (negative : Bool) (n d : Nat) : Binary64 :=
  if n = 0 then nought negative
  else
    let e := exponentFor n d
    let (a, b) := scaleDown n d e
    let m := divHalfEven a b
    if m < Nat.pow 2 53 then
      if greatestExponent < e then .infinite negative else .finite negative m e
    else if greatestExponent < e + 1 then .infinite negative
    else .finite negative (Nat.pow 2 52) (e + 1)

/-- A decimal whose first digit stands beyond `10 ^ 400`, or whose size is below `10 ^ -400`, is
far out of the range of finite numbers, or far below the smallest of them. -/
def ofDecimal? : Decimal → Option Binary64
  | .finite n c e =>
    if c = 0 then some (nought n)
    else if 400 < Decimal.reach c e then some (.infinite n)
    else if Decimal.reach c e < -400 then some (nought n)
    else some (ofRatio n (c * Nat.pow 10 e.toNat) (Nat.pow 10 (-e).toNat))
  | .infinite n => some (.infinite n)
  | .nan _ false _ => some .nan
  | .nan _ true _ => none

def unitsOf (negative : Bool) (m : Nat) (e unit : Int) : Int :=
  let units : Int := m * Nat.pow 2 (e - unit).toNat
  if negative then -units else units

def add : Binary64 → Binary64 → Binary64
  | .nan, _ | _, .nan => .nan
  | .infinite n, .infinite m => if n = m then .infinite n else .nan
  | .infinite n, .finite .. => .infinite n
  | .finite .., .infinite m => .infinite m
  | .finite n a e, .finite m b f =>
    let unit := min e f
    let sum := unitsOf n a e unit + unitsOf m b f unit
    if sum = 0 then nought (n && m)
    else ofRatio (sum < 0) (sum.natAbs * Nat.pow 2 unit.toNat) (Nat.pow 2 (-unit).toNat)

def isPositive : Binary64 → Bool
  | .finite n m _ => !n && m ≠ 0
  | .infinite n => !n
  | .nan => false

/-- Halves a significand as long as that is exact and there is a halving left: the significand and
the halvings left over. -/
def halve : Nat → Nat → Nat × Nat
  | m, 0 => (m, 0)
  | m, k + 1 => if m % 2 = 0 then halve (m / 2) k else (m, k + 1)

def toDecimal : Binary64 → Decimal
  | .finite n m e =>
    let (m', k) := halve (m * Nat.pow 2 e.toNat) (-e).toNat
    .finite n (m' * Nat.pow 5 k) (-k)
  | .infinite n => .infinite n
  | .nan => .nan false false 0

def toCents : Binary64 → Decimal
  | .finite n m e => .finite n (divHalfEven (100 * m * Nat.pow 2 e.toNat) (Nat.pow 2 (-e).toNat)) (-2)
  | .infinite n => .infinite n
  | .nan => .nan false false 0

end Binary64

end Passbook
