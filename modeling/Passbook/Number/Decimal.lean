import Passbook.Number.HalfEven

/-!
Decimal numbers: a sign, a coefficient and a power of ten, with signed infinities and two kinds of
not-a-number. Coefficient and exponent are part of the value: 5, 5.0 and 5.00 are equal in size but
are written differently.
-/

namespace Passbook

inductive Decimal
  | finite (negative : Bool) (coefficient : Nat) (exponent : Int)
  | infinite (negative : Bool)
  | nan (negative signaling : Bool) (payload : Nat)
deriving DecidableEq

namespace Decimal

def ofNat (n : Nat) : Decimal := .finite false n 0

def ofInt (i : Int) : Decimal := .finite (i < 0) i.natAbs 0

def ofCents (cents : Nat) : Decimal := .finite false cents (-2)

def isFinite : Decimal → Bool
  | .finite .. => true
  | _ => false

def reach (c : Nat) (e : Int) : Int := e + digitCount c

/-- Compares `c * 10 ^ e` with `d * 10 ^ f`. Numbers whose first digits stand at different powers
are told apart by these, so that only numbers of like size are scaled. -/
def compareSize (c : Nat) (e : Int) (d : Nat) (f : Int) : Ordering :=
  if c = 0 then (if d = 0 then .eq else .lt)
  else if d = 0 then .gt
  else
    match compare (reach c e) (reach d f) with
    | .eq => compare (c * Nat.pow 10 (e - f).toNat) (d * Nat.pow 10 (f - e).toNat)
    | order => order

def signOf (negative : Bool) (c : Nat) : Int :=
  if c = 0 then 0 else if negative then -1 else 1

def compare? : Decimal → Decimal → Option Ordering
  | .nan .., _ | _, .nan .. => none
  | .infinite n, .infinite m =>
    some (if n = m then .eq else if n then .lt else .gt)
  | .infinite n, .finite .. => some (if n then .lt else .gt)
  | .finite .., .infinite m => some (if m then .gt else .lt)
  | .finite n c e, .finite m d f =>
    some <|
      match compare (signOf n c) (signOf m d) with
      | .eq => if n then compareSize d f c e else compareSize c e d f
      | order => order

def exceeds? (x y : Decimal) : Option Bool := (compare? x y).map (· == .gt)

end Decimal

end Passbook
