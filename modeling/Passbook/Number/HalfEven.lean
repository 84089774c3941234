/-!
Rounding a quotient to the nearest whole number, a half to the even neighbour.
-/

namespace Passbook

def divHalfEven (n d : Nat) : Nat :=
  let q := n / d
  let r := n % d
  if 2 * r < d then q
  else if d < 2 * r then q + 1
  else q + q % 2

def digitCount (n : Nat) : Nat := (Nat.toDigits 10 n).length

def dropDigits (c k : Nat) : Nat :=
  if digitCount c < k then 0 else divHalfEven c (Nat.pow 10 k)

end Passbook
