import Passbook.Number.Decimal

/-!
Decimal arithmetic with 28 digits. A result with more digits is rounded to 28, a half to the even
digit; one whose first digit stands above `10 ^ 999999` overflows; one that is too close to nought
loses digits, down to nought.

- `Decimal.fit`: rounds an exact result
- `Decimal.magnitude?`, `Decimal.negate?`, `Decimal.add?`: operations whose result is rounded
- `Decimal.rescale`: the same number with another exponent, rounded if that drops digits
- `Decimal.places`: how many places a number needs after the point
-/

namespace Passbook

inductive ArithmeticFault
  | overflow
  | invalid
  | beyondWord
deriving DecidableEq

namespace Decimal

def precision : Nat := 28

def maxExponent : Int := 999999
def minExponent : Int := -999999

def topExponent : Int := maxExponent - 27
def tinyExponent : Int := minExponent - 27

/-- Rounds `c * 10 ^ e` to what 28 digits can hold. -/
def fit (negative : Bool) (c : Nat) (e : Int) : Except ArithmeticFault Decimal :=
  if c = 0 then .ok (.finite negative 0 (min (max e tinyExponent) maxExponent))
  else
    let last := reach c e - precision
    if topExponent < last then .error .overflow
    else
      let last := max last tinyExponent
      if last ≤ e then .ok (.finite negative c e)
      else
        let rounded := dropDigits c (last - e).toNat
        if digitCount rounded ≤ precision then .ok (.finite negative rounded last)
        else if topExponent < last + 1 then .error .overflow
        else .ok (.finite negative (rounded / 10) (last + 1))

def passNaN (negative signaling : Bool) (payload : Nat) : Except ArithmeticFault Decimal :=
  if signaling then .error .invalid
  else .ok (.nan negative false (payload % Nat.pow 10 precision))

def magnitude? : Decimal → Except ArithmeticFault Decimal
  | .finite _ c e => fit false c e
  | .infinite _ => .ok (.infinite false)
  | .nan n s p => passNaN n s p

def negate? : Decimal → Except ArithmeticFault Decimal
  | .finite n c e => fit (!n && c ≠ 0) c e
  | .infinite n => .ok (.infinite !n)
  | .nan n s p => passNaN n s p

def unitsOf (negative : Bool) (c : Nat) (e unit : Int) : Int :=
  let units : Int := c * Nat.pow 10 (e - unit).toNat
  if negative then -units else units

/-- A number that is far smaller than the last of 28 digits of a sum only decides which way the sum
is rounded. So it may stand for any other such number, and the smallest that `upper` can tell from
nought is taken: `c` and `e` are those of the larger number, `d` and `f` those of the smaller. -/
def tameSmaller (c : Nat) (e : Int) (d : Nat) (f : Int) : Nat × Int :=
  let least := e + min (-1) ((digitCount c : Int) - precision - 2)
  if reach d f ≤ least then (1, least) else (d, f)

def addFinite (n : Bool) (c : Nat) (e : Int) (m : Bool) (d : Nat) (f : Int) :
    Except ArithmeticFault Decimal :=
  if c = 0 then
    if d = 0 then fit (n && m) 0 (min e f)
    else
      let unit := max (min e f) (f - precision - 1)
      fit m (d * Nat.pow 10 (f - unit).toNat) unit
  else if d = 0 then
    let unit := max (min e f) (e - precision - 1)
    fit n (c * Nat.pow 10 (e - unit).toNat) unit
  else
    let (c', e') := if e < f then tameSmaller d f c e else (c, e)
    let (d', f') := if e < f then (d, f) else tameSmaller c e d f
    let unit := min e' f'
    let sum := unitsOf n c' e' unit + unitsOf m d' f' unit
    if sum = 0 then fit false 0 (min e f)
    else fit (sum < 0) sum.natAbs unit

def add? : Decimal → Decimal → Except ArithmeticFault Decimal
  | .nan n true p, _ => passNaN n true p
  | _, .nan n true p => passNaN n true p
  | .nan n false p, _ => passNaN n false p
  | _, .nan n false p => passNaN n false p
  | .infinite n, .infinite m => if n = m then .ok (.infinite n) else .error .invalid
  | .infinite n, .finite .. => .ok (.infinite n)
  | .finite .., .infinite m => .ok (.infinite m)
  | .finite n c e, .finite m d f => addFinite n c e m d f

def coefficientAt (c : Nat) (e unit : Int) : Nat :=
  if c = 0 then 0
  else if unit ≤ e then c * Nat.pow 10 (e - unit).toNat
  else dropDigits c (unit - e).toNat

def rescale (unit : Int) : Decimal → Decimal
  | .finite n c e => .finite n (coefficientAt c e unit) unit
  | x => x

def dropNoughts : Nat → Nat → Int → Nat × Int
  | 0, c, e => (c, e)
  | fuel + 1, c, e => if c % 10 = 0 then dropNoughts fuel (c / 10) (e + 1) else (c, e)

/-- Places after the point: those written, or, if they are fewer, those left when the number is
rounded to 28 digits and the noughts at its end are dropped. -/
def places : Decimal → Nat
  | .finite n c e =>
    let written := (-e).toNat
    match fit n c e with
    | .ok (.finite _ 0 _) => 0
    | .ok (.finite _ c' e') => min written (-(dropNoughts (digitCount c') c' e').2).toNat
    | _ => written
  | _ => 0

end Decimal

end Passbook
