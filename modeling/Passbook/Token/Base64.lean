/-!
Bytes as text of 64 signs that are safe in addresses, without padding. Reading passes over signs
that do not belong to the alphabet; an equals sign ends the text when enough signs of a group of
four have come before it.
-/

namespace Passbook.Base64

def alphabet : List Char :=
  "ABCDEFGHIJKLMNOPQRSTUVWXYZabcdefghijklmnopqrstuvwxyz0123456789-_".toList

def sign (n : Nat) : Char := alphabet.getD (n % 64) 'A'

def encode : List UInt8 → List Char
  | [] => []
  | [a] => [sign (a.toNat / 4), sign (a.toNat % 4 * 16)]
  | [a, b] =>
    [sign (a.toNat / 4), sign (a.toNat % 4 * 16 + b.toNat / 16), sign (b.toNat % 16 * 4)]
  | a :: b :: c :: rest =>
    sign (a.toNat / 4) :: sign (a.toNat % 4 * 16 + b.toNat / 16) ::
      sign (b.toNat % 16 * 4 + c.toNat / 64) :: sign c.toNat :: encode rest

def value? (c : Char) : Option Nat :=
  if c = '+' then some 62
  else if c = '/' then some 63
  else alphabet.findIdx? (· == c)

/-- Where the decoder stands in a group of four signs: how many have come, the bits that are left
over from the last one, and the equals signs since. -/
structure Place where
  count : Nat
  rest : Nat
  pads : Nat

def Place.byte? (p : Place) (v : Nat) : Option UInt8 :=
  match p.count with
  | 0 => none
  | 1 => some (UInt8.ofNat (p.rest * 4 + v / 16))
  | 2 => some (UInt8.ofNat (p.rest * 16 + v / 4))
  | _ => some (UInt8.ofNat (p.rest * 64 + v))

def Place.next (p : Place) (v : Nat) : Place :=
  match p.count with
  | 0 => ⟨1, v, 0⟩
  | 1 => ⟨2, v % 16, 0⟩
  | 2 => ⟨3, v % 4, 0⟩
  | _ => ⟨0, 0, 0⟩

def decodeFrom? (p : Place) : List Char → Option (List UInt8)
  | [] => if p.count = 0 then some [] else none
  | c :: rest =>
    if c = '=' then
      if 2 ≤ p.count ∧ 4 ≤ p.count + p.pads + 1 then some []
      else decodeFrom? (if 2 ≤ p.count then { p with pads := p.pads + 1 } else p) rest
    else
      match value? c with
      | none => decodeFrom? p rest
      | some v =>
        (decodeFrom? (p.next v) rest).map fun bytes => (p.byte? v).toList ++ bytes

def decode? (bytes : Nat) (cs : List Char) : Option (List UInt8) :=
  decodeFrom? ⟨0, 0, 0⟩ (cs ++ List.replicate ((4 - bytes % 4) % 4) '=')

end Passbook.Base64
