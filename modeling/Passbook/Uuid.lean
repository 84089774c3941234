import Passbook.Number.IntegerText
import Passbook.Text.Search

namespace Passbook

structure Uuid where
  value : Nat
deriving DecidableEq

namespace Uuid
open Passbook.Text

def digits (u : Uuid) : List Char :=
  let digits := Nat.toDigits 16 u.value
  List.replicate (32 - digits.length) '0' ++ digits

def pieces {α : Type} : List Nat → List α → List (List α)
  | [], rest => [rest]
  | n :: ns, items => items.take n :: pieces ns (items.drop n)

def chars (u : Uuid) : List Char :=
  ['-'].intercalate (pieces [8, 4, 4, 4] u.digits)

def text (u : Uuid) : String := String.ofList u.chars

def ofDigits? (cs : List Char) : Option Uuid :=
  if cs.length = 32 then (cs.mapM (digitIn? 16)).map fun ds => ⟨ds.foldl (16 * · + ·) 0⟩
  else none

def ofGroups? (cs : List Char) : Option Uuid :=
  match pieces [8, 1, 4, 1, 4, 1, 4, 1] cs with
  | [a, ['-'], b, ['-'], c, ['-'], d, ['-'], e] =>
    if e.length = 12 then ofDigits? (a ++ b ++ c ++ d ++ e) else none
  | _ => none

def urnMark : List Char := "urn:uuid:".toList

def ofText? (s : String) : Option Uuid :=
  let cs := s.toList
  if cs.length = 32 then ofDigits? cs
  else
    match cs with
    | '\x7b' :: rest =>
      if rest.getLast? = some '\x7d' then ofGroups? rest.dropLast else none
    | _ =>
      if urnMark.isPrefixOf cs then ofGroups? (cs.drop urnMark.length) else ofGroups? cs

def isBrace (c : Char) : Bool := c == '\x7b' || c == '\x7d'

/-- The marks `urn:` and `uuid:`, braces at the ends and all hyphens are passed over; what is left
is a number of 32 characters in base sixteen. -/
def ofSubject? (s : String) : Option Uuid :=
  let cs := removeAll "uuid:".toList (removeAll "urn:".toList s.toList)
  let cs := (trimBoth isBrace cs).filter (· ≠ '-')
  if cs.length = 32 then
    (readInteger? 16 (String.ofList cs)).bind fun i =>
      if 0 ≤ i then some ⟨i.toNat⟩ else none
  else none

end Uuid

end Passbook
