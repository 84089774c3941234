import Passbook.Number.Binary64
import Passbook.Number.DecimalText
import Passbook.Number.IntegerText

/-!
Binary numbers as text: digits with at most one point and an optional power of ten, or the name of
an infinity or of what is no number, in any letter case.
-/

namespace Passbook.Binary64
open Passbook.Text

def ofNumeral? (negative : Bool) (cs : List Char) : Option Binary64 :=
  let whole := cs.takeWhile Char.isDigit
  let rest := cs.dropWhile Char.isDigit
  let (places, rest) :=
    match rest with
    | '.' :: rest => (rest.takeWhile Char.isDigit, rest.dropWhile Char.isDigit)
    | rest => ([], rest)
  if whole.isEmpty && places.isEmpty then none
  else
    (Decimal.exponentOf? rest).bind fun e =>
      ofDecimal? (.finite negative (Decimal.numberOfDigits (whole ++ places)) (e - places.length))

def ofChars? (cs : List Char) : Option Binary64 :=
  let (negative, rest) := Decimal.takeSign cs
  match String.ofList (rest.map Char.toLower) with
  | "inf" | "infinity" => some (.infinite negative)
  | "nan" => some .nan
  | _ => ofNumeral? negative rest

def withoutUnderscores? (afterDigit : Bool) : List Char → Option (List Char)
  | [] => some []
  | '_' :: c :: rest =>
    if afterDigit && c.isDigit then (withoutUnderscores? true rest).map (c :: ·) else none
  | c :: rest =>
    if c = '_' then none else (withoutUnderscores? c.isDigit rest).map (c :: ·)

def ofText? (s : String) : Option Binary64 :=
  (withoutUnderscores? false (trimBoth isLineBlank (s.toList.map plainDigitChar))).bind ofChars?

end Passbook.Binary64
