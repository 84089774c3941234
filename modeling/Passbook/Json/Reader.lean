import Passbook.Json
import Passbook.Number.DecimalText
import Passbook.Number.IntegerText

/-!
Reading JSON texts.

- `Json.parse`: one value with blanks around it. Of two fields with one name the last counts; the
  names NaN, Infinity and -Infinity are numbers; a whole number may have 4300 digits; values may
  stand `greatestDepth` levels deep in arrays and objects.
- `Json.parsePoints`: the same for code points, which may be surrogates
-/

namespace Passbook.Json
open Passbook.Decimal (numberOfDigits)

inductive ReadFault
  | notText
  | malformed
  | tooManyDigits
  | tooDeep
deriving DecidableEq

def greatestDepth : Nat := 960

def isSpace (c : Char) : Bool := c == ' ' || c == '\t' || c == '\n' || c == '\r'

def skipSpace (ps : List Nat) : List Nat := ps.dropWhile fun p => isSpace (JsonText.charAt p)

def isDigit (point : Nat) : Bool := (JsonText.charAt point).isDigit

def spanDigits (ps : List Nat) : List Char × List Nat :=
  ((ps.takeWhile isDigit).map JsonText.charAt, ps.dropWhile isDigit)

def hexUnit? : List Nat → Option (Nat × List Nat)
  | a :: b :: c :: d :: rest => do
    let digits ← [a, b, c, d].mapM fun p => digitIn? 16 (JsonText.charAt p)
    return (digits.foldl (16 * · + ·) 0, rest)
  | _ => none

def simpleEscape? : Char → Option Char
  | '"' => some '"'
  | '\\' => some '\\'
  | '/' => some '/'
  | 'b' => some '\x08'
  | 'f' => some '\x0c'
  | 'n' => some '\n'
  | 'r' => some '\r'
  | 't' => some '\t'
  | _ => none

def isHighSurrogate (point : Nat) : Bool := 0xD800 ≤ point && point < 0xDC00
def isLowSurrogate (point : Nat) : Bool := 0xDC00 ≤ point && point < 0xE000

def joinSurrogates (high low : Nat) : Nat := 0x10000 + (high - 0xD800) * 0x400 + (low - 0xDC00)

def lowEscape? : List Nat → Option (Nat × List Nat)
  | mark :: u :: rest =>
    if mark = '\\'.toNat ∧ u = 'u'.toNat then
      (hexUnit? rest).filter fun (unit, _) => isLowSurrogate unit
    else none
  | _ => none

def escape? : List Nat → Option (Nat × List Nat)
  | [] => none
  | p :: rest =>
    if p = 'u'.toNat then
      (hexUnit? rest).map fun (unit, rest) =>
        match if isHighSurrogate unit then lowEscape? rest else none with
        | some (low, rest) => (joinSurrogates unit low, rest)
        | none => (unit, rest)
    else (simpleEscape? (JsonText.charAt p)).map fun c => (c.toNat, rest)

/-- The rest of a string after its opening quote: its code points, and what follows the closing
quote. `fuel` bounds the number of characters. -/
def stringPoints : Nat → List Nat → Option (List Nat × List Nat)
  | 0, _ | _, [] => none
  | fuel + 1, p :: rest =>
    if p = '"'.toNat then some ([], rest)
    else if p = '\\'.toNat then do
      let (point, rest) ← escape? rest
      let (points, rest) ← stringPoints fuel rest
      return (point :: points, rest)
    else if p < 0x20 then none
    else do
      let (points, rest) ← stringPoints fuel rest
      return (p :: points, rest)

def string? (fuel : Nat) (ps : List Nat) : Option (JsonText × List Nat) :=
  (stringPoints fuel ps).map fun (points, rest) => (.ofPoints points, rest)

def wholeDigits (ps : List Nat) : List Char × List Nat :=
  match spanDigits ps with
  | ('0' :: _, _) => (['0'], ps.drop 1)
  | split => split

def fractionDigits (ps : List Nat) : List Char × List Nat :=
  match ps with
  | p :: rest =>
    if p = '.'.toNat ∧ !(spanDigits rest).1.isEmpty then spanDigits rest else ([], ps)
  | [] => ([], ps)

def splitSign : List Nat → Bool × List Nat
  | p :: rest =>
    if p = '-'.toNat then (true, rest) else if p = '+'.toNat then (false, rest) else (false, p :: rest)
  | [] => (false, [])

def powerPart (ps : List Nat) : Option Int × List Nat :=
  match ps with
  | p :: rest =>
    let (negative, rest) := splitSign rest
    let (digits, rest) := spanDigits rest
    if (p = 'e'.toNat ∨ p = 'E'.toNat) ∧ !digits.isEmpty then
      let size : Int := numberOfDigits digits
      (some (if negative then -size else size), rest)
    else (none, ps)
  | [] => (none, [])

def floatOf (negative : Bool) (digits : List Char) (e : Int) : Binary64 :=
  (Binary64.ofDecimal? (.finite negative (numberOfDigits digits) e)).getD .nan

def number (negative : Bool) (ps : List Nat) : Except ReadFault (Json × List Nat) :=
  let (whole, rest) := wholeDigits ps
  let (fraction, rest) := fractionDigits rest
  let (power, rest) := powerPart rest
  if whole.isEmpty then .error .malformed
  else if fraction.isEmpty && power.isNone then
    if 4300 < whole.length then .error .tooManyDigits
    else
      let size : Int := numberOfDigits whole
      .ok (.int (if negative then -size else size), rest)
  else
    .ok (.float (floatOf negative (whole ++ fraction) (power.getD 0 - fraction.length)), rest)

def names : List (List Nat × Json) :=
  [("null", Json.null), ("true", .bool true), ("false", .bool false), ("NaN", .float .nan),
   ("Infinity", .float (.infinite false)), ("-Infinity", .float (.infinite true))].map
    fun (word, value) => (word.toList.map Char.toNat, value)

def name? (ps : List Nat) : Option (Json × List Nat) :=
  (names.find? fun entry => entry.1.isPrefixOf ps).map fun (word, value) =>
    (value, ps.drop word.length)

def nextMark (ps : List Nat) : Option Char × List Nat :=
  match skipSpace ps with
  | p :: rest => (some (JsonText.charAt p), rest)
  | [] => (none, [])

mutual

/-- Reads one value that may go `depth` levels deep; `fuel` bounds how often reading goes on to a
further part. -/
def value : Nat → Nat → List Nat → Except ReadFault (Json × List Nat)
  | 0, _, _ | _, _, [] => .error .malformed
  | fuel + 1, depth, p :: rest =>
    match JsonText.charAt p with
    | '"' =>
      match string? fuel rest with
      | some (s, rest) => .ok (.quoted s, rest)
      | none => .error .malformed
    | '[' =>
      match depth with
      | 0 => .error .tooDeep
      | depth + 1 =>
        match nextMark rest with
        | (some ']', rest) => .ok (.array [], rest)
        | _ => do
          let (items, rest) ← elements fuel depth (skipSpace rest)
          .ok (.array items, rest)
    | '\x7b' =>
      match depth with
      | 0 => .error .tooDeep
      | depth + 1 =>
        match nextMark rest with
        | (some '\x7d', rest) => .ok (.object [], rest)
        | _ => do
          let (fields, rest) ← members fuel depth (skipSpace rest) []
          .ok (.object fields, rest)
    | c =>
      match name? (p :: rest) with
      | some found => .ok found
      | none => if c = '-' then number true rest else number false (p :: rest)

def elements : Nat → Nat → List Nat → Except ReadFault (List Json × List Nat)
  | 0, _, _ => .error .malformed
  | fuel + 1, depth, ps => do
    let (item, rest) ← value fuel depth ps
    match nextMark rest with
    | (some ',', rest) =>
      let (items, rest) ← elements fuel depth (skipSpace rest)
      .ok (item :: items, rest)
    | (some ']', rest) => .ok ([item], rest)
    | _ => .error .malformed

def members : Nat → Nat → List Nat → List (JsonText × Json) →
    Except ReadFault (List (JsonText × Json) × List Nat)
  | 0, _, _, _ | _, _, [], _ => .error .malformed
  | fuel + 1, depth, p :: rest, fields => do
    if p ≠ '"'.toNat then .error .malformed
    match string? fuel rest with
    | none => .error .malformed
    | some (name, rest) =>
      match nextMark rest with
      | (some ':', rest) =>
        let (item, rest) ← value fuel depth (skipSpace rest)
        let fields := setField name item fields
        match nextMark rest with
        | (some ',', rest) => members fuel depth (skipSpace rest) fields
        | (some '\x7d', rest) => .ok (fields, rest)
        | _ => .error .malformed
      | _ => .error .malformed

end

/-- No part of a text goes on to more than two further parts. -/
def parsePoints (ps : List Nat) : Except ReadFault Json := do
  let (result, rest) ← value (2 * ps.length + 2) greatestDepth (skipSpace ps)
  if (skipSpace rest).isEmpty then .ok result else .error .malformed

def parse (s : String) : Except ReadFault Json := parsePoints (s.toList.map Char.toNat)

end Passbook.Json
