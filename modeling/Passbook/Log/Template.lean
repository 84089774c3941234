import Passbook.Json.Reader
import Passbook.Log.Places
import Passbook.Number.IntegerText
import Passbook.Text.Quoted

/-!
Log texts with places for arguments.

A place is a percent sign, flags, a width, a precision and a letter: `s`, `r` and `a` show a value,
`d`, `o`, `x` a whole number, `e`, `f`, `g` a number with a point, and `c` a character. Width and
precision may be stars, which take an argument. A name in brackets after the percent sign takes the
argument from a record.

- `Template.fill`: the text with its arguments
- `Json.shown`: a value as text
-/

namespace Passbook

namespace Json
open Passbook.Text

mutual

def nestedChars : Json → List Char
  | .null => "None".toList
  | .bool b => (if b then "True" else "False").toList
  | .int i => (toString i).toList
  | .float x => x.chars
  | .quoted s => quotedChars s.chars
  | .array items => '[' :: [',', ' '].intercalate (nestedItems items) ++ [']']
  | .object fields => '\x7b' :: [',', ' '].intercalate (nestedFields fields) ++ ['\x7d']

def nestedItems : List Json → List (List Char)
  | [] => []
  | item :: rest => nestedChars item :: nestedItems rest

def nestedFields : List (JsonText × Json) → List (List Char)
  | [] => []
  | (name, value) :: rest =>
    (quotedChars name.chars ++ ':' :: ' ' :: nestedChars value) :: nestedFields rest

end

def shown : Json → List Char
  | .quoted s => s.chars
  | value => nestedChars value

end Json

namespace Template

inductive Fault
  | mismatch
  | malformed
  | tooLarge
  | noSuchName
  | noRoom
deriving DecidableEq

inductive Arguments
  | positional (values : List Json)
  | record (fields : List (JsonText × Json))

/-- Where filling stands: the arguments not used yet, or the record, and the value that a name has
picked from it. A record itself can be used once as an argument. -/
structure Supply where
  values : List Json
  record : Option (List (JsonText × Json))

def Supply.take (s : Supply) : Except Fault (Json × Supply) :=
  match s.values with
  | value :: rest => .ok (value, { s with values := rest })
  | [] => .error .mismatch

structure Place where
  left : Bool
  plus : Bool
  blank : Bool
  alternate : Bool
  noughts : Bool
  width : Nat
  precision : Option Nat
  letter : Char

def setFlag (p : Place) : Char → Option Place
  | '-' => some { p with left := true }
  | '+' => some { p with plus := true }
  | ' ' => some { p with blank := true }
  | '#' => some { p with alternate := true }
  | '0' => some { p with noughts := true }
  | _ => none

def readFlags (p : Place) : List Char → Place × List Char
  | [] => (p, [])
  | c :: rest =>
    match setFlag p c with
    | some p => readFlags p rest
    | none => (p, c :: rest)

def greatestWidth : Nat := Nat.pow 2 63 - 1
def greatestPrecision : Nat := Nat.pow 2 31 - 1

def greatestDigits : Nat := greatestPrecision - 3

def greatestRoom : Nat := Nat.pow 2 24

def readCount (limit : Nat) (s : Supply) : List Char → Except Fault (Int × Supply × List Char)
  | '*' :: rest => do
    match ← s.take with
    | (.int i, s) =>
      if i < -(limit + 1 : Int) || (limit : Int) < i then .error .tooLarge else .ok (i, s, rest)
    | (.bool b, s) => .ok (if b then 1 else 0, s, rest)
    | _ => .error .mismatch
  | cs =>
    let count := Decimal.numberOfDigits (cs.takeWhile Char.isDigit)
    if limit < count then .error .malformed else .ok (count, s, cs.dropWhile Char.isDigit)

def readName : Nat → List Char → Option (List Char × List Char)
  | _, [] => none
  | depth, ')' :: rest =>
    if depth = 0 then some ([], rest)
    else (readName (depth - 1) rest).map fun (name, rest) => (')' :: name, rest)
  | depth, '(' :: rest => (readName (depth + 1) rest).map fun (name, rest) => ('(' :: name, rest)
  | depth, c :: rest => (readName depth rest).map fun (name, rest) => (c :: name, rest)

def pickName (s : Supply) : List Char → Except Fault (Supply × List Char)
  | '(' :: rest =>
    match s.record with
    | none => .error .mismatch
    | some fields =>
      match readName 0 rest with
      | none => .error .malformed
      | some (name, rest) =>
        match fields.find? (·.1 == .plain (String.ofList name)) with
        | some (_, value) => .ok ({ s with values := [value] }, rest)
        | none => .error .noSuchName
  | cs => .ok (s, cs)

def skipLength : List Char → List Char
  | c :: rest => if c = 'h' ∨ c = 'l' ∨ c = 'L' then rest else c :: rest
  | [] => []

def readPlace (s : Supply) (cs : List Char) : Except Fault (Place × Supply × List Char) := do
  let (s, cs) ← pickName s cs
  let (p, cs) := readFlags ⟨false, false, false, false, false, 0, none, '%'⟩ cs
  let (width, s, cs) ← readCount greatestWidth s cs
  let p := { p with
    left := p.left || width < 0
    width := if greatestWidth < width.natAbs then 0 else width.natAbs }
  let (p, s, cs) ←
    match cs with
    | '.' :: rest => do
      let (precision, s, rest) ← readCount greatestPrecision s rest
      pure ({ p with precision := some precision.toNat }, s, rest)
    | cs => pure (p, s, cs)
  match skipLength cs with
  | [] => .error .malformed
  | letter :: rest => .ok ({ p with letter }, s, rest)

def padded {α : Type} (blank : α) (p : Place) (cs : List α) : List α :=
  let blanks := List.replicate (p.width - cs.length) blank
  if p.left then cs ++ blanks else blanks ++ cs

def numeric (p : Place) (negative : Bool) (mark digits : List Char) : List Char :=
  let sign := if negative then ['-'] else if p.plus then ['+'] else if p.blank then [' '] else []
  let fill := p.width - (sign.length + mark.length + digits.length)
  if p.noughts && !p.left then sign ++ mark ++ List.replicate fill '0' ++ digits
  else padded ' ' p (sign ++ mark ++ digits)

def wholePart : Json → Except Fault Int
  | .float (.finite n m e) =>
    let size : Int := m * Nat.pow 2 e.toNat / Nat.pow 2 (-e).toNat
    .ok (if n then -size else size)
  | .float (.infinite _) => .error .tooLarge
  | .float .nan => .error .malformed
  | value =>
    match value.whole? with
    | some i => .ok i
    | none => .error .mismatch

def inBase (p : Place) (base : Nat) (i : Int) : List Char :=
  let digits := Nat.toDigits base i.natAbs
  let digits := if p.letter = 'X' then digits.map Char.toUpper else digits
  let digits := List.replicate (p.precision.getD 1 - digits.length) '0' ++ digits
  let mark := if p.alternate && base ≠ 10 then ['0', p.letter] else []
  numeric p (i < 0) mark digits

def floatOf (value : Json) : Except Fault Binary64 :=
  match value with
  | .float x => .ok x
  | value =>
    match value.whole? with
    | none => .error .mismatch
    | some i =>
      match Binary64.ofRatio (i < 0) i.natAbs 1 with
      | .finite n m e => .ok (.finite n m e)
      | _ => .error .tooLarge

/-- The precision of a number with a point. The greatest is one too much for the form with a power of
ten, which then has one digit; the shorter form needs no more digits than any number has. -/
def pointPrecision (p : Place) : Nat :=
  let precision := p.precision.getD 6
  match p.letter.toLower with
  | 'e' => if precision = greatestPrecision then 0 else precision
  | 'g' => if p.alternate then precision else min precision Binary64.mostDigits
  | _ => precision

def floatChars (p : Place) (x : Binary64) : List Char :=
  let precision := pointPrecision p
  let digits (m : Nat) (e : Int) : List Char :=
    if p.letter.toLower = 'f' then Binary64.fixedChars precision p.alternate m e
    else if p.letter.toLower = 'e' then Binary64.scientificChars precision p.alternate m e
    else Binary64.generalChars precision p.alternate m e
  let (negative, cs) :=
    match x with
    | .finite n m e => (n, digits m e)
    | .infinite n => (n, "inf".toList)
    | .nan => (false, "nan".toList)
  numeric p negative [] (if p.letter.isUpper then cs.map Char.toUpper else cs)

def codePoint (value : Json) : Except Fault Nat :=
  match value with
  | .quoted s =>
    match s.points with
    | [point] => .ok point
    | _ => .error .mismatch
  | value =>
    match value.whole? with
    | some i => if 0 ≤ i ∧ i < 0x110000 then .ok i.toNat else .error .tooLarge
    | none => .error .mismatch

def latinChars (cs : List Char) : List Char :=
  cs.flatMap fun c => if c.toNat < 128 then [c] else Text.codePointChars c.toNat

def limited (p : Place) (cs : List Char) : List Char :=
  padded ' ' p (match p.precision with
    | some n => cs.take n
    | none => cs)

def placeChars (p : Place) (value : Json) : Except Fault (List Char) :=
  match p.letter with
  | 's' => .ok (limited p value.shown)
  | 'r' => .ok (limited p value.nestedChars)
  | 'a' => .ok (limited p (latinChars value.nestedChars))
  | 'd' | 'i' | 'u' => do return inBase p 10 (← wholePart value)
  | 'x' | 'X' | 'o' =>
    match value.whole? with
    | some i => .ok (inBase p (if p.letter = 'o' then 8 else 16) i)
    | none => .error .mismatch
  | 'e' | 'E' | 'f' | 'F' | 'g' | 'G' => do return floatChars p (← floatOf value)
  | _ => .error .malformed

def fillRoom (p : Place) (value : Json) : Except Fault (List Nat) :=
  if p.letter = 'c' then (codePoint value).map fun point => padded ' '.toNat p [point]
  else (placeChars p value).map fun cs => cs.map Char.toNat

def Place.isWhole (p : Place) : Bool := ['d', 'i', 'u', 'x', 'X', 'o'].contains p.letter

def Place.digitRoom (p : Place) : Nat :=
  if p.isWhole then p.precision.getD 0
  else if ['e', 'f', 'g'].contains p.letter.toLower then pointPrecision p
  else 0

def fillPlace (p : Place) (value : Json) : Except Fault (List Nat) := do
  if p.width ≤ greatestRoom && p.digitRoom ≤ greatestRoom then fillRoom p value
  else
    let _ ← fillRoom { p with width := 0, precision := some 0 } value
    if p.isWhole && greatestDigits < p.precision.getD 0 then throw .tooLarge
    throw .noRoom

def fillFrom : Nat → Supply → List Char → Except Fault (List Nat)
  | _, s, [] => if s.record.isNone && !s.values.isEmpty then .error .mismatch else .ok []
  | 0, _, _ => .error .malformed
  | fuel + 1, s, '%' :: '%' :: rest => do
    return '%'.toNat :: (← fillFrom fuel s rest)
  | fuel + 1, s, '%' :: rest => do
    let (p, s, rest) ← readPlace s rest
    let (value, s) ← s.take
    let filled ← fillPlace p value
    return filled ++ (← fillFrom fuel s rest)
  | fuel + 1, s, c :: rest => do return c.toNat :: (← fillFrom fuel s rest)

/-- A single record that is not empty gives its fields by name; other arguments go by position. -/
def arguments : List Json → Arguments
  | [.object (field :: fields)] => .record (field :: fields)
  | values => .positional values

def supplyOf : Arguments → Supply
  | .positional values => ⟨values, none⟩
  | .record fields => ⟨[.object fields], some fields⟩

def fill (template : String) (args : List Json) : Except Fault JsonText :=
  if args.isEmpty then .ok template
  else
    let cs := template.toList
    (fillFrom cs.length (supplyOf (arguments args)) cs).map JsonText.ofPoints

end Template

end Passbook
