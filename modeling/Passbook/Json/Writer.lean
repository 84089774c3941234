import Passbook.Json
import Passbook.Number.Shortest

/-!
Writing JSON texts in basic Latin characters: a comma and a colon are followed by a space, and every
other character is written as one or two units of 16 bits.
-/

namespace Passbook.Json

def hexDigits (width n : Nat) : List Char :=
  let digits := Nat.toDigits 16 n
  List.replicate (width - digits.length) '0' ++ digits

def unitChars (unit : Nat) : List Char := '\\' :: 'u' :: hexDigits 4 unit

def escapeChar (c : Char) : List Char :=
  if c = '"' then ['\\', '"']
  else if c = '\\' then ['\\', '\\']
  else if c = '\n' then ['\\', 'n']
  else if c = '\r' then ['\\', 'r']
  else if c = '\t' then ['\\', 't']
  else if c = '\x0c' then ['\\', 'f']
  else if c = '\x08' then ['\\', 'b']
  else if 0x20 ≤ c.toNat ∧ c.toNat < 0x7F then [c]
  else if c.toNat < 0x10000 then unitChars c.toNat
  else
    let n := c.toNat - 0x10000
    unitChars (0xD800 + n / 0x400) ++ unitChars (0xDC00 + n % 0x400)

def escapePoint (point : Nat) : List Char :=
  if isSurrogate point then unitChars point else escapeChar (Char.ofNat point)

def quote (s : JsonText) : List Char := '"' :: s.points.flatMap escapePoint ++ ['"']

def floatChars : Binary64 → List Char
  | .infinite false => "Infinity".toList
  | .infinite true => "-Infinity".toList
  | .nan => "NaN".toList
  | x => x.chars

def separated : List (List Char) → List Char
  | [] => []
  | [item] => item
  | item :: rest => item ++ ',' :: ' ' :: separated rest

mutual

def chars : Json → List Char
  | .null => "null".toList
  | .bool b => (if b then "true" else "false").toList
  | .int i => (toString i).toList
  | .float x => floatChars x
  | .quoted s => quote s
  | .array items => '[' :: separated (itemChars items) ++ [']']
  | .object fields => '\x7b' :: separated (fieldChars fields) ++ ['\x7d']

def itemChars : List Json → List (List Char)
  | [] => []
  | item :: rest => chars item :: itemChars rest

def fieldChars : List (JsonText × Json) → List (List Char)
  | [] => []
  | (name, value) :: rest => (quote name ++ ':' :: ' ' :: chars value) :: fieldChars rest

end

def text (j : Json) : String := String.ofList j.chars

end Passbook.Json
