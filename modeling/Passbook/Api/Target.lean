import Passbook.Text.Percent

/-!
The targets of requests, such as `/transactions?account_id=7`; the scheme and the server may be
missing.
-/

namespace Passbook

structure Target where
  path : String
  query : List (String × String)
deriving DecidableEq

namespace Target
open Passbook.Text

def upTo (marks : List Char) (cs : List Char) : List Char := cs.takeWhile (!marks.contains ·)

def splitScheme (cs : List Char) : List Char × List Char :=
  let scheme := cs.takeWhile fun c => c.isAlphanum || c == '+' || c == '.' || c == '-'
  match cs.drop scheme.length with
  | ':' :: rest => if scheme.head?.all Char.isAlpha then (scheme, rest) else ([], cs)
  | _ => ([], cs)

def splitServer : List Char → List Char × List Char
  | '/' :: '/' :: rest =>
    let server := upTo ['/', '?'] rest
    (server, rest.drop server.length)
  | cs => ([], cs)

/-- Drops steps to the same place; a step up takes back the step before it. The steps taken stand in
`taken`, last first. -/
def takeSteps (taken : List (List Char)) : List (List Char) → List (List Char)
  | [] => taken.reverse
  | ['.'] :: rest => takeSteps taken rest
  | ['.', '.'] :: rest => takeSteps (if taken = [[]] then taken else taken.drop 1) rest
  | step :: rest => takeSteps (step :: taken) rest

def pathOf (cs : List Char) : String :=
  let path := ['/'].intercalate (takeSteps [] (splitAtMarks '/' cs))
  if path.isEmpty then "/" else percentDecode path

def ofText (s : String) : Target :=
  let (scheme, cs) := splitScheme (upTo ['#'] s.toList)
  let (server, cs) := splitServer cs
  let path := upTo ['?'] cs
  let isWhole := !scheme.isEmpty && !server.isEmpty && !path.isEmpty
  ⟨pathOf (if isWhole then path else '/' :: path.dropWhile (· == '/')),
   namedValues true ((cs.drop path.length).drop 1)⟩

end Target

end Passbook
