import Passbook.Ledger.Failure
import Passbook.Text.Letter
import Passbook.Text.Search
import Passbook.Text.WordChar

namespace Passbook
open Passbook.Text

def undefinedTable : String := "42P01"
def uniqueViolation : String := "23505"

def accountNumberIndex : String := "ix_ledger_accounts_account_number"
def accountNumberColumn : String := "ledger_accounts.account_number"

def ErrorNote.saysUndefinedTable (note : ErrorNote) : Bool :=
  note.sqlstate == some undefinedTable || note.pgcode == some undefinedTable

def relationStart : List Char := "relation \"".toList
def relationEnd : List Char := "\" does not exist".toList

def startsMissingRelation (cs : List Char) : Bool :=
  relationStart.isPrefixOf cs &&
    let rest := cs.drop relationStart.length
    !(rest.takeWhile (· ≠ '"')).isEmpty && relationEnd.isPrefixOf (rest.dropWhile (· ≠ '"'))

/-- Whether the news may start here: not inside a word, and not after `of `, which makes the
relation the owner of something else that is missing. The text before is given backwards. -/
def mayStartRelation (before : List Char) : Bool :=
  !(['\x20', 'f', 'o'].isPrefixOf before) && !(before.head?.any isWordChar)

def namesMissingRelationFrom (before : List Char) : List Char → Bool
  | [] => false
  | c :: rest =>
    (mayStartRelation before && startsMissingRelation (c :: rest)) ||
      namesMissingRelationFrom (c :: before) rest

def namesMissingRelation (message : String) : Bool := namesMissingRelationFrom [] message.toList

namespace DriverError

def plain (message : String) : DriverError := ⟨⟨message, none, none⟩, none, none⟩

def wrapping (message : String) : DriverError :=
  ⟨⟨message, none, none⟩, some ⟨message, none, none⟩, none⟩

def message (e : DriverError) : String := (e.wrapped.getD e.own).message

def isMissingRelation (e : DriverError) : Bool :=
  e.own.saysUndefinedTable || e.wrapped.any (·.saysUndefinedTable) ||
    e.cause.any (·.saysUndefinedTable) || contains "no such table" (lower e.message) ||
    namesMissingRelation e.message

def isUniqueViolation (e : DriverError) : Bool :=
  contains "unique constraint failed" (lower e.message) ||
    contains "duplicate key" (lower e.message) ||
    e.wrapped.any (·.sqlstate == some uniqueViolation) ||
    e.cause.any (·.sqlstate == some uniqueViolation)

def isNumberCollision (e : DriverError) : Bool :=
  e.isUniqueViolation &&
    (contains accountNumberIndex e.message || contains accountNumberColumn e.message)

def failure (e : DriverError) : Failure :=
  if e.isMissingRelation then .schemaMissing .reported else .unavailable .storeFailed

end DriverError

end Passbook
