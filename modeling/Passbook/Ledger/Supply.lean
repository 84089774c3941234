import Passbook.Ledger.Record

namespace Passbook

/-- A clock that has been read so often; `time` is what its readings give, from the first on. -/
structure Clock where
  reading : Nat
  time : Nat → Int

namespace Clock

def now (c : Clock) : Int := c.time c.reading

def next (c : Clock) : Clock := { c with reading := c.reading + 1 }

/-- A numeral is the clock that counts on from it. -/
instance (n : Nat) : OfNat Clock n := ⟨⟨0, fun k => n + k⟩⟩

end Clock

/-- Identifiers never repeat; readings of the clock and draws may. -/
structure Supply where
  nextId : Nat
  clock : Clock
  drawn : Nat
  draw : Nat → Nat

structure Stamp where
  now : Instant
  first : Uuid
  second : Uuid
deriving DecidableEq

def Account.opened (stamp : Stamp) (number : String) (owner : Uuid)
    (label currency : Option String) (balance : Decimal) : Account :=
  { id := stamp.first, owner, number, label, balance, currency,
    createdAt := stamp.now, updatedAt := stamp.now }

def Account.openingCredit (stamp : Stamp) (account : Account) : Transaction :=
  { id := stamp.second, account := account.id, owner := account.owner, amount := account.balance,
    currency := account.currency, kind := .credit, description := some openingDescription,
    createdAt := stamp.now }

namespace Supply

def idBase : Nat := 0x5eed0000000040008000000000000000

def issuedId (n : Nat) : Uuid := ⟨idBase + n⟩

def now (s : Supply) : Int := s.clock.now

def stamp (s : Supply) : Stamp × Supply :=
  (⟨⟨s.now⟩, issuedId s.nextId, issuedId (s.nextId + 1)⟩,
   { s with nextId := s.nextId + 2, clock := s.clock.next })

def drawNumber (s : Supply) : String × Supply :=
  (accountNumber (s.draw s.drawn), { s with drawn := s.drawn + 1 })

def findNumber (taken : String → Bool) : Nat → Supply → Option String × Supply
  | 0, s => (none, s)
  | attempts + 1, s =>
    let (number, s) := s.drawNumber
    if taken number then findNumber taken attempts s else (some number, s)

end Supply

end Passbook
