import Passbook.Proofs.Agreement.Matching
import Passbook.Proofs.Store.Answers

namespace Passbook

/-! ## Lists side by side -/

section
variable {α β : Type} {R : α → β → Prop} {as : List α} {bs : List β}

theorem exists_left_of_forall₂ (h : List.Forall₂ R as bs) {b : β} (mem : b ∈ bs) :
    ∃ a ∈ as, R a b := by
  induction h with
  | nil => cases mem
  | cons related _ ih =>
    rcases List.mem_cons.1 mem with rfl | mem
    · exact ⟨_, List.mem_cons_self, related⟩
    · obtain ⟨a, ha, related⟩ := ih mem
      exact ⟨a, List.mem_cons_of_mem _ ha, related⟩

theorem find?_of_forall₂ (h : List.Forall₂ R as bs) {p : α → Bool} {q : β → Bool}
    (same : ∀ {a b}, R a b → p a = q b) : Option.Rel R (as.find? p) (bs.find? q) := by
  induction h with
  | nil => exact .none
  | @cons a b _ _ related _ ih =>
    cases test : q b with
    | true =>
      rw [List.find?_cons_of_pos ((same related).trans test), List.find?_cons_of_pos test]
      exact .some related
    | false =>
      rw [List.find?_cons_of_neg (by simp [same related, test]),
        List.find?_cons_of_neg (by simp [test])]
      exact ih

end

/-! ## Numbers of equal size -/

namespace Decimal
variable {x y : Decimal} {k : Int}

theorem IsWhole.equals (hx : x.IsWhole k) (hy : y.IsWhole k) : x.Equals y := by
  rw [Equals, compare?_finite hx.isFinite hy.isFinite, hx.value, hy.value, compare_eq_iff_eq.2 rfl]

theorem IsWhole.isDeposit {units : Nat} (h : x.IsWhole units) : x.IsDeposit := by
  refine ⟨h.isFinite, 100 * units, ?_⟩
  rw [h.value]
  push_cast
  ring

theorem IsWhole.settled (h : x.IsWhole k) (small : k.natAbs < 2 ^ 53) : x.settled.IsWhole k := by
  obtain ⟨b, binary, whole⟩ := Binary64.ofDecimal?_whole h small
  rw [Decimal.settled, binary, Option.getD_some]
  exact whole.settled

end Decimal

/-! ## One owner's records -/

def Account.Covered (ts : List Transaction) (a : Account) : Prop :=
  ∃ units : Nat, a.balance.IsWhole units ∧ (units : ℚ) ≤ total .credit a.id ts ∧
    total .credit a.id ts < 2 ^ 53

structure Shelf.Whole (s : Supply) (shelf : Shelf) : Prop where
  issued : ∀ a ∈ shelf.accounts, s.Issued a.id
  distinct : (shelf.accounts.map (·.id)).Nodup
  known : ∀ t ∈ shelf.transactions, s.Issued t.account
  covered : ∀ a ∈ shelf.accounts, a.Covered shelf.transactions

structure Account.Twin (π : Pairing) (a : Account) (row : AccountRow) : Prop where
  alike : a.Matches π row.toAccount
  finite : row.balance.isFinite
  value : row.balance.value = a.balance.value

structure Shelf.Twin (π : Pairing) (shelf : Shelf) (rows : Rows) : Prop where
  accounts : List.Forall₂ (Account.Twin π) shelf.accounts rows.accounts
  transactions :
    List.Forall₂ (fun t row => t.Matches π row.toTransaction) shelf.transactions rows.transactions
  payees : List.Forall₂ (fun p row => p.Matches π row.toPayee) shelf.payees rows.payees

namespace Rows

structure Ordered (now : Int) (r : Rows) : Prop where
  accounts : InOrder (·.createdAt.micros) now r.accounts
  transactions : InOrder (·.createdAt.micros) now r.transactions
  payees : InOrder (·.createdAt.micros) now r.payees

variable {r : Rows} {now now' : Int} {owner id : Uuid}

theorem Ordered.later (h : r.Ordered now) (le : now ≤ now') : r.Ordered now' :=
  ⟨h.accounts.later le, h.transactions.later le, h.payees.later le⟩

theorem Ordered.accountsOf (h : r.Ordered now) (owner : Uuid) :
    r.accountsOf owner = (r.of owner).accounts :=
  (h.accounts.filter _).mergeSort

theorem Ordered.transactionsOf (h : r.Ordered now) (owner : Uuid) (account : Option Uuid) :
    r.transactionsOf owner account = ((r.of owner).transactions.filter
      fun row => account.all (row.account == ·)).reverse := by
  rw [Rows.transactionsOf, (h.transactions.filter _).mergeSort_reverse, of, List.filter_filter]
  congr 1
  exact List.filter_congr fun row _ => Bool.and_comm _ _

theorem Ordered.payeesOf (h : r.Ordered now) (owner : Uuid) :
    r.payeesOf owner = (r.of owner).payees.reverse :=
  (h.payees.filter _).mergeSort_reverse

theorem find?_isKeptUnder (owner id : Uuid) (r : Rows) :
    r.accounts.find? (Database.isKeptUnder owner id) =
      (r.of owner).accounts.find? (·.id == id) := by
  rw [of, List.find?_filter]
  congr 1
  funext row
  rw [Bool.eq_iff_iff, isKeptUnder_iff]
  simp [and_comm]

end Rows

/-! ## What the clock gives -/

def Clock.Within (c : Clock) (now now' : Int) : Prop :=
  ∀ reading, now ≤ c.time reading ∧ c.time reading < now'

theorem Clock.Within.le {c : Clock} {now now' : Int} (within : c.Within now now') : now ≤ now' :=
  (within 0).1.trans (within 0).2.le

theorem Clock.Within.stamp {t : Supply} {now now' : Int} (within : t.clock.Within now now') :
    now ≤ t.stamp.1.now.micros ∧ t.stamp.1.now.micros < now' :=
  within t.clock.reading

/-! ## Both stores -/

/-- The rows of the database stand for the book, and the next candidates are the same. -/
structure Twins (π : Pairing) (b : Book) (db : Database) (s t : Supply) (now : Int) : Prop where
  reachable : db.reachable
  draw : t.draw = s.draw
  drawn : t.drawn = s.drawn
  numbers : ∀ number, number ∈ b.numbers ↔ db.Uses number
  ordered : db.rows.Ordered now
  whole : ∀ owner, (b.shelf owner).Whole s
  twin : ∀ owner, (b.shelf owner).Twin π (db.rows.of owner)

section
variable {π : Pairing} {s s' t t' : Supply} {b : Book} {db : Database} {shelf : Shelf} {rows : Rows}
  {a : Account} {row : AccountRow} {now now' : Int}

theorem Shelf.Whole.later (h : shelf.Whole s) (later : s.Later s') : shelf.Whole s' :=
  { h with
    issued := fun a mem => (h.issued a mem).later later
    known := fun t mem => (h.known t mem).later later }

theorem Account.Twin.column {k : Int} (h : a.Twin π row) (whole : a.balance.IsWhole k) :
    row.balance.IsWhole k :=
  ⟨h.finite, h.value.trans whole.value⟩

theorem Shelf.Twin.find? (h : shelf.Twin π rows) (id : Uuid) :
    Option.Rel (Account.Twin π) (shelf.accounts.find? (·.id == id))
      (rows.accounts.find? (·.id == π.id id)) :=
  find?_of_forall₂ h.accounts fun {a row} twin => by
    have same : row.id = π.id a.id := twin.alike.id
    rw [same, Bool.eq_iff_iff, beq_iff_eq, beq_iff_eq, π.id.injective.eq_iff]

namespace Twins

theorem during (h : Twins π b db s t now) (time : Nat → Int) :
    Twins π b db (s.during time) (t.during time) now :=
  { h with
    whole := fun owner =>
      { h.whole owner with issued := (h.whole owner).issued, known := (h.whole owner).known } }

theorem later (h : Twins π b db s t now) (later : s.Later s') (later' : t.Later t')
    (drawn : t'.drawn = s'.drawn) (le : now ≤ now') : Twins π b db s' t' now' :=
  { h with
    draw := later'.draw.trans (h.draw.trans later.draw.symm)
    drawn
    ordered := h.ordered.later le
    whole := fun owner => (h.whole owner).later later }

theorem change {b' : Book} {db' : Database} (h : Twins π b db s t now) (owner : Uuid)
    (later : s.Later s') (later' : t.Later t') (drawn : t'.drawn = s'.drawn)
    (reachable : db'.reachable = db.reachable)
    (numbers : ∀ number, number ∈ b'.numbers ↔ db'.Uses number)
    (ordered : db'.rows.Ordered now')
    (others : ∀ other, other ≠ owner →
      b'.shelf other = b.shelf other ∧ db'.rows.of other = db.rows.of other)
    (whole : (b'.shelf owner).Whole s')
    (twin : (b'.shelf owner).Twin π (db'.rows.of owner)) : Twins π b' db' s' t' now' where
  reachable := reachable.trans h.reachable
  draw := later'.draw.trans (h.draw.trans later.draw.symm)
  drawn
  numbers
  ordered
  whole other := by
    by_cases own : other = owner
    · exact own ▸ whole
    · rw [(others other own).1]
      exact (h.whole other).later later
  twin other := by
    by_cases own : other = owner
    · exact own ▸ twin
    · rw [(others other own).1, (others other own).2]
      exact h.twin other

theorem candidate (h : Twins π b db s t now) (i : Nat) : t.candidate i = s.candidate i := by
  rw [Supply.candidate, h.draw, h.drawn, Supply.candidate]

theorem find? (h : Twins π b db s t now) (owner id : Uuid) :
    ((b.shelf owner).accounts.find? (·.id == id) = none ∧
      db.rows.accounts.find? (Database.isKeptUnder owner (π.id id)) = none) ∨
    ∃ a row, (b.shelf owner).accounts.find? (·.id == id) = some a ∧
      db.rows.accounts.find? (Database.isKeptUnder owner (π.id id)) = some row ∧
      a.Twin π row := by
  have known := (h.twin owner).find? id
  rw [Rows.find?_isKeptUnder]
  generalize (b.shelf owner).accounts.find? (·.id == id) = mine at known ⊢
  generalize (db.rows.of owner).accounts.find? (·.id == π.id id) = theirs at known ⊢
  cases known with
  | none => exact .inl ⟨rfl, rfl⟩
  | some twin => exact .inr ⟨_, _, rfl, rfl, twin⟩

theorem numeric (h : Twins π b db s t now) : db.Numeric where
  reachable := h.reachable
  numbers row mem := by
    -- The row belongs to an owner, on whose shelf its account stands.
    have own : row ∈ (db.rows.of row.owner).accounts :=
      List.mem_filter.2 ⟨mem, beq_self_eq_true _⟩
    obtain ⟨a, -, twin⟩ := exists_left_of_forall₂ (h.twin row.owner).accounts own
    intro nan
    have finite := twin.finite
    rw [nan] at finite
    cases finite

end Twins
end

end Passbook
