import Passbook.Proofs.Number.Whole
import Passbook.Proofs.Order.Account
import Passbook.Proofs.Race.Turns
import Passbook.Proofs.Store.Answers

/-!
# Races on the two stores

- `Book.holds_turn`: a turn in memory is right as long as no balance needs more than 28 digits
- `Durable.holds_turn`: a turn in the database is right for whole units
- `debits_race`: so are races of any debits, in whatever order they are served
- `debits_race_rounded`: a balance of more digits that is rounded in memory
-/

namespace Passbook
open Decimal

def Book.account? (owner id : Uuid) (b : Book) : Option Account :=
  (b.shelf owner).accounts.find? (·.id == id)

def Database.row? (owner id : Uuid) (db : Database) : Option AccountRow :=
  db.rows.accounts.find? (isKeptUnder owner id)

def Debit.InCents (d : Debit) : Prop := ∃ k : Nat, 0 < k ∧ d.amount.IsUnits (-2) k

def Debit.InUnits (d : Debit) : Prop := ∃ k : Nat, 0 < k ∧ d.amount.IsWhole k

/-! ## In memory -/

namespace Book
variable {owner id : Uuid} {a : Account} {b : Book} {stamp : Stamp} {balance : Decimal}
  {t : Transaction} {x : ℚ}

theorem account?_moved (found : b.account? owner id = some a) :
    (b.setShelf owner (moved stamp a balance t (b.shelf owner))).account? owner id =
      some { a with balance, updatedAt := stamp.now } := by
  have same : ({ a with balance, updatedAt := stamp.now } : Account).id = id := (find?_account found).2
  rw [account?, shelf_setShelf, if_pos rfl, ← List.head?_filter]
  show ((replaceAccount { a with balance, updatedAt := stamp.now } (b.shelf owner).accounts).filter
    (·.id == id)).head? = _
  rw [filter_replaceAccount found same, List.head?_cons]

def Holds (owner id : Uuid) (x : ℚ) (b : Book) : Prop :=
  ∃ a c, b.account? owner id = some a ∧ a.balance.IsUnits (-2) c ∧ c < centsBound ∧
    x = a.balance.value

theorem holds_turn (terms : BookTerms) {d : Debit} (given : d.InCents) (holds : Holds owner id x b)
    (s : Supply) :
    let o := b.run terms (d.operation owner id) s
    Turn (fun b => (b.shelf owner).transactions) (fun t => t) (Holds owner id) id d.size x b o.state.1
      o.result := by
  obtain ⟨k, pos, amount⟩ := given
  obtain ⟨a, c, found, whole, bound, rfl⟩ := holds
  obtain ⟨mem, rfl⟩ := find?_account found
  have order := amount.exceeds whole
  have value (k : Int) : (k : ℚ) * 10 ^ (-2 : Int) = k / 100 := by norm_num [zpow_neg]; ring
  have compare : a.balance.value < d.amount.value ↔ c < k := by
    rw [whole.value, amount.value, value, value, div_lt_div_iff_of_pos_right (by norm_num)]
    exact_mod_cast Iff.rfl
  simp only [run, Debit.operation]
  by_cases short : c < k
  · rw [apply_refused found (signedDelta_short a.id (by simpa [short] using order))]
    exact .refused (.refused (compare.2 short) rfl rfl) ⟨a, c, found, whole, bound, rfl⟩ rfl
  · have small : k < centsBound := by omega
    obtain ⟨delta, negated, opposite⟩ :=
      amount.negate (by exact_mod_cast pos) (by simpa using small) (by decide) (by decide)
    have change : signedDelta a.id a.balance d.amount .debit = .ok delta := by
      rw [signedDelta_covered a.id (by simpa [short] using order), negated]
      rfl
    obtain ⟨balance, sum, left⟩ :=
      whole.add opposite (by omega) (by omega) (by omega) (by decide) (by decide)
    rw [apply_eq_ok.2 ⟨a, delta, balance, found, change, sum, rfl, rfl⟩]
    have covered : d.size ≤ a.balance.value := not_lt.1 (mt compare.1 short)
    refine .recorded (.recorded covered rfl rfl rfl) ?_ ?_
    · refine ⟨_, c + -k, account?_moved found, left, by omega, ?_⟩
      rw [left.value, whole.value, Debit.size, amount.value, value, value, value]
      push_cast
      ring
    · simp only [settle, shelf_setShelf, if_true]
      rfl

end Book

/-! ## In the database -/

namespace Durable
variable {owner id : Uuid} {row : AccountRow} {db : Database} {delta : Binary64} {now : Instant}
  {x : ℚ} {attempts : Nat}

theorem find?_moved (rows : List AccountRow) :
    (rows.map (·.moved owner id delta now)).find? (Database.isKeptUnder owner id) =
      (rows.find? (Database.isKeptUnder owner id)).map (·.moved owner id delta now) := by
  rw [List.find?_map]
  congr 2
  funext row
  simp [Database.isKeptUnder]

theorem moved_of_kept (kept : Database.isKeptUnder owner id row) (delta : Binary64) (now : Instant) :
    (row.moved owner id delta now).balance = (row.balance.add delta).settled := by
  rw [AccountRow.moved, if_pos kept]

def Holds (owner id : Uuid) (x : ℚ) (d : Durable) : Prop :=
  ∃ (db : Database) (row : AccountRow), d = ⟨db.provisioned, []⟩ ∧ db.Numeric ∧
    db.row? owner id = some row ∧ row.balance.IsGenuine ∧ row.balance.cents < 100 * 2 ^ 53 ∧
    x = row.toAccount.balance.value

theorem debit_recorded {d : Debit} {k : Nat} (numeric : db.Numeric)
    (found : db.row? owner id = some row) (amount : d.amount.IsWhole k) (pos : 0 < k)
    (bits : k < 2 ^ 53) (finite : row.balance.isFinite) (enough : d.size ≤ row.balance.toCents.value)
    (stamp : Stamp) :
    let t := transactionOn stamp row owner id d.amount d.currency .debit (some d.description)
    ∃ column : Binary64, column.IsWhole (-(k : Int)) ∧
      apply stamp false owner id d.amount d.currency .debit (some d.description) db.provisioned =
        .ok (.transaction t, { db.provisioned with
          accounts := some (db.rows.accounts.map (·.moved owner id column stamp.now))
          transactions := some (db.rows.transactions ++ [t.toRow]) }) := by
  intro t
  have order := exceeds?_finite amount.isFinite (Binary64.toCents_isCents finite).isFinite
  obtain ⟨delta, negated, opposite⟩ := amount.negate (by exact_mod_cast pos)
    (by simpa using bits.trans (by decide))
  have covered : ¬row.balance.toCents.value < d.amount.value := not_lt.2 enough
  have change : signedDelta row.id row.balance.toCents d.amount .debit = .ok delta := by
    rw [signedDelta_covered row.id (by simpa [covered] using order), negated]
    rfl
  obtain ⟨column, binary, less⟩ := Binary64.ofDecimal?_whole opposite (by simpa using bits)
  have positive : 0 < d.amount.value := by
    rw [amount.value]
    exact_mod_cast pos
  have deposit : d.amount.IsDeposit :=
    ⟨amount.isFinite, 100 * k, by rw [amount.value]; push_cast; ring⟩
  exact ⟨column, less, apply_records numeric found change (moneyColumn_eq_ok.2 binary) less.isFinite
    (deposit.storable positive) rfl⟩

theorem holds_turn (attempts : Nat) {d : Debit} (given : d.InUnits) {store : Durable}
    (holds : Holds owner id x store) (s : Supply) :
    let o := run attempts false (d.operation owner id) store s
    Turn (·.database.rows.transactions) Transaction.toRow (Holds owner id) id d.size x store o.state.1
      o.result := by
  obtain ⟨k, pos, amount⟩ := given
  obtain ⟨db, row, rfl, numeric, found, genuine, bound, rfl⟩ := holds
  have kept := List.find?_some found
  obtain ⟨rfl, rfl⟩ := isKeptUnder_iff.1 kept
  have read := Binary64.toCents_isCents genuine.isFinite
  have performed : run attempts false (d.operation row.owner row.id) ⟨db.provisioned, []⟩ s =
      perform ⟨db.provisioned, []⟩ (fun stamp => apply stamp false row.owner row.id d.amount d.currency
        .debit (some d.description)) s := rfl
  rw [performed]
  by_cases short : row.balance.toCents.value < d.size
  · have order := exceeds?_finite amount.isFinite read.isFinite
    have less : row.balance.toCents.value < d.amount.value := short
    rw [perform_failed (apply_refused numeric.reachable found
      (signedDelta_short row.id (by simpa [less] using order)))]
    exact .refused (.refused short rfl rfl) ⟨db, row, rfl, numeric, found, genuine, bound, rfl⟩ rfl
  · have enough : d.size ≤ row.balance.toCents.value := not_lt.1 short
    have covered : 100 * (k : Int) ≤ row.balance.cents := by
      rw [Debit.size, amount.value, read.value, le_div_iff₀ (by norm_num), mul_comm] at enough
      exact_mod_cast enough
    obtain ⟨column, less, recorded⟩ := debit_recorded numeric found amount pos (by omega)
      genuine.isFinite enough s.stamp.1
    obtain ⟨genuine', cents⟩ := genuine.take_whole less pos covered bound
    rw [perform_done recorded]
    refine .recorded (.recorded enough rfl rfl rfl) ?_ rfl
    refine ⟨{ db.provisioned with
        accounts := some (db.rows.accounts.map (·.moved row.owner row.id column s.stamp.1.now))
        transactions := some (db.rows.transactions ++ [_]) },
      row.moved row.owner row.id column s.stamp.1.now, rfl, ⟨numeric.reachable, ?_⟩,
      (find?_moved _).trans (congrArg (Option.map _) found), ?_⟩
    · exact moved_numbers numeric.numbers less.isFinite
    · have after := moved_of_kept kept column s.stamp.1.now
      have listed : (row.moved row.owner row.id column s.stamp.1.now).toAccount.balance.value =
          (row.balance.cents - 100 * k : Int) / 100 := by
        rw [AccountRow.balance_listed (by rw [after]; exact genuine'.isFinite), after, cents]
      refine ⟨by rwa [after], by rw [after]; omega, ?_⟩
      rw [listed, AccountRow.balance_listed genuine.isFinite, Debit.size, amount.value]
      push_cast
      ring

end Durable

/-! ## Races -/

/-- Whatever debits of whole cents reach an account in memory with less than `10 ^ 26` on it, and
whatever debits of whole units reach one in the database with less than `2 ^ 53`: in every order in
which they are served, they take what is there and no more, each is tested against what the ones
before it have left, and one transaction is recorded for each that succeeds. -/
theorem debits_race (owner id : Uuid) (debits : List Debit) (s : Supply) :
    (∀ (terms : BookTerms) (b : Book) (a : Account), b.account? owner id = some a →
      (∃ c : Int, a.balance.IsUnits (-2) c) → a.balance.value < 10 ^ 26 → (∀ d ∈ debits, d.InCents) →
      let o := inTurn (Book.run terms) (debits.map (·.operation owner id)) b s
      ∃ a', o.2.1.account? owner id = some a' ∧
        Raced id a.balance.value (debits.map (·.size)) o.1 a'.balance.value ∧
        (o.2.1.shelf owner).transactions = (b.shelf owner).transactions ++ taken o.1) ∧
    ∀ (attempts : Nat) (db : Database) (row : AccountRow), db.Numeric →
      db.row? owner id = some row → row.balance.IsGenuine → row.toAccount.balance.value < 2 ^ 53 →
      (∀ d ∈ debits, d.InUnits) →
      let o := inTurn (Durable.run attempts false) (debits.map (·.operation owner id))
        ⟨db.provisioned, []⟩ s
      ∃ row', o.2.1.database.row? owner id = some row' ∧
        Raced id row.toAccount.balance.value (debits.map (·.size)) o.1 row'.toAccount.balance.value ∧
        o.2.1.database.rows.transactions = db.rows.transactions ++ (taken o.1).map (·.toRow) := by
  constructor
  · intro terms b a found whole small given o
    obtain ⟨c, whole⟩ := whole
    have bound : c < centsBound := by
      rw [whole.value] at small
      have : (c : ℚ) < (centsBound : Nat) := by
        norm_num [centsBound, zpow_neg] at small ⊢
        linarith
      exact_mod_cast this
    obtain ⟨_, ⟨a', c', found', -, -, rfl⟩, race, logged⟩ :=
      inTurn_race debits (fun d mem _ _ s holds => Book.holds_turn terms (given d mem) holds s)
        ⟨a, c, found, whole, bound, rfl⟩ s
    exact ⟨a', found', race.raced, by simpa using logged⟩
  · intro attempts db row numeric found genuine small given o
    have bound : row.balance.cents < 100 * 2 ^ 53 := by
      rw [AccountRow.balance_listed genuine.isFinite, div_lt_iff₀ (by norm_num)] at small
      have : (row.balance.cents : ℚ) < 100 * 2 ^ 53 := by linarith
      exact_mod_cast this
    obtain ⟨_, ⟨db', row', same, -, found', -, -, rfl⟩, race, logged⟩ :=
      inTurn_race debits (fun d mem _ _ s holds => Durable.holds_turn attempts (given d mem) holds s)
        ⟨db, row, rfl, numeric, found, genuine, bound, rfl⟩ s
    refine ⟨row', ?_, race.raced, logged⟩
    rw [same]
    exact found'

def raceTerms : BookTerms := ⟨1, "Checking", "NZD"⟩

def raceBook (deposit : Decimal) : Book :=
  (Book.run raceTerms (.createAccount ⟨1⟩ (some "Checking") (some "NZD") deposit) .empty
    ⟨0, 0, 0, id⟩).state.1

def raceDatabase (deposit : Decimal) : Database :=
  (Durable.run 1 false (.createAccount ⟨1⟩ (some "Checking") (some "NZD") deposit)
    ⟨Database.empty.provisioned, []⟩ ⟨0, 0, 0, id⟩).state.1.database

def raceAccount (balance : Decimal) : Account :=
  { id := Supply.issuedId 0, owner := ⟨1⟩, number := accountNumber 0, label := some "Checking", balance,
    currency := some "NZD", createdAt := ⟨0⟩, updatedAt := ⟨0⟩ }

theorem debits_race_quarters :
    let debits : List Debit := List.replicate 5 ⟨.ofNat 25, none, "Rent"⟩
    let ops := debits.map (·.operation ⟨1⟩ (Supply.issuedId 0))
    let o := inTurn (Book.run raceTerms) ops (raceBook (.ofNat 100)) ⟨2, 1, 1, id⟩
    let o' := inTurn (Durable.run 1 false) ops ⟨(raceDatabase (.ofNat 100)).provisioned, []⟩
      ⟨2, 1, 1, id⟩
    (taken o.1).length = 4 ∧ (taken o'.1).length = 4 := by
  intro debits ops o o'
  have found : (raceBook (.ofNat 100)).account? ⟨1⟩ (Supply.issuedId 0) =
      some (raceAccount (.ofNat 100)) := by decide +kernel
  have found' : (raceDatabase (.ofNat 100)).row? ⟨1⟩ (Supply.issuedId 0) =
      some (raceAccount (.ofNat 100)).toRow := by decide +kernel
  have binary : (raceAccount (.ofNat 100)).toRow.balance = .finite false (25 * 2 ^ 48) (-46) := by
    decide +kernel
  have genuine : (raceAccount (.ofNat 100)).toRow.balance.IsGenuine :=
    ⟨_, _, _, binary, by decide, by decide, by norm_num, .inr (by norm_num)⟩
  have listed : (raceAccount (.ofNat 100)).toRow.toAccount.balance.value = 100 := by
    have cents : (raceAccount (.ofNat 100)).toRow.balance.cents = 10000 := by decide +kernel
    rw [AccountRow.balance_listed genuine.isFinite, cents]
    norm_num
  have numeric : (raceDatabase (.ofNat 100)).Numeric := ⟨by decide +kernel, by decide +kernel⟩
  have units : ∀ d ∈ debits, d.InUnits := fun d mem =>
    ⟨25, by decide, (List.eq_of_mem_replicate mem) ▸ ⟨rfl, by simp⟩⟩
  have cents : ∀ d ∈ debits, d.InCents := fun d mem =>
    ⟨2500, by decide, (List.eq_of_mem_replicate mem) ▸ ⟨rfl, by norm_num [zpow_neg]⟩⟩
  have sizes : ∀ x ∈ debits.map (·.size), x = 25 := by
    simp [debits, Debit.size]
  have race := debits_race ⟨1⟩ (Supply.issuedId 0) debits ⟨2, 1, 1, id⟩
  obtain ⟨_, -, raced, -⟩ := race.1 raceTerms _ _ found
    ⟨10000, rfl, by norm_num [raceAccount, zpow_neg]⟩ (by norm_num [raceAccount]) cents
  obtain ⟨_, -, raced', -⟩ := race.2 1 _ _ numeric found' genuine (by rw [listed]; norm_num) units
  have four : min (debits.map (·.size)).length ⌊(100 : ℚ) / 25⌋₊ = 4 := by
    norm_num [debits]
  rw [listed] at raced'
  have balance : (raceAccount (.ofNat 100)).balance.value = 100 := by norm_num [raceAccount]
  rw [balance] at raced
  exact ⟨(raced.count 25 (by norm_num) sizes).trans four,
    (raced'.count 25 (by norm_num) sizes).trans four⟩

/-- A cent less than ten thousand million million million millions would take thirty digits. -/
theorem debits_race_rounded :
    let cent : Debit := ⟨.ofCents 1, none, "Rent"⟩
    let o := inTurn (Book.run raceTerms) [cent.operation ⟨1⟩ (Supply.issuedId 0)]
      (raceBook (.ofCents (10 ^ 30))) ⟨2, 1, 1, id⟩
    (raceBook (.ofCents (10 ^ 30))).account? ⟨1⟩ (Supply.issuedId 0) =
        some (raceAccount (.ofCents (10 ^ 30))) ∧
      (taken o.1).map (·.amount) = [.ofCents 1] ∧
      ∃ a, o.2.1.account? ⟨1⟩ (Supply.issuedId 0) = some a ∧ a.balance.value = 10 ^ 28 ∧
        ¬Raced (Supply.issuedId 0) (Decimal.ofCents (10 ^ 30)).value [cent.size] o.1 a.balance.value := by
  intro cent o
  have amounts : (taken o.1).map (·.amount) = [.ofCents 1] := by decide +kernel
  have left : o.2.1.account? ⟨1⟩ (Supply.issuedId 0) =
      some { raceAccount (.finite false (10 ^ 27) 1) with updatedAt := ⟨1⟩ } := by decide +kernel
  have value : (Decimal.finite false (10 ^ 27) 1).value = 10 ^ 28 := by norm_num [Decimal.value]
  refine ⟨by decide +kernel, amounts, _, left, value, fun raced => ?_⟩
  have all : withdrawn o.1 = 1 / 100 := by
    have mapped : withdrawn o.1 = (((taken o.1).map (·.amount)).map Decimal.value).sum := by
      rw [withdrawn, List.map_map]
      rfl
    rw [mapped, amounts]
    norm_num
  have last : (Decimal.finite false (10 ^ 27) 1).value = _ := raced.last
  rw [all, value, value_ofCents] at last
  norm_num at last

end Passbook
