import Passbook.Proofs.Ledger.AccountNumber
import Passbook.Proofs.Store.Bare
import Passbook.Proofs.Store.Book

namespace Passbook

/-! ## Deposits -/

structure Decimal.IsDeposit (x : Decimal) : Prop where
  finite : x.isFinite
  cents : ∃ cents : Nat, x.value = cents / 100

structure Decimal.Storable (x : Decimal) : Prop where
  column : moneyColumn x = .ok x.settled
  held : stored x.settled = .ok x.settled
  positive : x.settled.isPositive

theorem settled_of_isPositive {b : Binary64} (positive : b.isPositive) :
    b.settled = b ∧ stored b = .ok b := by
  cases b with
  | infinite => exact ⟨rfl, rfl⟩
  | nan => cases positive
  | finite n m e =>
    cases m with
    | zero => simp [Binary64.isPositive] at positive
    | succ m => exact ⟨rfl, rfl⟩

namespace Decimal
variable {x : Decimal}

theorem IsDeposit.exceeds (h : x.IsDeposit) :
    x.exceeds? Money.zero = some (decide (0 < x.value)) := by
  rw [exceeds?_finite h.finite rfl, Money.zero, value_ofNat, Nat.cast_zero]

theorem IsDeposit.storable (h : x.IsDeposit) (pos : 0 < x.value) : x.Storable := by
  obtain ⟨cents, value⟩ := h.cents
  have large : 1 / 100 ≤ x.value := by
    rw [value] at pos ⊢
    have nonzero : cents ≠ 0 := by
      rintro rfl
      norm_num at pos
    have one : (1 : ℚ) ≤ cents := by exact_mod_cast Nat.one_le_iff_ne_zero.2 nonzero
    gcongr
  obtain ⟨b, binary, positive⟩ := Binary64.ofDecimal?_isPositive large
  obtain ⟨same, held⟩ := settled_of_isPositive positive
  have settled : x.settled = b := by rw [Decimal.settled, binary, Option.getD_some, same]
  constructor <;> rw [settled]
  · exact moneyColumn_eq_ok.2 binary
  · exact held
  · exact positive

theorem IsDeposit.columns (h : x.IsDeposit) :
    ∃ column, moneyColumn x = .ok column ∧ stored column = .ok x.settled := by
  by_cases pos : 0 < x.value
  · exact ⟨_, (h.storable pos).column, (h.storable pos).held⟩
  · obtain ⟨cents, value⟩ := h.cents
    have zero : x.value = 0 := le_antisymm (not_lt.1 pos) (by rw [value]; positivity)
    cases x with
    | infinite | nan => cases h.finite
    | finite n c e =>
      have : c = 0 := by
        have power : (10 : ℚ) ^ e ≠ 0 := by positivity
        cases n <;> simpa [Decimal.value, power] using zero
      subst this
      exact ⟨Binary64.nought n, rfl, rfl⟩

theorem IsAmount.isDeposit (h : x.IsAmount) : x.IsDeposit := by
  obtain ⟨cents, -, -, rfl⟩ := h
  exact ⟨rfl, cents, value_ofCents cents⟩

theorem IsAmount.storable (h : x.IsAmount) : x.Storable := h.isDeposit.storable h.positive

theorem IsOpening.isDeposit (h : x.IsOpening) : x.IsDeposit := by
  rcases h with amount | nought
  · exact amount.isDeposit
  · exact ⟨nought.isFinite, 0, by rw [nought.value, Int.cast_zero, Nat.cast_zero]⟩

end Decimal

def Account.openingCredits (stamp : Stamp) (a : Account) : List Transaction :=
  if 0 < a.balance.value then [a.openingCredit stamp] else []

/-! ## In memory -/

namespace Book
variable {terms : BookTerms} {b : Book} {s : Supply} {owner : Uuid} {label currency : Option String}
  {opening : Decimal} {i : Nat}

def opened (stamp : Stamp) (account : Account) (b : Book) : Book :=
  if 0 < account.balance.value then
    (b.addAccount account).addTransaction (account.openingCredit stamp)
  else b.addAccount account

theorem shelf_opened (stamp : Stamp) (account : Account) (b : Book) (other : Uuid) :
    (b.opened stamp account).shelf other =
      if other = account.owner then
        { b.shelf account.owner with
          accounts := (b.shelf account.owner).accounts ++ [account]
          transactions := (b.shelf account.owner).transactions ++ account.openingCredits stamp }
      else b.shelf other := by
  unfold opened Account.openingCredits
  by_cases own : other = account.owner <;> split_ifs <;> simp [own]

@[simp] theorem numbers_opened_eq (stamp : Stamp) (account : Account) (b : Book) :
    (b.opened stamp account).numbers = account.number :: b.numbers := by
  unfold opened
  split_ifs <;> rfl

theorem isTaken_iff {number : String} : b.isTaken number ↔ number ∈ b.numbers := by simp [isTaken]

theorem run_opens (deposit : opening.IsDeposit)
    (first : s.FirstFree (· ∈ b.numbers) terms.attempts i) :
    let account := Account.opened s.stamp.1 (s.candidate i) owner label currency opening
    b.run terms (.createAccount owner label currency opening) s =
      ⟨.ok (.account account), (b.opened s.stamp.1 account, s.stamp.2.drawnOn (i + 1)), []⟩ := by
  have search : s.stamp.2.findNumber b.isTaken terms.attempts =
      (some (s.candidate i), s.stamp.2.drawnOn (i + 1)) :=
    Supply.findNumber_firstFree ⟨first.lt, isTaken_iff.not.2 first.free, fun j before =>
      isTaken_iff.2 (first.earlier j before)⟩
  simp only [run, search, createAccount, deposit.exceeds, opened, Account.opened_balance]
  by_cases pos : 0 < opening.value
  · simp only [pos, decide_true, if_true]
  · simp only [pos, decide_false, if_false]

theorem run_unopened (used : ∀ i < terms.attempts, s.candidate i ∈ b.numbers) :
    b.run terms (.createAccount owner label currency opening) s =
      ⟨.error (.unavailable .noFreeNumber), (b, s.stamp.2.drawnOn terms.attempts), []⟩ := by
  have search : s.stamp.2.findNumber b.isTaken terms.attempts =
      (none, s.stamp.2.drawnOn terms.attempts) :=
    Supply.findNumber_used fun i lt => isTaken_iff.2 (used i lt)
  simp only [run, search, noFreeNumber]

end Book

/-! ## In the database -/

namespace Database
variable {db : Database}

def Uses (db : Database) (number : String) : Prop := ∃ row ∈ db.rows.accounts, row.number = number

instance (number : String) : Decidable (db.Uses number) :=
  inferInstanceAs (Decidable (∃ row ∈ db.rows.accounts, row.number = number))

def opened (stamp : Stamp) (account : Account) (db : Database) : Database :=
  { db with
    accounts := some (db.rows.accounts ++ [account.toRow])
    transactions := some (db.rows.transactions ++
      if 0 < account.balance.value then [(account.openingCredit stamp).toRow] else []) }

theorem rows_opened (stamp : Stamp) (account : Account) (db : Database) :
    (db.opened stamp account).rows =
      ⟨db.rows.accounts ++ [account.toRow],
        db.rows.transactions ++ (account.openingCredits stamp).map Transaction.toRow,
        db.rows.payees⟩ := by
  unfold opened Account.openingCredits
  split_ifs <;> rfl

theorem insertTransaction_provisioned (reachable : db.reachable) {t : Transaction}
    (amount : t.amount.Storable) (currency : t.currency.isSome) (kind : t.kind.text.isSome)
    (description : t.description.isSome) :
    db.provisioned.insertTransaction t =
      .ok { db.provisioned with transactions := some (db.rows.transactions ++ [t.toRow]) } := by
  obtain ⟨currency, hcurrency⟩ := Option.isSome_iff_exists.1 currency
  obtain ⟨kind, hkind⟩ := Option.isSome_iff_exists.1 kind
  obtain ⟨description, hdescription⟩ := Option.isSome_iff_exists.1 description
  simp only [insertTransaction, amount.column, transactionRows_provisioned reachable, amount.held,
    hcurrency, hkind, hdescription, required, amount.positive, Except.ok_bind]
  simp only [Transaction.toRow, hcurrency, hkind, hdescription, Option.getD_some]
  rfl

section
variable (stamp : Stamp) (number : String) (owner : Uuid) (label currency : String)
  {opening : Decimal} (reachable : db.reachable) (deposit : opening.IsDeposit)
include reachable deposit

theorem insertAccount_provisioned :
    let account := Account.opened stamp number owner (some label) (some currency) opening
    db.provisioned.insertAccount account =
      if db.rows.accounts.any (·.number == number) then .error .numberTaken
      else .ok { db.provisioned with accounts := some (db.rows.accounts ++ [account.toRow]) } := by
  obtain ⟨column, binary, held⟩ := deposit.columns
  simp only [insertAccount, Account.opened, binary, accountRows_provisioned reachable, required,
    held, Except.ok_bind]
  rfl

end

end Database

namespace Supply

def attempted (s : Supply) (n : Nat) : Supply :=
  { s with nextId := s.nextId + 2 * n, clock := s.clock.after n, drawn := s.drawn + n }

@[simp] theorem attempted_zero (s : Supply) : s.attempted 0 = s := rfl

theorem attempted_one (s : Supply) : s.stamp.2.drawNumber.2 = s.attempted 1 := rfl

theorem later_attempted (s : Supply) (n : Nat) : s.Later (s.attempted n) :=
  ⟨rfl, Nat.le_add_right _ _, rfl, Nat.le_add_right _ _, Nat.le_add_right _ _⟩

theorem attempted_attempted (s : Supply) (n m : Nat) :
    (s.attempted n).attempted m = s.attempted (n + m) := by
  simp only [attempted, Clock.after, Nat.mul_add, Nat.add_assoc]

theorem candidate_attempted (s : Supply) (n i : Nat) :
    (s.attempted n).candidate i = s.candidate (n + i) := by
  simp only [candidate, attempted, Nat.add_assoc]

end Supply

namespace Durable
variable {db : Database} {s : Supply} {opening : Decimal} {attempts left i : Nat}

section
variable (stamp : Stamp) {number : String} (owner : Uuid) (label currency : String) (attempts)
  (reachable : db.reachable) (deposit : opening.IsDeposit)
include reachable deposit

theorem insertOpened_used (used : db.Uses number) :
    insertOpened stamp (.opened stamp number owner (some label) (some currency) opening)
      db.provisioned = .ok none := by
  have taken : db.rows.accounts.any (·.number == number) := by simpa [Database.Uses] using used
  have collision : StatementFault.numberTaken.error.isNumberCollision := by decide +kernel
  simp only [insertOpened, Database.insertAccount_provisioned _ _ _ _ _ reachable deposit, taken,
    if_true, StatementFault.isConstraint, collision, Bool.and_self]

theorem insertOpened_free (free : ¬db.Uses number) :
    let account := Account.opened stamp number owner (some label) (some currency) opening
    insertOpened stamp account db.provisioned =
      .ok (some (db.provisioned.opened stamp account)) := by
  intro account
  have unused : db.rows.accounts.any (·.number == number) = false := by
    simpa [Database.Uses] using free
  let inserted : Database :=
    { db.provisioned with accounts := some (db.rows.accounts ++ [account.toRow]) }
  have step : db.provisioned.insertAccount account = .ok inserted := by
    rw [Database.insertAccount_provisioned _ _ _ _ _ reachable deposit, unused]
    rfl
  have above : account.balance.exceeds? Money.zero = some (decide (0 < opening.value)) :=
    deposit.exceeds
  simp only [insertOpened, step, above]
  by_cases pos : 0 < opening.value
  · have stillOpen : inserted.reachable := reachable
    have credited : inserted.insertTransaction (account.openingCredit stamp) = _ :=
      Database.insertTransaction_provisioned stillOpen (deposit.storable pos) rfl rfl rfl
    simp only [pos, decide_true, credited, Database.opened]
    rw [if_pos (show 0 < account.balance.value from pos)]
    rfl
  · simp only [pos, decide_false, Database.opened]
    rw [if_neg (show ¬0 < account.balance.value from pos), List.append_nil]
    rfl

theorem createAccount_opens (first : s.FirstFree db.Uses left i) :
    let o := createAccount owner (some label) (some currency) opening attempts left
      ⟨db.provisioned, []⟩ s
    let stamp := (s.attempted i).stamp.1
    let account := Account.opened stamp (s.candidate i) owner (some label) (some currency) opening
    o.result = .ok (.account account) ∧
      o.state = (⟨db.provisioned.opened stamp account, []⟩, s.attempted (i + 1)) := by
  induction left generalizing s i with
  | zero => exact absurd first.lt (Nat.not_lt_zero _)
  | succ left ih =>
    cases i with
    | zero =>
      have inserted := insertOpened_free s.stamp.1 owner label currency reachable deposit first.free
      have number : s.stamp.2.drawNumber.1 = s.candidate 0 := rfl
      simp only [createAccount, openSession, number, inserted]
      exact ⟨rfl, rfl⟩
    | succ i =>
      have inserted := insertOpened_used s.stamp.1 owner label currency reachable deposit
        (first.earlier 0 (Nat.succ_pos i))
      have number : s.stamp.2.drawNumber.1 = s.candidate 0 := rfl
      have rest := ih (first.tail (s.candidate_attempted 1))
      rw [Supply.candidate_attempted, Supply.attempted_attempted, Supply.attempted_attempted,
        Nat.add_comm 1, Nat.add_comm 1] at rest
      simp only [createAccount, openSession, number, inserted, Supply.attempted_one]
      exact rest

theorem createAccount_unopened (used : ∀ i < left, db.Uses (s.candidate i)) :
    let o := createAccount owner (some label) (some currency) opening attempts left
      ⟨db.provisioned, []⟩ s
    o.result = .error (.unavailable .noFreeNumber) ∧
      o.state = (⟨db.provisioned, []⟩, s.attempted left) := by
  induction left generalizing s with
  | zero => exact ⟨rfl, rfl⟩
  | succ left ih =>
    have inserted := insertOpened_used s.stamp.1 owner label currency reachable deposit
      (used 0 (Nat.succ_pos _))
    have number : s.stamp.2.drawNumber.1 = s.candidate 0 := rfl
    have later : ∀ i < left, db.Uses ((s.attempted 1).candidate i) := fun i lt => by
      rw [Supply.candidate_attempted]
      exact used _ (by omega)
    have rest := ih later
    rw [Supply.attempted_attempted, Nat.add_comm 1] at rest
    simp only [createAccount, openSession, number, inserted, Supply.attempted_one]
    exact rest

end

end Durable
end Passbook
