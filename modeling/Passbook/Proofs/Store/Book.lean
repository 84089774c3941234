import Passbook.Proofs.Ledger.Rules
import Passbook.Proofs.Ledger.Supply
import Passbook.Store.Book

namespace Passbook.Book
variable {terms : BookTerms} {stamp : Stamp} {b : Book} {s : Supply} {op : Operation}

/-! ## Shelves -/

@[simp] theorem shelf_setShelf (b : Book) (owner other : Uuid) (shelf : Shelf) :
    (b.setShelf owner shelf).shelf other = if other = owner then shelf else b.shelf other := rfl

@[simp] theorem numbers_setShelf (b : Book) (owner : Uuid) (shelf : Shelf) :
    (b.setShelf owner shelf).numbers = b.numbers := rfl

@[simp] theorem shelf_addAccount (b : Book) (a : Account) (other : Uuid) :
    (b.addAccount a).shelf other =
      if other = a.owner then
        { b.shelf a.owner with accounts := (b.shelf a.owner).accounts ++ [a] }
      else b.shelf other := rfl

@[simp] theorem numbers_addAccount (b : Book) (a : Account) :
    (b.addAccount a).numbers = a.number :: b.numbers := rfl

@[simp] theorem shelf_addTransaction (b : Book) (t : Transaction) (other : Uuid) :
    (b.addTransaction t).shelf other =
      if other = t.owner then
        { b.shelf t.owner with transactions := (b.shelf t.owner).transactions ++ [t] }
      else b.shelf other := rfl

@[simp] theorem numbers_addTransaction (b : Book) (t : Transaction) :
    (b.addTransaction t).numbers = b.numbers := rfl

@[simp] theorem shelf_addPayee (b : Book) (p : Payee) (other : Uuid) :
    (b.addPayee p).shelf other =
      if other = p.owner then
        { b.shelf p.owner with payees := (b.shelf p.owner).payees ++ [p] }
      else b.shelf other := rfl

@[simp] theorem numbers_addPayee (b : Book) (p : Payee) :
    (b.addPayee p).numbers = b.numbers := rfl

/-! ## Replacing an account -/

theorem map_id_replaceAccount (a : Account) (accounts : List Account) :
    (replaceAccount a accounts).map (·.id) = accounts.map (·.id) := by
  induction accounts with
  | nil => rfl
  | cons other rest ih =>
    simp only [replaceAccount]
    split_ifs with same
    · simp [same]
    · simp [ih]

theorem mem_replaceAccount {a other : Account} {accounts : List Account}
    (distinct : (accounts.map (·.id)).Nodup) (mem : other ∈ replaceAccount a accounts) :
    other = a ∨ other ∈ accounts ∧ other.id ≠ a.id := by
  induction accounts with
  | nil => cases mem
  | cons head rest ih =>
    rw [List.map_cons, List.nodup_cons] at distinct
    simp only [replaceAccount] at mem
    split_ifs at mem with same
    · rcases List.mem_cons.1 mem with rfl | mem
      · exact .inl rfl
      · refine .inr ⟨List.mem_cons_of_mem _ mem, fun e => distinct.1 ?_⟩
        exact List.mem_map.2 ⟨other, mem, e.trans same.symm⟩
    · rcases List.mem_cons.1 mem with rfl | mem
      · exact .inr ⟨List.mem_cons_self, same⟩
      · rcases ih distinct.2 mem with rfl | ⟨mem, ne⟩
        · exact .inl rfl
        · exact .inr ⟨List.mem_cons_of_mem _ mem, ne⟩

theorem find?_account {accounts : List Account} {id : Uuid} {account : Account}
    (found : accounts.find? (·.id == id) = some account) : account ∈ accounts ∧ account.id = id :=
  ⟨List.mem_of_find?_eq_some found, by simpa using List.find?_some found⟩

/-! ## A transaction on one account -/

def transactionOn (stamp : Stamp) (account : Account) (owner id : Uuid) (amount : Decimal)
    (currency : Option String) (kind : Kind) (description : Option String) : Transaction :=
  { id := stamp.first, account := id, owner, amount,
    currency := resolveCurrency currency account.currency, kind, description,
    createdAt := stamp.now }

def moved (stamp : Stamp) (account : Account) (balance : Decimal) (t : Transaction)
    (shelf : Shelf) : Shelf :=
  { shelf with
    accounts := replaceAccount { account with balance, updatedAt := stamp.now } shelf.accounts,
    transactions := shelf.transactions ++ [t] }

section
variable {owner id : Uuid} {amount : Decimal} {currency description : Option String} {kind : Kind}

theorem apply_unknown (none : (b.shelf owner).accounts.find? (·.id == id) = none) :
    b.apply stamp owner id amount currency kind description = refuse (.accountNotFound id) := by
  simp only [apply, none]

theorem apply_refused {account : Account} {failure : Failure}
    (found : (b.shelf owner).accounts.find? (·.id == id) = some account)
    (refused : signedDelta account.id account.balance amount kind = .error failure) :
    b.apply stamp owner id amount currency kind description = .error failure := by
  simp only [apply, found, refused]
  rfl

theorem apply_eq_ok {answer : Answer} {b' : Book} :
    b.apply stamp owner id amount currency kind description = .ok (answer, b') ↔
      ∃ account delta balance, (b.shelf owner).accounts.find? (·.id == id) = some account ∧
        signedDelta account.id account.balance amount kind = .ok delta ∧
        account.balance.add? delta = .ok balance ∧
        answer = .transaction (transactionOn stamp account owner id amount currency kind
          description) ∧
        b' = b.setShelf owner (moved stamp account balance
          (transactionOn stamp account owner id amount currency kind description)
          (b.shelf owner)) := by
  simp only [apply]
  cases found : (b.shelf owner).accounts.find? (·.id == id) with
  | none => simp [refuse]
  | some account =>
    cases change : signedDelta account.id account.balance amount kind with
    | error failure => simp [change, bind, Except.bind]
    | ok delta =>
      cases sum : account.balance.add? delta with
      | error fault => simp [change, sum, bind, Except.bind, Except.mapError]
      | ok balance =>
        simp [change, sum, bind, Except.bind, Except.mapError, transactionOn, moved, eq_comm]

end

theorem listTransactions_ok {owner : Uuid} {account : Option Uuid} {answer : Answer}
    (h : b.listTransactions owner account = .ok answer) : ∃ ts, answer = .transactions ts := by
  cases account with
  | none =>
    cases h
    exact ⟨_, rfl⟩
  | some id =>
    simp only [listTransactions] at h
    split_ifs at h <;> cases h
    exact ⟨_, rfl⟩

/-! ## The ways in which an operation can end -/

inductive Does (terms : BookTerms) (stamp : Stamp) (b : Book) :
    Operation → Except Failure Answer → Book → Prop
  | noNumber (op : Operation) (opens : op.method = .createAccount ∨ op.method = .listAccounts) :
    Does terms stamp b op (.error noFreeNumber) b
  | opened {owner label currency opening number} (free : number ∉ b.numbers)
      (credit : opening.IsAmount) :
    Does terms stamp b (.createAccount owner label currency opening)
      (.ok (.account (.opened stamp number owner label currency opening)))
      ((b.addAccount (.opened stamp number owner label currency opening)).addTransaction
        ((Account.opened stamp number owner label currency opening).openingCredit stamp))
  | openedEmpty {owner label currency opening number} (free : number ∉ b.numbers)
      (nought : opening.IsCents 0) :
    Does terms stamp b (.createAccount owner label currency opening)
      (.ok (.account (.opened stamp number owner label currency opening)))
      (b.addAccount (.opened stamp number owner label currency opening))
  | provisioned {owner number} (free : number ∉ b.numbers)
      (bare : (b.shelf owner).accounts = []) :
    Does terms stamp b (.listAccounts owner)
      (.ok (.accounts [.opened stamp number owner (some terms.label) (some terms.currency)
        Money.zero]))
      (b.addAccount (.opened stamp number owner (some terms.label) (some terms.currency)
        Money.zero))
  | accounts {owner} (some : (b.shelf owner).accounts ≠ []) :
    Does terms stamp b (.listAccounts owner) (.ok (.accounts (b.shelf owner).accounts)) b
  | transactions (owner account) :
    Does terms stamp b (.listTransactions owner account) (b.listTransactions owner account) b
  | unmoved {owner id amount currency kind description failure}
      (h : b.apply stamp owner id amount currency kind description = .error failure) :
    Does terms stamp b (.applyTransaction owner id amount currency kind description)
      (.error failure) b
  | moved {owner id amount currency kind description account delta balance}
      (found : (b.shelf owner).accounts.find? (·.id == id) = some account)
      (change : signedDelta account.id account.balance amount kind = .ok delta)
      (sum : account.balance.add? delta = .ok balance) :
    Does terms stamp b (.applyTransaction owner id amount currency kind description)
      (.ok (.transaction
        (transactionOn stamp account owner id amount currency kind description)))
      (b.setShelf owner (moved stamp account balance
        (transactionOn stamp account owner id amount currency kind description)
        (b.shelf owner)))
  | demoPayee {owner} (bare : (b.shelf owner).payees = []) :
    Does terms stamp b (.listPayees owner) (.ok (.payees [demoPayee stamp owner]))
      (b.addPayee (demoPayee stamp owner))
  | payees {owner} (some : (b.shelf owner).payees ≠ []) :
    Does terms stamp b (.listPayees owner) (.ok (.payees (b.shelf owner).payees.reverse)) b
  | duplicate {owner name number} (known : ∃ p ∈ (b.shelf owner).payees, p.number = number) :
    Does terms stamp b (.createPayee owner name number) (refuse (.duplicatePayee number)) b
  | saved {owner name number} (fresh : ∀ p ∈ (b.shelf owner).payees, p.number ≠ number) :
    Does terms stamp b (.createPayee owner name number)
      (.ok (.payee ⟨stamp.first, owner, name, number, stamp.now⟩))
      (b.addPayee ⟨stamp.first, owner, name, number, stamp.now⟩)
  | cleared (owner) :
    Does terms stamp b (.deletePayees owner) (.ok (.removed (b.shelf owner).payees.length))
      (b.setShelf owner { b.shelf owner with payees := [] })

theorem Does.shelf_other {result : Except Failure Answer} {b' : Book} {other : Uuid}
    (does : Does terms stamp b op result b') (ne : other ≠ op.owner) :
    b'.shelf other = b.shelf other := by
  cases does with
  | noNumber | accounts | transactions | unmoved | payees | duplicate => rfl
  | opened | openedEmpty | provisioned | moved | demoPayee | saved | cleared =>
    simp only [Operation.owner] at ne
    simp [ne, Book.demoPayee]

theorem Does.book_of_error {result : Except Failure Answer} {b' : Book} {failure : Failure}
    (does : Does terms stamp b op result b') (h : result = .error failure) : b' = b := by
  cases does with
  | noNumber | transactions | unmoved | duplicate => rfl
  | accounts | payees | opened | openedEmpty | provisioned | moved | demoPayee | saved | cleared =>
    cases h

def ids (b : Book) (owner : Uuid) : List Uuid := (b.shelf owner).accounts.map (·.id)

theorem Does.ids_eq {result : Except Failure Answer} {b' : Book}
    (does : Does terms stamp b op result b') :
    b'.ids op.owner = b.ids op.owner ∨ b'.ids op.owner = b.ids op.owner ++ [stamp.first] := by
  cases does with
  | noNumber | accounts | transactions | unmoved | payees | duplicate => exact .inl rfl
  | opened | openedEmpty | provisioned => exact .inr (by simp [ids, Operation.owner])
  | moved => exact .inl (by simp [ids, Operation.owner, Book.moved, map_id_replaceAccount])
  | demoPayee | saved | cleared => exact .inl (by simp [ids, Operation.owner, Book.demoPayee])

theorem Does.ids_mem {result : Except Failure Answer} {b' : Book} {owner id : Uuid}
    (does : Does terms stamp b op result b') (mem : id ∈ b'.ids owner) :
    id ∈ b.ids owner ∨ owner = op.owner ∧ id = stamp.first := by
  by_cases own : owner = op.owner
  · subst own
    rcases does.ids_eq with same | one
    · exact .inl (same ▸ mem)
    · rw [one, List.mem_append, List.mem_singleton] at mem
      exact mem.imp_right fun same => ⟨rfl, same⟩
  · rw [ids, does.shelf_other own] at mem
    exact .inl mem

theorem not_mem_of_findNumber {attempts : Nat} {number : String} {s s' : Supply}
    (h : s.findNumber b.isTaken attempts = (some number, s')) : number ∉ b.numbers := by
  have free := Supply.findNumber_free (congrArg Prod.fst h)
  simpa [isTaken] using free

theorem run_does (checked : op.Checked) :
    Does terms s.stamp.1 b op (b.run terms op s).result (b.run terms op s).state.1 := by
  cases op with
  | createAccount owner label currency opening =>
    simp only [run]
    split
    · exact .noNumber _ (.inl rfl)
    · rename_i number s' found
      have free := not_mem_of_findNumber found
      obtain ⟨-, -, credit | nought⟩ := checked
      · obtain ⟨cents, pos, bound, rfl⟩ := credit
        have above : Decimal.exceeds? (.ofCents cents) Money.zero = some true := by
          rw [Decimal.exceeds?_finite rfl rfl, Money.zero, Decimal.value_ofCents,
            Decimal.value_ofNat]
          simpa using pos
        simp only [createAccount, above]
        exact .opened free ⟨cents, pos, bound, rfl⟩
      · have level : opening.exceeds? Money.zero = some false := by
          rw [Decimal.exceeds?_finite nought.isFinite rfl, nought.value, Money.zero,
            Decimal.value_ofNat]
          simp
        simp only [createAccount, level]
        exact .openedEmpty free nought
  | listAccounts owner =>
    simp only [run]
    split_ifs with bare
    · split
      · exact .noNumber _ (.inr rfl)
      · rename_i number s' found
        exact .provisioned (not_mem_of_findNumber found) (by simpa using bare)
    · exact .accounts (by simpa using bare)
  | listTransactions owner account => exact .transactions owner account
  | applyTransaction owner id amount currency kind description =>
    simp only [run]
    cases h : b.apply s.stamp.1 owner id amount currency kind description with
    | error failure => exact .unmoved h
    | ok result =>
      obtain ⟨account, delta, balance, found, change, sum, answer_eq, book_eq⟩ := apply_eq_ok.1 h
      simp only [settle, answer_eq, book_eq]
      exact .moved found change sum
  | listPayees owner =>
    simp only [run, listPayees]
    by_cases bare : (b.shelf owner).payees = []
    · have : Does terms s.stamp.1 b (.listPayees owner) _ _ := .demoPayee bare
      simpa [bare, Passbook.Book.demoPayee] using this
    · simpa [bare] using Does.payees bare
  | createPayee owner name number =>
    simp only [run, createPayee]
    split_ifs with known
    · exact .duplicate (by simpa using known)
    · exact .saved (by simpa using known)
  | deletePayees owner => exact .cleared owner

theorem run_stamp : Supply.Later s.stamp.2 (b.run terms op s).state.2 := by
  cases op with
  | createAccount owner label currency opening =>
    have found := Supply.later_findNumber b.isTaken terms.attempts s.stamp.2
    simp only [run]
    split <;> rename_i found_eq <;> rw [found_eq] at found <;> exact found
  | listAccounts owner =>
    have found := Supply.later_findNumber b.isTaken terms.attempts s.stamp.2
    simp only [run]
    split_ifs
    · split <;> rename_i found_eq <;> rw [found_eq] at found <;> exact found
    · exact .refl _
  | applyTransaction | createPayee => simp only [run]; unfold settle; split <;> exact .refl _
  | listTransactions | listPayees | deletePayees => exact .refl _

theorem run_later : Supply.Later s (b.run terms op s).state.2 := s.later_stamp.trans run_stamp

end Passbook.Book
