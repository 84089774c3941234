import Passbook.Proofs.History.Step
import Passbook.Proofs.Store.Answers

/-!
# What a transaction takes to be known

A transaction on an account needs no more than what its store keeps on this account, and changes
nothing else. Moments, and the identifiers of transactions, do not matter to it.
-/

namespace Passbook
open Passbook.Except (Paired)

def Account.undated (a : Account) : Account := { a with updatedAt := ⟨0⟩ }

def Transaction.undated (t : Transaction) : Transaction := { t with id := ⟨0⟩, createdAt := ⟨0⟩ }

def AccountRow.undated (a : AccountRow) : AccountRow := { a with updatedAt := ⟨0⟩ }

def TransactionRow.undated (t : TransactionRow) : TransactionRow :=
  { t with id := ⟨0⟩, createdAt := ⟨0⟩ }

def Answer.undated : Answer → Answer
  | .transaction t => .transaction t.undated
  | answer => answer

theorem Account.undated_eq_iff {a a' : Account} :
    a.undated = a'.undated ↔ ∃ moment, a' = { a with updatedAt := moment } := by
  constructor
  · intro same
    refine ⟨a'.updatedAt, ?_⟩
    simp only [undated, mk.injEq] at same
    simp only [same]
  · rintro ⟨moment, rfl⟩
    rfl

theorem AccountRow.undated_eq_iff {a a' : AccountRow} :
    a.undated = a'.undated ↔ ∃ moment, a' = { a with updatedAt := moment } := by
  constructor
  · intro same
    refine ⟨a'.updatedAt, ?_⟩
    simp only [undated, mk.injEq] at same
    simp only [same]
  · rintro ⟨moment, rfl⟩
    rfl

structure Sheet (α τ : Type) where
  accounts : List α
  transactions : List τ

def Shelf.on (id : Uuid) (shelf : Shelf) : Sheet Account Transaction :=
  ⟨(shelf.accounts.filter (·.id == id)).map Account.undated,
    (shelf.transactions.filter (·.account == id)).map Transaction.undated⟩

def Rows.on (id : Uuid) (r : Rows) : Sheet AccountRow TransactionRow :=
  ⟨(r.accounts.filter (·.id == id)).map AccountRow.undated,
    (r.transactions.filter (·.account == id)).map TransactionRow.undated⟩

/-! ## In memory -/

namespace Book
variable {a account : Account} {accounts : List Account} {id : Uuid}

theorem filter_replaceAccount_other (ne : a.id ≠ id) (accounts : List Account) :
    (replaceAccount a accounts).filter (·.id == id) = accounts.filter (·.id == id) := by
  induction accounts with
  | nil => rfl
  | cons other rest ih =>
    simp only [replaceAccount]
    split_ifs with same
    · simp [ne, same]
    · simp [List.filter_cons, ih]

theorem filter_replaceAccount (found : accounts.find? (·.id == id) = some account)
    (same : a.id = id) :
    (replaceAccount a accounts).filter (·.id == id) =
      a :: (accounts.filter (·.id == id)).tail := by
  induction accounts with
  | nil => cases found
  | cons other rest ih =>
    by_cases first : other.id = id
    · simp [replaceAccount, first, same]
    · have found' : rest.find? (·.id == id) = some account := by simpa [first] using found
      simp [replaceAccount, first, same, ih found']

variable {stamp stamp' : Stamp} {shelf shelf' : Shelf} {balance : Decimal} {t : Transaction}

theorem found_on (shelf : Shelf) (id : Uuid) :
    (shelf.accounts.find? (·.id == id)).map Account.undated = (shelf.on id).accounts.head? := by
  simp [Shelf.on, List.head?_filter]

theorem moved_on (found : shelf.accounts.find? (·.id == id) = some account) (on : t.account = id) :
    (moved stamp account balance t shelf).on id =
      ⟨{ account with balance }.undated :: (shelf.on id).accounts.tail,
        (shelf.on id).transactions ++ [t.undated]⟩ := by
  have same : account.id = id := (find?_account found).2
  simp [moved, Shelf.on, filter_replaceAccount found, same, on, Account.undated]

theorem moved_on_other (other : account.id ≠ id) (strange : t.account ≠ id) :
    (moved stamp account balance t shelf).on id = shelf.on id := by
  simp [moved, Shelf.on, filter_replaceAccount_other, other, strange]

/-- The books keep the same on an account, for every owner. -/
def SameOn (id : Uuid) (b b' : Book) : Prop :=
  ∀ owner, (b.shelf owner).on id = (b'.shelf owner).on id

variable {b b' : Book}

theorem apply_on (h : SameOn id b b') (stamp stamp' : Stamp) (owner : Uuid) (amount : Decimal)
    (currency : Option String) (kind : Kind) (description : Option String) :
    Paired (fun failure => failure) (fun r r' => r.1.undated = r'.1.undated ∧ SameOn id r.2 r'.2)
      (b.apply stamp owner id amount currency kind description)
      (b'.apply stamp' owner id amount currency kind description) := by
  have first := congrArg (·.accounts.head?) (h owner)
  simp only [← found_on] at first
  simp only [apply]
  cases found : (b.shelf owner).accounts.find? (·.id == id) <;>
    cases found' : (b'.shelf owner).accounts.find? (·.id == id) <;>
    simp only [found, found', Option.map_none, Option.map_some, Option.some.injEq,
      reduceCtorEq] at first
  · exact .error _
  · rename_i account account'
    obtain ⟨moment, rfl⟩ := Account.undated_eq_iff.1 first
    dsimp only
    cases signedDelta account.id account.balance amount kind with
    | error failure => exact .error failure
    | ok delta =>
      cases sum : account.balance.add? delta with
      | error fault =>
        simp only [Except.ok_bind, sum]
        exact .error (Failure.arithmetic fault)
      | ok balance =>
        simp only [Except.ok_bind, sum, Except.mapError]
        refine .ok ⟨rfl, fun other => ?_⟩
        simp only [shelf_setShelf]
        split_ifs
        · refine (moved_on found rfl).trans (Eq.trans ?_ (moved_on found' rfl).symm)
          rw [h owner]
          rfl
        · exact h other

theorem run_on (h : SameOn id b b') {op : Operation} (asked : op.method = .applyTransaction)
    (names : op.account? = some id) (terms : BookTerms) (s s' : Supply) :
    (b.run terms op s).result.map Answer.undated = (b'.run terms op s').result.map Answer.undated ∧
      SameOn id (b.run terms op s).state.1 (b'.run terms op s').state.1 := by
  cases op with
  | createAccount | listAccounts | listTransactions | listPayees | createPayee | deletePayees =>
    cases asked
  | applyTransaction owner named amount currency kind description =>
    cases names
    have paired := apply_on h s.stamp.1 s'.stamp.1 owner amount currency kind description
    simp only [run]
    generalize b.apply s.stamp.1 owner id amount currency kind description = x at paired
    generalize b'.apply s'.stamp.1 owner id amount currency kind description = x' at paired
    cases paired with
    | error failure => exact ⟨rfl, h⟩
    | ok related => exact ⟨congrArg Except.ok related.1, related.2⟩

theorem Does.on_other {terms : BookTerms} {op : Operation} {result : Except Failure Answer}
    (does : Does terms stamp b op result b') (asked : op.method = .applyTransaction)
    (other : op.account? ≠ some id) : SameOn id b' b := by
  cases does with
  | noNumber | unmoved => exact fun _ => rfl
  | opened | openedEmpty | provisioned | accounts | transactions | demoPayee | payees | duplicate
  | saved | cleared => cases asked
  | @moved owner named amount currency kind description account delta balance found change sum =>
    have strange : named ≠ id := fun same => other (congrArg some same)
    intro owner'
    simp only [shelf_setShelf]
    split_ifs with own
    · rw [own]
      exact moved_on_other (by rwa [(find?_account found).2]) strange
    · rfl

end Book

/-! ## In a database -/

namespace Rows
variable {r r' : Rows} {id : Uuid} {t : Transaction}

theorem found_on (r : Rows) (owner id : Uuid) :
    (r.accounts.find? (Database.isKeptUnder owner id)).map AccountRow.undated =
      (r.on id).accounts.find? (·.owner == owner) := by
  simp only [on, List.find?_map, List.find?_filter, Function.comp_def]
  congr 2
  funext row
  rw [Bool.decide_and, Bool.decide_coe, Bool.decide_coe]
  rfl

theorem moved_undated (owner id : Uuid) (delta : Binary64) (now : Instant) (row : AccountRow) :
    (row.moved owner id delta now).undated = row.undated.moved owner id delta ⟨0⟩ := by
  have same : Database.isKeptUnder owner id row.undated = Database.isKeptUnder owner id row := rfl
  unfold AccountRow.moved
  rw [same]
  split_ifs <;> rfl

def recorded (owner id : Uuid) (delta : Binary64) (now : Instant) (t : Transaction) (r : Rows) :
    Rows :=
  { r with
    accounts := r.accounts.map (·.moved owner id delta now),
    transactions := r.transactions ++ [t.toRow] }

theorem recorded_on (owner : Uuid) (delta : Binary64) (now : Instant) (on : t.account = id)
    (r : Rows) :
    (r.recorded owner id delta now t).on id =
      ⟨(r.on id).accounts.map (·.moved owner id delta ⟨0⟩),
        (r.on id).transactions ++ [t.toRow.undated]⟩ := by
  have named : t.toRow.account = id := on
  simp [recorded, Rows.on, List.filter_map, Function.comp_def, moved_undated, named]

theorem recorded_on_other {other : Uuid} (ne : id ≠ other) (owner : Uuid) (delta : Binary64)
    (now : Instant) (on : t.account = id) (r : Rows) :
    (r.recorded owner id delta now t).on other = r.on other := by
  have unmoved : ∀ row ∈ r.accounts.filter (·.id == other), row.moved owner id delta now = row := by
    intro row mem
    have named : row.id = other := by simpa using (List.mem_filter.1 mem).2
    rw [AccountRow.moved, if_neg fun kept => ne ((isKeptUnder_iff.1 kept).1.symm.trans named)]
  have filtered : (r.accounts.map (·.moved owner id delta now)).filter (·.id == other) =
      r.accounts.filter (·.id == other) := by
    simp only [List.filter_map, Function.comp_def, AccountRow.moved_id]
    rw [List.map_congr_left unmoved, List.map_id']
  have strange : t.toRow.account ≠ other := fun same => ne (on.symm.trans same)
  simp [recorded, Rows.on, filtered, strange]

theorem Does.on_other {stamp : Stamp} {op : Operation} {answer : Answer}
    (does : Does stamp r op answer r') (asked : op.method = .applyTransaction)
    (other : op.account? ≠ some id) : r'.on id = r.on id := by
  cases does with
  | opened | openedEmpty | accounts | transactions | payees | saved | cleared => cases asked
  | @moved owner named amount currency kind description row delta column found change binary =>
    have strange : named ≠ id := fun same => other (congrArg some same)
    have on : (Durable.transactionOn stamp row owner named amount currency kind
        description).account = named := rfl
    exact recorded_on_other strange owner column stamp.now on r

end Rows

namespace Durable
variable {db db' : Database} {id : Uuid}

theorem apply_on (numeric : db.Numeric) (numeric' : db'.Numeric)
    (h : db.rows.on id = db'.rows.on id) (stamp stamp' : Stamp) (owner : Uuid)
    {amount : Decimal} (given : amount.IsAmount)
    (currency : Option String) {kind : Kind} (known : kind = .credit ∨ kind = .debit)
    (description : Option String) :
    Paired (fun failure => failure)
      (fun r r' => r.1.undated = r'.1.undated ∧ r.2.rows.on id = r'.2.rows.on id)
      (apply stamp false owner id amount currency kind description db.provisioned)
      (apply stamp' false owner id amount currency kind description db'.provisioned) := by
  have first := congrArg (·.accounts.find? (·.owner == owner)) h
  simp only [← Rows.found_on] at first
  cases found : db.rows.accounts.find? (Database.isKeptUnder owner id) <;>
    cases found' : db'.rows.accounts.find? (Database.isKeptUnder owner id) <;>
    simp only [found, found', Option.map_none, Option.map_some, Option.some.injEq,
      reduceCtorEq] at first
  · rw [apply_unknown numeric.reachable found, apply_unknown numeric'.reachable found']
    exact .error _
  · rename_i row row'
    obtain ⟨moment, rfl⟩ := AccountRow.undated_eq_iff.1 first
    have number := numeric.numbers row (List.mem_of_find?_eq_some found)
    rcases signedDelta_column row.id number given kind with
      ⟨refusal, refused⟩ | ⟨delta, column, change, binary, finite⟩
    · rw [apply_refused numeric.reachable found refused,
        apply_refused numeric'.reachable found' refused]
      exact .error _
    · have text := Kind.text_isSome known
      rw [apply_records numeric found change binary finite given.storable text,
        apply_records numeric' found' change binary finite given.storable text]
      have on (stamp : Stamp) (row : AccountRow) : (transactionOn stamp row owner id
          amount currency kind description).account = id := rfl
      have after (stamp : Stamp) (row : AccountRow) (r : Rows) :=
        Rows.recorded_on owner column stamp.now (on stamp row) r
      refine .ok ⟨rfl, (after _ _ _).trans (Eq.trans ?_ (after _ _ _).symm)⟩
      rw [h]
      rfl

theorem run_on (numeric : db.Numeric) (numeric' : db'.Numeric) (h : db.rows.on id = db'.rows.on id)
    {op : Operation} (asked : op.method = .applyTransaction) (names : op.account? = some id)
    (checked : op.Checked) (attempts : Nat) (s s' : Supply) :
    let o := run attempts false op ⟨db.provisioned, []⟩ s
    let o' := run attempts false op ⟨db'.provisioned, []⟩ s'
    o.result.map Answer.undated = o'.result.map Answer.undated ∧
      o.state.1.database.rows.on id = o'.state.1.database.rows.on id := by
  cases op with
  | createAccount | listAccounts | listTransactions | listPayees | createPayee | deletePayees =>
    cases asked
  | applyTransaction owner named amount currency kind description =>
    cases names
    obtain ⟨given, known, -⟩ := checked
    have paired := apply_on numeric numeric' h s.stamp.1 s'.stamp.1 owner given currency known
      description
    simp only [run, perform, work, openSession]
    generalize apply s.stamp.1 false owner id amount currency kind description db.provisioned = x
      at paired
    generalize apply s'.stamp.1 false owner id amount currency kind description db'.provisioned = x'
      at paired
    cases paired with
    | error failure => exact ⟨rfl, h⟩
    | ok related => exact ⟨congrArg Except.ok related.1, related.2⟩

end Durable
end Passbook
