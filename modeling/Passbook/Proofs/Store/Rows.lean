import Passbook.Proofs.Number.Binary64
import Passbook.Proofs.Store.Durable

namespace Passbook

theorem stored_eq_ok {b held : Binary64} (h : stored b = .ok held) : held = b.settled := by
  cases b with
  | finite n m e => cases m <;> cases h <;> rfl
  | infinite n => cases h; rfl
  | nan => cases h

def Decimal.settled (x : Decimal) : Binary64 := ((Binary64.ofDecimal? x).getD .nan).settled

theorem moneyColumn_eq_ok {x : Decimal} {b : Binary64} :
    moneyColumn x = .ok b ↔ Binary64.ofDecimal? x = some b := by
  unfold moneyColumn
  cases Binary64.ofDecimal? x <;> simp

theorem settled_of_columns {x : Decimal} {b held : Binary64} (column : moneyColumn x = .ok b)
    (h : stored b = .ok held) : held = x.settled := by
  rw [stored_eq_ok h, Decimal.settled, moneyColumn_eq_ok.1 column, Option.getD_some]

theorem required_eq_ok {α : Type} {found : Option α} {a : α} :
    required found = .ok a ↔ found = some a := by
  cases found <;> simp [required]

def Account.toRow (a : Account) : AccountRow :=
  { id := a.id, owner := a.owner, number := a.number, label := a.label.getD "",
    balance := a.balance.settled, currency := a.currency.getD "", createdAt := a.createdAt,
    updatedAt := a.updatedAt }

def Transaction.toRow (t : Transaction) : TransactionRow :=
  { id := t.id, account := t.account, owner := t.owner, amount := t.amount.settled,
    currency := t.currency.getD "", kind := t.kind.text.getD "",
    description := t.description.getD "", createdAt := t.createdAt }

def Payee.toRow (p : Payee) : PayeeRow :=
  { id := p.id, owner := p.owner, name := p.name.getD "", number := p.number.getD "",
    createdAt := p.createdAt }

theorem AccountRow.balance_listed {row : AccountRow} (finite : row.balance.isFinite) :
    row.toAccount.balance.value = row.balance.cents / 100 :=
  (Binary64.toCents_isCents finite).value

def AccountRow.moved (owner id : Uuid) (delta : Binary64) (now : Instant) (row : AccountRow) :
    AccountRow :=
  if Database.isKeptUnder owner id row then
    { row with balance := (row.balance.add delta).settled, updatedAt := now }
  else row

theorem isKeptUnder_iff {owner id : Uuid} {row : AccountRow} :
    Database.isKeptUnder owner id row ↔ row.id = id ∧ row.owner = owner := by
  simp [Database.isKeptUnder]

section
variable (owner id other : Uuid) (delta : Binary64) (now : Instant) (row : AccountRow)

@[simp] theorem AccountRow.moved_id : (row.moved owner id delta now).id = row.id := by
  unfold moved
  split <;> rfl

@[simp] theorem AccountRow.moved_owner : (row.moved owner id delta now).owner = row.owner := by
  unfold moved
  split <;> rfl

@[simp] theorem AccountRow.moved_number : (row.moved owner id delta now).number = row.number := by
  unfold moved
  split <;> rfl

@[simp] theorem AccountRow.moved_createdAt :
    (row.moved owner id delta now).createdAt = row.createdAt := by
  unfold moved
  split <;> rfl

theorem filter_moved (rows : List AccountRow) :
    (rows.map (·.moved owner id delta now)).filter (·.owner == other) =
      (rows.filter (·.owner == other)).map (·.moved owner id delta now) := by
  simp [List.filter_map, Function.comp_def]

variable {owner other}

theorem filter_moved_other (ne : other ≠ owner) (rows : List AccountRow) :
    (rows.map (·.moved owner id delta now)).filter (·.owner == other) =
      rows.filter (·.owner == other) := by
  have same : ∀ row ∈ rows.filter (·.owner == other), row.moved owner id delta now = row := by
    intro row mem
    have theirs : row.owner = other := by simpa using (List.mem_filter.1 mem).2
    have strange : ¬Database.isKeptUnder owner id row := fun kept =>
      ne (theirs ▸ (isKeptUnder_iff.1 kept).2)
    rw [AccountRow.moved, if_neg strange]
  rw [filter_moved, List.map_congr_left same, List.map_id']

end

structure Rows where
  accounts : List AccountRow
  transactions : List TransactionRow
  payees : List PayeeRow

namespace Rows

def of (owner : Uuid) (r : Rows) : Rows :=
  ⟨r.accounts.filter (·.owner == owner), r.transactions.filter (·.owner == owner),
    r.payees.filter (·.owner == owner)⟩

def accountsOf (owner : Uuid) (r : Rows) : List AccountRow :=
  (r.accounts.filter (·.owner == owner)).mergeSort fun a b =>
    a.createdAt.micros ≤ b.createdAt.micros

def transactionsOf (owner : Uuid) (account : Option Uuid) (r : Rows) : List TransactionRow :=
  (r.transactions.filter fun row => row.owner == owner && account.all (row.account == ·)).mergeSort
    fun a b => b.createdAt.micros ≤ a.createdAt.micros

def payeesOf (owner : Uuid) (r : Rows) : List PayeeRow :=
  (r.payees.filter (·.owner == owner)).mergeSort fun a b =>
    b.createdAt.micros ≤ a.createdAt.micros

end Rows

/-! ## Statements -/

namespace Database
variable {db db' : Database} {owner id : Uuid}

def rows (db : Database) : Rows :=
  ⟨db.accounts.getD [], db.transactions.getD [], db.payees.getD []⟩

@[simp] theorem rows_provisioned (db : Database) : db.provisioned.rows = db.rows := rfl

theorem rowsOf_ok {α : Type} {table : Table} {found : Option (List α)} {rows : List α}
    (h : db.rowsOf table found = .ok rows) : found = some rows := by
  unfold rowsOf at h
  split_ifs at h
  split at h <;> cases h
  rfl

structure SameSchema (db db' : Database) : Prop where
  reachable : db'.reachable = db.reachable
  tables : ∀ table, db'.hasTable table = db.hasTable table
  indexes : db'.indexes = db.indexes

theorem SameSchema.refl (db : Database) : db.SameSchema db := ⟨rfl, fun _ => rfl, rfl⟩

theorem SameSchema.trans {db'' : Database} (h : db.SameSchema db') (h' : db'.SameSchema db'') :
    db.SameSchema db'' :=
  ⟨h'.reachable.trans h.reachable, fun table => (h'.tables table).trans (h.tables table),
    h'.indexes.trans h.indexes⟩

theorem sameSchema_accounts (present : db.hasTable .accounts) (rows : List AccountRow) :
    db.SameSchema { db with accounts := some rows } := by
  refine ⟨rfl, fun table => ?_, rfl⟩
  cases table with
  | accounts => exact present.symm
  | transactions | payees => rfl

theorem sameSchema_transactions (present : db.hasTable .transactions)
    (rows : List TransactionRow) : db.SameSchema { db with transactions := some rows } := by
  refine ⟨rfl, fun table => ?_, rfl⟩
  cases table with
  | transactions => exact present.symm
  | accounts | payees => rfl

theorem sameSchema_payees (present : db.hasTable .payees) (rows : List PayeeRow) :
    db.SameSchema { db with payees := some rows } := by
  refine ⟨rfl, fun table => ?_, rfl⟩
  cases table with
  | payees => exact present.symm
  | accounts | transactions => rfl

def Indexed (db : Database) : Prop :=
  db.indexes = Index.all.filter fun index => db.hasTable index.table

theorem Indexed.mem (h : db.Indexed) (index : Index) :
    index ∈ db.indexes ↔ db.hasTable index.table := by
  rw [h, List.mem_filter, and_iff_right index.mem_all]

theorem SameSchema.indexed (h : db.SameSchema db') (indexed : db.Indexed) : db'.Indexed := by
  rw [Indexed, h.indexes, indexed]
  exact List.filter_congr fun index _ => (h.tables index.table).symm

theorem indexed_provisioned (db : Database) : db.provisioned.Indexed := rfl

theorem hasTable_dropTable (db : Database) (table other : Table) :
    (db.dropTable table).hasTable other = (db.hasTable other && decide (other ≠ table)) := by
  cases table <;> cases other <;> simp [hasTable, dropTable]

theorem Indexed.dropTable (h : db.Indexed) (table : Table) : (db.dropTable table).Indexed := by
  have left : (db.dropTable table).indexes = db.indexes.filter (·.table ≠ table) := by
    cases table <;> rfl
  rw [Indexed, left, h, List.filter_filter]
  refine List.filter_congr fun index _ => ?_
  rw [hasTable_dropTable, Bool.and_comm]

theorem accountRows_provisioned (h : db.reachable) :
    db.provisioned.accountRows = .ok db.rows.accounts := by
  simp [accountRows, rowsOf, provisioned, h, Database.rows]

theorem transactionRows_provisioned (h : db.reachable) :
    db.provisioned.transactionRows = .ok db.rows.transactions := by
  simp [transactionRows, rowsOf, provisioned, h, Database.rows]

theorem payeeRows_provisioned (h : db.reachable) :
    db.provisioned.payeeRows = .ok db.rows.payees := by
  simp [payeeRows, rowsOf, provisioned, h, Database.rows]

theorem accountRows_ok {rows : List AccountRow} (h : db.accountRows = .ok rows) :
    db.rows.accounts = rows := by
  rw [Database.rows, rowsOf_ok h, Option.getD_some]

theorem transactionRows_ok {rows : List TransactionRow} (h : db.transactionRows = .ok rows) :
    db.rows.transactions = rows := by
  rw [Database.rows, rowsOf_ok h, Option.getD_some]

theorem payeeRows_ok {rows : List PayeeRow} (h : db.payeeRows = .ok rows) :
    db.rows.payees = rows := by
  rw [Database.rows, rowsOf_ok h, Option.getD_some]

theorem accountRows_hasTable {rows : List AccountRow} (h : db.accountRows = .ok rows) :
    db.hasTable .accounts :=
  Option.isSome_iff_exists.2 ⟨_, rowsOf_ok h⟩

theorem transactionRows_hasTable {rows : List TransactionRow} (h : db.transactionRows = .ok rows) :
    db.hasTable .transactions :=
  Option.isSome_iff_exists.2 ⟨_, rowsOf_ok h⟩

theorem payeeRows_hasTable {rows : List PayeeRow} (h : db.payeeRows = .ok rows) :
    db.hasTable .payees :=
  Option.isSome_iff_exists.2 ⟨_, rowsOf_ok h⟩

theorem insertAccount_ok {a : Account} (h : db.insertAccount a = .ok db') :
    db.hasTable .accounts ∧ (∀ row ∈ db.rows.accounts, row.number ≠ a.number) ∧
      db' = { db with accounts := some (db.rows.accounts ++ [a.toRow]) } := by
  obtain ⟨column, hcolumn, h⟩ := Except.bind_eq_ok.1 h
  obtain ⟨rows, hrows, h⟩ := Except.bind_eq_ok.1 h
  obtain ⟨label, hlabel, h⟩ := Except.bind_eq_ok.1 h
  obtain ⟨balance, hbalance, h⟩ := Except.bind_eq_ok.1 h
  obtain ⟨currency, hcurrency, h⟩ := Except.bind_eq_ok.1 h
  split_ifs at h with taken
  cases h
  rw [accountRows_ok hrows]
  refine ⟨accountRows_hasTable hrows, by simpa using taken, ?_⟩
  simp only [Account.toRow, Option.getD_some, required_eq_ok.1 hlabel,
    required_eq_ok.1 hcurrency, settled_of_columns hcolumn hbalance]

theorem insertTransaction_ok {t : Transaction} (h : db.insertTransaction t = .ok db') :
    db.hasTable .transactions ∧ db' = { db with transactions := some (db.rows.transactions ++ [t.toRow]) } := by
  obtain ⟨column, hcolumn, h⟩ := Except.bind_eq_ok.1 h
  obtain ⟨rows, hrows, h⟩ := Except.bind_eq_ok.1 h
  obtain ⟨amount, hamount, h⟩ := Except.bind_eq_ok.1 h
  obtain ⟨currency, hcurrency, h⟩ := Except.bind_eq_ok.1 h
  obtain ⟨kind, hkind, h⟩ := Except.bind_eq_ok.1 h
  obtain ⟨description, hdescription, h⟩ := Except.bind_eq_ok.1 h
  split_ifs at h
  cases h
  refine ⟨transactionRows_hasTable hrows, ?_⟩
  rw [transactionRows_ok hrows]
  simp only [Transaction.toRow, Option.getD_some, required_eq_ok.1 hcurrency,
    required_eq_ok.1 hkind, required_eq_ok.1 hdescription, settled_of_columns hcolumn hamount]

theorem insertPayee_ok {p : Payee} (h : db.insertPayee p = .ok db') :
    db.hasTable .payees ∧ (∀ row ∈ db.rows.payees, ¬(row.owner = p.owner ∧ row.number = p.toRow.number)) ∧
      db' = { db with payees := some (db.rows.payees ++ [p.toRow]) } := by
  obtain ⟨rows, hrows, h⟩ := Except.bind_eq_ok.1 h
  obtain ⟨name, hname, h⟩ := Except.bind_eq_ok.1 h
  obtain ⟨number, hnumber, h⟩ := Except.bind_eq_ok.1 h
  split_ifs at h with taken
  cases h
  have present := payeeRows_hasTable hrows
  rw [payeeRows_ok hrows]
  simp only [Payee.toRow, Option.getD_some, required_eq_ok.1 hname, required_eq_ok.1 hnumber]
  exact ⟨present, by simpa using taken, trivial⟩

theorem findAccount_ok {found : Option AccountRow} (h : db.findAccount owner id = .ok found) :
    db.rows.accounts.find? (isKeptUnder owner id) = found := by
  obtain ⟨rows, hrows, h⟩ := Except.bind_eq_ok.1 h
  cases h
  rw [accountRows_ok hrows]

theorem addToBalance_ok {delta : Binary64} {now : Instant} {row row' : AccountRow}
    (h : addToBalance owner id delta now row = .ok row') : row' = row.moved owner id delta now := by
  unfold addToBalance at h
  unfold AccountRow.moved
  split_ifs at h ⊢ with kept
  · obtain ⟨balance, hbalance, h⟩ := Except.bind_eq_ok.1 h
    cases h
    rw [stored_eq_ok hbalance]
  · cases h
    rfl

theorem updateBalance_ok {delta : Binary64} {now : Instant}
    (h : db.updateBalance owner id delta now = .ok db') : db.hasTable .accounts ∧
    db' = { db with accounts := some (db.rows.accounts.map (·.moved owner id delta now)) } := by
  obtain ⟨rows, hrows, h⟩ := Except.bind_eq_ok.1 h
  obtain ⟨rows', hrows', h⟩ := Except.bind_eq_ok.1 h
  cases h
  refine ⟨accountRows_hasTable hrows, ?_⟩
  rw [accountRows_ok hrows, ← Except.mapM_eq_map addToBalance_ok hrows']

theorem selectAccounts_ok {rows : List AccountRow} (h : db.selectAccounts owner = .ok rows) :
    rows = db.rows.accountsOf owner := by
  obtain ⟨all, hall, h⟩ := Except.bind_eq_ok.1 h
  cases h
  rw [Rows.accountsOf, accountRows_ok hall]

theorem selectTransactions_ok {account : Option Uuid} {rows : List TransactionRow}
    (h : db.selectTransactions owner account = .ok rows) :
    rows = db.rows.transactionsOf owner account := by
  obtain ⟨all, hall, h⟩ := Except.bind_eq_ok.1 h
  cases h
  rw [Rows.transactionsOf, transactionRows_ok hall]

theorem selectPayees_ok {rows : List PayeeRow} (h : db.selectPayees owner = .ok rows) :
    rows = db.rows.payeesOf owner := by
  obtain ⟨all, hall, h⟩ := Except.bind_eq_ok.1 h
  cases h
  rw [Rows.payeesOf, payeeRows_ok hall]

theorem deletePayees_ok {count : Nat} (h : db.deletePayees owner = .ok (count, db')) :
    db.hasTable .payees ∧ count = (db.rows.payees.filter (·.owner == owner)).length ∧
      db' = { db with payees := some (db.rows.payees.filter (·.owner != owner)) } := by
  obtain ⟨all, hall, h⟩ := Except.bind_eq_ok.1 h
  cases h
  rw [payeeRows_ok hall]
  exact ⟨payeeRows_hasTable hall, rfl, rfl⟩

theorem findAccount_provisioned (h : db.reachable) (owner id : Uuid) :
    db.provisioned.findAccount owner id =
      .ok (db.rows.accounts.find? (isKeptUnder owner id)) :=
  Except.bind_eq_ok.2 ⟨_, accountRows_provisioned h, rfl⟩

theorem selectAccounts_provisioned (h : db.reachable) (owner : Uuid) :
    db.provisioned.selectAccounts owner = .ok (db.rows.accountsOf owner) :=
  Except.bind_eq_ok.2 ⟨_, accountRows_provisioned h, rfl⟩

theorem selectTransactions_provisioned (h : db.reachable) (owner : Uuid) (account : Option Uuid) :
    db.provisioned.selectTransactions owner account =
      .ok (db.rows.transactionsOf owner account) :=
  Except.bind_eq_ok.2 ⟨_, transactionRows_provisioned h, rfl⟩

theorem selectPayees_provisioned (h : db.reachable) (owner : Uuid) :
    db.provisioned.selectPayees owner = .ok (db.rows.payeesOf owner) :=
  Except.bind_eq_ok.2 ⟨_, payeeRows_provisioned h, rfl⟩

theorem deletePayees_provisioned (h : db.reachable) (owner : Uuid) :
    db.provisioned.deletePayees owner =
      .ok ((db.rows.payees.filter (·.owner == owner)).length,
        { db.provisioned with payees := some (db.rows.payees.filter (·.owner != owner)) }) :=
  Except.bind_eq_ok.2 ⟨_, payeeRows_provisioned h, rfl⟩

end Database

/-! ## Operations -/

/-- What an operation that succeeds answers, and the rows after it. -/
inductive Rows.Does (stamp : Stamp) (r : Rows) : Operation → Answer → Rows → Prop
  | opened {owner label currency opening number} (free : ∀ row ∈ r.accounts, row.number ≠ number)
      (credit : opening.exceeds? Money.zero = some true) :
    Does stamp r (.createAccount owner label currency opening)
      (.account (.opened stamp number owner label currency opening))
      { r with
        accounts := r.accounts ++
          [(Account.opened stamp number owner label currency opening).toRow],
        transactions := r.transactions ++
          [((Account.opened stamp number owner label currency opening).openingCredit stamp).toRow] }
  | openedEmpty {owner label currency opening number}
      (free : ∀ row ∈ r.accounts, row.number ≠ number)
      (nought : opening.exceeds? Money.zero = some false) :
    Does stamp r (.createAccount owner label currency opening)
      (.account (.opened stamp number owner label currency opening))
      { r with
        accounts := r.accounts ++
          [(Account.opened stamp number owner label currency opening).toRow] }
  | accounts (owner) :
    Does stamp r (.listAccounts owner) (.accounts ((r.accountsOf owner).map (·.toAccount))) r
  | transactions {owner account}
      (known : ∀ id ∈ account, (r.accounts.find? (Database.isKeptUnder owner id)).isSome) :
    Does stamp r (.listTransactions owner account)
      (.transactions ((r.transactionsOf owner account).map (·.toTransaction))) r
  | moved {owner id amount currency kind description row delta column}
      (found : r.accounts.find? (Database.isKeptUnder owner id) = some row)
      (change : signedDelta row.id row.balance.toCents amount kind = .ok delta)
      (binary : Binary64.ofDecimal? delta = some column) :
    Does stamp r (.applyTransaction owner id amount currency kind description)
      (.transaction (Durable.transactionOn stamp row owner id amount currency kind description))
      { r with
        accounts := r.accounts.map (·.moved owner id column stamp.now),
        transactions := r.transactions ++
          [(Durable.transactionOn stamp row owner id amount currency kind description).toRow] }
  | payees (owner) :
    Does stamp r (.listPayees owner) (.payees ((r.payeesOf owner).map (·.toPayee))) r
  | saved {owner name number}
      (fresh : ∀ row ∈ r.payees, ¬(row.owner = owner ∧ row.number = number.getD "")) :
    Does stamp r (.createPayee owner name number)
      (.payee ⟨stamp.first, owner, name, number, stamp.now⟩)
      { r with payees := r.payees ++ [Payee.toRow ⟨stamp.first, owner, name, number, stamp.now⟩] }
  | cleared (owner) :
    Does stamp r (.deletePayees owner)
      (.removed (r.payees.filter (·.owner == owner)).length)
      { r with payees := r.payees.filter (·.owner != owner) }

theorem Rows.Does.numbers {stamp : Stamp} {r r' : Rows} {op : Operation} {answer : Answer}
    (does : Rows.Does stamp r op answer r') (ne : op.method ≠ .createAccount) :
    r'.accounts.map (·.number) = r.accounts.map (·.number) := by
  cases does with
  | opened | openedEmpty => exact absurd rfl ne
  | accounts | transactions | payees | saved | cleared => rfl
  | moved =>
    rw [List.map_map]
    exact List.map_congr_left fun row _ => AccountRow.moved_number _ _ _ _ row

theorem Rows.Does.known {stamp : Stamp} {r r' : Rows} {op : Operation} {answer : Answer}
    (does : Rows.Does stamp r op answer r') {row : AccountRow} (mem : row ∈ r'.accounts) :
    row.owner = op.owner ∧ row.id = stamp.first ∨
      ∃ old ∈ r.accounts, old.owner = row.owner ∧ old.id = row.id := by
  cases does with
  | accounts | transactions | payees | saved | cleared => exact .inr ⟨row, mem, rfl, rfl⟩
  | opened | openedEmpty =>
    rcases List.mem_append.1 mem with mem | mem
    · exact .inr ⟨row, mem, rfl, rfl⟩
    · rw [List.mem_singleton.1 mem]
      exact .inl ⟨rfl, rfl⟩
  | moved =>
    obtain ⟨old, hold, rfl⟩ := List.mem_map.1 mem
    exact .inr ⟨old, hold, (old.moved_owner ..).symm, (old.moved_id ..).symm⟩

def Database.Does (stamp : Stamp) (db : Database) (op : Operation) (answer : Answer)
    (db' : Database) : Prop :=
  Rows.Does stamp db.rows op answer db'.rows ∧ db.SameSchema db'

namespace Durable
variable {d d' : Durable} {db db' : Database} {s s' : Supply} {stamp : Stamp} {answer : Answer}
  {owner : Uuid} {label currency : Option String} {opening : Decimal} {attempts left : Nat}

theorem insertOpened_ok {number : String}
    (h : insertOpened stamp (.opened stamp number owner label currency opening) db =
      .ok (some db')) :
    Database.Does stamp db (.createAccount owner label currency opening)
      (.account (.opened stamp number owner label currency opening)) db' := by
  unfold insertOpened at h
  cases inserted : db.insertAccount (.opened stamp number owner label currency opening) with
  | error fault =>
    simp only [inserted] at h
    split_ifs at h
    · cases h
    · cases h
  | ok db₁ =>
    obtain ⟨present, free, rows⟩ := Database.insertAccount_ok inserted
    have schema : db.SameSchema db₁ := rows ▸ Database.sameSchema_accounts present _
    simp only [inserted] at h
    split at h
    · cases h
    · rename_i credit
      cases credited : (db₁.insertTransaction
          ((Account.opened stamp number owner label currency opening).openingCredit stamp)).orFail
        with
      | error failure =>
        rw [credited] at h
        cases h
      | ok db₂ =>
        rw [credited] at h
        cases h
        obtain ⟨present, rfl⟩ := Database.insertTransaction_ok (orFail_eq_ok.1 credited)
        refine ⟨?_, schema.trans (Database.sameSchema_transactions present _)⟩
        rw [rows]
        exact .opened free credit
    · rename_i nought
      cases h
      refine ⟨?_, schema⟩
      rw [rows]
      exact .openedEmpty free nought

theorem createAccount_does
    (h : (createAccount owner label currency opening attempts left d s).result = .ok answer) :
    let o := createAccount owner label currency opening attempts left d s
    ∃ s₀ : Supply, s.Later s₀ ∧ s₀.stamp.2.Later o.state.2 ∧
      Database.Does s₀.stamp.1 d.database (.createAccount owner label currency opening) answer
        o.state.1.database := by
  induction left generalizing d s with
  | zero => cases h
  | succ left ih =>
    have same := d.openSession_database
    rcases opened : d.openSession with ⟨_ | closed, d'⟩ <;> rw [opened] at same <;>
      simp only [createAccount, opened] at h ⊢
    · split at h <;> rename_i done
      · cases h
      · cases h
        simp only
        rw [← same]
        exact ⟨s, .refl s, s.stamp.2.later_drawNumber, insertOpened_ok done⟩
      · simp only [Outcome.after] at h ⊢
        obtain ⟨s₀, later, later', does⟩ := ih h
        rw [← same]
        have taken := s.later_stamp.trans s.stamp.2.later_drawNumber
        exact ⟨s₀, taken.trans later, later', does⟩
    · cases h

theorem perform_does {body : Stamp → Database → Except Failure (Answer × Database)}
    {op : Operation}
    (each : ∀ {db db'}, body s.stamp.1 db = .ok (answer, db') →
      Database.Does s.stamp.1 db op answer db')
    (h : (d.perform body s).result = .ok answer) :
    ∃ s₀ : Supply, s.Later s₀ ∧ s₀.stamp.2.Later (d.perform body s).state.2 ∧
      Database.Does s₀.stamp.1 d.database op answer (d.perform body s).state.1.database :=
  ⟨s, .refl s, .refl _, each (work_ok h)⟩

theorem listAccounts_does (h : listAccounts owner db = .ok (answer, db')) :
    Database.Does stamp db (.listAccounts owner) answer db' := by
  obtain ⟨rows, hrows, h⟩ := Except.bind_eq_ok.1 h
  cases h
  rw [Database.selectAccounts_ok (orFail_eq_ok.1 hrows)]
  exact ⟨.accounts owner, .refl db⟩

theorem listTransactions_does {account : Option Uuid}
    (h : listTransactions owner account db = .ok (answer, db')) :
    Database.Does stamp db (.listTransactions owner account) answer db' := by
  cases account with
  | none =>
    obtain ⟨rows, hrows, h⟩ := Except.bind_eq_ok.1 h
    cases h
    rw [Database.selectTransactions_ok (orFail_eq_ok.1 hrows)]
    exact ⟨.transactions (by simp), .refl db⟩
  | some id =>
    obtain ⟨found, hfound, h⟩ := Except.bind_eq_ok.1 h
    split_ifs at h with missing
    · cases h
    · obtain ⟨rows, hrows, h⟩ := Except.bind_eq_ok.1 h
      cases h
      rw [Database.selectTransactions_ok (orFail_eq_ok.1 hrows)]
      refine ⟨.transactions fun id' same => ?_, .refl db⟩
      cases same
      rw [Database.findAccount_ok (orFail_eq_ok.1 hfound), ← Option.ne_none_iff_isSome]
      simpa using missing

section
variable {id : Uuid} {amount : Decimal} {currency description : Option String} {kind : Kind}

theorem listTransactions_known (reachable : db.reachable) {account : Option Uuid}
    (known : ∀ id ∈ account, (db.rows.accounts.find? (Database.isKeptUnder owner id)).isSome) :
    listTransactions owner account db.provisioned = .ok
      (.transactions ((db.rows.transactionsOf owner account).map (·.toTransaction)),
        db.provisioned) := by
  have select := Database.selectTransactions_provisioned reachable owner account
  cases account with
  | none => exact Except.bind_eq_ok.2 ⟨_, orFail_eq_ok.2 select, rfl⟩
  | some id =>
    obtain ⟨row, found⟩ := Option.isSome_iff_exists.1 (known id rfl)
    have find := Database.findAccount_provisioned reachable owner id
    rw [found] at find
    refine Except.bind_eq_ok.2 ⟨some row, orFail_eq_ok.2 find, ?_⟩
    exact Except.bind_eq_ok.2 ⟨_, orFail_eq_ok.2 select, rfl⟩

theorem listTransactions_unknown (reachable : db.reachable)
    (none : db.rows.accounts.find? (Database.isKeptUnder owner id) = none) :
    listTransactions owner (some id) db.provisioned = refuse (.accountNotFound id) := by
  have find := Database.findAccount_provisioned reachable owner id
  rw [none] at find
  simp only [listTransactions, find]
  rfl

theorem apply_unknown (reachable : db.reachable)
    (none : db.rows.accounts.find? (Database.isKeptUnder owner id) = none) :
    apply stamp false owner id amount currency kind description db.provisioned =
      refuse (.accountNotFound id) := by
  have find := Database.findAccount_provisioned reachable owner id
  rw [none] at find
  simp only [apply, find]
  rfl

theorem apply_refused (reachable : db.reachable) {row : AccountRow} {failure : Failure}
    (found : db.rows.accounts.find? (Database.isKeptUnder owner id) = some row)
    (refused : signedDelta row.id row.balance.toCents amount kind = .error failure) :
    apply stamp false owner id amount currency kind description db.provisioned =
      .error failure := by
  have find := Database.findAccount_provisioned reachable owner id
  have step : Statement.orFail (.ok (some row)) = .ok (some row) := rfl
  rw [found] at find
  simp only [apply, find, step, refused, Except.ok_bind]
  rfl

end

theorem apply_does {vanished : Bool} {id : Uuid} {amount : Decimal} {kind : Kind}
    {description : Option String}
    (h : apply stamp vanished owner id amount currency kind description db = .ok (answer, db')) :
    Database.Does stamp db (.applyTransaction owner id amount currency kind description) answer
      db' := by
  obtain ⟨-, row, delta, column, db₁, hfound, change, hcolumn, hupdate, hinsert, rfl⟩ :=
    apply_eq_ok.1 h
  obtain ⟨present, rows⟩ := Database.updateBalance_ok hupdate
  obtain ⟨present', rfl⟩ := Database.insertTransaction_ok hinsert
  have schema : db.SameSchema db₁ := rows ▸ Database.sameSchema_accounts present _
  refine ⟨?_, schema.trans (Database.sameSchema_transactions present' _)⟩
  rw [rows]
  exact .moved (Database.findAccount_ok hfound) change (moneyColumn_eq_ok.1 hcolumn)

theorem listPayees_does (h : listPayees owner db = .ok (answer, db')) :
    Database.Does stamp db (.listPayees owner) answer db' := by
  obtain ⟨rows, hrows, h⟩ := Except.bind_eq_ok.1 h
  cases h
  rw [Database.selectPayees_ok (orFail_eq_ok.1 hrows)]
  exact ⟨.payees owner, .refl db⟩

theorem createPayee_does {name number : Option String}
    (h : createPayee stamp owner name number db = .ok (answer, db')) :
    Database.Does stamp db (.createPayee owner name number) answer db' := by
  simp only [createPayee] at h
  split at h
  · rename_i db₁ inserted
    cases h
    obtain ⟨present, fresh, rfl⟩ := Database.insertPayee_ok inserted
    exact ⟨.saved fresh, Database.sameSchema_payees present _⟩
  · split_ifs at h <;> cases h

theorem deletePayees_does (h : deletePayees owner db = .ok (answer, db')) :
    Database.Does stamp db (.deletePayees owner) answer db' := by
  obtain ⟨⟨count, db₁⟩, hcount, h⟩ := Except.bind_eq_ok.1 h
  cases h
  obtain ⟨present, rfl, rfl⟩ := Database.deletePayees_ok (orFail_eq_ok.1 hcount)
  exact ⟨.cleared owner, Database.sameSchema_payees present _⟩

theorem run_does {vanished : Bool} {op : Operation}
    (h : (d.run attempts vanished op s).result = .ok answer) :
    let o := d.run attempts vanished op s
    ∃ s₀ : Supply, s.Later s₀ ∧ s₀.stamp.2.Later o.state.2 ∧
      Database.Does s₀.stamp.1 d.database op answer o.state.1.database := by
  cases op with
  | createAccount => exact createAccount_does h
  | listAccounts => exact perform_does listAccounts_does h
  | listTransactions => exact perform_does listTransactions_does h
  | applyTransaction => exact perform_does apply_does h
  | listPayees => exact perform_does listPayees_does h
  | createPayee => exact perform_does createPayee_does h
  | deletePayees => exact perform_does deletePayees_does h

theorem ensureTables_rows (d : Durable) :
    d.ensureTables.state.database.rows = d.database.rows := by
  unfold ensureTables
  split
  · rename_i database provisioned
    rw [(Database.ensureTables_eq_ok.1 provisioned).2, Database.rows_provisioned]
  · rfl

theorem ensureTables_indexed (h : d.database.Indexed) : d.ensureTables.state.database.Indexed := by
  unfold ensureTables
  split
  · rename_i database provisioned
    rw [(Database.ensureTables_eq_ok.1 provisioned).2]
    exact Database.indexed_provisioned _
  · exact h

theorem run_schema {vanished : Bool} {op : Operation} :
    d.database.SameSchema (d.run attempts vanished op s).state.1.database := by
  cases h : (d.run attempts vanished op s).result with
  | error failure =>
    rw [run_error h]
    exact .refl _
  | ok answer =>
    obtain ⟨s₀, -, -, -, schema⟩ := run_does h
    exact schema

theorem run_reachable {vanished : Bool} {op : Operation} :
    (d.run attempts vanished op s).state.1.database.reachable = d.database.reachable :=
  run_schema.reachable

end Durable

end Passbook
