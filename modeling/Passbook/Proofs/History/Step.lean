import Passbook.Proofs.Owner.Accounts

/-!
# What one operation adds to accounts and transactions

Both stores keep accounts and transactions, each in a layout of its own; what is said here of such a
layout holds for both.
-/

namespace Passbook

structure Particulars where
  id : Uuid
  owner : Uuid
  number : String
  label : Option String
  currency : Option String
  createdAt : Instant
deriving DecidableEq

def Account.particulars (a : Account) : Particulars :=
  ⟨a.id, a.owner, a.number, a.label, a.currency, a.createdAt⟩

def AccountRow.particulars (a : AccountRow) : Particulars :=
  ⟨a.id, a.owner, a.number, some a.label, some a.currency, a.createdAt⟩

@[simp] theorem AccountRow.moved_particulars (owner id : Uuid) (delta : Binary64) (now : Instant)
    (row : AccountRow) : (row.moved owner id delta now).particulars = row.particulars := by
  unfold moved
  split <;> rfl

theorem Book.map_particulars_replaceAccount {account : Account} {accounts : List Account}
    {balance : Decimal} {now : Instant} (mem : account ∈ accounts)
    (distinct : (accounts.map (·.id)).Nodup) :
    (replaceAccount { account with balance, updatedAt := now } accounts).map Account.particulars =
      accounts.map Account.particulars := by
  induction accounts with
  | nil => rfl
  | cons other rest ih =>
    rw [List.map_cons, List.nodup_cons] at distinct
    simp only [replaceAccount]
    split_ifs with same
    · have eq : account = other := by
        rcases List.mem_cons.1 mem with eq | mem
        · exact eq
        · exact absurd (List.mem_map.2 ⟨account, mem, same.symm⟩) distinct.1
      rw [eq]
      rfl
    · have inside : account ∈ rest :=
        (List.mem_cons.1 mem).resolve_left fun eq => same (congrArg Account.id eq.symm)
      rw [List.map_cons, List.map_cons, ih inside distinct.2]

def Call.Moves : Call → Prop
  | .applyTransaction .. | .makePayment .. => True
  | _ => False

theorem Call.moves_iff {terms : Terms} {call : Call} {op : Operation}
    (valid : call.operation terms = .ok op) : call.Moves ↔ op.method = .applyTransaction := by
  cases call with
  | createAccount =>
    obtain ⟨_, -, valid⟩ := Except.bind_eq_ok.1 valid
    cases valid
    exact ⟨False.elim, fun asked => by cases asked⟩
  | applyTransaction =>
    obtain ⟨_, -, valid⟩ := Except.bind_eq_ok.1 valid
    obtain ⟨_, -, valid⟩ := Except.bind_eq_ok.1 valid
    cases valid
    exact ⟨fun _ => rfl, fun _ => trivial⟩
  | makePayment =>
    obtain ⟨_, -, valid⟩ := Except.bind_eq_ok.1 valid
    cases valid
    exact ⟨fun _ => rfl, fun _ => trivial⟩
  | createPayee =>
    simp only [operation] at valid
    split_ifs at valid <;> cases valid
    exact ⟨False.elim, fun asked => by cases asked⟩
  | listAccounts | listTransactions | listPayees | deletePayees =>
    cases valid
    exact ⟨False.elim, fun asked => by cases asked⟩

/-! ## Layouts -/

/-- How a store keeps accounts, as `α`, and transactions, as `τ`. -/
structure Layout (α τ : Type) where
  particulars : α → Particulars
  updatedAt : α → Instant
  record : Transaction → τ
  account : τ → Uuid
  createdAt : τ → Instant
  account_record : ∀ t, account (record t) = t.account
  createdAt_record : ∀ t, createdAt (record t) = t.createdAt

namespace Layout

def memory : Layout Account Transaction :=
  ⟨Account.particulars, (·.updatedAt), id, (·.account), (·.createdAt), fun _ => rfl, fun _ => rfl⟩

def database : Layout AccountRow TransactionRow :=
  ⟨AccountRow.particulars, (·.updatedAt), Transaction.toRow, (·.account), (·.createdAt),
    fun _ => rfl, fun _ => rfl⟩

variable {α τ : Type} (f : Layout α τ)

def id (a : α) : Uuid := (f.particulars a).id

/-- An account was last changed at the moment of its newest transaction; if it has none, when it
was opened. -/
def LastChanged (ts : List τ) (a : α) : Prop :=
  match (ts.filter (f.account · == f.id a)).getLast? with
  | some newest => f.updatedAt a = f.createdAt newest
  | none => f.updatedAt a = (f.particulars a).createdAt

variable {f} {as as' : List α} {ts ts' : List τ} {a : α}

theorem LastChanged.append (h : f.LastChanged ts a) {new : List τ}
    (strange : ∀ t ∈ new, f.account t ≠ f.id a) : f.LastChanged (ts ++ new) a := by
  have none : new.filter (f.account · == f.id a) = [] := by simpa using strange
  rwa [LastChanged, List.filter_append, none, List.append_nil]

theorem lastChanged_concat {t : Transaction} (on : t.account = f.id a)
    (now : f.updatedAt a = t.createdAt) : f.LastChanged (ts ++ [f.record t]) a := by
  have mine : [f.record t].filter (f.account · == f.id a) = [f.record t] := by
    simp [f.account_record, on]
  rw [LastChanged, List.filter_append, mine, List.getLast?_append_of_ne_nil _ (by simp)]
  exact now.trans (f.createdAt_record t).symm

/-! ## Steps -/

inductive Step (f : Layout α τ) (stamp : Stamp) (op : Operation) (result : Except Failure Answer)
    (as : List α) (ts : List τ) : List α → List τ → Prop
  | kept : Step f stamp op result as ts as ts
  | opened (a : α) (new : List Transaction) (few : new.length ≤ 1) (fresh : f.id a = stamp.first)
      (own : (f.particulars a).owner = op.owner)
      (opening : (f.particulars a).createdAt = stamp.now ∧ f.updatedAt a = stamp.now)
      (on : ∀ t ∈ new, t.account = stamp.first ∧ t.createdAt = stamp.now) :
    Step f stamp op result as ts (as ++ [a]) (ts ++ new.map f.record)
  | moved (t : Transaction) {as' : List α} (asked : op.method = .applyTransaction)
      (names : op.account? = some t.account) (answered : result = .ok (.transaction t))
      (present : t.createdAt = stamp.now)
      (stays : as'.map f.particulars = as.map f.particulars)
      (others : ∀ a ∈ as', f.id a ≠ t.account → a ∈ as)
      (own : ∀ a ∈ as', f.id a = t.account →
        (f.particulars a).owner = op.owner ∧ f.updatedAt a = stamp.now) :
    Step f stamp op result as ts as' (ts ++ [f.record t])

variable {s s₀ s' : Supply} {op : Operation} {result : Except Failure Answer}

theorem Step.lastChanged {stamp : Stamp} (step : f.Step stamp op result as ts as' ts')
    (h : ∀ a ∈ as, f.LastChanged ts a) (fresh : ∀ a ∈ as, f.id a ≠ stamp.first)
    (strange : ∀ t ∈ ts, f.account t ≠ stamp.first) : ∀ a ∈ as', f.LastChanged ts' a := by
  cases step with
  | kept => exact h
  | opened a new few first own opening on =>
    intro other mem
    rcases List.mem_append.1 mem with old | last
    · refine (h other old).append (List.forall_mem_map.2 fun t mem' => ?_)
      rw [f.account_record, (on t mem').1]
      exact (fresh other old).symm
    · obtain rfl := List.mem_singleton.1 last
      cases new with
      | nil =>
        have none : ts.filter (f.account · == f.id other) = [] := by simpa [first] using strange
        rw [LastChanged, List.map_nil, List.append_nil, none]
        exact opening.2.trans opening.1.symm
      | cons t rest =>
        obtain rfl : rest = [] := by simpa using few
        obtain ⟨account, moment⟩ := on t List.mem_cons_self
        exact lastChanged_concat (account.trans first.symm) (opening.2.trans moment.symm)
  | moved t asked names answered present stays others own =>
    intro a mem
    by_cases same : f.id a = t.account
    · exact lastChanged_concat same.symm ((own a mem same).2.trans present.symm)
    · refine (h a (others a mem same)).append fun other hother => ?_
      rw [List.mem_singleton.1 hother, f.account_record]
      exact Ne.symm same

theorem Step.ordered (step : f.Step s₀.stamp.1 op result as ts as' ts')
    (order : InOrder (fun t => (f.createdAt t).micros) s.now ts) (rising : s.clock.Rising)
    (before : s.Later s₀) (after : s₀.stamp.2.Later s') :
    InOrder (fun t => (f.createdAt t).micros) s'.now ts' := by
  have since : s.now ≤ s₀.stamp.1.now.micros := before.now rising
  have until' : s₀.stamp.1.now.micros < s'.now := after.stamped (before.rising rising)
  have le := since.trans until'.le
  cases step with
  | kept => exact order.later le
  | opened a new few first own opening on =>
    refine order.extend le (by simpa using few) (List.forall_mem_map.2 fun t mem => ?_)
    rw [f.createdAt_record, (on t mem).2]
    exact ⟨since, until'⟩
  | moved t asked names answered present stays others own =>
    refine order.append ?_ ?_ <;> rw [f.createdAt_record, present]
    · exact since
    · exact until'

theorem Step.owned {stamp : Stamp} (step : f.Step stamp op result as ts as' ts')
    (own : ∀ a ∈ as, (f.particulars a).owner = op.owner) :
    ∀ a ∈ as', (f.particulars a).owner = op.owner := by
  cases step with
  | kept => exact own
  | opened new opened few first mine opening on =>
    intro a mem
    rcases List.mem_append.1 mem with old | last
    · exact own a old
    · rw [List.mem_singleton.1 last, mine]
  | moved t asked names answered present stays others changed =>
    intro a mem
    by_cases on : f.id a = t.account
    · exact (changed a mem on).1
    · exact own a (others a mem on)

/-! ## Calls -/

/-- What a call may make of the accounts and transactions of a store. Transactions stay as they
are, and at most one is added. Accounts stay with their particulars. An account that has changed
nevertheless is the one that its owner's call names, and the call has recorded one transaction on
it. -/
structure Appends (f : Layout α τ) (call : Call) (result : Except Failure Answer) (as : List α)
    (ts : List τ) (as' : List α) (ts' : List τ) : Prop where
  transactions : ∃ new, new.length ≤ 1 ∧ ts' = ts ++ new
  accounts : ∃ opened, as'.map f.particulars = as.map f.particulars ++ opened
  changed : ∀ a ∈ as, ∀ a' ∈ as', f.id a' = f.id a → a' ≠ a →
    call.Moves ∧ call.owner = (f.particulars a).owner ∧ call.account? = some (f.id a) ∧
      ∃ t, result = .ok (.transaction t) ∧ t.account = f.id a ∧ ts' = ts ++ [f.record t]

theorem Appends.refl (call : Call) (result : Except Failure Answer) (ts : List τ)
    (distinct : (as.map f.id).Nodup) : f.Appends call result as ts as ts where
  transactions := ⟨[], by simp⟩
  accounts := ⟨[], by simp⟩
  changed := fun _ mem _ mem' same ne =>
    absurd (List.inj_on_of_nodup_map distinct mem' mem same) ne

theorem Step.appends {terms : Terms} {call : Call} {stamp : Stamp}
    (step : f.Step stamp op result as ts as' ts') (valid : call.operation terms = .ok op)
    (distinct : (as.map f.id).Nodup) (fresh : ∀ a ∈ as, f.id a ≠ stamp.first) :
    f.Appends call result as ts as' ts' := by
  have one {a b : α} (ha : a ∈ as) (hb : b ∈ as) (same : f.id a = f.id b) : a = b :=
    List.inj_on_of_nodup_map distinct ha hb same
  cases step with
  | kept => exact .refl call result ts distinct
  | opened new opened few first own opening on =>
    refine ⟨⟨_, by simpa using few, rfl⟩, ⟨_, List.map_append⟩, fun a mem a' mem' same ne => ?_⟩
    rcases List.mem_append.1 mem' with old | last
    · exact absurd (one old mem same) ne
    · rw [List.mem_singleton.1 last, first] at same
      exact absurd same.symm (fresh a mem)
  | moved t asked names answered present stays others own =>
    refine ⟨⟨[_], le_rfl, rfl⟩, ⟨[], by rw [stays, List.append_nil]⟩,
      fun a mem a' mem' same ne => ?_⟩
    by_cases on : f.id a' = t.account
    · have kept : f.particulars a' ∈ as.map f.particulars := stays ▸ List.mem_map_of_mem mem'
      obtain ⟨old, hold, eq⟩ := List.mem_map.1 kept
      obtain rfl := one hold mem ((congrArg Particulars.id eq).trans same)
      rw [← same, on, eq, (own a' mem' on).1, ← Call.operation_owner valid,
        ← Call.operation_account valid]
      exact ⟨(Call.moves_iff valid).2 asked, rfl, names, t, answered, rfl, rfl⟩
    · exact absurd (one (others a' mem' on) mem same) ne

end Layout

/-! ## The two stores -/

variable {stamp : Stamp} {op : Operation} {result : Except Failure Answer}

def Shelf.Of (owner : Uuid) (shelf : Shelf) : Prop := ∀ a ∈ shelf.accounts, a.owner = owner

namespace Book.Does
variable {terms : BookTerms} {b b' : Book}

theorem step (does : Does terms stamp b op result b')
    (distinct : ((b.shelf op.owner).accounts.map (·.id)).Nodup)
    (of : (b.shelf op.owner).Of op.owner) :
    Layout.memory.Step stamp op result (b.shelf op.owner).accounts (b.shelf op.owner).transactions
      (b'.shelf op.owner).accounts (b'.shelf op.owner).transactions := by
  cases does with
  | noNumber | accounts | transactions | unmoved | payees | duplicate => exact .kept
  | opened free credit =>
    simp only [Operation.owner, shelf_addTransaction, shelf_addAccount, Account.opened_owner,
      Account.openingCredit_owner, if_true]
    exact .opened _ [_] (by simp) rfl rfl ⟨rfl, rfl⟩ (by simp)
  | openedEmpty | provisioned =>
    simp only [Operation.owner, shelf_addAccount, Account.opened_owner, if_true]
    simpa using Layout.Step.opened _ [] (by simp) rfl rfl ⟨rfl, rfl⟩ (by simp)
  | @moved owner id amount currency kind description account delta balance found change sum =>
    obtain ⟨mem, rfl⟩ := find?_account found
    simp only [Operation.owner, shelf_setShelf, if_true] at distinct of ⊢
    refine .moved _ rfl rfl rfl rfl (map_particulars_replaceAccount mem distinct) ?_ ?_ <;>
      intro other hother same <;> rcases mem_replaceAccount distinct hother with rfl | ⟨old, ne⟩
    · exact absurd rfl same
    · exact old
    · exact ⟨of account mem, rfl⟩
    · exact absurd same ne
  | demoPayee | saved | cleared =>
    simpa [Operation.owner, Book.demoPayee] using Layout.Step.kept

theorem recorded {answer : Answer} (does : Does terms stamp b op (.ok answer) b')
    (asked : op.method = .applyTransaction) :
    ∃ t, answer = .transaction t ∧ op.account? = some t.account ∧
      (b'.shelf op.owner).transactions = (b.shelf op.owner).transactions ++ [t] := by
  generalize eq : Except.ok answer = result at does
  cases does with
  | moved =>
    cases eq
    exact ⟨_, rfl, rfl, by simp [Operation.owner, Book.moved]⟩
  | noNumber | unmoved => cases eq
  | opened | openedEmpty | provisioned | accounts | transactions | demoPayee | payees | duplicate
  | saved | cleared => cases asked

end Book.Does

namespace Rows.Does
variable {r r' : Rows} {answer : Answer}

theorem step (does : Does stamp r op answer r') (distinct : (r.accounts.map (·.id)).Nodup) :
    Layout.database.Step stamp op (.ok answer) r.accounts r.transactions r'.accounts
      r'.transactions := by
  cases does with
  | accounts | transactions | payees | saved | cleared => exact .kept
  | opened free credit =>
    exact .opened _ [_] (by simp) rfl rfl ⟨rfl, rfl⟩ (by simp [Account.openingCredit])
  | openedEmpty free nought =>
    simpa using Layout.Step.opened _ [] (by simp) rfl rfl ⟨rfl, rfl⟩ (by simp)
  | @moved owner id amount currency kind description row delta column found change binary =>
    have mem := List.mem_of_find?_eq_some found
    obtain ⟨rfl, rfl⟩ := isKeptUnder_iff.1 (List.find?_some found)
    refine .moved (Durable.transactionOn stamp row row.owner row.id amount currency kind
      description) rfl rfl rfl rfl ?_ ?_ ?_
    · rw [List.map_map]
      exact List.map_congr_left fun row _ => AccountRow.moved_particulars _ _ _ _ row
    · intro other hother ne
      obtain ⟨old, hold, rfl⟩ := List.mem_map.1 hother
      have strange : ¬Database.isKeptUnder row.owner row.id old := fun kept =>
        ne ((old.moved_id ..).trans (isKeptUnder_iff.1 kept).1)
      rwa [AccountRow.moved, if_neg strange]
    · intro other hother same
      obtain ⟨old, hold, rfl⟩ := List.mem_map.1 hother
      obtain rfl := List.inj_on_of_nodup_map distinct hold mem ((old.moved_id ..).symm.trans same)
      rw [AccountRow.moved, if_pos (isKeptUnder_iff.2 ⟨rfl, rfl⟩)]
      exact ⟨rfl, rfl⟩

theorem recorded (does : Does stamp r op answer r') (asked : op.method = .applyTransaction) :
    ∃ t, answer = .transaction t ∧ op.account? = some t.account ∧
      r'.transactions = r.transactions ++ [t.toRow] := by
  cases does with
  | moved => exact ⟨_, rfl, rfl, rfl⟩
  | opened | openedEmpty | accounts | transactions | payees | saved | cleared => cases asked

end Rows.Does

end Passbook
