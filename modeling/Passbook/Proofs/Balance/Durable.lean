import Passbook.Proofs.Balance.Tally
import Passbook.Proofs.Ledger.Total
import Passbook.Proofs.Service.Failover
import Passbook.Proofs.Service.Healthy

/-!
# Balances in the database

The database adds up balances in binary arithmetic, while every amount is read back for itself. Main
statement: `durable_balance`, which says exactly when the balance of an account is listed as the sum
of its listed transactions; `durable_balance_drifts` is a run after which it is not.

- `history`: the movements on an account, as the answers to calls report them
- `Rows.Tallied`: the invariant of the rows under a history
- `Rows.does_tallied`, `Tallied.effect`: operations and calls keep it
-/

namespace Passbook

/-! ## Histories -/

def Decimal.cents : Decimal → Int
  | .finite n c _ => signed n c
  | _ => 0

def Transaction.cents (t : Transaction) : Int :=
  if t.kind = .debit then -t.amount.cents else t.amount.cents

def Answer.movement? (id : Uuid) : Answer → Option Int
  | .account a => if a.id = id ∧ a.balance.cents ≠ 0 then some a.balance.cents else none
  | .transaction t => if t.account = id then some t.cents else none
  | _ => none

theorem Answer.movement?_account_ne {id : Uuid} {a : Account} (ne : id ≠ a.id) :
    (Answer.account a).movement? id = none := by
  simp [movement?, ne.symm]

theorem Answer.movement?_transaction_ne {id : Uuid} {t : Transaction} (ne : id ≠ t.account) :
    (Answer.transaction t).movement? id = none := by
  simp [movement?, ne.symm]

def history (id : Uuid) (answers : List (Except Failure Answer)) : List Int :=
  answers.filterMap fun result => result.toOption.bind (·.movement? id)

section
variable {id : Uuid} {answers : List (Except Failure Answer)} {answer : Answer}

theorem history_ok (id : Uuid) (answers : List (Except Failure Answer)) (answer : Answer) :
    history id (answers ++ [.ok answer]) = history id answers ++ (answer.movement? id).toList := by
  cases h : answer.movement? id <;> simp [history, Except.toOption, h]

theorem history_error (id : Uuid) (answers : List (Except Failure Answer)) (failure : Failure) :
    history id (answers ++ [.error failure]) = history id answers := by
  simp [history, Except.toOption]

theorem history_none (none : answer.movement? id = none) :
    history id (answers ++ [.ok answer]) = history id answers := by
  simp [history_ok, none]

theorem history_some {k : Int} (some : answer.movement? id = some k) :
    history id (answers ++ [.ok answer]) = history id answers ++ [k] := by
  simp [history_ok, some]

theorem forall_history_append {P : Int → Prop} (old : ∀ k ∈ history id answers, P k)
    (new : ∀ k, answer.movement? id = some k → P k) :
    ∀ k ∈ history id (answers ++ [.ok answer]), P k := by
  intro k mem
  rw [history_ok, List.mem_append, Option.mem_toList] at mem
  exact mem.elim (old k) (new k)

theorem history_append_nil (old : history id answers = [])
    (new : ∀ k, answer.movement? id ≠ some k) : history id (answers ++ [.ok answer]) = [] := by
  rw [history_none (Option.eq_none_iff_forall_ne_some.2 new), old]

end

def TransactionRow.entry (row : TransactionRow) : String × Binary64 := (row.kind, row.amount)

def entryOf (k : Int) : String × Binary64 :=
  (if k < 0 then "debit" else "credit", Binary64.ofCents k.natAbs)

structure Rows.Tallied (r : Rows) (s : Supply) (answers : List (Except Failure Answer)) : Prop where
  issued : ∀ row ∈ r.accounts, s.Issued row.id
  distinct : (r.accounts.map (·.id)).Nodup
  known : ∀ row ∈ r.transactions, ∃ a ∈ r.accounts, a.id = row.account ∧ a.owner = row.owner
  balance : ∀ a ∈ r.accounts, a.balance = Binary64.tally (history a.id answers)
  entries : ∀ a ∈ r.accounts, (r.transactions.filter (·.account = a.id)).map (·.entry) =
    (history a.id answers).map entryOf

/-! ## Amounts -/

section
open Decimal
variable {x : Decimal}

theorem Decimal.IsAmount.cents_isMovement (h : x.IsAmount) : Binary64.IsMovement x.cents := by
  obtain ⟨cents, pos, bound, rfl⟩ := h
  constructor
  · simp [ofCents, Decimal.cents, signed, pos.ne']
  · simpa [ofCents, Decimal.cents, signed]

theorem Decimal.IsAmount.settled_eq (h : x.IsAmount) : x.settled = Binary64.ofCents x.cents := by
  have movement := h.cents_isMovement
  obtain ⟨m, e, binary, nonzero, -⟩ := movement.ofCents_eq
  obtain ⟨cents, pos, bound, rfl⟩ := h
  have column : Binary64.ofDecimal? (ofCents cents) =
      some (Binary64.ofCents (ofCents cents).cents) := by
    have above : decide ((cents : Int) < 0) = false := by simp
    rw [ofCents, Binary64.ofDecimal?_cents false (lt_centsBound bound)]
    simp [Decimal.cents, signed, Binary64.ofCents, above]
  rw [Decimal.settled, column, Option.getD_some, binary, Binary64.settled_finite _ nonzero]

theorem Decimal.IsCents.settled_nought (h : x.IsCents 0) : x.settled = Binary64.nought false := by
  obtain ⟨n, c, e, rfl, zero, -⟩ := h
  have : c = 0 := by
    unfold signed at zero
    split_ifs at zero <;> omega
  subst this
  rfl

theorem Decimal.IsCents.cents_eq {k : Int} (h : x.IsCents k) : x.cents = k := by
  obtain ⟨n, c, e, rfl, rfl, -⟩ := h
  rfl

theorem Decimal.IsAmount.cents_pos (h : x.IsAmount) : 0 < x.cents := by
  obtain ⟨cents, pos, -, rfl⟩ := h
  simpa [ofCents, Decimal.cents, signed] using pos

end

section
variable {id : Uuid} {k : Int}

theorem Transaction.Recorded.cents_isMovement {t : Transaction} (h : t.Recorded) :
    Binary64.IsMovement t.cents := by
  have movement := h.1.cents_isMovement
  unfold Transaction.cents
  split_ifs
  · exact ⟨neg_ne_zero.2 movement.1, by rw [Int.natAbs_neg]; exact movement.2⟩
  · exact movement

theorem Transaction.Recorded.entry_toRow {t : Transaction} (h : t.Recorded) :
    t.toRow.entry = entryOf t.cents := by
  obtain ⟨amount, kind⟩ := h
  have pos := amount.cents_pos
  have size : ((t.amount.cents.natAbs : Nat) : Int) = t.amount.cents := by omega
  rcases kind with kind | kind
  · simp [TransactionRow.entry, Transaction.toRow, entryOf, Transaction.cents, kind, Kind.text,
      amount.settled_eq, size, pos.le]
  · simp [TransactionRow.entry, Transaction.toRow, entryOf, Transaction.cents, kind, Kind.text,
      amount.settled_eq, size, pos]

theorem movement_account {a : Account} (opening : a.balance.IsOpening)
    (h : (Answer.account a).movement? id = some k) : id = a.id ∧ Binary64.IsMovement k := by
  simp only [Answer.movement?] at h
  split_ifs at h with moves
  cases h
  refine ⟨moves.1.symm, ?_⟩
  rcases opening with amount | nought
  · exact amount.cents_isMovement
  · exact absurd nought.cents_eq moves.2

theorem movement_transaction {t : Transaction} (recorded : t.Recorded)
    (h : (Answer.transaction t).movement? id = some k) :
    id = t.account ∧ Binary64.IsMovement k := by
  simp only [Answer.movement?] at h
  split_ifs at h with same
  cases h
  exact ⟨same.symm, recorded.cents_isMovement⟩

end

/-! ## Sums of stored transactions -/

def entryCents (entry : String × Binary64) : Int :=
  if entry.1 = "debit" then -entry.2.cents else entry.2.cents

theorem entryCents_entryOf (k : Int) : entryCents (entryOf k) = (Binary64.ofCents k).cents := by
  unfold entryCents entryOf
  by_cases below : k < 0
  · have size : ((k.natAbs : Nat) : Int) = -k := by omega
    rw [if_pos below, if_pos rfl, size, ← Binary64.cents_ofCents_neg (neg_pos.2 below), neg_neg]
  · have size : ((k.natAbs : Nat) : Int) = k := by omega
    rw [if_neg below, if_neg (by simp), size]

theorem finite_of_entry {row : TransactionRow} {k : Int} (movement : Binary64.IsMovement k)
    (h : row.entry = entryOf k) :
    row.amount.isFinite ∧ (row.kind = "credit" ∨ row.kind = "debit") := by
  simp only [TransactionRow.entry, entryOf, Prod.mk.injEq] at h
  obtain ⟨kind, amount⟩ := h
  constructor
  · have size : Binary64.IsMovement k.natAbs :=
      ⟨by exact_mod_cast Int.natAbs_ne_zero.2 movement.1, movement.2⟩
    obtain ⟨m, e, binary, -⟩ := size.ofCents_eq
    rw [amount, binary]
    rfl
  · rw [kind]
    split_ifs
    · exact .inr rfl
    · exact .inl rfl

theorem total_listed {id : Uuid} {rows : List TransactionRow}
    (stored : ∀ row ∈ rows, row.account = id ∧ row.amount.isFinite ∧
      (row.kind = "credit" ∨ row.kind = "debit")) :
    total .credit id (rows.map (·.toTransaction)) - total .debit id (rows.map (·.toTransaction)) =
      ((rows.map fun row => entryCents row.entry).sum : Int) / 100 := by
  induction rows with
  | nil => simp [total]
  | cons row rows ih =>
    obtain ⟨on, finite, kind⟩ := stored row (by simp)
    have rest := ih fun row mem => stored row (by simp [mem])
    have amount : row.toTransaction.amount.value = row.amount.cents / 100 :=
      (Binary64.toCents_isCents finite).value
    rw [List.map_cons, ← List.singleton_append, total_append, total_append, List.map_cons,
      List.sum_cons, Int.cast_add, add_div, ← rest]
    rcases kind with kind | kind
    · have credit : row.toTransaction.kind = .credit := by
        simp only [TransactionRow.toTransaction, kind, Kind.ofText]
      have cents : entryCents row.entry = row.amount.cents := by
        simp [entryCents, TransactionRow.entry, kind]
      rw [total_self on credit, total_kind_ne (by simp [credit]), amount, cents]
      ring
    · have debit : row.toTransaction.kind = .debit := by
        simp only [TransactionRow.toTransaction, kind, Kind.ofText]
      have cents : entryCents row.entry = -row.amount.cents := by
        simp [entryCents, TransactionRow.entry, kind]
      rw [total_self on debit, total_kind_ne (by simp [debit]), amount, cents]
      push_cast
      ring

/-! ## The invariant of the rows -/

namespace Rows.Tallied
variable {r r' : Rows} {s s' : Supply} {answers answers' : List (Except Failure Answer)}

theorem keep (h : r.Tallied s answers) (l : s.Later s') (accounts : r'.accounts = r.accounts)
    (transactions : r'.transactions = r.transactions)
    (quiet : ∀ a ∈ r.accounts, history a.id answers' = history a.id answers) :
    r'.Tallied s' answers' where
  issued := by
    rw [accounts]
    exact fun a mem => (h.issued a mem).later l
  distinct := by
    rw [accounts]
    exact h.distinct
  known := by
    rw [accounts, transactions]
    exact h.known
  balance := by
    rw [accounts]
    exact fun a mem => by rw [quiet a mem, h.balance a mem]
  entries := by
    rw [accounts, transactions]
    exact fun a mem => by rw [quiet a mem, h.entries a mem]

theorem opened (h : r.Tallied s answers) (l : s.Later s') {a : AccountRow}
    (rows : List TransactionRow) (fresh : ¬s.Issued a.id) (now : s'.Issued a.id)
    (own : ∀ row ∈ rows, row.account = a.id ∧ row.owner = a.owner)
    (quiet : ∀ id, id ≠ a.id → history id answers' = history id answers)
    (balance : a.balance = Binary64.tally (history a.id answers'))
    (entries : rows.map (·.entry) = (history a.id answers').map entryOf) :
    { r with accounts := r.accounts ++ [a], transactions := r.transactions ++ rows }.Tallied
      s' answers' := by
  have old {other : AccountRow} (mem : other ∈ r.accounts) : other.id ≠ a.id :=
    fun same => fresh (same ▸ h.issued other mem)
  have known {row : TransactionRow} (mem : row ∈ r.transactions) : row.account ≠ a.id := by
    obtain ⟨other, hother, same, -⟩ := h.known row mem
    exact same ▸ old hother
  refine ⟨?_, ?_, ?_, ?_, ?_⟩
  · intro other mem
    rcases List.mem_append.1 mem with mem | mem
    · exact (h.issued other mem).later l
    · rw [List.mem_singleton.1 mem]
      exact now
  · exact nodup_map_concat h.distinct fun other => old
  · intro row mem
    rcases List.mem_append.1 mem with mem | mem
    · obtain ⟨other, hother, same⟩ := h.known row mem
      exact ⟨other, List.mem_append_left _ hother, same⟩
    · obtain ⟨account, owner⟩ := own row mem
      exact ⟨a, by simp, account.symm, owner.symm⟩
  · intro other mem
    rcases List.mem_append.1 mem with mem | mem
    · rw [quiet _ (old mem), h.balance other mem]
    · rw [List.mem_singleton.1 mem]
      exact balance
  · intro other mem
    rcases List.mem_append.1 mem with mem | mem
    · have none : rows.filter (·.account = other.id) = [] := by
        rw [List.filter_eq_nil_iff]
        intro row hrow
        simpa [(own row hrow).1] using (old mem).symm
      rw [List.filter_append, none, List.append_nil, quiet _ (old mem), h.entries other mem]
    · obtain rfl := List.mem_singleton.1 mem
      have none : r.transactions.filter (·.account = other.id) = [] := by
        rw [List.filter_eq_nil_iff]
        intro row hrow
        simpa using known hrow
      have all : rows.filter (·.account = other.id) = rows := by
        rw [List.filter_eq_self]
        intro row hrow
        simpa using (own row hrow).1
      rw [List.filter_append, none, all, List.nil_append, entries]

theorem moved (h : r.Tallied s answers) (l : s.Later s') {a : AccountRow} (mem : a ∈ r.accounts)
    {row : TransactionRow} (account : row.account = a.id) (owner : row.owner = a.owner) {k : Int}
    (entry : row.entry = entryOf k)
    (quiet : ∀ id, id ≠ a.id → history id answers' = history id answers)
    (new : history a.id answers' = history a.id answers ++ [k]) (now : Instant) :
    { r with
      accounts := r.accounts.map (AccountRow.moved a.owner a.id (.ofCents k) now),
      transactions := r.transactions ++ [row] }.Tallied s' answers' := by
  have ids : (r.accounts.map (AccountRow.moved a.owner a.id (.ofCents k) now)).map (·.id) =
      r.accounts.map (·.id) := by
    simp [List.map_map, Function.comp_def]
  have balance_moved {other : AccountRow} (hother : other ∈ r.accounts) :
      (other.moved a.owner a.id (.ofCents k) now).balance =
        .tally (history other.id answers') := by
    unfold AccountRow.moved
    by_cases same : other.id = a.id
    · obtain rfl := List.inj_on_of_nodup_map h.distinct hother mem same
      rw [if_pos (by simp [Database.isKeptUnder]), new, Binary64.tally_concat,
        h.balance other hother]
    · rw [if_neg (by simp [Database.isKeptUnder, same]), quiet _ same, h.balance other hother]
  refine ⟨?_, ?_, ?_, ?_, ?_⟩
  · intro other hother
    obtain ⟨old, hold, rfl⟩ := List.mem_map.1 hother
    rw [AccountRow.moved_id]
    exact (h.issued old hold).later l
  · rw [ids]
    exact h.distinct
  · intro other hother
    have found : ∃ old ∈ r.accounts, old.id = other.account ∧ old.owner = other.owner := by
      rcases List.mem_append.1 hother with hother | hother
      · exact h.known other hother
      · rw [List.mem_singleton.1 hother]
        exact ⟨a, mem, account.symm, owner.symm⟩
    obtain ⟨old, hold, same⟩ := found
    refine ⟨_, List.mem_map_of_mem hold, ?_⟩
    rw [AccountRow.moved_id, AccountRow.moved_owner]
    exact same
  · intro other hother
    obtain ⟨old, hold, rfl⟩ := List.mem_map.1 hother
    rw [balance_moved hold, AccountRow.moved_id]
  · intro other hother
    obtain ⟨old, hold, rfl⟩ := List.mem_map.1 hother
    rw [AccountRow.moved_id, List.filter_append, List.map_append, h.entries old hold]
    by_cases same : old.id = a.id
    · rw [same, new, List.map_append]
      simp [account, entry]
    · rw [quiet _ same]
      simp [account, Ne.symm same]

end Rows.Tallied

theorem column_eq_ofCents {id : Uuid} {balance amount delta : Decimal} {kind : Kind} {k : Int}
    {column : Binary64} (whole : balance.IsCents k) (given : amount.IsAmount)
    (known : kind = .credit ∨ kind = .debit) (change : signedDelta id balance amount kind = .ok delta)
    (binary : Binary64.ofDecimal? delta = some column) :
    column = .ofCents (if kind = .debit then -amount.cents else amount.cents) := by
  obtain ⟨cents, pos, bound, rfl⟩ := given
  have small := lt_centsBound bound
  rcases known with rfl | rfl
  · rw [signedDelta_credit _ _ _ (by decide), Except.ok.injEq] at change
    rw [← change, Decimal.ofCents, Binary64.ofDecimal?_cents _ small, Option.some.injEq] at binary
    have above : decide ((cents : Int) < 0) = false := by simp
    simp [← binary, Binary64.ofCents, Decimal.ofCents, Decimal.cents, Decimal.signed, above]
  · rw [signedDelta_debit _ whole pos small] at change
    split_ifs at change
    · cases change
    · rw [Except.ok.injEq] at change
      rw [← change, Binary64.ofDecimal?_cents _ small, Option.some.injEq] at binary
      simp [← binary, Binary64.ofCents, Decimal.ofCents, Decimal.cents, Decimal.signed, pos]

theorem Rows.does_tallied {r r' : Rows} {s s₀ s' : Supply} {answers : List (Except Failure Answer)}
    {op : Operation} {answer : Answer} (h : r.Tallied s answers)
    (movements : ∀ id, ∀ k ∈ history id answers, Binary64.IsMovement k)
    (strange : ∀ id, ¬s.Issued id → history id answers = []) (checked : op.Checked)
    (before : s.Later s₀) (after : s₀.stamp.2.Later s') (does : r.Does s₀.stamp.1 op answer r') :
    r'.Tallied s' (answers ++ [.ok answer]) := by
  have later := before.trans (s₀.later_stamp.trans after)
  have fresh : ¬s.Issued s₀.stamp.1.first := fun old => s₀.not_issued_first (old.later before)
  have now := s₀.issued_first.later after
  cases does with
  | accounts | transactions | payees | saved | cleared =>
    exact h.keep later rfl rfl fun a mem => history_none rfl
  | @opened owner label currency opening number free credit =>
    have amount : opening.IsAmount := by
      refine checked.2.2.resolve_right fun nought => ?_
      rw [Decimal.exceeds?_finite nought.isFinite rfl, nought.value] at credit
      simp [Money.zero] at credit
    have pos := amount.cents_pos
    have new : history s₀.stamp.1.first (answers ++ [.ok (.account (.opened s₀.stamp.1 number owner
        label currency opening))]) = [opening.cents] := by
      rw [history_some (k := opening.cents) (by simp [Answer.movement?, pos.ne']), strange _ fresh,
        List.nil_append]
    have recorded : ((Account.opened s₀.stamp.1 number owner label currency opening).openingCredit
        s₀.stamp.1).Recorded := ⟨amount, .inl rfl⟩
    refine h.opened later [_] fresh now (by simp [Transaction.toRow, Account.toRow]) ?_ ?_ ?_
    · exact fun id ne => history_none (Answer.movement?_account_ne ne)
    · simp only [Account.toRow, Account.opened_id, Account.opened_balance, new,
        Binary64.tally_singleton amount.cents_isMovement, amount.settled_eq]
    · simp only [Account.toRow, Account.opened_id, new, List.map_singleton, recorded.entry_toRow]
      rfl
  | @openedEmpty owner label currency opening number free nought =>
    have nothing : opening.IsCents 0 := by
      refine checked.2.2.resolve_left fun amount => ?_
      obtain ⟨cents, pos, -, rfl⟩ := amount
      rw [Decimal.exceeds?_finite rfl rfl, Decimal.value_ofCents] at nought
      simp [Money.zero, pos] at nought
    have new : history s₀.stamp.1.first (answers ++ [.ok (.account (.opened s₀.stamp.1 number owner
        label currency opening))]) = [] := by
      rw [history_none (by simp [Answer.movement?, nothing.cents_eq]), strange _ fresh]
    have opened := h.opened later []
      (a := (Account.opened s₀.stamp.1 number owner label currency opening).toRow) fresh now
      (by simp) (fun id ne => history_none (Answer.movement?_account_ne ne)) ?_ ?_
    · simpa using opened
    · simp only [Account.toRow, Account.opened_id, Account.opened_balance, new,
        nothing.settled_nought, Binary64.tally, List.foldl_nil]
    · simp only [Account.toRow, Account.opened_id, new, List.map_nil]
  | @moved owner id amount currency kind description row delta column found change binary =>
    have mem := List.mem_of_find?_eq_some found
    obtain ⟨rfl, rfl⟩ := isKeptUnder_iff.1 (List.find?_some found)
    have recorded : (Durable.transactionOn s₀.stamp.1 row row.owner row.id amount currency kind
        description).Recorded := ⟨checked.1, checked.2.1⟩
    have whole : row.balance.toCents.IsCents row.balance.cents := by
      apply Binary64.toCents_isCents
      rw [h.balance row mem]
      exact (Binary64.tally_bounded (movements row.id)).1
    rw [column_eq_ofCents whole checked.1 checked.2.1 change binary]
    exact h.moved later mem rfl rfl recorded.entry_toRow
      (fun id ne => history_none (Answer.movement?_transaction_ne ne))
      (history_some (by simp [Answer.movement?, Durable.transactionOn])) s₀.stamp.1.now

/-! ## Where movements and accounts come from -/

section
variable {stamp : Stamp} {op : Operation} {answer : Answer} {id : Uuid} {k : Int}

theorem Rows.Does.movement {r r' : Rows} (does : r.Does stamp op answer r') (checked : op.Checked)
    (h : answer.movement? id = some k) :
    Binary64.IsMovement k ∧ (id = stamp.first ∨ ∃ a ∈ r.accounts, a.id = id) := by
  cases does with
  | accounts | transactions | payees | saved | cleared => cases h
  | opened | openedEmpty =>
    obtain ⟨same, movement⟩ := movement_account checked.2.2 h
    exact ⟨movement, .inl same⟩
  | moved found =>
    obtain ⟨same, movement⟩ := movement_transaction ⟨checked.1, checked.2.1⟩ h
    exact ⟨movement, .inr ⟨_, List.mem_of_find?_eq_some found,
      (isKeptUnder_iff.1 (List.find?_some found)).1.trans same.symm⟩⟩

theorem Book.Does.movement {terms : BookTerms} {b b' : Book}
    (does : Book.Does terms stamp b op (.ok answer) b') (checked : op.Checked)
    (h : answer.movement? id = some k) :
    Binary64.IsMovement k ∧ (id = stamp.first ∨ id ∈ b.ids op.owner) := by
  generalize result : Except.ok answer = outcome at does
  cases does with
  | noNumber | unmoved | duplicate => cases result
  | provisioned | accounts | demoPayee | payees | saved | cleared =>
    cases result
    cases h
  | transactions owner account =>
    obtain ⟨ts, rfl⟩ := Book.listTransactions_ok result.symm
    cases h
  | opened | openedEmpty =>
    cases result
    obtain ⟨same, movement⟩ := movement_account checked.2.2 h
    exact ⟨movement, .inl same⟩
  | moved found =>
    cases result
    obtain ⟨same, movement⟩ := movement_transaction ⟨checked.1, checked.2.1⟩ h
    obtain ⟨mem, has⟩ := Book.find?_account found
    exact ⟨movement, .inr (List.mem_map.2 ⟨_, mem, has.trans same.symm⟩)⟩

end

/-! ## Runs -/

namespace World
variable {terms : Terms} {w w' : World} {d : Durable} {answers : List (Except Failure Answer)}

/-- The rows have the balances of the history that the answers report. What the memory store may
hold has other identifiers. -/
structure Tallied (w : World) (d : Durable) (answers : List (Except Failure Answer)) : Prop where
  durable : w.durable = some d
  rows : d.database.rows.Tallied w.supply answers
  movements : ∀ id, ∀ k ∈ history id answers, Binary64.IsMovement k
  strange : ∀ id, ¬w.supply.Issued id → history id answers = []
  book : ∀ owner, ∀ id ∈ w.book.ids owner, w.supply.Issued id ∧
    ∀ a ∈ d.database.rows.accounts, a.id ≠ id

theorem Tallied.apart {op : Operation} {s : Supply} {answer : Answer} {book : Book}
    (h : w.Tallied d answers) (checked : op.Checked) (later : w.supply.Later s)
    (does : Book.Does terms.forBook s.stamp.1 w.book op (.ok answer) book) {a : AccountRow}
    (mem : a ∈ d.database.rows.accounts) : answer.movement? a.id = none := by
  apply Option.eq_none_iff_forall_ne_some.2
  intro k moves
  rcases (does.movement checked moves).2 with first | known
  · exact s.not_issued_first ((first ▸ h.rows.issued a mem).later later)
  · exact (h.book _ _ known).2 a mem rfl

theorem Tallied.effect {call : Call} {store : Option StoreCall} {result : Except Failure Answer}
    (h : w.Tallied d answers) (effect : Effect terms call w store result w') :
    ∃ d', w'.Tallied d' (answers ++ [result]) := by
  have rows_of {d d' : Durable} (same : d'.healthy = d.healthy) :
      d'.database.rows = d.database.rows := congrArg (·.database.rows) same
  cases effect with
  | @failed w' failure kept =>
    obtain ⟨d', durable', same⟩ := kept.filled.durable_after h.durable
    have quiet (id : Uuid) : history id (answers ++ [.error failure]) = history id answers :=
      history_error id answers failure
    refine ⟨d', durable', ?_, ?_, ?_, ?_⟩
    · rw [rows_of same]
      exact h.rows.keep kept.supply rfl rfl fun a _ => quiet a.id
    · exact fun id => (quiet id).symm ▸ h.movements id
    · exact fun id new => by rw [quiet, h.strange id fun old => new (old.later kept.supply)]
    · rw [kept.book, rows_of same]
      exact fun owner id mem => ⟨(h.book owner id mem).1.later kept.supply, (h.book owner id mem).2⟩
  | @durable w' op d₀ d' supply answer log valid before after later operation book =>
    rw [h.durable, Option.some.injEq] at before
    subst before
    have checked := Call.operation_checked valid
    obtain ⟨s₀, taken, left, does, -⟩ := Durable.run_does (congrArg Outcome.result operation)
    rw [operation] at left does
    have before := later.trans taken
    have now := before.trans (s₀.later_stamp.trans left)
    have fresh : ¬w.supply.Issued s₀.stamp.1.first := fun old =>
      s₀.not_issued_first (old.later before)
    have rows := Rows.does_tallied h.rows h.movements h.strange checked before left does
    refine ⟨d', after, rows, ?_, ?_, ?_⟩
    · intro id
      exact forall_history_append (h.movements id) fun k moves => (does.movement checked moves).1
    · intro id new
      apply history_append_nil (h.strange id fun old => new (old.later now))
      intro k moves
      rcases (does.movement checked moves).2 with rfl | ⟨a, mem, rfl⟩
      · exact new (s₀.issued_first.later left)
      · exact new ((h.rows.issued a mem).later now)
    · intro owner id mem
      rw [book] at mem
      refine ⟨(h.book owner id mem).1.later now, fun a ha same => ?_⟩
      rcases does.known ha with ⟨-, first⟩ | ⟨old, hold, -, eq⟩
      · exact fresh (first ▸ same ▸ (h.book owner id mem).1)
      · exact (h.book owner id mem).2 old hold (eq.trans same)
  | @memory w' op supply answer log valid later operation filled =>
    obtain ⟨d', durable', same⟩ := filled.durable_after h.durable
    have checked := Call.operation_checked valid
    have does : Book.Does terms.forBook supply.stamp.1 w.book op _ _ := Book.run_does checked
    have left : Supply.Later supply.stamp.2 (w.book.run terms.forBook op supply).state.2 :=
      Book.run_stamp
    rw [operation] at does left
    have now := later.trans (supply.later_stamp.trans left)
    have fresh : ¬w.supply.Issued supply.stamp.1.first := fun old =>
      supply.not_issued_first (old.later later)
    refine ⟨d', durable', ?_, ?_, ?_, ?_⟩
    · rw [rows_of same]
      exact h.rows.keep now rfl rfl fun a mem => history_none (h.apart checked later does mem)
    · intro id
      exact forall_history_append (h.movements id) fun k moves => (does.movement checked moves).1
    · intro id new
      apply history_append_nil (h.strange id fun old => new (old.later now))
      intro k moves
      rcases (does.movement checked moves).2 with rfl | known
      · exact new (supply.issued_first.later left)
      · exact new ((h.book _ _ known).1.later now)
    · intro owner id mem
      rw [rows_of same]
      rcases does.ids_mem mem with old | ⟨-, rfl⟩
      · exact ⟨(h.book owner id old).1.later now, (h.book owner id old).2⟩
      · exact ⟨supply.issued_first.later left, fun a ha eq => fresh (eq ▸ h.rows.issued a ha)⟩

theorem run_tallied (terms : Terms) (calls : List Call) (h : w.Tallied d answers) :
    ∃ d', (run terms calls w).2.Tallied d' (answers ++ (run terms calls w).1) := by
  induction calls generalizing w d answers with
  | nil => exact ⟨d, by simpa [run] using h⟩
  | cons call calls ih =>
    obtain ⟨store, effect, -⟩ := perform_effect terms call h.durable
    obtain ⟨d', h'⟩ := h.effect effect
    obtain ⟨d'', h''⟩ := ih h'
    exact ⟨d'', by simpa [run] using h''⟩

/-! ## Listings -/

theorem Tallied.total_listed (h : w.Tallied d answers) {a : AccountRow}
    (mem : a ∈ d.database.rows.accounts) :
    let ts := (d.database.rows.transactionsOf a.owner (some a.id)).map (·.toTransaction)
    total .credit a.id ts - total .debit a.id ts =
      (Binary64.readBack (history a.id answers) : ℚ) / 100 := by
  set rows := d.database.rows
  have own : rows.transactions.filter
      (fun row => row.owner == a.owner && (some a.id).all (row.account == ·)) =
        rows.transactions.filter (·.account = a.id) := by
    refine List.filter_congr fun row hrow => ?_
    obtain ⟨b, hb, account, owner⟩ := h.rows.known row hrow
    by_cases same : row.account = a.id
    · obtain rfl := List.inj_on_of_nodup_map h.rows.distinct hb mem (account.trans same)
      simp [same, owner]
    · simp [same]
  have perm : (rows.transactionsOf a.owner (some a.id)).Perm
      (rows.transactions.filter (·.account = a.id)) := by
    rw [Rows.transactionsOf, own]
    exact List.mergeSort_perm _ _
  have entries := h.rows.entries a mem
  intro ts
  rw [Passbook.total_listed]
  · have sums := (perm.map fun row => entryCents row.entry).sum_eq
    rw [sums, ← Function.comp_def, ← List.map_map, entries, List.map_map, Function.comp_def]
    simp only [entryCents_entryOf]
    rfl
  · intro row hrow
    have hrow := perm.mem_iff.1 hrow
    have on := (List.mem_filter.1 hrow).2
    have entry : row.entry ∈ (history a.id answers).map entryOf := by
      rw [← entries]
      exact List.mem_map_of_mem hrow
    obtain ⟨k, hk, same⟩ := List.mem_map.1 entry
    exact ⟨by simpa using on, finite_of_entry (h.movements a.id k hk) same.symm⟩

/-- The balance of an account is what its listed transactions come to, and is not below nought. -/
def Agrees (terms : Terms) (w : World) (owner : Uuid) (a : Account) : Prop :=
  ∃ ts, (w.perform terms (.listTransactions owner (some a.id))).result = .ok (.transactions ts) ∧
    a.balance.value = total .credit a.id ts - total .debit a.id ts ∧ 0 ≤ a.balance.value

theorem Tallied.agrees_iff {db : Database} (h : w.Tallied ⟨db, []⟩ answers) (healthy : w.Healthy db)
    {a : AccountRow} (mem : a ∈ db.rows.accounts) :
    w.Agrees terms a.owner a.toAccount ↔ Binary64.Faithful (history a.id answers) := by
  have listed := healthy.listTransactions terms mem rfl
  have sum := h.total_listed mem
  have finite := Binary64.tally_bounded (h.movements a.id)
  have balance : a.toAccount.balance.value = (Binary64.tally (history a.id answers)).cents / 100 := by
    have same := h.rows.balance a mem
    rw [AccountRow.balance_listed (same ▸ finite.1), same]
  have unit : (0 : ℚ) < 100 := by norm_num
  rw [Binary64.faithful_iff (h.movements a.id)]
  constructor
  · rintro ⟨ts, answer, law, nonneg⟩
    rw [AccountRow.toAccount, listed, Except.ok.injEq, Answer.transactions.injEq] at answer
    subst answer
    rw [balance] at law nonneg
    rw [AccountRow.toAccount, sum, div_left_inj' unit.ne'] at law
    rw [le_div_iff₀ unit, zero_mul] at nonneg
    exact ⟨by exact_mod_cast law, by exact_mod_cast nonneg⟩
  · rintro ⟨same, nonneg⟩
    refine ⟨_, listed, ?_, ?_⟩
    · rw [balance, same]
      exact sum.symm
    · rw [balance]
      have : (0 : ℚ) ≤ (Binary64.tally (history a.id answers)).cents := by exact_mod_cast nonneg
      positivity

theorem tallied_empty {db : Database} (bare : db.provisioned = Database.empty.provisioned)
    (supply : Supply) (script : Script) :
    Tallied ⟨Book.empty, some ⟨db, []⟩, supply, script⟩ ⟨db, []⟩ [] := by
  have rows : db.rows = ⟨[], [], []⟩ := by
    rw [← Database.rows_provisioned, bare]
    rfl
  refine ⟨rfl, ?_, by simp [history], by simp [history], by simp [Book.ids, Book.empty, Shelf.empty]⟩
  rw [rows]
  exact ⟨by simp, by simp, by simp, by simp, by simp⟩

theorem run_healthy_tallied (terms : Terms) {db : Database}
    (bare : db.provisioned = Database.empty.provisioned) (supply : Supply) (calls : List Call) :
    let done := run terms calls ⟨Book.empty, some ⟨db, []⟩, supply, Script.empty⟩
    ∃ db', done.2.Healthy db' ∧ done.2.Tallied ⟨db', []⟩ done.1 := by
  intro done
  have start : Healthy ⟨Book.empty, some ⟨db, []⟩, supply, Script.empty⟩ db := by
    have reachable : db.provisioned.reachable = true := by rw [bare]; rfl
    exact ⟨rfl, reachable, rfl⟩
  obtain ⟨db', healthy⟩ : ∃ db', done.2.Healthy db' :=
    run_induction (fun w => ∃ db', w.Healthy db')
      (fun call w ⟨_, h⟩ => perform_healthy call h) calls _ ⟨db, start⟩
  obtain ⟨d, tallied⟩ := run_tallied terms calls (tallied_empty bare supply .empty)
  have same : d = ⟨db', []⟩ := Option.some.inj (tallied.durable.symm.trans healthy.durable)
  rw [same, List.nil_append] at tallied
  exact ⟨db', healthy, tallied⟩

theorem mem_accountsOf {r : Rows} {owner : Uuid} {a : Account}
    (mem : a ∈ (r.accountsOf owner).map (·.toAccount)) :
    ∃ row ∈ r.accounts, row.owner = owner ∧ row.toAccount = a := by
  obtain ⟨row, hrow, rfl⟩ := List.mem_map.1 mem
  obtain ⟨known, own⟩ := List.mem_filter.1 ((List.mergeSort_perm _ _).mem_iff.1 hrow)
  exact ⟨row, known, beq_iff_eq.1 own, rfl⟩

/-- After any calls of any owners on a healthy store, the accounts of an owner are listed, and the
balance of each agrees with its transactions exactly if the movements that the calls reported on it
have a running sum in binary that strays from the sum of the single amounts as they are read back by
less than half a cent (or by half a cent if that sum is even), and that sum is not below nought. -/
theorem durable_balance (terms : Terms) (db : Database) (supply : Supply) (calls : List Call)
    (owner : Uuid) (bare : db.provisioned = Database.empty.provisioned) :
    let done := run terms calls ⟨Book.empty, some ⟨db, []⟩, supply, Script.empty⟩
    ∃ accounts, (done.2.perform terms (.listAccounts owner)).result = .ok (.accounts accounts) ∧
      ∀ a ∈ accounts,
        done.2.Agrees terms owner a ↔ Binary64.Faithful (history a.id done.1) := by
  intro done
  obtain ⟨db', healthy, tallied⟩ := run_healthy_tallied terms bare supply calls
  refine ⟨_, healthy.listAccounts terms owner, fun a mem => ?_⟩
  obtain ⟨row, known, rfl, rfl⟩ := mem_accountsOf mem
  exact tallied.agrees_iff healthy known

def newDurable : World := ⟨Book.empty, some ⟨Database.empty, []⟩, ⟨0, 0, 0, id⟩, Script.empty⟩

def soberCalls : List Call :=
  [.createAccount ⟨1⟩ none none (some (some (.ofCents 10000))),
   .applyTransaction ⟨1⟩ (Supply.issuedId 2) (some (.ofCents 3025)) (some "debit") none none,
   .makePayment ⟨1⟩ (Supply.issuedId 2) (some (.ofCents 7000)) none none none]

def soberAccount : Account :=
  { id := Supply.issuedId 2, owner := ⟨1⟩, number := accountNumber 1, label := some "Checking",
    balance := .ofCents 6975, currency := some "NZD", createdAt := ⟨1⟩, updatedAt := ⟨2⟩ }

theorem durable_balance_sober :
    let done := run .standard soberCalls newDurable
    (done.2.perform .standard (.listAccounts ⟨1⟩)).result = .ok (.accounts [soberAccount]) ∧
      done.2.Agrees .standard ⟨1⟩ soberAccount := by
  intro done
  have single : (done.2.perform .standard (.listAccounts ⟨1⟩)).result =
      .ok (.accounts [soberAccount]) := by
    decide +kernel
  obtain ⟨accounts, listed, law⟩ := durable_balance .standard Database.empty ⟨0, 0, 0, id⟩
    soberCalls ⟨1⟩ rfl
  have same : [soberAccount] = accounts := by
    have same := single.symm.trans listed
    rwa [Except.ok.injEq, Answer.accounts.injEq] at same
  have faithful : Binary64.Faithful (history soberAccount.id done.1) := by
    have moves : history soberAccount.id done.1 = [10000, -3025] := by decide +kernel
    rw [moves, Binary64.faithful_iff]
    · decide +kernel
    · simp [Binary64.IsMovement, greatestCents]
  exact ⟨single, (law soberAccount (by simp [← same])).2 faithful⟩

def driftCalls : List Call :=
  [.createAccount ⟨1⟩ none none (some (some (.ofCents 56294995342131237))),
   .applyTransaction ⟨1⟩ (Supply.issuedId 2) (some (.ofCents 56294995342131200)) (some "debit") none
     none,
   .applyTransaction ⟨1⟩ (Supply.issuedId 2) (some (.ofCents 38)) (some "debit") none none]

def driftedAccount : Account :=
  { id := Supply.issuedId 2, owner := ⟨1⟩, number := accountNumber 1, label := some "Checking",
    balance := .finite true 1 (-2), currency := some "NZD", createdAt := ⟨1⟩, updatedAt := ⟨3⟩ }

/-- The account is listed with a balance of -0.01, its transactions come to nought. -/
theorem durable_balance_drifts :
    let done := run .standard driftCalls newDurable
    (done.2.perform .standard (.listAccounts ⟨1⟩)).result = .ok (.accounts [driftedAccount]) ∧
      driftedAccount.balance.value = -1 / 100 ∧
      (∃ ts, (done.2.perform .standard (.listTransactions ⟨1⟩ (some driftedAccount.id))).result =
          .ok (.transactions ts) ∧
        total .credit driftedAccount.id ts - total .debit driftedAccount.id ts = 0) ∧
      ¬done.2.Agrees .standard ⟨1⟩ driftedAccount := by
  intro done
  obtain ⟨db, healthy, tallied⟩ : ∃ db, done.2.Healthy db ∧ done.2.Tallied ⟨db, []⟩ done.1 :=
    run_healthy_tallied .standard rfl ⟨0, 0, 0, id⟩ driftCalls
  have single : (done.2.perform .standard (.listAccounts ⟨1⟩)).result =
      .ok (.accounts [driftedAccount]) := by
    decide +kernel
  have balance : driftedAccount.balance.value = -1 / 100 :=
    (Decimal.isCents_finite true 1).value.trans (by norm_num [Decimal.signed])
  have same := (healthy.listAccounts .standard ⟨1⟩).symm.trans single
  rw [Except.ok.injEq, Answer.accounts.injEq] at same
  have mem : driftedAccount ∈ (db.rows.accountsOf ⟨1⟩).map (·.toAccount) := by simp [same]
  obtain ⟨row, known, own, eq⟩ := mem_accountsOf mem
  have has : row.id = driftedAccount.id := congrArg Account.id eq
  have moves : Binary64.readBack (history driftedAccount.id done.1) = 0 := by decide +kernel
  have listed := healthy.listTransactions .standard known own
  have sum := tallied.total_listed known
  rw [own, has, moves, Int.cast_zero, zero_div] at sum
  rw [has] at listed
  refine ⟨single, balance, ⟨_, listed, sum⟩, fun ⟨ts, _, _, nonneg⟩ => ?_⟩
  rw [balance] at nonneg
  norm_num at nonneg

end World

end Passbook
