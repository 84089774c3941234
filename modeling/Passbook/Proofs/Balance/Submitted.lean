import Passbook.Proofs.Balance.Exact
import Passbook.Proofs.Decision.Run

namespace Passbook

/-! ## Amounts given and amounts reported -/

def Call.moves? (id : Uuid) : Call → Answer → Option ℚ
  | .createAccount _ _ _ (some (some x)), .account a =>
    if a.id = id ∧ x.value ≠ 0 then some x.value else none
  | .applyTransaction _ account (some x) kind _ _, _ =>
    if account = id then some (if directionOf kind = "debit" then -x.value else x.value) else none
  | .makePayment _ account (some x) _ _ _, _ => if account = id then some (-x.value) else none
  | _, _ => none

/-- What the calls that were answered move on the account `id`. -/
def submitted (id : Uuid) (calls : List Call) (answers : List (Except Failure Answer)) : List ℚ :=
  (calls.zip answers).filterMap fun (call, result) => result.toOption.bind (call.moves? id)

def Operation.Reports : Operation → Answer → Prop
  | .createAccount _ _ _ opening, .account a => a.balance = opening
  | .applyTransaction _ id amount _ kind _, .transaction t =>
    t.account = id ∧ t.amount = amount ∧ t.kind = kind
  | .createAccount .., _ | .applyTransaction .., _ => False
  | _, answer => ∀ id, answer.movement? id = none

theorem Rows.Does.reports {stamp : Stamp} {r r' : Rows} {op : Operation} {answer : Answer}
    (does : r.Does stamp op answer r') : op.Reports answer := by
  cases does with
  | opened | openedEmpty => exact Account.opened_balance ..
  | moved => exact ⟨rfl, rfl, rfl⟩
  | accounts | transactions | payees | saved | cleared => exact fun _ => rfl

theorem Book.Does.reports {terms : BookTerms} {stamp : Stamp} {b b' : Book} {op : Operation}
    {answer : Answer} (does : Book.Does terms stamp b op (.ok answer) b') : op.Reports answer := by
  generalize result : Except.ok answer = outcome at does
  cases does with
  | noNumber | unmoved | duplicate => cases result
  | opened | openedEmpty =>
    cases result
    exact Account.opened_balance ..
  | moved =>
    cases result
    exact ⟨rfl, rfl, rfl⟩
  | provisioned | accounts | demoPayee | payees | saved | cleared =>
    cases result
    exact fun _ => rfl
  | transactions owner account =>
    obtain ⟨ts, rfl⟩ := Book.listTransactions_ok result.symm
    exact fun _ => rfl

theorem Decimal.IsOpening.value_eq {x : Decimal} (h : x.IsOpening) : x.value = x.cents / 100 := by
  rcases h with ⟨cents, -, -, rfl⟩ | nought
  · exact (isCents_ofCents cents).value
  · rw [nought.value, nought.cents_eq]

section
variable {terms : Terms} {call : Call} {op : Operation} {answer : Answer} {kind : Option String}
  {k : Kind}

theorem normalizeKind_eq_debit (h : normalizeKind kind = .ok k) :
    k = .debit ↔ directionOf kind = "debit" := by
  unfold normalizeKind at h
  unfold directionOf
  split at h <;> cases h <;> simp [*]

theorem value_of_check {field : String} {allowZero : Bool} {given : Option Decimal} {y : Decimal}
    (tested : Money.check field allowZero given = .ok y) (opening : y.IsOpening) :
    ∃ x, given = some x ∧ x.value = y.cents / 100 := by
  cases given with
  | none => cases tested
  | some x => exact ⟨x, rfl, (Money.cents_of_check tested).2.1.symm.trans opening.value_eq⟩

theorem movement?_account {a : Account} (id : Uuid) {x : ℚ} (value : x = a.balance.cents / 100) :
    (if a.id = id ∧ x ≠ 0 then some x else none) =
      ((Answer.account a).movement? id).map fun (k : Int) => (k : ℚ) / 100 := by
  have nonzero : x ≠ 0 ↔ a.balance.cents ≠ 0 := by
    rw [value, ne_eq, div_eq_zero_iff, Int.cast_eq_zero]
    norm_num
  simp only [Answer.movement?, nonzero]
  split_ifs
  · rw [value]
    rfl
  · rfl

theorem movement?_transaction {t : Transaction} (id : Uuid) {x : ℚ}
    (value : x = t.amount.cents / 100) :
    (if t.account = id then some (if t.kind = .debit then -x else x) else none) =
      ((Answer.transaction t).movement? id).map fun (k : Int) => (k : ℚ) / 100 := by
  have signed : (if t.kind = .debit then -x else x) = (t.cents : ℚ) / 100 := by
    unfold Transaction.cents
    rw [value]
    split_ifs
    · push_cast
      ring
    · rfl
  rw [signed]
  simp only [Answer.movement?]
  split_ifs <;> rfl

theorem Call.moves?_eq (valid : call.operation terms = .ok op) (h : op.Reports answer) (id : Uuid) :
    call.moves? id answer = (answer.movement? id).map fun (k : Int) => (k : ℚ) / 100 := by
  cases call with
  | listAccounts | listTransactions | listPayees | deletePayees =>
    cases valid
    rw [h id]
    rfl
  | createPayee owner name number =>
    simp only [operation] at valid
    split_ifs at valid <;> cases valid
    rw [h id]
    rfl
  | createAccount owner label currency deposit =>
    obtain ⟨opening, tested, valid⟩ := Except.bind_eq_ok.1 valid
    cases valid
    cases answer with
    | account a =>
      obtain rfl : a.balance = opening := h
      cases deposit with
      | none =>
        have nothing : a.balance.cents = 0 := by
          rw [← Except.ok.inj tested]
          rfl
        simp [moves?, Answer.movement?, nothing]
      | some given =>
        obtain ⟨x, rfl, value⟩ := value_of_check tested (openingAmount_opening tested)
        exact movement?_account id value
    | accounts | transactions | transaction | payees | payee | removed => cases h
  | applyTransaction owner account amount kind currency description =>
    obtain ⟨y, tested, valid⟩ := Except.bind_eq_ok.1 valid
    obtain ⟨k, word, valid⟩ := Except.bind_eq_ok.1 valid
    cases valid
    cases answer with
    | transaction t =>
      obtain ⟨rfl, rfl, rfl⟩ := h
      obtain ⟨x, rfl, value⟩ := value_of_check tested (.inl (Money.check_amount tested))
      rw [← movement?_transaction id value]
      simp only [moves?, normalizeKind_eq_debit word]
    | account | accounts | transactions | payees | payee | removed => cases h
  | makePayment owner account amount payeeName payeeNumber description =>
    obtain ⟨y, tested, valid⟩ := Except.bind_eq_ok.1 valid
    cases valid
    cases answer with
    | transaction t =>
      obtain ⟨rfl, rfl, debit⟩ := h
      obtain ⟨x, rfl, value⟩ := value_of_check tested (.inl (Money.check_amount tested))
      rw [← movement?_transaction id value]
      simp only [moves?, debit, if_true]
    | account | accounts | transactions | payees | payee | removed => cases h

end

/-! ## Debits -/

inductive Call.IsDebit (owner id : Uuid) (x : ℚ) : Call → Prop
  | transaction {amount kind currency description} (pays : IsPayment amount x)
      (debit : directionOf kind = "debit") :
    IsDebit owner id x (.applyTransaction owner id amount kind currency description)
  | payment {amount payeeName payeeNumber description} (pays : IsPayment amount x) :
    IsDebit owner id x (.makePayment owner id amount payeeName payeeNumber description)

theorem Call.IsDebit.operation {owner id : Uuid} {x : ℚ} {call : Call}
    (h : call.IsDebit owner id x) (terms : Terms) :
    ∃ (y : Decimal) (currency description : Option String), y.value = x ∧
      call.operation terms = .ok (.applyTransaction owner id y currency .debit description) := by
  cases h with
  | @transaction amount kind currency description pays debit =>
    obtain ⟨y, value, valid⟩ := operation_request terms owner id currency description
      ⟨pays, .inr debit⟩
    rw [if_pos debit] at valid
    exact ⟨y, _, _, value, valid⟩
  | @payment amount payeeName payeeNumber description pays =>
    obtain ⟨y, tested, value⟩ := pays.check "Amount"
    refine ⟨y, none, some (paymentDescription description payeeName payeeNumber), value, ?_⟩
    simp only [Call.operation, tested]
    rfl

namespace World
variable {terms : Terms} {w : World} {k n : Nat}

theorem Change.submitted {call : Call} {result : Except Failure Answer} {w' : World}
    (change : Change terms call w result w') (id : Uuid) :
    result.toOption.bind (call.moves? id) =
      (result.toOption.bind (·.movement? id)).map fun (k : Int) => (k : ℚ) / 100 := by
  cases change with
  | failed answered =>
    rw [answered]
    rfl
  | database valid answered before after does =>
    rw [answered]
    exact Call.moves?_eq valid does.reports id
  | memory valid answered before after does =>
    rw [answered]
    exact Call.moves?_eq valid does.reports id

theorem submitted_eq (terms : Terms) (calls : List Call) (w : World) (id : Uuid) :
    submitted id calls (run terms calls w).1 =
      (history id (run terms calls w).1).map fun (k : Int) => (k : ℚ) / 100 := by
  induction calls generalizing w with
  | nil => rfl
  | cons call calls ih =>
    have rest := ih (w.perform terms call).state
    have first := (perform_change terms call w).submitted id
    unfold submitted history at rest ⊢
    simp only [run, List.zip_cons_cons, List.filterMap_cons, first]
    cases (w.perform terms call).result.toOption.bind (·.movement? id) with
    | none => exact rest
    | some k => exact congrArg _ rest

/-! ## Exact balances -/

/-- The balance of an account is `sum`: so it is stored but for a small error, so it is listed, and
so it is tested when money is to be taken from it. -/
structure IsExact (terms : Terms) (w : World) (n k : Nat) (row : AccountRow) (sum : ℚ) : Prop where
  stored : row.balance.isFinite ∧ |row.balance.value - sum| ≤ n * 2 ^ ((k : Int) - 52)
  nonneg : 0 ≤ sum
  listed : ∃ accounts, (w.perform terms (.listAccounts row.owner)).result = .ok (.accounts accounts) ∧
    row.toAccount ∈ accounts ∧ ∀ a ∈ accounts, a.id = row.id → a.balance.value = sum
  debits : ∀ x (call : Call), call.IsDebit row.owner row.id x →
    Debited row.id x sum (w.perform terms call).result

theorem Regular.isExact {row : AccountRow} {sum : ℚ} (h : w.Regular) (database : w.usesDatabase)
    (mem : row ∈ w.rows.accounts) (nonneg : 0 ≤ sum)
    (stored : row.balance.isFinite ∧ |row.balance.value - sum| ≤ n * 2 ^ ((k : Int) - 52))
    (read : row.toAccount.balance.value = sum) : w.IsExact terms n k row sum := by
  have known : row.toAccount ∈ w.accounts row.owner := by
    rw [accounts, if_pos database]
    exact List.mem_map_of_mem (Rows.mem_accountsOf.2 ⟨mem, rfl⟩)
  have one (a : Account) (ha : a ∈ w.accounts row.owner) (same : a.id = row.id) :
      a = row.toAccount := h.one ha known same
  refine ⟨stored, nonneg, ⟨_, listAccounts_shown h (.inl database), known, ?_⟩, ?_⟩
  · intro a ha same
    rw [one a ha same, read]
  · intro x call asks
    obtain ⟨y, currency, description, rfl, valid⟩ := asks.operation terms
    rw [← read]
    exact (perform_verdict h valid).debited known rfl one

theorem sum_hundredths (ks : List Int) :
    (ks.map fun (k : Int) => (k : ℚ) / 100).sum = (ks.sum : ℚ) / 100 := by
  induction ks with
  | nil => simp
  | cons k ks ih =>
    rw [List.map_cons, List.sum_cons, ih, List.sum_cons]
    push_cast
    ring

theorem Tallied.length_history {d : Durable} {answers : List (Except Failure Answer)}
    (h : w.Tallied d answers) {row : AccountRow} (mem : row ∈ d.database.rows.accounts) :
    (history row.id answers).length =
      (d.database.rows.transactions.filter (·.account = row.id)).length := by
  simpa using (congrArg List.length (h.rows.entries row mem)).symm

/-- After any calls of any owners on a healthy store, let an account have at most `n` transactions,
and let the sum of what the calls were given for it never have reached `2 ^ k`, where
`n * 2 ^ (k - 52)` is less than half a cent. Then its balance is this sum: it is stored with that
error at most, it is listed exactly, and a debit is refused only if it is larger. -/
theorem balance_exact (terms : Terms) (db : Database) (supply : Supply) (calls : List Call)
    (bare : db.provisioned = Database.empty.provisioned)
    (small : (n : ℚ) * 2 ^ ((k : Int) - 52) < 1 / 200) :
    let done := run terms calls ⟨Book.empty, some ⟨db, []⟩, supply, Script.empty⟩
    ∀ row ∈ done.2.rows.accounts,
      (done.2.rows.transactions.filter (·.account = row.id)).length ≤ n →
      (∀ before, before <+: submitted row.id calls done.1 → before.sum < 2 ^ k) →
      done.2.IsExact terms n k row (submitted row.id calls done.1).sum := by
  intro done row mem count below
  have reachable : db.reachable := congrArg Database.reachable bare
  have empty : db.rows = ⟨[], [], []⟩ := by
    rw [← Database.rows_provisioned, bare]
    rfl
  have regular : done.2.Regular :=
    run_regular terms calls rfl empty ⟨rfl, .inr (.inl ⟨db, rfl, reachable⟩)⟩
  obtain ⟨db', healthy, tallied⟩ := run_healthy_tallied terms bare supply calls
  have covered : Binary64.Covered (history row.id done.1) :=
    run_covered terms calls (tallied_empty bare supply .empty)
      (by rw [rows_of_durable rfl, empty]; simp) row mem
  have rows : done.2.rows = db'.rows := rows_of_durable healthy.durable
  have kept : row ∈ db'.rows.accounts := rows ▸ mem
  have stays : Binary64.StaysBelow k (history row.id done.1) := by
    intro before pre
    rw [← sum_hundredths]
    apply below
    rw [submitted_eq]
    exact pre.map _
  rw [rows, ← tallied.length_history kept] at count
  obtain ⟨finite, close, nonneg⟩ := covered.exact count small stays
  have balance := tallied.rows.balance row kept
  rw [submitted_eq, sum_hundredths]
  have sum : (0 : ℚ) ≤ ((history row.id done.1).sum : ℚ) / 100 := by
    have : (0 : ℚ) ≤ ((history row.id done.1).sum : ℚ) := by exact_mod_cast nonneg
    positivity
  have error : |(Binary64.tally (history row.id done.1)).value - (history row.id done.1).sum / 100| ≤
      n * 2 ^ ((k : Int) - 52) := by
    have length : ((history row.id done.1).length : ℚ) ≤ n := by exact_mod_cast count
    have twice : (2 : ℚ) ^ ((k : Int) - 53) ≤ 2 ^ ((k : Int) - 52) :=
      zpow_le_zpow_right₀ (by norm_num) (by omega)
    exact close.trans (mul_le_mul length twice (by positivity) (by positivity))
  refine regular.isExact healthy.usesDatabase mem sum ⟨?_, ?_⟩ ?_
  · rw [balance]
    exact finite
  · rw [balance]
    exact error
  · rw [AccountRow.balance_listed (balance ▸ finite), balance,
      Binary64.cents_of_close finite (error.trans_lt small)]

theorem balance_exact_sober :
    let done := run .standard soberCalls newDurable
    ∃ row ∈ done.2.rows.accounts, row.toAccount = soberAccount ∧
      done.2.IsExact .standard 2 7 row (6975 / 100) := by
  intro done
  have single : done.2.rows.accounts.map (·.toAccount) = [soberAccount] := by decide +kernel
  obtain ⟨row, mem, same⟩ : ∃ row ∈ done.2.rows.accounts, row.toAccount = soberAccount :=
    List.mem_map.1 (single ▸ List.mem_singleton.2 rfl)
  have has : row.id = soberAccount.id := congrArg Account.id same
  have moves : submitted row.id soberCalls done.1 = [100, -30.25] := by
    have history : history soberAccount.id done.1 = [10000, -3025] := by decide +kernel
    rw [submitted_eq, has, history]
    norm_num
  have count : (done.2.rows.transactions.filter (·.account = row.id)).length ≤ 2 := by
    rw [has]
    decide +kernel
  have below : ∀ before, before <+: submitted row.id soberCalls done.1 → before.sum < 2 ^ 7 := by
    intro before pre
    rw [moves] at pre
    simp only [List.prefix_cons_iff, List.prefix_nil] at pre
    obtain rfl | ⟨_, rfl, rfl | ⟨_, rfl, rfl⟩⟩ := pre <;> norm_num
  have exact : done.2.IsExact .standard 2 7 row (submitted row.id soberCalls done.1).sum :=
    balance_exact .standard Database.empty ⟨0, 0, 0, id⟩ soberCalls rfl (by norm_num) row mem count
      below
  refine ⟨row, mem, same, ?_⟩
  have sum : (submitted row.id soberCalls done.1).sum = 6975 / 100 := by
    rw [moves]
    norm_num
  rwa [sum] at exact

end World

end Passbook
