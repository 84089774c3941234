import Passbook.Proofs.Store.Opening

namespace Passbook

def Stands {α : Type} (result : Except Failure α) : Prop :=
  (∃ a, result = .ok a) ∨ ∃ refusal, result = .error (.refused refusal)

structure Database.Numeric (db : Database) : Prop where
  reachable : db.reachable
  numbers : ∀ row ∈ db.rows.accounts, row.balance ≠ .nan

/-! ## Numbers -/

namespace Binary64
variable {b c : Binary64}

theorem ofRatio_ne_nan (negative : Bool) (n d : Nat) : ofRatio negative n d ≠ .nan := by
  simp only [ofRatio, nought]
  split_ifs <;> exact Binary64.noConfusion

theorem add_ne_nan (number : b ≠ .nan) (finite : c.isFinite) : b.add c ≠ .nan := by
  cases b with
  | nan => exact absurd rfl number
  | infinite n =>
    cases c with
    | finite => exact Binary64.noConfusion
    | infinite | nan => cases finite
  | finite n a e =>
    cases c with
    | infinite | nan => cases finite
    | finite m b f =>
      simp only [add, nought]
      split_ifs
      · exact Binary64.noConfusion
      · exact ofRatio_ne_nan _ _ _

theorem settled_ne_nan (number : b ≠ .nan) : b.settled ≠ .nan := by
  cases b with
  | nan => exact absurd rfl number
  | infinite n => exact Binary64.noConfusion
  | finite n m e => cases m <;> exact Binary64.noConfusion

theorem stored_of_ne_nan (number : b ≠ .nan) : stored b = .ok b.settled := by
  cases b with
  | nan => exact absurd rfl number
  | infinite n => rfl
  | finite n m e => cases m <;> rfl

end Binary64

theorem cents_column (n : Bool) {c : Nat} (pos : c ≠ 0) (bound : c ≤ greatestCents) :
    ∃ column, moneyColumn (.finite n c (-2)) = .ok column ∧ column.isFinite := by
  have small : (c : ℚ) / (100 : Nat) < 2 ^ (Binary64.greatestExponent - 1) := by
    have le : (c : ℚ) ≤ (greatestCents : Nat) := by exact_mod_cast bound
    calc
      (c : ℚ) / (100 : Nat) ≤ 2 ^ (54 : Int) := by
        rw [div_le_iff₀ (by norm_num)]
        exact le.trans (by norm_num [greatestCents])
      _ < 2 ^ (Binary64.greatestExponent - 1) :=
        zpow_lt_zpow_right₀ (by norm_num) (by decide)
  obtain ⟨m, e, rounded, -⟩ := Binary64.ofRatio_roundsTo n pos (d := 100) (by decide) small
  refine ⟨.finite n m e, ?_, rfl⟩
  rw [moneyColumn_eq_ok, Binary64.ofDecimal?_cents n (lt_centsBound bound), rounded]

theorem exceeds?_toCents (cents : Nat) {b : Binary64} (number : b ≠ .nan) :
    ∃ above, (Decimal.ofCents cents).exceeds? b.toCents = some above := by
  cases b with
  | nan => exact absurd rfl number
  | infinite n => exact ⟨_, rfl⟩
  | finite n m e => exact ⟨_, rfl⟩

theorem signedDelta_column (id : Uuid) {b : Binary64} (number : b ≠ .nan) {amount : Decimal}
    (given : amount.IsAmount) (kind : Kind) :
    (∃ refusal, signedDelta id b.toCents amount kind = refuse refusal) ∨
      ∃ delta column, signedDelta id b.toCents amount kind = .ok delta ∧
        moneyColumn delta = .ok column ∧ column.isFinite := by
  obtain ⟨cents, pos, bound, rfl⟩ := given
  by_cases debit : kind = .debit
  · subst debit
    obtain ⟨above, order⟩ := exceeds?_toCents cents number
    cases above with
    | true => exact .inl ⟨_, signedDelta_short id order⟩
    | false =>
      obtain ⟨column, binary, finite⟩ := cents_column true pos.ne' bound
      refine .inr ⟨_, column, ?_, binary, finite⟩
      rw [signedDelta_covered id order, Decimal.ofCents,
        Decimal.negate?_cents pos.ne' (lt_centsBound bound)]
      rfl
  · obtain ⟨column, binary, finite⟩ := cents_column false pos.ne' bound
    exact .inr ⟨_, column, signedDelta_credit _ _ _ debit, binary, finite⟩

theorem change_column {id : Uuid} {b : Binary64} (number : b ≠ .nan) {amount delta : Decimal}
    (given : amount.IsAmount) {kind : Kind} (change : signedDelta id b.toCents amount kind = .ok delta) :
    ∃ column, moneyColumn delta = .ok column ∧ column.isFinite := by
  rcases signedDelta_column id number given kind with
    ⟨refusal, refused⟩ | ⟨delta', column, change', binary, finite⟩
  · cases refused.symm.trans change
  · obtain rfl : delta' = delta := Except.ok.inj (change'.symm.trans change)
    exact ⟨column, binary, finite⟩

theorem resolveCurrency_isSome (requested : Option String) (currency : String) :
    (resolveCurrency requested (some currency)).isSome := by
  unfold resolveCurrency
  split
  · rfl
  · split_ifs <;> rfl

/-! ## Operations -/

namespace Database
variable {db : Database}

theorem updateBalance_provisioned (reachable : db.reachable) (owner id : Uuid) {delta : Binary64}
    (now : Instant) (sums : ∀ row ∈ db.rows.accounts, row.balance.add delta ≠ .nan) :
    db.provisioned.updateBalance owner id delta now =
      .ok { db.provisioned with
        accounts := some (db.rows.accounts.map (·.moved owner id delta now)) } := by
  have each : ∀ row ∈ db.rows.accounts,
      addToBalance owner id delta now row = .ok (row.moved owner id delta now) := by
    intro row mem
    unfold addToBalance AccountRow.moved
    split_ifs
    · rw [Binary64.stored_of_ne_nan (sums row mem)]
      rfl
    · rfl
  rw [updateBalance, accountRows_provisioned reachable]
  simp only [Except.ok_bind, Except.mapM_eq_ok each]
  rfl

end Database

namespace Durable
variable {db : Database} {s : Supply} {stamp : Stamp} {attempts : Nat}

theorem apply_records (numeric : db.Numeric) {owner id : Uuid} {amount delta : Decimal}
    {currency : Option String} {kind : Kind} {description : Option String} {row : AccountRow}
    {column : Binary64} (found : db.rows.accounts.find? (Database.isKeptUnder owner id) = some row)
    (change : signedDelta row.id row.balance.toCents amount kind = .ok delta)
    (binary : moneyColumn delta = .ok column) (finite : column.isFinite) (money : amount.Storable)
    (known : kind.text.isSome) :
    let t := transactionOn stamp row owner id amount currency kind description
    apply stamp false owner id amount currency kind description db.provisioned =
      .ok (.transaction t, { db.provisioned with
        accounts := some (db.rows.accounts.map (·.moved owner id column stamp.now))
        transactions := some (db.rows.transactions ++ [t.toRow]) }) := by
  intro t
  have find := Database.findAccount_provisioned numeric.reachable owner id
  rw [found] at find
  have update := Database.updateBalance_provisioned numeric.reachable owner id stamp.now
    fun row mem => Binary64.add_ne_nan (numeric.numbers row mem) finite
  let changed : Database := { db.provisioned with
    accounts := some (db.rows.accounts.map (·.moved owner id column stamp.now)) }
  have stillOpen : changed.reachable := numeric.reachable
  have record : changed.insertTransaction t = _ :=
    Database.insertTransaction_provisioned stillOpen money (resolveCurrency_isSome _ _) known rfl
  exact apply_eq_ok.2 ⟨rfl, row, delta, column, _, find, change, binary, update, record, rfl⟩

theorem apply_stands (numeric : db.Numeric) (stamp : Stamp) (owner id : Uuid) {amount : Decimal}
    (given : amount.IsAmount) (currency : Option String) {kind : Kind}
    (known : kind = .credit ∨ kind = .debit) (description : Option String) :
    Stands (apply stamp false owner id amount currency kind description db.provisioned) := by
  cases found : db.rows.accounts.find? (Database.isKeptUnder owner id) with
  | none => exact .inr ⟨.accountNotFound id, apply_unknown numeric.reachable found⟩
  | some row =>
    have number := numeric.numbers row (List.mem_of_find?_eq_some found)
    rcases signedDelta_column row.id number given kind with
      ⟨refusal, refused⟩ | ⟨delta, column, change, binary, finite⟩
    · exact .inr ⟨refusal, apply_refused numeric.reachable found refused⟩
    · exact .inl ⟨_, apply_records numeric found change binary finite given.storable
        (Kind.text_isSome known)⟩

theorem listTransactions_stands (reachable : db.reachable) (owner : Uuid) (account : Option Uuid) :
    Stands (listTransactions owner account db.provisioned) := by
  by_cases known : ∀ id ∈ account,
      (db.rows.accounts.find? (Database.isKeptUnder owner id)).isSome
  · exact .inl ⟨_, listTransactions_known reachable known⟩
  · obtain ⟨id, named, unknown⟩ : ∃ id ∈ account,
        ¬(db.rows.accounts.find? (Database.isKeptUnder owner id)).isSome := by
      simpa only [not_forall, exists_prop] using known
    obtain rfl : account = some id := named
    rw [Option.not_isSome_iff_eq_none] at unknown
    exact .inr ⟨_, listTransactions_unknown reachable unknown⟩

theorem listAccounts_provisioned (reachable : db.reachable) (owner : Uuid) :
    listAccounts owner db.provisioned =
      .ok (.accounts ((db.rows.accountsOf owner).map (·.toAccount)), db.provisioned) :=
  Except.bind_eq_ok.2
    ⟨_, orFail_eq_ok.2 (Database.selectAccounts_provisioned reachable owner), rfl⟩

theorem listPayees_provisioned (reachable : db.reachable) (owner : Uuid) :
    listPayees owner db.provisioned =
      .ok (.payees ((db.rows.payeesOf owner).map (·.toPayee)), db.provisioned) :=
  Except.bind_eq_ok.2
    ⟨_, orFail_eq_ok.2 (Database.selectPayees_provisioned reachable owner), rfl⟩

theorem deletePayees_provisioned (reachable : db.reachable) (owner : Uuid) :
    deletePayees owner db.provisioned =
      .ok (.removed (db.rows.payees.filter (·.owner == owner)).length,
        { db.provisioned with payees := some (db.rows.payees.filter (·.owner != owner)) }) :=
  Except.bind_eq_ok.2
    ⟨_, orFail_eq_ok.2 (Database.deletePayees_provisioned reachable owner), rfl⟩

theorem createPayee_provisioned (reachable : db.reachable) (stamp : Stamp) (owner : Uuid)
    (name number : String) :
    createPayee stamp owner (some name) (some number) db.provisioned =
      if db.rows.payees.any fun row => row.owner == owner && row.number == number then
        refuse (.duplicatePayee (some number))
      else .ok (.payee ⟨stamp.first, owner, some name, some number, stamp.now⟩,
        { db.provisioned with
          payees := some (db.rows.payees ++
            [Payee.toRow ⟨stamp.first, owner, some name, some number, stamp.now⟩]) }) := by
  have rows : db.provisioned.payeeRows = .ok db.rows.payees :=
    Database.payeeRows_provisioned reachable
  simp only [createPayee, Database.insertPayee, rows, required, Except.ok_bind]
  split_ifs <;> rfl

theorem createPayee_stands (reachable : db.reachable) (stamp : Stamp) (owner : Uuid)
    (name number : String) :
    Stands (createPayee stamp owner (some name) (some number) db.provisioned) := by
  rw [createPayee_provisioned reachable]
  split_ifs
  · exact .inr ⟨_, rfl⟩
  · exact .inl ⟨_, rfl⟩

theorem perform_stands {body : Stamp → Database → Except Failure (Answer × Database)}
    (stands : Stands (body s.stamp.1 db)) : Stands (perform ⟨db, []⟩ body s).result := by
  rcases stands with ⟨⟨answer, db'⟩, done⟩ | ⟨refusal, refused⟩
  · exact .inl ⟨answer, by rw [perform_done done]⟩
  · exact .inr ⟨refusal, by rw [perform_failed refused]⟩

theorem run_answers (numeric : db.Numeric) (attempts : Nat) {op : Operation} (checked : op.Checked)
    (s : Supply) :
    let result := (run attempts false op ⟨db.provisioned, []⟩ s).result
    Stands result ∨ (op.method = .createAccount ∧ ∀ i < attempts, db.Uses (s.candidate i)) ∧
      result = .error (.unavailable .noFreeNumber) := by
  have reachable := numeric.reachable
  cases op with
  | createAccount owner label currency opening =>
    obtain ⟨has_label, has_currency, given⟩ := checked
    obtain ⟨label, rfl⟩ := Option.isSome_iff_exists.1 has_label
    obtain ⟨currency, rfl⟩ := Option.isSome_iff_exists.1 has_currency
    by_cases some : ∃ i < attempts, ¬db.Uses (s.candidate i)
    · obtain ⟨i, first⟩ := Supply.exists_firstFree.2 some
      have opens := createAccount_opens attempts owner label currency reachable given.isDeposit first
      exact .inl (.inl ⟨_, opens.1⟩)
    · have all : ∀ i < attempts, db.Uses (s.candidate i) := by simpa using some
      have unopened := createAccount_unopened attempts owner label currency reachable
        given.isDeposit all
      exact .inr ⟨⟨rfl, all⟩, unopened.1⟩
  | listAccounts owner =>
    exact .inl (perform_stands (.inl ⟨_, listAccounts_provisioned reachable owner⟩))
  | listTransactions owner account =>
    exact .inl (perform_stands (listTransactions_stands reachable owner account))
  | applyTransaction owner id amount currency kind description =>
    obtain ⟨given, known, -⟩ := checked
    exact .inl (perform_stands (apply_stands numeric _ owner id given currency known description))
  | listPayees owner =>
    exact .inl (perform_stands (.inl ⟨_, listPayees_provisioned reachable owner⟩))
  | createPayee owner name number =>
    obtain ⟨⟨name, rfl, -⟩, number, rfl, -⟩ := checked
    exact .inl (perform_stands (createPayee_stands reachable _ owner _ _))
  | deletePayees owner =>
    exact .inl (perform_stands (.inl ⟨_, deletePayees_provisioned reachable owner⟩))

theorem run_first {op : Operation} (checked : op.Checked)
    (tries : attempts ≠ 0 ∨ op.method ≠ .createAccount) (s : Supply) :
    Stands (run attempts false op ⟨Database.empty.provisioned, []⟩ s).result := by
  have numeric : Database.empty.Numeric := ⟨rfl, fun row mem => by cases mem⟩
  refine (run_answers numeric attempts checked s).resolve_right ?_
  rintro ⟨⟨creates, used⟩, -⟩
  rcases tries with some | other
  · obtain ⟨row, mem, -⟩ := used 0 (Nat.pos_of_ne_zero some)
    cases mem
  · exact other creates

/-! ## Balances -/

theorem settled_opening_ne_nan {x : Decimal} (deposit : x.IsDeposit) : x.settled ≠ .nan := by
  obtain ⟨column, -, held⟩ := deposit.columns
  rintro nan
  rw [nan] at held
  cases column with
  | nan | infinite => cases held
  | finite n m e => cases m <;> cases held

theorem moved_numbers {rows : List AccountRow} {owner id : Uuid} {delta : Binary64} {now : Instant}
    (numbers : ∀ row ∈ rows, row.balance ≠ .nan) (finite : delta.isFinite) :
    ∀ row ∈ rows.map (·.moved owner id delta now), row.balance ≠ .nan := by
  intro row mem
  obtain ⟨old, hold, rfl⟩ := List.mem_map.1 mem
  unfold AccountRow.moved
  split_ifs
  · exact Binary64.settled_ne_nan (Binary64.add_ne_nan (numbers old hold) finite)
  · exact numbers old hold

theorem Does.numeric {r r' : Rows} {op : Operation} {answer : Answer} (checked : op.Checked)
    (numbers : ∀ row ∈ r.accounts, row.balance ≠ .nan) (does : Rows.Does stamp r op answer r') :
    ∀ row ∈ r'.accounts, row.balance ≠ .nan := by
  cases does with
  | accounts | transactions | payees | saved | cleared => exact numbers
  | opened | openedEmpty =>
    intro row mem
    rcases List.mem_append.1 mem with old | new
    · exact numbers row old
    · rw [List.mem_singleton.1 new]
      exact settled_opening_ne_nan checked.2.2.isDeposit
  | @moved owner id amount currency kind description kept delta column found change binary =>
    have number := numbers kept (List.mem_of_find?_eq_some found)
    obtain ⟨column', binary', finite⟩ := change_column number checked.1 change
    obtain rfl : column' = column := by
      rw [moneyColumn_eq_ok, binary, Option.some.injEq] at binary'
      exact binary'.symm
    exact moved_numbers numbers finite

theorem run_numeric {d : Durable} (numeric : d.database.Numeric) (vanished : Bool) {op : Operation}
    (checked : op.Checked) : (d.run attempts vanished op s).state.1.database.Numeric := by
  cases result : (d.run attempts vanished op s).result with
  | error failure => rwa [run_error result]
  | ok answer =>
    obtain ⟨s₀, -, -, does, schema⟩ := run_does result
    exact ⟨schema.reachable.trans numeric.reachable, Does.numeric checked numeric.numbers does⟩

end Durable
end Passbook
