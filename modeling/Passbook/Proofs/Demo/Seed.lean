import Passbook.Proofs.Demo.Sample

/-!
# Seeding twice, and after a reset

- `plans_sound`: the plans can be carried out
- `Demo.Seeded`: what there is after the sample data of an owner was booked
- `seed_skips`, `seed_books`: an owner with transactions, and one without
- `Rows.anonymous`: rows without their identifiers, numbers and moments
- `seed_once`: the sample data is booked once, and after a reset as in an empty database
-/

namespace Passbook

/-! ## The plans -/

theorem moves_of_cents {kind : Kind} {cents left : Nat} {balance : Decimal} (delta : Decimal)
    (column : Binary64) (known : kind = .credit ∨ kind = .debit)
    (given : 0 < cents ∧ cents ≤ greatestCents) (kept : 0 < left ∧ left ≤ greatestCents)
    (change : ∀ id, signedDelta id balance (.ofCents cents) kind = .ok delta)
    (reads : (Decimal.ofCents cents).settled.toCents = .ofCents cents ∧
      (Decimal.ofCents left).settled.toCents = .ofCents left)
    (sum : balance.add? delta = .ok (.ofCents left))
    (stored : moneyColumn delta = .ok column ∧ column.isFinite ∧
      (balance.settled.add column).settled = (Decimal.ofCents left).settled) :
    Moves kind (.ofCents cents) balance (.ofCents left) :=
  ⟨⟨_, given.1, given.2, rfl⟩, ⟨_, kept.1, kept.2, rfl⟩, known, reads, delta, column, change, sum,
    stored⟩

namespace Demo

theorem checking_leads : Leads plans[0].opening plans[0].entries (.ofCents 255050) := by
  have salary : Moves .credit (.ofCents 10000) (.ofCents 250050) (.ofCents 260050) :=
    moves_of_cents (.ofCents 10000) (Decimal.ofCents 10000).settled (.inl rfl) (by decide)
      (by decide) (fun id => signedDelta_credit id _ _ nofun) (by decide +kernel)
      (by decide +kernel) (by decide +kernel)
  have groceries : Moves .debit (.ofCents 5000) (.ofCents 260050) (.ofCents 255050) :=
    moves_of_cents (.finite true 5000 (-2)) (Decimal.finite true 5000 (-2)).settled (.inr rfl)
      (by decide) (by decide)
      (fun id => signedDelta_debit id (Decimal.isCents_ofCents 260050) (by decide) (by decide))
      (by decide +kernel) (by decide +kernel) (by decide +kernel)
  exact .next salary (.next groceries .done)

theorem savings_leads : Leads plans[1].opening plans[1].entries (.ofCents 1050000) := by
  have transfer : Moves .credit (.ofCents 50000) (.ofCents 1000000) (.ofCents 1050000) :=
    moves_of_cents (.ofCents 50000) (Decimal.ofCents 50000).settled (.inl rfl) (by decide)
      (by decide) (fun id => signedDelta_credit id _ _ nofun) (by decide +kernel)
      (by decide +kernel) (by decide +kernel)
  exact .next transfer .done

theorem plans_sound : ∀ plan ∈ plans, plan.Sound := by
  rw [plans, List.forall_mem_cons, List.forall_mem_singleton]
  constructor
  · exact ⟨by decide +kernel, by decide, ⟨250050, by decide, by decide, rfl⟩, by decide +kernel, _,
      checking_leads⟩
  · exact ⟨by decide +kernel, by decide, ⟨1000000, by decide, by decide, rfl⟩, by decide +kernel, _,
      savings_leads⟩

variable {terms : Terms} {owner : Uuid} {currency : String} {w after : World} {a b : Account}
  {ts us : List Transaction}

/-! ## One run -/

/-- There is an account number for each account of the sample data, once the transactions of the
owner have been listed. -/
def NumbersSuffice (terms : Terms) (currency : String) (owner : Uuid) (w : World) : Prop :=
  HaveNumbers terms owner currency plans
    ((Progress.start w).after terms (.listTransactions owner none))

theorem hasTransactions_iff {shown : List Transaction} :
    hasTransactions (.transactions shown) ↔ shown ≠ [] := by
  cases shown <;> simp [hasTransactions]

def SameRecords (w after : World) : Prop := after.book = w.book ∧ after.rows = w.rows

theorem seed_skips (terms : Terms) (currency : String) (name : Uuid → String) (serves : w.Serves)
    (some : w.transactions owner ≠ []) :
    let first := seed terms currency name owner w
    first.1 = false ∧ first.2.failure = none ∧ SameRecords w first.2.world ∧
      w.Grown owner [] [] first.2.world := by
  obtain ⟨⟨shown, ok, nothing⟩, grown⟩ := serves.listTransactions terms owner
  have has : hasTransactions (.transactions shown) := hasTransactions_iff.2 (mt nothing.1 some)
  simp only [seed, ok, has, if_true]
  exact ⟨trivial, rfl, World.perform_listTransactions_kept terms w owner none, grown⟩

/-- What the owner has afterwards: two new accounts with their transactions, beside what there was.
Nothing else changes, for the owner or for others. -/
structure Seeded (currency : String) (owner : Uuid) (w after : World) (a b : Account) : Prop where
  accounts : (after.accounts owner).Perm (w.accounts owner ++ [a, b])
  fresh : a.id ≠ b.id ∧ ∀ c ∈ w.accounts owner, c.id ≠ a.id ∧ c.id ≠ b.id
  owners : a.owner = owner ∧ b.owner = owner
  labels : a.label = some "Checking" ∧ b.label = some "Savings"
  currencies : a.currency = some currency ∧ b.currency = some currency
  balances : a.balance = .ofCents 255050 ∧ b.balance = .ofCents 1050000
  checking : ((after.transactions owner).filter (·.account == a.id)).map (·.gist) =
    [(.credit, .ofCents 250050, some "Initial deposit"),
      (.credit, .ofCents 10000, some "Salary deposit"),
      (.debit, .ofCents 5000, some "Grocery shopping")]
  savings : ((after.transactions owner).filter (·.account == b.id)).map (·.gist) =
    [(.credit, .ofCents 1000000, some "Initial deposit"),
      (.credit, .ofCents 50000, some "Transfer from checking")]
  transactions : ∃ ts, after.transactions owner = w.transactions owner ++ ts ∧
    (∀ t ∈ ts, t.IsOn a ∨ t.IsOn b) ∧ w.Adds owner [a, b] ts after
  others : ∀ other ≠ owner, after.book.shelf other = w.book.shelf other ∧
    after.rows.of other = w.rows.of other

theorem seed_books (terms : Terms) (currency : String) (name : Uuid → String) (known : w.Known)
    (serves : w.Serves) (bare : w.transactions owner = [])
    (numbers : NumbersSuffice terms currency owner w) :
    let first := seed terms currency name owner w
    first.1 = true ∧ first.2.failure = none ∧ ∃ a b ts us,
      w.Grown owner [a, b] (ts ++ us) first.2.world ∧
      Sample owner (currencyOf terms currency) plans[0] a ts ∧
      Sample owner (currencyOf terms currency) plans[1] b us := by
  obtain ⟨⟨shown, ok, nothing⟩, listed⟩ := serves.listTransactions terms owner
  have has : hasTransactions (.transactions shown) = false :=
    Bool.eq_false_iff.2 (mt hasTransactions_iff.1 (not_not.2 (nothing.2 bare)))
  have books : seed terms currency name owner w = (true, openAccounts terms owner currency plans
      ((Progress.start w).after terms (.listTransactions owner none))) := by
    simp only [seed, ok, has]
    rfl
  obtain ⟨samples, fine, grown, made⟩ := openAccounts_grown
    (p := (Progress.start w).after terms _) known plans_sound listed rfl numbers
  obtain _ | ⟨checking, _ | ⟨savings, ⟨⟩⟩⟩ := made
  rw [books]
  exact ⟨rfl, fine, _, _, _, _, by simpa using grown, checking, savings⟩

theorem Sample.filter_own {plan : Plan} (h : Sample owner currency plan a ts) :
    ts.filter (·.account == a.id) = ts :=
  List.filter_eq_self.2 fun t mem => by simp [(h.on t mem).account]

theorem Sample.filter_other {plan : Plan} (h : Sample owner currency plan a ts) {id : Uuid}
    (ne : a.id ≠ id) : ts.filter (·.account == id) = [] :=
  List.filter_eq_nil_iff.2 fun t mem => by simp [(h.on t mem).account, ne]

theorem seeded_of_samples (known : w.Known) (grown : w.Grown owner [a, b] (ts ++ us) after)
    (checking : Sample owner currency plans[0] a ts)
    (savings : Sample owner currency plans[1] b us) : Seeded currency owner w after a b := by
  have apart : a.id ≠ b.id := by simpa using grown.distinct
  have strange (c : Account) (mem : c ∈ w.accounts owner) : c.id ≠ a.id ∧ c.id ≠ b.id :=
    ⟨fun same => (grown.fresh a (by simp)).1 (same ▸ grown.issued known mem),
      fun same => (grown.fresh b (by simp)).1 (same ▸ grown.issued known mem)⟩
  constructor
  case accounts => exact grown.shown_accounts
  case fresh => exact ⟨apart, strange⟩
  case owners => exact ⟨checking.owner, savings.owner⟩
  case labels => exact ⟨checking.label, savings.label⟩
  case currencies => exact ⟨checking.currency, savings.currency⟩
  case balances =>
    exact ⟨checking.balance.unique checking_leads, savings.balance.unique savings_leads⟩
  case checking =>
    rw [grown.history known (by simp), List.filter_append, checking.filter_own,
      savings.filter_other apart.symm, List.append_nil]
    exact checking.history
  case savings =>
    rw [grown.history known (by simp), List.filter_append, checking.filter_other apart,
      savings.filter_own, List.nil_append]
    exact savings.history
  case transactions =>
    refine ⟨ts ++ us, grown.shown_transactions, fun t mem => ?_, grown.stores⟩
    rcases List.mem_append.1 mem with first | second
    · exact .inl (checking.on t first)
    · exact .inr (savings.on t second)
  case others => exact fun other ne => grown.apart ne

end Demo

/-! ## What is left of rows without names and times -/

def AccountRow.anonymous (row : AccountRow) : AccountRow :=
  { row with id := ⟨0⟩, number := "", createdAt := ⟨0⟩, updatedAt := ⟨0⟩ }

def TransactionRow.anonymous (place : Nat) (row : TransactionRow) : TransactionRow :=
  { row with id := ⟨0⟩, account := ⟨place⟩, createdAt := ⟨0⟩ }

def PayeeRow.anonymous (row : PayeeRow) : PayeeRow := { row with id := ⟨0⟩, createdAt := ⟨0⟩ }

/-- Rows up to identifiers, account numbers and moments. -/
def Rows.anonymous (r : Rows) : Rows :=
  ⟨r.accounts.map (·.anonymous),
    r.transactions.map fun row => row.anonymous (r.accounts.findIdx (·.id == row.account)),
    r.payees.map (·.anonymous)⟩

namespace Demo
variable {owner : Uuid} {currency : String} {a b a' b' : Account} {plan : Plan}
  {ts us ts' us' : List Transaction}

theorem Sample.account_alike (h : Sample owner currency plan a ts)
    (h' : Sample owner currency plan a' ts') : a.toRow.anonymous = a'.toRow.anonymous := by
  simp only [Account.toRow, AccountRow.anonymous, h.owner, h'.owner, h.label, h'.label, h.currency,
    h'.currency, h.balance.unique h'.balance]

def rowOf (owner : Uuid) (currency : String) (place : Nat) :
    Kind × Decimal × Option String → TransactionRow
  | (kind, amount, description) =>
    ⟨⟨0⟩, ⟨place⟩, owner, amount.settled, currency, kind.text.getD "", description.getD "", ⟨0⟩⟩

theorem Sample.rows (h : Sample owner currency plan a ts) (place : Nat) :
    ts.map (·.toRow.anonymous place) =
      (plan.history.map Entry.gist).map (rowOf owner currency place) := by
  rw [← h.history, List.map_map]
  refine List.map_congr_left fun t mem => ?_
  obtain ⟨-, own, same⟩ := h.on t mem
  simp only [Transaction.toRow, TransactionRow.anonymous, own, h.owner, same, h.currency,
    Option.getD_some]
  rfl

theorem anonymous_pair (apart : a.id ≠ b.id) (on : ∀ t ∈ ts, t.account = a.id)
    (on' : ∀ t ∈ us, t.account = b.id) :
    (Rows.mk ([a, b].map Account.toRow) ((ts ++ us).map Transaction.toRow) []).anonymous =
      ⟨[a.toRow.anonymous, b.toRow.anonymous],
        ts.map (·.toRow.anonymous 0) ++ us.map (·.toRow.anonymous 1), []⟩ := by
  have first : ∀ t ∈ ts, [a.toRow, b.toRow].findIdx (·.id == t.toRow.account) = 0 := by
    intro t mem
    simp [List.findIdx_cons, on t mem]
  have second : ∀ t ∈ us, [a.toRow, b.toRow].findIdx (·.id == t.toRow.account) = 1 := by
    intro t mem
    simp [List.findIdx_cons, on' t mem, beq_eq_false_iff_ne.2 apart]
  simp only [Rows.anonymous, List.map_append, List.map_map, List.map_cons, List.map_nil]
  congr 1
  congr 1
  · exact List.map_congr_left fun t mem => congrArg (t.toRow.anonymous ·) (first t mem)
  · exact List.map_congr_left fun t mem => congrArg (t.toRow.anonymous ·) (second t mem)

variable {terms : Terms} {v w : World} {db db' : Database}

theorem Sample.ne_nil (h : Sample owner currency plan a ts) : ts ≠ [] := by
  rintro rfl
  cases h.history

/-! ## One run after another -/

theorem seed_again (name : Uuid → String) (known : w.Known) (serves : w.Serves)
    (numbers : w.transactions owner = [] → NumbersSuffice terms currency owner w) :
    let first := seed terms currency name owner w
    let again := seed terms currency name owner first.2.world
    again.1 = false ∧ again.2.failure = none ∧ SameRecords first.2.world again.2.world := by
  intro first again
  obtain ⟨as, ts, grown, has⟩ : ∃ as ts, w.Grown owner as ts first.2.world ∧
      first.2.world.transactions owner ≠ [] := by
    by_cases bare : w.transactions owner = []
    · obtain ⟨-, -, a, b, ts, us, grown, checking, -⟩ :=
        seed_books terms currency name known serves bare (numbers bare)
      refine ⟨_, _, grown, ?_⟩
      rw [grown.shown_transactions]
      simp [checking.ne_nil]
    · obtain ⟨-, -, -, grown⟩ := seed_skips terms currency name serves bare
      refine ⟨_, _, grown, ?_⟩
      rwa [grown.shown_transactions, List.append_nil]
  obtain ⟨skipped, fine, same, -⟩ := seed_skips terms currency name grown.serves has
  exact ⟨skipped, fine, same⟩

theorem seed_empty (terms : Terms) (currency : String) (name : Uuid → String) (owner : Uuid)
    (healthy : w.Healthy db) (empty : w.rows = ⟨[], [], []⟩)
    (numbers : NumbersSuffice terms currency owner w) :
    let first := seed terms currency name owner w
    first.1 = true ∧ first.2.failure = none ∧ ∃ a b ts us,
      Sample owner (currencyOf terms currency) plans[0] a ts ∧
      Sample owner (currencyOf terms currency) plans[1] b us ∧
      first.2.world.rows.anonymous = ⟨[a.toRow.anonymous, b.toRow.anonymous],
        ts.map (·.toRow.anonymous 0) ++ us.map (·.toRow.anonymous 1), []⟩ := by
  have known : w.Known := .empty (fun none => by cases none.symm.trans healthy.durable) empty
  have bare : w.transactions owner = [] := by
    rw [healthy.transactions, ← World.rows_of_durable healthy.durable, empty]
    rfl
  obtain ⟨seeded, fine, a, b, ts, us, grown, checking, savings⟩ :=
    seed_books terms currency name known (.inr ⟨_, healthy⟩) bare numbers
  refine ⟨seeded, fine, a, b, ts, us, checking, savings, ?_⟩
  have apart : a.id ≠ b.id := by simpa using grown.distinct
  rw [← anonymous_pair apart (fun t mem => (checking.on t mem).account)
    fun t mem => (savings.on t mem).account]
  congr 1
  cases grown.stores with
  | memory before => cases before.durable.symm.trans healthy.durable
  | database before after rows =>
    rw [World.rows_of_durable before.durable] at empty
    rw [World.rows_of_durable after.durable, rows, empty]
    rfl

theorem reset_seed (terms : Terms) (currency : String) (name : Uuid → String) (owner : Uuid)
    (healthy : v.Healthy db) (healthy' : w.Healthy db') (empty : v.rows = ⟨[], [], []⟩)
    (numbers : NumbersSuffice terms currency owner v)
    (numbers' : NumbersSuffice terms currency owner (reset w).world) :
    let first := seed terms currency name owner v
    let first' := seed terms currency name owner (reset w).world
    (reset w).failure = none ∧ (first.1 = true ∧ first.2.failure = none) ∧
      (first'.1 = true ∧ first'.2.failure = none) ∧
      first'.2.world.rows.anonymous = first.2.world.rows.anonymous := by
  obtain ⟨fine, cleared⟩ := healthy'.reset
  have opened : (reset w).world.Healthy Database.empty.provisioned := by
    rw [cleared]
    exact ⟨rfl, rfl, healthy'.quiet⟩
  obtain ⟨seeded, done, a, b, ts, us, checking, savings, left⟩ :=
    seed_empty terms currency name owner healthy empty numbers
  obtain ⟨seeded', done', a', b', ts', us', checking', savings', left'⟩ :=
    seed_empty terms currency name owner opened (World.rows_of_durable opened.durable) numbers'
  refine ⟨fine, ⟨seeded, done⟩, ⟨seeded', done'⟩, ?_⟩
  rw [left, left', checking.account_alike checking', savings.account_alike savings', checking.rows,
    checking'.rows, savings.rows, savings'.rows]

/-- For an owner without transactions the sample data is booked, for any other nothing is, so that
it is booked once. After a reset it is booked as in an empty database, whatever there was. -/
theorem seed_once (terms : Terms) (currency : String) (name : Uuid → String) (owner : Uuid) :
    (∀ w : World, w.Visited terms → w.Serves →
      (w.transactions owner = [] → NumbersSuffice terms currency owner w) →
      let first := seed terms currency name owner w
      let again := seed terms currency name owner first.2.world
      first.2.failure = none ∧
        (first.1 = false ∧ SameRecords w first.2.world ↔ w.transactions owner ≠ []) ∧
        (w.transactions owner = [] → first.1 = true ∧
          ∃ a b, Seeded (currencyOf terms currency) owner w first.2.world a b) ∧
        again.1 = false ∧ again.2.failure = none ∧ SameRecords first.2.world again.2.world) ∧
    ∀ (v w : World) (db db' : Database), v.Healthy db → w.Healthy db' → v.rows = ⟨[], [], []⟩ →
      NumbersSuffice terms currency owner v →
      NumbersSuffice terms currency owner (reset w).world →
      let first := seed terms currency name owner v
      let first' := seed terms currency name owner (reset w).world
      (reset w).failure = none ∧ (first.1 = true ∧ first.2.failure = none) ∧
        (first'.1 = true ∧ first'.2.failure = none) ∧
        first'.2.world.rows.anonymous = first.2.world.rows.anonymous := by
  refine ⟨fun w visited serves numbers => ?_, fun v w db db' healthy healthy' =>
    reset_seed terms currency name owner healthy healthy'⟩
  have repeats := seed_again name visited.known serves numbers
  by_cases bare : w.transactions owner = []
  · obtain ⟨seeded, fine, a, b, ts, us, grown, checking, savings⟩ :=
      seed_books terms currency name visited.known serves bare (numbers bare)
    exact ⟨fine, by simp [seeded, bare], fun _ =>
      ⟨seeded, a, b, seeded_of_samples visited.known grown checking savings⟩, repeats⟩
  · obtain ⟨skipped, fine, same, -⟩ := seed_skips terms currency name serves bare
    exact ⟨fine, iff_of_true ⟨skipped, same⟩ bare, fun none => absurd none bare, repeats⟩

theorem seed_once_durable :
    let w : World := ⟨.empty, some ⟨Database.empty, []⟩, ⟨0, 0, 0, id⟩, .empty⟩
    let used := (w.perform .standard (.createAccount ⟨1⟩ none none none)).state
    let first := seed .standard "NZD" Uuid.text ownerId w
    let again := seed .standard "NZD" Uuid.text ownerId first.2.world
    let cleared := seed .standard "NZD" Uuid.text ownerId (reset used).world
    (first.1 = true ∧ ∃ a b, Seeded "NZD" ownerId w first.2.world a b) ∧
      (again.1 = false ∧ SameRecords first.2.world again.2.world) ∧
      used.rows.accounts.length = 1 ∧
      cleared.2.world.rows.anonymous = first.2.world.rows.anonymous := by
  intro w used first again cleared
  have healthy : w.Healthy Database.empty := ⟨rfl, rfl, rfl⟩
  obtain ⟨db, healthy'⟩ : ∃ db, used.Healthy db := World.perform_healthy _ healthy
  have numbers : NumbersSuffice .standard "NZD" ownerId w := by
    rintro (_ | _ | n) plan mem <;> cases mem <;>
      exact World.not_outOfNumbers (by decide +kernel) rfl (by decide +kernel) (by decide +kernel)
  have numbers' : NumbersSuffice .standard "NZD" ownerId (reset used).world := by
    rintro (_ | _ | n) plan mem <;> cases mem <;>
      exact World.not_outOfNumbers (by decide +kernel) rfl (by decide +kernel) (by decide +kernel)
  obtain ⟨once, alike⟩ := seed_once .standard "NZD" Uuid.text ownerId
  obtain ⟨-, -, booked, repeats⟩ := once w (.fresh rfl rfl) (.inr ⟨_, healthy⟩) fun _ => numbers
  obtain ⟨-, -, -, same⟩ := alike w used _ db healthy healthy' rfl numbers numbers'
  exact ⟨booked rfl, ⟨repeats.1, repeats.2.2⟩, by decide +kernel, same⟩

end Demo
end Passbook
