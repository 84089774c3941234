import Passbook.Proofs.Listing.Told

/-!
# Listings

- `perform_listTransactions`: what a listing of transactions answers
- `perform_listAccounts`: what a listing of accounts answers, and what it opens
- `Listings`: what an owner can rely on
- `listings_complete`: this holds after all calls of all owners, in memory and in the database
-/

namespace Passbook

def Call.Lists (owner : Uuid) : Call → Prop
  | .listAccounts holder | .listTransactions holder _ => holder = owner
  | .createAccount .. | .applyTransaction .. | .makePayment .. | .listPayees .. | .createPayee ..
  | .deletePayees .. => False

/-! ## Transactions in either store -/

namespace Book
variable {b : Book} {owner id : Uuid} {account : Option Uuid}

theorem listTransactions_known (known : ∀ id ∈ account, ∃ a ∈ (b.shelf owner).accounts, a.id = id) :
    b.listTransactions owner account = .ok (.transactions
      ((b.shelf owner).transactions.reverse.filter fun t => account.all (t.account == ·))) := by
  cases account with
  | none => simp [listTransactions]
  | some id =>
    have any : (b.shelf owner).accounts.any (·.id == id) := by simpa using known id rfl
    simp only [listTransactions, any, if_true, Option.all_some]

theorem listTransactions_unknown (unknown : ∀ a ∈ (b.shelf owner).accounts, a.id ≠ id) :
    b.listTransactions owner (some id) = refuse (.accountNotFound id) := by
  have none : (b.shelf owner).accounts.any (·.id == id) = false := by simpa using unknown
  simp only [listTransactions, none, Bool.false_eq_true, if_false]

theorem Does.of_listTransactions {terms : BookTerms} {stamp : Stamp} {b' : Book}
    {result : Except Failure Answer}
    (does : Does terms stamp b (.listTransactions owner account) result b') : b' = b := by
  cases does with
  | noNumber | transactions => rfl

theorem Does.of_listAccounts {terms : BookTerms} {stamp : Stamp} {b' : Book}
    {result : Except Failure Answer} (does : Does terms stamp b (.listAccounts owner) result b')
    (some : (b.shelf owner).accounts ≠ []) : b' = b := by
  cases does with
  | noNumber | accounts => rfl
  | provisioned free bare => exact absurd bare some

theorem run_listAccounts_bare (terms : BookTerms) (bare : (b.shelf owner).accounts = [])
    (s : Supply) :
    let o := b.run terms (.listAccounts owner) s
    (∃ a, o.result = .ok (.accounts [a]) ∧ (o.state.1.shelf owner).accounts = [a]) ∨
      o.result = .error noFreeNumber ∧
        (s.stamp.2.findNumber b.isTaken terms.attempts).1 = none := by
  simp only [run, bare, List.isEmpty_nil, if_true]
  rcases s.stamp.2.findNumber b.isTaken terms.attempts with ⟨_ | number, s'⟩
  · exact .inr ⟨rfl, rfl⟩
  · exact .inl ⟨_, rfl, by simp [bare]⟩

end Book

theorem Rows.Does.of_listing {stamp : Stamp} {r r' : Rows} {op : Operation} {answer : Answer}
    (does : Rows.Does stamp r op answer r')
    (lists : op.method = .listAccounts ∨ op.method = .listTransactions) : r' = r := by
  cases does with
  | accounts | transactions | payees => rfl
  | opened | openedEmpty | moved | saved | cleared => simp [Operation.method] at lists

theorem Rows.transactionsOf_reverse {r : Rows} {now : Int} (owner : Uuid) (account : Option Uuid)
    (order : InOrder (·.createdAt.micros) now r.transactions) :
    (r.transactionsOf owner account).map (·.toTransaction) =
      ((r.of owner).transactions.map (·.toTransaction)).reverse.filter
        fun t => account.all (t.account == ·) := by
  have kept :
      (r.transactions.filter fun row => row.owner == owner && account.all (row.account == ·)) =
        (r.of owner).transactions.filter fun row => account.all (row.account == ·) := by
    simp [Rows.of, List.filter_filter, Bool.and_comm]
  rw [transactionsOf, (order.filter _).mergeSort_reverse, kept, ← List.map_reverse,
    List.filter_map, ← List.filter_reverse]
  rfl

namespace World
variable {terms : Terms} {w : World} {db : Database} {owner id : Uuid}

/-! ## Transactions -/

theorem InTime.transactions_order (h : w.InTime) (owner : Uuid) :
    (w.transactions owner).Pairwise (·.createdAt.micros < ·.createdAt.micros) := by
  unfold World.transactions
  split_ifs
  · exact List.pairwise_map.2 (h.rows.filter _).sorted
  · exact (h.shelves owner).sorted

theorem Regular.account_known (h : w.Regular) {t : Transaction} (mem : t ∈ w.transactions owner) :
    ∃ a ∈ w.accounts owner, a.id = t.account := by
  unfold World.transactions at mem
  unfold World.accounts
  split_ifs at mem ⊢
  · obtain ⟨row, hrow, rfl⟩ := List.mem_map.1 mem
    rw [Rows.of, List.mem_filter, beq_iff_eq] at hrow
    obtain ⟨answers, tallied⟩ := h.dated.rows_tallied
    obtain ⟨a, ha, same, own⟩ := tallied.known row hrow.1
    exact ⟨a.toAccount, List.mem_map_of_mem (Rows.mem_accountsOf.2 ⟨ha, own.trans hrow.2⟩), same⟩
  · exact List.mem_map.1 ((h.dated.book.shelves owner).known t mem)

theorem perform_listTransactions (terms : Terms) (h : w.Regular) (inTime : w.InTime)
    {account : Option Uuid} (known : ∀ id ∈ account, ∃ a ∈ w.accounts owner, a.id = id) :
    (w.perform terms (.listTransactions owner account)).result = .ok (.transactions
      ((w.transactions owner).reverse.filter fun t => account.all (t.account == ·))) := by
  rcases h.cases with memory | ⟨db, healthy⟩
  · have checked : (Operation.listTransactions owner account).Checked := trivial
    obtain ⟨s, -, result, -⟩ := serve_inMemory terms memory checked
    rw [memory.accounts] at known
    rw [memory.transactions]
    exact result.trans (surface_eq_ok.2 (Book.listTransactions_known known))
  · have order := inTime.rows
    rw [rows_of_durable healthy.durable] at order
    rw [healthy.accounts] at known
    rw [healthy.transactions, ← Rows.transactionsOf_reverse owner account order]
    refine healthy.listTransactions_known terms fun id same => ?_
    obtain ⟨a, mem, has⟩ := known id same
    obtain ⟨row, hrow, own, rfl⟩ := mem_accountsOf mem
    exact ⟨row, hrow, has, own⟩

theorem perform_listTransactions_unknown (terms : Terms) (h : w.Regular)
    (unknown : ∀ a ∈ w.accounts owner, a.id ≠ id) :
    (w.perform terms (.listTransactions owner (some id))).result =
      refuse (.accountNotFound id) := by
  rcases h.cases with memory | ⟨db, healthy⟩
  · have checked : (Operation.listTransactions owner (some id)).Checked := trivial
    obtain ⟨s, -, result, -⟩ := serve_inMemory terms memory checked
    rw [memory.accounts] at unknown
    exact result.trans (surface_eq_refused.2 (Book.listTransactions_unknown unknown))
  · rw [healthy.accounts] at unknown
    refine healthy.listTransactions_unknown terms fun row mem ⟨has, own⟩ => ?_
    exact unknown row.toAccount (List.mem_map_of_mem (Rows.mem_accountsOf.2 ⟨mem, own⟩)) has

theorem perform_listTransactions_kept (terms : Terms) (w : World) (owner : Uuid)
    (account : Option Uuid) :
    let w' := (w.perform terms (.listTransactions owner account)).state
    w'.book = w.book ∧ w'.rows = w.rows := by
  cases perform_change terms (.listTransactions owner account) w with
  | failed answered book rows => exact ⟨book, rows⟩
  | database valid answered before after does book =>
    cases valid
    exact ⟨book, does.of_listing (.inr rfl)⟩
  | memory valid answered before after does rows =>
    cases valid
    exact ⟨does.of_listTransactions, rows⟩

theorem perform_listTransactions_congr {w' : World} (h : w.Regular) (inTime : w.InTime)
    (h' : w'.Regular) (inTime' : w'.InTime) (accounts : w'.accounts owner = w.accounts owner)
    (transactions : w'.transactions owner = w.transactions owner) (account : Option Uuid) :
    (w'.perform terms (.listTransactions owner account)).result =
      (w.perform terms (.listTransactions owner account)).result := by
  by_cases known : ∀ id ∈ account, ∃ a ∈ w.accounts owner, a.id = id
  · rw [perform_listTransactions terms h inTime known,
      perform_listTransactions terms h' inTime' (by rwa [accounts]), transactions]
  · obtain ⟨id, named, unknown⟩ : ∃ id ∈ account, ∀ a ∈ w.accounts owner, a.id ≠ id := by
      simpa using known
    obtain rfl : account = some id := named
    rw [perform_listTransactions_unknown terms h unknown,
      perform_listTransactions_unknown terms h' (by rwa [accounts])]

/-! ## Accounts -/

theorem Created.order (h : w.Created) (owner : Uuid) :
    (w.accounts owner).Pairwise (·.createdAt.micros < ·.createdAt.micros) := by
  unfold World.accounts
  split_ifs
  · have rows := h.rows.filter (·.owner == owner)
    rw [Rows.accountsOf, rows.mergeSort]
    exact List.pairwise_map.2 rows.sorted
  · exact (h.shelves owner).sorted

theorem perform_listAccounts_kept (h : w.Regular)
    (some : w.usesDatabase ∨ w.accounts owner ≠ []) :
    let w' := (w.perform terms (.listAccounts owner)).state
    w'.book = w.book ∧ w'.rows = w.rows := by
  have rows : (w.perform terms (.listAccounts owner)).state.rows = w.rows := by
    cases perform_change terms (.listAccounts owner) w with
    | failed answered book rows | memory valid answered before after does rows => exact rows
    | database valid answered before after does book =>
      cases valid
      exact does.of_listing (.inl rfl)
  refine ⟨?_, rows⟩
  have checked : (Operation.listAccounts owner).Checked := trivial
  change (w.serve terms (.listAccounts owner)).state.book = w.book
  rcases h.cases with memory | ⟨db, healthy⟩
  · rw [memory.usesDatabase, memory.accounts] at some
    obtain ⟨s, -, -, state⟩ := serve_inMemory terms memory checked
    rw [state]
    have does : Book.Does terms.forBook s.stamp.1 w.book (.listAccounts owner) _ _ :=
      Book.run_does checked
    exact does.of_listAccounts (by simpa using some)
  · have numeric := h.numeric healthy
    obtain ⟨_, _, -, -, -, state, -⟩ := serve_repaired healthy numeric checked
      (not_runsOut healthy numeric checked Method.noConfusion)
    rw [state]

theorem perform_listAccounts_bare (h : w.Regular) (memory : w.usesDatabase = false)
    (bare : w.accounts owner = []) :
    let served := w.perform terms (.listAccounts owner)
    (∃ a, served.result = .ok (.accounts [a]) ∧ served.state.accounts owner = [a]) ∨
      served.result = .error (.unavailable (.noStore .listAccounts)) ∧
        ∃ s, w.supply.Later s ∧ (s.findNumber w.book.isTaken terms.attempts).1 = none := by
  intro served
  have same : served.state.usesDatabase = false := (perform_usesDatabase ..).trans memory
  rcases h.cases with inMemory | ⟨db, healthy⟩
  · have checked : (Operation.listAccounts owner).Checked := trivial
    obtain ⟨s, later, result, state⟩ := serve_inMemory terms inMemory checked
    change served.result = _ at result
    change served.state = _ at state
    have shelf : served.state.accounts owner = (served.state.book.shelf owner).accounts := by
      rw [accounts, same]
      rfl
    rw [inMemory.accounts] at bare
    rw [shelf, state, result]
    rcases Book.run_listAccounts_bare terms.forBook bare s with ⟨a, opened, only⟩ | ⟨out, none⟩
    · exact .inl ⟨a, surface_eq_ok.2 opened, only⟩
    · rw [out]
      exact .inr ⟨rfl, _, later.trans s.later_stamp, none⟩
  · rw [healthy.usesDatabase] at memory
    cases memory

theorem perform_listAccounts (h : w.Regular) {answer : Answer}
    (listed : (w.perform terms (.listAccounts owner)).result = .ok answer) :
    let w' := (w.perform terms (.listAccounts owner)).state
    answer = .accounts (w'.accounts owner) ∧ (w'.usesDatabase ∨ w'.accounts owner ≠ []) := by
  intro w'
  have uses : w'.usesDatabase = w.usesDatabase := perform_usesDatabase ..
  by_cases some : w.usesDatabase ∨ w.accounts owner ≠ []
  · obtain ⟨accounts, -⟩ := records_same uses (perform_listAccounts_kept h some) owner
    rw [accounts, uses]
    exact ⟨(Except.ok.inj ((listAccounts_shown h some).symm.trans listed)).symm, some⟩
  · rw [not_or, not_not, Bool.not_eq_true] at some
    rcases perform_listAccounts_bare h some.1 some.2 with ⟨a, opened, only⟩ | ⟨failed, -⟩
    · rw [only]
      exact ⟨(Except.ok.inj (opened.symm.trans listed)).symm, .inr (List.cons_ne_nil a [])⟩
    · cases failed.symm.trans listed

/-! ## What an owner can rely on -/

/-- The records of an owner, told from the answers so far, and what listings show of them. All
answers of the next call count, too, unless the database runs out of account numbers, so that an
account is opened in memory. -/
structure Listings (terms : Terms) (owner : Uuid) (answers : List Answer) (w : World) : Prop where
  heard : ∀ call : Call, call.owner = owner → ∀ answer, (w.perform terms call).result = .ok answer →
    w.answered? terms owner call = some answer ∨
      ∃ op, call.operation terms = .ok op ∧ op.method = .createAccount ∧ w.usesDatabase ∧
        w.RunsOut terms op
  recorded :
    List.Forall₂ (Answer.Tells w.usesDatabase) (answers.filter (·.records)) (w.transactions owner)
  all : (w.perform terms (.listTransactions owner none)).result =
    .ok (.transactions (w.transactions owner).reverse)
  newest : (w.transactions owner).reverse.Pairwise (·.createdAt.micros > ·.createdAt.micros)
  placed : ∀ t ∈ w.transactions owner, ∃! a, a ∈ w.accounts owner ∧ a.id = t.account
  unknown : ∀ id, (w.perform terms (.listTransactions owner (some id))).result =
    refuse (.accountNotFound id) ↔ ∀ a ∈ w.accounts owner, a.id ≠ id
  filtered : ∀ a ∈ w.accounts owner,
    (w.perform terms (.listTransactions owner (some a.id))).result =
      .ok (.transactions ((w.transactions owner).reverse.filter (·.account = a.id)))
  opened : (w.accounts owner).map (·.particulars) = (openings answers).map (·.particulars)
  created : (w.accounts owner).Pairwise (·.createdAt.micros < ·.createdAt.micros)
  accounts : w.usesDatabase ∨ w.accounts owner ≠ [] →
    (w.perform terms (.listAccounts owner)).result = .ok (.accounts (w.accounts owner))
  bare : w.usesDatabase = false → w.accounts owner = [] →
    let served := w.perform terms (.listAccounts owner)
    (∃ a, served.result = .ok (.accounts [a]) ∧ served.state.accounts owner = [a]) ∨
      served.result = .error (.unavailable (.noStore .listAccounts)) ∧
        ∃ s, w.supply.Later s ∧ (s.findNumber w.book.isTaken terms.attempts).1 = none
  repeated : ∀ call : Call, call.Lists owner → ∀ answer,
    (w.perform terms call).result = .ok answer →
      let w' := (w.perform terms call).state
      (w'.perform terms call).result = .ok answer ∧
        (w'.perform terms call).state.book = w'.book ∧ (w'.perform terms call).state.rows = w'.rows

theorem Regular.repeated (h : w.Regular) (inTime : w.InTime) {call : Call}
    (lists : call.Lists owner) {answer : Answer}
    (listed : (w.perform terms call).result = .ok answer) :
    let w' := (w.perform terms call).state
    (w'.perform terms call).result = .ok answer ∧
      (w'.perform terms call).state.book = w'.book ∧
      (w'.perform terms call).state.rows = w'.rows := by
  intro w'
  have after : w'.Regular := perform_regular terms call w h
  have uses : w'.usesDatabase = w.usesDatabase := perform_usesDatabase terms call w
  cases call with
  | createAccount | applyTransaction | makePayment | listPayees | createPayee | deletePayees =>
    exact lists.elim
  | listTransactions holder account =>
    have kept := perform_listTransactions_kept terms w holder account
    obtain ⟨accounts, transactions⟩ := records_same uses kept holder
    have inTime' := perform_inTime terms (.listTransactions holder account) h.dated inTime
    refine ⟨?_, perform_listTransactions_kept terms w' holder account⟩
    rw [perform_listTransactions_congr h inTime after inTime' accounts transactions, listed]
  | listAccounts holder =>
    obtain ⟨rfl, some⟩ := perform_listAccounts h listed
    exact ⟨listAccounts_shown after some, perform_listAccounts_kept after some⟩

theorem Regular.listings (h : w.Regular) (created : w.Created) (terms : Terms)
    {answers : List Answer}
    (told : Told w.usesDatabase answers (w.accounts owner) (w.transactions owner)) :
    Listings terms owner answers w := by
  have filtered (a : Account) (mem : a ∈ w.accounts owner) :
      (w.perform terms (.listTransactions owner (some a.id))).result =
        .ok (.transactions ((w.transactions owner).reverse.filter (·.account = a.id))) := by
    have known : ∀ id ∈ some a.id, ∃ a ∈ w.accounts owner, a.id = id := by
      rintro _ ⟨⟩
      exact ⟨a, mem, rfl⟩
    exact perform_listTransactions terms h created.inTime known
  refine ⟨fun call own answer => perform_heard h own, told.transactions, ?all, ?newest, ?placed,
    ?unknown, filtered, told.accounts, created.order owner, listAccounts_shown h,
    perform_listAccounts_bare h, fun call lists answer => h.repeated created.inTime lists⟩
  case all =>
    have known : ∀ id ∈ (none : Option Uuid), ∃ a ∈ w.accounts owner, a.id = id := by simp
    simpa using perform_listTransactions terms h created.inTime known
  case newest => exact List.pairwise_reverse.2 (created.inTime.transactions_order owner)
  case placed =>
    intro t mem
    obtain ⟨a, ha, same⟩ := h.account_known mem
    exact ⟨a, ⟨ha, same⟩, fun b ⟨hb, same'⟩ => h.one hb ha (same'.trans same.symm)⟩
  case unknown =>
    refine fun id => ⟨fun refused a mem same => ?_, perform_listTransactions_unknown terms h⟩
    cases (filtered a mem).symm.trans (same ▸ refused)

/-- After any calls of any owners on new stores, in memory or in the database, with no failure
waiting and a clock that never gives a moment twice. The transactions of an owner are listed newest
first, in reverse to the answers that told of them, each of them once; each is on one of the
accounts that are listed, and listing this account shows it with the others on it. The accounts are
listed in the order in which they were opened. A listing that is repeated answers the same, and
changes nothing. -/
theorem listings_complete (terms : Terms) {start : World} (empty : start.book = .empty)
    (bare : start.rows = ⟨[], [], []⟩) (faultFree : start.FaultFree)
    (rising : start.supply.clock.Rising) (calls : List Call) (owner : Uuid) :
    Listings terms owner (answered terms owner calls start) (run terms calls start).2 := by
  have regular : start.Regular := regular_empty empty bare faultFree
  have created : start.Created := by
    refine ⟨⟨rising, fun owner => ?_, ?_⟩, fun owner => ?_, ?_⟩
    · rw [empty]
      exact .nil _ _
    · rw [bare]
      exact .nil _ _
    · rw [empty]
      exact .nil _ _
    · rw [bare]
      exact .nil _ _
  have told : Told start.usesDatabase [] (start.accounts owner) (start.transactions owner) := by
    have none : start.accounts owner = [] ∧ start.transactions owner = [] := by
      simp [accounts, transactions, empty, bare, Book.empty, Shelf.empty, Rows.accountsOf, Rows.of]
    rw [none.1, none.2]
    exact .nil _
  obtain ⟨regular', created'⟩ := run_created calls regular created
  exact regular'.listings created' terms (run_told calls regular created told)

def savingCalls : List Call :=
  [.listAccounts ⟨1⟩,
   .createAccount ⟨1⟩ (some "Savings") none (some (some (.ofCents 50000))),
   .createAccount ⟨2⟩ none none (some (some (.ofCents 700))),
   .applyTransaction ⟨1⟩ (Supply.issuedId 0) (some (.ofCents 2500)) (some "credit") none none]

theorem listings_complete_savings :
    let w := (run .standard savingCalls memoryService).2
    let answers := answered .standard ⟨1⟩ savingCalls memoryService
    answers.length = 3 ∧ (answers.filter (·.records)).length = 2 ∧
      (w.accounts ⟨1⟩).map (·.label) = [some "Checking", some "Savings"] ∧
      (w.transactions ⟨1⟩).reverse.map (fun t => (t.account, t.amount)) =
        [(Supply.issuedId 0, .ofCents 2500), (Supply.issuedId 2, .ofCents 50000)] ∧
      Listings .standard ⟨1⟩ answers w := by
  intro w answers
  have listings : Listings .standard ⟨1⟩ answers w :=
    listings_complete .standard rfl rfl ⟨rfl, .inl rfl⟩ (Clock.rising_ofNat 0) savingCalls ⟨1⟩
  exact ⟨by decide +kernel, by decide +kernel, by decide +kernel, by decide +kernel, listings⟩

end World

end Passbook
